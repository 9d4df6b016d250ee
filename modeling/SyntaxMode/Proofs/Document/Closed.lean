import SyntaxMode.Proofs.Nesting.Kinds

/-!
# Closed contexts

Where the brackets of a document are balanced, every bracket that opens opens a context, but the
one that closes it may meet a context of another kind: a word that opens an arm of a `switch` turns
the context around it into an arm, and the next line that begins there turns it into a brace block.
A pair of brackets is stuck if that leaves it with a context that it cannot close. Reading nested
marks, of which no pair is stuck, leaves the open contexts as they were, but for what the marks
that stand directly in the innermost one make of it (`Nested.foldl_follow`); a pair that is stuck
leaves more contexts open than there were (`Nested.length_lt`). So all contexts close if and only
if no pair is stuck (`depth_eq_zero_iff`).
-/

namespace SyntaxMode

/-- Whether what stands between the brackets of a pair keeps it from closing its context: a word
that opens an arm stands directly inside, and the pair is not one of braces or no line begins
directly inside behind the last such word. -/
def Stuck (delimiter : Delimiter) (inside : List Mark) : Prop :=
  ∃ front word behind, directly 0 inside = front ++ .lexeme word :: behind ∧
    word.effect? = some .arm ∧ (∀ mark ∈ behind, mark.effect? ≠ some .arm) ∧
    (delimiter = .brace → .line ∉ behind)

/-! ## The innermost context -/

section
variable {marks : List Mark}

/-- Where no arm opens, a block stays as it is. -/
theorem foldl_turn_block (h : ∀ mark ∈ marks, mark.effect? ≠ some .arm) (delimiter : Delimiter) :
    marks.foldl Context.Kind.turn (.block delimiter) = .block delimiter := by
  induction marks with
  | nil => rfl
  | cons mark marks ih =>
    have hmark : (Context.Kind.block delimiter).turn mark = .block delimiter := by
      rw [Context.Kind.turn, if_neg (h mark List.mem_cons_self)]
      exact ite_self _
    rw [List.foldl_cons, hmark]
    exact ih fun mark hmark => h mark (List.mem_cons_of_mem _ hmark)

/-- Where no further arm opens, an arm ends with the first line that begins. -/
theorem foldl_turn_arm (h : ∀ mark ∈ marks, mark.effect? ≠ some .arm) :
    marks.foldl Context.Kind.turn .arm = if .line ∈ marks then .block .brace else .arm := by
  induction marks with
  | nil => rfl
  | cons mark marks ih =>
    have hrest : ∀ mark ∈ marks, mark.effect? ≠ some .arm :=
      fun mark hmark => h mark (List.mem_cons_of_mem _ hmark)
    rw [List.foldl_cons, Context.Kind.turn]
    by_cases hline : mark = .line
    · rw [if_pos hline, if_pos (hline ▸ List.mem_cons_self)]
      exact foldl_turn_block hrest .brace
    · rw [if_neg hline, if_neg (h mark List.mem_cons_self), ih hrest]
      simp [Ne.symm hline]

/-- Of the words that open an arm one is the last. -/
theorem exists_last_arm (h : ∃ mark ∈ marks, mark.effect? = some .arm) :
    ∃ front word behind, marks = front ++ .lexeme word :: behind ∧ word.effect? = some .arm ∧
      ∀ mark ∈ behind, mark.effect? ≠ some .arm := by
  induction marks with
  | nil =>
    obtain ⟨mark, hmark, -⟩ := h
    cases hmark
  | cons first marks ih =>
    by_cases hrest : ∃ mark ∈ marks, mark.effect? = some .arm
    · obtain ⟨front, word, behind, rfl, hword⟩ := ih hrest
      exact ⟨first :: front, word, behind, rfl, hword⟩
    · obtain ⟨mark, hmark, heffect⟩ := h
      rcases List.mem_cons.1 hmark with rfl | hmark
      · cases mark with
        | line => cases heffect
        | lexeme word =>
          exact ⟨[], word, marks, rfl, heffect, fun mark hmark harm => hrest ⟨mark, hmark, harm⟩⟩
      · exact absurd ⟨mark, hmark, heffect⟩ hrest

/-- A pair of brackets closes its context unless it is stuck. -/
theorem foldl_turn_eq_iff (delimiter : Delimiter) (inside : List Mark) :
    (directly 0 inside).foldl Context.Kind.turn (.block delimiter) = .block delimiter ↔
      ¬ Stuck delimiter inside := by
  have hlast {front behind : List Mark} {word : Fragment} (hword : word.effect? = some .arm)
      (hbehind : ∀ mark ∈ behind, mark.effect? ≠ some .arm) :
      (front ++ .lexeme word :: behind).foldl Context.Kind.turn (.block delimiter) =
        if .line ∈ behind then .block .brace else .arm := by
    have hturn (kind : Context.Kind) : kind.turn (.lexeme word) = .arm := by
      rw [Context.Kind.turn, if_neg Mark.noConfusion]
      exact if_pos hword
    rw [List.foldl_append, List.foldl_cons, hturn, foldl_turn_arm hbehind]
  constructor
  · rintro hblock ⟨front, word, behind, hinside, hword, hbehind, hstuck⟩
    rw [hinside, hlast hword hbehind] at hblock
    split at hblock
    next hline =>
      cases hblock
      exact hstuck rfl hline
    next => cases hblock
  · intro hstuck
    by_cases harm : ∃ mark ∈ directly 0 inside, mark.effect? = some .arm
    · obtain ⟨front, word, behind, hinside, hword, hbehind⟩ := exists_last_arm harm
      have hline : delimiter = .brace ∧ .line ∈ behind := by
        by_contra hline
        exact hstuck ⟨front, word, behind, hinside, hword, hbehind,
          fun hbrace hmem => hline ⟨hbrace, hmem⟩⟩
      rw [hinside, hlast hword hbehind, if_pos hline.2, hline.1]
    · exact foldl_turn_block (fun mark hmark heffect => harm ⟨mark, hmark, heffect⟩) delimiter

/-! ## Nested marks -/

/-- A bracket that closes ends at most one context. -/
theorem Context.Kind.length_close (delimiter : Delimiter) (kinds : List Kind) :
    kinds.length ≤ (close delimiter kinds).length + 1 := by
  cases kinds with
  | nil => exact Nat.zero_le _
  | cons inner outer =>
    rw [close]
    split
    · exact Nat.le_refl _
    · exact Nat.le_succ _

/-- Reading a pair of brackets and what follows it. -/
theorem foldl_follow_pair {opener closer : Fragment} {delimiter : Delimiter}
    (hopener : opener.effect? = some (.opening delimiter))
    (hcloser : closer.effect? = some (.closing delimiter)) (inside rest : List Mark)
    (kinds : List Context.Kind) :
    (.lexeme opener :: (inside ++ .lexeme closer :: rest)).foldl Mark.follow kinds =
      rest.foldl Mark.follow
        (Context.Kind.close delimiter (inside.foldl Mark.follow (.block delimiter :: kinds))) := by
  have hopen : (Mark.lexeme opener).effect? = some (.opening delimiter) := hopener
  have hclose : (Mark.lexeme closer).effect? = some (.closing delimiter) := hcloser
  rw [List.foldl_cons, Mark.follow_of_opening kinds hopen, List.foldl_append, List.foldl_cons,
    Mark.follow_of_closing _ hclose]

/-- Reading nested marks closes no context that was open before. -/
theorem Nested.length_le (h : Nested marks) (kinds : List Context.Kind) :
    kinds.length ≤ (marks.foldl Mark.follow kinds).length := by
  induction h generalizing kinds with
  | nil => exact Nat.le_refl _
  | cons hmark _ ih =>
    rw [List.foldl_cons, Mark.follow_of_effect kinds hmark]
    exact Nat.le_trans (by simp) (ih _)
  | @pair opener closer delimiter inside rest hopener hcloser _ _ ihinside ihrest =>
    have hinside := ihinside (.block delimiter :: kinds)
    have hclose := Context.Kind.length_close delimiter
      (inside.foldl Mark.follow (.block delimiter :: kinds))
    rw [foldl_follow_pair hopener hcloser]
    refine Nat.le_trans ?_ (ihrest _)
    rw [List.length_cons] at hinside
    omega

/-- **Nested marks without stuck pairs.** All contexts that they open are closed, and the innermost
one that was open before is what the marks that stand directly in it make of it. -/
theorem Nested.foldl_follow (h : Nested marks)
    (hpairs : ∀ delimiter inside, HasPair marks delimiter inside → ¬ Stuck delimiter inside)
    (kinds : List Context.Kind) :
    marks.foldl Mark.follow kinds =
      kinds.modifyHead fun kind => (directly 0 marks).foldl Context.Kind.turn kind := by
  induction h generalizing kinds with
  | nil => cases kinds <;> rfl
  | cons hmark _ ih =>
    have hrest := ih fun delimiter inside hpair =>
      hpairs delimiter inside ((hasPair_cons_iff hmark).2 hpair)
    rw [List.foldl_cons, Mark.follow_of_effect kinds hmark, hrest, directly_cons hmark, if_pos rfl,
      List.modifyHead_modifyHead]
    rfl
  | @pair opener closer delimiter inside rest hopener hcloser hinside _ ihinside ihrest =>
    have hpairs' := fun delimiter' inside' hpair =>
      hpairs delimiter' inside' ((hasPair_pair_iff hopener hcloser hinside).2 hpair)
    have hblock := (foldl_turn_eq_iff delimiter inside).2 (hpairs' _ _ (.inl ⟨rfl, rfl⟩))
    have hinner := ihinside (fun _ _ hpair => hpairs' _ _ (.inr (.inl hpair)))
      (.block delimiter :: kinds)
    rw [List.modifyHead_cons, hblock] at hinner
    rw [foldl_follow_pair hopener hcloser, directly_pair hopener hcloser hinside, hinner,
      Context.Kind.close, if_pos rfl]
    exact ihrest (fun _ _ hpair => hpairs' _ _ (.inr (.inr hpair))) kinds

/-- **Nested marks with a stuck pair.** More contexts are open behind them than before. -/
theorem Nested.length_lt (h : Nested marks)
    (hstuck : ∃ delimiter inside, HasPair marks delimiter inside ∧ Stuck delimiter inside)
    (kinds : List Context.Kind) : kinds.length < (marks.foldl Mark.follow kinds).length := by
  induction h generalizing kinds with
  | nil =>
    obtain ⟨delimiter, inside, hpair, -⟩ := hstuck
    exact absurd hpair (not_hasPair_nil delimiter inside)
  | cons hmark _ ih =>
    obtain ⟨delimiter, inside, hpair, hstuck⟩ := hstuck
    rw [List.foldl_cons, Mark.follow_of_effect kinds hmark]
    refine Nat.lt_of_le_of_lt ?_ (ih ⟨_, _, (hasPair_cons_iff hmark).1 hpair, hstuck⟩ _)
    rw [List.length_modifyHead]
  | @pair opener closer delimiter inside rest hopener hcloser hinside hrest ihinside ihrest =>
    rw [foldl_follow_pair hopener hcloser]
    have hclose := Context.Kind.length_close delimiter
      (inside.foldl Mark.follow (.block delimiter :: kinds))
    have hle := hrest.length_le
      (Context.Kind.close delimiter (inside.foldl Mark.follow (.block delimiter :: kinds)))
    by_cases hinner : ∃ delimiter' inside', HasPair inside delimiter' inside' ∧
        Stuck delimiter' inside'
    · have hlt := ihinside hinner (.block delimiter :: kinds)
      rw [List.length_cons] at hlt
      omega
    · obtain ⟨delimiter', inside', hpair, hstuck⟩ := hstuck
      rcases (hasPair_pair_iff hopener hcloser hinside).1 hpair with ⟨rfl, rfl⟩ | hpair | hpair
      · -- The context of the pair is there, but its kind is another one.
        have hkind : (directly 0 inside').foldl Context.Kind.turn (.block delimiter') ≠
            .block delimiter' := fun heq => (foldl_turn_eq_iff delimiter' inside').1 heq hstuck
        have hopened := hinside.foldl_follow
          (fun delimiter inside hpair hstuck => hinner ⟨delimiter, inside, hpair, hstuck⟩)
          (.block delimiter' :: kinds)
        rw [List.modifyHead_cons] at hopened
        rw [hopened, Context.Kind.close, if_neg hkind, List.length_cons] at hle
        rw [hopened, Context.Kind.close, if_neg hkind]
        omega
      · exact absurd ⟨delimiter', inside', hpair, hstuck⟩ hinner
      · have hinside := hinside.length_le (.block delimiter :: kinds)
        have hlt := ihrest ⟨delimiter', inside', hpair, hstuck⟩
          (Context.Kind.close delimiter (inside.foldl Mark.follow (.block delimiter :: kinds)))
        rw [List.length_cons] at hinside
        omega

end

/-! ## Documents -/

/-- The number of open contexts behind a document. -/
theorem Document.depth_stateAt_length (config : Config) (text : Text) :
    ((ofText config text).stateAt (ofText config text).lines.length).depth =
      ((ofText config text).marks.foldl Mark.follow []).length := by
  have hcurrent := current_ofText config text
  have hstate := hcurrent.stateAt (Nat.le_refl _)
  have hkinds := kinds_stateBehind config (State.initial config) text.lines
  have htexts : (ofText config text).lineTexts = text.lines := lineTexts_ofLines config text.lines
  have hall : (ofText config text).lineTexts.take (ofText config text).lines.length =
      text.lines := by
    rw [← htexts]
    exact List.take_of_length_le (Nat.le_of_eq (List.length_map ..))
  rw [hall] at hstate
  rw [hstate, State.depth, Nesting.depth, ← List.length_map (f := Context.kind)]
  exact congrArg List.length hkinds

/-- **Balanced brackets close every context, unless a pair is stuck.** Behind a document whose
brackets are balanced, all contexts are closed if and only if no pair of its brackets is stuck. So
they are if no word in it opens an arm. -/
theorem Document.depth_eq_zero_iff (config : Config) (text : Text)
    (h : Balanced ((ofText config text).lines.flatMap Line.lexemes)) :
    let document := ofText config text
    ((document.stateAt document.lines.length).depth = 0 ↔
        ∀ delimiter inside, HasPair document.marks delimiter inside → ¬ Stuck delimiter inside) ∧
      ((∀ fragment ∈ document.lines.flatMap Line.lexemes, fragment.effect? ≠ some .arm) →
        (document.stateAt document.lines.length).depth = 0) := by
  intro document
  have hnested : Nested document.marks := by
    refine nested_of_balanced ?_
    rw [lexemesIn_marks]
    exact h
  have hiff : (document.stateAt document.lines.length).depth = 0 ↔
      ∀ delimiter inside, HasPair document.marks delimiter inside → ¬ Stuck delimiter inside := by
    rw [depth_stateAt_length config text]
    constructor
    · intro hdepth delimiter inside hpair hstuck
      have hlt := hnested.length_lt ⟨delimiter, inside, hpair, hstuck⟩ []
      rw [hdepth] at hlt
      exact absurd hlt (Nat.lt_irrefl 0)
    · intro hpairs
      rw [hnested.foldl_follow hpairs]
      rfl
  refine ⟨hiff, fun harm => hiff.2 ?_⟩
  rintro delimiter inside ⟨before, opener, closer, after, hmarks, -⟩
    ⟨front, word, behind, hinside, hword, -⟩
  have hmem : .lexeme word ∈ inside := by
    refine mem_of_mem_directly 0 ?_
    rw [hinside]
    exact List.mem_append_right _ List.mem_cons_self
  have hmarks_mem : .lexeme word ∈ document.marks := by
    rw [hmarks]
    simp [hmem]
  have hlexeme : word ∈ document.lines.flatMap Line.lexemes := by
    rw [← lexemesIn_marks]
    exact List.mem_filterMap.2 ⟨.lexeme word, hmarks_mem, rfl⟩
  exact harm word hlexeme hword

/-- The theorem where the arm in a pair of braces ends with the line that the second of them
begins, and the parentheses behind that pair are stuck, because a word that opens an arm stands in
them. -/
theorem Document.depth_eq_zero_iff_parentheses :
    let document := ofText {} (Text.joinLines [['{'], "case 1: f(".toList, [')'], ['}'],
      "(case 2)".toList])
    let inside : List Mark :=
      [.lexeme ⟨"case".toList, some .keyword⟩, .lexeme ⟨"2".toList, some .number⟩]
    Balanced (document.lines.flatMap Line.lexemes) ∧ HasPair document.marks .paren inside ∧
      Stuck .paren inside ∧ (document.stateAt document.lines.length).depth ≠ 0 := by
  intro document inside
  have h : Balanced (document.lines.flatMap Line.lexemes) := by decide +kernel
  have hpair : HasPair document.marks .paren inside :=
    ⟨document.marks.take 13, ⟨"(".toList, none⟩, ⟨")".toList, none⟩, [], by decide +kernel, rfl,
      rfl, by decide⟩
  have hstuck : Stuck .paren inside :=
    ⟨[], ⟨"case".toList, some .keyword⟩, [.lexeme ⟨"2".toList, some .number⟩], by decide,
      by decide, by decide, nofun⟩
  refine ⟨h, hpair, hstuck, ?_⟩
  intro hdepth
  exact (depth_eq_zero_iff {} _ h).1.1 hdepth .paren inside hpair hstuck

end SyntaxMode
