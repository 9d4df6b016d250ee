import SyntaxMode.Proofs.Bracket.Balanced

/-!
# Pairs of brackets

A document is marked where a line that is not empty begins and where a lexeme stands, in the order
of reading. Marks whose brackets are balanced are nested (`nested_of_balanced`): they are made of
marks that are no brackets and of pairs of brackets around nested marks, which is what an induction
needs. A bracket has only one partner, so the pairs in nested marks are the pairs of their parts
(`hasPair_pair_iff`).
-/

namespace SyntaxMode

/-- What is met in a document in the order of reading. -/
inductive Mark where
  /-- The beginning of a line that is not empty. -/
  | line
  | lexeme (fragment : Fragment)
  deriving DecidableEq, Repr

namespace Mark

/-- The lexeme at a mark. -/
def lexeme? : Mark → Option Fragment
  | .line => none
  | .lexeme fragment => some fragment

/-- What the lexeme at a mark does to the contexts around it. -/
def effect? (mark : Mark) : Option Effect := mark.lexeme?.bind Fragment.effect?

end Mark

/-- The marks of a line. -/
def Line.marks (line : Line) : List Mark :=
  if line.text = [] then [] else .line :: line.lexemes.map .lexeme

/-- The marks of a document. -/
def Document.marks (document : Document) : List Mark := document.lines.flatMap Line.marks

/-- The lexemes among marks. -/
def lexemesIn (marks : List Mark) : List Fragment := marks.filterMap Mark.lexeme?

/-- Whether a pair of brackets among marks has the given ones between its brackets. -/
def HasPair (marks : List Mark) (delimiter : Delimiter) (inside : List Mark) : Prop :=
  ∃ before opener closer after,
    marks = before ++ .lexeme opener :: (inside ++ .lexeme closer :: after) ∧
      opener.effect? = some (.opening delimiter) ∧ closer.effect? = some (.closing delimiter) ∧
      Balanced (lexemesIn inside)

/-- The marks that are no brackets and stand inside none of the brackets among the marks, of which
some are already open. -/
def directly (depth : Nat) : List Mark → List Mark
  | [] => []
  | mark :: rest =>
    match mark.effect? with
    | some (.opening _) => directly (depth + 1) rest
    | some (.closing _) => directly (depth - 1) rest
    | _ => if depth = 0 then mark :: directly depth rest else directly depth rest

/-- Marks in which each bracket has a partner. -/
inductive Nested : List Mark → Prop where
  | nil : Nested []
  | cons {mark : Mark} {rest : List Mark} (hmark : mark.effect? = none ∨ mark.effect? = some .arm)
      (hrest : Nested rest) : Nested (mark :: rest)
  | pair {opener closer : Fragment} {delimiter : Delimiter} {inside rest : List Mark}
      (hopener : opener.effect? = some (.opening delimiter))
      (hcloser : closer.effect? = some (.closing delimiter)) (hinside : Nested inside)
      (hrest : Nested rest) :
      Nested (.lexeme opener :: (inside ++ .lexeme closer :: rest))

/-! ## Lexemes -/

@[simp] theorem lexemesIn_cons_line (rest : List Mark) :
    lexemesIn (.line :: rest) = lexemesIn rest := rfl

@[simp] theorem lexemesIn_cons_lexeme (fragment : Fragment) (rest : List Mark) :
    lexemesIn (.lexeme fragment :: rest) = fragment :: lexemesIn rest := rfl

@[simp] theorem lexemesIn_append (a b : List Mark) :
    lexemesIn (a ++ b) = lexemesIn a ++ lexemesIn b := List.filterMap_append

/-- A slice of an empty text is empty. -/
theorem Text.eq_nil_of_slice?_nil {start stop : Nat} {part : Text}
    (h : Text.slice? [] start stop = some part) : part = [] := by
  rw [slice?, Option.bind_eq_bind, Option.bind_eq_some_iff] at h
  obtain ⟨-, -, htails⟩ := h
  obtain ⟨tail, htail, hslices⟩ := Option.bind_eq_some_iff.1 htails
  obtain ⟨parts, hparts, hpart⟩ := Option.bind_eq_some_iff.1 hslices
  cases hpart
  have hnil : tail.1 ++ tail.2 = [] := (eq_append_of_splitAtByte? htail).1.symm
  have hparts := (eq_append_of_splitAtByte? hparts).1
  rw [(List.append_eq_nil_iff.1 hnil).2] at hparts
  exact (List.append_eq_nil_iff.1 hparts.symm).1

/-- An empty line has no lexemes. -/
theorem Line.lexemes_of_text_eq_nil {line : Line} (h : line.text = []) : line.lexemes = [] := by
  have hslice (start stop : Nat) : (Text.slice? [] start stop).getD [] = [] := by
    cases hpart : Text.slice? [] start stop with
    | none => rfl
    | some part => exact Text.eq_nil_of_slice?_nil hpart
  rw [lexemes, List.filter_eq_nil_iff, fragments, h]
  intro fragment hfragment
  obtain ⟨span, -, rfl⟩ := List.mem_map.1 hfragment
  rw [Fragment.isBlank, hslice]
  simp [Text.isAllBlank]

/-- The marks of a line hold its lexemes. -/
theorem lexemesIn_marks (line : Line) : lexemesIn line.marks = line.lexemes := by
  rw [Line.marks]
  split
  next hempty => exact (Line.lexemes_of_text_eq_nil hempty).symm
  next =>
    rw [lexemesIn_cons_line, lexemesIn, List.filterMap_map]
    exact List.filterMap_some

/-- The marks of a document hold the lexemes of its lines. -/
theorem Document.lexemesIn_marks (document : Document) :
    lexemesIn document.marks = document.lines.flatMap Line.lexemes := by
  rw [marks, lexemesIn, List.filterMap_flatMap]
  exact congrArg (document.lines.flatMap ·) (funext SyntaxMode.lexemesIn_marks)

/-- A mark that is no bracket leaves open what was open before it. -/
theorem unclosed?_lexemesIn_cons {mark : Mark} (h : mark.effect? = none ∨ mark.effect? = some .arm)
    (opened : List Delimiter) (rest : List Mark) :
    unclosed? opened (lexemesIn (mark :: rest)) = unclosed? opened (lexemesIn rest) := by
  cases mark with
  | line => rfl
  | lexeme fragment =>
    have heffect : fragment.effect? = none ∨ fragment.effect? = some .arm := h
    rw [lexemesIn_cons_lexeme, unclosed?_cons, Fragment.unclosed?]
    rcases heffect with heffect | heffect <;> rw [heffect] <;> rfl

/-! ## Nested marks -/

section
variable {opened next : List Delimiter} {delimiter : Delimiter} {fragment : Fragment}
  {marks : List Mark}

/-- A bracket that is open around marks and not behind them is closed by one of them. -/
theorem exists_closing (h : unclosed? (opened ++ [delimiter]) (lexemesIn marks) = some []) :
    ∃ inside closer rest, marks = inside ++ .lexeme closer :: rest ∧
      closer.effect? = some (.closing delimiter) ∧
      unclosed? opened (lexemesIn inside) = some [] ∧ Balanced (lexemesIn rest) := by
  induction marks generalizing opened with
  | nil => simp [lexemesIn, unclosed?] at h
  | cons mark marks ih =>
    cases mark with
    | line =>
      obtain ⟨inside, closer, rest, rfl, hcloser, hinside, hrest⟩ := ih h
      exact ⟨.line :: inside, closer, rest, rfl, hcloser, hinside, hrest⟩
    | lexeme fragment =>
      rw [lexemesIn_cons_lexeme, unclosed?_cons, Option.bind_eq_some_iff] at h
      obtain ⟨next, hfragment, hmarks⟩ := h
      rcases Fragment.unclosed?_around hfragment with ⟨inner, hinner, rfl⟩ | ⟨rfl, rfl, heffect⟩
      · obtain ⟨inside, closer, rest, rfl, hcloser, hinside, hrest⟩ := ih hmarks
        refine ⟨.lexeme fragment :: inside, closer, rest, rfl, hcloser, ?_, hrest⟩
        rw [lexemesIn_cons_lexeme, unclosed?_cons, hinner, Option.bind_some]
        exact hinside
      · exact ⟨[], fragment, marks, rfl, heffect, rfl, hmarks⟩

/-- **Balanced marks are nested.** -/
theorem nested_of_balanced (h : Balanced (lexemesIn marks)) : Nested marks := by
  induction hlength : marks.length using Nat.strongRecOn generalizing marks with
  | _ length ih =>
    cases marks with
    | nil => exact .nil
    | cons mark marks =>
      have hlt : marks.length < length := by
        rw [← hlength]
        exact Nat.lt_succ_self _
      have hcons (hmark : mark.effect? = none ∨ mark.effect? = some .arm) :
          Nested (mark :: marks) := by
        refine .cons hmark (ih _ hlt ?_ rfl)
        rwa [Balanced, unclosed?_lexemesIn_cons hmark] at h
      cases heffect : mark.effect? with
      | none => exact hcons (.inl heffect)
      | some effect =>
        cases mark with
        | line => cases heffect
        | lexeme fragment =>
          cases effect with
          | arm => exact hcons (.inr heffect)
          | closing delimiter =>
            have hcloses := Balanced.closes_head h
            rw [Fragment.closes, show fragment.effect? = _ from heffect] at hcloses
            cases hcloses
          | opening delimiter =>
            have hopened : unclosed? ([] ++ [delimiter]) (lexemesIn marks) = some [] := by
              rwa [Balanced, lexemesIn_cons_lexeme, unclosed?_cons, Fragment.unclosed?,
                show fragment.effect? = _ from heffect] at h
            obtain ⟨inside, closer, rest, rfl, hcloser, hinside, hrest⟩ := exists_closing hopened
            rw [List.length_append, List.length_cons] at hlt
            exact .pair heffect hcloser (ih inside.length (by omega) hinside rfl)
              (ih rest.length (by omega) hrest rfl)

/-! ## What stands directly inside -/

/-- A mark that is no bracket stands directly inside if no bracket is open around it. -/
theorem directly_cons {mark : Mark} (h : mark.effect? = none ∨ mark.effect? = some .arm)
    (depth : Nat) (rest : List Mark) :
    directly depth (mark :: rest) =
      if depth = 0 then mark :: directly depth rest else directly depth rest := by
  rw [directly]
  rcases h with h | h <;> rw [h]

/-- Behind a bracket that opens, one more is open around. -/
theorem directly_cons_opening {opener : Fragment} (h : opener.effect? = some (.opening delimiter))
    (depth : Nat) (rest : List Mark) :
    directly depth (.lexeme opener :: rest) = directly (depth + 1) rest := by
  rw [directly, show (Mark.lexeme opener).effect? = _ from h]

/-- Behind a bracket that closes, one less is open around. -/
theorem directly_cons_closing {closer : Fragment} (h : closer.effect? = some (.closing delimiter))
    (depth : Nat) (rest : List Mark) :
    directly (depth + 1) (.lexeme closer :: rest) = directly depth rest := by
  rw [directly, show (Mark.lexeme closer).effect? = _ from h]
  rfl

/-- What stands directly inside some marks is among them. -/
theorem mem_of_mem_directly (depth : Nat) {mark : Mark} (h : mark ∈ directly depth marks) :
    mark ∈ marks := by
  induction marks generalizing depth with
  | nil => cases h
  | cons first marks ih =>
    rw [directly] at h
    split at h
    · exact List.mem_cons_of_mem _ (ih _ h)
    · exact List.mem_cons_of_mem _ (ih _ h)
    · split at h
      · rcases List.mem_cons.1 h with rfl | h
        · exact List.mem_cons_self
        · exact List.mem_cons_of_mem _ (ih _ h)
      · exact List.mem_cons_of_mem _ (ih _ h)

/-- Nothing in nested marks stands directly inside a bracket that is around that bracket. -/
theorem Nested.directly_succ_append (h : Nested marks) (depth : Nat) (rest : List Mark) :
    directly (depth + 1) (marks ++ rest) = directly (depth + 1) rest := by
  induction h generalizing depth rest with
  | nil => rfl
  | cons hmark _ ih =>
    rw [List.cons_append, directly_cons hmark, if_neg (Nat.succ_ne_zero depth)]
    exact ih depth rest
  | pair hopener hcloser _ _ ihinside ihrest =>
    rw [List.cons_append, List.append_assoc, List.cons_append, directly_cons_opening hopener,
      ihinside, directly_cons_closing hcloser]
    exact ihrest depth rest

/-- Nothing inside a pair of brackets stands directly where the pair does. -/
theorem directly_pair {opener closer : Fragment} {inside : List Mark}
    (hopener : opener.effect? = some (.opening delimiter))
    (hcloser : closer.effect? = some (.closing delimiter)) (hinside : Nested inside)
    (rest : List Mark) :
    directly 0 (.lexeme opener :: (inside ++ .lexeme closer :: rest)) = directly 0 rest := by
  rw [directly_cons_opening hopener, hinside.directly_succ_append, directly_cons_closing hcloser]

/-! ## Pairs -/

/-- Nested marks have balanced lexemes. -/
theorem Nested.balanced (h : Nested marks) : Balanced (lexemesIn marks) := by
  induction h with
  | nil => exact balanced_nil
  | cons hmark _ ih =>
    rw [Balanced, unclosed?_lexemesIn_cons hmark]
    exact ih
  | @pair opener closer delimiter inside rest hopener hcloser _ _ ihinside ihrest =>
    have hclosing : closer.unclosed? [delimiter] = some [] := by
      rw [Fragment.unclosed?, hcloser]
      exact Effect.unclosed?_closing_eq_some_iff.2 rfl
    have hopening : opener.unclosed? [] = some [delimiter] := by
      rw [Fragment.unclosed?, hopener]
      rfl
    rw [lexemesIn_cons_lexeme, lexemesIn_append, lexemesIn_cons_lexeme, Balanced, unclosed?_cons,
      hopening, Option.bind_some, unclosed?_append, ihinside.unclosed?_eq, Option.bind_some,
      unclosed?_cons, hclosing, Option.bind_some]
    exact ihrest

/-- Without marks there is no pair. -/
theorem not_hasPair_nil (delimiter : Delimiter) (inside : List Mark) :
    ¬ HasPair [] delimiter inside := by
  rintro ⟨before, opener, closer, after, hmarks, -⟩
  simp at hmarks

/-- A mark that is no bracket adds no pair. -/
theorem hasPair_cons_iff {mark : Mark} (h : mark.effect? = none ∨ mark.effect? = some .arm)
    {inside : List Mark} : HasPair (mark :: marks) delimiter inside ↔
      HasPair marks delimiter inside := by
  constructor
  · rintro ⟨before, opener, closer, after, hmarks, hopener, hpair⟩
    cases before with
    | nil =>
      cases hmarks
      rcases h with h | h <;> exact absurd (h.symm.trans hopener) (by simp)
    | cons first before =>
      cases hmarks
      exact ⟨before, opener, closer, after, rfl, hopener, hpair⟩
  · rintro ⟨before, opener, closer, after, rfl, hpair⟩
    exact ⟨mark :: before, opener, closer, after, rfl, hpair⟩

/-- Balanced marks that go on behind others which are balanced do not go on with a bracket that
closes. -/
theorem tail_eq_nil_of_closing {closer : Fragment} {inside tail rest rest' : List Mark}
    (hcloser : closer.closes = true) (hinside : Balanced (lexemesIn inside))
    (happend : Balanced (lexemesIn (inside ++ tail)))
    (htail : .lexeme closer :: rest = tail ++ rest') : tail = [] := by
  cases tail with
  | nil => rfl
  | cons first tail =>
    cases htail
    rw [lexemesIn_append, lexemesIn_cons_lexeme] at happend
    exact absurd happend (hinside.not_balanced_append hcloser)

/-- **The pairs of nested marks.** Where nested marks begin with a pair of brackets, a pair among
them is that one, or it stands inside it, or behind it. -/
theorem hasPair_pair_iff {opener closer : Fragment} {delimiter' : Delimiter}
    {inside inside' rest : List Mark} (hopener : opener.effect? = some (.opening delimiter))
    (hcloser : closer.effect? = some (.closing delimiter)) (hinside : Nested inside) :
    HasPair (.lexeme opener :: (inside ++ .lexeme closer :: rest)) delimiter' inside' ↔
      (delimiter' = delimiter ∧ inside' = inside) ∨ HasPair inside delimiter' inside' ∨
        HasPair rest delimiter' inside' := by
  constructor
  · rintro ⟨before, opener', closer', after, hmarks, hopener', hcloser', hbalanced⟩
    have hcloses : closer.closes = true := Fragment.closes_iff.2 ⟨delimiter, hcloser⟩
    have hcloses' : closer'.closes = true := Fragment.closes_iff.2 ⟨delimiter', hcloser'⟩
    have hopens' : opener'.opens = true := Fragment.opens_iff.2 ⟨delimiter', hopener'⟩
    cases before with
    | nil =>
      -- The two pairs begin with the same bracket, so they end with the same one.
      obtain ⟨hfirst, hrest⟩ := List.cons.inj hmarks
      cases hfirst
      cases hopener.symm.trans hopener'
      refine .inl ⟨rfl, ?_⟩
      rcases List.append_eq_append_iff.1 hrest with ⟨tail, rfl, htail⟩ | ⟨tail, rfl, htail⟩
      · rw [tail_eq_nil_of_closing hcloses hinside.balanced hbalanced htail, List.append_nil]
      · rw [tail_eq_nil_of_closing hcloses' hbalanced hinside.balanced htail, List.append_nil]
    | cons first before =>
      obtain ⟨-, hmarks⟩ := List.cons.inj hmarks
      rcases List.append_eq_append_iff.1 hmarks with ⟨front, hbefore, hrest⟩ | ⟨tail, htail, hpair⟩
      · cases front with
        | nil =>
          cases hrest
          exact absurd (hcloser.symm.trans hopener') (by simp)
        | cons _ front =>
          cases hrest
          exact .inr (.inr ⟨front, opener', closer', after, rfl, hopener', hcloser', hbalanced⟩)
      · cases tail with
        | nil =>
          cases hpair
          exact absurd (hcloser.symm.trans hopener') (by simp)
        | cons _ tail =>
          -- The pair begins inside the first one, and what begins there ends there.
          obtain ⟨hfirst, hrest⟩ := List.cons.inj hpair
          cases hfirst
          have hinner := hinside.balanced
          rw [htail, lexemesIn_append, lexemesIn_cons_lexeme] at hinner
          have hends (rest : List Mark) : inside' ≠ tail ++ rest := by
            intro heq
            rw [heq, lexemesIn_append] at hbalanced
            exact hinner.not_balanced_of_opens hopens' hbalanced
          rcases List.append_eq_append_iff.1 hrest with ⟨behind, hbehind, hclosing⟩ |
            ⟨behind, hbehind, -⟩
          · cases behind with
            | nil => exact absurd (by rw [hbehind]; simp) (hends [])
            | cons _ behind =>
              cases hclosing
              refine .inr (.inl ⟨before, opener', closer', behind, ?_, hopener', hcloser',
                hbalanced⟩)
              rw [htail, hbehind]
          · exact absurd hbehind (hends behind)
  · rintro (⟨rfl, rfl⟩ | ⟨before, opener', closer', after, rfl, hpair⟩ |
      ⟨before, opener', closer', after, rfl, hpair⟩)
    · exact ⟨[], opener, closer, rest, rfl, hopener, hcloser, hinside.balanced⟩
    · refine ⟨.lexeme opener :: before, opener', closer', after ++ .lexeme closer :: rest, ?_,
        hpair⟩
      simp
    · refine ⟨.lexeme opener :: (inside ++ .lexeme closer :: before), opener', closer', after, ?_,
        hpair⟩
      simp

end

end SyntaxMode
