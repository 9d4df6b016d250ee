import SyntaxMode.Proofs.Fold.Matching
import SyntaxMode.Proofs.Nesting.Unclosed

/-!
# Folds and contexts

The search for a fold counts braces in the spans of a document, and the reader pairs brackets of
all kinds on a stack of contexts. Where each bracket that closes pairs with the innermost open one,
both find the same: braces match if all brackets between them do (`matched_iff_balanced`), because
with another kind of bracket still open the brace could not close. So a line folds up to the brace
that pops the context of its last brace that opens, if that is on a later line
(`fold_pops_context`).
-/

namespace SyntaxMode

namespace Reading

/-- The place where a reading begins. -/
def position (reading : Reading) : Position := ⟨reading.line, reading.cursor.position⟩

/-- The bytes that a reading covers. -/
def span (reading : Reading) : Span :=
  ⟨reading.cursor.position, reading.cursor.position + reading.token.text.byteLength,
    reading.token.style⟩

end Reading

/-- The brace that a span with an effect is, if it is one. -/
def Brace.ofEffect? (index : Nat) (span : Span) : Effect → Option Brace
  | .opening .brace => some ⟨true, index, span⟩
  | .closing .brace => some ⟨false, index, span⟩
  | _ => none

/-- The brace that a reading is, if it is one. -/
def Reading.brace? (reading : Reading) : Option Brace :=
  reading.token.fragment.effect?.bind (Brace.ofEffect? reading.line reading.span)

namespace Reading

variable {reading : Reading}

/-- A reading is a brace if its effect is to open one or to close one. -/
theorem brace?_of_effect? {effect : Effect} (h : reading.token.fragment.effect? = some effect) :
    reading.brace? = Brace.ofEffect? reading.line reading.span effect := by
  rw [brace?, h, Option.bind_some]

/-- A reading that is a brace opens or closes one. -/
theorem cases_brace? {brace : Brace} (h : reading.brace? = some brace) :
    (brace = ⟨true, reading.line, reading.span⟩ ∧
        reading.token.fragment.effect? = some (.opening .brace)) ∨
      (brace = ⟨false, reading.line, reading.span⟩ ∧
        reading.token.fragment.effect? = some (.closing .brace)) := by
  rw [brace?, Option.bind_eq_some_iff] at h
  obtain ⟨effect, heffect, hbrace⟩ := h
  unfold Brace.ofEffect? at hbrace
  split at hbrace
  next =>
    cases hbrace
    exact .inl ⟨rfl, heffect⟩
  next =>
    cases hbrace
    exact .inr ⟨rfl, heffect⟩
  next => cases hbrace

/-- The readings of a run of braces, a brace behind them and more braces. -/
theorem exists_of_filterMap_brace?_eq {run : List Reading} {between rest : List Brace}
    {closer : Brace} (h : run.filterMap Reading.brace? = between ++ closer :: rest) :
    ∃ inside reading behind, run = inside ++ reading :: behind ∧
      reading.brace? = some closer ∧ inside.filterMap Reading.brace? = between := by
  obtain ⟨front, tail, rfl, rfl, htail⟩ := List.filterMap_eq_append_iff.1 h
  obtain ⟨others, reading, behind, rfl, hothers, hreading, -⟩ := List.filterMap_eq_cons_iff.1 htail
  refine ⟨front ++ others, reading, behind, (List.append_assoc ..).symm, hreading, ?_⟩
  rw [List.filterMap_append, List.filterMap_eq_nil_iff.2 hothers, List.append_nil]

end Reading

/-! ## The braces that are read -/

/-- A span of a line is a brace if the fragment that it shows opens or closes one. -/
theorem Brace.ofSpan?_eq {index : Nat} {text piece : Text} {span : Span}
    (h : text.slice? span.start span.stop = some piece) :
    ofSpan? index text span =
      (Fragment.effect? ⟨piece, span.style⟩).bind (ofEffect? index span) := by
  rw [ofSpan?, h]
  cases hstyle : span.style with
  | some style =>
    rw [if_pos (Option.isSome_some)]
    cases style with
    | keyword =>
      rw [Fragment.effect?]
      dsimp only
      split <;> rfl
    | _ => rfl
  | none =>
    rw [if_neg (by simp)]
    split
    next heq =>
      cases heq
      rfl
    next heq =>
      cases heq
      rfl
    next hopener hcloser =>
      cases heffect : Fragment.effect? ⟨piece, none⟩ with
      | none => rfl
      | some effect =>
        cases effect with
        | arm => rfl
        | opening delimiter =>
          have hpiece : piece = [delimiter.opener] := Fragment.text_of_opening heffect
          cases delimiter with
          | brace => exact absurd (congrArg some hpiece) hopener
          | _ => rfl
        | closing delimiter =>
          have hpiece : piece = [delimiter.closer] := Fragment.text_of_closing heffect
          cases delimiter with
          | brace => exact absurd (congrArg some hpiece) hcloser
          | _ => rfl

/-- The braces among the spans of a line, from a token on. -/
theorem filterMap_spansFrom_tokens (config : Config) (line : Nat) (cursor : Cursor)
    (state : State) :
    (spansFrom cursor.position (tokens config cursor state)).filterMap
        (Brace.ofSpan? line cursor.line) =
      (tokenReadings line cursor state (tokens config cursor state)).filterMap
        Reading.brace? := by
  fun_induction tokens config cursor state with
  | case1 cursor state _ => rfl
  | case2 cursor state hne token ih =>
    have hline : token.cursor.line = cursor.line := Token.line_cursor_read config cursor state
    have hstop : token.cursor.position = cursor.position + token.text.byteLength :=
      (Offsets.offsets_cursor_read config cursor state).2
    have hslice : cursor.line.slice? cursor.position (cursor.position + token.text.byteLength) =
        some token.text := by
      have h := Text.slice?_append cursor.behind.reverse token.text token.cursor.ahead
      rw [List.append_assoc, ← Token.ahead_eq_text_append config cursor state] at h
      simpa [Cursor.position, Cursor.line] using h
    have hbrace : Brace.ofSpan? line cursor.line
        ⟨cursor.position, cursor.position + token.text.byteLength, token.style⟩ =
          Reading.brace? ⟨line, cursor, state, token⟩ := Brace.ofSpan?_eq hslice
    rw [spansFrom, tokenReadings, List.filterMap_cons, List.filterMap_cons, hbrace, ← hstop,
      ← hline, ih]

/-- The braces of lines are those that are read. -/
theorem ofLines_scanLines (config : Config) (line : Nat) (state : State) (texts : List Text) :
    Brace.ofLines line (scanLines config state texts) =
      (readings config line state texts).filterMap Reading.brace? := by
  induction texts generalizing line state with
  | nil => rfl
  | cons text texts ih =>
    rw [readings, List.filterMap_append]
    exact congrArg₂ (· ++ ·) (filterMap_spansFrom_tokens config line (.ofLine text) state)
      (ih (line + 1) _)

/-! ## Counting braces -/

section
variable {run : List Reading} {opened next : List Delimiter}

/-- The braces that are open behind readings. -/
theorem count_brace_unclosed? (h : unclosed? opened (fragmentsOf run) = some next) :
    next.count .brace + Brace.closed (run.filterMap Reading.brace?) =
      opened.count .brace + Brace.opened (run.filterMap Reading.brace?) := by
  induction run generalizing opened with
  | nil =>
    cases h
    rfl
  | cons reading run ih =>
    rw [fragmentsOf_cons, unclosed?_cons, Option.bind_eq_some_iff] at h
    obtain ⟨middle, hmiddle, hrest⟩ := h
    have hcount := ih hrest
    rw [List.filterMap_cons, Reading.brace?]
    cases heffect : reading.token.fragment.effect? with
    | none =>
      rw [Fragment.unclosed?, heffect] at hmiddle
      cases hmiddle
      exact hcount
    | some effect =>
      cases effect with
      | arm =>
        rw [Fragment.unclosed?, heffect] at hmiddle
        cases hmiddle
        exact hcount
      | opening delimiter =>
        cases (Fragment.unclosed?_of_opening heffect _).symm.trans hmiddle
        cases delimiter with
        | brace =>
          rw [List.count_cons_self] at hcount
          show _ + Brace.closed (⟨true, _, _⟩ :: _) = _ + Brace.opened (⟨true, _, _⟩ :: _)
          rw [Brace.closed_cons_of_opens rfl, Brace.opened_cons_of_opens rfl]
          omega
        | _ =>
          rw [List.count_cons_of_ne (by decide)] at hcount
          exact hcount
      | closing delimiter =>
        rw [Fragment.unclosed?, heffect] at hmiddle
        cases Effect.unclosed?_closing_eq_some_iff.1 hmiddle
        cases delimiter with
        | brace =>
          rw [List.count_cons_self]
          show _ + Brace.closed (⟨false, _, _⟩ :: _) = _ + Brace.opened (⟨false, _, _⟩ :: _)
          rw [Brace.closed_cons_of_closes rfl, Brace.opened_cons_of_closes rfl]
          omega
        | _ =>
          rw [List.count_cons_of_ne (by decide)]
          exact hcount

/-- Braces among balanced readings match one another. -/
theorem matched_of_balanced (h : Balanced (fragmentsOf run)) :
    Brace.Matched (run.filterMap Reading.brace?) := by
  refine ⟨?_, ?_⟩
  · rintro front ⟨back, hback⟩
    obtain ⟨before, behind, rfl, rfl, -⟩ := List.filterMap_eq_append_iff.1 hback.symm
    rw [Balanced, fragmentsOf_append, unclosed?_append, Option.bind_eq_some_iff] at h
    obtain ⟨inner, hinner, -⟩ := h
    have hcount := count_brace_unclosed? hinner
    rw [List.count_nil] at hcount
    omega
  · have hcount := count_brace_unclosed? h
    rwa [List.count_nil, Nat.zero_add, Nat.zero_add] at hcount

/-- **Braces match as brackets do.** Between a brace that opens and one that closes, the braces
match one another if and only if all brackets pair. -/
theorem matched_iff_balanced {closer : Fragment} {rest : List Fragment}
    (h : unclosed? (.brace :: opened) (fragmentsOf run ++ closer :: rest) = some next)
    (hcloser : closer.effect? = some (.closing .brace)) :
    Brace.Matched (run.filterMap Reading.brace?) ↔ Balanced (fragmentsOf run) := by
  refine ⟨?_, matched_of_balanced⟩
  rintro ⟨hbounds, hcount⟩
  rw [unclosed?_append, Option.bind_eq_some_iff] at h
  obtain ⟨before, hbefore, hclosing⟩ := h
  rcases unclosed?_fragmentsOf_around hbefore with
    ⟨inner, hinner, rfl⟩ | ⟨front, reading, back, rfl, hother, hinside⟩
  · -- What is left open holds no brace, so the one that closes is not in it.
    have hnone : inner.count .brace = 0 := by
      have hcounts := count_brace_unclosed? hinner
      rw [List.count_nil] at hcounts
      omega
    rw [unclosed?_cons, Fragment.unclosed?, hcloser, Option.bind_eq_some_iff] at hclosing
    obtain ⟨middle, hmiddle, -⟩ := hclosing
    have hpair := Effect.unclosed?_closing_eq_some_iff.1 hmiddle
    cases inner with
    | nil => exact hinner
    | cons delimiter inner =>
      cases hpair
      rw [List.count_cons_self] at hnone
      cases hnone
  · -- The braces up to one that closes before would close more than they open.
    have hmatched := (matched_of_balanced hinside).2
    have hbrace : reading.brace? = some ⟨false, reading.line, reading.span⟩ :=
      Reading.brace?_of_effect? hother
    have hle := hbounds (front.filterMap Reading.brace? ++ [⟨false, reading.line, reading.span⟩])
      ⟨back.filterMap Reading.brace?, by
        rw [List.filterMap_append, List.filterMap_cons_some hbrace, List.append_assoc]
        rfl⟩
    rw [Brace.closed_append, Brace.opened_append, Brace.closed_cons_of_closes rfl,
      Brace.opened_cons_of_closes rfl, Brace.closed_nil, Brace.opened_nil] at hle
    omega

end

/-- The context that a brace pushes is popped by the brace that matches it. -/
theorem Follows.poppedBy_iff_matched {config : Config} {state after : State}
    {opener closer : Reading} {between rest : List Reading} {opened next : List Delimiter}
    (h : Follows config state (opener :: (between ++ closer :: rest)) after)
    (hkinds : state.nesting.kinds = opened.map .block)
    (harm : ∀ reading ∈ opener :: (between ++ closer :: rest),
      reading.token.fragment.effect? ≠ some .arm)
    (hnext : unclosed? opened (fragmentsOf (opener :: (between ++ closer :: rest))) = some next)
    (hopener : opener.token.fragment.effect? = some (.opening .brace)) :
    opener.PoppedBy between closer ↔
      closer.token.fragment.effect? = some (.closing .brace) ∧
        Brace.Matched (between.filterMap Reading.brace?) := by
  rw [h.poppedBy_iff hkinds harm hnext hopener, and_comm]
  refine and_congr_right fun hcloser => ?_
  rw [fragmentsOf_cons, unclosed?_cons, Fragment.unclosed?_of_opening hopener, Option.bind_some,
    fragmentsOf_append, fragmentsOf_cons] at hnext
  exact (matched_iff_balanced hnext hcloser).symm

/-! ## Folds -/

namespace Document

variable {config : Config} {text : Text} {before after : List Reading} {opener : Reading}

/-- The braces of a new document are those that are read in its text. -/
theorem braces_ofText (config : Config) (text : Text) :
    (ofText config text).braces =
      (readings config 0 (State.initial config) text.lines).filterMap Reading.brace? :=
  ofLines_scanLines config 0 (State.initial config) text.lines

/-- Up to which place a line folds, by the readings of the text. -/
theorem exists_fold?_iff
    (hrun : readings config 0 (State.initial config) text.lines = before ++ opener :: after)
    (hopener : opener.token.fragment.effect? = some (.opening .brace))
    (hlast : ∀ reading ∈ after, reading.line = opener.line →
      reading.token.fragment.effect? ≠ some (.opening .brace)) (place : Position) :
    (∃ fold, (ofText config text).fold? opener.line = some fold ∧ fold.stop = place) ↔
      ∃ between closer rest, after = between ++ closer :: rest ∧ closer.position = place ∧
        (closer.token.fragment.effect? = some (.closing .brace) ∧
          Brace.Matched (between.filterMap Reading.brace?)) ∧ opener.line < place.line := by
  have hbraces : (ofText config text).braces =
      before.filterMap Reading.brace? ++
        ⟨true, opener.line, opener.span⟩ :: after.filterMap Reading.brace? := by
    rw [braces_ofText, hrun, List.filterMap_append,
      List.filterMap_cons_some (Reading.brace?_of_effect? hopener)]
  have hopeners : ∀ brace ∈ after.filterMap Reading.brace?, brace.opens = true →
      brace.line ≠ opener.line := by
    intro brace hbrace hopens hline
    obtain ⟨reading, hreading, hbrace⟩ := List.mem_filterMap.1 hbrace
    rcases Reading.cases_brace? hbrace with ⟨rfl, heffect⟩ | ⟨rfl, -⟩
    · exact hlast reading hreading hline heffect
    · cases hopens
  have hfold := fold?_eq_some_iff_of_braces_eq hbraces rfl hopeners
  constructor
  · rintro ⟨fold, hsome, rfl⟩
    obtain ⟨between, brace, behind, hbehind, hcloses, hmatched, hlt, rfl⟩ := (hfold fold).1 hsome
    obtain ⟨inside, closer, rest, rfl, hbrace, rfl⟩ :=
      Reading.exists_of_filterMap_brace?_eq hbehind
    rcases Reading.cases_brace? hbrace with ⟨rfl, -⟩ | ⟨rfl, heffect⟩
    · cases hcloses
    · exact ⟨inside, closer, rest, rfl, rfl, ⟨heffect, hmatched⟩, hlt⟩
  · rintro ⟨between, closer, rest, rfl, rfl, ⟨heffect, hmatched⟩, hlt⟩
    have hbehind : (between ++ closer :: rest).filterMap Reading.brace? =
        between.filterMap Reading.brace? ++
          ⟨false, closer.line, closer.span⟩ :: rest.filterMap Reading.brace? := by
      rw [List.filterMap_append, List.filterMap_cons_some (Reading.brace?_of_effect? heffect)]
    exact ⟨_, (hfold _).2 ⟨_, _, _, hbehind, rfl, hmatched, hlt, rfl⟩, rfl⟩

/-- **Folds pop contexts.** In a text where no word opens an arm and each bracket that closes pairs
with the innermost open one, the line of the last brace on it that opens folds up to a place if and
only if the reading there, on a later line, pops the context that the brace pushes. -/
theorem fold_pops_context (config : Config) (text : Text) {before after : List Reading}
    {opener : Reading}
    (hrun : readings config 0 (State.initial config) text.lines = before ++ opener :: after)
    (harm : ∀ reading ∈ before ++ opener :: after, reading.token.fragment.effect? ≠ some .arm)
    (hpairs : (unclosed? [] (fragmentsOf (before ++ opener :: after))).isSome = true)
    (hopener : opener.token.fragment.effect? = some (.opening .brace))
    (hlast : ∀ reading ∈ after, reading.line = opener.line →
      reading.token.fragment.effect? ≠ some (.opening .brace)) (place : Position) :
    (∃ fold, (ofText config text).fold? opener.line = some fold ∧ fold.stop = place) ↔
      ∃ between closer rest, after = between ++ closer :: rest ∧ closer.position = place ∧
        opener.PoppedBy between closer ∧ opener.line < place.line := by
  obtain ⟨next, hnext⟩ := Option.isSome_iff_exists.1 hpairs
  rw [fragmentsOf_append, unclosed?_append, Option.bind_eq_some_iff] at hnext
  obtain ⟨opened, hopened, hnext⟩ := hnext
  have hfollows := follows_readings config 0 (State.initial config) text.lines
  rw [hrun] at hfollows
  obtain ⟨start, hbefore, hfollows⟩ := Follows.append_iff.1 hfollows
  have hinitial : (State.initial config).nesting.kinds = [].map .block := rfl
  have hkinds : start.nesting.kinds = opened.map .block :=
    hbefore.kinds hinitial
      (fun reading hreading => harm reading (List.mem_append_left _ hreading)) hopened
  rw [exists_fold?_iff hrun hopener hlast]
  refine exists_congr fun between => exists_congr fun closer => exists_congr fun rest =>
    and_congr_right ?_
  rintro rfl
  rw [hfollows.poppedBy_iff_matched hkinds
    (fun reading hreading => harm reading (List.mem_append_right _ hreading)) hnext hopener]

/-- The theorem for a brace behind a parenthesis that stays open, with other brackets inside. -/
theorem fold_pops_context_call :
    let text : Text := Text.joinLines [r"f({".toList, "  a: [1, {}]".toList, ['}']]
    ∃ before opener after,
      readings {} 0 (State.initial {}) text.lines = before ++ opener :: after ∧
        opener.position = ⟨0, 2⟩ ∧
        ∃ between closer rest, after = between ++ closer :: rest ∧ closer.position = ⟨2, 0⟩ ∧
          opener.PoppedBy between closer := by
  intro text
  let run := readings {} 0 (State.initial {}) text.lines
  let opener := run.get ⟨2, by decide +kernel⟩
  have hdrop : opener :: run.drop 3 = run.drop 2 := List.getElem_cons_drop ..
  have hrun : run = run.take 2 ++ opener :: run.drop 3 := by
    rw [hdrop, List.take_append_drop]
  have harm : ∀ reading ∈ run, reading.token.fragment.effect? ≠ some .arm := by decide +kernel
  have hpairs : (unclosed? [] (fragmentsOf run)).isSome = true := by decide +kernel
  rw [hrun] at harm hpairs
  obtain ⟨between, closer, rest, hafter, hplace, hpopped, -⟩ :=
    (fold_pops_context {} text hrun harm hpairs (by decide +kernel) (by decide +kernel) ⟨2, 0⟩).1
      ⟨⟨⟨0, 3⟩, ⟨2, 0⟩⟩, by decide +kernel, rfl⟩
  exact ⟨_, _, _, hrun, by decide +kernel, between, closer, rest, hafter, hplace, hpopped⟩

end Document

end SyntaxMode
