import Mathlib.Data.Nat.PSub
import SyntaxMode.Proofs.Fold.Matching

/-!
# Folding by spans

The search for a fold as a program on the spans of a document: it looks from the end of a line for
the last brace that opens, finds the place of that span among the spans of the line by comparing
spans, and from there on counts through the spans of this line and of those below. The program
fails where the span is not found, or where the count would go below zero; neither happens in a
current document (`searchFold?_eq`), because the spans of a line are all different.
-/

namespace SyntaxMode

namespace Brace

/-! ## Programs -/

/-- Counts through spans of a line up to the brace that closes with nothing left open, or answers
how many braces are left open at the end. -/
def seekInSpans (index : Nat) (text : Text) (depth : Nat) :
    List Span → Option (Except Nat Brace)
  | [] => some (.error depth)
  | span :: rest =>
    match ofSpan? index text span with
    | none => seekInSpans index text depth rest
    | some brace =>
      if brace.opens then seekInSpans index text (depth + 1) rest
      else if depth = 0 then some (.ok brace)
      else do seekInSpans index text (← depth.ppred) rest

/-- Counts through the spans of lines, of which the first has an index. -/
def seekInLines (index depth : Nat) : List Line → Option (Option Brace)
  | [] => some none
  | line :: rest => do
    match ← seekInSpans index line.text depth line.spans with
    | .ok brace => return some brace
    | .error depth => seekInLines (index + 1) depth rest

/-- Whether a span of a line is a brace that opens. -/
def opensAt (index : Nat) (text : Text) (span : Span) : Bool :=
  (ofSpan? index text span).any Brace.opens

end Brace

/-- What the line of an index folds, if anything, if the search for it does not fail. -/
def Document.searchFold? (document : Document) (index : Nat) : Option (Option Fold) :=
  match document.lines[index]? with
  | none => some none
  | some line =>
    match line.spans.reverse.find? (Brace.opensAt index line.text) with
    | none => some none
    | some opener => do
      let place ← line.spans.idxOf? opener
      let below := document.lines.drop (index + 1)
      let closer? ← Brace.seekInLines index 0
        ({ line with spans := line.spans.drop (place + 1) } :: below)
      match closer? with
      | none => return none
      | some closer =>
        return if index < closer.line then some ⟨⟨index, opener.stop⟩, closer.start⟩ else none

/-! ## Counting -/

namespace Brace

/-- A span that is found as an opening one is a brace that opens. -/
theorem exists_of_opensAt {index : Nat} {text : Text} {span : Span}
    (h : opensAt index text span = true) :
    ∃ brace, ofSpan? index text span = some brace ∧ brace.opens = true := by
  rw [opensAt] at h
  cases hbrace : ofSpan? index text span with
  | none =>
    rw [hbrace] at h
    cases h
  | some brace =>
    rw [hbrace] at h
    exact ⟨brace, rfl, h⟩

/-- Counting through spans is counting through the braces among them. -/
theorem seekInSpans_eq (index : Nat) (text : Text) (depth : Nat) (spans : List Span) :
    seekInSpans index text depth spans =
      some (closer depth (spans.filterMap (ofSpan? index text))) := by
  induction spans generalizing depth with
  | nil => rfl
  | cons span rest ih =>
    rw [seekInSpans, List.filterMap_cons]
    cases ofSpan? index text span with
    | none => exact ih depth
    | some brace =>
      dsimp only
      cases hbrace : brace.opens with
      | true =>
        rw [if_pos rfl, closer_cons_of_opens hbrace]
        exact ih (depth + 1)
      | false =>
        rw [if_neg Bool.false_ne_true]
        cases depth with
        | zero => rw [if_pos rfl, closer_zero_cons_of_closes hbrace]
        | succ outer =>
          rw [if_neg (Nat.succ_ne_zero outer), closer_succ_cons_of_closes hbrace]
          exact ih outer

/-- Counting through the spans of lines is counting through their braces. -/
theorem seekInLines_eq (index depth : Nat) (lines : List Line) :
    seekInLines index depth lines = some (closer depth (ofLines index lines)).toOption := by
  induction lines generalizing index depth with
  | nil => rfl
  | cons line rest ih =>
    rw [seekInLines, seekInSpans_eq, ofLines, closer_append]
    show _ = some (Except.toOption (match closer depth (ofLine index line) with
      | .ok brace => .ok brace
      | .error left => closer left (ofLines (index + 1) rest)))
    rw [ofLine]
    cases closer depth (line.spans.filterMap (ofSpan? index line.text)) with
    | ok brace => rfl
    | error left => exact ih (index + 1) left

/-! ## The place of a span -/

/-- Where all spans are different, each one is found at its own place. -/
theorem idxOf?_of_nodup {front back : List Span} {span : Span}
    (h : (front ++ span :: back).Nodup) :
    (front ++ span :: back).idxOf? span = some front.length := by
  have hmem : span ∉ front := by
    intro hmem
    exact (List.nodup_append.1 h).2.2 span hmem span List.mem_cons_self rfl
  rw [List.idxOf?, List.findIdx?_append, List.findIdx?_eq_none_iff.2]
  · simp [List.findIdx?_cons]
  · intro other hother
    rw [beq_eq_false_iff_ne]
    rintro rfl
    exact hmem hother

end Brace

/-! ## Folds -/

namespace Document

variable {document : Document}

/-- The last span of a line that is a brace which opens is the last brace that opens on the
line. -/
theorem exists_lastOpener?_of_find? {index : Nat} {line : Line} {span : Span}
    (h : line.spans.reverse.find? (Brace.opensAt index line.text) = some span) :
    ∃ front back opener, line.spans = front ++ span :: back ∧ opener.span = span ∧
      Brace.lastOpener? (Brace.ofLine index line) =
        some (opener, back.filterMap (Brace.ofSpan? index line.text)) := by
  obtain ⟨hspan, behind, before, hreverse, hbehind⟩ := List.find?_eq_some_iff_append.1 h
  have hspans : line.spans = before.reverse ++ span :: behind.reverse := by
    rw [← List.reverse_reverse line.spans, hreverse]
    simp
  obtain ⟨opener, hopener, hopens⟩ := Brace.exists_of_opensAt hspan
  refine ⟨before.reverse, behind.reverse, opener, hspans,
    (Brace.line_and_span_of_ofSpan? hopener).2, Brace.lastOpener?_eq_some_iff.2
      ⟨before.reverse.filterMap (Brace.ofSpan? index line.text), ?_, hopens, ?_⟩⟩
  · rw [Brace.ofLine, hspans, List.filterMap_append, List.filterMap_cons_some hopener]
  · intro brace hbrace
    obtain ⟨other, hother, hofSpan⟩ := List.mem_filterMap.1 hbrace
    have hnot := hbehind other (List.mem_reverse.1 hother)
    simpa [Brace.opensAt, hofSpan] using hnot

/-- Where no span of a line is a brace that opens, the line folds nothing. -/
theorem fold?_of_find?_eq_none {index : Nat} {line : Line}
    (hline : document.lines[index]? = some line)
    (h : line.spans.reverse.find? (Brace.opensAt index line.text) = none) :
    document.fold? index = none := by
  have hnone : Brace.lastOpener? (Brace.ofLine index line) = none := by
    rw [Brace.lastOpener?_eq_none_iff]
    intro brace hbrace
    obtain ⟨span, hspan, hofSpan⟩ := List.mem_filterMap.1 hbrace
    have hnot := List.find?_eq_none.1 h span (List.mem_reverse.2 hspan)
    simpa [Brace.opensAt, hofSpan] using hnot
  rw [fold?, hline, Option.bind_eq_bind, Option.bind_some, hnone]
  rfl

/-- **The search does not fail.** In a current document it finds what the line folds. -/
theorem Current.searchFold?_eq (h : document.Current) (index : Nat) :
    document.searchFold? index = some (document.fold? index) := by
  rw [searchFold?]
  cases hline : document.lines[index]? with
  | none =>
    rw [fold?, hline]
    rfl
  | some line =>
    have hnodup : line.spans.Nodup := (h.tile (List.mem_of_getElem? hline)).nodup
    dsimp only
    cases hspan : line.spans.reverse.find? (Brace.opensAt index line.text) with
    | none => rw [fold?_of_find?_eq_none hline hspan]
    | some span =>
      obtain ⟨front, back, opener, hspans, rfl, hfound⟩ := exists_lastOpener?_of_find? hspan
      have hplace : line.spans.idxOf? opener.span = some front.length := by
        rw [hspans] at hnodup ⊢
        exact Brace.idxOf?_of_nodup hnodup
      have hdrop : line.spans.drop (front.length + 1) = back := by
        rw [hspans]
        simp
      have hbehind : Brace.ofLines index
          ({ line with spans := back } :: document.lines.drop (index + 1)) =
            back.filterMap (Brace.ofSpan? index line.text) ++
              Brace.ofLines (index + 1) (document.lines.drop (index + 1)) := rfl
      have hopener : opener.line = index := (Brace.of_lastOpener?_ofLine hfound).2.1
      have hfold := fold?_eq_some_iff_closer hline hfound
      dsimp only
      rw [hplace, Option.bind_eq_bind, Option.bind_some, hdrop, Brace.seekInLines_eq, hbehind]
      cases hcloser : Brace.closer 0 (back.filterMap (Brace.ofSpan? index line.text) ++
          Brace.ofLines (index + 1) (document.lines.drop (index + 1))) with
      | error =>
        refine congrArg some (Option.ext fun fold => ?_)
        rw [hfold, hcloser]
        simp
      | ok closer =>
        refine congrArg some (Option.ext fun fold => ?_)
        rw [hfold, hcloser]
        by_cases hlt : index < closer.line
        · simp [hlt, Brace.stop, hopener, eq_comm]
        · simp [hlt]

/-- **Folds are found by matching braces.** In a document after any edits, the search for a fold
does not fail, and each span is found at its own place among the spans of its line. A line folds if
and only if it has a last brace that opens, and the first brace behind this one with which more
braces have closed than opened stands on a later line; and it folds from the end of the one to the
start of the other. -/
theorem fold_matches (config : Config) (text : Text) (edits : List Edit) (index : Nat) :
    let document := (ofText config text).applyAll edits
    document.searchFold? index = some (document.fold? index) ∧
      (∀ line front span back, document.lines[index]? = some line →
        line.spans = front ++ span :: back → line.spans.idxOf? span = some front.length) ∧
      ∀ fold, document.fold? index = some fold ↔
        index < document.lines.length ∧ ∃ before opener between closer after,
          document.braces = before ++ opener :: (between ++ closer :: after) ∧
          opener.opens = true ∧ opener.line = index ∧
          (∀ brace ∈ between ++ closer :: after, brace.opens = true → brace.line ≠ index) ∧
          closer.opens = false ∧ Brace.Matched between ∧ index < closer.line ∧
          fold = ⟨⟨index, opener.span.stop⟩, ⟨closer.line, closer.span.start⟩⟩ := by
  intro document
  have hcurrent : document.Current := ((current_ofText config text).applyAll edits).1
  refine ⟨hcurrent.searchFold?_eq index, ?_, ?_⟩
  · intro line front span back hline hspans
    have hnodup := (hcurrent.tile (List.mem_of_getElem? hline)).nodup
    rw [hspans] at hnodup ⊢
    exact Brace.idxOf?_of_nodup hnodup
  · intro fold
    rw [fold?_eq_some_iff]
    constructor
    · rintro ⟨before, opener, between, closer, after, hbraces, hopens, rfl, hlast, hcloses,
        hmatched, hlt, hfold⟩
      have hmem : opener ∈ document.braces := by
        rw [hbraces]
        exact List.mem_append_right _ List.mem_cons_self
      have hline := Brace.line_lt_of_mem_ofLines hmem
      rw [Nat.zero_add] at hline
      exact ⟨hline, before, opener, between, closer, after, hbraces, hopens, rfl, hlast, hcloses,
        hmatched, hlt, hfold⟩
    · rintro ⟨-, before, opener, between, closer, after, hbraces, hopens, rfl, hmatches⟩
      exact ⟨before, opener, between, closer, after, hbraces, hopens, rfl, hmatches⟩

end Document

end SyntaxMode
