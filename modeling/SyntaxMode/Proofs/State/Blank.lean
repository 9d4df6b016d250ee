import SyntaxMode.Proofs.Document.FullScan
import SyntaxMode.Proofs.State.Hint
import SyntaxMode.Proofs.Token.Reads

/-!
# Blank lines between lines

A blank line shows nothing, and all it may do to the state is to enter a line: an arm ends, it is
known that nothing follows the innermost bracket, and the indentation is that of the blank line.
The next line that is not empty does all of that once more when it begins, so it cannot tell
whether the blank line is there (`State.entersAs_highlight_blank`). `inked` keeps of the lines of a
scan what is known of those that are not blank, and it depends on these lines only
(`blank_lines_leave_no_trace`). An empty line and one of blanks leave different states; they are
alike in what can be read behind them.
-/

namespace SyntaxMode

/-- The lines that are not blank. -/
def withoutBlanks (lines : List Text) : List Text := lines.filter fun line => !line.isAllBlank

/-- What is known of the lines that are not blank: their texts, their spans, and the states behind
them. -/
def inked (lines : List Line) : List (Text × List Span × State) :=
  (lines.filter fun line => !line.text.isAllBlank).map fun line =>
    (line.text, line.spans, line.after)

section
variable {config : Config} {state : State} {text : Text} {rest : List Text}

/-- A blank line is left out of what is kept of a scan. -/
theorem inked_scanLines_cons_of_blank (h : text.isAllBlank = true) :
    inked (scanLines config state (text :: rest)) =
      inked (scanLines config (highlight config state text).2 rest) := by
  simp [inked, scanLines, Line.scan, h]

/-- A line that is not blank is kept, with what a scan finds on it. -/
theorem inked_scanLines_cons (h : text.isAllBlank = false) :
    inked (scanLines config state (text :: rest)) =
      (text, highlight config state text) ::
        inked (scanLines config (highlight config state text).2 rest) := by
  simp [inked, scanLines, Line.scan, h]

end

namespace State

variable {a b : State}

/-- A line that has been entered is entered once more in the same way. -/
theorem entersAs_enterLine (indentation : Column) (state : State) :
    EntersAs (state.enterLine indentation) state := by
  intro other
  obtain ⟨region, ⟨outside, _ | ⟨context, outer⟩⟩, indented, freshLine⟩ := state <;>
    simp [enterLine, Nesting.modify]

/-- The line below a blank line begins as it would without the blank line. -/
theorem entersAs_highlight_blank (config : Config) (state : State) {line : Text}
    (h : line.trimStart = []) : EntersAs (highlight config state line).2 state := by
  by_cases hline : line = []
  · rw [hline, highlight_nil]
    exact .refl state
  · rw [after_highlight_of_blank config state h hline]
    exact entersAs_enterLine _ state

/-- Leaving out the blank lines of a scan changes nothing of what is known of the other ones. -/
theorem EntersAs.inked_scanLines (h : EntersAs a b) (config : Config) (lines : List Text) :
    inked (scanLines config a lines) =
      inked (scanLines config b (withoutBlanks lines)) := by
  induction lines generalizing a b with
  | nil => rfl
  | cons line lines ih =>
    cases hblank : line.isAllBlank with
    | true =>
      have hkept : EntersAs (SyntaxMode.highlight config a line).2 b :=
        (entersAs_highlight_blank config a (Text.trimStart_eq_nil_iff.2 hblank)).trans h
      rw [inked_scanLines_cons_of_blank hblank, withoutBlanks,
        List.filter_cons_of_neg (by simp [hblank])]
      exact ih hkept
    | false =>
      have hne : line ≠ [] := by
        rintro rfl
        cases hblank
      rw [inked_scanLines_cons hblank, withoutBlanks, List.filter_cons_of_pos (by simp [hblank]),
        inked_scanLines_cons hblank, highlight_congr config hne h, ih (.refl _), withoutBlanks]

end State

/-- **Blank lines leave no trace.** Let two lists of lines differ in blank lines only. Read from
the same state, the lines of both that are not blank have the same spans and leave the same states,
whatever the state, and whether the blank lines stand in code, in a string or in a comment. -/
theorem blank_lines_leave_no_trace (config : Config) (state : State) {lines lines' : List Text}
    (h : withoutBlanks lines = withoutBlanks lines') :
    inked (scanLines config state lines) = inked (scanLines config state lines') := by
  have hrefl := State.EntersAs.refl state
  rw [hrefl.inked_scanLines config lines, hrefl.inked_scanLines config lines', h]

/-- The theorem where blank lines stand behind an arm, behind an open bracket and inside a string,
and leave other states between the lines. -/
theorem blank_lines_leave_no_trace_string :
    let lines : List Text := [r"switch x {".toList, " case 1: f(".toList, " \t".toList,
      "\"a".toList, "   ".toList, " b\");".toList]
    let lines' : List Text := [[], r"switch x {".toList, "\u3000".toList, " case 1: f(".toList,
      "\"a".toList, [], " b\");".toList, "\t".toList]
    withoutBlanks lines = withoutBlanks lines' ∧
      stateBehind {} (State.initial {}) (lines.take 3) ≠
        stateBehind {} (State.initial {}) (lines'.take 4) ∧
      inked (scanLines {} (State.initial {}) lines) =
        inked (scanLines {} (State.initial {}) lines') := by
  intro lines lines'
  have hlines : withoutBlanks lines = withoutBlanks lines' := by decide +kernel
  have hstates : stateBehind {} (State.initial {}) (lines.take 3) ≠
      stateBehind {} (State.initial {}) (lines'.take 4) := by decide +kernel
  exact ⟨hlines, hstates, blank_lines_leave_no_trace {} (State.initial {}) hlines⟩

end SyntaxMode
