import SyntaxMode.Proofs.Document.FullScan
import SyntaxMode.Proofs.Reindent.Basic
import SyntaxMode.Proofs.State.Shape

/-!
# Indenting forgets the old indentation

A line in code is hinted at and rebuilt from what follows its leading blanks, so two lines that
differ in these blanks only come out as the same line, and leave the same state
(`IndentedLine.ofLine_congr`). A line that begins inside a string or a comment comes out as it went
in. Two texts whose lines correspond in this way are therefore indented through the same states to
the same text (`reindent_congr`). Where a line begins is read off the scan of the first text; the
pass over it is in another state there, but in the same region (`entersLike_after_ofLine`).
-/

namespace SyntaxMode

section
variable {config : Config} {state : State}

/-- A line that is put at a column depends on what follows the leading blanks only. -/
theorem IndentHint.indentLine_column_congr (width : Column) {line line' : Text}
    (htrim : line.trimStart = line'.trimStart) :
    (column width).indentLine line = (column width).indentLine line' := by
  simp only [indentLine, htrim]

/-- Lines that differ in leading blanks only, and not at all inside a string or a comment, are
indented to the same line and leave the same state. -/
theorem IndentedLine.ofLine_congr {line line' : Text} (htrim : line.trimStart = line'.trimStart)
    (hsame : state.region ≠ .code → line = line') :
    ofLine config state line = ofLine config state line' := by
  by_cases hregion : state.region = .code
  · have hindent : state.indent config line = state.indent config line' :=
      state.indent_congr config htrim
    have htext : (ofLine config state line).text = (ofLine config state line').text := by
      rw [text_ofLine, text_ofLine, hindent, State.indent_of_code hregion]
      exact IndentHint.indentLine_column_congr _ htrim
    have hafter : (ofLine config state line).after = (ofLine config state line').after := by
      rw [after_ofLine, after_ofLine, hindent, htext]
    exact congrArg₂ IndentedLine.mk htext hafter
  · rw [hsame hregion]

/-- Two passes over corresponding lines, in step with the scan of the first ones. -/
theorem indentLines_congr {scanned : State} (h : State.EntersLike state scanned)
    {lines lines' : List Text} (htrim : lines.map Text.trimStart = lines'.map Text.trimStart)
    (hsame : ∀ index < lines.length,
      (stateBehind config scanned (lines.take index)).region ≠ .code →
        lines[index]? = lines'[index]?) :
    indentLines config state lines = indentLines config state lines' := by
  induction lines generalizing state scanned lines' with
  | nil =>
    rw [List.map_nil, eq_comm, List.map_eq_nil_iff] at htrim
    rw [htrim]
  | cons line lines ih =>
    obtain _ | ⟨line', lines'⟩ := lines'
    · cases htrim
    · rw [List.map_cons, List.map_cons, List.cons.injEq] at htrim
      have hline :
          IndentedLine.ofLine config state line = IndentedLine.ofLine config state line' := by
        refine IndentedLine.ofLine_congr htrim.1 ?_
        intro hregion
        rw [h.region] at hregion
        exact Option.some.inj (hsame 0 (Nat.succ_pos _) hregion)
      have hrest := ih (entersLike_after_ofLine config line h) htrim.2
        fun index hindex => hsame (index + 1) (Nat.succ_lt_succ hindex)
      rw [indentLines, indentLines, ← hline, hrest]

end

/-- **Indenting forgets the old indentation.** Let two texts have as many lines, and let each two
corresponding lines differ in leading blanks only, and not at all if they begin inside a string or
a comment in the first text. Then both texts are indented to the same text. -/
theorem reindent_congr (config : Config) {text text' : Text}
    (htrim : text.lines.map Text.trimStart = text'.lines.map Text.trimStart)
    (hsame : ∀ index < text.lines.length,
      ((Document.ofText config text).stateAt index).region ≠ .code →
        text.lines[index]? = text'.lines[index]?) :
    reindent config text = reindent config text' := by
  have hlines : indentLines config (State.initial config) text.lines =
      indentLines config (State.initial config) text'.lines := by
    refine indentLines_congr (.refl _) htrim ?_
    intro index hindex hregion
    refine hsame index hindex ?_
    have hcurrent := Document.current_ofText config text
    have hlength : index ≤ (Document.ofText config text).lines.length := by
      rw [Document.ofText, Document.ofLines, length_scanLines]
      exact Nat.le_of_lt hindex
    rwa [hcurrent.stateAt hlength, Document.ofText, Document.lineTexts_ofLines]
  rw [reindent, reindent, hlines]

/-- The theorem for two texts with tabs, blank lines and carriage returns in different places, an
arm, and a string that runs over two lines. -/
theorem reindent_congr_switch :
    let text : Text := Text.joinLines [r"switch x {".toList, ['\t'], "\tcase 1: f(".toList,
      "\"a".toList, "  b\");".toList, [' ', '}']]
    let text' : Text := Text.joinLines [r" switch x {".toList ++ ['\r'], [], " case 1: f(".toList,
      "\t\"a".toList, "  b\");".toList, ['\u3000', '}', '\r']]
    text.lines.map Text.trimStart = text'.lines.map Text.trimStart ∧
      (∀ index < text.lines.length,
        ((Document.ofText {} text).stateAt index).region ≠ .code →
          text.lines[index]? = text'.lines[index]?) ∧
      reindent {} text = reindent {} text' := by
  intro text text'
  have htrim : text.lines.map Text.trimStart = text'.lines.map Text.trimStart := by
    decide +kernel
  have hsame : ∀ index < text.lines.length,
      ((Document.ofText {} text).stateAt index).region ≠ .code →
        text.lines[index]? = text'.lines[index]? := by
    decide +kernel
  exact ⟨htrim, hsame, reindent_congr {} htrim hsame⟩

/-- Inside a string the leading blanks belong to the program, and stay. -/
example : reindent {} "\"a\n b\"".toList ≠ reindent {} "\"a\nb\"".toList := by
  decide +kernel

end SyntaxMode
