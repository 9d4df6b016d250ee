import SyntaxMode.Proofs.Reindent.Basic

/-!
# Indenting a text a second time

The second pass gets the lines of the first one, and `indentLine_indentLine` says that a line that
stands where its hint puts it stays there. As the hints do not read leading blanks, both passes go
through the same states (`ofLine_text_ofLine`), so the second one changes nothing
(`indentLines_indentedTexts`). It does change a text where a line ends in a carriage return:
cutting the text into lines drops that character, and indenting does not put it back. So indenting
twice is indenting once exactly if no indented line ends so (`reindent_reindent_iff`).
-/

namespace SyntaxMode

section
variable {config : Config} {state : State}

/-- A line that has been indented in a state comes out the same when it is indented in that state
again, and leaves the same state. -/
theorem ofLine_text_ofLine (line : Text) :
    IndentedLine.ofLine config state (IndentedLine.ofLine config state line).text =
      IndentedLine.ofLine config state line := by
  have hindent : state.indent config (IndentedLine.ofLine config state line).text =
      state.indent config line :=
    state.indent_congr config (IndentedLine.trimStart_text_ofLine config state line)
  have htext :
      (IndentedLine.ofLine config state (IndentedLine.ofLine config state line).text).text =
        (IndentedLine.ofLine config state line).text := by
    rw [IndentedLine.text_ofLine, hindent, IndentedLine.text_ofLine,
      IndentHint.indentLine_indentLine]
  have hafter : (IndentedLine.ofLine config state
      (IndentedLine.ofLine config state line).text).after =
      (IndentedLine.ofLine config state line).after := by
    rw [IndentedLine.after_ofLine, htext, hindent]
    rfl
  exact congrArg₂ IndentedLine.mk htext hafter

/-- Indenting indented lines changes nothing. -/
theorem indentLines_indentedTexts (lines : List Text) :
    indentLines config state (indentedTexts config state lines) =
      indentLines config state lines := by
  induction lines generalizing state with
  | nil => rfl
  | cons line lines ih =>
    rw [indentedTexts_cons, indentLines, ofLine_text_ofLine, ih, indentLines]

/-- A line that does not change when the carriage return at its end is dropped and it is indented
again had none there. -/
theorem getLast?_of_indentLine_dropReturn {hint : IndentHint} {line : Text}
    (h : hint.indentLine line.dropReturn = line) : line.getLast? ≠ some '\r' := by
  intro hlast
  have hle := hint.count_indentLine_le line.dropReturn (c := '\r') (by decide)
  rw [h] at hle
  exact Nat.not_lt.2 hle (Text.count_dropReturn_lt hlast)

/-- Texts that do not change when the carriage returns at their ends are dropped and they are
indented again had none there. -/
theorem getLast?_of_indentedTexts_eq {texts : List Text}
    (h : indentedTexts config state (texts.map Text.dropReturn) = texts) :
    ∀ text ∈ texts, text.getLast? ≠ some '\r' := by
  induction texts generalizing state with
  | nil =>
    intro text hmem
    cases hmem
  | cons text texts ih =>
    rw [List.map_cons, indentedTexts_cons, List.cons.injEq] at h
    intro other hmem
    rcases List.mem_cons.1 hmem with rfl | hmem
    · exact getLast?_of_indentLine_dropReturn h.1
    · exact ih h.2 other hmem

/-- Indenting an indented text again changes nothing if no piece of it ends in a carriage
return. -/
theorem reindent_reindent_of_getLast? {text : Text}
    (h : ∀ piece ∈ (reindent config text).splitOn '\n', piece.getLast? ≠ some '\r') :
    reindent config (reindent config text) = reindent config text := by
  rw [reindent, lines_reindent h, indentLines_indentedTexts]
  rfl

/-- **When indenting twice is indenting once.** Indenting an indented text again changes nothing
exactly if no piece of it ends in a carriage return. This is so for every text no piece of which
ends in two carriage returns. -/
theorem reindent_reindent_iff (config : Config) (text : Text) :
    (reindent config (reindent config text) = reindent config text ↔
      ∀ piece ∈ (reindent config text).splitOn '\n', piece.getLast? ≠ some '\r') ∧
    ((∀ piece ∈ text.splitOn '\n', ¬ ['\r', '\r'] <:+ piece) →
      reindent config (reindent config text) = reindent config text) := by
  refine ⟨⟨?_, reindent_reindent_of_getLast?⟩, ?_⟩
  · intro h
    have hpieces := splitOn_reindent config (reindent config text)
    rw [h] at hpieces
    exact getLast?_of_indentedTexts_eq hpieces.symm
  · intro h
    apply reindent_reindent_of_getLast?
    intro piece hpiece
    exact getLast?_of_mem_splitOn_reindent h hpiece

/-- The theorem at a text whose pieces end in one carriage return each. -/
theorem reindent_reindent_returns :
    (∀ piece ∈ "f(\r\n\tx)\r".toList.splitOn '\n', ¬ ['\r', '\r'] <:+ piece) ∧
      reindent {} (reindent {} "f(\r\n\tx)\r".toList) = reindent {} "f(\r\n\tx)\r".toList := by
  have h : ∀ piece ∈ "f(\r\n\tx)\r".toList.splitOn '\n', ¬ ['\r', '\r'] <:+ piece := by decide
  exact ⟨h, (reindent_reindent_iff {} _).2 h⟩

/-- A second pass takes away the second carriage return of a line. -/
example : reindent {} (reindent {} "x\r\r".toList) ≠ reindent {} "x\r\r".toList := by
  decide +kernel

end

end SyntaxMode
