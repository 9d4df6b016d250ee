import SyntaxMode.Proofs.State.Entry
import SyntaxMode.Reindent

/-!
# The lines of an indented text

Indenting a line again touches its leading blanks only (`trimStart_indentLine`), and the hint for a
line does not read them (`indent_congr`). The pieces of an indented text are its indented lines
(`splitOn_reindent`); they are its lines too, unless one of them ends in a carriage return
(`lines_reindent`). That happens only below a piece of the old text that ends in two of them.
-/

namespace SyntaxMode

/-! ## Hints -/

/-- The hint for a line, and the state in which the line is then read, do not depend on the blanks
that the line starts with. -/
theorem State.indent_congr (config : Config) (state : State) {a b : Text}
    (h : a.trimStart = b.trimStart) : state.indent config a = state.indent config b := by
  simp only [State.indent, h]

namespace IndentHint

variable (hint : IndentHint) (line : Text)

/-- A line keeps what follows its leading blanks. -/
@[simp] theorem trimStart_indentLine : (hint.indentLine line).trimStart = line.trimStart := by
  cases hint with
  | defer => rfl
  | column width =>
    simp only [indentLine]
    split
    next h => rw [h, Text.trimStart_nil]
    next =>
      rw [Text.trimStart_append fun c hc => by rw [List.eq_of_mem_replicate hc]; rfl,
        Text.trimStart_trimStart]

/-- An indented line is already where its hint puts it. -/
@[simp] theorem indentLine_indentLine :
    hint.indentLine (hint.indentLine line) = hint.indentLine line := by
  cases hint with
  | defer => rfl
  | column width =>
    rw [indentLine.eq_2, trimStart_indentLine]
    rfl

/-- An indented line consists of spaces and of characters of the line. -/
theorem mem_of_mem_indentLine {c : Char} (h : c ∈ hint.indentLine line) : c = ' ' ∨ c ∈ line := by
  cases hint with
  | defer => exact .inr h
  | column width =>
    simp only [indentLine] at h
    split at h
    next => cases h
    next =>
      rcases List.mem_append.1 h with h | h
      · exact .inl (List.eq_of_mem_replicate h)
      · exact .inr ((List.dropWhile_sublist _).subset h)

/-- An indented line has no character more often than the line has it, spaces apart. -/
theorem count_indentLine_le {c : Char} (hc : c ≠ ' ') :
    (hint.indentLine line).count c ≤ line.count c := by
  cases hint with
  | defer => exact Nat.le_refl _
  | column width =>
    simp only [indentLine]
    split
    next => simp
    next =>
      rw [List.count_append, List.count_replicate, if_neg (by simpa using hc.symm), Nat.zero_add]
      exact (List.dropWhile_sublist _).count_le c

/-- An indented line that is not empty ends as the line does. -/
theorem getLast?_indentLine (h : hint.indentLine line ≠ []) :
    (hint.indentLine line).getLast? = line.getLast? := by
  cases hint with
  | defer => rfl
  | column width =>
    simp only [indentLine] at h ⊢
    split
    next hbody => simp [hbody] at h
    next hbody =>
      rw [List.getLast?_append, List.getLast?_eq_some_getLast hbody, Option.some_or,
        ← Text.getLast?_trimStart hbody, List.getLast?_eq_some_getLast hbody]

end IndentHint

/-! ## Indented lines -/

section
variable (config : Config) (state : State) (line : Text)

/-- The text of an indented line is what its hint makes of it. -/
theorem IndentedLine.text_ofLine :
    (ofLine config state line).text = (state.indent config line).1.indentLine line := rfl

/-- The state behind an indented line is the one behind its text, read in the state that the hint
leaves. -/
theorem IndentedLine.after_ofLine :
    (ofLine config state line).after =
      (highlight config (state.indent config line).2 (ofLine config state line).text).2 := rfl

@[simp] theorem IndentedLine.trimStart_text_ofLine :
    (ofLine config state line).text.trimStart = line.trimStart :=
  IndentHint.trimStart_indentLine _ line

/-- The state behind an indented line, and the one behind the line itself, enter lines alike. -/
theorem entersLike_after_ofLine {state scanned : State} (h : State.EntersLike state scanned) :
    State.EntersLike (IndentedLine.ofLine config state line).after
      (highlight config scanned line).2 :=
  ((State.entersLike_indent config state line).trans h).highlight
    (IndentedLine.trimStart_text_ofLine config state line)

end

/-! ## The pieces of an indented text -/

/-- The texts of lines that are indented again, from a state on. -/
def indentedTexts (config : Config) (state : State) (lines : List Text) : List Text :=
  (indentLines config state lines).map IndentedLine.text

section
variable {config : Config} {state : State}

/-- The lines below an indented one are indented from the state behind it. -/
theorem indentedTexts_cons (line : Text) (lines : List Text) :
    indentedTexts config state (line :: lines) =
      (IndentedLine.ofLine config state line).text ::
        indentedTexts config (IndentedLine.ofLine config state line).after lines := rfl

/-- Each of the indented lines is one of the lines, indented by some hint. -/
theorem exists_of_mem_indentedTexts {lines : List Text} {text : Text}
    (h : text ∈ indentedTexts config state lines) :
    ∃ line ∈ lines, ∃ hint : IndentHint, text = hint.indentLine line := by
  induction lines generalizing state with
  | nil => cases h
  | cons line lines ih =>
    rw [indentedTexts_cons] at h
    rcases List.mem_cons.1 h with rfl | h
    · exact ⟨line, List.mem_cons_self, _, rfl⟩
    · obtain ⟨line, hline, hint, htext⟩ := ih h
      exact ⟨line, List.mem_cons_of_mem _ hline, hint, htext⟩

@[simp] theorem length_indentedTexts (lines : List Text) :
    (indentedTexts config state lines).length = lines.length := by
  induction lines generalizing state with
  | nil => rfl
  | cons line lines ih => rw [indentedTexts_cons, List.length_cons, List.length_cons, ih]

/-- Indenting lines leaves none out. -/
theorem indentedTexts_ne_nil {lines : List Text} (h : lines ≠ []) :
    indentedTexts config state lines ≠ [] := by
  cases lines with
  | nil => exact absurd rfl h
  | cons line lines => exact List.cons_ne_nil _ _

/-- The pieces of an indented text are the indented lines. -/
theorem splitOn_reindent (config : Config) (text : Text) :
    (reindent config text).splitOn '\n' =
      indentedTexts config (State.initial config) text.lines := by
  apply Text.splitOn_joinLines (indentedTexts_ne_nil text.lines_ne_nil)
  intro piece hpiece hmem
  obtain ⟨line, hline, hint, rfl⟩ := exists_of_mem_indentedTexts hpiece
  rcases hint.mem_of_mem_indentLine line hmem with h | h
  · cases h
  · exact Text.not_mem_of_mem_lines hline h

/-- No indented line ends in a carriage return, unless a piece of the text ends in two of them. -/
theorem getLast?_of_mem_splitOn_reindent {text : Text}
    (h : ∀ piece ∈ text.splitOn '\n', ¬ ['\r', '\r'] <:+ piece) {piece : Text}
    (hpiece : piece ∈ (reindent config text).splitOn '\n') : piece.getLast? ≠ some '\r' := by
  rw [splitOn_reindent] at hpiece
  obtain ⟨line, hline, hint, rfl⟩ := exists_of_mem_indentedTexts hpiece
  obtain ⟨old, hold, rfl⟩ := List.mem_map.1 hline
  intro hlast
  have hne : hint.indentLine old.dropReturn ≠ [] := by rintro hnil; simp [hnil] at hlast
  rw [hint.getLast?_indentLine _ hne] at hlast
  exact Text.getLast?_dropReturn (h old hold) hlast

/-- The lines of an indented text are the indented lines, where none ends in a carriage return. -/
theorem lines_reindent {text : Text}
    (h : ∀ piece ∈ (reindent config text).splitOn '\n', piece.getLast? ≠ some '\r') :
    (reindent config text).lines =
      indentedTexts config (State.initial config) text.lines :=
  (Text.lines_eq_splitOn h).trans (splitOn_reindent config text)

end

end SyntaxMode
