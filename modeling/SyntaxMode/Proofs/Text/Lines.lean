import Mathlib.Data.List.TakeWhile
import SyntaxMode.Text.Blank

/-!
# Pieces, lines and blanks

A text is cut into pieces at its line feeds, and a line is a piece without the carriage return at
its end. Cutting joined pieces gives them back (`splitOn_joinLines`), and they are the lines as
well where none ends in a carriage return (`lines_eq_splitOn`). What is left of a line without the
blanks at its start ends as the line does (`getLast?_trimStart`).
-/

namespace SyntaxMode.Text

/-! ## Pieces -/

/-- No piece holds a line feed. -/
theorem not_mem_of_mem_splitOn {text piece : Text} (h : piece ∈ text.splitOn '\n') :
    '\n' ∉ piece := by
  induction text generalizing piece with
  | nil => simp_all
  | cons c text ih =>
    rw [List.splitOn_cons_eq_if_modifyHead] at h
    split at h
    next =>
      rcases List.mem_cons.1 h with rfl | h
      · exact List.not_mem_nil
      · exact ih h
    next hc =>
      cases hpieces : text.splitOn '\n' with
      | nil => exact absurd hpieces (List.splitOn_ne_nil '\n' text)
      | cons first rest =>
        rw [hpieces] at h ih
        rcases List.mem_cons.1 h with rfl | h
        · have hfirst := ih List.mem_cons_self
          rw [List.mem_cons, not_or]
          exact ⟨fun h => hc (by rw [← h]; rfl), hfirst⟩
        · exact ih (List.mem_cons_of_mem _ h)

/-- Cutting joined pieces at the line feeds gives them back. -/
theorem splitOn_joinLines {pieces : List Text} (hne : pieces ≠ [])
    (h : ∀ piece ∈ pieces, '\n' ∉ piece) : (joinLines pieces).splitOn '\n' = pieces :=
  List.splitOn_intercalate '\n' h hne

/-! ## Carriage returns -/

/-- A line that does not end in a carriage return loses nothing. -/
theorem dropReturn_eq_self {line : Text} (h : line.getLast? ≠ some '\r') :
    line.dropReturn = line := if_neg h

/-- A line is part of its piece. -/
theorem dropReturn_isPrefix (piece : Text) : piece.dropReturn <+: piece := by
  rw [dropReturn]
  split
  · exact List.dropLast_prefix piece
  · exact List.prefix_rfl

/-- A line that ends in a carriage return loses one of them. -/
theorem count_dropReturn_lt {line : Text} (h : line.getLast? = some '\r') :
    line.dropReturn.count '\r' < line.count '\r' := by
  rw [dropReturn, if_pos h]
  obtain ⟨front, rfl⟩ := List.getLast?_eq_some_iff.1 h
  simp

/-- Only a piece that ends in two carriage returns keeps one of them at the end of its line. -/
theorem getLast?_dropReturn {piece : Text} (h : ¬ ['\r', '\r'] <:+ piece) :
    piece.dropReturn.getLast? ≠ some '\r' := by
  intro hlast
  by_cases hend : piece.getLast? = some '\r'
  · obtain ⟨front, rfl⟩ := List.getLast?_eq_some_iff.1 hend
    rw [dropReturn, if_pos hend, List.dropLast_concat] at hlast
    obtain ⟨front, rfl⟩ := List.getLast?_eq_some_iff.1 hlast
    exact h ⟨front, by simp⟩
  · rw [dropReturn_eq_self hend] at hlast
    exact hend hlast

/-- Where no piece ends in a carriage return, the lines of a text are its pieces. -/
theorem lines_eq_splitOn {text : Text}
    (h : ∀ piece ∈ text.splitOn '\n', piece.getLast? ≠ some '\r') :
    text.lines = text.splitOn '\n' :=
  (List.map_congr_left fun piece hpiece => dropReturn_eq_self (h piece hpiece)).trans
    (List.map_id _)

/-- A text has at least one line. -/
theorem lines_ne_nil (text : Text) : text.lines ≠ [] := by
  simp [lines]

/-- No line holds a line feed. -/
theorem not_mem_of_mem_lines {text line : Text} (h : line ∈ text.lines) : '\n' ∉ line := by
  obtain ⟨piece, hpiece, rfl⟩ := List.mem_map.1 h
  intro hmem
  exact not_mem_of_mem_splitOn hpiece ((dropReturn_isPrefix piece).subset hmem)

/-! ## Blanks at the start -/

@[simp] theorem trimStart_nil : trimStart [] = [] := rfl

/-- Blanks and what is left without them make up a text. -/
theorem takeWhile_append_trimStart (text : Text) :
    text.takeWhile isBlank ++ text.trimStart = text :=
  List.takeWhile_append_dropWhile

/-- What is left starts with no blank. -/
theorem isBlank_of_trimStart_eq {text : Text} {c : Char} {rest : Text}
    (h : text.trimStart = c :: rest) : isBlank c = false := by
  have hc := List.head?_dropWhile_not isBlank text
  rw [show List.dropWhile isBlank text = c :: rest from h] at hc
  simpa using hc

/-- Blanks before a text are dropped. -/
theorem trimStart_append {blanks : Text} (h : ∀ c ∈ blanks, isBlank c) (text : Text) :
    (blanks ++ text).trimStart = text.trimStart :=
  List.dropWhile_append_of_pos h

/-- Nothing more is dropped the second time. -/
@[simp] theorem trimStart_trimStart (text : Text) : text.trimStart.trimStart = text.trimStart :=
  List.dropWhile_eq_self_iff.2 fun h => by
    obtain ⟨c, rest, hrest⟩ := List.exists_cons_of_length_pos h
    simp [hrest, isBlank_of_trimStart_eq hrest]

/-- A text is blank if nothing of it is left without its blanks. -/
theorem trimStart_eq_nil_iff {text : Text} : text.trimStart = [] ↔ text.isAllBlank = true := by
  rw [trimStart, List.dropWhile_eq_nil_iff, isAllBlank, List.all_eq_true]

/-- A line that is not blank has something left behind its leading blanks. -/
theorem trimStart_ne_nil {text : Text} (h : text.isAllBlank = false) : text.trimStart ≠ [] := by
  intro hnil
  rw [trimStart_eq_nil_iff, h] at hnil
  cases hnil

/-- What is left of a text ends as the text does. -/
theorem getLast?_trimStart {text : Text} (h : text.trimStart ≠ []) :
    text.trimStart.getLast? = text.getLast? := by
  conv => rhs; rw [← takeWhile_append_trimStart text]
  rw [List.getLast?_append, List.getLast?_eq_some_getLast h, Option.some_or]

end SyntaxMode.Text
