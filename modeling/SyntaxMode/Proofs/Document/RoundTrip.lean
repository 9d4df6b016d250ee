import SyntaxMode.Proofs.Document.FullScan
import SyntaxMode.Proofs.Text.Lines

/-!
# Round trips through the text

The text of a document joins its lines, and a new document cuts it into lines again. The cut gives
the same lines back if there is one, none of them holds a line feed, and none ends in a carriage
return (`lines_joinLines_eq_iff`). Edits can break each of these conditions. The lines determine
whatever else a document knows, however it came by them (`Current.ofLines_lineTexts`), so the
document comes back exactly when its lines do (`ofText_text_eq_iff`). The other way round, a text
loses one carriage return at the end of each of its lines (`joinLines_lines`).
-/

namespace SyntaxMode

namespace Text

/-- Whether a line ends where a text goes on: with a line feed, or with nothing. -/
def atLineEnd (text : Text) : Bool := text.head?.all (· == '\n')

/-- A text without the carriage returns that end its lines, one for each line that ends in some. -/
def dropReturns : Text → Text
  | [] => []
  | c :: rest => if c = '\r' ∧ atLineEnd rest then dropReturns rest else c :: dropReturns rest

example : dropReturns "a\r\r\n\rb\r\n\r".toList = "a\r\n\rb\n".toList := by decide +kernel

/-! ## The lines of a text -/

/-- A line feed at the start of a text ends an empty line. -/
theorem lines_cons_newline (text : Text) : lines ('\n' :: text) = [] :: text.lines := by
  simp only [lines, List.splitOn_cons_eq_if_modifyHead, BEq.rfl, if_true]
  rfl

/-- A character other than a line feed belongs to the first line, before the carriage return that
the line may lose. -/
theorem exists_lines_cons {c : Char} (hc : c ≠ '\n') (text : Text) :
    ∃ (piece : Text) (rest : List Text), text.lines = piece.dropReturn :: rest ∧
      lines (c :: text) = dropReturn (c :: piece) :: rest ∧
      (piece = [] ↔ text.atLineEnd = true) := by
  obtain ⟨piece, pieces, hpieces⟩ := List.exists_cons_of_ne_nil (List.splitOn_ne_nil '\n' text)
  refine ⟨piece, pieces.map dropReturn, ?_, ?_, ?_⟩
  · rw [lines, hpieces, List.map_cons]
  · rw [lines, List.splitOn_cons_eq_if_modifyHead, if_neg (by simpa using hc), hpieces,
      List.modifyHead_cons, List.map_cons]
  · cases text with
    | nil =>
      cases hpieces
      simp [atLineEnd]
    | cons d text =>
      rw [List.splitOn_cons_eq_if_modifyHead] at hpieces
      by_cases hd : d = '\n'
      · rw [if_pos (by simpa using hd)] at hpieces
        cases hpieces
        simp [atLineEnd, hd]
      · rw [if_neg (by simpa using hd)] at hpieces
        obtain ⟨first, rest, hfirst⟩ :=
          List.exists_cons_of_ne_nil (List.splitOn_ne_nil '\n' text)
        rw [hfirst] at hpieces
        cases hpieces
        simp [atLineEnd, hd]

/-- A character before a line leaves the end of the line as it is, unless it is that end. -/
theorem dropReturn_cons {c : Char} {line : Text} (h : ¬ (c = '\r' ∧ line = [])) :
    dropReturn (c :: line) = c :: line.dropReturn := by
  cases line with
  | nil => exact dropReturn_eq_self (by simpa using h)
  | cons d line =>
    simp only [dropReturn, List.getLast?_cons_cons, List.dropLast_cons_cons]
    split <;> rfl

/-- The first character of the first line is the first one of the text. -/
theorem joinLines_cons_cons (c : Char) (line : Text) (lines : List Text) :
    joinLines ((c :: line) :: lines) = c :: joinLines (line :: lines) := by
  cases lines with
  | nil => simp [joinLines]
  | cons next lines => simp [joinLines, List.intercalate_cons_cons]

/-- **What a text loses.** The lines of a text make it up again, without the carriage returns that
end them. -/
theorem joinLines_lines (text : Text) : joinLines text.lines = text.dropReturns := by
  induction text with
  | nil => rfl
  | cons c text ih =>
    rw [dropReturns]
    by_cases hc : c = '\n'
    · subst hc
      have hreturn : ¬ ('\n' = '\r' ∧ atLineEnd text) := fun h => absurd h.1 (by decide)
      rw [lines_cons_newline, if_neg hreturn, ← ih, joinLines,
        List.intercalate_cons_of_ne_nil (lines_ne_nil text)]
      rfl
    · obtain ⟨piece, rest, htext, hlines, hpiece⟩ := exists_lines_cons hc text
      rw [htext] at ih
      rw [hlines, ← ih]
      by_cases hreturn : c = '\r' ∧ piece = []
      · rw [if_pos (hreturn.imp_right hpiece.1), hreturn.1, hreturn.2]
        rfl
      · rw [if_neg (mt (And.imp_right hpiece.2) hreturn), dropReturn_cons hreturn,
          joinLines_cons_cons]

/-- Lines that are joined and cut again come back if there is one, if none holds a line feed and if
none ends in a carriage return. -/
theorem lines_joinLines_eq_iff {pieces : List Text} :
    (joinLines pieces).lines = pieces ↔
      pieces ≠ [] ∧ ∀ piece ∈ pieces, '\n' ∉ piece ∧ piece.getLast? ≠ some '\r' := by
  constructor
  · intro h
    have hne : pieces ≠ [] := h ▸ lines_ne_nil (joinLines pieces)
    have hfeed : ∀ piece ∈ pieces, '\n' ∉ piece := fun piece hpiece =>
      not_mem_of_mem_lines (h.symm ▸ hpiece)
    refine ⟨hne, fun piece hpiece => ⟨hfeed piece hpiece, fun hreturn => ?_⟩⟩
    -- The cut would take the carriage return away.
    rw [lines, splitOn_joinLines hne hfeed] at h
    have hmap : pieces.map dropReturn = pieces.map id := h.trans (List.map_id pieces).symm
    have hcount := count_dropReturn_lt hreturn
    rw [List.map_inj_left.1 hmap piece hpiece] at hcount
    exact Nat.lt_irrefl _ hcount
  · rintro ⟨hne, h⟩
    have hpieces : (joinLines pieces).splitOn '\n' = pieces :=
      splitOn_joinLines hne fun piece hpiece => (h piece hpiece).1
    rw [lines_eq_splitOn (by rw [hpieces]; exact fun piece hpiece => (h piece hpiece).2), hpieces]

end Text

/-! ## Documents -/

namespace Document

/-- A current document is the one that is made of its lines. -/
theorem Current.ofLines_lineTexts {document : Document} (h : document.Current) :
    ofLines document.config document.lineTexts = document :=
  congrArg (Document.mk document.config) h.symm

/-- **When a document survives in its text.** After any edits, the document that is made of the
text has the same lines, with the same spans and states, exactly if there is a line, no line holds
a line feed and no line ends in a carriage return. The text of a new document is the one that it
was made of, without the carriage returns that end the lines. -/
theorem ofText_text_eq_iff (config : Config) (text : Text) (edits : List Edit) :
    let document := (ofText config text).applyAll edits
    (ofText config document.text = document ↔
        document.lineTexts ≠ [] ∧
          ∀ line ∈ document.lineTexts, '\n' ∉ line ∧ line.getLast? ≠ some '\r') ∧
      (ofText config text).text = text.dropReturns := by
  intro document
  have hconfig : document.config = config := config_applyAll (ofText config text) edits
  have hcurrent : document.Current := ((current_ofText config text).applyAll edits).1
  refine ⟨?_, ?_⟩
  · rw [← Text.lines_joinLines_eq_iff]
    constructor
    · intro h
      have htexts := congrArg lineTexts h
      rwa [ofText, lineTexts_ofLines] at htexts
    · intro h
      have hlines : ofText config document.text = ofLines document.config document.lineTexts := by
        rw [ofText, Document.text, h, hconfig]
      rw [hlines, hcurrent.ofLines_lineTexts]
  · rw [Document.text, ofText, lineTexts_ofLines, Text.joinLines_lines]

end Document

end SyntaxMode
