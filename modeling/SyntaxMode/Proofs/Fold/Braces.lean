import SyntaxMode.Fold
import SyntaxMode.Proofs.Document.Spans

/-!
# The braces of a document

The braces of a document, line by line, in the order in which they stand: the uncolored spans whose
text is one brace (`mem_braces_iff`). The spans of a line of a current document tile it, so of two
braces the first one ends before the second one begins (`Current.pairwise_braces`).
-/

namespace SyntaxMode

/-- Places come in the order of their lines, and on one line in the order of their offsets. -/
instance : LT Position where
  lt first second :=
    first.line < second.line ∨ first.line = second.line ∧ first.column < second.column

namespace Position

variable {first second third : Position}

/-- The order of places, written out. -/
theorem lt_iff : first < second ↔
    first.line < second.line ∨ first.line = second.line ∧ first.column < second.column := Iff.rfl

/-- A place before one that is before a third is before the third as well. -/
theorem lt_trans (h : first < second) (h' : second < third) : first < third := by
  rw [lt_iff] at h h' ⊢
  omega

/-- No place is before itself. -/
theorem lt_irrefl : ¬ first < first := by
  rw [lt_iff]
  omega

end Position

namespace Brace

/-- The character of a brace. -/
def char (brace : Brace) : Char := if brace.opens then '{' else '}'

/-- Whether a brace is one of a line: an uncolored span of it that has just the brace as its
text. -/
structure IsOf (line : Line) (brace : Brace) : Prop where
  span : brace.span ∈ line.spans
  style : brace.span.style = none
  text : line.text.slice? brace.span.start brace.span.stop = some [brace.char]

/-- The place where a brace begins. -/
def start (brace : Brace) : Position := ⟨brace.line, brace.span.start⟩

/-- The place where a brace ends. -/
def stop (brace : Brace) : Position := ⟨brace.line, brace.span.stop⟩

/-- Whether a brace ends where another one begins, or before that. -/
def Precedes (first second : Brace) : Prop :=
  first.line < second.line ∨ first.line = second.line ∧ first.span.stop ≤ second.span.start

/-- The braces of lines that follow one another, of which the first has an index. -/
def ofLines (index : Nat) : List Line → List Brace
  | [] => []
  | line :: rest => ofLine index line ++ ofLines (index + 1) rest

end Brace

/-- The braces of a document. -/
def Document.braces (document : Document) : List Brace := Brace.ofLines 0 document.lines

/-! ## Braces -/

namespace Brace

variable {index : Nat} {line : Line} {lines : List Line} {brace : Brace}

/-- A span is a brace if it is uncolored and its text is one brace. -/
theorem ofSpan?_eq_some_iff {text : Text} {span : Span} :
    ofSpan? index text span = some brace ↔
      brace.line = index ∧ brace.span = span ∧ span.style = none ∧
        text.slice? span.start span.stop = some [brace.char] := by
  obtain ⟨opens, braceLine, braceSpan⟩ := brace
  rw [ofSpan?]
  cases hstyle : span.style with
  | some style => simp
  | none =>
    rw [Option.isSome_none, if_neg Bool.false_ne_true]
    constructor
    · intro h
      split at h
      case h_3 => cases h
      all_goals
        next hslice =>
        cases h
        exact ⟨rfl, rfl, rfl, hslice⟩
    · rintro ⟨rfl, rfl, -, hslice⟩
      rw [hslice]
      cases opens <;> rfl

/-- A brace of a line stands in it, at one of its spans. -/
theorem line_and_span_of_ofSpan? {text : Text} {span : Span}
    (h : ofSpan? index text span = some brace) : brace.line = index ∧ brace.span = span :=
  ⟨(ofSpan?_eq_some_iff.1 h).1, (ofSpan?_eq_some_iff.1 h).2.1⟩

/-- The braces of a line are its uncolored spans whose text is one brace. -/
theorem mem_ofLine_iff : brace ∈ ofLine index line ↔ brace.line = index ∧ brace.IsOf line := by
  rw [ofLine, List.mem_filterMap]
  constructor
  · rintro ⟨span, hspan, hbrace⟩
    obtain ⟨hline, rfl, hstyle, htext⟩ := ofSpan?_eq_some_iff.1 hbrace
    exact ⟨hline, hspan, hstyle, htext⟩
  · rintro ⟨hline, hspan, hstyle, htext⟩
    exact ⟨brace.span, hspan, ofSpan?_eq_some_iff.2 ⟨hline, rfl, hstyle, htext⟩⟩

/-- The braces of lines are those of each of them, in the line of its index. -/
theorem mem_ofLines_iff :
    brace ∈ ofLines index lines ↔
      ∃ offset line, lines[offset]? = some line ∧ brace.line = index + offset ∧
        brace.IsOf line := by
  induction lines generalizing index with
  | nil => simp [ofLines]
  | cons first rest ih =>
    rw [ofLines, List.mem_append, mem_ofLine_iff, ih]
    constructor
    · rintro (⟨hline, hbrace⟩ | ⟨offset, line, hoffset, hline, hbrace⟩)
      · exact ⟨0, first, rfl, hline, hbrace⟩
      · exact ⟨offset + 1, line, hoffset, by omega, hbrace⟩
    · rintro ⟨_ | offset, line, hoffset, hline, hbrace⟩
      · cases hoffset
        exact .inl ⟨hline, hbrace⟩
      · exact .inr ⟨offset, line, hoffset, by omega, hbrace⟩

/-- The braces of lines are those of the lines above an index and those of the lines below it. -/
theorem ofLines_append (above below : List Line) :
    ofLines index (above ++ below) =
      ofLines index above ++ ofLines (index + above.length) below := by
  induction above generalizing index with
  | nil => rfl
  | cons line above ih =>
    rw [List.cons_append, ofLines, ofLines, ih, List.append_assoc, List.length_cons, Nat.add_assoc,
      Nat.add_comm 1]

/-- The braces of lines stand in them: on the first one, or below it. -/
theorem le_line_of_mem_ofLines (h : brace ∈ ofLines index lines) : index ≤ brace.line := by
  obtain ⟨offset, line, -, hline, -⟩ := mem_ofLines_iff.1 h
  omega

/-- The braces of the lines above an index stand above it. -/
theorem line_lt_of_mem_ofLines (h : brace ∈ ofLines index lines) :
    brace.line < index + lines.length := by
  obtain ⟨offset, line, hoffset, hline, -⟩ := mem_ofLines_iff.1 h
  have hlt := (List.getElem?_eq_some_iff.1 hoffset).1
  omega

/-- The braces of a line stand one behind the other. -/
theorem pairwise_ofLine {stop : Nat} (h : Tile 0 stop line.spans) :
    (ofLine index line).Pairwise Precedes := by
  rw [ofLine, List.pairwise_filterMap]
  refine h.pairwise.imp ?_
  intro first second hle brace hbrace other hother
  obtain ⟨hline, rfl⟩ := line_and_span_of_ofSpan? hbrace
  obtain ⟨hline', rfl⟩ := line_and_span_of_ofSpan? hother
  exact .inr ⟨hline.trans hline'.symm, hle⟩

/-- The braces of lines stand one behind the other. -/
theorem pairwise_ofLines (h : ∀ line ∈ lines, Tile 0 line.text.byteLength line.spans) :
    (ofLines index lines).Pairwise Precedes := by
  induction lines generalizing index with
  | nil => exact .nil
  | cons line rest ih =>
    refine List.pairwise_append.2 ⟨pairwise_ofLine (h line List.mem_cons_self),
      ih fun other hother => h other (List.mem_cons_of_mem _ hother), ?_⟩
    intro first hfirst second hsecond
    have hline := (mem_ofLine_iff.1 hfirst).1
    have hle := le_line_of_mem_ofLines hsecond
    exact .inl (by omega)

end Brace

namespace Document

/-- The braces of a document are the uncolored spans of its lines whose text is one brace. -/
theorem mem_braces_iff {document : Document} {brace : Brace} :
    brace ∈ document.braces ↔
      ∃ line, document.lines[brace.line]? = some line ∧ brace.IsOf line := by
  simp only [braces, Brace.mem_ofLines_iff, Nat.zero_add]
  constructor
  · rintro ⟨_, line, hline, rfl, hbrace⟩
    exact ⟨line, hline, hbrace⟩
  · rintro ⟨line, hline, hbrace⟩
    exact ⟨_, line, hline, rfl, hbrace⟩

/-- The braces of a document are those above a line, those on it and those below. -/
theorem braces_eq_append {document : Document} {index : Nat} {line : Line}
    (h : document.lines[index]? = some line) :
    document.braces = Brace.ofLines 0 (document.lines.take index) ++
      (Brace.ofLine index line ++
        Brace.ofLines (index + 1) (document.lines.drop (index + 1))) := by
  obtain ⟨hindex, rfl⟩ := List.getElem?_eq_some_iff.1 h
  have hlength : (document.lines.take index).length = index :=
    List.length_take_of_le (Nat.le_of_lt hindex)
  conv => lhs; rw [braces, ← List.take_append_drop index document.lines]
  rw [Brace.ofLines_append, hlength, Nat.zero_add, List.drop_eq_getElem_cons hindex, Brace.ofLines]

/-- **The order of braces.** The braces of a current document are not empty, and of each two the
first one ends before the second one begins. -/
theorem Current.pairwise_braces {document : Document} (h : document.Current) :
    document.braces.Pairwise Brace.Precedes ∧
      ∀ brace ∈ document.braces, brace.span.start < brace.span.stop := by
  refine ⟨Brace.pairwise_ofLines fun line hline => h.tile hline, ?_⟩
  intro brace hbrace
  obtain ⟨line, hline, hof⟩ := mem_braces_iff.1 hbrace
  exact ((h.tile (List.mem_of_getElem? hline)).forall_mem _ hof.span).2

end Document

end SyntaxMode
