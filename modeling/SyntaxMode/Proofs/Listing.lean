import SyntaxMode.Listing
import SyntaxMode.Proofs.Document.Spans
import SyntaxMode.Proofs.Text.Quoted

/-!
# The record listing

A record is made for each span whose text is not blank, and the listing is the records one behind
the other (`recordsFrom_eq`). Spans are left out by their texts and not by their styles, but blanks
are passed before a lexeme is read, so a span with a style never is blank
(`Current.listed_or_blank`). No record holds a line feed, since digits and the names of styles do
not, and a quoted text has none left. So the lines of the listing are its records, in the order of
the spans (`records_listed`), and each of them tells the span and its text
(`Entry.text_injective`).
-/

namespace SyntaxMode

namespace Listing

/-! ## The parts of a record -/

/-- Numbers are written in decimal digits, so without the characters between the parts of a record
and without the line feed at its end. -/
theorem not_mem_digits (n : Nat) :
    ':' ∉ digits n ∧ '.' ∉ digits n ∧ ' ' ∉ digits n ∧ '\n' ∉ digits n := by
  refine ⟨?_, ?_, ?_, ?_⟩ <;> exact not_mem_toDigits (by decide) (by decide) (by decide) n

/-- Two numbers are written by two rows of digits. -/
theorem digits_injective : Function.Injective digits := toDigits_injective (by decide) (by decide)

/-- The name of a style is one word. -/
theorem not_mem_styleName (style : Option Style) :
    ' ' ∉ styleName style ∧ '\n' ∉ styleName style := by
  cases style with
  | none => decide
  | some style => cases style <;> decide

/-- Two styles have two names, and no style has the name that stands for none. -/
theorem styleName_injective : Function.Injective styleName := by
  have hdash (style : Style) : style.name.toList ≠ ['-'] := by cases style <;> decide
  rintro (_ | style) (_ | other) h
  · rfl
  · exact absurd h.symm (hdash other)
  · exact absurd h (hdash style)
  · have hname : style.name = other.name := String.toList_inj.1 h
    rw [← Style.ofName?_name style, hname, Style.ofName?_name]

/-! ## Entries -/

/-- What a record tells of: the index of a line, a span of it, and the text of the span. -/
structure Entry where
  index : Nat
  span : Span
  lexeme : Text
  deriving DecidableEq, Repr

namespace Entry

/-- The record of an entry, up to the line feed at its end. Lines are numbered from 1. -/
def text (entry : Entry) : Text :=
  digits (entry.index + 1) ++ [':'] ++ digits entry.span.start ++ ['.', '.'] ++
    digits entry.span.stop ++ [' '] ++ styleName entry.span.style ++ [' '] ++ entry.lexeme.quoted

/-- Whether an entry is that of a span of a document, and the span is not blank. -/
def IsOf (document : Document) (entry : Entry) : Prop :=
  ∃ line, document.lines[entry.index]? = some line ∧ entry.span ∈ line.spans ∧
    line.text.slice? entry.span.start entry.span.stop = some entry.lexeme ∧
    entry.lexeme.isAllBlank = false

/-- Whether an entry is listed before another one: by its line, and on one line by its start. -/
def Precedes (first second : Entry) : Prop :=
  first.index < second.index ∨
    first.index = second.index ∧ first.span.start < second.span.start

/-- The entry of a span of a line, unless the span is blank. -/
def ofSpan? (index : Nat) (text : Text) (span : Span) : Option Entry :=
  match text.slice? span.start span.stop with
  | some lexeme => if lexeme.isAllBlank then none else some ⟨index, span, lexeme⟩
  | none => none

/-- The entries of a line. -/
def ofLine (index : Nat) (line : Line) : List Entry :=
  line.spans.filterMap (ofSpan? index line.text)

/-- The entries of lines, of which the first has an index. -/
def ofLines (index : Nat) (lines : List Line) : List Entry :=
  (lines.zipIdx index).flatMap fun place => ofLine place.2 place.1

/-- The record of an entry has no line feed before its end. -/
theorem newline_not_mem_text (entry : Entry) : '\n' ∉ entry.text := by
  simp [text, not_mem_digits, not_mem_styleName, Text.newline_not_mem_quoted]

/-- **Records can be read back.** Two entries have two records: the number of the line, the bytes,
the style and the text of a span can be told from its record. -/
theorem text_injective : Function.Injective text := by
  rintro ⟨index, ⟨start, stop, style⟩, lexeme⟩ ⟨index', ⟨start', stop', style'⟩, lexeme'⟩ h
  simp only [text, List.append_assoc, List.cons_append, List.nil_append] at h
  obtain ⟨hindex, h⟩ :=
    append_cons_inj_of_not_mem (not_mem_digits _).1 (not_mem_digits _).1 h
  obtain ⟨hstart, h⟩ :=
    append_cons_inj_of_not_mem (not_mem_digits _).2.1 (not_mem_digits _).2.1 h
  obtain ⟨hstop, h⟩ :=
    append_cons_inj_of_not_mem (not_mem_digits _).2.2.1 (not_mem_digits _).2.2.1
      (List.cons.inj h).2
  obtain ⟨hstyle, hlexeme⟩ :=
    append_cons_inj_of_not_mem (not_mem_styleName _).1 (not_mem_styleName _).1 h
  rw [Nat.succ.inj (digits_injective hindex), digits_injective hstart, digits_injective hstop,
    styleName_injective hstyle, Text.quoted_injective hlexeme]

variable {index : Nat} {line : Line} {entry : Entry}

/-- A span has an entry if it is a part of its line that is not blank. -/
theorem ofSpan?_eq_some_iff {text : Text} {span : Span} :
    ofSpan? index text span = some entry ↔
      entry.index = index ∧ entry.span = span ∧
        text.slice? span.start span.stop = some entry.lexeme ∧
        entry.lexeme.isAllBlank = false := by
  obtain ⟨entryIndex, entrySpan, lexeme⟩ := entry
  rw [ofSpan?]
  cases text.slice? span.start span.stop with
  | none => simp
  | some slice =>
    dsimp only
    rw [Option.ite_none_left_eq_some, Bool.not_eq_true, Option.some.injEq, Option.some.injEq,
      Entry.mk.injEq]
    constructor
    · rintro ⟨hblank, rfl, rfl, rfl⟩
      exact ⟨rfl, rfl, rfl, hblank⟩
    · rintro ⟨rfl, rfl, rfl, hblank⟩
      exact ⟨hblank, rfl, rfl, rfl⟩

/-- The entries of a line are those of its spans that are not blank. -/
theorem mem_ofLine_iff :
    entry ∈ ofLine index line ↔
      entry.index = index ∧ entry.span ∈ line.spans ∧
        line.text.slice? entry.span.start entry.span.stop = some entry.lexeme ∧
        entry.lexeme.isAllBlank = false := by
  rw [ofLine, List.mem_filterMap]
  constructor
  · rintro ⟨span, hspan, hentry⟩
    obtain ⟨hindex, rfl, hlexeme⟩ := ofSpan?_eq_some_iff.1 hentry
    exact ⟨hindex, hspan, hlexeme⟩
  · rintro ⟨hindex, hspan, hlexeme⟩
    exact ⟨entry.span, hspan, ofSpan?_eq_some_iff.2 ⟨hindex, rfl, hlexeme⟩⟩

/-- The entries of the lines of a document are those of its spans that are not blank. -/
theorem mem_ofLines_iff {document : Document} :
    entry ∈ ofLines 0 document.lines ↔ entry.IsOf document := by
  rw [ofLines, List.mem_flatMap]
  constructor
  · rintro ⟨⟨line, index⟩, hline, hentry⟩
    obtain ⟨rfl, hlisted⟩ := mem_ofLine_iff.1 hentry
    exact ⟨line, List.mem_zipIdx_iff_getElem?.1 hline, hlisted⟩
  · rintro ⟨line, hline, hlisted⟩
    exact ⟨(line, entry.index), List.mem_zipIdx_iff_getElem?.2 hline,
      mem_ofLine_iff.2 ⟨rfl, hlisted⟩⟩

/-- The entries of a line are in the order of their starts. -/
theorem pairwise_ofLine {stop : Nat} (h : Tile 0 stop line.spans) :
    (ofLine index line).Pairwise Precedes := by
  rw [ofLine, List.pairwise_filterMap]
  refine h.pairwise.imp_of_mem ?_
  rintro first second hfirst - hle entry hentry other hother
  obtain ⟨hindex, rfl, -⟩ := ofSpan?_eq_some_iff.1 hentry
  obtain ⟨hindex', rfl, -⟩ := ofSpan?_eq_some_iff.1 hother
  exact .inr ⟨hindex.trans hindex'.symm, Nat.lt_of_lt_of_le (h.forall_mem _ hfirst).2 hle⟩

/-- The entries of lines are in the order of the lines. -/
theorem pairwise_ofLines {lines : List Line}
    (h : ∀ line ∈ lines, Tile 0 line.text.byteLength line.spans) :
    (ofLines index lines).Pairwise Precedes := by
  have hindexes : (lines.zipIdx index).Pairwise fun place other => place.2 < other.2 := by
    rw [← List.pairwise_map (f := Prod.snd), List.zipIdx_map_snd]
    exact List.pairwise_lt_range' 1
  rw [ofLines, List.pairwise_flatMap]
  refine ⟨fun place hplace => pairwise_ofLine (h _ (List.fst_mem_of_mem_zipIdx hplace)),
    hindexes.imp ?_⟩
  intro place other hlt entry hentry entry' hentry'
  rw [(mem_ofLine_iff.1 hentry).1.symm, (mem_ofLine_iff.1 hentry').1.symm] at hlt
  exact .inl hlt

end Entry

/-! ## Records -/

/-- What is listed for a span is the record of its entry, if it has one. -/
theorem spanRecord_eq (index : Nat) (text : Text) (span : Span) :
    spanRecord (index + 1) text span =
      (Entry.ofSpan? index text span).toList.flatMap fun entry => entry.text ++ ['\n'] := by
  rw [spanRecord, Entry.ofSpan?]
  cases text.slice? span.start span.stop with
  | none => rfl
  | some lexeme =>
    dsimp only [Option.getD_some]
    by_cases hblank : lexeme.isAllBlank = true
    · rw [if_pos hblank, if_pos hblank]
      rfl
    · rw [if_neg hblank, if_neg hblank]
      exact (List.append_nil _).symm

/-- What is listed for a line is the records of its entries. -/
theorem lineRecords_eq (index : Nat) (line : Line) :
    lineRecords (index + 1) line =
      (Entry.ofLine index line).flatMap fun entry => entry.text ++ ['\n'] := by
  rw [lineRecords, Entry.ofLine, List.filterMap_eq_flatMap_toList, List.flatMap_assoc]
  exact congrArg (List.flatMap · line.spans) (funext (spanRecord_eq index line.text))

/-- The listing of lines is the records of their entries. -/
theorem recordsFrom_eq (index : Nat) (lines : List Line) :
    recordsFrom (index + 1) lines =
      (Entry.ofLines index lines).flatMap fun entry => entry.text ++ ['\n'] := by
  induction lines generalizing index with
  | nil => rfl
  | cons line rest ih =>
    rw [recordsFrom, ih, lineRecords_eq, Entry.ofLines, Entry.ofLines, List.zipIdx_cons,
      List.flatMap_cons, List.flatMap_append]

end Listing

/-- A span of a current document shows a part of its line, which is listed, or the span is
uncolored and its part of the line is blank. -/
theorem Document.Current.listed_or_blank {document : Document} (h : document.Current) {index : Nat}
    {line : Line} (hline : document.lines[index]? = some line) {span : Span}
    (hspan : span ∈ line.spans) :
    ∃ lexeme, line.text.slice? span.start span.stop = some lexeme ∧
      (Listing.Entry.IsOf document ⟨index, span, lexeme⟩ ∨
        (span.style = none ∧ lexeme.isAllBlank = true)) := by
  obtain ⟨lexeme, hslice, hblank | ⟨c, hhead, hc⟩⟩ :=
    h.blank_or_of_mem_spans (List.mem_of_getElem? hline) hspan
  · exact ⟨lexeme, hslice, .inr hblank⟩
  · refine ⟨lexeme, hslice, .inl ⟨line, hline, hspan, hslice, ?_⟩⟩
    rw [Text.isAllBlank, List.all_eq_false]
    exact ⟨c, List.mem_of_head? hhead, by simp [hc]⟩

namespace Listing

/-- **A record for each lexeme.** The record listing of a document after any edits is one record
behind the other, each with a line feed at its end and none before. They are the records of the
spans that are not blank, each span once, in the order of the lines and on one line in the order of
the starts. Each span shows a part of its line, and one that has a style is listed: the others are
uncolored, and blank. What is listed can be read off its record, which has the text of the span
between quotes: as it is if all of its characters are printed ones of ASCII, quotes and backslashes
apart, and in any case so that no other text has that form. -/
theorem records_listed (config : Config) (text : Text) (edits : List Edit) :
    let document := (Document.ofText config text).applyAll edits
    (∃ listed : List Entry, records document = listed.flatMap (fun entry => entry.text ++ ['\n']) ∧
      (∀ entry ∈ listed, '\n' ∉ entry.text) ∧ listed.Pairwise Entry.Precedes ∧
      ∀ entry, entry ∈ listed ↔ entry.IsOf document) ∧
    (∀ index line, document.lines[index]? = some line → ∀ span ∈ line.spans,
      ∃ lexeme, line.text.slice? span.start span.stop = some lexeme ∧
        (Entry.IsOf document ⟨index, span, lexeme⟩ ∨
          (span.style = none ∧ lexeme.isAllBlank = true))) ∧
    Function.Injective Entry.text ∧ Function.Injective Text.quoted ∧
      ∀ lexeme : Text, (∀ c ∈ lexeme, 32 ≤ c.toNat ∧ c.toNat < 127 ∧ c ≠ '"' ∧ c ≠ '\\') →
        lexeme.quoted = '"' :: lexeme ++ ['"'] := by
  intro document
  have hcurrent : document.Current :=
    ((Document.current_ofText config text).applyAll edits).1
  refine ⟨⟨Entry.ofLines 0 document.lines, recordsFrom_eq 0 document.lines, ?_, ?_, ?_⟩, ?_,
    Entry.text_injective, Text.quoted_injective, fun lexeme => Text.quoted_eq_of_ascii⟩
  · exact fun entry _ => entry.newline_not_mem_text
  · exact Entry.pairwise_ofLines fun line hline => hcurrent.tile hline
  · exact fun entry => Entry.mem_ofLines_iff
  · exact fun index line hline span hspan => hcurrent.listed_or_blank hline hspan

end Listing

end SyntaxMode
