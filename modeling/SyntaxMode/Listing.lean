import SyntaxMode.Document.Basic
import SyntaxMode.Hints
import SyntaxMode.Json.Printer
import SyntaxMode.Json.StateForm
import SyntaxMode.Text.Quoted

/-!
# Listings

The spans of a document in two forms. The record listing has one record for each span that is not
blank, with the number of its line, its bytes, its style and its text; the text is quoted, so a
record never runs over its line. The JSON listing has all spans, line by line.
-/

namespace SyntaxMode.Listing

/-- The digits of a number. -/
def digits (n : Nat) : Text := Nat.toDigits 10 n

/-- The name of the style of a span, or a dash for an uncolored one. -/
def styleName : Option Style → Text
  | some style => style.name.toList
  | none => ['-']

/-- The record of a span with a given text, in the line of a number. -/
def record (number : Nat) (span : Span) (lexeme : Text) : Text :=
  digits number ++ [':'] ++ digits span.start ++ ['.', '.'] ++ digits span.stop ++ [' '] ++
    styleName span.style ++ [' '] ++ lexeme.quoted ++ ['\n']

/-- The record of a span of a line, or nothing if the span is blank. -/
def spanRecord (number : Nat) (text : Text) (span : Span) : Text :=
  let lexeme := (text.slice? span.start span.stop).getD []
  if lexeme.isAllBlank then [] else record number span lexeme

/-- The records of a line. -/
def lineRecords (number : Nat) (line : Line) : Text :=
  line.spans.flatMap (spanRecord number line.text)

/-- The record listing of lines, numbered from a number on. -/
def recordsFrom (number : Nat) : List Line → Text
  | [] => []
  | line :: rest => lineRecords number line ++ recordsFrom (number + 1) rest

/-- The record listing of a document. -/
def records (document : Document) : Text := recordsFrom 1 document.lines

/-! ## JSON -/

/-- A span as JSON. -/
def spanJson (span : Span) : Json := .object
  [("start", .integer span.start), ("end", .integer span.stop), ("style", Json.write span.style)]

/-- The lines as JSON, numbered from a number on. -/
def linesJson (number : Nat) : List Line → List Json
  | [] => []
  | line :: rest =>
    .object [("line", .integer number), ("spans", .array (line.spans.map spanJson))] ::
      linesJson (number + 1) rest

/-- The JSON listing of a document. -/
def json (document : Document) : String := (Json.array (linesJson 1 document.lines)).pretty

/-- The fixed facts about a mode as JSON. -/
def hintsJson (hints : Hints) : Json := .object
  [("name", .string hints.name), ("mime", .string hints.mediaType),
   ("electric_chars", .string hints.electricChars),
   ("close_brackets", .string hints.closeBrackets), ("fold", .string hints.fold.name),
   ("line_comment", .string hints.lineComment)]

end SyntaxMode.Listing
