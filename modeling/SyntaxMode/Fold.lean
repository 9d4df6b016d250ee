import SyntaxMode.Document.Basic

/-!
# Folding

A line folds if its last brace that opens is closed on a later line: from right behind the one to
right before the other. Only uncolored braces count, so none in strings or comments.
-/

namespace SyntaxMode

/-- A place in a document: a line, and a byte offset in it. -/
structure Position where
  line : Nat
  column : Nat
  deriving DecidableEq, Repr

/-- What a fold hides. -/
structure Fold where
  start : Position
  stop : Position
  deriving DecidableEq, Repr

/-- An uncolored brace in a document. -/
structure Brace where
  /-- Whether the brace opens. -/
  opens : Bool
  line : Nat
  span : Span
  deriving DecidableEq, Repr

namespace Brace

/-- The brace that a span of a line is, if it is one. -/
def ofSpan? (index : Nat) (text : Text) (span : Span) : Option Brace :=
  if span.style.isSome then none
  else
    match text.slice? span.start span.stop with
    | some ['{'] => some ⟨true, index, span⟩
    | some ['}'] => some ⟨false, index, span⟩
    | _ => none

/-- The braces of a line. -/
def ofLine (index : Nat) (line : Line) : List Brace :=
  line.spans.filterMap (ofSpan? index line.text)

/-- The last brace that opens, and the braces behind it. -/
def lastOpener? : List Brace → Option (Brace × List Brace)
  | [] => none
  | brace :: rest =>
    match lastOpener? rest with
    | some found => some found
    | none => if brace.opens then some (brace, rest) else none

/-- Looks for the brace that closes what `depth` braces inside of it still leave open. Answers that
brace, or how many are left open at the end. -/
def closer (depth : Nat) : List Brace → Except Nat Brace
  | [] => .error depth
  | brace :: rest =>
    if brace.opens then closer (depth + 1) rest
    else
      match depth with
      | 0 => .ok brace
      | inner + 1 => closer inner rest

/-- Looks for the closing brace in further lines, from an index on. -/
def closerInLines? (depth index : Nat) : List Line → Option Brace
  | [] => none
  | line :: rest =>
    match closer depth (ofLine index line) with
    | .ok brace => some brace
    | .error depth => closerInLines? depth (index + 1) rest

end Brace

/-- What the line of an index folds, if anything. -/
def Document.fold? (document : Document) (index : Nat) : Option Fold := do
  let line ← document.lines[index]?
  let (opener, behind) ← Brace.lastOpener? (Brace.ofLine index line)
  match Brace.closer 0 behind with
  | .ok _ => none
  | .error depth =>
    let closer ← Brace.closerInLines? depth (index + 1) (document.lines.drop (index + 1))
    return ⟨⟨opener.line, opener.span.stop⟩, ⟨closer.line, closer.span.start⟩⟩

end SyntaxMode
