import SyntaxMode.Column
import SyntaxMode.Text.Blank

/-!
# The cursor in a line

A cursor stands between two characters of a line and remembers where the lexeme being read began.
It is the line cut in two: the characters passed, nearest first, and the characters ahead. The
mark is the number of characters that had been passed when the lexeme began, so both the place and
the mark are character boundaries whatever the operations do.
-/

namespace SyntaxMode

/-- A place in a line, and the place where the current lexeme began. -/
structure Cursor where
  /-- The characters passed, nearest first. -/
  behind : Text
  /-- The characters not yet read. -/
  ahead : Text
  /-- How many characters had been passed when the current lexeme began. -/
  mark : Nat
  deriving DecidableEq, Repr

namespace Cursor

/-- The cursor at the beginning of a line. -/
def ofLine (line : Text) : Cursor := ⟨[], line, 0⟩

/-- The line in which the cursor stands. -/
def line (cursor : Cursor) : Text := cursor.behind.reverse ++ cursor.ahead

/-- The byte offset of the cursor. -/
def position (cursor : Cursor) : Nat := cursor.behind.byteLength

/-- The part of the line before the current lexeme. -/
def beforeLexeme (cursor : Cursor) : Text := cursor.line.take cursor.mark

/-- The byte offset at which the current lexeme began. -/
def lexemeStart (cursor : Cursor) : Nat := cursor.beforeLexeme.byteLength

/-- Whether nothing on the line has been passed. -/
def atStart (cursor : Cursor) : Bool := cursor.behind.isEmpty

/-- Whether the whole line has been passed. -/
def atEnd (cursor : Cursor) : Bool := cursor.ahead.isEmpty

/-- The current lexeme: the characters passed since the mark. There is none while the cursor stands
before its mark, which happens only after going back over it. -/
def lexeme? (cursor : Cursor) : Option Text :=
  if cursor.mark ≤ cursor.behind.length then
    some (cursor.behind.take (cursor.behind.length - cursor.mark)).reverse
  else none

/-- The column at which the current lexeme began. -/
def column (tabSize : UInt32) (cursor : Cursor) : Column :=
  Column.ofText tabSize cursor.beforeLexeme

/-- The width of the blank characters that the line starts with. -/
def indentation (tabSize : UInt32) (cursor : Cursor) : Column :=
  Column.ofText tabSize (cursor.line.takeWhile isBlank)

/-! ## Moving -/

/-- The cursor a number of characters further on, or at the end of a shorter line. -/
def forward (count : Nat) (cursor : Cursor) : Cursor :=
  { cursor with
    behind := (cursor.ahead.take count).reverse ++ cursor.behind
    ahead := cursor.ahead.drop count }

/-- The cursor with a new lexeme beginning at its place. -/
def begin (cursor : Cursor) : Cursor := { cursor with mark := cursor.behind.length }

/-- The cursor at the end of its line. -/
def toEnd (cursor : Cursor) : Cursor := cursor.forward cursor.ahead.length

/-- The place of an earlier cursor of the same line, with the current mark kept. -/
def backTo (earlier cursor : Cursor) : Cursor := { earlier with mark := cursor.mark }

/-! ## Reading -/

/-- The next character. -/
def peek? (cursor : Cursor) : Option Char := cursor.ahead.head?

/-- The next character, if `accepts` holds of it, and the cursor after it. -/
def passIf? (accepts : Char → Bool) (cursor : Cursor) : Option (Char × Cursor) :=
  match cursor.ahead with
  | [] => none
  | c :: _ => if accepts c then some (c, cursor.forward 1) else none

/-- The cursor after the longest run of characters that `accepts` holds of. -/
def passWhile (accepts : Char → Bool) (cursor : Cursor) : Cursor :=
  cursor.forward (cursor.ahead.runLength accepts)

/-- The cursor at the first byte ahead that `accepts` holds of, and that byte; or the cursor at the
end of the line. -/
def seek (accepts : UInt8 → Bool) (cursor : Cursor) : Option UInt8 × Cursor :=
  match cursor.ahead.findByte? accepts with
  | some (offset, found) => (some found, cursor.forward (cursor.ahead.charsWithin offset))
  | none => (none, cursor.toEnd)

/-! ## The line and the place after a move -/

@[simp] theorem line_ofLine (line : Text) : (ofLine line).line = line := rfl

@[simp] theorem line_forward (count : Nat) (cursor : Cursor) :
    (cursor.forward count).line = cursor.line := by
  simp [forward, line]

@[simp] theorem line_begin (cursor : Cursor) : cursor.begin.line = cursor.line := rfl

@[simp] theorem ahead_forward (count : Nat) (cursor : Cursor) :
    (cursor.forward count).ahead = cursor.ahead.drop count := rfl

@[simp] theorem ahead_begin (cursor : Cursor) : cursor.begin.ahead = cursor.ahead := rfl

@[simp] theorem mark_forward (count : Nat) (cursor : Cursor) :
    (cursor.forward count).mark = cursor.mark := rfl

/-- What a fresh lexeme gains is what the cursor passes. -/
theorem lexeme?_forward_begin (count : Nat) (cursor : Cursor) :
    (cursor.begin.forward count).lexeme? = some (cursor.ahead.take count) := by
  have h : (cursor.ahead.take count).length + cursor.behind.length - cursor.behind.length =
      (cursor.ahead.take count).reverse.length := by simp
  simp only [begin, forward, lexeme?, List.length_append, List.length_reverse]
  rw [if_pos (by omega), h, List.take_left', List.reverse_reverse]
  rfl

end Cursor

end SyntaxMode
