import SyntaxMode.Cursor.Basic

/-!
# Cursor programs

The operations on a cursor as data, so that a run of them is a value. An operation answers a
character, a yes or no, or nothing; it fails when it answers no, or no character. An attempt runs
other operations until one fails, and then goes back to where it started: the place is restored
and the mark is not.
-/

namespace SyntaxMode.Cursor

/-- An operation on a cursor. -/
inductive Operation where
  /-- Passes the next character. -/
  | next
  /-- Looks at the next character. -/
  | peek
  /-- Passes the next character if `accepts` holds of it. -/
  | passIf (accepts : Char → Bool)
  /-- Passes the next character if it is this one. -/
  | expect (char : Char)
  /-- Passes the longest run of characters that `accepts` holds of. -/
  | passWhile (accepts : Char → Bool)
  /-- Begins a new lexeme. -/
  | begin
  /-- Goes to the end of the line. -/
  | toEnd
  /-- Goes to the next occurrence of a byte, or to the end of the line. -/
  | seek (byte : UInt8)
  /-- Goes to the next occurrence of one of two bytes, or to the end of the line. -/
  | seekEither (first second : UInt8)
  /-- Runs operations, all or none. -/
  | attempt (operations : List Operation)

/-- What an operation answers. -/
inductive Answer where
  /-- A character, or that there is none. -/
  | char (char? : Option Char)
  /-- Yes or no. -/
  | flag (holds : Bool)
  /-- Nothing. -/
  | done
  deriving DecidableEq, Repr

/-- Whether an operation with this answer succeeded. -/
def Answer.succeeds : Answer → Bool
  | char char? => char?.isSome
  | flag holds => holds
  | done => true

/-- The cursor after passing a character, and that character; or the cursor unmoved. -/
def passAnswer (accepts : Char → Bool) (cursor : Cursor) : Option Char × Cursor :=
  match cursor.passIf? accepts with
  | some (c, after) => (some c, after)
  | none => (none, cursor)

mutual

/-- Runs one operation. -/
def Operation.run : Operation → Cursor → Answer × Cursor
  | .next, cursor =>
    let (char?, after) := cursor.passAnswer fun _ => true
    (.char char?, after)
  | .peek, cursor => (.char cursor.peek?, cursor)
  | .passIf accepts, cursor =>
    let (char?, after) := cursor.passAnswer accepts
    (.char char?, after)
  | .expect char, cursor =>
    let (char?, after) := cursor.passAnswer (· == char)
    (.flag char?.isSome, after)
  | .passWhile accepts, cursor =>
    (.flag (cursor.ahead.runLength accepts != 0), cursor.passWhile accepts)
  | .begin, cursor => (.done, cursor.begin)
  | .toEnd, cursor => (.done, cursor.toEnd)
  | .seek byte, cursor =>
    let (found?, after) := cursor.seek (· == byte)
    (.flag found?.isSome, after)
  | .seekEither first second, cursor =>
    let (found?, after) := cursor.seek fun byte => byte == first || byte == second
    (.char (found?.map fun byte => Char.ofNat byte.toNat), after)
  | .attempt operations, cursor =>
    let (holds, after) := runAll operations cursor
    (.flag holds, if holds then after else cursor.backTo after)

/-- Runs operations in order until one fails, and tells whether none did. -/
def runAll : List Operation → Cursor → Bool × Cursor
  | [], cursor => (true, cursor)
  | operation :: rest, cursor =>
    let (answer, after) := operation.run cursor
    if answer.succeeds then runAll rest after else (false, after)

end

end SyntaxMode.Cursor
