import SyntaxMode.Json.Basic
import SyntaxMode.Text.Basic

/-!
# Writing JSON

Values are written over several lines, two more blanks in for each level; an empty array or object
takes no line of its own. In strings the quote, the backslash and the control characters of ASCII
are escaped, and all else stands for itself.
-/

namespace SyntaxMode.Json

/-- A hexadecimal digit. -/
def hexDigit (n : Nat) : Char := Nat.digitChar (n % 16)

/-- A character inside a string. -/
def escapeChar (c : Char) : Text :=
  match c with
  | '"' => ['\\', '"']
  | '\\' => ['\\', '\\']
  | '\n' => ['\\', 'n']
  | '\r' => ['\\', 'r']
  | '\t' => ['\\', 't']
  | '\x08' => ['\\', 'b']
  | '\x0c' => ['\\', 'f']
  | c =>
    if c.toNat < 0x20 then ['\\', 'u', '0', '0', hexDigit (c.toNat / 16), hexDigit c.toNat]
    else [c]

/-- A string between its quotes. -/
def quote (value : String) : Text := '"' :: value.toList.flatMap escapeChar ++ ['"']

/-- The digits of an integer, after its sign. -/
def integerText (value : Int) : Text := (toString value).toList

/-- The digits of `mantissa / 10 ^ places`. -/
def decimalText (mantissa : Int) (places : Nat) : Text :=
  let sign := if mantissa < 0 then ['-'] else []
  let digits := Nat.toDigits 10 mantissa.natAbs
  let digits := List.replicate (places + 1 - digits.length) '0' ++ digits
  let whole := digits.length - places
  sign ++ digits.take whole ++ '.' :: digits.drop whole

/-- A new line at a level. -/
def newLine (level : Nat) : Text := '\n' :: List.replicate (2 * level) ' '

/-- Written items between brackets, one a line. -/
def enclose (level : Nat) (opener closer : Char) : List Text → Text
  | [] => [opener, closer]
  | items =>
    opener :: newLine (level + 1) ++ List.intercalate (',' :: newLine (level + 1)) items ++
      newLine level ++ [closer]

mutual

/-- A value at a level. -/
def render (level : Nat) : Json → Text
  | .null => ['n', 'u', 'l', 'l']
  | .bool true => ['t', 'r', 'u', 'e']
  | .bool false => ['f', 'a', 'l', 's', 'e']
  | .integer value => integerText value
  | .decimal mantissa places => decimalText mantissa places
  | .string value => quote value
  | .array items => enclose level '[' ']' (renderItems (level + 1) items)
  | .object fields => enclose level '{' '}' (renderFields (level + 1) fields)

/-- The items of an array at a level. -/
def renderItems (level : Nat) : List Json → List Text
  | [] => []
  | item :: rest => render level item :: renderItems level rest

/-- The fields of an object at a level. -/
def renderFields (level : Nat) : List (String × Json) → List Text
  | [] => []
  | (name, value) :: rest =>
    (quote name ++ [':', ' '] ++ render level value) :: renderFields level rest

end

/-- A value as text, without a line feed at its end. -/
def pretty (value : Json) : String := String.ofList (render 0 value)

end SyntaxMode.Json
