import SyntaxMode.Text.Basic

/-!
# Numbers

A number is octal or hexadecimal when it starts with `0`, and decimal with an optional fraction and
exponent otherwise; it may also start with the point. Each optional part is taken as a whole or not
at all, so that `1e` is the number `1` before a word.
-/

namespace SyntaxMode.Lexeme.Number

/-- Whether a character is an octal digit. -/
def isOctalDigit (c : Char) : Bool := '0' ≤ c && c ≤ '7'

/-- Whether a character is a hexadecimal digit. -/
def isHexDigit (c : Char) : Bool :=
  c.isDigit || ('a' ≤ c && c ≤ 'f') || ('A' ≤ c && c ≤ 'F')

/-- Whether a character starts a number. -/
def startsNumber (c : Char) : Bool := c.isDigit || c == '.'

/-- The length of the sign that a text starts with. -/
def signLength : Text → Nat
  | c :: _ => if c == '-' || c == '+' then 1 else 0
  | [] => 0

/-- The length of the exponent that a text starts with: `e`, an optional sign, and digits. -/
def exponentLength : Text → Nat
  | c :: rest =>
    let sign := signLength rest
    let digits := Text.runLength Char.isDigit (rest.drop sign)
    if (c == 'e' || c == 'E') && digits != 0 then 1 + sign + digits else 0
  | [] => 0

/-- The length of the fraction that a text starts with: a point and digits. -/
def fractionLength : Text → Nat
  | c :: rest => if c == '.' then 1 + Text.runLength Char.isDigit rest else 0
  | [] => 0

/-- The length of the hexadecimal part that a text starts with: `x` and digits. -/
def hexLength : Text → Nat
  | c :: rest =>
    let digits := Text.runLength isHexDigit rest
    if (c == 'x' || c == 'X') && digits != 0 then 1 + digits else 0
  | [] => 0

/-- The length of what follows a point that starts a number. -/
def afterPoint (text : Text) : Nat :=
  match text.runLength Char.isDigit with
  | 0 => 0
  | digits => digits + exponentLength (text.drop digits)

/-- The length of what follows a zero that starts a number. -/
def afterZero (text : Text) : Nat :=
  match hexLength text with
  | 0 => text.runLength isOctalDigit
  | hex => hex

/-- The length of what follows a digit other than zero that starts a number. -/
def afterDigit (text : Text) : Nat :=
  let digits := text.runLength Char.isDigit
  let fraction := fractionLength (text.drop digits)
  digits + fraction + exponentLength (text.drop (digits + fraction))

/-- The length of what belongs to a number after its first character. -/
def lengthAfter (first : Char) (text : Text) : Nat :=
  if first == '.' then afterPoint text
  else if first == '0' then afterZero text
  else afterDigit text

/-! ## Numbers end within their text -/

/-- A sign ends within its text. -/
theorem signLength_le (text : Text) : signLength text ≤ text.length := by
  cases text with
  | nil => simp [signLength]
  | cons c rest =>
    rw [signLength]
    split <;> simp

/-- An exponent ends within its text. -/
theorem exponentLength_le (text : Text) : exponentLength text ≤ text.length := by
  cases text with
  | nil => simp [exponentLength]
  | cons c rest =>
    have hsign := signLength_le rest
    have hdigits := Text.runLength_le Char.isDigit (rest.drop (signLength rest))
    rw [List.length_drop] at hdigits
    simp only [exponentLength, List.length_cons]
    split <;> omega

/-- A fraction ends within its text. -/
theorem fractionLength_le (text : Text) : fractionLength text ≤ text.length := by
  cases text with
  | nil => simp [fractionLength]
  | cons c rest =>
    have hdigits := Text.runLength_le Char.isDigit rest
    simp only [fractionLength, List.length_cons]
    split <;> omega

/-- A hexadecimal part ends within its text. -/
theorem hexLength_le (text : Text) : hexLength text ≤ text.length := by
  cases text with
  | nil => simp [hexLength]
  | cons c rest =>
    have hdigits := Text.runLength_le isHexDigit rest
    simp only [hexLength, List.length_cons]
    split <;> omega

/-- What follows a point that starts a number ends within its text. -/
theorem afterPoint_le (text : Text) : afterPoint text ≤ text.length := by
  have hdigits := Text.runLength_le Char.isDigit text
  have hexponent := exponentLength_le (text.drop (text.runLength Char.isDigit))
  rw [List.length_drop] at hexponent
  rw [afterPoint]
  split
  · exact Nat.zero_le _
  · omega

/-- What follows a zero that starts a number ends within its text. -/
theorem afterZero_le (text : Text) : afterZero text ≤ text.length := by
  rw [afterZero]
  split
  · exact Text.runLength_le isOctalDigit text
  · exact hexLength_le text

/-- What follows another digit that starts a number ends within its text. -/
theorem afterDigit_le (text : Text) : afterDigit text ≤ text.length := by
  have hdigits := Text.runLength_le Char.isDigit text
  have hfraction := fractionLength_le (text.drop (text.runLength Char.isDigit))
  have hexponent := exponentLength_le
    (text.drop (text.runLength Char.isDigit +
      fractionLength (text.drop (text.runLength Char.isDigit))))
  rw [List.length_drop] at hfraction hexponent
  simp only [afterDigit]
  omega

/-- A number ends within its text. -/
theorem lengthAfter_le (first : Char) (text : Text) : lengthAfter first text ≤ text.length := by
  rw [lengthAfter]
  split
  · exact afterPoint_le text
  · split
    · exact afterZero_le text
    · exact afterDigit_le text

end SyntaxMode.Lexeme.Number
