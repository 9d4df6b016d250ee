/-!
# Brackets

The three pairs of brackets that open and close a context.
-/

namespace SyntaxMode

/-- A pair of brackets. -/
inductive Delimiter where
  | paren
  | bracket
  | brace
  deriving DecidableEq, Repr

namespace Delimiter

/-- The opening bracket. -/
def opener : Delimiter → Char
  | .paren => '('
  | .bracket => '['
  | .brace => '{'

/-- The closing bracket. -/
def closer : Delimiter → Char
  | .paren => ')'
  | .bracket => ']'
  | .brace => '}'

/-- The pair that a character opens. -/
def ofOpener? : Char → Option Delimiter
  | '(' => some .paren
  | '[' => some .bracket
  | '{' => some .brace
  | _ => none

/-- The pair that a character closes. -/
def ofCloser? : Char → Option Delimiter
  | ')' => some .paren
  | ']' => some .bracket
  | '}' => some .brace
  | _ => none

/-! ## The pair of a bracket -/

/-- The character that opens a delimiter gives it back. -/
theorem ofOpener?_opener (delimiter : Delimiter) :
    ofOpener? delimiter.opener = some delimiter := by
  cases delimiter <;> rfl

/-- The character that closes a delimiter gives it back. -/
theorem ofCloser?_closer (delimiter : Delimiter) :
    ofCloser? delimiter.closer = some delimiter := by
  cases delimiter <;> rfl

end Delimiter

end SyntaxMode
