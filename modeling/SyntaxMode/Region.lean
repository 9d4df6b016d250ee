/-!
# Regions

Between two lexemes the reader of a line is in one of three regions: in code, inside a string, or
inside a block comment. Strings and block comments may run over several lines, so the region is
carried from one line to the next.
-/

namespace SyntaxMode

/-- The quote that opens and closes a string. -/
inductive Quote where
  | double
  | single
  | backtick
  deriving DecidableEq, Repr

namespace Quote

/-- The character of a quote. -/
def char : Quote → Char
  | .double => '"'
  | .single => '\''
  | .backtick => '\x60'

/-- The quote of a character. -/
def ofChar? : Char → Option Quote
  | '"' => some .double
  | '\'' => some .single
  | '\x60' => some .backtick
  | _ => none

/-- Whether a backslash is an ordinary character in strings of this quote. -/
def isRaw : Quote → Bool
  | .backtick => true
  | _ => false

/-- The character of a quote gives the quote back. -/
theorem ofChar?_char (quote : Quote) : ofChar? quote.char = some quote := by
  cases quote <;> rfl

end Quote

/-- Where in the text the reader is. -/
inductive Region where
  /-- In code. -/
  | code
  /-- Inside a string. -/
  | string (quote : Quote)
  /-- Inside a block comment. -/
  | comment
  deriving DecidableEq, Repr, Inhabited

end SyntaxMode
