/-!
# Styles

A style says what kind of thing a lexeme is; an editor colors it accordingly. Blank runs and
punctuation have no style and stay uncolored.
-/

namespace SyntaxMode

/-- The kind of a colored lexeme. -/
inductive Style where
  | number
  | string
  | comment
  | operator
  | keyword
  | atom
  | variable
  deriving DecidableEq, Repr

namespace Style

/-- Every style, in the order in which they are listed to an editor. -/
def all : List Style := [.number, .string, .comment, .operator, .keyword, .atom, .variable]

/-- The name of a style. -/
def name : Style → String
  | .number => "number"
  | .string => "string"
  | .comment => "comment"
  | .operator => "operator"
  | .keyword => "keyword"
  | .atom => "atom"
  | .variable => "variable"

/-- The style of a name. -/
def ofName? (name : String) : Option Style := all.find? fun style => style.name == name

/-- A name gives back the style it names. -/
theorem ofName?_name (style : Style) : ofName? style.name = some style := by
  cases style <;> rfl

end Style

end SyntaxMode
