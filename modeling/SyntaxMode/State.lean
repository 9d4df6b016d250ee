import SyntaxMode.Column
import SyntaxMode.Nesting
import SyntaxMode.Region

/-!
# The state between lexemes

All that the reader of a buffer carries from one lexeme to the next and from one line to the next.
States are plain values: an editor keeps one for each line and compares them.
-/

namespace SyntaxMode

/-- What the reader of a buffer knows between two lexemes. -/
structure State where
  /-- Where in the text the reader is. -/
  region : Region
  /-- The brackets open around the reader. -/
  nesting : Nesting
  /-- The indentation of the current line, or of the block that a bracket on it closed. -/
  indented : Int32
  /-- Whether the line has had nothing but blanks and comments so far. -/
  freshLine : Bool
  deriving DecidableEq, Repr

namespace State

/-- The innermost context. -/
def context (state : State) : Context := state.nesting.innermost

/-- The number of open brackets. -/
def depth (state : State) : Nat := state.nesting.depth

/-- The state at the start of a text that begins at a column. -/
def start (config : Config) (base : UInt32) : State where
  region := .code
  nesting := Nesting.ofBase (Column.toSigned base - Column.toSigned config.indentUnit)
  indented := 0
  freshLine := true

/-- The state at the start of a text that begins at column 0. -/
def initial (config : Config) : State := start config 0

end State

end SyntaxMode
