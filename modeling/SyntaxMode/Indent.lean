import SyntaxMode.State
import SyntaxMode.Text.Blank

/-!
# Indentation hints

The hint for a line depends on the innermost context before it and on whether the text of the line
closes that context. Inside a bracket that more text follows on its own line, lines stand one
column right of the bracket; inside any other, one indent unit right of the line of the bracket. A
line that closes the context drops that extra step. An arm of a `switch` right below another one
stands where the block of the arms does, and ends the arm above it.
-/

namespace SyntaxMode

/-- Where a line should begin. -/
inductive IndentHint where
  /-- At a column. -/
  | column (column : Column)
  /-- Where it begins now: it starts inside a string or a comment. -/
  | defer
  deriving DecidableEq, Repr

/-- Whether a text starts with a word, and the word ends there. -/
def Text.startsWithWord (word : String) (text : Text) : Bool :=
  match word.toList.isPrefixOf? text with
  | some rest => !rest.head?.any fun c => c.isAlphanum || c == '_'
  | none => false

/-- Whether a text starts with a word that opens an arm of a `switch`. -/
def Text.startsArm (text : Text) : Bool :=
  text.startsWithWord "case" || text.startsWithWord "default"

namespace Context

/-- The sum of two indentations, or the largest one if the sum is beyond it. -/
def addIndentation (indentation step : Int32) : Int32 :=
  Int32.ofIntClamp (indentation.toInt + step.toInt)

/-- Whether a text starts with the character that closes the context. -/
def isClosedBy (context : Context) (text : Text) : Bool :=
  match context.kind.closer? with
  | some closer => text.head? == some closer
  | none => false

/-- The indentation of a line with a given text inside the context. -/
def indentation (indentUnit : UInt32) (context : Context) (text : Text) : Int32 :=
  let (base, step) :=
    if context.align = some true then (Column.toSigned context.column, 1)
    else (context.indented, Column.toSigned indentUnit)
  if context.isClosedBy text then base else addIndentation base step

end Context

namespace State

/-- The hint for a line with a given text, blanks before it left aside, and the state in which the
line is then read. -/
def indent (config : Config) (state : State) (text : Text) : IndentHint × State :=
  if state.region ≠ .code then (.defer, state)
  else
    let text := text.trimStart
    let context := state.context
    if context.kind = .arm ∧ text.startsArm then
      (.column (Column.ofSigned context.indented),
        { state with nesting := state.nesting.modify Context.endArm })
    else (.column (Column.ofSigned (context.indentation config.indentUnit text)), state)

end State

end SyntaxMode
