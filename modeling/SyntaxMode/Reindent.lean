import SyntaxMode.Highlight
import SyntaxMode.Indent

/-!
# Indenting a text again

Each line is given the indentation that the lines above it, already indented again, ask for. Blank
lines become empty, and a line that starts inside a string or a comment stays as it is.
-/

namespace SyntaxMode

/-- A line that has been indented again, and the state behind it. -/
structure IndentedLine where
  text : Text
  after : State
  deriving DecidableEq, Repr

/-- A line with the indentation of a hint. -/
def IndentHint.indentLine (line : Text) : IndentHint → Text
  | .defer => line
  | .column width =>
    let body := line.trimStart
    if body = [] then [] else List.replicate width.toNat ' ' ++ body

/-- A line indented again in the state that the lines above leave. -/
def IndentedLine.ofLine (config : Config) (state : State) (line : Text) : IndentedLine :=
  let (hint, state) := state.indent config line
  let text := hint.indentLine line
  ⟨text, (highlight config state text).2⟩

/-- Lines indented again, from a state on. -/
def indentLines (config : Config) (state : State) : List Text → List IndentedLine
  | [] => []
  | line :: rest =>
    let indented := IndentedLine.ofLine config state line
    indented :: indentLines config indented.after rest

/-- A text with all its lines indented again. -/
def reindent (config : Config) (text : Text) : Text :=
  Text.joinLines ((indentLines config (State.initial config) text.lines).map IndentedLine.text)

end SyntaxMode
