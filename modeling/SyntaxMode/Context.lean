import SyntaxMode.Delimiter

/-!
# Contexts

An open bracket makes a context: it records where its line and the bracket itself stand, which is
what the indentation of the lines inside depends on. After the word that opens an arm of a
`switch`, the context in which the word stands is an arm until the next line begins.
-/

namespace SyntaxMode

/-- What a context is. -/
inductive Context.Kind where
  /-- The outside of all brackets. -/
  | outside
  /-- An arm of a `switch`, from its first word to the end of the line. -/
  | arm
  /-- The inside of a pair of brackets. -/
  | block (delimiter : Delimiter)
  deriving DecidableEq, Repr

/-- An open bracket, or the outside of all brackets. -/
structure Context where
  /-- The indentation of the line on which the context was opened. -/
  indented : Int32
  /-- The column of the opening bracket. -/
  column : UInt32
  /-- What the context is. -/
  kind : Context.Kind
  /-- Whether anything but a comment follows the bracket on its own line; not known before the
  next lexeme or the next line. -/
  align : Option Bool
  deriving DecidableEq, Repr

namespace Context

namespace Kind

/-- The character that closes a context. -/
def closer? : Kind → Option Char
  | .block delimiter => some delimiter.closer
  | _ => none

/-- The kind that is left when an arm ends: an arm is a brace block again. -/
def endArm : Kind → Kind
  | .arm => .block .brace
  | kind => kind

@[simp] theorem endArm_endArm (kind : Kind) : kind.endArm.endArm = kind.endArm := by
  cases kind <;> rfl

end Kind

/-- The context outside all brackets, with a given indentation. -/
def ofBase (indented : Int32) : Context := ⟨indented, 0, .outside, some false⟩

/-- The context when the arm that it may be ends. -/
def endArm (context : Context) : Context := { context with kind := context.kind.endArm }

/-- The context when a line begins: an arm ends, and nothing more can follow the bracket on its own
line. -/
def atLineStart (context : Context) : Context :=
  { context.endArm with align := some (context.align.getD false) }

/-- The context after a lexeme in it: if nothing had followed the bracket yet, this lexeme does. -/
def afterLexeme (context : Context) : Context :=
  { context with align := some (context.align.getD true) }

/-- Once a line has begun, beginning further lines changes nothing. -/
@[simp] theorem atLineStart_atLineStart (context : Context) :
    context.atLineStart.atLineStart = context.atLineStart := by
  simp [atLineStart, endArm]

end Context

end SyntaxMode
