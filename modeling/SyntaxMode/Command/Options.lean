import SyntaxMode.Column
import SyntaxMode.Command.Failure

/-!
# The arguments of a command

A command takes one file and options, in any order. The arguments are read from the left, and the
first one that is wrong decides how the command fails. Of two values for one option the later
counts.
-/

namespace SyntaxMode.Command

/-- What the options of a command say. -/
structure Options where
  config : Config := {}
  /-- Whether to answer in JSON. -/
  json : Bool := false
  deriving DecidableEq, Repr

/-- What one argument is. -/
inductive Argument where
  /-- `--json`. -/
  | json
  /-- The option for the indent unit, with its value. -/
  | indentUnit (value : Text)
  /-- The option for the tab size, with its value. -/
  | tabSize (value : Text)
  /-- Anything else that starts like an option. -/
  | unknown
  /-- A file. -/
  | path
  deriving DecidableEq, Repr

/-- The option for the indent unit. -/
def indentUnitOption : String := "--indent-unit"

/-- The option for the tab size. -/
def tabSizeOption : String := "--tab-size"

/-- What follows an option and its equals sign. -/
def optionValue? (option : String) (argument : String) : Option Text :=
  (option.toList ++ ['=']).isPrefixOf? argument.toList

/-- What an argument is. -/
def Argument.ofString (argument : String) : Argument :=
  if argument = "--json" then .json
  else
    match optionValue? indentUnitOption argument, optionValue? tabSizeOption argument with
    | some value, _ => .indentUnit value
    | none, some value => .tabSize value
    | none, none => if ['-', '-'].isPrefixOf argument.toList then .unknown else .path

/-- The number that decimal digits write. -/
def digitsValue (digits : Text) : Nat :=
  digits.foldl (fun value c => 10 * value + (c.toNat - '0'.toNat)) 0

/-- The positive 32-bit number that a text writes in decimal digits, perhaps after a plus sign. -/
def positive? (value : Text) : Option UInt32 :=
  let digits := match value with
    | '+' :: digits => digits
    | digits => digits
  let number := digitsValue digits
  if digits ≠ [] ∧ digits.all Char.isDigit ∧ 0 < number ∧ number < UInt32.size then
    some (UInt32.ofNat number)
  else none

/-- The number that the value of an option writes. -/
def optionNumber (option : String) (value : Text) : Except Failure UInt32 :=
  match positive? value with
  | some number => .ok number
  | none => .error (.invalidOption option (String.ofList value))

/-- Reads the arguments after those that gave `path?` and `options`. `form` says how the command is
used. -/
def Options.readFrom (form : String) (path? : Option String) (options : Options) :
    List String → Except Failure (String × Options)
  | [] =>
    match path? with
    | some path => .ok (path, options)
    | none => .error (.usage form)
  | argument :: rest =>
    match Argument.ofString argument with
    | .json => readFrom form path? { options with json := true } rest
    | .indentUnit value => do
      let indentUnit ← optionNumber indentUnitOption value
      readFrom form path? { options with config.indentUnit := indentUnit } rest
    | .tabSize value => do
      let tabSize ← optionNumber tabSizeOption value
      readFrom form path? { options with config.tabSize := tabSize } rest
    | .unknown => .error (.unknownOption argument)
    | .path =>
      match path? with
      | none => readFrom form (some argument) options rest
      | some _ => .error (.usage form)

/-- The file and the options that arguments name. `form` says how the command is used. -/
def Options.read (form : String) (arguments : List String) : Except Failure (String × Options) :=
  readFrom form none {} arguments

end SyntaxMode.Command
