import SyntaxMode.Command.Options
import SyntaxMode.Listing
import SyntaxMode.Reindent

/-!
# The commands

`run` carries out a command line. The files are read by an action of the caller, so that a run is
the same thing over a file system and over files in memory.
-/

namespace SyntaxMode.Command

/-- What a command line comes to. -/
structure Outcome where
  exitCode : UInt32
  output : String
  errors : String
  deriving DecidableEq, Repr

/-- How the highlight command is used. -/
def highlightForm : String := "okhl highlight <file> [--json] [--indent-unit=N] [--tab-size=N]"

/-- How the indent command is used. -/
def indentForm : String := "okhl indent <file> [--indent-unit=N] [--tab-size=N]"

/-- What a user is told about all commands. -/
def usage : String := String.join <| List.map (· ++ "\n")
  ["okhl: the ok editor mode, outside the editor",
   "",
   "Usage: okhl <command> [options]",
   "",
   "Commands:",
   "  highlight <file>     Print each lexeme as \x60line:start..end style \"text\"\x60",
   "  indent <file>        Print the file re-indented",
   "  hints                Print the editor hints as JSON",
   "  help                 Show this help message",
   "",
   "Options:",
   "  --json               Highlight output as JSON",
   "  --indent-unit=N      Columns per nesting level (default 2)",
   "  --tab-size=N         Tab stop width (default 4)",
   "",
   "Set RUST_LOG (e.g. RUST_LOG=ok_mode=trace) to see scanner events."]

/-- A text with a line feed at its end, unless it is empty. -/
def endLine (text : String) : String :=
  if text = "" ∨ text.toList.getLast? = some '\n' then text else text ++ "\n"

namespace Outcome

/-- The outcome of a command that worked. -/
def success (output : String) : Outcome := ⟨0, endLine output, ""⟩

/-- The outcome of a command that failed. -/
def failure (reason : Failure) : Outcome := ⟨1, "", s!"error: {reason.message}\n"⟩

/-- The outcome of a command that works or fails. -/
def ofExcept : Except Failure String → Outcome
  | .ok output => success output
  | .error reason => failure reason

end Outcome

/-- What a command on the text of a file answers. -/
abbrev TextCommand := Options → Text → String

/-- Lists the spans of a text. -/
def highlightText : TextCommand := fun options text =>
  let document := Document.ofText options.config text
  if options.json then Listing.json document else String.ofList (Listing.records document)

/-- Indents a text again. -/
def indentText : TextCommand := fun options text =>
  String.ofList (reindent options.config text)

/-- The text of the bytes of a file. -/
def decode (path : String) (bytes : ByteArray) : Except Failure Text :=
  match String.fromUTF8? bytes with
  | some text => .ok text.toList
  | none => .error (.read path .notText)

/-- Carries out a command on a file. -/
def runOnFile {m : Type → Type} [Monad m] (read : String → m (Except ReadFailure ByteArray))
    (command : TextCommand) (form : String) (arguments : List String) : m Outcome := do
  match Options.read form arguments with
  | .error reason => return .failure reason
  | .ok (path, options) =>
    match ← read path with
    | .error reason => return .failure (.read path reason)
    | .ok bytes => return .ofExcept ((decode path bytes).map (command options))

/-- Carries out a command line, without the name of the program. -/
def run {m : Type → Type} [Monad m] (read : String → m (Except ReadFailure ByteArray)) :
    List String → m Outcome
  | [] => return ⟨1, "", usage⟩
  | "highlight" :: arguments => runOnFile read highlightText highlightForm arguments
  | "indent" :: arguments => runOnFile read indentText indentForm arguments
  | "hints" :: _ => return .success (Listing.hintsJson hints).pretty
  | "help" :: _ => return ⟨0, "", usage⟩
  | "--help" :: _ => return ⟨0, "", usage⟩
  | "-h" :: _ => return ⟨0, "", usage⟩
  | other :: _ => return ⟨1, "", s!"Unknown command: {other}\n\n{usage}"⟩

end SyntaxMode.Command
