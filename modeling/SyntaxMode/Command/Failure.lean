/-!
# Why a command fails

A command fails on its arguments or on the file it is given. Each failure is told to the user in
one line.
-/

namespace SyntaxMode.Command

/-- Why a file could not be read as text. -/
inductive ReadFailure where
  /-- There is no such file. -/
  | notFound
  /-- The user may not read it. -/
  | permissionDenied
  /-- It is not UTF-8. -/
  | notText
  /-- It is a directory. -/
  | isDirectory
  /-- The path leads on from a file. -/
  | notDirectory
  /-- The path, or a name in it, is longer than the system allows. -/
  | nameTooLong
  /-- Another reason, in the words of the system. -/
  | other (reason : String)
  deriving DecidableEq, Repr

/-- Why a command fails. -/
inductive Failure where
  /-- The file cannot be read. -/
  | read (path : String) (reason : ReadFailure)
  /-- The arguments do not name exactly one file; the command is used in another way. -/
  | usage (form : String)
  /-- The value of an option is no positive number. -/
  | invalidOption (option value : String)
  /-- There is no such option. -/
  | unknownOption (argument : String)
  deriving DecidableEq, Repr

/-- What a user is told about a file that could not be read. -/
def ReadFailure.message (path : String) : ReadFailure → String
  | .notFound => s!"cannot find file '{path}'"
  | .permissionDenied => s!"permission denied reading '{path}'"
  | .notText => s!"'{path}' contains invalid UTF-8 data"
  | .isDirectory => s!"error reading '{path}': Is a directory (os error 21)"
  | .notDirectory => s!"error reading '{path}': Not a directory (os error 20)"
  | .nameTooLong => s!"error reading '{path}': File name too long (os error 36)"
  | .other reason => s!"error reading '{path}': {reason}"

/-- What a user is told about a failure. -/
def Failure.message : Failure → String
  | .read path reason => reason.message path
  | .usage form => s!"usage: {form}"
  | .invalidOption option value =>
    s!"invalid value '{value}' for {option}: expected a positive integer"
  | .unknownOption argument => s!"unknown option '{argument}'"

end SyntaxMode.Command
