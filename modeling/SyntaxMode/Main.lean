import SyntaxMode.Command.Run

/-!
# The command line

Reads files from the file system, carries out the command line, and prints what it comes to.
-/

namespace SyntaxMode.Command

/-- Why the system could not read a file, by the number of its error. The number may be given with
a minus sign. -/
def ReadFailure.ofCode (code : UInt32) (details : String) : ReadFailure :=
  match if code < 0x80000000 then code else 0 - code with
  | 20 => .notDirectory
  | 21 => .isDirectory
  | 36 => .nameTooLong
  | number => .other s!"{details} (os error {number})"

/-- Why the system could not read a file. -/
def ReadFailure.ofError : IO.Error → ReadFailure
  | .noFileOrDirectory .. => .notFound
  | .permissionDenied .. => .permissionDenied
  | .inappropriateType _ code details => .ofCode code details
  | .invalidArgument _ code details => .ofCode code details
  | .otherError code details => .ofCode code details
  | error => .other error.toString

/-- Reads the bytes of a file. -/
def readFile (path : String) : IO (Except ReadFailure ByteArray) := do
  try
    return .ok (← IO.FS.readBinFile path)
  catch error =>
    return .error (.ofError error)

end SyntaxMode.Command

/-- Runs the program on its arguments. -/
def main (arguments : List String) : IO UInt32 := do
  let outcome ← SyntaxMode.Command.run SyntaxMode.Command.readFile arguments
  IO.print outcome.output
  IO.eprint outcome.errors
  return outcome.exitCode
