import SyntaxMode.Command.Failure
import SyntaxMode.Text.Basic

/-!
# Directories in memory

A directory given by its files, and the reading of a path in it. A path is followed name by name:
`.` and an empty name stay in a directory, `..` leaves it, and no name leads on from a file.
Nothing is known of what lies outside, except that these are directories.
-/

namespace SyntaxMode.Command

/-- The files of a directory, each with the names that lead to it. -/
structure Directory where
  files : List (List Text × ByteArray)

namespace Directory

/-- The names of a path. -/
def names (path : Text) : List Text := path.splitOn '/'

/-- The directory of files given by their paths. -/
def ofFiles (files : List (String × ByteArray)) : Directory :=
  ⟨files.map fun file => (names file.1.toList, file.2)⟩

/-- The file at a place. -/
def file? (directory : Directory) (place : List Text) : Option ByteArray :=
  directory.files.lookup place

/-- Whether a place is a file or leads to one. -/
def isPlace (directory : Directory) (place : List Text) : Bool :=
  directory.files.any fun file => place.isPrefixOf file.1

/-- The longest name, in bytes. -/
def longestName : Nat := 255

/-- The longest path, in bytes. -/
def longestPath : Nat := 4095

/-- Follows a name from a place; there is no place outside the directory. -/
def enter (directory : Directory) (name : Text) (place : Option (List Text)) :
    Except ReadFailure (Option (List Text)) :=
  if (place.bind directory.file?).isSome then .error .notDirectory
  else if name = [] ∨ name = ['.'] then .ok place
  else if name = ['.', '.'] then
    .ok (place.bind fun names => if names = [] then none else some names.dropLast)
  else if longestName < name.byteLength then .error .nameTooLong
  else
    match place with
    | none => .error .notFound
    | some names =>
      let place := names ++ [name]
      if directory.isPlace place then .ok (some place) else .error .notFound

/-- Reads the file of a path. -/
def read (directory : Directory) (path : String) : Except ReadFailure ByteArray := do
  let path : Text := path.toList
  if path = [] then throw .notFound
  if longestPath < Text.byteLength path then throw .nameTooLong
  let start := if path.head? = some '/' then none else some []
  let place ← (names path).foldlM (fun place name => directory.enter name place) start
  match place.bind directory.file? with
  | some bytes => return bytes
  | none => throw .isDirectory

end Directory

end SyntaxMode.Command
