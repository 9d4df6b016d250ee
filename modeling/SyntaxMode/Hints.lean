import SyntaxMode.Text.Basic

/-!
# What an editor is told about the mode

The fixed facts by which an editor registers the mode: its name and media type, the characters that
make it indent the line again, the pairs it closes by itself, and how it folds and comments.
-/

namespace SyntaxMode

/-- The name of the mode. -/
def modeName : String := "ok"

/-- The media type of the language. -/
def mediaType : String := "text/x-ok"

/-- How an editor finds what can be folded. -/
inductive Folding where
  /-- From an opening brace to its closing brace. -/
  | brace
  deriving DecidableEq, Repr

/-- The name of a fold strategy. -/
def Folding.name : Folding → String
  | .brace => "brace"

/-- The fixed facts about a mode. -/
structure Hints where
  name : String
  mediaType : String
  /-- The characters that make an editor indent the line again. -/
  electricChars : String
  /-- The pairs that an editor closes by itself, each opening character before its closing one. -/
  closeBrackets : String
  fold : Folding
  lineComment : String
  deriving DecidableEq, Repr

/-- The fixed facts about this mode. -/
def hints : Hints where
  name := modeName
  mediaType := mediaType
  electricChars := "{}):"
  closeBrackets := "()[]{}''\"\"\x60\x60"
  fold := .brace
  lineComment := "//"

namespace Hints

/-- Whether typing a character makes the editor indent the line again. -/
def isElectric (hints : Hints) (c : Char) : Bool := hints.electricChars.toList.contains c

/-- The characters of a text two by two; an odd one at the end is left out. -/
def pairs : Text → List (Char × Char)
  | first :: second :: rest => (first, second) :: pairs rest
  | _ => []

/-- The character that an editor adds when an opening one is typed. -/
def partner? (hints : Hints) (c : Char) : Option Char :=
  (pairs hints.closeBrackets.toList).lookup c

end Hints

end SyntaxMode
