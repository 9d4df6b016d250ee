import SyntaxMode.Text.Basic

/-!
# Blank characters

A character is blank when Unicode gives it the property `White_Space`. The class is wider than the
spaces of ASCII, which all belong to it.
-/

namespace SyntaxMode

/-- The code points with the property `White_Space`. -/
def whiteSpace : CodeRanges :=
  [(0x09, 0x0d), (0x20, 0x20), (0x85, 0x85), (0xa0, 0xa0), (0x1680, 0x1680), (0x2000, 0x200a),
   (0x2028, 0x2029), (0x202f, 0x202f), (0x205f, 0x205f), (0x3000, 0x3000)]

/-- Whether a character is white space. -/
def isBlank (c : Char) : Bool := whiteSpace.contains c

namespace Text

/-- The number of blank characters a text starts with. -/
def blankRun (text : Text) : Nat := text.runLength isBlank

/-- A text without the blank characters it starts with. -/
def trimStart (text : Text) : Text := text.dropWhile isBlank

/-- Whether a text holds blank characters only. -/
def isAllBlank (text : Text) : Bool := text.all isBlank

end Text

end SyntaxMode
