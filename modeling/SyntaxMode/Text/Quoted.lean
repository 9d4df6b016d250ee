import SyntaxMode.Text.Basic
import SyntaxMode.Text.GraphemeExtend
import SyntaxMode.Text.Unprintable

/-!
# Quoted text

A quoted text stands between double quotes on one line. The quote and the backslash get a backslash
before them, tabs, line breaks and the null character are written by name, and a character that
cannot be seen by itself is written as its code point in hexadecimal digits. Such a character has
no printed form, is shown as nothing, or is shown only on the character before it.
-/

namespace SyntaxMode.Text

/-- A character by its code point, between braces. -/
def codePoint (c : Char) : Text := ['\\', 'u', '{'] ++ Nat.toDigits 16 c.toNat ++ ['}']

/-- The letters that extend the character before them and yet take a place of their own: the two
halfwidth voicing marks of katakana. -/
def spacingExtend : CodeRanges := [(0xff9e, 0xff9f)]

/-- Whether a character is shown only on the character before it. -/
def isCombining (c : Char) : Bool := graphemeExtend.contains c && !spacingExtend.contains c

/-- Whether a character can be seen by itself. -/
def isVisible (c : Char) : Bool :=
  !unprintable.contains c && !defaultIgnorable.contains c && !isCombining c

/-- A character inside a quoted text. -/
def quoteChar (c : Char) : Text :=
  match c with
  | '"' => ['\\', '"']
  | '\\' => ['\\', '\\']
  | '\t' => ['\\', 't']
  | '\n' => ['\\', 'n']
  | '\r' => ['\\', 'r']
  | '\x00' => ['\\', '0']
  | c => if isVisible c then [c] else codePoint c

/-- A text between its quotes. -/
def quoted (text : Text) : Text := '"' :: text.flatMap quoteChar ++ ['"']

end SyntaxMode.Text
