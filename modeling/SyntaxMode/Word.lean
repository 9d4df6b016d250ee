import SyntaxMode.Text.Basic

/-!
# Words of the language

Two tables classify words: the reserved keywords, and the atoms, which are literals and built-in
functions. Some words stand in both tables. A look-up goes by the byte length of the word first,
which turns most words away before any comparison.
-/

namespace SyntaxMode.Word

/-- The reserved words. -/
def keywords : List String :=
  ["fn", "let", "true", "false", "NO!", "if", "else", "return", "switch", "case", "default",
   "notaclass", "pack", "field", "public", "lazy"]

/-- The literals and built-in functions. -/
def atoms : List String :=
  ["true", "false", "NO!", "new", "len", "first", "last", "rest", "push", "puts", "ayok?",
   "sleep", "map"]

/-- Whether a word is one of those given. -/
def isAmong (words : List String) (word : Text) : Bool :=
  words.any fun candidate => candidate.toList == word

/-- Whether a word is reserved. -/
def isKeyword (word : Text) : Bool :=
  match word.byteLength with
  | 2 => isAmong ["fn", "if"] word
  | 3 => isAmong ["let", "NO!"] word
  | 4 => isAmong ["true", "else", "case", "pack", "lazy"] word
  | 5 => isAmong ["false", "field"] word
  | 6 => isAmong ["return", "switch", "public"] word
  | 7 => isAmong ["default"] word
  | 9 => isAmong ["notaclass"] word
  | _ => false

/-- Whether a word is a literal or a built-in function. -/
def isAtom (word : Text) : Bool :=
  match word.byteLength with
  | 3 => isAmong ["NO!", "new", "len", "map"] word
  | 4 => isAmong ["true", "last", "rest", "push", "puts"] word
  | 5 => isAmong ["false", "first", "ayok?", "sleep"] word
  | _ => false

/-- Whether a word opens an arm of a `switch`. -/
def opensArm (word : Text) : Bool := isAmong ["case", "default"] word

/-- Whether a character can stand in a word after its first. -/
def continues (c : Char) : Bool := c.isAlphanum || c == '_' || c == '$' || '\u00a1' ≤ c

end SyntaxMode.Word
