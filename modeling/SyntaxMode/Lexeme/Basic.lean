import SyntaxMode.Context
import SyntaxMode.Region
import SyntaxMode.Style

/-!
# Lexemes

A lexeme is what the reader takes from a line in one step, blank runs apart: how much text it is,
how it is colored, what it does to the contexts around it, and the region in which it leaves the
reader.
-/

namespace SyntaxMode

/-- What a lexeme does to the contexts around it. -/
inductive Effect where
  /-- Opens a bracket. -/
  | opening (delimiter : Delimiter)
  /-- Closes a bracket, if the innermost one is of this pair. -/
  | closing (delimiter : Delimiter)
  /-- Makes the innermost context an arm of a `switch`. -/
  | arm
  deriving DecidableEq, Repr

/-- A lexeme at the start of a text. -/
structure Lexeme where
  /-- The number of its characters. -/
  length : Nat
  /-- Its style, if it is colored. -/
  style : Option Style
  /-- What it does to the contexts. -/
  effect : Option Effect
  /-- The region behind it. -/
  region : Region
  deriving DecidableEq, Repr

namespace Lexeme

/-- A colored lexeme in code that does nothing to the contexts. -/
def colored (style : Style) (length : Nat) : Lexeme := ⟨length, some style, none, .code⟩

/-- An uncolored lexeme of one character. -/
def punctuation (effect : Option Effect) : Lexeme := ⟨1, none, effect, .code⟩

end Lexeme

end SyntaxMode
