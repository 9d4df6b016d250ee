import SyntaxMode.Lexeme.Basic
import SyntaxMode.Lexeme.Enclosed
import SyntaxMode.Lexeme.Number
import SyntaxMode.Word

/-!
# Reading one lexeme

`Lexeme.scan` reads the lexeme at the start of a text, which depends on nothing but the text and
the region the reader is in. In code the first character decides what kind of lexeme it is. A
lexeme of a text that is not empty has at least one character (`scan_length_pos`) and ends within
the text (`scan_length_le`), so that reading comes to the end of every line.
-/

namespace SyntaxMode.Lexeme

/-- Whether a character is punctuation that neither opens nor closes anything. -/
def isSeparator (c : Char) : Bool := c == ',' || c == ';' || c == ':'

/-- Whether a character can stand in an operator. -/
def isOperatorSign (c : Char) : Bool :=
  ['+', '-', '*', '&', '^', '%', ':', '=', '<', '>', '!', '|', '/'].contains c

/-- The length of the word that starts with `first`. A mark behind the word belongs to it if the
two together are in a table of words. -/
def wordLength (first : Char) (rest : Text) : Nat :=
  let run := rest.runLength Word.continues
  let marked := (first :: rest).take (run + 2)
  match rest.drop run with
  | [] => run + 1
  | mark :: _ =>
    if (mark == '!' || mark == '?') && (Word.isKeyword marked || Word.isAtom marked) then run + 2
    else run + 1

/-- The word that starts with `first`: a keyword, an atom or a variable. -/
def scanWord (first : Char) (rest : Text) : Lexeme :=
  let length := wordLength first rest
  let word := (first :: rest).take length
  if Word.isKeyword word then
    ⟨length, some .keyword, if Word.opensArm word then some .arm else none, .code⟩
  else if Word.isAtom word then colored .atom length
  else colored .variable length

/-- The string whose opening quote has just been read. -/
def scanString (quote : Quote) (rest : Text) : Lexeme :=
  let (length, region) := stringRest quote false rest
  ⟨length + 1, some .string, none, region⟩

/-- A lexeme that starts with a slash: a comment, or an operator. -/
def scanSlash : Text → Lexeme
  | '*' :: rest =>
    let (length, region) := commentRest rest
    ⟨length + 2, some .comment, none, region⟩
  | '/' :: rest => colored .comment (rest.length + 2)
  | rest => colored .operator (Text.runLength isOperatorSign rest + 1)

/-- The lexeme at the start of a text in code. -/
def scanCode : Text → Lexeme
  | [] => ⟨0, none, none, .code⟩
  | first :: rest =>
    match Quote.ofChar? first, Delimiter.ofOpener? first, Delimiter.ofCloser? first with
    | some quote, _, _ => scanString quote rest
    | none, some delimiter, _ => punctuation (some (.opening delimiter))
    | none, none, some delimiter => punctuation (some (.closing delimiter))
    | none, none, none =>
      if Number.startsNumber first then colored .number (Number.lengthAfter first rest + 1)
      else if isSeparator first then punctuation none
      else if first == '/' then scanSlash rest
      else if isOperatorSign first then colored .operator (Text.runLength isOperatorSign rest + 1)
      else scanWord first rest

/-- The lexeme at the start of a text in a region. -/
def scan (region : Region) (text : Text) : Lexeme :=
  match region with
  | .code => scanCode text
  | .string quote =>
    let (length, region) := stringRest quote false text
    ⟨length, some .string, none, region⟩
  | .comment =>
    let (length, region) := commentRest text
    ⟨length, some .comment, none, region⟩

/-! ## How much a lexeme takes -/

/-- A word has at least its first character. -/
theorem wordLength_pos (first : Char) (rest : Text) : 0 < wordLength first rest := by
  simp only [wordLength]
  split
  · omega
  · split <;> omega

/-- A word ends within its text. -/
theorem wordLength_le (first : Char) (rest : Text) : wordLength first rest ≤ rest.length + 1 := by
  have hrun := Text.runLength_le Word.continues rest
  have hdrop : (rest.drop (rest.runLength Word.continues)).length =
      rest.length - rest.runLength Word.continues := List.length_drop
  simp only [wordLength]
  split
  · omega
  · rename_i mark after hmark
    rw [hmark, List.length_cons] at hdrop
    split <;> omega

/-- A keyword, an atom and a variable are as long as the word. -/
theorem scanWord_length (first : Char) (rest : Text) :
    (scanWord first rest).length = wordLength first rest := by
  simp only [scanWord, colored]
  split
  · rfl
  · split <;> rfl

/-- A lexeme that starts with a slash has at least the slash. -/
theorem scanSlash_length_pos (rest : Text) : 0 < (scanSlash rest).length := by
  unfold scanSlash
  split <;> simp [colored]

/-- A lexeme that starts with a slash ends within its text. -/
theorem scanSlash_length_le (rest : Text) : (scanSlash rest).length ≤ rest.length + 1 := by
  unfold scanSlash
  split
  · exact Nat.succ_le_succ (Nat.succ_le_succ (commentRest_length_le _))
  · simp [colored]
  · exact Nat.succ_le_succ (Text.runLength_le ..)

/-- A lexeme of code takes at least one character of a text that has any. -/
theorem scanCode_length_pos {text : Text} (h : text ≠ []) : 0 < (scanCode text).length := by
  cases text with
  | nil => exact absurd rfl h
  | cons first rest =>
    rw [scanCode]
    split
    · simp [scanString]
    · simp [punctuation]
    · simp [punctuation]
    · split
      · simp [colored]
      · split
        · simp [punctuation]
        · split
          · exact scanSlash_length_pos rest
          · split
            · simp [colored]
            · rw [scanWord_length]
              exact wordLength_pos first rest

/-- A lexeme of code ends within its text. -/
theorem scanCode_length_le (text : Text) : (scanCode text).length ≤ text.length := by
  cases text with
  | nil => exact Nat.le_refl 0
  | cons first rest =>
    rw [scanCode]
    split
    · exact Nat.succ_le_succ (stringRest_length_le ..)
    · simp [punctuation]
    · simp [punctuation]
    · split
      · exact Nat.succ_le_succ (Number.lengthAfter_le ..)
      · split
        · simp [punctuation]
        · split
          · exact scanSlash_length_le rest
          · split
            · exact Nat.succ_le_succ (Text.runLength_le ..)
            · rw [scanWord_length]
              exact wordLength_le first rest

/-- A lexeme of a text that is not empty has at least one character. -/
theorem scan_length_pos (region : Region) {text : Text} (h : text ≠ []) :
    0 < (scan region text).length := by
  cases region with
  | code => exact scanCode_length_pos h
  | string quote => exact stringRest_length_pos quote false h
  | comment => exact commentRest_length_pos h

/-- A lexeme ends within its text. -/
theorem scan_length_le (region : Region) (text : Text) :
    (scan region text).length ≤ text.length := by
  cases region with
  | code => exact scanCode_length_le text
  | string quote => exact stringRest_length_le quote false text
  | comment => exact commentRest_length_le text

end SyntaxMode.Lexeme
