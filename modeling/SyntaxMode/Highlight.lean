import SyntaxMode.Token

/-!
# Highlighting a line

`tokens` reads a line to its end, and `highlight` keeps of each token the span of bytes it covers
and its style. The tokens of a line are its text cut into pieces (`flatMap_text_tokens`), so each
span begins where the one before it ends. An empty line has no tokens and leaves the state as it
is.
-/

namespace SyntaxMode

/-- The place of a token in its line, in bytes, and its style. -/
structure Span where
  start : Nat
  stop : Nat
  style : Option Style
  deriving DecidableEq, Repr

/-- The tokens from a cursor to the end of its line. -/
def tokens (config : Config) (cursor : Cursor) (state : State) : List Token :=
  if _ : cursor.ahead = [] then []
  else
    let token := Token.read config cursor state
    token :: tokens config token.cursor token.after
termination_by cursor.ahead.length
decreasing_by exact Token.ahead_length_lt config state ‹_›

/-- The tokens of a line that begins in a state. -/
def lineTokens (config : Config) (state : State) (line : Text) : List Token :=
  tokens config (Cursor.ofLine line) state

/-- The spans of tokens that follow one another from a byte offset on. -/
def spansFrom (start : Nat) : List Token → List Span
  | [] => []
  | token :: rest =>
    let stop := start + token.text.byteLength
    ⟨start, stop, token.style⟩ :: spansFrom stop rest

/-- The state behind tokens that begin in a state. -/
def stateAfter (state : State) (tokens : List Token) : State :=
  match tokens.getLast? with
  | some token => token.after
  | none => state

/-- The spans of a line that begins in a state, and the state behind the line. -/
def highlight (config : Config) (state : State) (line : Text) : List Span × State :=
  let tokens := lineTokens config state line
  (spansFrom 0 tokens, stateAfter state tokens)

/-! ## The tokens of a line -/

@[simp] theorem lineTokens_nil (config : Config) (state : State) :
    lineTokens config state [] = [] := by
  rw [lineTokens, tokens]
  rfl

/-- The tokens up to the end of a line make up the text ahead of the cursor. -/
theorem flatMap_text_tokens (config : Config) (cursor : Cursor) (state : State) :
    (tokens config cursor state).flatMap Token.text = cursor.ahead := by
  fun_induction tokens config cursor state with
  | case1 cursor state h => simp [h]
  | case2 cursor state h token ih =>
    rw [List.flatMap_cons, ih]
    exact (Token.ahead_eq_text_append config cursor state).symm

/-- The tokens of a line make up the line. -/
theorem flatMap_text_lineTokens (config : Config) (state : State) (line : Text) :
    (lineTokens config state line).flatMap Token.text = line :=
  flatMap_text_tokens config (Cursor.ofLine line) state

end SyntaxMode
