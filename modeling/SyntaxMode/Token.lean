import SyntaxMode.Cursor.Basic
import SyntaxMode.Lexeme.Scan
import SyntaxMode.State

/-!
# Tokens

`Token.read` is one step of the reader: a run of blanks or one lexeme, and what it does to the
state. At the start of a line the contexts are settled and the indentation of the line is taken.
A comment colors its text and changes nothing but the region; any other lexeme also tells the
innermost context that something follows its bracket, and may open or close a context.
-/

namespace SyntaxMode

namespace State

/-- The state at the start of a line with a given indentation. -/
def enterLine (indentation : Column) (state : State) : State :=
  { state with
    nesting := state.nesting.modify Context.atLineStart
    indented := indentation.toSigned
    freshLine := true }

/-- The state in which a token is read at a cursor: at the start of a line the line is entered. -/
def atCursor (tabSize : UInt32) (cursor : Cursor) (state : State) : State :=
  if cursor.atStart then state.enterLine (cursor.indentation tabSize) else state

/-- The state after a bracket opens in a column. -/
def openBracket (delimiter : Delimiter) (column : Column) (state : State) : State :=
  { state with
    nesting := state.nesting.push ⟨state.indented, column, .block delimiter, none⟩ }

/-- The state after a bracket closes. It closes nothing unless it pairs with the innermost one. -/
def closeBracket (delimiter : Delimiter) (state : State) : State :=
  if state.context.kind = .block delimiter then
    match state.nesting.pop? with
    | some (closed, outer) => { state with nesting := outer, indented := closed.indented }
    | none => state
  else state

/-- The state after the word that opens an arm of a `switch`. -/
def openArm (state : State) : State :=
  { state with nesting := state.nesting.modify fun context => { context with kind := .arm } }

/-- The state after an effect on the contexts. A bracket stands in the column that the cursor's
lexeme began in. -/
def applyEffect (tabSize : UInt32) (cursor : Cursor) (state : State) : Effect → State
  | .opening delimiter => state.openBracket delimiter (cursor.column tabSize)
  | .closing delimiter => state.closeBracket delimiter
  | .arm => state.openArm

/-- The state after a lexeme that begins at a cursor. -/
def afterLexeme (tabSize : UInt32) (cursor : Cursor) (lexeme : Lexeme) (state : State) : State :=
  let state := { state with region := lexeme.region }
  if lexeme.style = some .comment then state
  else
    let state := { state with nesting := state.nesting.modify Context.afterLexeme }
    let state := match lexeme.effect with
      | some effect => state.applyEffect tabSize cursor effect
      | none => state
    { state with freshLine := false }

end State

/-- A run of blanks or a lexeme, as read from a line. -/
structure Token where
  /-- What was read. -/
  text : Text
  /-- Its style, if it is colored. -/
  style : Option Style
  /-- The cursor behind it, with the mark at its beginning. -/
  cursor : Cursor
  /-- The state behind it. -/
  after : State
  deriving DecidableEq, Repr

namespace Token

/-- Reads one token from a cursor in a state. -/
def read (config : Config) (cursor : Cursor) (state : State) : Token :=
  let cursor := cursor.begin
  let state := state.atCursor config.tabSize cursor
  if cursor.ahead.blankRun = 0 then
    let lexeme := Lexeme.scan state.region cursor.ahead
    { text := cursor.ahead.take lexeme.length
      style := lexeme.style
      cursor := cursor.forward lexeme.length
      after := state.afterLexeme config.tabSize cursor lexeme }
  else
    { text := cursor.ahead.take cursor.ahead.blankRun
      style := none
      cursor := cursor.forward cursor.ahead.blankRun
      after := state }

/-- A token passes exactly its own text. -/
theorem ahead_eq_text_append (config : Config) (cursor : Cursor) (state : State) :
    cursor.ahead = (read config cursor state).text ++ (read config cursor state).cursor.ahead := by
  simp only [read]
  split <;> simp

/-- The text of a token is the lexeme that its cursor has passed. -/
theorem lexeme?_cursor (config : Config) (cursor : Cursor) (state : State) :
    (read config cursor state).cursor.lexeme? = some (read config cursor state).text := by
  simp only [read]
  split <;> exact Cursor.lexeme?_forward_begin ..

/-- Before the end of a line no token is empty. -/
theorem text_ne_nil (config : Config) {cursor : Cursor} (state : State) (h : cursor.ahead ≠ []) :
    (read config cursor state).text ≠ [] := by
  have take_ne {n : Nat} (hn : n ≠ 0) : cursor.ahead.take n ≠ [] := by
    simp [List.take_eq_nil_iff, h, hn]
  simp only [read]
  split
  · exact take_ne (Nat.ne_of_gt (Lexeme.scan_length_pos _ h))
  · rename_i hblanks
    exact take_ne hblanks

/-- Before the end of a line each token leaves less of the line to read. -/
theorem ahead_length_lt (config : Config) {cursor : Cursor} (state : State)
    (h : cursor.ahead ≠ []) :
    (read config cursor state).cursor.ahead.length < cursor.ahead.length := by
  have hlen := congrArg List.length (ahead_eq_text_append config cursor state)
  have hpos := List.length_pos_iff.2 (text_ne_nil config state h)
  rw [List.length_append] at hlen
  omega

end Token

end SyntaxMode
