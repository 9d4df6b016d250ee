import SyntaxMode.Proofs.Nesting.Follow
import SyntaxMode.Proofs.Token.Lexing

/-!
# Reading lexemes

`Reads` relates a state, the lexemes that are read from it one after the other, and the state
behind them. It leaves out where the lexemes stand: blanks between them change nothing, and the
column of a bracket is any column. A line that is not empty is entered, and then its lexemes are
read (`reads_line`). Statements about the contexts are proved by induction on `Reads`, with one
case for each lexeme.
-/

namespace SyntaxMode

namespace State

variable (tabSize : UInt32) (cursor : Cursor) (lexeme : Lexeme) (state : State)

/-- Closing a bracket closes its context. -/
theorem nesting_closeBracket (delimiter : Delimiter) :
    (state.closeBracket delimiter).nesting = state.nesting.close delimiter := by
  have hcontext : state.context = state.nesting.innermost := rfl
  rw [closeBracket, Nesting.close, hcontext]
  split
  · cases state.nesting.pop? <;> rfl
  · rfl

/-- What a lexeme does to the contexts of a state. -/
theorem nesting_afterLexeme :
    (state.afterLexeme tabSize cursor lexeme).nesting =
      state.nesting.follow lexeme.style lexeme.effect fun delimiter =>
        ⟨state.indented, cursor.column tabSize, .block delimiter, none⟩ := by
  simp only [afterLexeme, Nesting.follow]
  split
  · rfl
  · cases lexeme.effect with
    | none => rfl
    | some effect =>
      cases effect with
      | opening | arm => rfl
      | closing delimiter => exact nesting_closeBracket _ delimiter

end State

namespace Token

variable (config : Config) {cursor : Cursor} (state : State)

/-- Where no blank is ahead, a token is a lexeme that has the style and the effect of its
fragment. -/
theorem exists_lexeme_read (h : cursor.ahead.blankRun = 0) :
    ∃ lexeme : Lexeme, lexeme.style = (read config cursor state).fragment.style ∧
      lexeme.effect = (read config cursor state).fragment.effect? ∧
      (read config cursor state).after =
        (state.atCursor config.tabSize cursor).afterLexeme config.tabSize cursor.begin lexeme := by
  rw [read_of_blankRun_eq_zero config state h]
  exact ⟨Lexeme.scan state.region cursor.ahead, rfl,
    Lexeme.effect_scan state.region cursor.ahead, rfl⟩

/-- A token is a lexeme, which does to the contexts what its fragment says, or it does nothing to
them once its line is entered. -/
theorem nesting_read (cursor : Cursor) :
    let fragment := (read config cursor state).fragment
    let entered := state.atCursor config.tabSize cursor
    (fragment.effect? = none ∧ (read config cursor state).after.nesting = entered.nesting) ∨
      ∃ opening : Delimiter → Context,
        (∀ delimiter, (opening delimiter).kind = .block delimiter) ∧
        (read config cursor state).after.nesting =
          entered.nesting.follow fragment.style fragment.effect? opening := by
  intro fragment entered
  by_cases hblank : cursor.ahead.blankRun = 0
  · obtain ⟨lexeme, hstyle, heffect, hafter⟩ := exists_lexeme_read config state hblank
    refine .inr ⟨fun delimiter => ⟨entered.indented, cursor.begin.column config.tabSize,
      .block delimiter, none⟩, fun _ => rfl, ?_⟩
    rw [hafter, State.nesting_afterLexeme, hstyle, heffect]
  · have hread : read config cursor state = _ := read_of_blankRun_ne_zero config state hblank
    refine .inl ⟨Fragment.effect?_of_isBlank ?_ ?_, ?_⟩
    · exact congrArg Token.style hread
    · exact isBlank_fragment_of_blankRun_ne_zero config state hblank
    · rw [hread]

end Token

/-- Lexemes that are read one after the other from a state, and the state behind them. -/
inductive Reads (tabSize : UInt32) : State → List Fragment → State → Prop where
  | nil (state : State) : Reads tabSize state [] state
  | cons {state after : State} {fragment : Fragment} {rest : List Fragment}
      (cursor : Cursor) (lexeme : Lexeme) (hstyle : lexeme.style = fragment.style)
      (heffect : lexeme.effect = fragment.effect?)
      (hrest : Reads tabSize (state.afterLexeme tabSize cursor lexeme) rest after) :
      Reads tabSize state (fragment :: rest) after

namespace Reads

variable {tabSize tabSize' : UInt32}

/-- Reading two lists of lexemes one after the other. -/
theorem append_iff {state after : State} {a b : List Fragment} :
    Reads tabSize state (a ++ b) after ↔
      ∃ middle, Reads tabSize state a middle ∧ Reads tabSize middle b after := by
  induction a generalizing state with
  | nil =>
    constructor
    · intro h
      exact ⟨state, .nil state, h⟩
    · rintro ⟨_, ⟨⟩, h⟩
      exact h
  | cons fragment a ih =>
    constructor
    · rintro (_ | ⟨cursor, lexeme, hstyle, heffect, hrest⟩)
      obtain ⟨middle, ha, hb⟩ := ih.1 hrest
      exact ⟨middle, .cons cursor lexeme hstyle heffect ha, hb⟩
    · rintro ⟨middle, ⟨⟩ | ⟨cursor, lexeme, hstyle, heffect, hrest⟩, hb⟩
      exact .cons cursor lexeme hstyle heffect (ih.2 ⟨middle, hrest, hb⟩)

/-- The outline of the contexts behind lexemes follows from the outline before them. -/
theorem outline_congr {state state' after after' : State} {fragments : List Fragment}
    (h : Reads tabSize state fragments after) (h' : Reads tabSize' state' fragments after')
    (houtline : state.nesting.outline = state'.nesting.outline) :
    after.nesting.outline = after'.nesting.outline := by
  induction h generalizing state' with
  | nil =>
    cases h'
    exact houtline
  | cons cursor lexeme hstyle heffect hrest ih =>
    obtain _ | ⟨cursor', lexeme', hstyle', heffect', hrest'⟩ := h'
    refine ih hrest' ?_
    rw [State.nesting_afterLexeme, State.nesting_afterLexeme, Nesting.outline_follow,
      Nesting.outline_follow, houtline, hstyle, hstyle', heffect, heffect']
    rfl

end Reads

/-! ## Reading a line -/

/-- From a cursor on, the lexemes up to the end of the line are read, once the line is entered. -/
theorem reads_tokens (config : Config) (cursor : Cursor) (state : State) :
    Reads config.tabSize (state.atCursor config.tabSize cursor)
      (lexemesOf (tokens config cursor state))
      (stateAfter (state.atCursor config.tabSize cursor) (tokens config cursor state)) := by
  fun_induction tokens config cursor state with
  | case1 cursor state h => exact .nil _
  | case2 cursor state h token ih =>
    rw [State.atCursor_of_atStart_eq_false _ _ _ (Token.atStart_cursor_read config state h)] at ih
    rw [lexemesOf_cons, stateAfter_cons]
    by_cases hblank : cursor.ahead.blankRun = 0
    · obtain ⟨lexeme, hstyle, heffect, hafter⟩ := Token.exists_lexeme_read config state hblank
      rw [Token.isBlank_fragment_of_blankRun_eq_zero config state hblank h]
      refine .cons cursor.begin lexeme hstyle heffect ?_
      rwa [← hafter]
    · have hread : token = _ := Token.read_of_blankRun_ne_zero config state hblank
      rw [Token.isBlank_fragment_of_blankRun_ne_zero config state hblank, if_pos rfl]
      have hafter : token.after = state.atCursor config.tabSize cursor :=
        congrArg Token.after hread
      rwa [← hafter]

/-- **Reading a line.** A line that is not empty is entered with its indentation, and then its
lexemes are read. -/
theorem reads_line (config : Config) (state : State) {line : Text} (h : line ≠ []) :
    Reads config.tabSize
      (state.enterLine (Column.ofText config.tabSize (line.takeWhile isBlank)))
      (lexemesOf (lineTokens config state line)) (highlight config state line).2 := by
  have hreads := reads_tokens config (Cursor.ofLine line) state
  have hahead : (Cursor.ofLine line).ahead ≠ [] := h
  rw [tokens_of_ahead_ne_nil config state hahead, stateAfter_cons] at hreads
  rw [highlight, lineTokens, tokens_of_ahead_ne_nil config state hahead, stateAfter_cons]
  exact hreads

/-- A blank line that is not empty is entered, and nothing more. -/
theorem after_highlight_of_blank (config : Config) (state : State) {line : Text}
    (h : line.trimStart = []) (hne : line ≠ []) :
    (highlight config state line).2 =
      state.enterLine (Column.ofText config.tabSize (line.takeWhile isBlank)) := by
  have hreads := reads_line config state hne
  rw [lexemesOf_lineTokens_of_trimStart_eq_nil config state h] at hreads
  generalize (highlight config state line).2 = after at hreads
  cases hreads
  rfl

end SyntaxMode
