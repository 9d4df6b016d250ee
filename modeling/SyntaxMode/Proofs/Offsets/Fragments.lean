import SyntaxMode.Proofs.Offsets.Line

/-!
# Reading on from any place

An editor may have read a part of a line already, with other settings and inside other brackets.
What it shows of the rest does not depend on that: from any two places with the same text ahead and
from any two states with the same region, reading to the end of the line finds the same fragments
and ends in the same region (`fragments_eq_of_rest_eq`). The places are byte offsets here, and
nothing is said about where the last lexeme began, because a token begins a new one before it
slices the line.
-/

namespace SyntaxMode

namespace Offsets

/-- Passes the rest of the line token by token, in at most a number of rounds, and answers the
texts and styles of the tokens and the state behind them. -/
def fragmentsWithin (config : Config) (state : State) : Nat → Program (List Fragment × State)
  | 0 => failure
  | rounds + 1 => do
    let before ← get
    if before.line.byteLength ≤ before.position then return ([], state)
    else
      let (style, state) ← token config state
      let text ← current
      let (rest, state) ← fragmentsWithin config state rounds
      return (⟨text, style⟩ :: rest, state)

/-- Passes the rest of the line token by token, and answers the texts and styles of the tokens and
the state behind them. -/
def fragments (config : Config) (state : State) : Program (List Fragment × State) := do
  fragmentsWithin config state (← rounds)

/-- From a cursor on, the fragments are those of the tokens. -/
theorem exists_runs_fragmentsWithin (config : Config) (cursor : Cursor) (state : State)
    {rounds : Nat} (hrounds : cursor.ahead.length < rounds) :
    ∃ after, Runs (fragmentsWithin config state rounds) cursor
      ((tokens config cursor state).map Token.fragment,
        stateAfter state (tokens config cursor state)) after := by
  obtain ⟨rounds, rfl⟩ := Nat.exists_eq_succ_of_ne_zero (Nat.ne_zero_of_lt hrounds)
  fun_induction tokens config cursor state generalizing rounds with
  | case1 cursor state h =>
    refine ⟨cursor, .bind (runs_get cursor) ?_⟩
    rw [if_pos ((byteLength_line_le_position_iff cursor).2 h)]
    exact .pure _ _
  | case2 cursor state h token ih =>
    have hlt : token.cursor.ahead.length < cursor.ahead.length :=
      Token.ahead_length_lt config state h
    obtain ⟨rounds, rfl⟩ := Nat.exists_eq_succ_of_ne_zero (show rounds ≠ 0 by omega)
    obtain ⟨after, hrest⟩ := ih rounds (by omega)
    refine ⟨after, .bind (runs_get cursor) ?_⟩
    rw [if_neg (mt (byteLength_line_le_position_iff cursor).1 h), List.map_cons, stateAfter_cons]
    exact .bind (runs_token config cursor state)
      (.bind (runs_current _ (Token.lexeme?_cursor config cursor state)) (.bind hrest (.pure _ _)))

/-! ## Any place -/

/-- The rest of a line is sliced off at the place. -/
theorem run'_rest (offsets : Offsets) :
    rest.run' offsets = (offsets.line.splitAtByte? offsets.position).map Prod.snd := by
  show (((offsets.line.splitAtByte? offsets.position).bind fun parts => some (parts, offsets)).bind
    fun result => some (result.1.2, result.2)).map Prod.fst = _
  cases offsets.line.splitAtByte? offsets.position <;> rfl

/-- A place at which the rest of a line can be sliced off is a place between two characters. -/
theorem exists_cursor_of_rest {offsets : Offsets} {text : Text}
    (h : rest.run' offsets = some text) :
    ∃ cursor : Cursor, cursor.ahead = text ∧
      cursor.offsets = { offsets with lexemeStart := offsets.position } := by
  obtain ⟨line, lexemeStart, position⟩ := offsets
  rw [run'_rest, Option.map_eq_some_iff] at h
  obtain ⟨⟨front, _⟩, hparts, rfl⟩ := h
  obtain ⟨rfl, rfl⟩ := Text.eq_append_of_splitAtByte? hparts
  refine ⟨⟨front.reverse, _, front.length⟩, rfl, ?_⟩
  simp [Cursor.offsets, Cursor.line, Cursor.lexemeStart, Cursor.beforeLexeme, Cursor.position]

/-- The fragments up to the end of a line do not depend on where the last lexeme began: there is no
token left, or the first one begins a lexeme of its own. -/
theorem run'_fragments (config : Config) (state : State) (offsets : Offsets) :
    (fragments config state).run' offsets =
      (fragments config state).run' { offsets with lexemeStart := offsets.position } := by
  have hround (offsets : Offsets) : (fragments config state).run' offsets =
      (if offsets.line.byteLength ≤ offsets.position then return ([], state)
        else do
          let (style, state) ← token config state
          let text ← current
          let (rest, state) ← fragmentsWithin config state offsets.line.byteLength
          return (⟨text, style⟩ :: rest, state) : Program (List Fragment × State)).run' offsets :=
    rfl
  rw [hround, hround]
  split <;> rfl

/-- **Reading on from any place.** If the rest of a line can be sliced off at a place, the rest is
passed to its end, with the fragments and the state of the tokens of any cursor that has this rest
ahead. -/
theorem run'_fragments_of_rest (config : Config) (state : State) {offsets : Offsets} {text : Text}
    (h : rest.run' offsets = some text) :
    ∃ cursor : Cursor, cursor.ahead = text ∧ (fragments config state).run' offsets =
      some ((tokens config cursor state).map Token.fragment,
        stateAfter state (tokens config cursor state)) := by
  obtain ⟨cursor, hahead, hoffsets⟩ := exists_cursor_of_rest h
  obtain ⟨count, hcount, hrounds⟩ := runs_rounds cursor
  obtain ⟨after, hfragments⟩ := exists_runs_fragmentsWithin config cursor state hcount
  have hrun : (fragments config state).run cursor.offsets = some (_, after.offsets) :=
    Runs.bind hrounds hfragments
  refine ⟨cursor, hahead, ?_⟩
  rw [run'_fragments, ← hoffsets, StateT.run',
    show fragments config state cursor.offsets = _ from hrun]
  rfl

end Offsets

/-- **What is shown depends on the region and the rest of the line.** Let the rest of two lines be
the same at two places, and let two states have the same region. Then reading goes on from both to
the end of the line, under any settings; it finds the same texts and styles, and ends in the same
region; and these are those of the tokens from any cursor that has this rest ahead in any line. -/
theorem Offsets.fragments_eq_of_rest_eq (config config' : Config) {state state' : State}
    (hregion : state.region = state'.region) {offsets offsets' : Offsets} {text : Text}
    (hrest : rest.run' offsets = some text) (hrest' : rest.run' offsets' = some text) :
    ∃ shown after after',
      (fragments config state).run' offsets = some (shown, after) ∧
      (fragments config' state').run' offsets' = some (shown, after') ∧
      after.region = after'.region ∧
      ∀ cursor : Cursor, cursor.ahead = text →
        (tokens config cursor state).map Token.fragment = shown ∧
        (stateAfter state (tokens config cursor state)).region = after.region := by
  obtain ⟨cursor, hahead, hrun⟩ := run'_fragments_of_rest config state hrest
  obtain ⟨cursor', hahead', hrun'⟩ := run'_fragments_of_rest config' state' hrest'
  obtain ⟨hfragments, hend⟩ :=
    fragments_tokens_congr config config' (hahead.trans hahead'.symm) hregion
  rw [← hfragments] at hrun'
  refine ⟨_, _, _, hrun, hrun', hend, ?_⟩
  intro other hother
  exact fragments_tokens_congr config config (hother.trans hahead.symm) (Eq.refl state.region)

/-- The theorem for the rest of a line behind a character of two bytes, inside a bracket and with
the last lexeme begun inside that character, and for a line that consists of this rest only. -/
theorem Offsets.fragments_eq_of_rest_eq_line :
    let text := r"{ x /* y".toList
    let state := (State.start ⟨8, 3⟩ 5).openBracket .paren 7
    let offsets : Offsets := ⟨'é' :: text, 1, 2⟩
    state.region = (State.initial {}).region ∧ rest.run' offsets = some text ∧
      rest.run' ⟨text, 0, 0⟩ = some text ∧ ∃ shown after after',
        (fragments ⟨8, 3⟩ state).run' offsets = some (shown, after) ∧
        (fragments {} (State.initial {})).run' ⟨text, 0, 0⟩ = some (shown, after') ∧
        after.region = after'.region := by
  intro text state offsets
  have hregion : state.region = (State.initial {}).region := rfl
  have hrest : rest.run' offsets = some text := by decide
  have hrest' : rest.run' ⟨text, 0, 0⟩ = some text := by decide
  obtain ⟨shown, after, after', hrun, hrun', hend, -⟩ :=
    fragments_eq_of_rest_eq ⟨8, 3⟩ {} hregion hrest hrest'
  exact ⟨hregion, hrest, hrest', shown, after, after', hrun, hrun', hend⟩

end SyntaxMode
