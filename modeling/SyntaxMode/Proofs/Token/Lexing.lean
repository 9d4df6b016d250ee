import SyntaxMode.Proofs.Text.Lines
import SyntaxMode.Proofs.Token.Fragment

/-!
# Lexing

What the reader makes of a line depends on the region in which the line begins and on its text, and
on nothing else: not on the contexts, not on the settings, and not on the blanks that the line
starts with (`lexemesOf_lineTokens_congr`). The region behind the line is determined in the same
way.
-/

namespace SyntaxMode

namespace Text

/-- Leading blanks are the run that is skipped. -/
theorem take_blankRun (text : Text) : text.take text.blankRun = text.takeWhile isBlank :=
  take_runLength isBlank text

/-- Behind the leading blanks stands what is left without them. -/
theorem drop_blankRun (text : Text) : text.drop text.blankRun = text.trimStart :=
  drop_runLength isBlank text

/-- Without its leading blanks a text has none. -/
theorem blankRun_trimStart (text : Text) : text.trimStart.blankRun = 0 := by
  have hlength := congrArg List.length (takeWhile_append_trimStart text.trimStart)
  rw [trimStart_trimStart, List.length_append] at hlength
  exact Nat.add_eq_right.1 hlength

/-- Spaces before a text without leading blanks are the leading blanks. -/
theorem takeWhile_spaces_append (count : Nat) (text : Text) :
    (List.replicate count ' ' ++ text.trimStart).takeWhile isBlank = List.replicate count ' ' := by
  have hspaces : ∀ c ∈ List.replicate count ' ', isBlank c = true := by
    intro c hc
    rw [List.eq_of_mem_replicate hc]
    rfl
  have htrim : text.trimStart.takeWhile isBlank = [] :=
    List.eq_nil_of_length_eq_zero (blankRun_trimStart text)
  rw [List.takeWhile_append_of_pos hspaces, htrim, List.append_nil]

/-- A text without leading blanks starts with a character that is not blank. -/
theorem isBlank_of_blankRun_eq_zero {c : Char} {rest : Text}
    (h : blankRun (c :: rest) = 0) : isBlank c = false := by
  have htrim : trimStart (c :: rest) = c :: rest := by
    rw [← drop_blankRun, h, List.drop_zero]
  exact isBlank_of_trimStart_eq htrim

end Text

/-! ## States between tokens -/

namespace State

variable (tabSize : UInt32) (cursor : Cursor) (state : State)

@[simp] theorem region_atCursor : (state.atCursor tabSize cursor).region = state.region := by
  rw [atCursor]
  split <;> rfl

/-- A line is entered in the same way before and after a lexeme begins. -/
@[simp] theorem atCursor_begin :
    state.atCursor tabSize cursor.begin = state.atCursor tabSize cursor := rfl

/-- Behind the start of a line no line is entered. -/
theorem atCursor_of_atStart_eq_false (h : cursor.atStart = false) :
    state.atCursor tabSize cursor = state := by
  rw [atCursor, h]
  rfl

/-- Without leading blanks a line is entered with no indentation. -/
theorem atCursor_of_blankRun_eq_zero {cursor : Cursor} (h : cursor.ahead.blankRun = 0)
    (tabSize : UInt32) (state : State) :
    state.atCursor tabSize cursor =
      if cursor.atStart then state.enterLine (Column.ofText tabSize []) else state := by
  have hblanks : cursor.ahead.takeWhile isBlank = [] := List.eq_nil_of_length_eq_zero h
  rw [atCursor]
  split
  next hstart =>
    rw [Cursor.indentation, Cursor.line, List.isEmpty_iff.1 hstart, List.reverse_nil,
      List.nil_append, hblanks]
  next => rfl

@[simp] theorem region_applyEffect (effect : Effect) :
    (state.applyEffect tabSize cursor effect).region = state.region := by
  cases effect with
  | opening | arm => rfl
  | closing delimiter =>
    rw [applyEffect, closeBracket]
    split
    · split <;> rfl
    · rfl

/-- A comment changes neither the contexts nor the indentation. -/
theorem afterLexeme_of_comment {tabSize : UInt32} {cursor : Cursor} {state : State}
    {lexeme : Lexeme} (h : lexeme.style = some .comment) :
    state.afterLexeme tabSize cursor lexeme = { state with region := lexeme.region } := if_pos h

/-- A lexeme determines the region behind it. -/
@[simp] theorem region_afterLexeme (lexeme : Lexeme) :
    (state.afterLexeme tabSize cursor lexeme).region = lexeme.region := by
  simp only [afterLexeme]
  split
  · rfl
  · split
    · exact region_applyEffect ..
    · rfl

end State

/-! ## Reading a token -/

namespace Token

variable (config : Config) {cursor : Cursor} (state : State)

/-- Where blanks are ahead, they are the token, and they do no more than enter a line. -/
theorem read_of_blankRun_ne_zero (h : cursor.ahead.blankRun ≠ 0) :
    read config cursor state =
      { text := cursor.ahead.takeWhile isBlank
        style := none
        cursor := cursor.begin.forward cursor.ahead.blankRun
        after := state.atCursor config.tabSize cursor } := by
  rw [← Text.take_blankRun]
  exact if_neg h

/-- Where no blank is ahead, the token is a lexeme of the current region. -/
theorem read_of_blankRun_eq_zero (h : cursor.ahead.blankRun = 0) :
    read config cursor state =
      { text := cursor.ahead.take (Lexeme.scan state.region cursor.ahead).length
        style := (Lexeme.scan state.region cursor.ahead).style
        cursor := cursor.begin.forward (Lexeme.scan state.region cursor.ahead).length
        after := (state.atCursor config.tabSize cursor).afterLexeme config.tabSize cursor.begin
          (Lexeme.scan state.region cursor.ahead) } := by
  rw [← State.region_atCursor config.tabSize cursor state]
  exact if_pos h

/-- Behind a token the cursor is not at the start of its line. -/
theorem atStart_cursor_read (h : cursor.ahead ≠ []) :
    (read config cursor state).cursor.atStart = false := by
  have hbehind : ∃ count ≠ 0,
      (read config cursor state).cursor = cursor.begin.forward count := by
    by_cases hblank : cursor.ahead.blankRun = 0
    · rw [read_of_blankRun_eq_zero config state hblank]
      exact ⟨_, Nat.ne_of_gt (Lexeme.scan_length_pos state.region h), rfl⟩
    · rw [read_of_blankRun_ne_zero config state hblank]
      exact ⟨_, hblank, rfl⟩
  obtain ⟨count, hcount, hcursor⟩ := hbehind
  rw [hcursor]
  simp [Cursor.atStart, Cursor.forward, Cursor.begin, h, hcount]

/-- What is read, what is left ahead and the region behind depend only on the region and on the
text ahead. -/
theorem read_congr (config config' : Config) {cursor cursor' : Cursor} {state state' : State}
    (hahead : cursor.ahead = cursor'.ahead) (hregion : state.region = state'.region) :
    (read config cursor state).fragment = (read config' cursor' state').fragment ∧
      (read config cursor state).cursor.ahead = (read config' cursor' state').cursor.ahead ∧
      (read config cursor state).after.region = (read config' cursor' state').after.region := by
  by_cases h : cursor.ahead.blankRun = 0
  · rw [read_of_blankRun_eq_zero config state h,
      read_of_blankRun_eq_zero config' state' (hahead ▸ h)]
    simp [fragment, hahead, hregion]
  · rw [read_of_blankRun_ne_zero config state h,
      read_of_blankRun_ne_zero config' state' (hahead ▸ h)]
    simp [fragment, hahead, hregion]

/-- A run of blanks is a blank fragment. -/
theorem isBlank_fragment_of_blankRun_ne_zero (h : cursor.ahead.blankRun ≠ 0) :
    (read config cursor state).fragment.isBlank = true := by
  rw [read_of_blankRun_ne_zero config state h]
  exact List.all_takeWhile

/-- A lexeme is no blank fragment. -/
theorem isBlank_fragment_of_blankRun_eq_zero (h : cursor.ahead.blankRun = 0)
    (hne : cursor.ahead ≠ []) : (read config cursor state).fragment.isBlank = false := by
  obtain ⟨c, rest, hahead⟩ := List.exists_cons_of_ne_nil hne
  obtain ⟨n, hn⟩ := Nat.exists_eq_succ_of_ne_zero
    (Nat.ne_of_gt (Lexeme.scan_length_pos state.region hne))
  rw [read_of_blankRun_eq_zero config state h]
  rw [hahead] at h hn ⊢
  simp [fragment, Fragment.isBlank, Text.isAllBlank, hn, Text.isBlank_of_blankRun_eq_zero h]

end Token

/-! ## Reading a line -/

section
variable (config : Config) {cursor : Cursor} (state : State)

/-- At the end of a line no token is left. -/
theorem tokens_of_ahead_eq_nil (h : cursor.ahead = []) : tokens config cursor state = [] := by
  rw [tokens, dif_pos h]

/-- Before the end of a line a token is read, and the others are read behind it. -/
theorem tokens_of_ahead_ne_nil (h : cursor.ahead ≠ []) :
    tokens config cursor state = Token.read config cursor state ::
      tokens config (Token.read config cursor state).cursor
        (Token.read config cursor state).after := by
  rw [tokens, dif_neg h]

/-- An empty line has no spans and leaves the state as it is. -/
@[simp] theorem highlight_nil : highlight config state [] = ([], state) := by
  rw [highlight, lineTokens_nil]
  rfl

/-- The state behind tokens is the one behind those that follow the first. -/
theorem stateAfter_cons (token : Token) (tokens : List Token) :
    stateAfter state (token :: tokens) = stateAfter token.after tokens := by
  cases tokens <;> simp [stateAfter, List.getLast?_cons]

/-- Of the tokens of a line the blanks are no lexemes. -/
theorem lexemesOf_cons (token : Token) (tokens : List Token) :
    lexemesOf (token :: tokens) =
      if token.fragment.isBlank then lexemesOf tokens
      else token.fragment :: lexemesOf tokens := by
  simp only [lexemesOf, List.map_cons, List.filter_cons]
  cases token.fragment.isBlank <;> rfl

end

section
variable (config config' : Config)

/-- The fragments up to the end of a line, and the region there, depend only on the region and on
the text ahead. -/
theorem fragments_tokens_congr {cursor cursor' : Cursor} {state state' : State}
    (hahead : cursor.ahead = cursor'.ahead) (hregion : state.region = state'.region) :
    (tokens config cursor state).map Token.fragment =
        (tokens config' cursor' state').map Token.fragment ∧
      (stateAfter state (tokens config cursor state)).region =
        (stateAfter state' (tokens config' cursor' state')).region := by
  fun_induction tokens config cursor state generalizing cursor' state' with
  | case1 cursor state h =>
    rw [tokens_of_ahead_eq_nil config' state' (hahead ▸ h)]
    exact ⟨rfl, hregion⟩
  | case2 cursor state h token =>
    rename_i ih
    obtain ⟨hfragment, hrest, hafter⟩ :=
      Token.read_congr config config' hahead hregion
    obtain ⟨hfragments, hend⟩ := ih hrest hafter
    rw [tokens_of_ahead_ne_nil config' state' (hahead ▸ h), List.map_cons, List.map_cons,
      stateAfter_cons, stateAfter_cons, hfragments, hend, ← hfragment]
    exact ⟨rfl, rfl⟩

/-- Blanks ahead add no lexeme and change no region. -/
theorem exists_tokens_trimStart (cursor : Cursor) (state : State) :
    ∃ (behind : Cursor) (after : State), behind.ahead = cursor.ahead.trimStart ∧
      after.region = state.region ∧
      lexemesOf (tokens config cursor state) = lexemesOf (tokens config behind after) ∧
      (stateAfter state (tokens config cursor state)).region =
        (stateAfter after (tokens config behind after)).region := by
  by_cases h : cursor.ahead.blankRun = 0
  · refine ⟨cursor, state, ?_, rfl, rfl, rfl⟩
    rw [← Text.drop_blankRun, h, List.drop_zero]
  · have hne : cursor.ahead ≠ [] := by rintro hnil; simp [hnil, Text.blankRun, Text.runLength] at h
    refine ⟨(Token.read config cursor state).cursor, (Token.read config cursor state).after,
      ?_, ?_, ?_, ?_⟩
    · rw [Token.read_of_blankRun_ne_zero config state h, ← Text.drop_blankRun]
      rfl
    · rw [Token.read_of_blankRun_ne_zero config state h, State.region_atCursor]
    · rw [tokens_of_ahead_ne_nil config state hne, lexemesOf_cons,
        Token.isBlank_fragment_of_blankRun_ne_zero config state h, if_pos rfl]
    · rw [tokens_of_ahead_ne_nil config state hne, stateAfter_cons]

/-- The tokens of a line that is not blank are its leading blanks, if there are any, and those from
its first lexeme on, which is read where the line has been entered. -/
theorem exists_lineTokens_eq_append (state : State) {line : Text} (h : line.trimStart ≠ []) :
    ∃ blanks cursor before, lineTokens config state line = blanks ++ tokens config cursor before ∧
      blanks.flatMap Token.text = line.takeWhile isBlank ∧
      (∀ token ∈ blanks, token.fragment.isBlank = true ∧ token.style = none) ∧
      cursor.ahead = line.trimStart ∧ before.region = state.region ∧
      before.atCursor config.tabSize cursor =
        state.enterLine (Column.ofText config.tabSize (line.takeWhile isBlank)) := by
  by_cases hblank : (Cursor.ofLine line).ahead.blankRun = 0
  · have htrim : line = line.trimStart := by
      rw [← Text.drop_blankRun, show line.blankRun = 0 from hblank, List.drop_zero]
    exact ⟨[], Cursor.ofLine line, state, rfl, (List.eq_nil_of_length_eq_zero hblank).symm,
      by simp, htrim, rfl, rfl⟩
  · have hne : (Cursor.ofLine line).ahead ≠ [] := by
      rintro (rfl : line = [])
      exact h rfl
    have hread := Token.read_of_blankRun_ne_zero config state hblank
    have hisBlank := Token.isBlank_fragment_of_blankRun_ne_zero config state hblank
    refine ⟨[Token.read config (Cursor.ofLine line) state], _, _,
      tokens_of_ahead_ne_nil config state hne, ?_, ?_, ?_, ?_, ?_⟩
    · rw [hread]
      exact List.append_nil _
    · rw [List.forall_mem_singleton]
      exact ⟨hisBlank, by rw [hread]⟩
    · rw [hread]
      exact Text.drop_blankRun line
    · rw [hread, State.region_atCursor]
    · rw [State.atCursor_of_atStart_eq_false _ _ _ (Token.atStart_cursor_read config state hne),
        hread]
      rfl

/-- What a line that is not blank does first to the contexts is up to its first lexeme. -/
theorem exists_lexemesOf_lineTokens_eq_cons (state : State) {line : Text}
    (h : line.trimStart ≠ []) :
    ∃ fragment rest, lexemesOf (lineTokens config state line) = fragment :: rest ∧
      fragment.effect? = (Lexeme.scan state.region line.trimStart).effect := by
  obtain ⟨cursor, after, hahead, hregion, hlexemes, -⟩ :=
    exists_tokens_trimStart config (Cursor.ofLine line) state
  have htrim : cursor.ahead = line.trimStart := hahead
  have hne : cursor.ahead ≠ [] := htrim ▸ h
  have hblank : cursor.ahead.blankRun = 0 := by
    rw [htrim]
    exact Text.blankRun_trimStart line
  rw [lineTokens, hlexemes, tokens_of_ahead_ne_nil config after hne, lexemesOf_cons,
    Token.isBlank_fragment_of_blankRun_eq_zero config after hblank hne]
  refine ⟨_, _, rfl, ?_⟩
  rw [Token.read_of_blankRun_eq_zero config after hblank, ← hregion, ← htrim, Lexeme.effect_scan]
  rfl

/-- **Lexing depends on the region and the text.** The lexemes of a line and the region behind it
depend only on the region in which the line begins and on its text without leading blanks. -/
theorem lexemesOf_lineTokens_congr {state state' : State} {line line' : Text}
    (hregion : state.region = state'.region) (hline : line.trimStart = line'.trimStart) :
    lexemesOf (lineTokens config state line) = lexemesOf (lineTokens config' state' line') ∧
      (highlight config state line).2.region = (highlight config' state' line').2.region := by
  obtain ⟨cursor, after, hahead, hafter, hlexemes, hend⟩ :=
    exists_tokens_trimStart config (Cursor.ofLine line) state
  obtain ⟨cursor', after', hahead', hafter', hlexemes', hend'⟩ :=
    exists_tokens_trimStart config' (Cursor.ofLine line') state'
  obtain ⟨hfragments, hregions⟩ := fragments_tokens_congr config config'
    (hahead.trans (hline.trans hahead'.symm)) (hafter.trans (hregion.trans hafter'.symm))
  refine ⟨?_, hend.trans (hregions.trans hend'.symm)⟩
  rw [lineTokens, lineTokens, hlexemes, hlexemes', lexemesOf, lexemesOf, hfragments]

/-- A blank line has no lexemes. -/
theorem lexemesOf_lineTokens_of_trimStart_eq_nil (state : State) {line : Text}
    (h : line.trimStart = []) : lexemesOf (lineTokens config state line) = [] := by
  have hline : line.trimStart = Text.trimStart [] := h
  rw [(lexemesOf_lineTokens_congr config config (Eq.refl state.region) hline).1, lineTokens_nil]
  rfl

end

end SyntaxMode
