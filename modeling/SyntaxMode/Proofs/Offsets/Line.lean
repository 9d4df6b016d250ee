import SyntaxMode.Proofs.Offsets.Lexeme
import SyntaxMode.Proofs.Token.Lexing

/-!
# Lines by byte offsets

The reader of lines as a program on byte offsets, and what it comes to: it reads any line from any
state to its end, and finds the spans and the state that `highlight` describes (`highlight_eq`).
The spans tile the line (`Tile`), and each of them is a run of blanks or begins with a character
that is not blank, because blanks are passed before the region is looked at.
-/

namespace SyntaxMode

namespace Offsets

/-! ## Programs -/

/-- The state after an effect on the contexts. Only a bracket that opens asks for its column. -/
def applyEffect (tabSize : UInt32) (state : State) : Option Effect → Program State
  | some (.opening delimiter) => do return state.openBracket delimiter (← column tabSize)
  | some (.closing delimiter) => return state.closeBracket delimiter
  | some .arm => return state.openArm
  | none => return state

/-- The state behind a lexeme. -/
def follow (tabSize : UInt32) (lexeme : Scanned) (state : State) : Program State := do
  let state := { state with region := lexeme.region }
  if lexeme.style = some .comment then return state
  else
    let state := { state with nesting := state.nesting.modify Context.afterLexeme }
    let state ← applyEffect tabSize state lexeme.effect
    return { state with freshLine := false }

/-- The state in which a token is read: at the start of a line the line is entered. -/
def enter (tabSize : UInt32) (state : State) : Program State := do
  let offsets ← get
  if offsets.position = 0 then
    let indentation ← indentation tabSize
    return state.enterLine indentation
  else return state

/-- Passes a token, and answers its style and the state behind it. -/
def token (config : Config) (state : State) : Program (Option Style × State) := do
  begin
  let state ← enter config.tabSize state
  if ← passWhile isBlank then return (none, state)
  else
    let lexeme ← scan state.region
    let state ← follow config.tabSize lexeme state
    return (lexeme.style, state)

/-- Passes the rest of the line token by token, in at most a number of rounds, and answers their
spans and the state behind them. -/
def spansWithin (config : Config) (state : State) : Nat → Program (List Span × State)
  | 0 => failure
  | rounds + 1 => do
    let before ← get
    if before.line.byteLength ≤ before.position then return ([], state)
    else
      let (style, state) ← token config state
      let after ← get
      let (rest, state) ← spansWithin config state rounds
      return (⟨after.lexemeStart, after.position, style⟩ :: rest, state)

/-- Passes the rest of the line token by token, and answers their spans and the state behind
them. -/
def spans (config : Config) (state : State) : Program (List Span × State) := do
  spansWithin config state (← rounds)

/-- The spans of a line that begins in a state, and the state behind the line, if no slice of the
line fails and the line comes to an end. -/
def highlight? (config : Config) (state : State) (line : Text) : Option (List Span × State) :=
  (spans config state).run' ⟨line, 0, 0⟩

/-! ## Tokens -/

section
variable (config : Config) (cursor : Cursor) (state : State)

/-- An effect by offsets is that of the cursor, because it takes the column where its lexeme
began. -/
theorem runs_applyEffect (tabSize : UInt32) (effect : Effect) (count : Nat) :
    Runs (applyEffect tabSize state (some effect)) (cursor.forward count)
      (state.applyEffect tabSize cursor effect) (cursor.forward count) := by
  have hcolumn : (cursor.forward count).column tabSize = cursor.column tabSize := by
    simp [Cursor.column, Cursor.beforeLexeme]
  have hopening := runs_column (cursor.forward count) tabSize
  rw [hcolumn] at hopening
  cases effect with
  | opening delimiter => exact .bind hopening (.pure _ _)
  | closing | arm => exact .pure _ _

/-- What follows from a lexeme, by offsets, is what follows from it. -/
theorem runs_follow (tabSize : UInt32) (lexeme : Lexeme) (count : Nat) :
    Runs (follow tabSize lexeme.scanned state) (cursor.forward count)
      (state.afterLexeme tabSize cursor lexeme) (cursor.forward count) := by
  have heffect : lexeme.scanned.effect = lexeme.effect := rfl
  by_cases hcomment : lexeme.style = some .comment
  · have hscanned : lexeme.scanned.style = some .comment := hcomment
    simp only [follow, State.afterLexeme, if_pos hcomment, if_pos hscanned]
    exact .pure _ _
  · have hscanned : ¬ lexeme.scanned.style = some .comment := hcomment
    simp only [follow, State.afterLexeme, if_neg hcomment, if_neg hscanned, heffect]
    cases lexeme.effect with
    | none => exact .bind (.pure _ _) (.pure _ _)
    | some effect => exact .bind (runs_applyEffect ..) (.pure _ _)

/-- A line is entered by offsets as it is by a cursor. -/
theorem runs_enter (tabSize : UInt32) :
    Runs (enter tabSize state) cursor (state.atCursor tabSize cursor) cursor := by
  refine .bind (runs_get cursor) ?_
  have hstart : cursor.offsets.position = 0 ↔ cursor.atStart = true := by
    rw [Cursor.atStart, List.isEmpty_iff]
    exact Text.byteLength_eq_zero_iff
  rw [State.atCursor]
  by_cases h : cursor.atStart = true
  · rw [if_pos (hstart.2 h), if_pos h]
    exact .bind (runs_indentation cursor tabSize) (.pure _ _)
  · rw [if_neg (fun hposition => h (hstart.1 hposition)), if_neg h]
    exact .pure _ _

/-- A token is passed from any cursor, in any state. -/
theorem runs_token :
    Runs (token config state) cursor
      ((Token.read config cursor state).style, (Token.read config cursor state).after)
      (Token.read config cursor state).cursor := by
  refine .bind (runs_begin cursor) (.bind (runs_enter cursor.begin state config.tabSize)
    (.bind (runs_passWhile cursor.begin isBlank) ?_))
  rw [Cursor.passWhile, Cursor.ahead_begin]
  by_cases hblank : cursor.ahead.blankRun = 0
  · have hscan := runs_scan state.region cursor
    rw [Token.read_of_blankRun_eq_zero config state hblank, State.atCursor_begin,
      show cursor.ahead.runLength isBlank = 0 from hblank, Cursor.forward_zero,
      State.region_atCursor]
    exact .bind hscan (.bind (runs_follow ..) (.pure _ _))
  · have hrun : (cursor.ahead.runLength isBlank != 0) = true := bne_iff_ne.2 hblank
    rw [Token.read_of_blankRun_ne_zero config state hblank, State.atCursor_begin, if_pos hrun]
    exact .pure _ _

end

/-! ## Lines -/

/-- Behind a token, the offsets are those of its span. -/
theorem offsets_cursor_read (config : Config) (cursor : Cursor) (state : State) :
    (Token.read config cursor state).cursor.lexemeStart = cursor.position ∧
      (Token.read config cursor state).cursor.position =
        cursor.position + (Token.read config cursor state).text.byteLength := by
  suffices h : ∃ count, (Token.read config cursor state).cursor = cursor.begin.forward count ∧
      (Token.read config cursor state).text = cursor.ahead.take count by
    obtain ⟨count, hcursor, htext⟩ := h
    have hoffsets := cursor.begin.offsets_forward count
    rw [Cursor.offsets_begin] at hoffsets
    rw [hcursor, htext]
    exact ⟨congrArg Offsets.lexemeStart hoffsets, congrArg Offsets.position hoffsets⟩
  by_cases hblank : cursor.ahead.blankRun = 0
  · rw [Token.read_of_blankRun_eq_zero config state hblank]
    exact ⟨_, rfl, rfl⟩
  · rw [Token.read_of_blankRun_ne_zero config state hblank]
    exact ⟨_, rfl, (Text.take_blankRun cursor.ahead).symm⟩

/-- A line has been passed where nothing of it is ahead. -/
theorem byteLength_line_le_position_iff (cursor : Cursor) :
    cursor.offsets.line.byteLength ≤ cursor.offsets.position ↔ cursor.ahead = [] := by
  have hline : cursor.offsets.line.byteLength =
      cursor.offsets.position + cursor.ahead.byteLength := by
    simp [Cursor.offsets, Cursor.line, Cursor.position]
  rw [hline, ← Text.byteLength_eq_zero_iff]
  omega

/-- The rest of a line is passed to its end. -/
theorem exists_runs_spansWithin (config : Config) (cursor : Cursor) (state : State) {rounds : Nat}
    (hrounds : cursor.ahead.length < rounds) :
    ∃ after, Runs (spansWithin config state rounds) cursor
      (spansFrom cursor.position (tokens config cursor state),
        stateAfter state (tokens config cursor state)) after := by
  -- Each round but the last one passes a token.
  obtain ⟨rounds, rfl⟩ := Nat.exists_eq_succ_of_ne_zero (Nat.ne_zero_of_lt hrounds)
  fun_induction tokens config cursor state generalizing rounds with
  | case1 cursor state h =>
    refine ⟨cursor, ?_⟩
    refine .bind (runs_get cursor) ?_
    rw [if_pos ((byteLength_line_le_position_iff cursor).2 h)]
    exact .pure _ _
  | case2 cursor state h token ih =>
    have hlt : token.cursor.ahead.length < cursor.ahead.length :=
      Token.ahead_length_lt config state h
    obtain ⟨rounds, rfl⟩ := Nat.exists_eq_succ_of_ne_zero (show rounds ≠ 0 by omega)
    obtain ⟨after, hrest⟩ := ih rounds (by omega)
    obtain ⟨hstart, hstop⟩ := offsets_cursor_read config cursor state
    refine ⟨after, ?_⟩
    refine .bind (runs_get cursor) ?_
    rw [if_neg (mt (byteLength_line_le_position_iff cursor).1 h), spansFrom, stateAfter_cons,
      ← hstop]
    refine .bind (runs_token config cursor state) (.bind (runs_get _) (.bind hrest ?_))
    rw [← hstart]
    exact .pure _ _

/-- **Lines are read by byte offsets.** From any state and on any line, no slice fails and the line
comes to an end, with the spans and the state that reading by characters finds. -/
theorem highlight?_eq (config : Config) (state : State) (line : Text) :
    highlight? config state line = some (highlight config state line) := by
  obtain ⟨count, hcount, hrounds⟩ := runs_rounds (Cursor.ofLine line)
  obtain ⟨after, hspans⟩ := exists_runs_spansWithin config (Cursor.ofLine line) state hcount
  have hrun : (spans config state).run ⟨line, 0, 0⟩ = some (_, after.offsets) :=
    Runs.bind hrounds hspans
  rw [highlight?, StateT.run', show spans config state ⟨line, 0, 0⟩ = _ from hrun]
  rfl

end Offsets

/-! ## Spans -/

/-- Whether spans follow one another from one byte offset to another, none of them empty. -/
def Tile (start stop : Nat) : List Span → Prop
  | [] => start = stop
  | span :: rest => span.start = start ∧ span.start < span.stop ∧ Tile span.stop stop rest

/-- A token is a run of blanks or begins with a character that is not blank. -/
theorem Token.read_blank_or (config : Config) {cursor : Cursor} (state : State)
    (h : cursor.ahead ≠ []) :
    ((read config cursor state).style = none ∧
        (read config cursor state).text.isAllBlank = true) ∨
      ∃ c, (read config cursor state).text.head? = some c ∧ isBlank c = false := by
  by_cases hblank : cursor.ahead.blankRun = 0
  · refine .inr ?_
    obtain ⟨c, rest, hahead⟩ := List.exists_cons_of_ne_nil h
    obtain ⟨length, hlength⟩ := Nat.exists_eq_succ_of_ne_zero
      (Nat.ne_of_gt (Lexeme.scan_length_pos state.region h))
    rw [read_of_blankRun_eq_zero config state hblank, hlength, hahead]
    rw [hahead] at hblank
    exact ⟨c, rfl, Text.isBlank_of_blankRun_eq_zero hblank⟩
  · rw [read_of_blankRun_ne_zero config state hblank]
    exact .inl ⟨rfl, List.all_takeWhile⟩

/-- What holds of each token that is read before the end of a line holds of all tokens of a
line. -/
theorem forall_mem_tokens (config : Config) {p : Token → Prop}
    (h : ∀ (cursor : Cursor) (state : State), cursor.ahead ≠ [] →
      p (Token.read config cursor state))
    (cursor : Cursor) (state : State) : ∀ token ∈ tokens config cursor state, p token := by
  fun_induction tokens config cursor state with
  | case1 cursor state hnil =>
    intro token htoken
    cases htoken
  | case2 cursor state hne token ih =>
    rintro other (_ | ⟨_, hother⟩)
    · exact h cursor state hne
    · exact ih other hother

/-- The spans of texts that are not empty tile them. -/
theorem tile_spansFrom (start : Nat) (tokens : List Token)
    (h : ∀ token ∈ tokens, token.text ≠ []) :
    Tile start (start + Text.byteLength (tokens.flatMap Token.text)) (spansFrom start tokens) := by
  induction tokens generalizing start with
  | nil => exact (Nat.add_zero start).symm
  | cons token tokens ih =>
    have hrest := ih (start + token.text.byteLength)
      fun other hother => h other (List.mem_cons_of_mem _ hother)
    have hpos : token.text.byteLength ≠ 0 := by
      rw [Ne, Text.byteLength_eq_zero_iff]
      exact h token List.mem_cons_self
    rw [List.flatMap_cons, Text.byteLength_append, ← Nat.add_assoc]
    refine ⟨rfl, ?_, hrest⟩
    show start < start + token.text.byteLength
    omega

/-- The span of a token slices its text out of the line. -/
theorem exists_token_of_mem_spansFrom (before : Text) (tokens : List Token) {span : Span}
    (h : span ∈ spansFrom before.byteLength tokens) :
    ∃ token ∈ tokens, span.style = token.style ∧
      (before ++ tokens.flatMap Token.text).slice? span.start span.stop = some token.text := by
  induction tokens generalizing before with
  | nil => cases h
  | cons token tokens ih =>
    rw [List.flatMap_cons, ← List.append_assoc]
    rw [spansFrom, ← Text.byteLength_append] at h
    rcases List.mem_cons.1 h with rfl | h
    · refine ⟨token, List.mem_cons_self, rfl, ?_⟩
      rw [Text.byteLength_append]
      exact Text.slice?_append ..
    · obtain ⟨other, hother, hstyle, hslice⟩ := ih (before ++ token.text) h
      exact ⟨other, List.mem_cons_of_mem _ hother, hstyle, hslice⟩

/-- **Lines are read to their ends, and spans tile them.** From any state and on any line, reading
by byte offsets slices the line at character boundaries only and comes to an end. The spans it
finds begin at offset 0, follow one another, end with the line, and are not empty; each one is an
uncolored run of blanks or begins with a character that is not blank. An empty line has no spans
and leaves the state as it is. -/
theorem highlight_tiles (config : Config) (state : State) (line : Text) :
    Offsets.highlight? config state line = some (highlight config state line) ∧
      Tile 0 line.byteLength (highlight config state line).1 ∧
      (∀ span ∈ (highlight config state line).1,
        ∃ text, line.slice? span.start span.stop = some text ∧ text ≠ [] ∧
          ((span.style = none ∧ text.isAllBlank = true) ∨
            ∃ c, text.head? = some c ∧ isBlank c = false)) ∧
      highlight config state [] = ([], state) := by
  have htokens : (lineTokens config state line).flatMap Token.text = line :=
    flatMap_text_lineTokens config state line
  have hne : ∀ token ∈ lineTokens config state line, token.text ≠ [] :=
    forall_mem_tokens config (fun _ state => Token.text_ne_nil config state) _ _
  have hblank : ∀ token ∈ lineTokens config state line,
      (token.style = none ∧ token.text.isAllBlank = true) ∨
        ∃ c, token.text.head? = some c ∧ isBlank c = false :=
    forall_mem_tokens config (fun _ state => Token.read_blank_or config state) _ _
  refine ⟨Offsets.highlight?_eq config state line, ?_, ?_, highlight_nil config state⟩
  · have htile := tile_spansFrom 0 _ hne
    rwa [htokens, Nat.zero_add] at htile
  · intro span hspan
    obtain ⟨token, htoken, hstyle, hslice⟩ :=
      exists_token_of_mem_spansFrom [] (lineTokens config state line) hspan
    rw [List.nil_append, htokens] at hslice
    rw [hstyle]
    exact ⟨token.text, hslice, hne token htoken, hblank token htoken⟩

end SyntaxMode
