import Mathlib.Data.List.Induction
import SyntaxMode.Proofs.Bracket.Balanced
import SyntaxMode.Proofs.Document.FullScan
import SyntaxMode.Proofs.State.Shape

/-!
# Readings

A reading is a token together with the place and the state in which it was read. The readings of
several lines, one after the other, are all that happened to the state: `unpopped` finds among them
the brackets that have been opened and not closed since, by going through them once. What one
reading does to the contexts is one of three things (`Reading.cases_read`): it opens a bracket, it
closes one, or it leaves the open ones open.
-/

namespace SyntaxMode

/-- A token, and the place and the state in which it was read. -/
structure Reading where
  /-- The index of the line. -/
  line : Nat
  /-- The cursor from which the token was read. -/
  cursor : Cursor
  /-- The state before the token. -/
  before : State
  token : Token

namespace Reading

/-- Reads a token of a line. -/
def read (config : Config) (line : Nat) (cursor : Cursor) (state : State) : Reading :=
  ⟨line, cursor, state, Token.read config cursor state⟩

/-- The text of the line before the token. -/
def front (reading : Reading) : Text := reading.cursor.behind.reverse

/-- Whether the token is a bracket that opens. -/
def opens (reading : Reading) : Bool := reading.token.fragment.opens

/-- Whether the token closed a bracket: fewer are open behind it than before. -/
def pops (reading : Reading) : Bool := reading.token.after.depth < reading.before.depth

/-- Whether the token is neither a run of blanks nor a comment. -/
def follows (reading : Reading) : Bool :=
  !reading.token.fragment.isBlank && reading.token.style != some .comment

/-- What the innermost context becomes before the token opens or closes a bracket. -/
def settle (reading : Reading) (context : Context) : Context :=
  let context := if reading.cursor.atStart then context.atLineStart else context
  if reading.follows then context.afterLexeme else context

end Reading

/-- The readings of tokens of a line that follow one another from a cursor and a state on. -/
def tokenReadings (line : Nat) (cursor : Cursor) (state : State) : List Token → List Reading
  | [] => []
  | token :: rest =>
    ⟨line, cursor, state, token⟩ :: tokenReadings line token.cursor token.after rest

/-- The readings of lines that are read one after the other from a state on, of which the first has
an index. -/
def readings (config : Config) (line : Nat) (state : State) : List Text → List Reading
  | [] => []
  | text :: rest =>
    tokenReadings line (Cursor.ofLine text) state (lineTokens config state text) ++
      readings config (line + 1) (highlight config state text).2 rest

/-- The indexes of the brackets that were opened and have not been closed, innermost first, behind
a reading with an index. A bracket that closes always closes the last one that is open. -/
def unpoppedBehind (opened : List Nat) (reading : Reading) (index : Nat) : List Nat :=
  if reading.opens then index :: opened else if reading.pops then opened.tail else opened

/-- The indexes of the readings of brackets that were opened and have not been closed, innermost
first. -/
def unpopped (readings : List Reading) : List Nat :=
  readings.zipIdx.foldl (fun opened reading => unpoppedBehind opened reading.1 reading.2) []

/-! ## One reading after the other -/

/-- The last reading decides last which brackets are still open. -/
theorem unpopped_append_singleton (readings : List Reading) (reading : Reading) :
    unpopped (readings ++ [reading]) =
      unpoppedBehind (unpopped readings) reading readings.length := by
  simp [unpopped, List.zipIdx_append, List.foldl_append]

/-- Brackets are opened in the order of the text. -/
theorem unpopped_sorted (readings : List Reading) :
    (unpopped readings).Pairwise (fun inner outer => outer < inner) ∧
      ∀ index ∈ unpopped readings, index < readings.length := by
  induction readings using List.reverseRecOn with
  | nil => exact ⟨.nil, fun index hindex => by cases hindex⟩
  | append_singleton readings reading ih =>
    obtain ⟨hsorted, hlt⟩ := ih
    have hlength : (readings ++ [reading]).length = readings.length + 1 := by simp
    rw [unpopped_append_singleton, unpoppedBehind, hlength]
    split
    · refine ⟨List.pairwise_cons.2 ⟨hlt, hsorted⟩, ?_⟩
      intro index hindex
      rcases List.mem_cons.1 hindex with rfl | hindex
      · exact Nat.lt_succ_self _
      · exact Nat.lt_succ_of_lt (hlt index hindex)
    · split
      · refine ⟨hsorted.tail, ?_⟩
        intro index hindex
        exact Nat.lt_succ_of_lt (hlt index (List.mem_of_mem_tail hindex))
      · exact ⟨hsorted, fun index hindex => Nat.lt_succ_of_lt (hlt index hindex)⟩

/-! ## The lines of readings -/

section
variable {config : Config}

/-- The first token of a line is read first, and the others are read behind it. -/
theorem tokenReadings_tokens (line : Nat) {cursor : Cursor} (state : State)
    (h : cursor.ahead ≠ []) :
    tokenReadings line cursor state (tokens config cursor state) =
      Reading.read config line cursor state ::
        tokenReadings line (Token.read config cursor state).cursor
          (Token.read config cursor state).after
          (tokens config (Token.read config cursor state).cursor
            (Token.read config cursor state).after) := by
  rw [tokens_of_ahead_ne_nil config state h]
  rfl

/-- A token does not leave its line. -/
theorem Token.line_cursor_read (config : Config) (cursor : Cursor) (state : State) :
    (read config cursor state).cursor.line = cursor.line := by
  simp only [read]
  split <;> simp

/-- Each token of a line is read in the line. -/
theorem line_of_mem_tokenReadings {line : Nat} {cursor : Cursor} {state : State}
    {reading : Reading}
    (h : reading ∈ tokenReadings line cursor state (tokens config cursor state)) :
    reading.line = line ∧ reading.cursor.line = cursor.line := by
  fun_induction tokens config cursor state with
  | case1 cursor state _ => cases h
  | case2 cursor state hahead token ih =>
    rcases List.mem_cons.1 h with rfl | h
    · exact ⟨rfl, rfl⟩
    · obtain ⟨hline, htext⟩ := ih h
      exact ⟨hline, htext.trans (Token.line_cursor_read config cursor state)⟩

/-- A reading stands in the line of its index, and that line is not empty. -/
theorem exists_getElem?_of_mem_readings {line : Nat} {state : State} {texts : List Text}
    {reading : Reading} (h : reading ∈ readings config line state texts) :
    ∃ index, reading.line = line + index ∧ texts[index]? = some reading.cursor.line ∧
      reading.cursor.line ≠ [] := by
  induction texts generalizing line state with
  | nil => cases h
  | cons text texts ih =>
    rcases List.mem_append.1 h with h | h
    · obtain ⟨hline, htext⟩ := line_of_mem_tokenReadings h
      refine ⟨0, hline, congrArg some htext.symm, ?_⟩
      rw [htext]
      rintro (rfl : text = [])
      rw [lineTokens_nil] at h
      cases h
    · obtain ⟨index, hline, htext, hne⟩ := ih h
      exact ⟨index + 1, by rw [hline]; omega, htext, hne⟩

/-- Every line that is not empty has readings. -/
theorem exists_mem_readings (config : Config) (line : Nat) (state : State) {texts : List Text}
    {index : Nat} {text : Text} (htext : texts[index]? = some text) (hne : text ≠ []) :
    ∃ reading ∈ readings config line state texts, reading.line = line + index := by
  induction texts generalizing line state index with
  | nil => cases htext
  | cons first texts ih =>
    cases index with
    | zero =>
      cases htext
      have hahead : (Cursor.ofLine text).ahead ≠ [] := hne
      refine ⟨Reading.read config line (Cursor.ofLine text) state, ?_, rfl⟩
      rw [readings, lineTokens, tokenReadings_tokens line state hahead]
      exact List.mem_append_left _ List.mem_cons_self
    | succ index =>
      obtain ⟨reading, hmem, hline⟩ := ih (line + 1) _ htext
      exact ⟨reading, List.mem_append_right _ hmem, by rw [hline]; omega⟩

end

/-! ## What a reading does -/

namespace Nesting

/-- Closing a bracket leaves its context, and one bracket less is open. -/
theorem pop?_eq_some {nesting outer : Nesting} {closed : Context}
    (h : nesting.pop? = some (closed, outer)) :
    closed = nesting.innermost ∧ outer.opened = nesting.opened.tail ∧
      outer.depth < nesting.depth := by
  obtain ⟨outside, _ | ⟨context, opened⟩⟩ := nesting
  · cases h
  · cases h
    exact ⟨rfl, rfl, Nat.lt_succ_self _⟩

end Nesting

namespace State

variable (tabSize : UInt32) (cursor : Cursor) (lexeme : Lexeme) (state : State)

/-- The contexts behind a lexeme that is no comment: it opens a bracket, closes one, or changes
neither which brackets are open nor where they stand. -/
theorem cases_afterLexeme (hstyle : lexeme.style ≠ some .comment) :
    let followed := state.nesting.modify Context.afterLexeme
    let after := state.afterLexeme tabSize cursor lexeme
    (∃ delimiter, lexeme.effect = some (.opening delimiter) ∧
        after.nesting =
          followed.push ⟨state.indented, cursor.column tabSize, .block delimiter, none⟩ ∧
        after.indented = state.indented) ∨
      (∃ delimiter closed, lexeme.effect = some (.closing delimiter) ∧
        followed.pop? = some (closed, after.nesting) ∧ after.indented = closed.indented) ∨
      ((∀ delimiter, lexeme.effect ≠ some (.opening delimiter)) ∧
        (after.nesting = followed ∨ after.nesting = followed.modify Context.openArm) ∧
        after.indented = state.indented) := by
  simp only [afterLexeme, if_neg hstyle]
  cases lexeme.effect with
  | none => exact .inr (.inr ⟨fun _ => by simp, .inl rfl, rfl⟩)
  | some effect =>
    cases effect with
    | opening delimiter => exact .inl ⟨delimiter, rfl, rfl, rfl⟩
    | arm => exact .inr (.inr ⟨fun _ => by simp, .inr rfl, rfl⟩)
    | closing delimiter =>
      have hopening (other : Delimiter) :
          some (Effect.closing delimiter) ≠ some (.opening other) := by simp
      simp only [applyEffect, closeBracket]
      split
      · split
        next closed outer hpop => exact .inr (.inl ⟨delimiter, closed, rfl, hpop, rfl⟩)
        next => exact .inr (.inr ⟨hopening, .inl rfl, rfl⟩)
      · exact .inr (.inr ⟨hopening, .inl rfl, rfl⟩)

end State

/-- A bracket that opens is no blank. -/
theorem Fragment.isBlank_of_opens {fragment : Fragment} (h : fragment.opens = true) :
    fragment.isBlank = false := by
  obtain ⟨delimiter, heffect⟩ := opens_iff.1 h
  rw [isBlank, text_of_opening heffect]
  cases delimiter <;> rfl

/-- A comment opens no bracket. -/
theorem Fragment.opens_of_comment {fragment : Fragment} (h : fragment.style = some .comment) :
    fragment.opens = false := by
  rw [opens, effect?, h]

namespace Reading

/-- What a reading settles of the innermost context is what the start of a line and a lexeme
settle. -/
theorem modify_settle (reading : Reading) (tabSize : UInt32) (state : State) :
    state.nesting.modify reading.settle =
      if reading.follows then
        (state.atCursor tabSize reading.cursor).nesting.modify Context.afterLexeme
      else (state.atCursor tabSize reading.cursor).nesting := by
  rw [State.atCursor]
  obtain ⟨region, ⟨outside, _ | ⟨context, outer⟩⟩, indented, freshLine⟩ := state <;>
    cases hstart : reading.cursor.atStart <;> cases hfollows : reading.follows <;>
      simp [settle, hstart, hfollows, Nesting.modify, State.enterLine]

section
variable {config : Config} {line : Nat} {cursor : Cursor} {state : State}

/-- Blanks and comments do no more than enter a line. -/
theorem after_of_follows_eq_false (hne : cursor.ahead ≠ [])
    (h : (read config line cursor state).follows = false) :
    (read config line cursor state).opens = false ∧
      (Token.read config cursor state).after.nesting =
        (state.atCursor config.tabSize cursor).nesting ∧
      (Token.read config cursor state).after.indented =
        (state.atCursor config.tabSize cursor).indented := by
  have hopens : (Token.read config cursor state).fragment.isBlank = true ∨
      (Token.read config cursor state).style = some .comment := by
    simpa [follows, read, or_iff_not_imp_left] using h
  refine ⟨?_, ?_⟩
  · rw [← Bool.not_eq_true]
    intro hopen
    rcases hopens with hblank | hcomment
    · exact absurd (Fragment.isBlank_of_opens hopen) (by simpa [read] using hblank)
    · exact absurd hopen (by rw [opens, Fragment.opens_of_comment hcomment]; decide)
  · by_cases hblank : cursor.ahead.blankRun = 0
    · have hcomment : (Lexeme.scan state.region cursor.ahead).style = some .comment := by
        rw [Token.isBlank_fragment_of_blankRun_eq_zero config state hblank hne] at hopens
        rw [Token.read_of_blankRun_eq_zero config state hblank] at hopens
        exact hopens.resolve_left Bool.noConfusion
      rw [Token.read_of_blankRun_eq_zero config state hblank]
      simp only [State.afterLexeme, if_pos hcomment, and_self]
    · rw [Token.read_of_blankRun_ne_zero config state hblank]
      exact ⟨rfl, rfl⟩

/-- Any other token is a lexeme that has the effect of its fragment. -/
theorem exists_lexeme_of_follows (h : (read config line cursor state).follows = true) :
    ∃ lexeme : Lexeme, lexeme.style ≠ some .comment ∧
      lexeme.effect = (Token.read config cursor state).fragment.effect? ∧
      (Token.read config cursor state).after =
        (state.atCursor config.tabSize cursor).afterLexeme config.tabSize cursor.begin lexeme := by
  obtain ⟨hfragment, hstyle⟩ : (Token.read config cursor state).fragment.isBlank = false ∧
      (Token.read config cursor state).style ≠ some .comment := by
    simpa [follows, read] using h
  have hblank : cursor.ahead.blankRun = 0 := by
    by_contra hblank
    rw [Token.isBlank_fragment_of_blankRun_ne_zero config state hblank] at hfragment
    cases hfragment
  obtain ⟨lexeme, hlexeme, heffect, hafter⟩ := Token.exists_lexeme_read config state hblank
  exact ⟨lexeme, hlexeme ▸ hstyle, heffect, hafter⟩

/-- **What a reading does to the contexts.** Once the innermost context is settled, a bracket
opens, or the innermost one closes, or all brackets stay open. -/
theorem cases_read (config : Config) (line : Nat) {cursor : Cursor} (state : State)
    (hne : cursor.ahead ≠ []) :
    let reading := read config line cursor state
    let settled := state.nesting.modify reading.settle
    let indented := (state.atCursor config.tabSize cursor).indented
    let after := (Token.read config cursor state).after
    (reading.opens = true ∧ reading.pops = false ∧ ∃ delimiter,
        after.nesting =
          settled.push
            ⟨indented, Column.ofText config.tabSize reading.front, .block delimiter, none⟩ ∧
        after.indented = indented) ∨
      (reading.opens = false ∧ reading.pops = true ∧ ∃ closed,
        settled.pop? = some (closed, after.nesting) ∧ after.indented = closed.indented) ∨
      (reading.opens = false ∧ reading.pops = false ∧
        (after.nesting = settled ∨ after.nesting = settled.modify Context.openArm) ∧
        after.indented = indented) := by
  intro reading settled indented after
  have hsettled : settled = _ := reading.modify_settle config.tabSize state
  have hpops : reading.pops = decide (after.nesting.depth < settled.depth) := by
    rw [Nesting.depth_modify]
    rfl
  cases hfollows : reading.follows with
  | false =>
    obtain ⟨hopens, hnesting, hindented⟩ := after_of_follows_eq_false hne hfollows
    rw [if_neg (by rw [hfollows]; decide)] at hsettled
    have hafter : after.nesting = settled := hnesting.trans hsettled.symm
    refine .inr (.inr ⟨hopens, ?_, .inl hafter, hindented⟩)
    rw [hpops, hafter, decide_eq_false (Nat.lt_irrefl _)]
  | true =>
    obtain ⟨lexeme, hstyle, heffect, hlexeme⟩ := exists_lexeme_of_follows hfollows
    have hafter : after = _ := hlexeme
    have hfollowed : (state.atCursor config.tabSize cursor).nesting.modify Context.afterLexeme =
        settled := (hsettled.trans (if_pos hfollows)).symm
    have hcolumn : cursor.begin.column config.tabSize =
        Column.ofText config.tabSize reading.front := by
      have hfront : cursor.begin.beforeLexeme = cursor.behind.reverse :=
        List.take_left' List.length_reverse
      exact congrArg (Column.ofText config.tabSize) hfront
    have hopens : reading.opens = true ↔
        ∃ delimiter, lexeme.effect = some (.opening delimiter) := by
      rw [heffect]
      exact Fragment.opens_iff
    rcases State.cases_afterLexeme config.tabSize cursor.begin lexeme
        (state.atCursor config.tabSize cursor) hstyle with
      ⟨delimiter, hopening, hnesting, hindented⟩ | ⟨delimiter, closed, hclosing, hpop, hindented⟩ |
        ⟨hnone, hnesting, hindented⟩
    · rw [← hafter, hcolumn, hfollowed] at hnesting
      refine .inl ⟨hopens.2 ⟨delimiter, hopening⟩, ?_, delimiter, hnesting, ?_⟩
      · rw [hpops, hnesting, Nesting.depth_push]
        exact decide_eq_false (by omega)
      · rw [hafter, hindented]
    · rw [← hafter, hfollowed] at hpop
      rw [← hafter] at hindented
      refine .inr (.inl ⟨?_, ?_, closed, hpop, hindented⟩)
      · rw [← Bool.not_eq_true, hopens, hclosing]
        rintro ⟨_, hopening⟩
        cases hopening
      · rw [hpops]
        exact decide_eq_true (Nesting.pop?_eq_some hpop).2.2
    · rw [← hafter, hfollowed] at hnesting
      have hdepth : after.nesting.depth = settled.depth := by
        rcases hnesting with hnesting | hnesting
        · rw [hnesting]
        · rw [hnesting, Nesting.depth_modify]
      refine .inr (.inr ⟨?_, ?_, hnesting, ?_⟩)
      · rw [← Bool.not_eq_true, hopens]
        rintro ⟨delimiter, hopening⟩
        exact hnone delimiter hopening
      · rw [hpops, hdepth]
        exact decide_eq_false (Nat.lt_irrefl _)
      · rw [hafter, hindented]

end

end Reading

end SyntaxMode
