import SyntaxMode.Proofs.Lexeme.Space
import SyntaxMode.Proofs.Token.Reads

/-!
# A comment behind a line

A comment behind the code of a line shows up as one more lexeme, and nothing else changes: the
lexemes before it are the same, because a space ends each of them (`Lexeme.scan_append_space`), and
so is the state behind the line, because a comment tells the contexts nothing. Only a line that
ends in a line comment takes the text behind it into that comment. `Remarked` lists what becomes of
the last fragments, `exists_remarked` finds it by induction on the tokens, and
`remark_leaves_no_trace` says it of the spans of a line.
-/

namespace SyntaxMode

/-- The cursor in a line that goes on with more text. -/
def Cursor.extend (more : Text) (cursor : Cursor) : Cursor :=
  { cursor with ahead := cursor.ahead ++ more }

/-- A line comment behind the code of a line: a space, two slashes and the text of the comment. -/
def remark (text : Text) : Text := ' ' :: '/' :: '/' :: text

namespace Cursor

variable (more : Text) (cursor : Cursor)

@[simp] theorem ahead_extend : (cursor.extend more).ahead = cursor.ahead ++ more := rfl

@[simp] theorem atStart_extend : (cursor.extend more).atStart = cursor.atStart := rfl

@[simp] theorem begin_extend : (cursor.extend more).begin = cursor.begin.extend more := rfl

variable {more cursor}

/-- Going forward within a line is the same in a longer one. -/
theorem forward_extend {count : Nat} (h : count ≤ cursor.ahead.length) :
    (cursor.extend more).forward count = (cursor.forward count).extend more := by
  simp only [forward, extend, List.take_append_of_le_length h, List.drop_append_of_le_length h]

/-- Where a lexeme begins does not depend on what follows. -/
theorem column_begin_extend (tabSize : UInt32) :
    (cursor.begin.extend more).column tabSize = cursor.begin.column tabSize := by
  have hbefore (ahead : Text) :
      (cursor.behind.reverse ++ ahead).take cursor.behind.length = cursor.behind.reverse :=
    List.take_left' (List.length_reverse ..)
  simp only [column, beforeLexeme, line, begin, extend, hbefore]

end Cursor

/-- Blanks at the start of a text make its run of blanks longer than zero. -/
theorem Text.blankRun_ne_zero {text : Text} (h : text.takeWhile isBlank ≠ []) :
    text.blankRun ≠ 0 :=
  mt List.eq_nil_of_length_eq_zero h

/-- Blanks with a space behind them are blanks. -/
theorem Text.isAllBlank_append_space {blanks : Text} (h : blanks.isAllBlank = true) :
    isAllBlank (blanks ++ [' ']) = true := by
  rw [isAllBlank, List.all_append, Bool.and_eq_true]
  exact ⟨h, rfl⟩

/-- The leading blanks of a text that is not blank do not depend on what follows. -/
theorem Text.takeWhile_append_of_trimStart_ne_nil {text : Text} (h : text.trimStart ≠ [])
    (more : Text) : (text ++ more).takeWhile isBlank = text.takeWhile isBlank := by
  have hlength := congrArg List.length (takeWhile_append_trimStart text)
  have hpos := List.length_pos_iff.2 h
  rw [List.length_append] at hlength
  rw [List.takeWhile_append, if_neg (by omega)]

namespace State

/-- A line that is not blank is entered in the same way when more text follows. -/
theorem atCursor_extend {cursor : Cursor}
    (h : cursor.atStart = true → cursor.ahead.trimStart ≠ []) (more : Text) (tabSize : UInt32)
    (state : State) :
    state.atCursor tabSize (cursor.extend more) = state.atCursor tabSize cursor := by
  rw [atCursor, atCursor, Cursor.atStart_extend]
  split
  next hstart =>
    have hbehind : cursor.behind = [] := List.isEmpty_iff.1 hstart
    simp only [Cursor.indentation, Cursor.line, Cursor.extend, hbehind, List.reverse_nil,
      List.nil_append, Text.takeWhile_append_of_trimStart_ne_nil (h hstart)]
  next => rfl

/-- Of the place of a lexeme only the column counts. -/
theorem afterLexeme_congr {tabSize : UInt32} {cursor cursor' : Cursor}
    (h : cursor.column tabSize = cursor'.column tabSize) (lexeme : Lexeme) (state : State) :
    state.afterLexeme tabSize cursor lexeme = state.afterLexeme tabSize cursor' lexeme := by
  simp only [afterLexeme, applyEffect, h]

end State

/-! ## Tokens -/

namespace Token

variable (config : Config) {cursor : Cursor} {state : State} {more : Text}

/-- A token that does not depend on what follows is read in the same way when more text does. -/
theorem read_extend (htrim : cursor.ahead.trimStart ≠ [])
    (hscan : cursor.ahead.blankRun = 0 →
      Lexeme.scan state.region (cursor.ahead ++ more) = Lexeme.scan state.region cursor.ahead) :
    (read config (cursor.extend more) state).fragment = (read config cursor state).fragment ∧
      (read config (cursor.extend more) state).cursor =
        (read config cursor state).cursor.extend more ∧
      (read config (cursor.extend more) state).after = (read config cursor state).after := by
  have hentered := State.atCursor_extend (fun _ => htrim) more config.tabSize state
  have hblanks := Text.takeWhile_append_of_trimStart_ne_nil htrim more
  have hrun : (cursor.ahead ++ more).blankRun = cursor.ahead.blankRun :=
    congrArg List.length hblanks
  by_cases hblank : cursor.ahead.blankRun = 0
  · have hlength := Lexeme.scan_length_le state.region cursor.ahead
    have hcursor : (cursor.begin.extend more).forward _ = _ := Cursor.forward_extend hlength
    rw [read_of_blankRun_eq_zero config state hblank,
      read_of_blankRun_eq_zero config state (hrun.trans hblank), hentered, Cursor.ahead_extend,
      hscan hblank, List.take_append_of_le_length hlength, Cursor.begin_extend, hcursor,
      State.afterLexeme_congr (Cursor.column_begin_extend _)]
    exact ⟨rfl, rfl, rfl⟩
  · have hlength : cursor.ahead.blankRun ≤ cursor.ahead.length := Text.runLength_le ..
    have hcursor : (cursor.begin.extend more).forward _ = _ := Cursor.forward_extend hlength
    rw [read_of_blankRun_ne_zero config state hblank,
      read_of_blankRun_ne_zero config state (hrun.trans_ne hblank), hentered, Cursor.ahead_extend,
      hrun, hblanks, Cursor.begin_extend, hcursor]
    exact ⟨rfl, rfl, rfl⟩

end Token

/-- A line comment is read to the end of its line, and does no more than enter the line. -/
theorem tokens_of_comment (config : Config) {cursor : Cursor} {state : State} {text : Text}
    (hregion : state.region = .code) (hahead : cursor.ahead = '/' :: '/' :: text) :
    (tokens config cursor state).map Token.fragment = [⟨'/' :: '/' :: text, some .comment⟩] ∧
      stateAfter state (tokens config cursor state) = state.atCursor config.tabSize cursor := by
  have hblank : cursor.ahead.blankRun = 0 := by
    rw [hahead]
    rfl
  have hscan : Lexeme.scan state.region cursor.ahead =
      Lexeme.colored .comment cursor.ahead.length := by
    rw [hregion, hahead]
    rfl
  have hread := Token.read_of_blankRun_eq_zero config state hblank
  rw [hscan] at hread
  have hend : (Token.read config cursor state).cursor.ahead = [] := by
    rw [hread]
    exact List.drop_length
  have hafter : (Token.read config cursor state).after = state.atCursor config.tabSize cursor := by
    have hentered := (State.region_atCursor config.tabSize cursor state).trans hregion
    rw [hread, State.afterLexeme_of_comment rfl]
    simp only [Lexeme.colored, ← hentered]
  have hne : cursor.ahead ≠ [] := by
    rw [hahead]
    exact List.cons_ne_nil _ _
  rw [tokens_of_ahead_ne_nil config state hne, tokens_of_ahead_eq_nil config _ hend]
  refine ⟨?_, hafter⟩
  rw [List.map_singleton, hread, ← hahead]
  simp [Token.fragment, Lexeme.colored]

/-- Blanks are one token, which does no more than enter the line. -/
theorem exists_tokens_behind_blanks (config : Config) {cursor : Cursor} (state : State)
    (h : cursor.ahead.blankRun ≠ 0) :
    let entered := state.atCursor config.tabSize cursor
    ∃ behind : Cursor, behind.ahead = cursor.ahead.trimStart ∧ behind.atStart = false ∧
      (tokens config cursor state).map Token.fragment =
        ⟨cursor.ahead.takeWhile isBlank, none⟩ ::
          (tokens config behind entered).map Token.fragment ∧
      stateAfter state (tokens config cursor state) =
        stateAfter entered (tokens config behind entered) := by
  have hne : cursor.ahead ≠ [] := by
    intro hnil
    rw [hnil] at h
    exact h rfl
  have hread := Token.read_of_blankRun_ne_zero config state h
  have hstart := Token.atStart_cursor_read config state hne
  rw [tokens_of_ahead_ne_nil config state hne, stateAfter_cons, List.map_cons]
  rw [hread] at hstart ⊢
  exact ⟨_, Text.drop_blankRun cursor.ahead, hstart, rfl, rfl⟩

/-- Blanks and a line comment behind the start of a line leave the state as it is. -/
theorem tokens_of_blanks_comment (config : Config) {cursor : Cursor} {state : State}
    {blanks text : Text} (hregion : state.region = .code) (hstart : cursor.atStart = false)
    (hblanks : blanks.isAllBlank = true) (hne : blanks ≠ [])
    (hahead : cursor.ahead = blanks ++ '/' :: '/' :: text) :
    (tokens config cursor state).map Token.fragment =
        [⟨blanks, none⟩, ⟨'/' :: '/' :: text, some .comment⟩] ∧
      stateAfter state (tokens config cursor state) = state := by
  have hforall : ∀ c ∈ blanks, isBlank c = true := List.all_eq_true.1 hblanks
  have htake : cursor.ahead.takeWhile isBlank = blanks := by
    rw [hahead, List.takeWhile_append_of_pos hforall]
    exact List.append_nil blanks
  have hrun : cursor.ahead.blankRun ≠ 0 := Text.blankRun_ne_zero (htake.trans_ne hne)
  obtain ⟨behind, hbehind, hbehindStart, hfragments, hafter⟩ :=
    exists_tokens_behind_blanks config state hrun
  rw [State.atCursor_of_atStart_eq_false _ _ _ hstart] at hfragments hafter
  have hslashes : behind.ahead = '/' :: '/' :: text := by
    rw [hbehind, hahead, Text.trimStart_append hforall]
    rfl
  obtain ⟨hcomment, hcommentAfter⟩ := tokens_of_comment config hregion hslashes
  rw [hfragments, hafter, htake, hcomment, hcommentAfter,
    State.atCursor_of_atStart_eq_false _ _ _ hbehindStart]
  exact ⟨rfl, rfl⟩

/-- A lexeme behind which there is no code is the last one of its line. -/
theorem stateAfter_of_scan_ne_code (config : Config) {cursor : Cursor} {state : State}
    (hblank : cursor.ahead.blankRun = 0) (hne : cursor.ahead ≠ [])
    (h : (Lexeme.scan state.region cursor.ahead).region ≠ .code) :
    (stateAfter state (tokens config cursor state)).region ≠ .code := by
  have hread := Token.read_of_blankRun_eq_zero config state hblank
  have hend : (Token.read config cursor state).cursor.ahead = [] := by
    rw [hread, Lexeme.scan_length_of_ne_code h]
    exact List.drop_length
  rw [tokens_of_ahead_ne_nil config state hne, tokens_of_ahead_eq_nil config _ hend,
    stateAfter_cons, hread]
  rwa [stateAfter, List.getLast?_nil, State.region_afterLexeme]

/-- What becomes of the last fragments of a line when a line comment follows it. -/
inductive Remarked (text : Text) : List Fragment → List Fragment → Prop where
  /-- Behind a lexeme, the remark is a blank and a comment. -/
  | behind : Remarked text [] [⟨[' '], none⟩, ⟨'/' :: '/' :: text, some .comment⟩]
  /-- Behind blanks, its blank is one of them. -/
  | blanks {blanks : Text} (h : blanks.isAllBlank = true) :
      Remarked text [⟨blanks, none⟩] [⟨blanks ++ [' '], none⟩, ⟨'/' :: '/' :: text, some .comment⟩]
  /-- Behind another line comment, it is a part of that comment. -/
  | comment (first : Text) :
      Remarked text [⟨'/' :: '/' :: first, some .comment⟩]
        [⟨'/' :: '/' :: (first ++ remark text), some .comment⟩]

/-- Behind the blanks at the end of a line, the blank of a remark is one of them. -/
theorem exists_remarked_of_blanks (config : Config) {cursor : Cursor} {state : State} (text : Text)
    (hstart : cursor.atStart = false) (hne : cursor.ahead ≠ [])
    (htrim : cursor.ahead.trimStart = [])
    (hcode : (stateAfter state (tokens config cursor state)).region = .code) :
    stateAfter state (tokens config (cursor.extend (remark text)) state) =
        stateAfter state (tokens config cursor state) ∧
      ∃ last last', Remarked text last last' ∧
        (tokens config cursor state).map Token.fragment = last ∧
        (tokens config (cursor.extend (remark text)) state).map Token.fragment = last' := by
  have hallBlank : cursor.ahead.isAllBlank = true := Text.trimStart_eq_nil_iff.1 htrim
  have htake : cursor.ahead.takeWhile isBlank = cursor.ahead :=
    List.takeWhile_eq_self_iff.2 (List.all_eq_true.1 hallBlank)
  have hrun : cursor.ahead.blankRun ≠ 0 := Text.blankRun_ne_zero (htake.trans_ne hne)
  obtain ⟨behind, hbehind, -, hplain, hplainAfter⟩ := exists_tokens_behind_blanks config state hrun
  have hend : tokens config behind (state.atCursor config.tabSize cursor) = [] :=
    tokens_of_ahead_eq_nil config _ (hbehind.trans htrim)
  have hstate : stateAfter state (tokens config cursor state) = state := by
    rw [hplainAfter, hend]
    exact State.atCursor_of_atStart_eq_false _ _ _ hstart
  rw [hend, htake] at hplain
  rw [hstate] at hcode ⊢
  have hremark : (cursor.extend (remark text)).ahead =
      (cursor.ahead ++ [' ']) ++ '/' :: '/' :: text := List.append_cons ..
  have hnotedStart : (cursor.extend (remark text)).atStart = false := hstart
  obtain ⟨hnoted, hnotedAfter⟩ :=
    tokens_of_blanks_comment config hcode hnotedStart (Text.isAllBlank_append_space hallBlank)
      (by simp) hremark
  exact ⟨hnotedAfter, _, _, .blanks hallBlank, hplain, hnoted⟩

/-- **A remark behind a line.** It leaves the state as it is, and the fragments but the last. -/
theorem exists_remarked (config : Config) {cursor : Cursor} {state : State} (text : Text)
    (hstart : cursor.atStart = true → cursor.ahead.trimStart ≠ [])
    (hcode : (stateAfter state (tokens config cursor state)).region = .code) :
    stateAfter state (tokens config (cursor.extend (remark text)) state) =
        stateAfter state (tokens config cursor state) ∧
      ∃ front last last', Remarked text last last' ∧
        (tokens config cursor state).map Token.fragment = front ++ last ∧
        (tokens config (cursor.extend (remark text)) state).map Token.fragment =
          front ++ last' := by
  fun_induction tokens config cursor state with
  | case1 cursor state hahead =>
    have hbehind : (cursor.extend (remark text)).atStart = false := by
      rw [Cursor.atStart_extend, Bool.eq_false_iff]
      intro htrue
      exact hstart htrue (congrArg Text.trimStart hahead)
    have hremark : (cursor.extend (remark text)).ahead = [' '] ++ '/' :: '/' :: text := by
      rw [Cursor.ahead_extend, hahead]
      rfl
    obtain ⟨hfragments, hafter⟩ :=
      tokens_of_blanks_comment config hcode hbehind rfl (List.cons_ne_nil _ _) hremark
    exact ⟨hafter, [], _, _, .behind, rfl, hfragments⟩
  | case2 cursor state hahead token ih =>
    rw [← tokens_of_ahead_ne_nil config state hahead] at hcode ⊢
    by_cases htrim : cursor.ahead.trimStart = []
    · have hbehind : cursor.atStart = false := Bool.eq_false_iff.2 fun htrue => hstart htrue htrim
      obtain ⟨hstate, last, last', hremarked, hplain, hnoted⟩ :=
        exists_remarked_of_blanks config text hbehind hahead htrim hcode
      exact ⟨hstate, [], last, last', hremarked, hplain, hnoted⟩
    by_cases hcomment :
      cursor.ahead.blankRun = 0 ∧ state.region = .code ∧ ['/', '/'] <+: cursor.ahead
    · obtain ⟨hblank, hregion, first, hfirst⟩ := hcomment
      have hremark :
          (cursor.extend (remark text)).ahead = '/' :: '/' :: (first ++ remark text) := by
        rw [Cursor.ahead_extend, ← hfirst]
        rfl
      obtain ⟨hfragments, hafter⟩ := tokens_of_comment config hregion hfirst.symm
      obtain ⟨hremarked, hremarkedAfter⟩ := tokens_of_comment config hregion hremark
      refine ⟨?_, [], _, _, .comment first, hfragments, hremarked⟩
      rw [hafter, hremarkedAfter, State.atCursor_extend hstart]
    · have hscan : cursor.ahead.blankRun = 0 →
          Lexeme.scan state.region (cursor.ahead ++ remark text) =
            Lexeme.scan state.region cursor.ahead := by
        intro hblank
        refine Lexeme.scan_append_space hahead ?_ ?_ _
        · by_contra hregion
          exact stateAfter_of_scan_ne_code config hblank hahead hregion hcode
        · exact fun hregion hslashes => hcomment ⟨hblank, hregion, hslashes⟩
      have hbehind : token.cursor.atStart = false := Token.atStart_cursor_read config state hahead
      have hlonger : (cursor.extend (remark text)).ahead ≠ [] :=
        List.append_ne_nil_of_left_ne_nil hahead _
      obtain ⟨hfragment, hcursor, hafter⟩ := Token.read_extend config htrim hscan
      rw [tokens_of_ahead_ne_nil config state hahead, stateAfter_cons] at hcode ⊢
      rw [tokens_of_ahead_ne_nil config state hlonger, stateAfter_cons, List.map_cons,
        List.map_cons, hfragment, hcursor, hafter]
      obtain ⟨hstate, front, last, last', hremarked, hplain, hnoted⟩ :=
        ih (fun htrue => absurd htrue (Bool.eq_false_iff.1 hbehind)) hcode
      refine ⟨hstate, token.fragment :: front, last, last', hremarked, ?_, ?_⟩
      · exact congrArg (token.fragment :: ·) hplain
      · exact congrArg (token.fragment :: ·) hnoted

/-! ## Spans -/

/-- The spans of a line that show more than blanks. -/
def Line.inkedSpans (line : Line) : List Span :=
  line.spans.filter fun span => !((line.text.slice? span.start span.stop).getD []).isAllBlank

/-- The spans of the fragments that are not blank, where the first fragment begins at a byte
offset. -/
def inkedFrom (start : Nat) : List Fragment → List Span
  | [] => []
  | fragment :: rest =>
    let stop := start + fragment.text.byteLength
    if fragment.isBlank then inkedFrom stop rest
    else ⟨start, stop, fragment.style⟩ :: inkedFrom stop rest

/-- The spans of fragments that follow others begin where those end. -/
theorem inkedFrom_append (start : Nat) (a b : List Fragment) :
    inkedFrom start (a ++ b) =
      inkedFrom start a ++ inkedFrom (start + Text.byteLength (a.flatMap Fragment.text)) b := by
  induction a generalizing start with
  | nil => rfl
  | cons fragment a ih =>
    rw [List.flatMap_cons, Text.byteLength_append, ← Nat.add_assoc]
    cases hblank : fragment.isBlank <;> simp [inkedFrom, hblank, ih]

/-- The spans of tokens whose part of the line is not blank are those of the fragments that are
not. -/
theorem filter_spansFrom (before : Text) (tokens : List Token) :
    (spansFrom before.byteLength tokens).filter (fun span =>
        !(((before ++ tokens.flatMap Token.text).slice? span.start span.stop).getD []).isAllBlank)
      =
      inkedFrom before.byteLength (tokens.map Token.fragment) := by
  induction tokens generalizing before with
  | nil => rfl
  | cons token tokens ih =>
    have hrest := ih (before ++ token.text)
    rw [Text.byteLength_append, List.append_assoc] at hrest
    rw [spansFrom, List.filter_cons, List.flatMap_cons, hrest, ← List.append_assoc,
      Text.slice?_append, List.map_cons, inkedFrom]
    have hshown : (!((some token.text).getD []).isAllBlank) = !token.fragment.isBlank := rfl
    rw [hshown]
    cases token.fragment.isBlank <;> rfl

/-- The spans of a line that are not blank are those of its fragments that are not. -/
theorem inkedSpans_scan (config : Config) (state : State) (text : Text) :
    (Line.scan config state text).inkedSpans =
      inkedFrom 0 ((lineTokens config state text).map Token.fragment) := by
  have h := filter_spansFrom [] (lineTokens config state text)
  rwa [flatMap_text_lineTokens, List.nil_append] at h

/-- Of blanks and a line comment only the comment shows. -/
theorem inkedFrom_blanks_comment {blanks : Text} (h : blanks.isAllBlank = true) (text : Text)
    (start : Nat) :
    inkedFrom start [⟨blanks ++ [' '], none⟩, ⟨'/' :: '/' :: text, some .comment⟩] =
      [⟨start + blanks.byteLength + 1, start + Text.byteLength (blanks ++ remark text),
        some .comment⟩] := by
  have hblank : Fragment.isBlank ⟨blanks ++ [' '], none⟩ = true := Text.isAllBlank_append_space h
  have hcomment : Fragment.isBlank ⟨'/' :: '/' :: text, some .comment⟩ = false := rfl
  have hspace : Text.byteLength (blanks ++ [' ']) = blanks.byteLength + 1 :=
    Text.byteLength_append blanks [' ']
  have hremark : blanks ++ remark text = (blanks ++ [' ']) ++ '/' :: '/' :: text :=
    List.append_cons ..
  rw [hremark, Text.byteLength_append, hspace, inkedFrom, if_pos hblank, inkedFrom, hcomment,
    hspace, Nat.add_assoc start, Nat.add_assoc start]
  rfl

/-- The last spans with a remark behind them. -/
theorem Remarked.inkedFrom_eq {text : Text} {last last' : List Fragment}
    (h : Remarked text last last') (start : Nat) :
    let stop := start + Text.byteLength (last.flatMap Fragment.text)
    let stop' := start + Text.byteLength (last'.flatMap Fragment.text)
    inkedFrom start last' = inkedFrom start last ++ [⟨stop + 1, stop', some .comment⟩] ∨
      ∃ first, last = [⟨'/' :: '/' :: first, some .comment⟩] ∧
        inkedFrom start last' = [⟨start, stop', some .comment⟩] := by
  have htexts (blanks : Text) : List.flatMap Fragment.text
      [⟨blanks ++ [' '], none⟩, ⟨'/' :: '/' :: text, some .comment⟩] = blanks ++ remark text := by
    simp [remark]
  cases h with
  | behind =>
    have hspans := inkedFrom_blanks_comment (show Text.isAllBlank [] = true from rfl) text start
    left
    rw [List.nil_append] at hspans
    rw [hspans, ← List.nil_append [' '], htexts []]
    rfl
  | @blanks blanks hblanks =>
    have hblank : Fragment.isBlank ⟨blanks, none⟩ = true := hblanks
    left
    rw [inkedFrom_blanks_comment hblanks text start, htexts blanks, List.flatMap_singleton,
      inkedFrom, if_pos hblank]
    rfl
  | comment first =>
    have hcomment :
        Fragment.isBlank ⟨'/' :: '/' :: (first ++ remark text), some .comment⟩ = false := rfl
    right
    rw [List.flatMap_singleton, inkedFrom, hcomment]
    exact ⟨first, rfl, rfl⟩

/-- **A comment behind a line changes nothing.** Let code follow a line that is not blank. A remark
behind the line leaves the same state, whatever the state before the line. What the line shows is
the same as well, with the comment behind it; or the line ends in a line comment, and that comment
gets longer. -/
theorem remark_leaves_no_trace (config : Config) (state : State) {line : Text} (text : Text)
    (hline : line.trimStart ≠ []) (hcode : (highlight config state line).2.region = .code) :
    let plain := Line.scan config state line
    let noted := Line.scan config state (line ++ remark text)
    noted.after = plain.after ∧
      (noted.inkedSpans =
          plain.inkedSpans ++ [⟨line.byteLength + 1, noted.text.byteLength, some .comment⟩] ∨
        ∃ front start first,
          line.slice? start line.byteLength = some ('/' :: '/' :: first) ∧
          plain.inkedSpans = front ++ [⟨start, line.byteLength, some .comment⟩] ∧
          noted.inkedSpans = front ++ [⟨start, noted.text.byteLength, some .comment⟩]) := by
  intro plain noted
  have hstart : (Cursor.ofLine line).atStart = true → (Cursor.ofLine line).ahead.trimStart ≠ [] :=
    fun _ => hline
  obtain ⟨hstate, front, last, last', hremarked, hplain, hnoted⟩ :=
    exists_remarked config text hstart hcode
  have hplainText : line = front.flatMap Fragment.text ++ last.flatMap Fragment.text := by
    rw [← List.flatMap_append, ← hplain, List.flatMap_map]
    exact (flatMap_text_lineTokens config state line).symm
  have hnotedText :
      noted.text = front.flatMap Fragment.text ++ last'.flatMap Fragment.text := by
    rw [← List.flatMap_append, ← hnoted, List.flatMap_map]
    exact (flatMap_text_lineTokens config state (line ++ remark text)).symm
  have hplainSpans : plain.inkedSpans = inkedFrom 0 (front ++ last) :=
    (inkedSpans_scan config state line).trans (congrArg (inkedFrom 0) hplain)
  have hnotedSpans : noted.inkedSpans = inkedFrom 0 (front ++ last') :=
    (inkedSpans_scan config state (line ++ remark text)).trans (congrArg (inkedFrom 0) hnoted)
  have hspans := hremarked.inkedFrom_eq (Text.byteLength (front.flatMap Fragment.text))
  rw [← Text.byteLength_append, ← Text.byteLength_append, ← hplainText, ← hnotedText] at hspans
  rw [inkedFrom_append, Nat.zero_add] at hplainSpans hnotedSpans
  refine ⟨hstate, ?_⟩
  rcases hspans with hspans | ⟨first, rfl, hspans⟩
  · left
    rw [hnotedSpans, hplainSpans, hspans, List.append_assoc]
  · right
    have hslice := Text.slice?_append (front.flatMap Fragment.text) ('/' :: '/' :: first) []
    rw [List.flatMap_singleton] at hplainText
    rw [List.append_nil, ← Text.byteLength_append, ← hplainText] at hslice
    refine ⟨inkedFrom 0 front, _, first, hslice, ?_, ?_⟩
    · rw [hplainSpans, hplainText, Text.byteLength_append]
      rfl
    · rw [hnotedSpans, hspans]

/-- The theorem for a line that begins inside a string and ends, behind an open bracket, in a
number without the digits of its exponent and in blanks. -/
theorem remark_leaves_no_trace_exponent :
    let state : State := { State.initial {} with region := .string .double }
    let line : Text := "a\\\"\" + f(1e \t".toList
    let plain := Line.scan {} state line
    let noted := Line.scan {} state (line ++ remark "\" /* (".toList)
    line.trimStart ≠ [] ∧ plain.after.region = .code ∧ noted.after = plain.after ∧
      noted.inkedSpans = plain.inkedSpans ++ [⟨14, 22, some .comment⟩] := by
  intro state line plain noted
  have hline : line.trimStart ≠ [] := by decide
  have hcode : plain.after.region = .code := by decide +kernel
  obtain ⟨hafter, hspans | ⟨front, start, first, -, hplain, -⟩⟩ :=
    remark_leaves_no_trace {} state "\" /* (".toList hline hcode
  · exact ⟨hline, hcode, hafter, hspans⟩
  · have hlast : plain.inkedSpans.getLast? = some ⟨10, 11, some .variable⟩ := by decide +kernel
    have hcomment : plain.inkedSpans.getLast? = some ⟨start, line.byteLength, some .comment⟩ := by
      rw [hplain, List.getLast?_append]
      rfl
    cases hlast.symm.trans hcomment

end SyntaxMode
