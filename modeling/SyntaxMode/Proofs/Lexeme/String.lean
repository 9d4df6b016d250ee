import Mathlib.Algebra.Group.Nat.Even
import Mathlib.Data.List.Induction
import Mathlib.Order.WellFounded
import SyntaxMode.Proofs.Offsets.Lexeme
import SyntaxMode.Proofs.Token.Lexing

/-!
# Where a string ends

A string ends at the first quote of its own kind that no backslash escapes. The reader keeps track
of that with one flag, or skips the character behind each backslash; what both come to can be said
of the text alone: a quote is escaped if an odd number of backslashes stands right before it
(`Quote.escapes_eq_false_iff`). So a string goes on over escaped quotes
(`Lexeme.stringRest_append_of_escapes`) to the first quote that is not, and otherwise to the end of
the line, where a backslash is a character like any other. `StringStart` names the two places where
content begins, behind an opening quote and at the first character of a line that begins inside a
string, and `string_ends` says for both what is read there.
-/

namespace SyntaxMode

/-- The number of backslashes that a text ends with. -/
def Text.trailingBackslashes (text : Text) : Nat :=
  Text.runLength (· == '\\') text.reverse

/-- Whether what is left of a string can end behind some content of it: there is a quote, and no
backslash of the content escapes it. -/
def Quote.ClosesAt (quote : Quote) (rest content : Text) : Prop :=
  content ++ [quote.char] <+: rest ∧ (quote.isRaw = true ∨ Even content.trailingBackslashes)

/-- Whether a token that is read at a cursor in a state is a string, or goes on with one: it
consists of the opening quote, if there is one, and of content from `rest`. -/
inductive StringStart (quote : Quote) (cursor : Cursor) (state : State) : Text → Text → Prop where
  /-- In code, behind a quote. -/
  | opened {rest : Text} (hregion : state.region = .code)
      (hahead : cursor.ahead = quote.char :: rest) :
      StringStart quote cursor state [quote.char] rest
  /-- Inside a string, once the blanks at the start of the line are passed. -/
  | carried (hregion : state.region = .string quote) (hblank : cursor.ahead.blankRun = 0)
      (hne : cursor.ahead ≠ []) : StringStart quote cursor state [] cursor.ahead

/-! ## Escapes -/

/-- One more character makes a run of backslashes longer, or ends it. -/
theorem Text.trailingBackslashes_append_singleton (content : Text) (c : Char) :
    Text.trailingBackslashes (content ++ [c]) =
      if c = '\\' then content.trailingBackslashes + 1 else 0 := by
  rw [trailingBackslashes, List.reverse_append, List.reverse_singleton, List.singleton_append,
    runLength, List.takeWhile_cons]
  by_cases hc : c = '\\'
  · simp [hc, trailingBackslashes, runLength]
  · simp [hc]

namespace Quote

variable {quote : Quote} {rest content : Text}

/-- Whether the character behind some content of a string is escaped, if it is known whether the
first character of the content is. -/
def escapes (quote : Quote) (escaped : Bool) (content : Text) : Bool :=
  content.foldl (fun escaped c => !escaped && c == '\\' && !quote.isRaw) escaped

/-- **Escapes are a matter of parity.** A character is escaped where an odd number of backslashes
stands right before it. -/
theorem escapes_eq_false_iff (quote : Quote) (content : Text) :
    quote.escapes false content = false ↔
      quote.isRaw = true ∨ Even content.trailingBackslashes := by
  induction content using List.reverseRecOn with
  | nil => simp [escapes, Text.trailingBackslashes, Text.runLength]
  | append_singleton content c ih =>
    have hstep : quote.escapes false (content ++ [c]) =
        (!quote.escapes false content && c == '\\' && !quote.isRaw) := by
      rw [escapes, List.foldl_append]
      rfl
    rw [hstep, Text.trailingBackslashes_append_singleton]
    by_cases hc : c = '\\'
    · cases hescapes : quote.escapes false content <;> cases hraw : quote.isRaw <;>
        simp_all [Nat.even_add_one]
    · simp [hc]

/-- A quote closes a string behind a content if it comes next and no backslash is left open. -/
theorem closesAt_iff :
    quote.ClosesAt rest content ↔
      content ++ [quote.char] <+: rest ∧ quote.escapes false content = false := by
  rw [ClosesAt, escapes_eq_false_iff]

/-- A string that can end somewhere can end at a first place. -/
theorem exists_first_closesAt (h : ∃ content, quote.ClosesAt rest content) :
    ∃ content, quote.ClosesAt rest content ∧
      ∀ other, quote.ClosesAt rest other → content.length ≤ other.length := by
  obtain ⟨content, hcloses, hfirst⟩ :=
    WellFounded.has_min (measure List.length).wf {content | quote.ClosesAt rest content} h
  exact ⟨content, hcloses, fun other hother => Nat.le_of_not_lt (hfirst other hother)⟩

/-- A backslash behind what is left of a string does not end it. -/
theorem not_closesAt_append_backslash (h : ∀ content, ¬ quote.ClosesAt rest content)
    (content : Text) : ¬ quote.ClosesAt (rest ++ ['\\']) content := by
  rintro ⟨hbegins, hparity⟩
  rcases List.prefix_concat_iff.1 hbegins with heq | hbegins
  · have hlast := (List.append_inj' heq rfl).2
    cases quote <;> cases hlast
  · exact h content ⟨hbegins, hparity⟩

end Quote

/-! ## The rest of a string -/

namespace Lexeme

variable {quote : Quote} {rest content : Text}

/-- A string goes on over content in which each quote is escaped. -/
theorem stringRest_append_of_escapes {escaped : Bool}
    (h : ∀ front, front ++ [quote.char] <+: content → quote.escapes escaped front = true)
    (after : Text) :
    stringRest quote escaped (content ++ after) =
      let (length, region) := stringRest quote (quote.escapes escaped content) after
      (content.length + length, region) := by
  induction content generalizing escaped with
  | nil => simp [Quote.escapes]
  | cons c content ih =>
    have hopen : (!escaped && c == quote.char) = false := by
      rw [Bool.and_eq_false_iff, Bool.not_eq_false', beq_eq_false_iff_ne, or_iff_not_imp_right,
        not_not]
      rintro rfl
      exact h [] ⟨content, rfl⟩
    have hrest : ∀ front, front ++ [quote.char] <+: content →
        quote.escapes (!escaped && c == '\\' && !quote.isRaw) front = true :=
      fun front hfront => h (c :: front) (List.cons_prefix_cons.2 ⟨rfl, hfront⟩)
    rw [List.cons_append, stringRest, hopen, ih hrest]
    simp [Quote.escapes, Nat.add_right_comm]

/-- A string ends behind the first quote that can end it. -/
theorem stringRest_of_closesAt (h : quote.ClosesAt rest content)
    (hfirst : ∀ other, quote.ClosesAt rest other → content.length ≤ other.length) :
    stringRest quote false rest = (content.length + 1, .code) := by
  obtain ⟨hbegins, hescapes⟩ := Quote.closesAt_iff.1 h
  have hinside : ∀ front, front ++ [quote.char] <+: content →
      quote.escapes false front = true := by
    intro front hfront
    by_contra hopen
    rw [Bool.not_eq_true] at hopen
    have hcontent := hfirst front (Quote.closesAt_iff.2
      ⟨hfront.trans ((List.prefix_append content _).trans hbegins), hopen⟩)
    have hlength := hfront.length_le
    rw [List.length_append, List.length_singleton] at hlength
    omega
  obtain ⟨after, rfl⟩ := hbegins
  rw [List.append_assoc, stringRest_append_of_escapes hinside, hescapes, List.singleton_append,
    Offsets.stringRest_closing]

/-- Where no quote can end a string, it goes on to the end of the line. -/
theorem stringRest_of_forall (h : ∀ content, ¬ quote.ClosesAt rest content) :
    stringRest quote false rest = (rest.length, .string quote) := by
  have hinside : ∀ front, front ++ [quote.char] <+: rest → quote.escapes false front = true := by
    intro front hfront
    by_contra hopen
    rw [Bool.not_eq_true] at hopen
    exact h front (Quote.closesAt_iff.2 ⟨hfront, hopen⟩)
  have hrest := stringRest_append_of_escapes hinside []
  rwa [List.append_nil, stringRest] at hrest

end Lexeme

/-! ## Reading a string -/

namespace StringStart

variable {quote : Quote} {cursor : Cursor} {state : State} {opening rest : Text}

/-- Ahead of a cursor at a string are its opening and the rest of the line. -/
theorem ahead_eq (h : StringStart quote cursor state opening rest) :
    cursor.ahead = opening ++ rest := by
  cases h with
  | opened _ hahead => exact hahead
  | carried => rfl

/-- A string has at least one character to read. -/
theorem ahead_ne_nil (h : StringStart quote cursor state opening rest) : cursor.ahead ≠ [] := by
  cases h with
  | opened _ hahead => rw [hahead]; exact List.cons_ne_nil _ _
  | carried _ _ hne => exact hne

/-- No blank is ahead where a string begins or goes on. -/
theorem blankRun_eq_zero (h : StringStart quote cursor state opening rest) :
    cursor.ahead.blankRun = 0 := by
  cases h with
  | opened _ hahead =>
    rw [hahead]
    cases quote <;> rfl
  | carried _ hblank _ => exact hblank

/-- The lexeme of a string. -/
theorem scan_eq (h : StringStart quote cursor state opening rest) :
    Lexeme.scan state.region cursor.ahead =
      let (length, region) := Lexeme.stringRest quote false rest
      ⟨opening.length + length, some .string, none, region⟩ := by
  cases h with
  | opened hregion hahead =>
    rw [hregion, hahead, Lexeme.scan, Lexeme.scanCode, Quote.ofChar?_char]
    simp [Lexeme.scanString, Nat.add_comm]
  | carried hregion _ _ =>
    rw [hregion, Lexeme.scan]
    simp

/-- A string is read to where its rest ends, and leaves the contexts alone except that it follows
the innermost bracket. -/
theorem read_eq (h : StringStart quote cursor state opening rest) (config : Config) :
    Token.read config cursor state =
      let (length, region) := Lexeme.stringRest quote false rest
      let entered := state.atCursor config.tabSize cursor
      { text := opening ++ rest.take length
        style := some .string
        cursor := cursor.begin.forward (opening.length + length)
        after :=
          ⟨region, entered.nesting.modify Context.afterLexeme, entered.indented, false⟩ } := by
  rw [Token.read_of_blankRun_eq_zero config state h.blankRun_eq_zero, h.scan_eq, h.ahead_eq]
  simp [State.afterLexeme, List.take_length_add_append]

/-- A backslash at the end of its line leaves a string where it is. -/
theorem append_backslash (h : StringStart quote cursor state opening rest) :
    StringStart quote { cursor with ahead := cursor.ahead ++ ['\\'] } state opening
      (rest ++ ['\\']) := by
  cases h with
  | opened hregion hahead => exact .opened hregion (by rw [hahead]; rfl)
  | carried hregion hblank hne =>
    refine .carried hregion ?_ (by simp)
    obtain ⟨c, tail, hahead⟩ := List.exists_cons_of_ne_nil hne
    simp only [hahead, List.cons_append] at hblank ⊢
    rw [Text.blankRun, Text.runLength_eq_zero_iff]
    rintro _ ⟨⟩
    exact Text.isBlank_of_blankRun_eq_zero hblank

/-- A line is entered in the same way with a backslash at its end. -/
theorem atCursor_append_backslash (h : StringStart quote cursor state opening rest)
    (tabSize : UInt32) :
    state.atCursor tabSize { cursor with ahead := cursor.ahead ++ ['\\'] } =
      state.atCursor tabSize cursor := by
  rw [State.atCursor_of_blankRun_eq_zero h.append_backslash.blankRun_eq_zero,
    State.atCursor_of_blankRun_eq_zero h.blankRun_eq_zero]
  rfl

/-- The rest of a string is searched by bytes, from behind the opening quote. -/
theorem runs_string (h : StringStart quote cursor state opening rest) (config : Config) :
    Offsets.Runs (Offsets.string quote) (cursor.begin.forward opening.length)
      (Token.read config cursor state).after.region (Token.read config cursor state).cursor := by
  have hruns := Offsets.runs_string quote (cursor.begin.forward opening.length)
  rw [Cursor.forward_forward, Cursor.ahead_forward, Cursor.ahead_begin, h.ahead_eq,
    List.drop_left] at hruns
  rwa [h.read_eq]

/-- A string with an end on the line is read up to the first end, and code goes on behind it. -/
theorem read_of_closesAt {content : Text} (h : StringStart quote cursor state opening rest)
    (config : Config) (hcloses : quote.ClosesAt rest content)
    (hfirst : ∀ other, quote.ClosesAt rest other → content.length ≤ other.length) :
    (Token.read config cursor state).text = opening ++ content ++ [quote.char] ∧
      (Token.read config cursor state).after.region = .code := by
  have hcontent := List.prefix_iff_eq_take.1 hcloses.1
  rw [List.length_append, List.length_singleton] at hcontent
  rw [h.read_eq, Lexeme.stringRest_of_closesAt hcloses hfirst, List.append_assoc, hcontent]
  exact ⟨rfl, rfl⟩

/-- A string that does not end on its line is read to the end of the line. -/
theorem read_of_forall (h : StringStart quote cursor state opening rest) (config : Config)
    (hopen : ∀ content, ¬ quote.ClosesAt rest content) :
    (Token.read config cursor state).text = opening ++ rest ∧
      (Token.read config cursor state).after.region = .string quote ∧
      tokens config cursor state = [Token.read config cursor state] := by
  have hread := h.read_eq config
  rw [Lexeme.stringRest_of_forall hopen] at hread
  have hend : (Token.read config cursor state).cursor.ahead = [] := by
    rw [hread]
    simp [h.ahead_eq]
  refine ⟨?_, ?_, ?_⟩
  · rw [hread]
    exact congrArg (opening ++ ·) List.take_length
  · rw [hread]
  · rw [tokens_of_ahead_ne_nil config state h.ahead_ne_nil, tokens_of_ahead_eq_nil config _ hend]

/-- A backslash at the end of the line of an open string changes nothing behind the line. -/
theorem stateAfter_append_backslash (h : StringStart quote cursor state opening rest)
    (config : Config) (hopen : ∀ content, ¬ quote.ClosesAt rest content) :
    stateAfter state (tokens config { cursor with ahead := cursor.ahead ++ ['\\'] } state) =
      stateAfter state (tokens config cursor state) := by
  have hopen' := Quote.not_closesAt_append_backslash hopen
  rw [(h.read_of_forall config hopen).2.2, (h.append_backslash.read_of_forall config hopen').2.2,
    stateAfter_cons, stateAfter_cons, h.read_eq, h.append_backslash.read_eq,
    Lexeme.stringRest_of_forall hopen, Lexeme.stringRest_of_forall hopen',
    h.atCursor_append_backslash]

end StringStart

/-- A line that begins inside a string goes on with it behind its leading blanks. -/
theorem exists_stringStart_of_region (config : Config) {quote : Quote} {state : State}
    {line : Text} (hregion : state.region = .string quote) (hline : line.trimStart ≠ []) :
    ∃ blanks cursor after, lineTokens config state line = blanks ++ tokens config cursor after ∧
      blanks.flatMap Token.text = line.takeWhile isBlank ∧
      (∀ token ∈ blanks, token.style = none) ∧
      StringStart quote cursor after [] line.trimStart := by
  obtain ⟨blanks, cursor, before, htokens, htext, hblanks, hahead, hbefore, -⟩ :=
    exists_lineTokens_eq_append config state hline
  refine ⟨blanks, cursor, before, htokens, htext, fun token htoken => (hblanks token htoken).2, ?_⟩
  have hblank : cursor.ahead.blankRun = 0 := by
    rw [hahead]
    exact Text.blankRun_trimStart line
  rw [← hahead] at hline ⊢
  exact .carried (hbefore.trans hregion) hblank hline

/-- **A string ends at the first quote that is not escaped.** Where a string begins or goes on, it
is read up to that quote, and code follows. If there is no such quote, all of the line is read and
the next line begins inside the string; a backslash more at the end would change nothing about
that. In both cases the search through the bytes of the line ends where the token does. A line that
begins inside a string, and is not blank, goes on with it behind its leading blanks. -/
theorem string_ends (config : Config) (quote : Quote) :
    (∀ {cursor : Cursor} {state : State} {opening rest : Text},
      StringStart quote cursor state opening rest →
        let token := Token.read config cursor state
        token.style = some .string ∧
          Offsets.Runs (Offsets.string quote) (cursor.begin.forward opening.length)
            token.after.region token.cursor ∧
          ((∃ content, quote.ClosesAt rest content) →
            ∃ content, quote.ClosesAt rest content ∧
              (∀ other, quote.ClosesAt rest other → content.length ≤ other.length) ∧
              token.text = opening ++ content ++ [quote.char] ∧ token.after.region = .code) ∧
          ((∀ content, ¬ quote.ClosesAt rest content) →
            token.text = opening ++ rest ∧ token.after.region = .string quote ∧
              tokens config cursor state = [token] ∧
              stateAfter state
                (tokens config { cursor with ahead := cursor.ahead ++ ['\\'] } state) =
                  stateAfter state (tokens config cursor state))) ∧
      ∀ (state : State) (line : Text), state.region = .string quote → line.trimStart ≠ [] →
        ∃ blanks cursor after,
          lineTokens config state line = blanks ++ tokens config cursor after ∧
            blanks.flatMap Token.text = line.takeWhile isBlank ∧
            (∀ token ∈ blanks, token.style = none) ∧
            StringStart quote cursor after [] line.trimStart := by
  refine ⟨fun {cursor state opening rest} h => ⟨?style, h.runs_string config, ?closed, ?carried⟩,
    fun _ _ => exists_stringStart_of_region config⟩
  case style => rw [h.read_eq]
  case closed =>
    intro hcloses
    obtain ⟨content, hcontent, hfirst⟩ := Quote.exists_first_closesAt hcloses
    exact ⟨content, hcontent, hfirst, h.read_of_closesAt config hcontent hfirst⟩
  case carried =>
    intro hopen
    obtain ⟨htext, hregion, htokens⟩ := h.read_of_forall config hopen
    exact ⟨htext, hregion, htokens, h.stateAfter_append_backslash config hopen⟩

/-- The theorem for a string with an escaped quote and an even number of backslashes before the one
that ends it, for one that no quote ends, and for the line on which the latter goes on. -/
theorem string_ends_two_lines :
    let closed : Cursor := .ofLine "\"a\\\"é\\\\\" + 1".toList
    let carried : Cursor := .ofLine "'é\\".toList
    let inside : State := { State.initial {} with region := .string .single }
    (∃ content, Quote.ClosesAt .double closed.ahead.tail content ∧
      (∀ other, Quote.ClosesAt .double closed.ahead.tail other → content.length ≤ other.length) ∧
      (Token.read {} closed (State.initial {})).text = ['"'] ++ content ++ ['"'] ∧
      (Token.read {} closed (State.initial {})).after.region = .code) ∧
    (Token.read {} carried (State.initial {})).text = "'é\\".toList ∧
    (Token.read {} carried (State.initial {})).after.region = .string .single ∧
    ∃ blanks cursor after,
      lineTokens {} inside "\t b' c".toList = blanks ++ tokens {} cursor after ∧
        StringStart .single cursor after [] "b' c".toList := by
  intro closed carried inside
  have hclosed : StringStart .double closed (State.initial {}) ['"'] closed.ahead.tail :=
    .opened rfl rfl
  have hcloses : Quote.ClosesAt .double closed.ahead.tail "a\\\"é\\\\".toList :=
    ⟨by decide, .inr (by decide)⟩
  have hcarried : StringStart .single carried (State.initial {}) ['\''] "é\\".toList :=
    .opened rfl rfl
  have hopen : ∀ content, ¬ Quote.ClosesAt .single "é\\".toList content := by
    rintro content ⟨hbegins, -⟩
    have hquote : '\'' ∈ "é\\".toList := hbegins.subset (by simp [Quote.char])
    exact absurd hquote (by decide)
  obtain ⟨blanks, cursor, after, htokens, -, -, hstart⟩ :=
    (string_ends {} .single).2 inside "\t b' c".toList rfl (by decide)
  obtain ⟨-, -, -, hread⟩ := (string_ends {} .single).1 hcarried
  exact ⟨((string_ends {} .double).1 hclosed).2.2.1 ⟨_, hcloses⟩, (hread hopen).1,
    (hread hopen).2.1, blanks, cursor, after, htokens, hstart⟩

end SyntaxMode
