import SyntaxMode.Proofs.Document.Emptied
import SyntaxMode.Proofs.Nesting.Level
import SyntaxMode.Proofs.Nesting.Openers
import SyntaxMode.Proofs.Nesting.Within
import SyntaxMode.Proofs.Reindent.Depth

/-!
# Lines that close a context

The hint for a line looks at the first character of its text, and takes the line to close the
innermost context if that is the closing bracket. The reader passes the blanks of the line, enters
it, and reads a lexeme, which closes the context if it is such a bracket. Both come to the same
(`indent_closing`). From there on the reader has the indentation of the context that it closed, and
gives it to the brackets that open on the same line. `State.Regains` is the invariant for the rest
of the line: brackets that open and close there leave the indentation as it is, and one that closes
a further context of those before the line brings its indentation (`State.Regains.read`). So a
bracket that opens takes the indentation of the last of these contexts that was closed before it,
which need not be the one that the line starts by closing (`indented_opener_ne`).
-/

namespace SyntaxMode

/-- What is open, and which indentation the reader has, on a line on which contexts were closed
that had been open before it. `earlier` are the indentations of all contexts before the line,
innermost first, and `kept` those of the ones that are still open. The last one closed has given
the reader its indentation, and so have the brackets opened since. -/
structure State.Regains (earlier kept : List Int32) (state : State) : Prop where
  given : ∃ closed, earlier = closed ++ state.indented :: kept
  inside : ∃ count, state.nesting.opened.map Context.indented =
    List.replicate count state.indented ++ kept

/-- The least number of open brackets behind a token or one of those that follow it. -/
def lowestDepth (first : Token) (rest : List Token) : Nat :=
  (rest.map fun token => token.after.depth).foldl min first.after.depth

/-! ## The first lexeme of a line -/

/-- The first lexeme of a line is read in a state that has entered the line. -/
theorem exists_first_lexeme (config : Config) (state : State) {text : Text}
    (htext : text.trimStart ≠ []) :
    ∃ first cursor,
      (lineTokens config state text).dropWhile (fun token => token.fragment.isBlank) =
        first :: tokens config first.cursor first.after ∧
      first.cursor.atStart = false ∧
      first.after =
        (state.enterLine (Column.ofText config.tabSize (text.takeWhile isBlank))).afterLexeme
          config.tabSize cursor (Lexeme.scan state.region text.trimStart) := by
  obtain ⟨blanks, cursor, before, htokens, -, hblanks, hahead, hregion, hentered⟩ :=
    exists_lineTokens_eq_append config state htext
  have hblank : cursor.ahead.blankRun = 0 := by
    rw [hahead]
    exact Text.blankRun_trimStart text
  have hne : cursor.ahead ≠ [] := hahead ▸ htext
  have hisBlank := Token.isBlank_fragment_of_blankRun_eq_zero config before hblank hne
  have hread := Token.read_of_blankRun_eq_zero config before hblank
  refine ⟨Token.read config cursor before, cursor.begin, ?_, ?_, ?_⟩
  · rw [htokens, List.dropWhile_append_of_pos fun token htoken => (hblanks token htoken).1,
      tokens_of_ahead_ne_nil config before hne, List.dropWhile_cons_of_neg (by simp [hisBlank])]
  · exact Token.atStart_cursor_read config before hne
  · rw [hread, hentered, hregion, hahead]

/-- A lexeme lowers the depth only if it closes the innermost bracket. -/
theorem Nesting.depth_le_follow {nesting : Nesting} {style : Option Style}
    {effect? : Option Effect}
    {opening : Delimiter → Context}
    (h : ∀ delimiter, effect? = some (.closing delimiter) →
      nesting.innermost.kind ≠ .block delimiter) :
    nesting.depth ≤ (nesting.follow style effect? opening).depth := by
  unfold follow
  split
  · exact Nat.le_refl _
  · cases effect? with
    | none => simp
    | some effect =>
      cases effect with
      | opening delimiter => simp
      | arm => simp
      | closing delimiter =>
        have hkind : (nesting.modify Context.afterLexeme).innermost.kind ≠ .block delimiter := by
          rw [innermost_modify]
          exact h delimiter rfl
        simp only [depth_close_eq, if_neg hkind, depth_modify, Nat.le_refl]

section
variable {context : Context} {delimiter : Delimiter}

/-- A text closes the context of a bracket if its first lexeme is the closing bracket. -/
theorem Context.isClosedBy_iff {text : Text} (hkind : context.kind = .block delimiter) :
    context.isClosedBy text = true ↔
      (Lexeme.scan .code text).effect = some (.closing delimiter) := by
  have heffect : (Lexeme.scan .code text).effect = some (.closing delimiter) ↔
      text.head? = some delimiter.closer := Lexeme.effect_scanCode_eq_closing_iff
  rw [heffect, isClosedBy, hkind]
  exact beq_iff_eq

/-- A line that begins leaves the context of a bracket one of that bracket. -/
theorem Context.kind_atLineStart_of_block (hkind : context.kind = .block delimiter) :
    context.atLineStart.kind = .block delimiter := by
  rw [atLineStart, endArm, hkind]
  rfl

end

namespace State

variable {state : State} {text : Text} {outer : Nesting} {context : Context}
  {delimiter : Delimiter} (tabSize : UInt32) (cursor : Cursor) (indentation : Column)

/-- Where a bracket is open, its context is the innermost one. -/
theorem exists_push_of_depth_pos (h : 0 < state.depth) :
    ∃ outer : Nesting, state.nesting = outer.push state.context := by
  obtain ⟨region, ⟨outside, _ | ⟨context, opened⟩⟩, indented, freshLine⟩ := state
  · exact absurd h (Nat.lt_irrefl 0)
  · exact ⟨⟨outside, opened⟩, rfl⟩

/-- The lexeme at the start of a text that closes a context ends it. -/
theorem afterLexeme_of_isClosedBy (hnesting : state.nesting = outer.push context)
    (hkind : context.kind = .block delimiter) (hclosed : context.isClosedBy text = true) :
    let after := (state.enterLine indentation).afterLexeme tabSize cursor (Lexeme.scan .code text)
    after.nesting = outer ∧ after.indented = context.indented := by
  have heffect := (Context.isClosedBy_iff hkind).1 hclosed
  have hstyle : (Lexeme.scan .code text).style ≠ some .comment := by
    have hfragment := Lexeme.effect_scan .code text
    rw [heffect] at hfragment
    exact Fragment.style_ne_comment hfragment.symm
  have hentered : (state.enterLine indentation).nesting = outer.push context.atLineStart := by
    rw [enterLine, hnesting, Nesting.modify_push]
  intro after
  rw [show after = _ from afterLexeme_of_closing hstyle heffect hentered
    (Context.kind_atLineStart_of_block hkind)]
  exact ⟨rfl, rfl⟩

/-- Another lexeme leaves all brackets open. -/
theorem depth_le_of_not_isClosedBy (hkind : state.context.kind = .block delimiter)
    (hclosed : ¬ state.context.isClosedBy text = true) :
    state.depth ≤ ((state.enterLine indentation).afterLexeme tabSize cursor
      (Lexeme.scan .code text)).depth := by
  have hdepth : (state.enterLine indentation).nesting.depth = state.depth :=
    Nesting.depth_modify ..
  rw [← hdepth, depth, nesting_afterLexeme]
  refine Nesting.depth_le_follow ?_
  intro other heffect hother
  have hinner : state.context.atLineStart.kind = .block other :=
    (congrArg Context.kind (context_enterLine indentation state)).symm.trans hother
  cases (Context.kind_atLineStart_of_block hkind).symm.trans hinner
  exact hclosed ((Context.isClosedBy_iff hkind).2 heffect)

end State

/-! ## The rest of the line -/

/-- A line that has a token ahead has not ended. -/
theorem ahead_ne_nil_of_tokens_eq {config : Config} {cursor : Cursor} {state : State}
    {between more : List Token} {token : Token}
    (h : tokens config cursor state = between ++ token :: more) : cursor.ahead ≠ [] := by
  intro hnil
  rw [tokens_of_ahead_eq_nil config state hnil] at h
  simp at h

/-- Where no token leaves fewer brackets open than the first, the first leaves the fewest open. -/
theorem lowestDepth_eq {first : Token} {rest : List Token}
    (h : ∀ token ∈ rest, first.after.depth ≤ token.after.depth) :
    lowestDepth first rest = first.after.depth := by
  induction rest with
  | nil => rfl
  | cons token rest ih =>
    obtain ⟨htoken, hrest⟩ := List.forall_mem_cons.1 h
    rw [lowestDepth, List.map_cons, List.foldl_cons, Nat.min_eq_left htoken]
    exact ih hrest

/-- A change that keeps the indentation of the innermost context changes no indentations. -/
theorem Nesting.map_indented_modify {change : Context → Context} (nesting : Nesting)
    (h : ∀ context, (change context).indented = context.indented) :
    (nesting.modify change).opened.map Context.indented =
      nesting.opened.map Context.indented := by
  obtain ⟨outside, _ | ⟨context, opened⟩⟩ := nesting
  · rfl
  · exact congrArg (· :: opened.map Context.indented) (h context)

namespace State.Regains

variable {state after : State} {cursor : Cursor} {earlier kept : List Int32}

/-- No more contexts are kept than are open. -/
theorem length_le_depth (h : state.Regains earlier kept) : kept.length ≤ state.depth := by
  obtain ⟨count, hinside⟩ := h.inside
  have hlength := congrArg List.length hinside
  rw [List.length_map, List.length_append] at hlength
  rw [depth, Nesting.depth]
  omega

/-- Where no context of those before the line closes, the same ones are kept. -/
theorem keep (h : state.Regains earlier kept) (count : Nat)
    (hindented : after.indented = state.indented)
    (hopened : after.nesting.opened.map Context.indented =
      List.replicate count state.indented ++ kept) :
    ∃ kept', after.Regains earlier kept' ∧ kept'.length = min kept.length after.depth := by
  obtain ⟨closed, hgiven⟩ := h.given
  have hafter : after.Regains earlier kept := by
    refine ⟨⟨closed, ?_⟩, count, ?_⟩
    · rw [hindented, hgiven]
    · rw [hindented, hopened]
  exact ⟨kept, hafter, (Nat.min_eq_left hafter.length_le_depth).symm⟩

/-- A bracket that closes ends a context opened on the line, or the innermost one that is kept. -/
theorem pop (h : state.Regains earlier kept) {settled : Nesting} {context : Context}
    (hsettled : settled.opened.map Context.indented = state.nesting.opened.map Context.indented)
    (hpop : settled.pop? = some (context, after.nesting))
    (hindented : after.indented = context.indented) :
    ∃ kept', after.Regains earlier kept' ∧ kept'.length = min kept.length after.depth := by
  obtain ⟨closed, hgiven⟩ := h.given
  obtain ⟨count, hinside⟩ := h.inside
  obtain ⟨outside, _ | ⟨inner, opened⟩⟩ := settled
  · cases hpop
  obtain ⟨rfl, hnesting⟩ := Prod.mk.inj (Option.some.inj hpop)
  have hopened : after.nesting.opened = opened := congrArg Nesting.opened hnesting.symm
  rw [hinside, List.map_cons] at hsettled
  cases count with
  | zero =>
    obtain rfl : inner.indented :: opened.map Context.indented = kept := hsettled
    refine ⟨opened.map Context.indented, ⟨⟨closed ++ [state.indented], ?_⟩, 0, ?_⟩, ?_⟩
    · rw [hgiven, hindented, List.append_assoc]
      rfl
    · rw [hopened]
      rfl
    · have hdepth : after.depth = opened.length := congrArg List.length hopened
      simp [hdepth]
  | succ count =>
    rw [List.replicate_succ, List.cons_append, List.cons.injEq] at hsettled
    refine h.keep count (hindented.trans hsettled.1) ?_
    rw [hopened, hsettled.2]

/-- **One more token of the line.** It closes one of the contexts before the line, or none. -/
theorem read (h : state.Regains earlier kept) (config : Config) (hstart : cursor.atStart = false)
    (hne : cursor.ahead ≠ []) :
    let after := (Token.read config cursor state).after
    ∃ kept', after.Regains earlier kept' ∧ kept'.length = min kept.length after.depth := by
  intro after
  obtain ⟨count, hinside⟩ := h.inside
  have hsettled := Nesting.map_indented_modify state.nesting
    (Reading.read config 0 cursor state).indented_settle
  have hread := Reading.cases_read config 0 state hne
  simp only [atCursor_of_atStart_eq_false _ _ _ hstart] at hread
  rcases hread with ⟨-, -, delimiter, hnesting, hindented⟩ |
    ⟨-, -, context, hpop, hindented⟩ | ⟨-, -, hnesting, hindented⟩
  · refine h.keep (count + 1) hindented ?_
    rw [show after.nesting = _ from hnesting, Nesting.push, List.map_cons, hsettled, hinside]
    rfl
  · exact h.pop hsettled hpop hindented
  · refine h.keep count hindented ?_
    rw [← hinside, ← hsettled]
    rcases hnesting with hnesting | hnesting
    · rw [show after.nesting = _ from hnesting]
    · rw [show after.nesting = _ from hnesting]
      exact Nesting.map_indented_modify _ fun _ => rfl

/-- Before each later token of the line, some contexts of those before the line are closed: as many
as the least number of open brackets tells. -/
theorem tokens {config : Config} {between more : List Token} {token : Token}
    (h : state.Regains earlier kept)
    (hstart : cursor.atStart = false)
    (hsplit : tokens config cursor state = between ++ token :: more) :
    ∃ kept' cursor' before, before.Regains earlier kept' ∧
      kept'.length = (between.map fun token => token.after.depth).foldl min kept.length ∧
      cursor'.ahead ≠ [] ∧ cursor'.atStart = false ∧ token = Token.read config cursor' before := by
  induction between generalizing cursor state kept with
  | nil =>
    have hne : cursor.ahead ≠ [] := ahead_ne_nil_of_tokens_eq hsplit
    rw [tokens_of_ahead_ne_nil config state hne] at hsplit
    obtain ⟨rfl, -⟩ := List.cons.inj hsplit
    exact ⟨kept, cursor, state, h, rfl, hne, hstart, rfl⟩
  | cons next between ih =>
    have hne : cursor.ahead ≠ [] := ahead_ne_nil_of_tokens_eq hsplit
    rw [tokens_of_ahead_ne_nil config state hne] at hsplit
    obtain ⟨rfl, hrest⟩ := List.cons.inj hsplit
    obtain ⟨kept', hnext, hlength⟩ := h.read config hstart hne
    rw [List.map_cons, List.foldl_cons, ← hlength]
    exact ih hnext (Token.atStart_cursor_read config state hne) hrest

/-- A bracket that opens takes the indentation that the reader has. -/
theorem indented_of_opening {config : Config} {delimiter : Delimiter}
    (hstart : cursor.atStart = false) (hne : cursor.ahead ≠ [])
    (hopening : (Token.read config cursor state).fragment.effect? = some (.opening delimiter)) :
    (Token.read config cursor state).after.context.indented = state.indented := by
  have hopens : (Reading.read config 0 cursor state).opens = true :=
    Fragment.opens_iff.2 ⟨delimiter, hopening⟩
  have hread := Reading.cases_read config 0 state hne
  simp only [atCursor_of_atStart_eq_false _ _ _ hstart, hopens] at hread
  rcases hread with ⟨-, -, _, hnesting, -⟩ | ⟨hfalse, -⟩ | ⟨hfalse, -⟩
  · rw [context, hnesting]
    rfl
  · cases hfalse
  · cases hfalse

end State.Regains

/-- A bracket that opens on a line which starts by closing a context takes the indentation of the
last context closed before it of those that were open before the line. -/
theorem indented_opener {config : Config} {state : State} {first opener : Token}
    {between more : List Token} {outer : Nesting} {context : Context} {delimiter : Delimiter}
    (hnesting : state.nesting = outer.push context)
    (hclosed : first.after.nesting = outer ∧ first.after.indented = context.indented)
    (hstart : first.cursor.atStart = false)
    (hsplit : tokens config first.cursor first.after = between ++ opener :: more)
    (hopening : opener.fragment.effect? = some (.opening delimiter)) :
    (state.nesting.toList[lowestDepth first between + 1]?.map Context.indented =
        some opener.after.context.indented) ∧
      ((∀ token ∈ between, first.after.depth ≤ token.after.depth) →
        opener.after.context.indented = context.indented) := by
  have hearlier : state.nesting.opened.map Context.indented =
      context.indented :: outer.opened.map Context.indented := by
    rw [hnesting]
    rfl
  have hregains : first.after.Regains (state.nesting.opened.map Context.indented)
      (outer.opened.map Context.indented) := by
    refine ⟨⟨[], ?_⟩, 0, ?_⟩
    · rw [hearlier, hclosed.2]
      rfl
    · rw [hclosed.1]
      rfl
  obtain ⟨kept, cursor, before, ⟨⟨closed, hgiven⟩, -⟩, hlength, hne, hbehind, rfl⟩ :=
    hregains.tokens hstart hsplit
  have hfirst : first.after.depth = (outer.opened.map Context.indented).length := by
    rw [State.depth, hclosed.1, List.length_map]
    rfl
  have hlowest : kept.length = lowestDepth first between := by
    rw [hlength, ← hfirst]
    rfl
  rw [State.Regains.indented_of_opening hbehind hne hopening]
  constructor
  · rw [← hlowest, ← List.getElem?_map]
    simp [Nesting.toList, hgiven]
  · intro hbetween
    rw [lowestDepth_eq hbetween, hfirst] at hlowest
    -- Both lists of indentations are behind the last one given, so that is the first.
    obtain ⟨hlast, -⟩ := List.append_inj' (show [context.indented] ++ _ = _ from
      hearlier.symm.trans (hgiven.trans (List.append_cons ..))) hlowest.symm
    cases closed with
    | nil => exact (List.cons.inj hlast).1.symm
    | cons _ closed => simp at hlast

/-- **The hint for a closing line and the reading of it.** Let a state in code be inside a bracket,
and let a text not be blank. The hint drops the step of the lines inside the bracket if and only if
the first lexeme of the text pops the context of the bracket. If so, the hint is the indentation of
the context, unless text follows the bracket on its own line, and the reader takes that indentation
over. A bracket that opens later on the line takes the indentation of the last context closed
before it of those that were open before the line. -/
theorem indent_closing (config : Config) {state : State} {text : Text} {delimiter : Delimiter}
    (hregion : state.region = .code) (hdepth : 0 < state.depth)
    (hkind : state.context.kind = .block delimiter) (htext : text.trimStart ≠ []) :
    let closes := state.context.isClosedBy text.trimStart
    ∃ first rest,
      (lineTokens config state text).dropWhile (fun token => token.fragment.isBlank) =
        first :: rest ∧
      state.indent config text =
        (.column (Column.ofSigned
          (if closes then state.context.atCloser else state.context.inside config.indentUnit)),
          state) ∧
      (closes = true ↔ state.nesting.pop? = some (state.context, first.after.nesting)) ∧
      (closes = true →
        (state.context.align ≠ some true →
          state.indent config text = (.column (Column.ofSigned state.context.indented), state)) ∧
        first.after.indented = state.context.indented ∧
        ∀ between opener more other, rest = between ++ opener :: more →
          opener.fragment.effect? = some (.opening other) →
            (state.nesting.toList[lowestDepth first between + 1]?.map Context.indented =
              some opener.after.context.indented) ∧
            ((∀ token ∈ between, first.after.depth ≤ token.after.depth) →
              opener.after.context.indented = state.context.indented)) := by
  intro closes
  obtain ⟨first, cursor, hfirst, hstart, hafter⟩ := exists_first_lexeme config state htext
  obtain ⟨outer, hnesting⟩ := State.exists_push_of_depth_pos hdepth
  have hpop : state.nesting.pop? = some (state.context, outer) := congrArg Nesting.pop? hnesting
  have hindent : state.indent config text =
      (.column (Column.ofSigned
        (if closes then state.context.atCloser else state.context.inside config.indentUnit)),
        state) := by
    have harm : state.context.kind ≠ .arm := by simp [hkind]
    rw [State.indent_of_noArm hregion harm, Context.indentation_eq]
  rw [hregion] at hafter
  have hclosed (h : closes = true) :
      first.after.nesting = outer ∧ first.after.indented = state.context.indented := by
    rw [hafter]
    exact State.afterLexeme_of_isClosedBy _ _ _ hnesting hkind h
  refine ⟨first, _, hfirst, hindent, ⟨?pops, ?popped⟩, ?closing⟩
  case pops =>
    intro h
    rw [hpop, (hclosed h).1]
  case popped =>
    intro hpopped
    by_contra hopen
    have hle := State.depth_le_of_not_isClosedBy config.tabSize cursor
      (Column.ofText config.tabSize (text.takeWhile isBlank)) hkind hopen
    rw [← hafter, State.depth] at hle
    exact absurd (Nesting.pop?_eq_some hpopped).2.2 (Nat.not_lt.2 hle)
  case closing =>
    intro h
    refine ⟨?hint, (hclosed h).2, ?openers⟩
    case hint =>
      intro halign
      rw [hindent, if_pos h, Context.atCloser, if_neg halign]
    case openers =>
      intro between opener more other hsplit hopening
      exact indented_opener hnesting (hclosed h) hstart hsplit hopening

/-- The theorem for an `else` behind a closing brace, in the brackets of a line that is indented by
two columns. -/
theorem indent_closing_else :
    let state := stateBehind {} (State.initial {}) [r"  if f(x) {".toList]
    let text : Text := '\u00a0' :: r"} else if (y) {".toList
    state.indent {} text = (.column 2, state) ∧
      ∃ first between opener,
        (lineTokens {} state text).dropWhile (fun token => token.fragment.isBlank) =
          first :: (between ++ [opener]) ∧
        state.nesting.pop? = some (state.context, first.after.nesting) ∧
        first.after.indented = 2 ∧ opener.fragment = ⟨['{'], none⟩ ∧
        opener.after.context.indented = 2 := by
  intro state text
  have hdepth : state.depth = 1 := by decide +kernel
  have hindented : state.context.indented = 2 := by decide +kernel
  have halign : state.context.align ≠ some true := by decide +kernel
  have hcloses : state.context.isClosedBy text.trimStart = true := by decide +kernel
  obtain ⟨first, rest, hfirst, -, hpops, hclosing⟩ :=
    @indent_closing {} state text .brace (by decide +kernel) (by rw [hdepth]; decide)
      (by decide +kernel) (by decide +kernel)
  obtain ⟨hhint, hafter, hopeners⟩ := hclosing hcloses
  have hpop := hpops.1 hcloses
  have hlast :
      (((lineTokens {} state text).dropWhile fun token => token.fragment.isBlank).tail.getLast?.map
        Token.fragment) = some ⟨['{'], none⟩ := by decide +kernel
  rw [hfirst, List.tail_cons, Option.map_eq_some_iff] at hlast
  obtain ⟨opener, hlast, hfragment⟩ := hlast
  obtain ⟨between, rfl⟩ := List.getLast?_eq_some_iff.1 hlast
  have hclosedDepth : first.after.depth = 0 := by
    have hlt : first.after.depth < state.depth := (Nesting.pop?_eq_some hpop).2.2
    omega
  have hopening : opener.fragment.effect? = some (.opening .brace) := by
    rw [hfragment]
    rfl
  have hopener := (hopeners between opener [] .brace rfl hopening).2 (by simp [hclosedDepth])
  rw [hindented] at hhint hafter hopener
  exact ⟨hhint halign, first, between, opener, hfirst, hpop, hafter, hfragment, hopener⟩

/-- A further context that is closed on the line brings its own indentation. Behind `f(` and, four
columns further in, `{`, the line `}) {` closes both brackets, and the one that it opens
takes the indentation of the first. -/
theorem indented_opener_ne :
    let state := stateBehind {} (State.initial {}) ["f(".toList, r"    {".toList]
    let read := lineTokens {} state r"}) {".toList
    state.region = .code ∧ 0 < state.depth ∧ state.context.kind = .block .brace ∧
      state.context.align ≠ some true ∧
      read.map Token.fragment =
        [⟨['}'], none⟩, ⟨[')'], none⟩, ⟨[' '], none⟩, ⟨['{'], none⟩] ∧
      (read.head?.map fun closer => (state.context, closer.after.nesting)) = state.nesting.pop? ∧
      (read.head?.map fun closer => closer.after.indented) = some state.context.indented ∧
      (read.getLast?.map fun opener => opener.after.context.indented) ≠
        some state.context.indented := by
  decide +kernel

end SyntaxMode
