import SyntaxMode.Proofs.Nesting.Kinds
import SyntaxMode.Proofs.Token.Reading

/-!
# Contexts of unclosed brackets

Where no word opens an arm and each bracket that closes pairs with the innermost open one, the open
contexts are blocks, one for each bracket that is still open (`Follows.kinds`). So a context is
popped by the bracket that pairs with the one which pushed it (`Follows.poppedBy_iff`). `Follows`
relates a state, the readings that begin in it one after the other, and the state behind them; what
is open at a place in a text is found by splitting the readings there.
-/

namespace SyntaxMode

/-- Readings that follow one another, and the states before and behind them. -/
inductive Follows (config : Config) : State → List Reading → State → Prop where
  | nil (state : State) : Follows config state [] state
  | cons {line : Nat} {cursor : Cursor} {state after : State} {rest : List Reading}
      (hne : cursor.ahead ≠ [])
      (hrest : Follows config (Token.read config cursor state).after rest after) :
      Follows config state (Reading.read config line cursor state :: rest) after

/-- The fragments of readings. -/
def fragmentsOf (run : List Reading) : List Fragment :=
  run.map fun reading => reading.token.fragment

/-- Whether a reading pushes a context that is still open behind each of some further readings, and
no more behind the one that comes next. A token opens one context at most and closes only the
innermost one (`Reading.cases_read`), so a context stays the one of its level as long as more are
open than around it. -/
def Reading.PoppedBy (opener : Reading) (between : List Reading) (closer : Reading) : Prop :=
  opener.before.depth < opener.token.after.depth ∧
    (∀ reading ∈ between, opener.before.depth < reading.token.after.depth) ∧
    closer.token.after.depth ≤ opener.before.depth

instance (opener : Reading) (between : List Reading) (closer : Reading) :
    Decidable (opener.PoppedBy between closer) :=
  inferInstanceAs (Decidable (_ ∧ _ ∧ _))

@[simp] theorem fragmentsOf_cons (reading : Reading) (rest : List Reading) :
    fragmentsOf (reading :: rest) = reading.token.fragment :: fragmentsOf rest := rfl

@[simp] theorem fragmentsOf_append (front behind : List Reading) :
    fragmentsOf (front ++ behind) = fragmentsOf front ++ fragmentsOf behind := List.map_append

/-- Readings with one more bracket open around them do not need that bracket, or one of them closes
it behind balanced ones. -/
theorem unclosed?_fragmentsOf_around {run : List Reading} {delimiter : Delimiter}
    {outer next : List Delimiter}
    (h : unclosed? (delimiter :: outer) (fragmentsOf run) = some next) :
    (∃ inner, unclosed? [] (fragmentsOf run) = some inner ∧ next = inner ++ delimiter :: outer) ∨
      ∃ front reading back, run = front ++ reading :: back ∧
        reading.token.fragment.effect? = some (.closing delimiter) ∧
        Balanced (fragmentsOf front) := by
  have haround : unclosed? ([] ++ delimiter :: outer) (fragmentsOf run) = some next := h
  rcases unclosed?_around haround with hleft | ⟨inside, closer, rest, hsplit, hcloser, hinside⟩
  · exact .inl hleft
  · obtain ⟨front, tail, rfl, rfl, htail⟩ := List.map_eq_append_iff.1 hsplit
    obtain ⟨reading, back, rfl, rfl, -⟩ := List.map_eq_cons_iff.1 htail
    exact .inr ⟨front, reading, back, rfl, hcloser, hinside⟩

/-! ## Readings of a text -/

section
variable {config : Config} {state after : State}

/-- Readings that follow a state may be cut in two, at the state between. -/
theorem Follows.append_iff {front behind : List Reading} :
    Follows config state (front ++ behind) after ↔
      ∃ middle, Follows config state front middle ∧ Follows config middle behind after := by
  constructor
  · intro h
    induction front generalizing state with
    | nil => exact ⟨state, .nil state, h⟩
    | cons reading front ih =>
      cases h with
      | cons hne hrest =>
        obtain ⟨middle, hfront, hbehind⟩ := ih hrest
        exact ⟨middle, .cons hne hfront, hbehind⟩
  · rintro ⟨middle, hfront, hbehind⟩
    induction hfront with
    | nil => exact hbehind
    | cons hne _ ih => exact .cons hne (ih hbehind)

/-- The tokens of a line follow the state in which the line begins. -/
theorem follows_tokens (config : Config) (line : Nat) (cursor : Cursor) (state : State) :
    Follows config state (tokenReadings line cursor state (tokens config cursor state))
      (stateAfter state (tokens config cursor state)) := by
  fun_induction tokens config cursor state with
  | case1 cursor state _ => exact .nil state
  | case2 cursor state hne token ih =>
    rw [stateAfter_cons]
    exact .cons hne ih

/-- The readings of lines follow one another. -/
theorem follows_readings (config : Config) (line : Nat) (state : State) (texts : List Text) :
    Follows config state (readings config line state texts) (stateBehind config state texts) := by
  induction texts generalizing line state with
  | nil => exact .nil state
  | cons text texts ih =>
    exact Follows.append_iff.2 ⟨_, follows_tokens config line _ state, ih (line + 1) _⟩

end

/-! ## What is open -/

/-- A block stays what it is under a change that blocks do not know. -/
theorem Context.Kind.modifyHead_map_block {turn : Kind → Kind}
    (h : ∀ delimiter, turn (.block delimiter) = .block delimiter) (opened : List Delimiter) :
    (opened.map Kind.block).modifyHead turn = opened.map .block := by
  cases opened with
  | nil => rfl
  | cons delimiter outer => exact congrArg (· :: outer.map .block) (h delimiter)

/-- A fragment that pairs with the open brackets does to blocks what it does to these. -/
theorem Mark.follow_map_block {fragment : Fragment} {opened next : List Delimiter}
    (harm : fragment.effect? ≠ some .arm) (hnext : fragment.unclosed? opened = some next) :
    follow (opened.map .block) (.lexeme fragment) = next.map .block := by
  have hmark : (Mark.lexeme fragment).effect? = fragment.effect? := rfl
  rw [Fragment.unclosed?] at hnext
  cases heffect : fragment.effect? with
  | none =>
    rw [heffect] at hmark hnext
    cases hnext
    rw [follow_of_effect _ (.inl hmark)]
    refine Context.Kind.modifyHead_map_block (fun delimiter => ?_) opened
    simp [Context.Kind.turn, hmark]
  | some effect =>
    rw [heffect] at hmark hnext
    cases effect with
    | arm => exact absurd heffect harm
    | opening delimiter =>
      cases hnext
      exact follow_of_opening _ hmark
    | closing delimiter =>
      rw [Effect.unclosed?_closing_eq_some_iff.1 hnext, follow_of_closing _ hmark, List.map_cons,
        Context.Kind.close, if_pos rfl]

/-- A token that pairs with the open brackets does to the contexts what it does to these. -/
theorem Token.kinds_read {config : Config} {cursor : Cursor} {state : State}
    {opened next : List Delimiter} (hkinds : state.nesting.kinds = opened.map .block)
    (harm : (read config cursor state).fragment.effect? ≠ some .arm)
    (hnext : (read config cursor state).fragment.unclosed? opened = some next) :
    (read config cursor state).after.nesting.kinds = next.map .block := by
  have hentered : (state.atCursor config.tabSize cursor).nesting.kinds = opened.map .block := by
    rw [State.atCursor]
    split
    · have hkind : (state.nesting.modify Context.atLineStart).kinds =
          state.nesting.kinds.modifyHead Context.Kind.endArm :=
        state.nesting.kinds_modify fun _ => rfl
      refine hkind.trans ?_
      rw [hkinds]
      exact Context.Kind.modifyHead_map_block (fun _ => rfl) opened
    · exact hkinds
  rcases nesting_read config state cursor with ⟨hnone, hnesting⟩ | ⟨opening, hopening, hnesting⟩
  · rw [Fragment.unclosed?, hnone] at hnext
    cases hnext
    rw [hnesting, hentered]
  · rw [hnesting, Nesting.kinds_follow _ _ hopening, hentered]
    exact Mark.follow_map_block harm hnext

section
variable {config : Config} {state after : State} {run : List Reading}
  {opened next : List Delimiter}

/-- **The open contexts are those of the unclosed brackets.** -/
theorem Follows.kinds (h : Follows config state run after)
    (hkinds : state.nesting.kinds = opened.map .block)
    (harm : ∀ reading ∈ run, reading.token.fragment.effect? ≠ some .arm)
    (hnext : unclosed? opened (fragmentsOf run) = some next) :
    after.nesting.kinds = next.map .block := by
  induction h generalizing opened with
  | nil =>
    cases hnext
    exact hkinds
  | cons hne _ ih =>
    rw [fragmentsOf_cons, unclosed?_cons, Option.bind_eq_some_iff] at hnext
    obtain ⟨middle, hmiddle, hrest⟩ := hnext
    exact ih (Token.kinds_read hkinds (harm _ List.mem_cons_self) hmiddle)
      (fun reading hreading => harm reading (List.mem_cons_of_mem _ hreading)) hrest

/-- As many contexts are open before a reading and behind it as brackets are unclosed. -/
theorem Follows.depths (front : List Reading) (reading : Reading) (behind : List Reading)
    (h : Follows config state (front ++ reading :: behind) after)
    (hkinds : state.nesting.kinds = opened.map .block)
    (harm : ∀ other ∈ front ++ reading :: behind, other.token.fragment.effect? ≠ some .arm)
    (hnext : unclosed? opened (fragmentsOf (front ++ reading :: behind)) = some next) :
    ∃ before middle, unclosed? opened (fragmentsOf front) = some before ∧
      reading.token.fragment.unclosed? before = some middle ∧
      reading.before.depth = before.length ∧ reading.token.after.depth = middle.length := by
  have hdepth {state : State} {opened : List Delimiter}
      (hkinds : state.nesting.kinds = opened.map .block) : state.depth = opened.length := by
    have hlength := congrArg List.length hkinds
    rwa [Nesting.kinds, List.length_map, List.length_map] at hlength
  rw [fragmentsOf_append, unclosed?_append, Option.bind_eq_some_iff] at hnext
  obtain ⟨before, hbefore, hnext⟩ := hnext
  rw [fragmentsOf_cons, unclosed?_cons, Option.bind_eq_some_iff] at hnext
  obtain ⟨middle, hmiddle, -⟩ := hnext
  obtain ⟨start, hfront, hreading⟩ := Follows.append_iff.1 h
  have hstart := hfront.kinds hkinds
    (fun other hother => harm other (List.mem_append_left _ hother)) hbefore
  cases hreading with
  | cons hne hbehind =>
    have hafter := Token.kinds_read hstart
      (harm _ (List.mem_append_right _ List.mem_cons_self)) hmiddle
    exact ⟨before, middle, hbefore, hmiddle, hdepth hstart, hdepth hafter⟩

/-- Behind a bracket that opens, one more context is open, and so one more bracket is unclosed. -/
theorem Follows.depths_of_opening {opener : Reading} {run : List Reading} {delimiter : Delimiter}
    (h : Follows config state (opener :: run) after)
    (hkinds : state.nesting.kinds = opened.map .block)
    (harm : ∀ reading ∈ opener :: run, reading.token.fragment.effect? ≠ some .arm)
    (hnext : unclosed? opened (fragmentsOf (opener :: run)) = some next)
    (hopener : opener.token.fragment.effect? = some (.opening delimiter)) :
    opener.before.depth = opened.length ∧ opener.token.after.depth = opened.length + 1 ∧
      ∀ front reading behind, run = front ++ reading :: behind →
        ∃ before middle, unclosed? (delimiter :: opened) (fragmentsOf front) = some before ∧
          reading.token.fragment.unclosed? before = some middle ∧
          reading.token.after.depth = middle.length := by
  have hpush := Fragment.unclosed?_of_opening hopener opened
  obtain ⟨_, _, hnil, hopened, hbefore, hafter⟩ := Follows.depths [] opener run h hkinds harm hnext
  cases hnil
  cases hpush.symm.trans hopened
  refine ⟨hbefore, hafter, ?_⟩
  rintro front reading behind rfl
  obtain ⟨before, middle, hfront, hmiddle, -, hdepth⟩ :=
    Follows.depths (opener :: front) reading behind h hkinds harm hnext
  rw [fragmentsOf_cons, unclosed?_cons, hpush, Option.bind_some] at hfront
  exact ⟨before, middle, hfront, hmiddle, hdepth⟩

/-- **Contexts pair as brackets do.** The context that a bracket pushes is popped by the bracket
which closes behind balanced readings, and by nothing else. -/
theorem Follows.poppedBy_iff {opener closer : Reading} {between rest : List Reading}
    {delimiter : Delimiter}
    (h : Follows config state (opener :: (between ++ closer :: rest)) after)
    (hkinds : state.nesting.kinds = opened.map .block)
    (harm : ∀ reading ∈ opener :: (between ++ closer :: rest),
      reading.token.fragment.effect? ≠ some .arm)
    (hnext : unclosed? opened (fragmentsOf (opener :: (between ++ closer :: rest))) = some next)
    (hopener : opener.token.fragment.effect? = some (.opening delimiter)) :
    opener.PoppedBy between closer ↔
      Balanced (fragmentsOf between) ∧
        closer.token.fragment.effect? = some (.closing delimiter) := by
  obtain ⟨hbefore, hafter, hlevel⟩ := h.depths_of_opening hkinds harm hnext hopener
  obtain ⟨before, middle, hbetween, hmiddle, hcloser⟩ := hlevel between closer rest rfl
  constructor
  · rintro ⟨-, hopen, hclosed⟩
    rw [hbefore, hcloser] at hclosed
    rcases unclosed?_fragmentsOf_around hbetween with
      ⟨inner, hinner, rfl⟩ | ⟨front, reading, back, rfl, hother, hinside⟩
    · rcases Fragment.unclosed?_around hmiddle with ⟨_, -, rfl⟩ | ⟨rfl, -, heffect⟩
      · rw [List.length_append, List.length_cons] at hclosed
        omega
      · exact ⟨hinner, heffect⟩
    · -- A bracket between the two would pop the context before.
      obtain ⟨_, _, hfront, hreading, hdepth⟩ :=
        hlevel front reading (back ++ closer :: rest) (List.append_assoc ..)
      cases (hinside.unclosed?_eq _).symm.trans hfront
      cases (Fragment.unclosed?_of_closing hother _).symm.trans hreading
      have hlt := hopen reading (List.mem_append_right _ List.mem_cons_self)
      rw [hbefore, hdepth] at hlt
      exact absurd hlt (Nat.lt_irrefl _)
  · rintro ⟨hbalanced, heffect⟩
    cases (hbalanced.unclosed?_eq _).symm.trans hbetween
    cases (Fragment.unclosed?_of_closing heffect _).symm.trans hmiddle
    refine ⟨?_, ?_, ?_⟩
    · rw [hbefore, hafter]
      exact Nat.lt_succ_self _
    · intro reading hreading
      obtain ⟨front, back, rfl⟩ := List.append_of_mem hreading
      obtain ⟨_, _, hfront, hreading, hdepth⟩ :=
        hlevel front reading (back ++ closer :: rest) (List.append_assoc ..)
      -- The brackets that are open between the two are open inside the one that opens.
      rw [Balanced, fragmentsOf_append, unclosed?_append, Option.bind_eq_some_iff] at hbalanced
      obtain ⟨inner, hinner, hbalanced⟩ := hbalanced
      rw [fragmentsOf_cons, unclosed?_cons, Option.bind_eq_some_iff] at hbalanced
      obtain ⟨inner', hinner', -⟩ := hbalanced
      cases (unclosed?_frame (delimiter :: opened) hinner).symm.trans hfront
      cases (Fragment.unclosed?_frame (delimiter :: opened) hinner').symm.trans hreading
      rw [hbefore, hdepth, List.length_append, List.length_cons]
      omega
    · rw [hbefore, hcloser]

end

end SyntaxMode
