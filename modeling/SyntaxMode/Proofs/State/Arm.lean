import Mathlib.Data.List.Induction
import SyntaxMode.Proofs.Nesting.Level
import SyntaxMode.Proofs.Nesting.Within
import SyntaxMode.Proofs.State.Shape

/-!
# Arms

A `case` opens no context of its own: it makes the context in which it stands an arm. The next line
that begins in that context ends the arm, and so does the hint for a further arm; what is left is a
brace block, whatever the context was before. The settled kind of a context is the one it has when
no arm is open in it. A run of calls changes the settled kind of a context that stays open only if
an arm opens directly in it, and then to that of a brace block (`settledAt?_run`). A context is
named by its level, which it keeps while it is open. From the start of a text, runs lead to the
reachable states and to no others (`reachable_iff_exists_run`).
-/

namespace SyntaxMode

namespace Context.Kind

variable {kind : Kind}

/-- When no arm is open in them, an arm and a brace block are a brace block. -/
theorem endArm_eq_brace_iff :
    kind.endArm = .block .brace ↔ kind = .arm ∨ kind = .block .brace := by
  cases kind <;> simp [endArm]

/-- All other kinds are left by themselves only. -/
theorem endArm_eq_iff {settled : Kind} (hne : settled ≠ .block .brace) (harm : settled ≠ .arm) :
    kind.endArm = settled ↔ kind = settled := by
  cases kind with
  | arm => exact iff_of_false hne.symm harm.symm
  | outside | block => rfl

end Context.Kind

namespace State

/-- A call to the reader: for the next token from a cursor, or for the hint for a line. -/
inductive Call where
  | read (tabSize : UInt32) (cursor : Cursor)
  | indent (text : Text)

/-- The state behind a call. -/
def call (config : Config) (state : State) : Call → State
  | .read tabSize cursor => (Token.read { config with tabSize } cursor state).after
  | .indent text => (state.indent config text).2

/-- The state behind calls that are made one after the other. -/
def run (config : Config) (state : State) (calls : List Call) : State :=
  calls.foldl (call config) state

/-- What the token that a call reads does to the contexts. -/
def Call.effect? (config : Config) (state : State) : Call → Option Effect
  | .read tabSize cursor => (Token.read { config with tabSize } cursor state).fragment.effect?
  | .indent _ => none

/-- Whether the context on a level is there all along. -/
def StaysOpen (config : Config) (level : Nat) : State → List Call → Prop
  | state, [] => level ≤ state.depth
  | state, call :: calls =>
    level ≤ state.depth ∧ StaysOpen config level (state.call config call) calls

/-- Whether an arm opens directly in the context on a level. -/
def OpensArmAt (config : Config) (level : Nat) : State → List Call → Prop
  | _, [] => False
  | state, call :: calls =>
    call.effect? config state = some .arm ∧ level = state.depth ∨
      OpensArmAt config level (state.call config call) calls

section
variable (config : Config) (level : Nat)

instance decidableStaysOpen : ∀ state calls, Decidable (StaysOpen config level state calls)
  | _, [] => Nat.decLe ..
  | state, call :: calls =>
    have := decidableStaysOpen (state.call config call) calls
    inferInstanceAs (Decidable (_ ∧ _))

instance decidableOpensArmAt : ∀ state calls, Decidable (OpensArmAt config level state calls)
  | _, [] => instDecidableFalse
  | state, call :: calls =>
    have := decidableOpensArmAt (state.call config call) calls
    inferInstanceAs (Decidable (_ ∧ _ ∨ _))

end

/-- The last call of a run comes behind the run of the others. -/
theorem run_append_singleton (config : Config) (state : State) (calls : List Call) (last : Call) :
    state.run config (calls ++ [last]) = (state.run config calls).call config last :=
  List.foldl_append

/-- The states that calls lead to from the start of a text are the reachable ones. -/
theorem reachable_iff_exists_run {config : Config} {base : UInt32} {state : State} :
    Reachable config base state ↔ ∃ calls, (start config base).run config calls = state := by
  constructor
  · intro h
    induction h with
    | start => exact ⟨[], rfl⟩
    | read tabSize cursor _ ih =>
      obtain ⟨calls, rfl⟩ := ih
      exact ⟨calls ++ [.read tabSize cursor], run_append_singleton ..⟩
    | indent text _ ih =>
      obtain ⟨calls, rfl⟩ := ih
      exact ⟨calls ++ [.indent text], run_append_singleton ..⟩
  · rintro ⟨calls, rfl⟩
    induction calls using List.reverseRecOn with
    | nil => exact .start
    | append_singleton calls call ih =>
      rw [run_append_singleton]
      cases call with
      | read tabSize cursor => exact .read tabSize cursor ih
      | indent text => exact .indent text ih

/-! ## Settled kinds -/

/-- The kind that the context on a level has when no arm is open in it. -/
def settledAt? (state : State) (level : Nat) : Option Context.Kind :=
  (state.nesting.kindAt? level).map Context.Kind.endArm

section
variable {config : Config} {level : Nat}

@[simp] theorem depth_atCursor (tabSize : UInt32) (cursor : Cursor) (state : State) :
    (state.atCursor tabSize cursor).depth = state.depth := by
  rw [atCursor]
  split
  · exact Nesting.depth_modify ..
  · rfl

/-- At the start of a line the innermost context has settled. -/
theorem kind_context_atCursor (tabSize : UInt32) (cursor : Cursor) (state : State)
    (h : cursor.atStart = true) :
    (state.atCursor tabSize cursor).context.kind = state.context.kind.endArm := by
  rw [atCursor, if_pos h]
  exact congrArg Context.kind (Nesting.innermost_modify Context.atLineStart state.nesting)

/-- At the level of the innermost context the settled kind is that of this context. -/
theorem settledAt?_depth (state : State) :
    state.settledAt? state.depth = some state.context.kind.endArm :=
  congrArg (Option.map Context.Kind.endArm) state.nesting.kindAt?_depth

/-- Where an arm ends, no settled kind changes. -/
theorem settledAt?_modify (state : State) {nesting : Nesting} {change : Context → Context}
    (hchange : ∀ context, (change context).kind = context.kind.endArm)
    (h : state.nesting = nesting.modify change) :
    state.settledAt? level = (nesting.kindAt? level).map Context.Kind.endArm := by
  rw [settledAt?, h, Nesting.kindAt?_modify nesting level hchange]
  split
  · rw [Option.map_map]
    congr 1
    funext kind
    exact kind.endArm_endArm
  · rfl

/-- The start of a line changes no settled kind. -/
theorem settledAt?_atCursor (tabSize : UInt32) (cursor : Cursor) (state : State) :
    (state.atCursor tabSize cursor).settledAt? level = state.settledAt? level := by
  rw [atCursor]
  split
  · exact settledAt?_modify _ (fun _ => rfl) rfl
  · rfl

/-- Asking for a hint changes no settled kind. -/
theorem settledAt?_indent (config : Config) (state : State) (text : Text) :
    (state.indent config text).2.settledAt? level = state.settledAt? level := by
  rw [indent]
  split
  · rfl
  · simp only
    split
    · exact settledAt?_modify _ (fun _ => rfl) rfl
    · rfl

end

end State

/-! ## Tokens -/

namespace Token

variable {config : Config} {cursor : Cursor} {state : State} {level : Nat}

/-- **What a token does to the levels.** -/
theorem settledAt?_read (config : Config) (cursor : Cursor) (state : State)
    (hlevel : level ≤ state.depth) (hafter : level ≤ (read config cursor state).after.depth) :
    (read config cursor state).after.settledAt? level =
      if (read config cursor state).fragment.effect? = some .arm ∧ level = state.depth then
        some (.block .brace)
      else state.settledAt? level := by
  have hdepth := State.depth_atCursor config.tabSize cursor state
  rw [← State.settledAt?_atCursor config.tabSize cursor state, State.settledAt?,
    State.settledAt?]
  rw [State.depth] at hafter
  obtain ⟨hnone, hnesting⟩ | ⟨opening, -, hnesting⟩ := nesting_read config state cursor
  · rw [hnone, hnesting, if_neg (by rintro ⟨⟨⟩, -⟩)]
  · rw [← hdepth] at hlevel ⊢
    rw [hnesting] at hafter ⊢
    rw [Nesting.kindAt?_follow _ hlevel hafter, apply_ite (Option.map Context.Kind.endArm)]
    rfl

/-- A token that does something to the contexts is a lexeme and no comment. -/
theorem exists_follow_read {effect : Effect}
    (h : (read config cursor state).fragment.effect? = some effect) :
    ∃ opening : Delimiter → Context, (∀ delimiter, (opening delimiter).kind = .block delimiter) ∧
      (read config cursor state).after.nesting =
        (state.atCursor config.tabSize cursor).nesting.follow none (some effect) opening := by
  obtain ⟨hnone, -⟩ | ⟨opening, hopening, hnesting⟩ := nesting_read config state cursor
  · rw [h] at hnone
    cases hnone
  · refine ⟨opening, hopening, ?_⟩
    rw [hnesting, h, Nesting.follow, if_neg (Fragment.style_ne_comment h)]
    rfl

/-- A word that opens an arm leaves all brackets open, and makes the innermost context an arm. -/
theorem context_read_of_arm (h : (read config cursor state).fragment.effect? = some .arm) :
    (read config cursor state).after.depth = state.depth ∧
      (read config cursor state).after.context.kind = .arm := by
  obtain ⟨opening, -, hnesting⟩ := exists_follow_read h
  have hdepth := State.depth_atCursor config.tabSize cursor state
  rw [State.depth, State.context, hnesting]
  refine ⟨?_, ?_⟩
  · rw [← hdepth]
    simp [Nesting.follow, State.depth]
  · simp [Nesting.follow, Context.openArm]

/-- A bracket that opens makes a context of its own. -/
theorem context_read_of_opening {delimiter : Delimiter}
    (h : (read config cursor state).fragment.effect? = some (.opening delimiter)) :
    (read config cursor state).after.depth = state.depth + 1 ∧
      (read config cursor state).after.context.kind = .block delimiter := by
  obtain ⟨opening, hopening, hnesting⟩ := exists_follow_read h
  have hdepth := State.depth_atCursor config.tabSize cursor state
  rw [State.depth, State.context, hnesting]
  refine ⟨?_, hopening delimiter⟩
  rw [← hdepth]
  simp [Nesting.follow, State.depth]

/-- A bracket that closes ends the innermost context if that is a block of its pair. -/
theorem depth_read_of_closing {delimiter : Delimiter}
    (h : (read config cursor state).fragment.effect? = some (.closing delimiter)) :
    (read config cursor state).after.depth =
      if (state.atCursor config.tabSize cursor).context.kind = .block delimiter then
        state.depth - 1
      else state.depth := by
  obtain ⟨opening, -, hnesting⟩ := exists_follow_read h
  have hdepth := State.depth_atCursor config.tabSize cursor state
  rw [← hdepth, State.depth, State.depth, hnesting, State.context]
  generalize (state.atCursor config.tabSize cursor).nesting = nesting
  have hclose := Nesting.depth_close_eq delimiter (nesting.modify Context.afterLexeme)
  rwa [Nesting.innermost_modify, Nesting.depth_modify] at hclose

end Token

namespace State

variable {config : Config} {level : Nat} {state : State}

/-! ## Calls -/

/-- What a call does to the levels. -/
theorem settledAt?_call (call : Call) (hlevel : level ≤ state.depth)
    (hafter : level ≤ (state.call config call).depth) :
    (state.call config call).settledAt? level =
      if call.effect? config state = some .arm ∧ level = state.depth then some (.block .brace)
      else state.settledAt? level := by
  cases call with
  | read tabSize cursor =>
    exact Token.settledAt?_read { config with tabSize } cursor state hlevel hafter
  | indent text =>
    have hnone : (Call.indent text).effect? config state = none := rfl
    rw [hnone, if_neg (by rintro ⟨⟨⟩, -⟩)]
    exact settledAt?_indent config state text

/-- **What a run of calls does to a level.** A context that stays open keeps its settled kind,
unless an arm opens directly in it: then it is a brace block from there on. -/
theorem settledAt?_run {calls : List Call} (h : StaysOpen config level state calls) :
    (state.run config calls).settledAt? level =
      if OpensArmAt config level state calls then some (.block .brace)
      else state.settledAt? level := by
  induction calls generalizing state with
  | nil => rfl
  | cons call calls ih =>
    obtain ⟨hlevel, hrest⟩ := h
    have hafter : level ≤ (state.call config call).depth := by
      cases calls with
      | nil => exact hrest
      | cons => exact hrest.1
    have hrun : (state.run config (call :: calls)).settledAt? level = _ := ih hrest
    have hopens : OpensArmAt config level state (call :: calls) ↔
        call.effect? config state = some .arm ∧ level = state.depth ∨
          OpensArmAt config level (state.call config call) calls := Iff.rfl
    rw [hrun, settledAt?_call call hlevel hafter]
    by_cases hrestArm : OpensArmAt config level (state.call config call) calls
    · rw [if_pos hrestArm, if_pos (hopens.2 (.inr hrestArm))]
    · rw [if_neg hrestArm]
      by_cases harm : call.effect? config state = some .arm ∧ level = state.depth
      · rw [if_pos harm, if_pos (hopens.2 (.inl harm))]
      · rw [if_neg harm, if_neg (mt hopens.1 (not_or.2 ⟨harm, hrestArm⟩))]

/-! ## The context in which a run begins -/

/-- Whether calls lead back to the context in which they begin: it stays open, and in the end it is
the innermost one again. -/
def Returns (config : Config) (state : State) (calls : List Call) : Prop :=
  StaysOpen config state.depth state calls ∧ (state.run config calls).depth = state.depth

/-- Whether an arm opens directly in the context in which calls begin. -/
def OpensArm (config : Config) (state : State) (calls : List Call) : Prop :=
  OpensArmAt config state.depth state calls

instance (config : Config) (state : State) (calls : List Call) :
    Decidable (Returns config state calls) := inferInstanceAs (Decidable (_ ∧ _))

instance (config : Config) (state : State) (calls : List Call) :
    Decidable (OpensArm config state calls) := decidableOpensArmAt ..

/-- The settled kind of the context to which calls lead back. -/
theorem Returns.endArm_kind {calls : List Call} (h : Returns config state calls) :
    (state.run config calls).context.kind.endArm =
      if OpensArm config state calls then .block .brace else state.context.kind.endArm := by
  obtain ⟨hopen, hdepth⟩ := h
  have hkind : some (state.run config calls).context.kind.endArm =
      if OpensArm config state calls then some (.block .brace)
      else some state.context.kind.endArm := by
    rw [← settledAt?_depth, ← settledAt?_depth, hdepth]
    exact settledAt?_run hopen
  rw [← apply_ite some] at hkind
  exact Option.some.inj hkind

/-- No run leaves the outside of all brackets. -/
theorem staysOpen_zero (config : Config) (state : State) (calls : List Call) :
    StaysOpen config 0 state calls := by
  induction calls generalizing state with
  | nil => exact Nat.zero_le _
  | cons call calls ih => exact ⟨Nat.zero_le _, ih _⟩

/-- Outside all brackets the settled kind is that of a brace block once an arm has opened there. -/
theorem endArm_kind_outside_run (config : Config) (base : UInt32) (calls : List Call) :
    ((start config base).run config calls).nesting.outside.kind.endArm =
      if OpensArm config (start config base) calls then .block .brace else .outside := by
  have hrun := settledAt?_run (staysOpen_zero config (start config base) calls)
  have hstart : (start config base).settledAt? 0 = some .outside := rfl
  rw [hstart, ← apply_ite some] at hrun
  exact Option.some.inj hrun

/-! ## Parentheses and brackets -/

section
variable {delimiter : Delimiter}

/-- Only a block of parentheses or brackets settles as one. -/
theorem endArm_kind_eq_block_iff (hne : delimiter ≠ .brace) {context : Context} :
    context.kind.endArm = .block delimiter ↔ context.kind = .block delimiter :=
  Context.Kind.endArm_eq_iff (fun heq => hne (Context.Kind.block.inj heq)) Context.Kind.noConfusion

/-- A closing parenthesis or bracket ends the innermost context if that is a block of its pair. -/
theorem depth_call_of_closing {call : Call} (hne : delimiter ≠ .brace)
    (h : call.effect? config state = some (.closing delimiter)) :
    (state.call config call).depth =
      if state.context.kind = .block delimiter then state.depth - 1 else state.depth := by
  cases call with
  | read tabSize cursor =>
    have hentered : (state.atCursor tabSize cursor).context.kind = .block delimiter ↔
        state.context.kind = .block delimiter := by
      cases hstart : cursor.atStart with
      | false => rw [atCursor_of_atStart_eq_false _ _ _ hstart]
      | true => rw [kind_context_atCursor _ _ _ hstart, endArm_kind_eq_block_iff hne]
    have hread : (state.call config (.read tabSize cursor)).depth = _ :=
      Token.depth_read_of_closing h
    exact hread.trans (if_congr hentered rfl rfl)
  | indent text => cases h

end

/-- **An arm lasts until the next line.** The word that opens an arm makes the context in which it
stands an arm. Where a later line begins in that context, it is a brace block, whatever it was
before. So the outside of all brackets stays what it is until an arm opens directly in it, and a
parenthesis or a bracket that opens makes a block that stays what it is until an arm opens directly
in it; its closing bracket ends it until then and does nothing from then on. -/
theorem arm_until_line (config : Config) :
    (∀ state (word : Call), word.effect? config state = some .arm →
      let tagged := state.call config word
      tagged.depth = state.depth ∧ tagged.context.kind = .arm ∧
        ∀ calls, Returns config tagged calls → ∀ tabSize cursor, cursor.atStart = true →
          ((tagged.run config calls).atCursor tabSize cursor).context.kind = .block .brace) ∧
    (∀ base calls,
      let outside := ((start config base).run config calls).nesting.outside
      (¬OpensArm config (start config base) calls → outside.kind = .outside) ∧
      (OpensArm config (start config base) calls →
        outside.kind = .arm ∨ outside.kind = .block .brace)) ∧
    (∀ state (opener : Call) delimiter, delimiter ≠ .brace →
      opener.effect? config state = some (.opening delimiter) →
      let opened := state.call config opener
      opened.depth = state.depth + 1 ∧ opened.context.kind = .block delimiter ∧
        ∀ calls, Returns config opened calls →
          let later := opened.run config calls
          (¬OpensArm config opened calls → later.context.kind = .block delimiter ∧
            ∀ closer : Call, closer.effect? config later = some (.closing delimiter) →
              (later.call config closer).depth = state.depth) ∧
          (OpensArm config opened calls →
            (later.context.kind = .arm ∨ later.context.kind = .block .brace) ∧
            ∀ closer : Call, closer.effect? config later = some (.closing delimiter) →
              (later.call config closer).depth = opened.depth)) := by
  refine ⟨?_, ?_, ?_⟩
  · intro state word hword tagged
    obtain ⟨hdepth, hkind⟩ : tagged.depth = state.depth ∧ tagged.context.kind = .arm := by
      cases word with
      | read tabSize cursor => exact Token.context_read_of_arm hword
      | indent text => cases hword
    refine ⟨hdepth, hkind, ?_⟩
    intro calls hreturns tabSize cursor hstart
    rw [kind_context_atCursor _ _ _ hstart, hreturns.endArm_kind, hkind]
    exact ite_self _
  · intro base calls outside
    have hsettled : outside.kind.endArm = _ := endArm_kind_outside_run config base calls
    refine ⟨?_, ?_⟩
    · intro hnone
      rw [if_neg hnone] at hsettled
      rwa [Context.Kind.endArm_eq_iff Context.Kind.noConfusion Context.Kind.noConfusion]
        at hsettled
    · intro harm
      rw [if_pos harm] at hsettled
      exact Context.Kind.endArm_eq_brace_iff.1 hsettled
  · intro state opener delimiter hne hopener opened
    obtain ⟨hopened, hkind⟩ :
        opened.depth = state.depth + 1 ∧ opened.context.kind = .block delimiter := by
      cases opener with
      | read tabSize cursor => exact Token.context_read_of_opening hopener
      | indent text => cases hopener
    refine ⟨hopened, hkind, ?_⟩
    intro calls hreturns later
    have hdepth : later.depth = opened.depth := hreturns.2
    have hsettled : later.context.kind.endArm = _ := hreturns.endArm_kind
    refine ⟨?_, ?_⟩
    · intro hnone
      rw [if_neg hnone, hkind] at hsettled
      have hlater := (endArm_kind_eq_block_iff hne).1 hsettled
      refine ⟨hlater, ?_⟩
      intro closer hcloser
      rw [depth_call_of_closing hne hcloser, if_pos hlater, hdepth, hopened]
      rfl
    · intro harm
      rw [if_pos harm] at hsettled
      refine ⟨Context.Kind.endArm_eq_brace_iff.1 hsettled, ?_⟩
      intro closer hcloser
      have hother : later.context.kind ≠ .block delimiter := by
        intro hlater
        rw [(endArm_kind_eq_block_iff hne).2 hlater] at hsettled
        exact hne (Context.Kind.block.inj hsettled)
      rw [depth_call_of_closing hne hcloser, if_neg hother, hdepth]

/-- The theorem for an arm in a parenthesis and for one outside all brackets. The next line begins
in a brace block, the kind outside all brackets has changed, and the parenthesis that closes closes
nothing. -/
theorem arm_until_line_parenthesis :
    let read (text : String) : Call := .read 4 (Cursor.ofLine text.toList)
    let opened := (start {} 0).call {} (read "(")
    let tagged := opened.call {} (read "case")
    let later := opened.run {} [read "case", read "x"]
    Returns {} tagged [] ∧
      (tagged.atCursor 4 (Cursor.ofLine "x".toList)).context.kind = .block .brace ∧
      (OpensArm {} (start {} 0) [read "case"] ∧
        ((start {} 0).run {} [read "case"]).nesting.outside.kind ≠ .outside) ∧
      OpensArm {} opened [read "case", read "x"] ∧ (later.call {} (read ")")).depth = 1 := by
  intro read opened tagged later
  obtain ⟨hword, houtside, hopener⟩ := arm_until_line {}
  have hreturns : Returns {} tagged [] := by decide +kernel
  have hnext := (hword opened (read "case") (by decide +kernel)).2.2 [] hreturns 4
    (Cursor.ofLine "x".toList) rfl
  have harm : OpensArm {} (start {} 0) [read "case"] := by decide +kernel
  have hkind := (houtside 0 [read "case"]).2 harm
  have hinside : OpensArm {} opened [read "case", read "x"] := by decide +kernel
  have hclosed := (hopener (start {} 0) (read "(") .paren Delimiter.noConfusion
    (by decide +kernel)).2.2 [read "case", read "x"] (by decide +kernel)
  refine ⟨hreturns, hnext, ⟨harm, ?_⟩, hinside, ?_⟩
  · rcases hkind with hkind | hkind
    · rw [hkind]
      exact Context.Kind.noConfusion
    · rw [hkind]
      exact Context.Kind.noConfusion
  · exact (hclosed.2 hinside).2 (read ")") (by decide +kernel)

/-- An arm keeps no memory of what the context was before. In a parenthesis on the lines `(` and
`case`, the next line begins inside a brace block, so that `)` closes nothing; and outside all
brackets a `case` leaves a brace block as well. -/
theorem arm_forgets_parenthesis :
    let read (text : String) : Call := .read 4 (Cursor.ofLine text.toList)
    let opened := (start {} 0).call {} (read "(")
    let tagged := opened.call {} (read "case")
    let later := tagged.call {} (read "x")
    (opened.context.kind = .block .paren ∧ (read "case").effect? {} opened = some .arm ∧
      tagged.context.kind = .arm ∧ Returns {} opened [read "case", read "x"]) ∧
      (tagged.atCursor 4 (Cursor.ofLine "x".toList)).context.kind ≠ opened.context.kind ∧
      later.context.kind = .block .brace ∧
      ((read ")").effect? {} later = some (.closing .paren) ∧
        (later.call {} (read ")")).depth = later.depth) ∧
      ((start {} 0).run {} [read "case", read "x"]).nesting.outside.kind = .block .brace := by
  decide +kernel

end State

end SyntaxMode
