import SyntaxMode.Proofs.Nesting.Terraced
import SyntaxMode.Proofs.Token.Reads

/-!
# The shape of reachable states

A state is reachable if tokens of any lines and hints for any texts lead to it from the start of a
text. Its contexts have a shape that no text can break: the one outside all brackets is never
popped and keeps the indentation that the text began with; the others were opened by brackets, on
lines whose indentation is not negative; and what follows a bracket is known of all but the
innermost. `Shaped` is that invariant. Tokens and hints change the innermost context in four ways,
and all of them revise it (`Context.Revises`), so one lemma (`Nesting.Shaped.modify`) serves for
all; opening and closing a bracket are the two other steps. What the shape is good for is that a
hint has to cut off a negative indentation only outside all brackets (`Shaped.lineIndentation`).
-/

namespace SyntaxMode

/-- The states to which tokens and hints lead from the start of a text that begins at a column. The
tokens may stand anywhere in any line, whatever its tab size. -/
inductive State.Reachable (config : Config) (base : UInt32) : State → Prop where
  | start : Reachable config base (State.start config base)
  | read {state : State} (tabSize : UInt32) (cursor : Cursor) (h : Reachable config base state) :
      Reachable config base (Token.read { config with tabSize } cursor state).after
  | indent {state : State} (text : Text) (h : Reachable config base state) :
      Reachable config base (state.indent config text).2

/-- Whether a context is what another one may become while it is open: the bracket it stands for
and what is known to follow it stay, and its kind may only become that of an arm or, after an arm,
that of a brace block. -/
structure Context.Revises (new old : Context) : Prop where
  indented : new.indented = old.indented
  column : new.column = old.column
  align : old.align.isSome → new.align = old.align
  kind : new.kind = old.kind ∨ new.kind = .arm ∨ new.kind = .block .brace

/-- The shape of the contexts in a text that begins at a column. -/
structure Nesting.Shaped (config : Config) (base : UInt32) (nesting : Nesting) : Prop where
  outside_indented : nesting.outside.indented.toInt =
    min base.toNat 2147483647 - min config.indentUnit.toNat 2147483647
  outside_column : nesting.outside.column = 0
  outside_align : nesting.outside.align = some false
  outside_kind : nesting.outside.kind = .outside ∨ nesting.outside.kind = .arm ∨
    nesting.outside.kind = .block .brace
  opened_indented : ∀ context ∈ nesting.opened, 0 ≤ context.indented.toInt
  opened_kind : ∀ context ∈ nesting.opened, context.kind ≠ .outside
  /-- It is known what follows each bracket but the innermost one. -/
  outer_align : ∀ context ∈ nesting.opened.tail, context.align.isSome

/-- The shape of the states in a text that begins at a column. -/
structure State.Shaped (config : Config) (base : UInt32) (state : State) : Prop where
  nesting : state.nesting.Shaped config base
  indented : 0 ≤ state.indented.toInt

/-- The signed indentation that the hint for a line with a given text is made from. -/
def State.lineIndentation (config : Config) (state : State) (text : Text) : Int32 :=
  if state.context.kind = .arm ∧ text.trimStart.startsArm then state.context.indented
  else state.context.indentation config.indentUnit text.trimStart

/-! ## Revisions -/

namespace Context

/-- Where an arm ends it becomes a brace block, and nothing else changes its kind. -/
theorem Kind.endArm_eq_or (kind : Kind) : kind.endArm = kind ∨ kind.endArm = .block .brace := by
  cases kind with
  | arm => exact .inr rfl
  | outside | block => exact .inl rfl

/-- A line that begins only revises a context. -/
theorem revises_atLineStart (context : Context) : context.atLineStart.Revises context := by
  refine ⟨rfl, rfl, ?_, context.kind.endArm_eq_or.imp_right .inr⟩
  intro halign
  obtain ⟨align, halign⟩ := Option.isSome_iff_exists.1 halign
  rw [atLineStart, halign]
  rfl

/-- A lexeme only revises a context. -/
theorem revises_afterLexeme (context : Context) : context.afterLexeme.Revises context := by
  refine ⟨rfl, rfl, ?_, .inl rfl⟩
  intro halign
  obtain ⟨align, halign⟩ := Option.isSome_iff_exists.1 halign
  rw [afterLexeme, halign]
  rfl

/-- An arm that opens only revises a context. -/
theorem revises_openArm (context : Context) : context.openArm.Revises context :=
  ⟨rfl, rfl, fun _ => rfl, .inr (.inl rfl)⟩

/-- An arm that ends only revises a context. -/
theorem revises_endArm (context : Context) : context.endArm.Revises context :=
  ⟨rfl, rfl, fun _ => rfl, context.kind.endArm_eq_or.imp_right .inr⟩

end Context

/-! ## The contexts -/

namespace Nesting

variable {config : Config} {base : UInt32} {nesting : Nesting}

/-- A text begins outside all brackets. -/
theorem shaped_start (config : Config) (base : UInt32) :
    (State.start config base).nesting.Shaped config base := by
  have hbase : (Column.toSigned base).toInt = min base.toNat 2147483647 :=
    Column.toInt_toSigned base
  have hunit : (Column.toSigned config.indentUnit).toInt =
      min config.indentUnit.toNat 2147483647 := Column.toInt_toSigned config.indentUnit
  refine ⟨?_, rfl, rfl, .inl rfl, ?_, ?_, ?_⟩
  · show (Column.toSigned base - Column.toSigned config.indentUnit).toInt = _
    rw [Int32.toInt_sub, Int.bmod_eq_of_le, hbase, hunit]
    · omega
    · omega
  all_goals
    intro context hcontext
    cases hcontext

/-- Revising the innermost context keeps the shape. -/
theorem Shaped.modify (h : nesting.Shaped config base) {change : Context → Context}
    (hchange : ∀ context, (change context).Revises context) :
    (nesting.modify change).Shaped config base := by
  obtain ⟨outside, _ | ⟨context, outer⟩⟩ := nesting
  · obtain ⟨hindented, hcolumn, halign, hkind⟩ := hchange outside
    have houtside : outside.align.isSome := by
      rw [show outside.align = some false from h.outside_align]
      rfl
    refine ⟨?_, hcolumn.trans h.outside_column, (halign houtside).trans h.outside_align, ?_,
      h.opened_indented, h.opened_kind, h.outer_align⟩
    · exact (congrArg Int32.toInt hindented).trans h.outside_indented
    · rcases hkind with hkind | hkind
      · show (change outside).kind = _ ∨ (change outside).kind = _ ∨ (change outside).kind = _
        rw [hkind]
        exact h.outside_kind
      · exact .inr hkind
  · obtain ⟨hindented, hcolumn, halign, hkind⟩ := hchange context
    refine ⟨h.outside_indented, h.outside_column, h.outside_align, h.outside_kind, ?_, ?_,
      h.outer_align⟩
    · rintro other (_ | ⟨_, hother⟩)
      · rw [hindented]
        exact h.opened_indented context List.mem_cons_self
      · exact h.opened_indented other (List.mem_cons_of_mem _ hother)
    · rintro other (_ | ⟨_, hother⟩)
      · rcases hkind with hkind | hkind | hkind
        · rw [hkind]
          exact h.opened_kind context List.mem_cons_self
        · rw [hkind]
          exact Context.Kind.noConfusion
        · rw [hkind]
          exact Context.Kind.noConfusion
      · exact h.opened_kind other (List.mem_cons_of_mem _ hother)

/-- Opening a bracket where it is known what follows the innermost one keeps the shape. -/
theorem Shaped.push (h : nesting.Shaped config base) (halign : nesting.innermost.align.isSome)
    {context : Context} (hindented : 0 ≤ context.indented.toInt)
    (hkind : context.kind ≠ .outside) :
    (nesting.push context).Shaped config base where
  outside_indented := h.outside_indented
  outside_column := h.outside_column
  outside_align := h.outside_align
  outside_kind := h.outside_kind
  opened_indented := by
    rintro other (_ | ⟨_, hother⟩)
    · exact hindented
    · exact h.opened_indented other hother
  opened_kind := by
    rintro other (_ | ⟨_, hother⟩)
    · exact hkind
    · exact h.opened_kind other hother
  outer_align := by
    obtain ⟨outside, _ | ⟨inner, outer⟩⟩ := nesting
    · intro other hother
      cases hother
    · rintro other (_ | ⟨_, hother⟩)
      · exact halign
      · exact h.outer_align other hother

/-- Closing a bracket keeps the shape, and the bracket stood on a line with an indentation that is
not negative. -/
theorem Shaped.pop? (h : nesting.Shaped config base) {closed : Context} {outer : Nesting}
    (hpop : nesting.pop? = some (closed, outer)) :
    0 ≤ closed.indented.toInt ∧ outer.Shaped config base := by
  obtain ⟨outside, _ | ⟨inner, opened⟩⟩ := nesting
  · cases hpop
  · cases hpop
    refine ⟨h.opened_indented _ List.mem_cons_self, h.outside_indented, h.outside_column,
      h.outside_align, h.outside_kind, ?_, ?_, ?_⟩
    · intro other hother
      exact h.opened_indented other (List.mem_cons_of_mem _ hother)
    · intro other hother
      exact h.opened_kind other (List.mem_cons_of_mem _ hother)
    · intro other hother
      exact h.outer_align other (List.mem_of_mem_tail hother)

/-! ## Depth -/

/-- A bracket that closes ends at most one context. -/
theorem depth_close (delimiter : Delimiter) (nesting : Nesting) :
    (nesting.close delimiter).depth ≤ nesting.depth ∧
      nesting.depth ≤ (nesting.close delimiter).depth + 1 := by
  rw [close]
  split
  · obtain ⟨outside, _ | ⟨inner, outer⟩⟩ := nesting <;> simp [Nesting.pop?, depth]
  · exact ⟨Nat.le_refl _, Nat.le_succ _⟩

/-- A lexeme opens or closes at most one bracket. -/
theorem depth_follow (style : Option Style) (effect? : Option Effect)
    (opening : Delimiter → Context) (nesting : Nesting) :
    (nesting.follow style effect? opening).depth ≤ nesting.depth + 1 ∧
      nesting.depth ≤ (nesting.follow style effect? opening).depth + 1 := by
  have hafter : (nesting.modify Context.afterLexeme).depth = nesting.depth := depth_modify ..
  simp only [follow]
  split
  · exact ⟨Nat.le_succ _, Nat.le_succ _⟩
  · cases effect? with
    | none => simp
    | some effect =>
      cases effect with
      | opening delimiter => simp only [depth_push, hafter]; omega
      | closing delimiter =>
        have hclose := depth_close delimiter (nesting.modify Context.afterLexeme)
        simp only
        omega
      | arm => simp

end Nesting

/-- A token opens or closes at most one bracket. -/
theorem Token.depth_read (config : Config) (cursor : Cursor) (state : State) :
    (read config cursor state).after.depth ≤ state.depth + 1 ∧
      state.depth ≤ (read config cursor state).after.depth + 1 := by
  have hentered : (state.atCursor config.tabSize cursor).nesting.depth = state.nesting.depth := by
    rw [State.atCursor]
    split
    · exact Nesting.depth_modify ..
    · rfl
  rw [State.depth, State.depth]
  by_cases hblank : cursor.ahead.blankRun = 0
  · rw [read_of_blankRun_eq_zero config state hblank, State.nesting_afterLexeme, ← hentered]
    exact Nesting.depth_follow ..
  · rw [read_of_blankRun_ne_zero config state hblank]
    show (state.atCursor config.tabSize cursor).nesting.depth ≤ state.nesting.depth + 1 ∧
      state.nesting.depth ≤ (state.atCursor config.tabSize cursor).nesting.depth + 1
    omega

/-! ## Steps -/

namespace State

variable {config : Config} {base : UInt32} {state : State}

/-- The state at the start of a text has the shape. -/
theorem shaped_start (config : Config) (base : UInt32) : (start config base).Shaped config base :=
  ⟨Nesting.shaped_start config base, Int.le_refl 0⟩

/-- A line that is entered keeps the shape. -/
theorem Shaped.enterLine (h : state.Shaped config base) (indentation : Column) :
    (state.enterLine indentation).Shaped config base := by
  refine ⟨h.nesting.modify Context.revises_atLineStart, ?_⟩
  show 0 ≤ indentation.toSigned.toInt
  rw [Column.toInt_toSigned]
  omega

/-- What a lexeme does to the contexts, once it is known that it follows the innermost bracket,
keeps the shape. -/
theorem Shaped.applyEffect (h : state.Shaped config base) (halign : state.context.align.isSome)
    (tabSize : UInt32) (cursor : Cursor) (effect : Effect) :
    (state.applyEffect tabSize cursor effect).Shaped config base := by
  cases effect with
  | opening delimiter =>
    exact ⟨h.nesting.push halign h.indented Context.Kind.noConfusion, h.indented⟩
  | closing delimiter =>
    rw [State.applyEffect, closeBracket]
    split
    · split
      next closed outer hpop =>
        obtain ⟨hclosed, houter⟩ := h.nesting.pop? hpop
        exact ⟨houter, hclosed⟩
      next => exact h
    · exact h
  | arm => exact ⟨h.nesting.modify Context.revises_openArm, h.indented⟩

/-- A lexeme keeps the shape. -/
theorem Shaped.afterLexeme (h : state.Shaped config base) (tabSize : UInt32) (cursor : Cursor)
    (lexeme : Lexeme) : (state.afterLexeme tabSize cursor lexeme).Shaped config base := by
  simp only [State.afterLexeme]
  split
  · exact ⟨h.nesting, h.indented⟩
  · have hfollowed : ({ state with
        region := lexeme.region
        nesting := state.nesting.modify Context.afterLexeme } : State).Shaped config base :=
      ⟨h.nesting.modify Context.revises_afterLexeme, h.indented⟩
    cases heffect : lexeme.effect with
    | none => exact ⟨hfollowed.nesting, hfollowed.indented⟩
    | some effect =>
      have hshaped := hfollowed.applyEffect (by simp [State.context, Context.afterLexeme])
        tabSize cursor effect
      exact ⟨hshaped.nesting, hshaped.indented⟩

/-- A token keeps the shape. -/
theorem Shaped.read (h : state.Shaped config base) (config' : Config) (cursor : Cursor) :
    (Token.read config' cursor state).after.Shaped config base := by
  have hentered : (state.atCursor config'.tabSize cursor).Shaped config base := by
    rw [atCursor]
    split
    · exact h.enterLine _
    · exact h
  by_cases hblank : cursor.ahead.blankRun = 0
  · rw [Token.read_of_blankRun_eq_zero config' state hblank]
    exact hentered.afterLexeme ..
  · rw [Token.read_of_blankRun_ne_zero config' state hblank]
    exact hentered

/-- Asking for a hint keeps the shape. -/
theorem Shaped.indent (h : state.Shaped config base) (config' : Config) (text : Text) :
    (state.indent config' text).2.Shaped config base := by
  rw [State.indent]
  split
  · exact h
  · simp only
    split
    · exact ⟨h.nesting.modify Context.revises_endArm, h.indented⟩
    · exact h

/-- **Reachable states are shaped.** -/
theorem Reachable.shaped (h : Reachable config base state) : state.Shaped config base := by
  induction h with
  | start => exact shaped_start config base
  | read tabSize cursor _ ih => exact ih.read { config with tabSize } cursor
  | indent text _ ih => exact ih.indent config text

/-! ## Negative indentations -/

/-- In code, the hint for a line is its signed indentation, or column 0 if that is negative. -/
theorem indent_of_code (h : state.region = .code) (text : Text) :
    (state.indent config text).1 =
      .column (Column.ofSigned (state.lineIndentation config text)) := by
  rw [indent, if_neg (fun hne => hne h), lineIndentation]
  simp only
  split <;> rfl

end State

namespace Context

/-- A sum that is not negative stays so when it is cut off at the largest word. -/
theorem toInt_addIndentation_nonneg {indentation step : Int32}
    (h : 0 ≤ indentation.toInt + step.toInt) : 0 ≤ (addIndentation indentation step).toInt := by
  by_cases hmax : indentation.toInt + step.toInt ≤ 2147483647
  · rw [Nesting.toInt_addIndentation (by omega) hmax]
    exact h
  · have hclamp : addIndentation indentation step = Int32.maxValue := by
      have hmin : Int32.minValue.toInt = -2147483648 := rfl
      have hmaxValue : Int32.maxValue.toInt = 2147483647 := rfl
      rw [addIndentation, Int32.ofIntClamp, dif_pos (by omega), dif_neg (by omega)]
    rw [hclamp]
    decide

/-- Lines inside a bracket on a line with an indentation that is not negative have one that is not
negative either. -/
theorem toInt_indentation_nonneg {context : Context} (h : 0 ≤ context.indented.toInt)
    (indentUnit : UInt32) (text : Text) : 0 ≤ (context.indentation indentUnit text).toInt := by
  have hsigned (column : Column) : 0 ≤ column.toSigned.toInt := by
    rw [Column.toInt_toSigned]
    omega
  by_cases halign : context.align = some true
  · rw [indentation, if_pos halign]
    simp only
    split
    · exact hsigned _
    · refine toInt_addIndentation_nonneg ?_
      have hcolumn := hsigned context.column
      have hone : Int32.toInt 1 = 1 := rfl
      omega
  · rw [indentation_of_align halign]
    split
    · exact h
    · refine toInt_addIndentation_nonneg ?_
      have hunit := hsigned indentUnit
      omega

end Context

namespace State

variable {config : Config} {base : UInt32} {state : State}

/-- A line has a negative indentation only outside all brackets, in a text that begins left of the
first indent unit. -/
theorem Shaped.lineIndentation (h : state.Shaped config base) {text : Text}
    (hnegative : (state.lineIndentation config text).toInt < 0) :
    state.depth = 0 ∧ base < config.indentUnit := by
  obtain ⟨region, ⟨outside, _ | ⟨inner, outer⟩⟩, indented, freshLine⟩ := state
  · have houtside : outside.indented.toInt =
        min base.toNat 2147483647 - min config.indentUnit.toNat 2147483647 :=
      h.nesting.outside_indented
    have hindented : outside.indented.toInt < 0 := by
      -- With one unit added, the indentation outside all brackets is the column of the base.
      have hunit : (Column.toSigned config.indentUnit).toInt =
          min config.indentUnit.toNat 2147483647 := Column.toInt_toSigned config.indentUnit
      have halign : outside.align ≠ some true := by
        rw [show outside.align = some false from h.nesting.outside_align]
        decide
      rw [State.lineIndentation] at hnegative
      split at hnegative
      · exact hnegative
      · have hcontext : Context.indentation config.indentUnit outside text.trimStart = _ :=
          Context.indentation_of_align halign config.indentUnit text.trimStart
        rw [show context _ = outside from rfl, hcontext] at hnegative
        split at hnegative
        · exact hnegative
        · have hsum : 0 ≤ outside.indented.toInt + (Column.toSigned config.indentUnit).toInt := by
            omega
          have hnonneg := Context.toInt_addIndentation_nonneg hsum
          omega
    refine ⟨rfl, ?_⟩
    rw [UInt32.lt_iff_toNat_lt]
    omega
  · have hindented : 0 ≤ inner.indented.toInt := h.nesting.opened_indented inner List.mem_cons_self
    rw [State.lineIndentation] at hnegative
    split at hnegative
    · exact absurd hindented (Int.not_le.2 hnegative)
    · exact absurd (Context.toInt_indentation_nonneg hindented ..) (Int.not_le.2 hnegative)

/-- **The shape of reachable states.** In a state that tokens and hints lead to, the contexts have
the shape of the text and the indentation is not negative; a further token opens or closes at most
one bracket; and a hint in code is the signed indentation of the line, which is negative only
outside all brackets in a text that begins left of the first indent unit. -/
theorem reachable_shaped (h : Reachable config base state) :
    state.Shaped config base ∧
      (∀ tabSize cursor,
        let after := (Token.read { config with tabSize } cursor state).after
        after.depth ≤ state.depth + 1 ∧ state.depth ≤ after.depth + 1) ∧
      ∀ text, state.region = .code →
        (state.indent config text).1 =
            .column (Column.ofSigned (state.lineIndentation config text)) ∧
          ((state.lineIndentation config text).toInt < 0 →
            state.depth = 0 ∧ base < config.indentUnit) := by
  refine ⟨h.shaped, ?_, ?_⟩
  · intro tabSize cursor
    exact Token.depth_read { config with tabSize } cursor state
  · intro text hregion
    exact ⟨indent_of_code hregion text, h.shaped.lineIndentation⟩

/-- The theorem behind a word that opens an arm outside all brackets, in a text that begins one
column left of the indent unit: another arm there asks for column -1, and gets column 0. -/
theorem reachable_shaped_arm :
    let state := (Token.read {} (Cursor.ofLine "case 1: ".toList) (start {} 1)).after
    Reachable {} 1 state ∧ state.region = .code ∧
      (state.lineIndentation {} "default:".toList).toInt = -1 ∧
      state.nesting.outside.kind = .arm ∧
      (state.indent {} "default:".toList).1 = .column 0 ∧ state.depth = 0 := by
  intro state
  have h : Reachable {} 1 state := .read 4 (Cursor.ofLine "case 1: ".toList) .start
  have hregion : state.region = .code := by decide
  have hindentation : (state.lineIndentation {} "default:".toList).toInt = -1 := by decide
  have hkind : state.nesting.outside.kind = .arm := by decide
  obtain ⟨hhint, hnegative⟩ := (reachable_shaped h).2.2 "default:".toList hregion
  have hcolumn : Column.ofSigned (state.lineIndentation {} "default:".toList) = 0 := by decide
  rw [hcolumn] at hhint
  exact ⟨h, hregion, hindentation, hkind, hhint, (hnegative (by rw [hindentation]; decide)).1⟩

end State

end SyntaxMode
