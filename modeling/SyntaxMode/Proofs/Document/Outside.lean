import SyntaxMode.Proofs.Document.FullScan
import SyntaxMode.Proofs.State.Shape

/-!
# Outside all brackets

The context outside all brackets lies one indent unit left of column 0, and no text can move it: it
may become an arm, and then a brace block, but it is never closed, and its indentation stays. So
the hint for a line there is the column 0, by one of two ways: a line that would close the context,
or that is another arm, is hinted one unit left of column 0, which is cut off; and any other line
gets the unit back, however large it is (`State.Shaped.lineIndentation_nonpos`). That holds in
every shaped state, and the states of a document are shaped, because tokens keep the shape
(`State.Shaped.highlight`).
-/

namespace SyntaxMode

/-- What is left of column 0 is cut off. -/
theorem Column.ofSigned_of_nonpos {indentation : Int32} (h : indentation.toInt ≤ 0) :
    ofSigned indentation = 0 := by
  refine UInt32.toNat_inj.1 ?_
  rw [toNat_ofSigned, Int.toNat_of_nonpos h]
  rfl

namespace State

variable {config : Config} {base : UInt32} {state : State}

/-! ## Hints -/

/-- Outside all brackets no line is indented, in a text that begins at column 0. -/
theorem Shaped.lineIndentation_nonpos (h : state.Shaped config 0) (hdepth : state.depth = 0)
    (text : Text) : (state.lineIndentation config text).toInt ≤ 0 := by
  have hopened : state.nesting.opened = [] := List.eq_nil_of_length_eq_zero hdepth
  have hcontext : state.context = state.nesting.outside := by
    rw [context, Nesting.innermost, hopened]
    rfl
  have houtside := h.nesting.outside_indented
  have hunit :
      (Column.toSigned config.indentUnit).toInt = min config.indentUnit.toNat 2147483647 :=
    Column.toInt_toSigned config.indentUnit
  have hzero : (0 : UInt32).toNat = 0 := rfl
  have halign : state.nesting.outside.align ≠ some true := by
    rw [h.nesting.outside_align]
    decide
  rw [State.lineIndentation, hcontext]
  split
  · omega
  · rw [Context.indentation_of_align halign]
    split
    · omega
    · -- One unit left of column 0, and one unit to the right.
      rw [Nesting.toInt_addIndentation (by omega) (by omega)]
      omega

/-- Outside all brackets the hint for any line of code is column 0. -/
theorem Shaped.indent_of_depth_eq_zero (h : state.Shaped config 0) (hregion : state.region = .code)
    (hdepth : state.depth = 0) (text : Text) : (state.indent config text).1 = .column 0 := by
  rw [indent_of_code hregion, Column.ofSigned_of_nonpos (h.lineIndentation_nonpos hdepth text)]

/-! ## Lines -/

/-- The tokens up to the end of a line keep the shape. -/
theorem Shaped.tokens (h : state.Shaped config base) (config' : Config) (cursor : Cursor) :
    (stateAfter state (tokens config' cursor state)).Shaped config base := by
  fun_induction SyntaxMode.tokens config' cursor state with
  | case1 cursor state hahead => exact h
  | case2 cursor state hahead token ih =>
    rw [stateAfter_cons]
    exact ih (h.read config' cursor)

/-- A line keeps the shape. -/
theorem Shaped.highlight (h : state.Shaped config base) (config' : Config) (line : Text) :
    (highlight config' state line).2.Shaped config base :=
  h.tokens config' (Cursor.ofLine line)

/-- Lines keep the shape. -/
theorem Shaped.stateBehind (h : state.Shaped config base) (config' : Config) (lines : List Text) :
    (stateBehind config' state lines).Shaped config base := by
  induction lines generalizing state with
  | nil => exact h
  | cons line lines ih => exact ih (h.highlight config' line)

end State

namespace Document

/-- The states of a current document are shaped. -/
theorem Current.shaped_stateAt {document : Document} (h : document.Current) (index : Nat) :
    (document.stateAt index).Shaped document.config 0 := by
  have hstart : (State.initial document.config).Shaped document.config 0 :=
    State.shaped_start document.config 0
  by_cases hindex : index ≤ document.lines.length
  · rw [h.stateAt hindex]
    exact hstart.stateBehind document.config _
  · obtain ⟨above, rfl⟩ :=
      Nat.exists_eq_succ_of_ne_zero (Nat.ne_zero_of_lt (Nat.lt_of_not_le hindex))
    have hnone : document.lines[above]? = none := List.getElem?_eq_none (by omega)
    rw [Document.stateAt, hnone]
    exact hstart

/-- **Code outside all brackets stands at column 0.** In a document that edits have led to, where
no bracket is open at the start of a line of code, the hint for that line is column 0. It would be
that for any other text of the line as well, and whatever has been closed before that was not open,
and whatever arms there are outside all brackets. -/
theorem indentHint_of_depth_eq_zero (config : Config) (text : Text) (edits : List Edit)
    (index : Nat) :
    let document := (ofText config text).applyAll edits
    (document.stateAt index).region = .code → (document.stateAt index).depth = 0 →
      document.indentHint index = .column 0 ∧
        ∀ line, ((document.stateAt index).indent config line).1 = .column 0 := by
  intro document hregion hdepth
  have hcurrent : document.Current := ((current_ofText config text).applyAll edits).1
  have hconfig : document.config = config := config_applyAll (ofText config text) edits
  have hhint := (hcurrent.shaped_stateAt index).indent_of_depth_eq_zero hregion hdepth
  rw [indentHint, ← hconfig]
  exact ⟨hhint _, hhint⟩

/-- The theorem behind closers that close nothing and an arm outside all brackets, with an indent
unit that no signed word holds, for a line that is another arm. -/
theorem indentHint_of_depth_eq_zero_arm :
    let config : Config := { indentUnit := 4000000000 }
    let document := (ofText config (Text.joinLines [r"})]".toList, " case x: y".toList,
      "default:".toList])).applyAll [.insert 1 "f({})".toList]
    (document.stateAt 3).region = .code ∧ (document.stateAt 3).depth = 0 ∧
      (document.stateAt 3).context.kind = .arm ∧ document.indentHint 3 = .column 0 := by
  intro config document
  have hregion : (document.stateAt 3).region = .code := by decide +kernel
  have hdepth : (document.stateAt 3).depth = 0 := by decide +kernel
  have hkind : (document.stateAt 3).context.kind = .arm := by decide +kernel
  exact ⟨hregion, hdepth, hkind,
    (indentHint_of_depth_eq_zero config _ [.insert 1 "f({})".toList] 3 hregion hdepth).1⟩

end Document

end SyntaxMode
