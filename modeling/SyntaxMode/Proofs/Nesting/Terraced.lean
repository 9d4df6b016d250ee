import SyntaxMode.Indent
import SyntaxMode.Proofs.Column
import SyntaxMode.Proofs.Nesting.Follow

/-!
# Terraces

In code that is indented by its nesting, the open brackets stand on terraces: the line of each is
one indent unit right of the line of the bracket around it. A nesting is terraced if its contexts
say so and nothing follows the brackets on their lines. The context outside all brackets lies one
unit left of column 0, so that the lines there come to stand at that column. The hint for a line in
a terraced nesting is one unit for each open bracket, less one if the line closes the innermost of
them (`Stepped.indentation`).
-/

namespace SyntaxMode

/-- The nestings inside brackets each of which stands one indent unit right of the one around it,
with nothing after it on its line. -/
inductive Nesting.Terraced (indentUnit : UInt32) : List Delimiter → Nesting → Prop where
  | outside : Terraced indentUnit [] (Nesting.ofBase (0 - Column.toSigned indentUnit))
  | push {opened : List Delimiter} {nesting : Nesting} {context : Context} {delimiter : Delimiter}
      (hkind : context.kind = .block delimiter)
      (hindented : context.indented.toInt = indentUnit.toNat * opened.length)
      (halign : context.align = some false) (h : Terraced indentUnit opened nesting) :
      Terraced indentUnit (delimiter :: opened) (nesting.push context)

/-- The nestings that are terraced once a line begins, and in which no arm of a `switch` ends
then. -/
structure Nesting.Stepped (indentUnit : UInt32) (opened : List Delimiter) (nesting : Nesting) :
    Prop where
  noArm : nesting.innermost.kind ≠ .arm
  terraced : nesting.modify Context.atLineStart |>.Terraced indentUnit opened

/-! ## Contexts at the start of a line -/

namespace Context

variable {context : Context}

/-- Where no arm ends, a line that begins settles the alignment alone. -/
theorem atLineStart_of_kind (h : context.kind ≠ .arm) :
    context.atLineStart = { context with align := some (context.align.getD false) } := by
  have hkind : context.kind.endArm = context.kind := by
    cases hcase : context.kind with
    | arm => exact absurd hcase h
    | outside | block => rfl
  rw [atLineStart, endArm, hkind]

/-- Where no arm ends, a line that begins leaves a context to the same closing bracket. -/
theorem isClosedBy_atLineStart (h : context.kind ≠ .arm) (text : Text) :
    context.atLineStart.isClosedBy text = context.isClosedBy text := by
  rw [atLineStart_of_kind h]
  rfl

/-- Lines inside a bracket that no text follows are indented from the line of the bracket. -/
theorem indentation_of_align (h : context.align ≠ some true) (indentUnit : UInt32) (text : Text) :
    context.indentation indentUnit text =
      if context.isClosedBy text then context.indented
      else addIndentation context.indented (Column.toSigned indentUnit) := by
  rw [indentation, if_neg h]

/-- Where no arm ends, a line that begins changes no indentation. -/
theorem indentation_atLineStart (h : context.kind ≠ .arm) (indentUnit : UInt32) (text : Text) :
    context.atLineStart.indentation indentUnit text = context.indentation indentUnit text := by
  rw [atLineStart_of_kind h]
  obtain ⟨indented, column, kind, _ | align⟩ := context <;> rfl

end Context

namespace Nesting

variable {indentUnit : UInt32} {opened : List Delimiter} {nesting : Nesting}

/-- Nothing follows the innermost bracket of terraced contexts on its line. -/
theorem Terraced.align (h : Terraced indentUnit opened nesting) :
    nesting.innermost.align = some false := by
  cases h with
  | outside => rfl
  | push hkind hindented halign h => exact halign

/-- No arm is open in terraced contexts. -/
theorem Terraced.noArm (h : Terraced indentUnit opened nesting) :
    nesting.innermost.kind ≠ .arm := by
  cases h with
  | outside => exact Context.Kind.noConfusion
  | push hkind hindented halign h =>
    rw [innermost_push, hkind]
    exact Context.Kind.noConfusion

/-! ## Behind a line -/

/-- Between lines a terraced nesting is as it is when a line begins. -/
theorem Terraced.stepped (h : Terraced indentUnit opened nesting) :
    Stepped indentUnit opened nesting := by
  refine ⟨h.noArm, ?_⟩
  have hinnermost : nesting.innermost.atLineStart = nesting.innermost := by
    rw [Context.atLineStart_of_kind h.noArm, h.align, Option.getD_some, ← h.align]
  rwa [modify_eq_self hinnermost]

/-- A bracket that nothing follows on its line makes the next terrace. -/
theorem Terraced.stepped_push (h : Terraced indentUnit opened nesting) {context : Context}
    {delimiter : Delimiter} (hkind : context.kind = .block delimiter)
    (hindented : context.indented.toInt = indentUnit.toNat * opened.length)
    (halign : context.align = none) :
    Stepped indentUnit (delimiter :: opened) (nesting.push context) := by
  have hnoArm : context.kind ≠ .arm := by
    rw [hkind]
    exact Context.Kind.noConfusion
  refine ⟨hnoArm, ?_⟩
  rw [modify_push, Context.atLineStart_of_kind hnoArm, halign]
  exact .push hkind hindented rfl h

/-! ## The hint for a line -/

/-- The sum of two indentations is one if it is neither too small nor too large. -/
theorem toInt_addIndentation {indentation step : Int32}
    (hlower : -2147483648 ≤ indentation.toInt + step.toInt)
    (hupper : indentation.toInt + step.toInt ≤ 2147483647) :
    (Context.addIndentation indentation step).toInt = indentation.toInt + step.toInt := by
  have hmin : Int32.minValue.toInt = -2147483648 := rfl
  have hmax : Int32.maxValue.toInt = 2147483647 := rfl
  refine Int32.toInt_ofIntClamp ?_ ?_
  · rwa [hmin]
  · rwa [hmax]

/-- The context outside all brackets asks for column 0. -/
theorem indentation_outside (indentUnit : UInt32) (text : Text) :
    ((Context.ofBase (0 - Column.toSigned indentUnit)).indentation indentUnit text).toInt = 0 := by
  have hunit : (Column.toSigned indentUnit).toInt = min indentUnit.toNat 2147483647 :=
    Column.toInt_toSigned indentUnit
  have hbase : (0 - Column.toSigned indentUnit).toInt = -(Column.toSigned indentUnit).toInt := by
    rw [Int32.toInt_sub, Int32.toInt_zero, Int.zero_sub, Int.bmod_eq_of_le]
    · omega
    · omega
  show (Context.addIndentation (0 - Column.toSigned indentUnit)
    (Column.toSigned indentUnit)).toInt = 0
  rw [toInt_addIndentation, hbase, Int.add_left_neg]
  · omega
  · omega

/-- A bracket on a terrace asks for one unit more than its own line has, and a line that closes it
for as much. -/
theorem indentation_push {context : Context} (halign : context.align = some false)
    (hindented : context.indented.toInt = indentUnit.toNat * opened.length)
    (hmax : indentUnit.toNat * (opened.length + 1) ≤ 2147483647) (text : Text) :
    (context.indentation indentUnit text).toInt =
      (indentUnit.toNat *
        (opened.length + 1 - if context.isClosedBy text then 1 else 0) : Nat) := by
  have halign' : context.align ≠ some true := by
    rw [halign]
    decide
  rw [Nat.mul_succ] at hmax
  have hunit : (Column.toSigned indentUnit).toInt = indentUnit.toNat := by
    rw [Column.toInt_toSigned]
    omega
  rw [Context.indentation_of_align halign']
  split
  next => rw [hindented, Nat.add_sub_cancel, Int.natCast_mul]
  next =>
    rw [Nat.sub_zero, Nat.mul_succ, toInt_addIndentation, hindented, hunit]
    · rw [Int.natCast_add, Int.natCast_mul]
    · omega
    · omega

/-- A terraced nesting asks for one unit for each open bracket, less one on a line that closes the
innermost. -/
theorem Terraced.indentation (h : Terraced indentUnit opened nesting)
    (hmax : indentUnit.toNat * opened.length ≤ 2147483647) (text : Text) :
    (nesting.innermost.indentation indentUnit text).toInt =
      (indentUnit.toNat *
        (opened.length - if nesting.innermost.isClosedBy text then 1 else 0) : Nat) := by
  cases h with
  | outside =>
    rw [innermost_ofBase, indentation_outside, List.length_nil, Nat.zero_sub, Nat.mul_zero]
    rfl
  | push hkind hindented halign h => exact indentation_push halign hindented hmax text

/-- So does a nesting between lines. -/
theorem Stepped.indentation (h : Stepped indentUnit opened nesting)
    (hmax : indentUnit.toNat * opened.length ≤ 2147483647) (text : Text) :
    (nesting.innermost.indentation indentUnit text).toInt =
      (indentUnit.toNat *
        (opened.length - if nesting.innermost.isClosedBy text then 1 else 0) : Nat) := by
  have hterraced := h.terraced.indentation hmax text
  rwa [innermost_modify, Context.indentation_atLineStart h.noArm,
    Context.isClosedBy_atLineStart h.noArm] at hterraced

/-- A text closes the innermost bracket of a terraced nesting if it starts with its partner. -/
theorem Terraced.isClosedBy (h : Terraced indentUnit opened nesting) (text : Text) :
    nesting.innermost.isClosedBy text =
      opened.head?.any fun delimiter => text.head? == some delimiter.closer := by
  cases h with
  | outside => rfl
  | push hkind hindented halign h =>
    rw [innermost_push, Context.isClosedBy, hkind]
    rfl

/-- A text closes the innermost context if it starts with the partner of the innermost open
bracket. -/
theorem Stepped.isClosedBy (h : Stepped indentUnit opened nesting) (text : Text) :
    nesting.innermost.isClosedBy text =
      opened.head?.any fun delimiter => text.head? == some delimiter.closer := by
  rw [← h.terraced.isClosedBy, innermost_modify, Context.isClosedBy_atLineStart h.noArm]

end Nesting

end SyntaxMode
