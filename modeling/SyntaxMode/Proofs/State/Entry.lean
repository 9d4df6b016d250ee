import SyntaxMode.Indent
import SyntaxMode.Proofs.Token.Reads

/-!
# Entering lines alike

A line that is not empty settles the innermost context before anything else: an arm ends, and it is
known whether text follows the bracket. Two states enter lines alike if they agree once a line has
settled them, columns left aside. Reading blank lines (`entersLike_highlight_blank`) and asking for
a hint (`entersLike_indent`) lead to states that enter lines alike, and so do lines that differ in
their leading blanks only (`EntersLike.highlight`). Behind a line that is not blank the contexts
agree as they stand (`EntersLike.outline_highlight`).
-/

namespace SyntaxMode

namespace State

/-- Whether a line that is not empty begins in the same way in two states, columns left aside. -/
structure EntersLike (a b : State) : Prop where
  region : a.region = b.region
  outline : (a.nesting.modify Context.atLineStart).outline =
    (b.nesting.modify Context.atLineStart).outline

section
variable {config : Config} {a b : State}

/-- A state enters lines like itself. -/
theorem EntersLike.refl (state : State) : EntersLike state state := ⟨rfl, rfl⟩

/-- It does not matter which of two states that enter lines alike comes first. -/
theorem EntersLike.symm (h : EntersLike a b) : EntersLike b a := ⟨h.region.symm, h.outline.symm⟩

/-- States that enter lines like a third one enter lines alike. -/
theorem EntersLike.trans {c : State} (h : EntersLike a b) (h' : EntersLike b c) :
    EntersLike a c := ⟨h.region.trans h'.region, h.outline.trans h'.outline⟩

/-- States that enter lines alike have the same number of open brackets. -/
theorem EntersLike.depth_eq (h : EntersLike a b) : a.depth = b.depth := by
  have hdepth := congrArg Nesting.depth h.outline
  simpa [depth] using hdepth

/-- States with the same contexts, columns left aside, enter lines alike. -/
theorem entersLike_of_outline_eq (hregion : a.region = b.region)
    (houtline : a.nesting.outline = b.nesting.outline) : EntersLike a b := by
  refine ⟨hregion, ?_⟩
  have hmodify (nesting : Nesting) : (nesting.modify Context.atLineStart).outline =
      nesting.outline.modify Context.atLineStart := nesting.outline_modify fun _ => rfl
  rw [hmodify, hmodify, houtline]

/-- A line that has been entered is entered alike again. -/
theorem entersLike_enterLine (indentation : Column) (state : State) :
    EntersLike (state.enterLine indentation) state := by
  refine ⟨rfl, ?_⟩
  obtain ⟨region, ⟨outside, _ | ⟨context, outer⟩⟩, indented, freshLine⟩ := state <;>
    simp [enterLine, Nesting.modify]

/-- Asking for a hint may end an arm, which the next line would end as well. -/
theorem entersLike_indent (config : Config) (state : State) (text : Text) :
    EntersLike (state.indent config text).2 state := by
  rw [indent]
  split
  · exact .refl state
  · simp only
    split
    · refine ⟨rfl, ?_⟩
      obtain ⟨region, ⟨outside, _ | ⟨context, outer⟩⟩, indented, freshLine⟩ := state <;>
        simp [Nesting.modify, Context.atLineStart, Context.endArm]
    · exact .refl state

/-! ## Lines -/

/-- Behind a blank line the next line is entered as if the blank line were not there. -/
theorem entersLike_highlight_blank (config : Config) (state : State) {line : Text}
    (h : line.trimStart = []) : EntersLike (highlight config state line).2 state := by
  by_cases hline : line = []
  · rw [hline, highlight_nil]
    exact .refl state
  · rw [after_highlight_of_blank config state h hline]
    exact entersLike_enterLine _ state

/-- Behind a line that is not blank, states that enter lines alike have the same contexts, columns
left aside, whatever blanks the line starts with. -/
theorem EntersLike.outline_highlight (h : EntersLike a b) {line line' : Text}
    (hline : line.trimStart = line'.trimStart) (hne : line.trimStart ≠ []) :
    (highlight config a line).2.nesting.outline =
      (highlight config b line').2.nesting.outline := by
  have hline_ne : line ≠ [] := by
    rintro rfl
    exact hne rfl
  have hline_ne' : line' ≠ [] := by
    rintro rfl
    exact hne hline
  have hreads := reads_line config a hline_ne
  have hreads' := reads_line config b hline_ne'
  rw [← (lexemesOf_lineTokens_congr config config h.region hline).1] at hreads'
  exact hreads.outline_congr hreads' h.outline

/-- Lines that differ only in their leading blanks lead from states that enter lines alike to
states that do. -/
theorem EntersLike.highlight (h : EntersLike a b) {line line' : Text}
    (hline : line.trimStart = line'.trimStart) :
    EntersLike (highlight config a line).2 (highlight config b line').2 := by
  by_cases hblank : line.trimStart = []
  · exact (entersLike_highlight_blank config a hblank).trans
      (h.trans (entersLike_highlight_blank config b (hline ▸ hblank)).symm)
  · exact entersLike_of_outline_eq
      (lexemesOf_lineTokens_congr config config h.region hline).2
      (h.outline_highlight hline hblank)

end

end State

end SyntaxMode
