import SyntaxMode.Proofs.Fold.Matching

/-!
# Folds do not cross

The folds of two lines are disjoint, or the one of the lower line lies strictly inside the other
(`folds_laminar`). The braces between the two ends of a fold match one another, so a brace that
opens among them is matched among them as well.
-/

namespace SyntaxMode

namespace Brace

variable {first second : Brace}

/-- A brace begins before any that it precedes begins. -/
theorem Precedes.start_lt_start (h : first.Precedes second)
    (hfirst : first.span.start < first.span.stop) : first.start < second.start := by
  rw [Position.lt_iff]
  rcases h with hline | ⟨hline, hle⟩
  · exact .inl hline
  · exact .inr ⟨hline, Nat.lt_of_lt_of_le hfirst hle⟩

/-- A brace begins before any that it precedes ends. -/
theorem Precedes.start_lt_stop (h : first.Precedes second)
    (hfirst : first.span.start < first.span.stop)
    (hsecond : second.span.start < second.span.stop) :
    first.start < second.stop :=
  Position.lt_trans (h.start_lt_start hfirst) (.inr ⟨rfl, hsecond⟩)

/-- Of two braces the one on the lower line stands behind the other. -/
theorem exists_behind {braces before behind before' behind' : List Brace}
    (hbraces : braces = before ++ first :: behind)
    (hbraces' : braces = before' ++ second :: behind')
    (hordered : braces.Pairwise Precedes) (hline : first.line < second.line) :
    ∃ middle, behind = middle ++ second :: behind' := by
  have hne : first ≠ second := by
    rintro rfl
    exact Nat.lt_irrefl _ hline
  rcases List.append_eq_append_iff.1 (hbraces.symm.trans hbraces') with
    ⟨middle, -, hrest⟩ | ⟨middle, -, hrest⟩
  · cases middle with
    | nil => exact absurd (List.cons.inj hrest).1 hne
    | cons brace middle => exact ⟨middle, (List.cons.inj hrest).2⟩
  · cases middle with
    | nil => exact absurd (List.cons.inj hrest).1.symm hne
    | cons brace middle =>
      -- The braces stand in the order of their lines.
      rw [hbraces', (List.cons.inj hrest).2] at hordered
      have hprecedes : second.Precedes first := List.rel_of_pairwise_cons
        (List.pairwise_append.1 hordered).2.1 (List.mem_append_right _ List.mem_cons_self)
      rcases hprecedes with hlt | ⟨heq, -⟩ <;> omega

/-- A brace that opens among braces which match one another is matched among them. -/
theorem Matched.exists_of_append {front inside inner rest rest' : List Brace}
    {opener closer closer' : Brace} (h : Matched (front ++ opener :: inside))
    (hopens : opener.opens = true) (hinner : Matched inner)
    (hinside : inside ++ closer :: rest = inner ++ closer' :: rest') :
    ∃ behind, inside = inner ++ closer' :: behind := by
  have hcontained : ¬ inside <+: inner := by
    intro hprefix
    refine h.not_contained hopens fun part hpart => ?_
    rw [Nat.zero_add]
    exact hinner.1 part (hpart.trans hprefix)
  rcases List.append_eq_append_iff.1 hinside with ⟨middle, rfl, -⟩ | ⟨middle, rfl, hrest⟩
  · exact absurd (List.prefix_append ..) hcontained
  · cases middle with
    | nil => exact absurd (by simp) hcontained
    | cons brace behind =>
      cases hrest
      exact ⟨behind, rfl⟩

end Brace

namespace Document

/-- A fold starts on its line and ends on a later one. -/
theorem line_of_fold? {document : Document} {index : Nat} {fold : Fold}
    (h : document.fold? index = some fold) : fold.start.line = index ∧ index < fold.stop.line := by
  obtain ⟨before, opener, between, closer, after, -, -, hline, -, -, -, hlt, rfl⟩ :=
    (fold?_eq_some_iff document index fold).1 h
  exact ⟨hline, hlt⟩

/-- The folds of two lines are disjoint or one lies inside the other. -/
theorem Current.stop_lt_or_lt {document : Document} (h : document.Current) {upper lower : Nat}
    (hlines : upper < lower) {outer inner : Fold} (houter : document.fold? upper = some outer)
    (hinner : document.fold? lower = some inner) :
    outer.stop < inner.start ∨ inner.stop < outer.stop := by
  obtain ⟨hordered, hspans⟩ := h.pairwise_braces
  obtain ⟨before, opener, between, closer, after, hbraces, hopens, hline, -, hcloses, hmatched, -,
    rfl⟩ := (fold?_eq_some_iff document upper outer).1 houter
  obtain ⟨before', opener', between', closer', after', hbraces', hopens', hline', -, -, hmatched',
    -, rfl⟩ := (fold?_eq_some_iff document lower inner).1 hinner
  obtain ⟨middle, hmiddle⟩ := Brace.exists_behind hbraces hbraces' hordered (by omega)
  rw [hbraces] at hordered hspans
  have hbehind := (List.pairwise_cons.1 (List.pairwise_append.1 hordered).2.1).2
  have hspan : ∀ brace ∈ between ++ closer :: after, brace.span.start < brace.span.stop :=
    fun brace hbrace => hspans brace
      (List.mem_append_right _ (List.mem_cons_of_mem _ hbrace))
  have hcloser := hspan closer (List.mem_append_right _ List.mem_cons_self)
  rcases List.append_eq_append_iff.1 hmiddle with ⟨gap, rfl, hrest⟩ | ⟨gap, rfl, hrest⟩
  · cases gap with
    | nil =>
      rw [(List.cons.inj hrest).1, hopens'] at hcloses
      cases hcloses
    | cons brace gap =>
      -- The lower brace stands behind the end of the upper fold.
      obtain ⟨rfl, hafter⟩ := List.cons.inj hrest
      subst hafter
      have hmem : opener' ∈ gap ++ opener' :: (between' ++ closer' :: after') :=
        List.mem_append_right _ List.mem_cons_self
      have hprecedes : closer.Precedes opener' :=
        List.rel_of_pairwise_cons (List.pairwise_append.1 hbehind).2.1 hmem
      exact .inl (hprecedes.start_lt_stop hcloser
        (hspan opener' (List.mem_append_right _ (List.mem_cons_of_mem _ hmem))))
  · cases gap with
    | nil =>
      rw [← (List.cons.inj hrest).1, hopens'] at hcloses
      cases hcloses
    | cons brace gap =>
      -- The lower brace stands inside the upper fold, so it is matched there.
      obtain ⟨rfl, hgap⟩ := List.cons.inj hrest
      obtain ⟨behind, rfl⟩ := hmatched.exists_of_append hopens' hmatched' hgap.symm
      have hmem : closer' ∈ middle ++ opener' :: (between' ++ closer' :: behind) := by simp
      have hprecedes : closer'.Precedes closer :=
        (List.pairwise_append.1 hbehind).2.2 closer' hmem closer List.mem_cons_self
      exact .inr (hprecedes.start_lt_start (hspan closer' (List.mem_append_left _ hmem)))

/-- **Folds are laminar.** In a document after any edits, the folds of two lines end behind their
starts, and they are disjoint, or the one of the lower line lies strictly inside the other. So no
two of them end at the same brace. -/
theorem folds_laminar (config : Config) (text : Text) (edits : List Edit) {upper lower : Nat}
    (hlines : upper < lower) {outer inner : Fold}
    (houter : ((ofText config text).applyAll edits).fold? upper = some outer)
    (hinner : ((ofText config text).applyAll edits).fold? lower = some inner) :
    outer.start < outer.stop ∧ inner.start < inner.stop ∧
      (outer.stop < inner.start ∨ (outer.start < inner.start ∧ inner.stop < outer.stop)) ∧
      outer.stop ≠ inner.stop := by
  have hcurrent := ((current_ofText config text).applyAll edits).1
  obtain ⟨houterStart, houterStop⟩ := line_of_fold? houter
  obtain ⟨hinnerStart, hinnerStop⟩ := line_of_fold? hinner
  have hfold : outer.start < outer.stop := .inl (houterStart ▸ houterStop)
  have hfold' : inner.start < inner.stop := .inl (hinnerStart ▸ hinnerStop)
  have hstarts : outer.start < inner.start := .inl (by omega)
  have hcases := hcurrent.stop_lt_or_lt hlines houter hinner
  refine ⟨hfold, hfold', hcases.imp_right fun hstops => ⟨hstarts, hstops⟩, ?_⟩
  intro heq
  rcases hcases with hdisjoint | hinside
  · rw [heq] at hdisjoint
    exact Position.lt_irrefl (Position.lt_trans hdisjoint hfold')
  · rw [heq] at hinside
    exact Position.lt_irrefl hinside

/-- The theorem where a block with a brace that closes nothing before it gets another block inside
of it. -/
theorem folds_laminar_inserted :
    let edits : List Edit := [.insert 1 r"  if x {".toList, .insert 2 r"  }".toList]
    let document := (ofText {} (Text.joinLines [r"} fn() {".toList, ['}']])).applyAll edits
    let outer : Fold := ⟨⟨0, 8⟩, ⟨3, 0⟩⟩
    let inner : Fold := ⟨⟨1, 8⟩, ⟨2, 2⟩⟩
    (document.fold? 0 = some outer ∧ document.fold? 1 = some inner) ∧
      outer.start < outer.stop ∧ inner.start < inner.stop ∧
      (outer.stop < inner.start ∨ (outer.start < inner.start ∧ inner.stop < outer.stop)) ∧
      outer.stop ≠ inner.stop := by
  intro edits document outer inner
  have houter : document.fold? 0 = some outer := by decide +kernel
  have hinner : document.fold? 1 = some inner := by decide +kernel
  exact ⟨⟨houter, hinner⟩, folds_laminar {} _ edits Nat.zero_lt_one houter hinner⟩

end Document

end SyntaxMode
