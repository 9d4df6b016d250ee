import SyntaxMode.Proofs.Fold.Matching

/-!
# Pairs of braces and the lines that fold

A brace that opens and the brace that matches it are a pair. A line may hold several braces that
open, and only the last of them is looked at. Where one of them is paired across the end of the
line, the last one stands inside that pair or is its opener, so it is paired too
(`Pairs.exists_closer`). The line folds unless the last one is paired on the line itself, and then
it folds nothing, whatever stands before (`fold?_of_pairs`, `not_fold?_of_every_pair`).
-/

namespace SyntaxMode

namespace Document

/-- Whether a brace of a document opens and another one closes it: the braces between them match
one another. -/
def Pairs (document : Document) (opener closer : Brace) : Prop :=
  ∃ before between after, document.braces = before ++ opener :: (between ++ closer :: after) ∧
    opener.opens = true ∧ closer.opens = false ∧ Brace.Matched between

end Document

/-- A brace that opens inside a matched run is closed in it. -/
theorem Brace.Matched.exists_closer {front inside : List Brace} {brace : Brace}
    (h : Matched (front ++ brace :: inside)) (hopens : brace.opens = true) :
    ∃ partner, closer 0 inside = .ok partner := by
  cases hcloser : closer 0 inside with
  | ok partner => exact ⟨partner, rfl⟩
  | error left => exact absurd (closer_eq_error_iff.1 hcloser).1 (h.not_contained hopens)

namespace Document

variable {document : Document} {opener closer last : Brace} {before behind : List Brace}

/-- Where a search behind a brace that opens finds a brace, the two are a pair. -/
theorem pairs_of_closer (hbraces : document.braces = before ++ last :: behind)
    (hopens : last.opens = true) (hcloser : Brace.closer 0 behind = .ok closer) :
    document.Pairs last closer := by
  obtain ⟨between, after, rfl, hcloses, hmatched⟩ := Brace.closer_eq_ok_iff.1 hcloser
  exact ⟨before, between, after, hbraces, hopens, hcloses, hmatched⟩

/-- Of a brace that is paired with one on a later line and the last brace that opens on its line,
the two are the same, or the last brace stands between the ends of the pair. -/
theorem eq_or_between {before' between after : List Brace}
    (hordered : document.braces.Pairwise Brace.Precedes)
    (hpair : document.braces = before' ++ opener :: (between ++ closer :: after))
    (hopener : opener.opens = true) (hcloses : closer.opens = false)
    (hline : opener.line < closer.line)
    (hbraces : document.braces = before ++ last :: behind) (hopens : last.opens = true)
    (hlastLine : last.line = opener.line)
    (hlast : ∀ brace ∈ behind, brace.opens = true → brace.line ≠ opener.line) :
    behind = between ++ closer :: after ∨
      ∃ front inside, between = front ++ last :: inside ∧ behind = inside ++ closer :: after := by
  rcases List.append_eq_append_iff.1 (hpair.symm.trans hbraces) with
    ⟨middle, -, hrest⟩ | ⟨middle, -, hrest⟩
  · cases middle with
    | nil => exact .inl (List.cons.inj hrest).2.symm
    | cons brace middle =>
      rcases List.append_eq_append_iff.1 (List.cons.inj hrest).2 with
        ⟨gap, -, hgap⟩ | ⟨gap, hbetween, hgap⟩
      · -- Here the last brace stands at the closing brace or behind it, so on a later line.
        cases gap with
        | nil =>
          rw [(List.cons.inj hgap).1, hopens] at hcloses
          cases hcloses
        | cons other gap =>
          have hbehind := (List.pairwise_append.1 (hpair ▸ hordered)).2.1
          have hafter := (List.pairwise_append.1 (List.pairwise_cons.1 hbehind).2).2.1
          have hmem : last ∈ after := by
            rw [(List.cons.inj hgap).2]
            exact List.mem_append_right _ List.mem_cons_self
          rcases List.rel_of_pairwise_cons hafter hmem with hlt | ⟨heq, -⟩ <;> omega
      · cases gap with
        | nil =>
          rw [← (List.cons.inj hgap).1, hopens] at hcloses
          cases hcloses
        | cons other inside =>
          obtain ⟨rfl, hbehind⟩ := List.cons.inj hgap
          exact .inr ⟨middle, inside, hbetween, hbehind⟩
  · cases middle with
    | nil => exact .inl (List.cons.inj hrest).2
    | cons brace middle =>
      have hmem : opener ∈ behind := by
        rw [(List.cons.inj hrest).2]
        exact List.mem_append_right _ List.mem_cons_self
      exact absurd rfl (hlast opener hmem hopener)

/-- The search behind the last brace that opens on a line finds a brace, if a brace that opens on
the line is paired with one on a later line. -/
theorem Pairs.exists_closer (h : document.Pairs opener closer)
    (hordered : document.braces.Pairwise Brace.Precedes) (hline : opener.line < closer.line)
    (hbraces : document.braces = before ++ last :: behind) (hopens : last.opens = true)
    (hlastLine : last.line = opener.line)
    (hlast : ∀ brace ∈ behind, brace.opens = true → brace.line ≠ opener.line) :
    ∃ partner, Brace.closer 0 behind = .ok partner := by
  obtain ⟨_, between, after, hpair, hopener, hcloses, hmatched⟩ := h
  rcases eq_or_between hordered hpair hopener hcloses hline hbraces hopens hlastLine hlast with
    rfl | ⟨front, inside, rfl, rfl⟩
  · exact ⟨closer, Brace.closer_eq_ok_iff.2 ⟨between, after, rfl, hcloses, hmatched⟩⟩
  · obtain ⟨partner, hpartner⟩ := hmatched.exists_closer hopens
    refine ⟨partner, ?_⟩
    rw [Brace.closer_append, hpartner]

/-- What a line folds, if the search behind its last brace that opens finds a brace. -/
theorem fold?_eq_ite {line : Line} {rest : List Brace} {index : Nat}
    (hline : document.lines[index]? = some line)
    (hfound : Brace.lastOpener? (Brace.ofLine index line) = some (last, rest))
    (hcloser : Brace.closer 0
      (rest ++ Brace.ofLines (index + 1) (document.lines.drop (index + 1))) = .ok closer) :
    document.fold? index =
      if index < closer.line then some ⟨last.stop, closer.start⟩ else none := by
  refine Option.ext fun fold => ?_
  rw [fold?_eq_some_iff_closer hline hfound, hcloser]
  by_cases hlt : index < closer.line
  · simp [hlt, eq_comm]
  · simp [hlt]

/-- **The last brace decides whether a line folds.** In a document after any edits, let a brace
that opens be paired with one on a later line. Then the last brace that opens on its line is paired
as well. The line folds from the end of the last brace to the start of its partner, if the partner
stands on a later line. If it stands on the line itself, the line folds nothing. -/
theorem fold?_of_pairs (config : Config) (text : Text) (edits : List Edit) {opener closer : Brace}
    (hpairs : ((ofText config text).applyAll edits).Pairs opener closer)
    (hline : opener.line < closer.line) :
    let document := (ofText config text).applyAll edits
    ∃ last partner, document.Pairs last partner ∧ last.line = opener.line ∧
      (∀ brace ∈ document.braces, brace.opens = true → brace.line = opener.line →
        brace = last ∨ brace.Precedes last) ∧
      document.fold? opener.line =
        if opener.line < partner.line then some ⟨last.stop, partner.start⟩ else none := by
  intro document
  have hordered : document.braces.Pairwise Brace.Precedes :=
    ((current_ofText config text).applyAll edits).1.pairwise_braces.1
  have hopener : opener ∈ document.braces ∧ opener.opens = true := by
    obtain ⟨before, between, after, hbraces, hopens, -⟩ := hpairs
    exact ⟨by simp [document, hbraces], hopens⟩
  obtain ⟨line, last, rest, hget, hfound⟩ := exists_lastOpener?_of_mem hopener.1 hopener.2
  obtain ⟨before, hbraces, hbehind⟩ := braces_eq_append_lastOpener? hget hfound
  obtain ⟨hopens, hlastLine, -⟩ := Brace.of_lastOpener?_ofLine hfound
  obtain ⟨partner, hpartner⟩ :=
    hpairs.exists_closer hordered hline hbraces hopens hlastLine hbehind
  refine ⟨last, partner, pairs_of_closer hbraces hopens hpartner, hlastLine, ?_,
    fold?_eq_ite hget hfound hpartner⟩
  intro brace hbrace hbraceOpens hbraceLine
  rw [hbraces] at hbrace hordered
  rcases List.mem_append.1 hbrace with hbrace | hbrace
  · exact .inr ((List.pairwise_append.1 hordered).2.2 brace hbrace last List.mem_cons_self)
  · rcases List.mem_cons.1 hbrace with rfl | hbrace
    · exact .inl rfl
    · exact absurd hbraceLine (hbehind brace hbrace hbraceOpens)

/-- The theorem where the last of three braces that open on a line is paired on a later line,
inside the pair of the first one. -/
theorem fold?_of_pairs_nested :
    let edits : List Edit := [.replace 0 r"{ {} if x {".toList]
    let document := (ofText {} (Text.joinLines [['{'], ['}'], ['}']])).applyAll edits
    let opener : Brace := ⟨true, 0, ⟨0, 1, none⟩⟩
    let closer : Brace := ⟨false, 2, ⟨0, 1, none⟩⟩
    (document.Pairs opener closer ∧ opener.line < closer.line) ∧
      ∃ last partner, document.Pairs last partner ∧ last.line = opener.line ∧
        (∀ brace ∈ document.braces, brace.opens = true → brace.line = opener.line →
          brace = last ∨ brace.Precedes last) ∧
        document.fold? opener.line =
          if opener.line < partner.line then some ⟨last.stop, partner.start⟩ else none := by
  intro edits document opener closer
  let inside : List Brace := [⟨true, 0, ⟨2, 3, none⟩⟩, ⟨false, 0, ⟨3, 4, none⟩⟩,
    ⟨true, 0, ⟨10, 11, none⟩⟩, ⟨false, 1, ⟨0, 1, none⟩⟩]
  have hbraces : document.braces = [] ++ opener :: (inside ++ [closer]) := by decide +kernel
  have hpairs : document.Pairs opener closer := pairs_of_closer hbraces rfl rfl
  exact ⟨⟨hpairs, Nat.zero_lt_two⟩, fold?_of_pairs {} _ edits hpairs Nat.zero_lt_two⟩

/-- Not every pair that crosses the end of a line makes the line fold: where another pair stands
behind the brace on its line, that one is looked at, and it does not cross. -/
theorem not_fold?_of_every_pair :
    ¬ ∀ (config : Config) (text : Text) (edits : List Edit) (index : Nat),
      let document := (ofText config text).applyAll edits
      (∃ opener closer, document.Pairs opener closer ∧ opener.line = index ∧ index < closer.line) →
        ∃ opener closer, document.Pairs opener closer ∧ opener.line = index ∧
          index < closer.line ∧ document.fold? index = some ⟨opener.stop, closer.start⟩ := by
  intro h
  let document := (ofText {} (Text.joinLines [r"{ {}".toList, ['}']])).applyAll []
  let opener : Brace := ⟨true, 0, ⟨0, 1, none⟩⟩
  let closer : Brace := ⟨false, 1, ⟨0, 1, none⟩⟩
  let inside : List Brace := [⟨true, 0, ⟨2, 3, none⟩⟩, ⟨false, 0, ⟨3, 4, none⟩⟩]
  have hbraces : document.braces = [] ++ opener :: (inside ++ [closer]) := by decide +kernel
  have hpairs : document.Pairs opener closer := pairs_of_closer hbraces rfl rfl
  have hnone : document.fold? 0 = none := by decide +kernel
  obtain ⟨other, partner, -, -, -, hsome⟩ := h {} _ [] 0 ⟨opener, closer, hpairs, rfl, Nat.one_pos⟩
  rw [show Document.fold? _ 0 = none from hnone] at hsome
  cases hsome

end Document

end SyntaxMode
