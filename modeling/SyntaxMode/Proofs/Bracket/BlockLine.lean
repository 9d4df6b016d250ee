import SyntaxMode.Proofs.Bracket.Balanced

/-!
# Block lines

A bracket has its partner on a line if a balanced part of the line begins or ends with it. In a
block line, the only brackets without one are a closing bracket that comes first and an opening one
that only comments follow. Where each closing bracket has its partner, a line is balanced up to the
first opening bracket that has none (`exists_balanced_append`); so a block line is balanced between
the two (`BlockLine.exists_balanced_append`).
-/

namespace SyntaxMode

/-- Whether a fragment that is a bracket has its partner on the line, on which it stands between
fragments before it and fragments after it. -/
def Fragment.Partnered (before : List Fragment) (fragment : Fragment) (after : List Fragment) :
    Prop :=
  (fragment.opens → ∃ count < after.length + 1, Balanced (fragment :: after.take count)) ∧
    (fragment.closes → ∃ count < before.length + 1, Balanced (before.drop count ++ [fragment]))

instance (before : List Fragment) (fragment : Fragment) (after : List Fragment) :
    Decidable (fragment.Partnered before after) :=
  inferInstanceAs (Decidable (_ ∧ _))

/-- Whether each bracket on a line with the given lexemes has its partner on the line. -/
def Enclosed (lexemes : List Fragment) : Prop :=
  ∀ index (h : index < lexemes.length),
    lexemes[index].Partnered (lexemes.take index) (lexemes.drop (index + 1))

instance (lexemes : List Fragment) : Decidable (Enclosed lexemes) :=
  inferInstanceAs (Decidable (∀ _, _))

/-- Whether each bracket on a line with the given lexemes that has no partner on the line closes
and is the first lexeme, or opens and has only comments after it. -/
def BlockLine (lexemes : List Fragment) : Prop :=
  ∀ index (h : index < lexemes.length),
    lexemes[index].Partnered (lexemes.take index) (lexemes.drop (index + 1)) ∨
      (lexemes[index].closes ∧ index = 0) ∨
      (lexemes[index].opens ∧
        ∀ fragment ∈ lexemes.drop (index + 1), fragment.style = some .comment)

instance (lexemes : List Fragment) : Decidable (BlockLine lexemes) :=
  inferInstanceAs (Decidable (∀ _, _))

/-! ## The balanced part of a line -/

section
variable {lexemes before after : List Fragment} {fragment : Fragment}

/-- Fragments begin with balanced ones that cannot be extended. -/
theorem exists_longest_balanced (fragments : List Fragment) :
    ∃ middle rest, fragments = middle ++ rest ∧ Balanced middle ∧
      ∀ count < rest.length, ¬ Balanced (rest.take (count + 1)) := by
  induction hlength : fragments.length using Nat.strongRecOn generalizing fragments with
  | _ length ih =>
    -- A balanced part at the front goes to the balanced ones, and what is left is shorter.
    by_cases h : ∃ count < fragments.length, Balanced (fragments.take (count + 1))
    · obtain ⟨count, hcount, hbalanced⟩ := h
      have hdrop : (fragments.drop (count + 1)).length < length := by
        rw [List.length_drop]
        omega
      obtain ⟨middle, rest, hrest, hmiddle, hlongest⟩ := ih _ hdrop _ rfl
      refine ⟨fragments.take (count + 1) ++ middle, rest, ?_, hbalanced.append hmiddle, hlongest⟩
      rw [List.append_assoc, ← hrest, List.take_append_drop]
    · refine ⟨[], fragments, rfl, balanced_nil, ?_⟩
      intro count hcount hbalanced
      exact h ⟨count, hcount, hbalanced⟩

/-- Behind balanced fragments no bracket closes that has its partner among them. -/
theorem Balanced.not_partnered (h : Balanced before) (hcloses : fragment.closes = true) :
    ¬ fragment.Partnered before after := by
  rintro ⟨-, hpartner⟩
  obtain ⟨count, -, hbalanced⟩ := hpartner hcloses
  obtain ⟨delimiter, heffect⟩ := Fragment.closes_iff.1 hcloses
  have hdrop (outer : List Delimiter) :
      unclosed? outer (before.drop count) = some (delimiter :: outer) :=
    unclosed?_frame outer (unclosed?_of_balanced_append heffect hbalanced)
  rw [Balanced, ← List.take_append_drop count before, unclosed?_append,
    Option.bind_eq_some_iff] at h
  obtain ⟨opened, -, hempty⟩ := h
  rw [hdrop] at hempty
  cases hempty

/-- Where each closing bracket has its partner, fragments are balanced up to the first opening one
that has none. -/
theorem exists_balanced_append
    (h : ∀ before fragment after, lexemes = before ++ fragment :: after → fragment.closes = true →
      fragment.Partnered before after) :
    ∃ middle trail, lexemes = middle ++ trail ∧ Balanced middle ∧
      ∀ opener after, trail = opener :: after →
        opener.opens = true ∧ ¬ opener.Partnered middle after := by
  obtain ⟨middle, trail, htrail, hmiddle, hlongest⟩ := exists_longest_balanced lexemes
  refine ⟨middle, trail, htrail, hmiddle, ?_⟩
  rintro opener after rfl
  -- No other fragment can come next: it would extend the balanced ones, or its partner is in them.
  have hcloses : opener.closes = false := by
    rw [← Bool.not_eq_true]
    intro hcloses
    exact hmiddle.not_partnered hcloses (h middle opener after htrail hcloses)
  have hopens : opener.opens = true := by
    rw [← Bool.not_eq_false]
    intro hopens
    refine hlongest 0 (Nat.succ_pos _) ?_
    rw [List.take_succ_cons, List.take_zero, Balanced, unclosed?_cons,
      Fragment.unclosed?_of_opens_of_closes hopens hcloses]
    rfl
  refine ⟨hopens, ?_⟩
  intro hpartner
  obtain ⟨count, hcount, hbalanced⟩ := hpartner.1 hopens
  exact hlongest count hcount hbalanced

/-! ## Lines -/

/-- Each bracket of an enclosed line has its partner on the line. -/
theorem Enclosed.partnered (h : Enclosed (before ++ fragment :: after)) :
    fragment.Partnered before after := by
  have hindex := h before.length (by simp)
  simpa using hindex

/-- A bracket of a block line has its partner on the line, or it closes and comes first, or it
opens and only comments come behind it. -/
theorem BlockLine.partnered_or (h : BlockLine (before ++ fragment :: after)) :
    fragment.Partnered before after ∨ (fragment.closes ∧ before = []) ∨
      (fragment.opens ∧ ∀ other ∈ after, other.style = some .comment) := by
  have hindex := h before.length (by simp)
  simpa using hindex

/-- A line on which each bracket has its partner is balanced. -/
theorem Enclosed.balanced (h : Enclosed lexemes) : Balanced lexemes := by
  have hcloses : ∀ before fragment after, lexemes = before ++ fragment :: after →
      fragment.closes = true → fragment.Partnered before after := by
    rintro before fragment after rfl -
    exact h.partnered
  obtain ⟨middle, trail, rfl, hmiddle, htrail⟩ := exists_balanced_append hcloses
  cases trail with
  | nil => rwa [List.append_nil]
  | cons opener after => exact absurd h.partnered (htrail opener after rfl).2

/-- A closing bracket at the start of a line is the partner of nothing behind it. -/
theorem Fragment.Partnered.of_cons {closer : Fragment} (hcloser : closer.closes = true)
    (h : fragment.Partnered (closer :: before) after) : fragment.Partnered before after := by
  refine ⟨h.1, ?_⟩
  intro hcloses
  obtain ⟨count, hcount, hbalanced⟩ := h.2 hcloses
  cases count with
  | zero =>
    have hfirst : closer.closes = false := Balanced.closes_head hbalanced
    rw [hcloser] at hfirst
    cases hfirst
  | succ count => exact ⟨count, Nat.lt_of_succ_lt_succ hcount, hbalanced⟩

/-- On a block line that does not begin with a closing bracket, each closing one has its
partner. -/
theorem BlockLine.partnered_of_head (h : BlockLine lexemes)
    (hhead : ∀ fragment ∈ lexemes.head?, fragment.closes = false) :
    ∀ before fragment after, lexemes = before ++ fragment :: after → fragment.closes = true →
      fragment.Partnered before after := by
  rintro before fragment after rfl hcloses
  rcases h.partnered_or with hpartner | ⟨-, rfl⟩ | ⟨hopens, -⟩
  · exact hpartner
  · rw [hhead fragment rfl] at hcloses
    cases hcloses
  · rw [Fragment.opens_of_closes hcloses] at hopens
    cases hopens

/-- On a block line that begins with a closing bracket, each other one has its partner behind that
bracket. -/
theorem BlockLine.partnered_of_closer {closer : Fragment} (h : BlockLine (closer :: lexemes))
    (hcloser : closer.closes = true) :
    ∀ before fragment after, lexemes = before ++ fragment :: after → fragment.closes = true →
      fragment.Partnered before after := by
  rintro before fragment after rfl hcloses
  rw [← List.cons_append] at h
  rcases h.partnered_or with hpartner | ⟨-, hnil⟩ | ⟨hopens, -⟩
  · exact hpartner.of_cons hcloser
  · cases hnil
  · rw [Fragment.opens_of_closes hcloses] at hopens
    cases hopens

/-- The part of a block line on which each closing bracket has its partner is balanced up to an
opening bracket that only comments follow. -/
theorem BlockLine.exists_balanced_append (lead : List Fragment) (h : BlockLine (lead ++ lexemes))
    (hcloses : ∀ before fragment after, lexemes = before ++ fragment :: after →
      fragment.closes = true → fragment.Partnered before after) :
    ∃ middle trail, lexemes = middle ++ trail ∧ Balanced middle ∧
      ∀ opener after, trail = opener :: after →
        opener.opens = true ∧ ∀ other ∈ after, other.style = some .comment := by
  obtain ⟨middle, trail, rfl, hmiddle, htrail⟩ := SyntaxMode.exists_balanced_append hcloses
  refine ⟨middle, trail, rfl, hmiddle, ?_⟩
  rintro opener after rfl
  obtain ⟨hopens, hpartner⟩ := htrail opener after rfl
  rw [← List.append_assoc] at h
  refine ⟨hopens, ?_⟩
  rcases h.partnered_or with hpartnered | ⟨hclosing, -⟩ | ⟨-, hcomments⟩
  · refine absurd ⟨hpartnered.1, ?_⟩ hpartner
    intro hclosing
    rw [Fragment.opens_of_closes hclosing] at hopens
    cases hopens
  · rw [Fragment.opens_of_closes hclosing] at hopens
    cases hopens
  · exact hcomments

end

end SyntaxMode
