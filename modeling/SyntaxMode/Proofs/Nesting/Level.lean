import SyntaxMode.Proofs.Nesting.Follow
import SyntaxMode.Proofs.Token.Fragment

/-!
# Contexts by level

The contexts around a place stand on levels: level 0 is the outside of all brackets, and each open
bracket inwards is one level higher. A context keeps its level as long as it is open. Only the
innermost one can become of another kind, and of what a lexeme does only a word that opens an arm
makes it so (`kindAt?_follow`); a bracket that opens or closes leaves the levels below it as they
are (`kindAt?_push`, `kindAt?_close`).
-/

namespace SyntaxMode.Nesting

/-- The kind of the context on a level, if there is one. -/
def kindAt? (nesting : Nesting) (level : Nat) : Option Context.Kind :=
  nesting.toList[level]?.map Context.kind

section
variable (nesting : Nesting) (level : Nat)

/-- A bracket that opens stands on a level of its own. -/
theorem kindAt?_push (context : Context) :
    (nesting.push context).kindAt? level =
      if level = nesting.depth + 1 then some context.kind else nesting.kindAt? level := by
  have hlist : (nesting.push context).toList = nesting.toList ++ [context] := by
    simp [toList, push]
  have hlength : nesting.toList.length = nesting.depth + 1 := by simp [toList, depth]
  rw [kindAt?, kindAt?, hlist]
  rcases Nat.lt_trichotomy level (nesting.depth + 1) with hlt | rfl | hgt
  · rw [if_neg (Nat.ne_of_lt hlt), List.getElem?_append_left (by omega)]
  · rw [if_pos rfl, ← hlength, List.getElem?_concat_length]
    rfl
  · rw [if_neg (Nat.ne_of_gt hgt), List.getElem?_eq_none (by simp; omega),
      List.getElem?_eq_none (by omega)]

/-- The innermost context stands on the highest level. -/
theorem kindAt?_depth : nesting.kindAt? nesting.depth = some nesting.innermost.kind := by
  obtain ⟨outside, _ | ⟨context, outer⟩⟩ := nesting
  · rfl
  · exact (kindAt?_push ⟨outside, outer⟩ _ context).trans (if_pos rfl)

/-- A change of the innermost context changes the kind on the highest level only. -/
theorem kindAt?_modify {change : Context → Context} {turn : Context.Kind → Context.Kind}
    (h : ∀ context, (change context).kind = turn context.kind) :
    (nesting.modify change).kindAt? level =
      if level = nesting.depth then (nesting.kindAt? level).map turn
      else nesting.kindAt? level := by
  obtain ⟨outside, _ | ⟨context, outer⟩⟩ := nesting
  · cases level with
    | zero => exact congrArg some (h outside)
    | succ level => rfl
  · have hmodify := kindAt?_push ⟨outside, outer⟩ level (change context)
    have hpush := kindAt?_push ⟨outside, outer⟩ level context
    have hdepth : depth ⟨outside, context :: outer⟩ = depth ⟨outside, outer⟩ + 1 := rfl
    rw [hdepth]
    refine hmodify.trans ?_
    split
    next hlevel =>
      rw [if_pos hlevel] at hpush
      rw [show kindAt? ⟨outside, context :: outer⟩ level = _ from hpush, h]
      rfl
    next hlevel =>
      rw [if_neg hlevel] at hpush
      exact hpush.symm

/-- A change that keeps the kind of the innermost context changes no kinds. -/
theorem kindAt?_modify_of_kind {change : Context → Context}
    (h : ∀ context, (change context).kind = context.kind) :
    (nesting.modify change).kindAt? level = nesting.kindAt? level := by
  have hmodify : (nesting.modify change).kindAt? level =
      if level = nesting.depth then (nesting.kindAt? level).map id else nesting.kindAt? level :=
    kindAt?_modify nesting level h
  rw [hmodify, Option.map_id]
  exact ite_self _

variable {nesting level}

/-- A bracket that closes leaves the levels of the contexts that are still open as they are. -/
theorem kindAt?_close {delimiter : Delimiter} (h : level ≤ (nesting.close delimiter).depth) :
    (nesting.close delimiter).kindAt? level = nesting.kindAt? level := by
  rw [close] at h ⊢
  split
  next hkind =>
    rw [if_pos hkind] at h
    obtain ⟨outside, _ | ⟨context, outer⟩⟩ := nesting
    · rfl
    · have hlevel : level ≤ depth ⟨outside, outer⟩ := h
      exact ((kindAt?_push ⟨outside, outer⟩ level context).trans (if_neg (by omega))).symm
  next => rfl

/-- A bracket that closes ends the innermost context if that is a block of its pair. -/
theorem depth_close_eq (delimiter : Delimiter) (nesting : Nesting) :
    (nesting.close delimiter).depth =
      if nesting.innermost.kind = .block delimiter then nesting.depth - 1 else nesting.depth := by
  rw [close]
  split
  · obtain ⟨outside, _ | ⟨context, outer⟩⟩ := nesting <;> rfl
  · rfl

/-- **What a lexeme does to the levels.** On the levels that are there before and behind a lexeme,
the kinds stay as they are, unless the lexeme is a word that opens an arm: it makes the innermost
context an arm. -/
theorem kindAt?_follow (fragment : Fragment) {opening : Delimiter → Context}
    (hlevel : level ≤ nesting.depth)
    (hafter : level ≤ (nesting.follow fragment.style fragment.effect? opening).depth) :
    (nesting.follow fragment.style fragment.effect? opening).kindAt? level =
      if fragment.effect? = some .arm ∧ level = nesting.depth then some .arm
      else nesting.kindAt? level := by
  have hdepth : (nesting.modify Context.afterLexeme).depth = nesting.depth := depth_modify _ _
  have hkind : (nesting.modify Context.afterLexeme).kindAt? level = nesting.kindAt? level :=
    kindAt?_modify_of_kind nesting level fun _ => rfl
  simp only [follow] at hafter ⊢
  split at hafter
  next hcomment =>
    have hnone : fragment.effect? = none := by rw [Fragment.effect?, hcomment]
    simp [hcomment, hnone]
  next hcomment =>
    rw [if_neg hcomment]
    cases hcase : fragment.effect? with
    | none => simpa using hkind
    | some effect =>
      rw [hcase] at hafter
      cases effect with
      | opening delimiter =>
        rw [kindAt?_push, if_neg (by omega), hkind]
        simp
      | closing delimiter =>
        rw [kindAt?_close hafter, hkind]
        simp
      | arm =>
        have hopen : ((nesting.modify Context.afterLexeme).modify Context.openArm).kindAt? level =
            if level = nesting.depth then (nesting.kindAt? level).map fun _ => .arm
            else nesting.kindAt? level := by
          rw [← hdepth, ← hkind]
          exact kindAt?_modify _ level fun _ => rfl
        rw [hopen]
        by_cases hlevel : level = nesting.depth
        · subst hlevel
          simp [kindAt?_depth]
        · simp [hlevel]

end

end SyntaxMode.Nesting
