import SyntaxMode.Proofs.Fold.Braces

/-!
# Matching braces

A brace that opens is matched by the first brace behind it with which more braces have closed than
have opened. This is what the search for the end of a fold comes to: a count that runs through
braces ends in the number it began with, raised by the braces that open and lowered by those that
close (`closer_eq_error_iff`), unless a prefix closes more than that (`closer_eq_ok_iff`). So a
line folds from its last brace that opens to the brace that matches it, if that stands on a later
line (`fold?_eq_some_iff`).
-/

namespace SyntaxMode

namespace Brace

/-- The number of braces that open. -/
def opened (braces : List Brace) : Nat := braces.countP Brace.opens

/-- The number of braces that close. -/
def closed (braces : List Brace) : Nat := braces.countP fun brace => !brace.opens

/-- Whether no prefix of the braces closes more than the braces that it opens and some that are
open around it. -/
def Contained (around : Nat) (braces : List Brace) : Prop :=
  ∀ front, front <+: braces → closed front ≤ around + opened front

/-- Whether the braces match one another: as many close as open, and no prefix closes more. -/
def Matched (braces : List Brace) : Prop :=
  (∀ front, front <+: braces → closed front ≤ opened front) ∧ closed braces = opened braces

/-! ## Counting -/

section
variable {brace : Brace}

@[simp] theorem opened_nil : opened [] = 0 := rfl

@[simp] theorem closed_nil : closed [] = 0 := rfl

@[simp] theorem opened_append (front behind : List Brace) :
    opened (front ++ behind) = opened front + opened behind := List.countP_append

@[simp] theorem closed_append (front behind : List Brace) :
    closed (front ++ behind) = closed front + closed behind := List.countP_append

/-- A brace that opens counts among those that open. -/
theorem opened_cons_of_opens (h : brace.opens = true) (rest : List Brace) :
    opened (brace :: rest) = opened rest + 1 := List.countP_cons_of_pos h

/-- A brace that opens does not count among those that close. -/
theorem closed_cons_of_opens (h : brace.opens = true) (rest : List Brace) :
    closed (brace :: rest) = closed rest := List.countP_cons_of_neg (by simp [h])

/-- A brace that closes does not count among those that open. -/
theorem opened_cons_of_closes (h : brace.opens = false) (rest : List Brace) :
    opened (brace :: rest) = opened rest := List.countP_cons_of_neg (by simp [h])

/-- A brace that closes counts among those that close. -/
theorem closed_cons_of_closes (h : brace.opens = false) (rest : List Brace) :
    closed (brace :: rest) = closed rest + 1 := List.countP_cons_of_pos (by simp [h])

/-- Without braces nothing closes. -/
theorem contained_nil (around : Nat) : Contained around [] := by
  intro front hfront
  rw [List.prefix_nil.1 hfront]
  exact Nat.zero_le _

/-- Behind a brace that opens, one more brace is open around. -/
theorem contained_cons_of_opens (h : brace.opens = true) {around : Nat} {rest : List Brace} :
    Contained around (brace :: rest) ↔ Contained (around + 1) rest := by
  constructor
  · intro hcontained front hfront
    have hcount := hcontained (brace :: front) (List.cons_prefix_cons.2 ⟨rfl, hfront⟩)
    rw [opened_cons_of_opens h, closed_cons_of_opens h] at hcount
    omega
  · intro hcontained front hfront
    rcases List.prefix_cons_iff.1 hfront with rfl | ⟨tail, rfl, htail⟩
    · exact Nat.zero_le _
    · have hcount := hcontained tail htail
      rw [opened_cons_of_opens h, closed_cons_of_opens h]
      omega

/-- A brace that closes needs one that is open around it, and behind it one less is open. -/
theorem contained_cons_of_closes (h : brace.opens = false) {around : Nat} {rest : List Brace} :
    Contained around (brace :: rest) ↔ ∃ outer, around = outer + 1 ∧ Contained outer rest := by
  constructor
  · intro hcontained
    have hfirst := hcontained [brace] (List.prefix_append [brace] rest)
    rw [opened_cons_of_closes h, closed_cons_of_closes h, closed_nil, opened_nil] at hfirst
    refine ⟨around - 1, by omega, ?_⟩
    intro front hfront
    have hcount := hcontained (brace :: front) (List.cons_prefix_cons.2 ⟨rfl, hfront⟩)
    rw [opened_cons_of_closes h, closed_cons_of_closes h] at hcount
    omega
  · rintro ⟨outer, rfl, hcontained⟩ front hfront
    rcases List.prefix_cons_iff.1 hfront with rfl | ⟨tail, rfl, htail⟩
    · exact Nat.zero_le _
    · have hcount := hcontained tail htail
      rw [opened_cons_of_closes h, closed_cons_of_closes h]
      omega

/-- Braces match one another if they are contained in nothing and as many close as open. -/
theorem matched_iff {braces : List Brace} :
    Matched braces ↔ Contained 0 braces ∧ closed braces = opened braces := by
  simp only [Matched, Contained, Nat.zero_add]

/-- In a matched run nothing behind a brace that opens closes that brace before the run closes
it. -/
theorem Matched.not_contained {front inside : List Brace} (h : Matched (front ++ brace :: inside))
    (hopens : brace.opens = true) : ¬ Contained 0 inside := by
  intro hcontained
  have hfront := h.1 front (List.prefix_append ..)
  have hinside := hcontained inside (List.prefix_refl inside)
  have hcount := h.2
  rw [opened_append, closed_append, opened_cons_of_opens hopens, closed_cons_of_opens hopens]
    at hcount
  omega

end

/-! ## The search -/

section
variable {depth : Nat} {braces : List Brace}

/-- A brace that opens has to be closed first. -/
theorem closer_cons_of_opens {brace : Brace} (h : brace.opens = true) (rest : List Brace) :
    closer depth (brace :: rest) = closer (depth + 1) rest := by
  rw [closer.eq_def]
  exact if_pos h

/-- Where nothing inside is left open, a brace that closes is the one that is looked for. -/
theorem closer_zero_cons_of_closes {brace : Brace} (h : brace.opens = false) (rest : List Brace) :
    closer 0 (brace :: rest) = .ok brace := by
  rw [closer, h]
  rfl

/-- A brace that closes one inside lets the search go on with one less. -/
theorem closer_succ_cons_of_closes {brace : Brace} (h : brace.opens = false) (rest : List Brace) :
    closer (depth + 1) (brace :: rest) = closer depth rest := by
  rw [closer, h]
  rfl

/-- The count of a search that finds no brace. -/
theorem closer_eq_error_iff {left : Nat} :
    closer depth braces = .error left ↔
      Contained depth braces ∧ depth + opened braces = left + closed braces := by
  induction braces generalizing depth with
  | nil =>
    rw [closer, Except.error.injEq]
    exact ⟨fun h => ⟨contained_nil depth, congrArg (· + 0) h⟩, fun h => h.2⟩
  | cons brace rest ih =>
    cases hbrace : brace.opens with
    | true =>
      rw [closer_cons_of_opens hbrace, ih, contained_cons_of_opens hbrace,
        opened_cons_of_opens hbrace, closed_cons_of_opens hbrace]
      refine and_congr_right fun _ => ?_
      omega
    | false =>
      rw [contained_cons_of_closes hbrace, opened_cons_of_closes hbrace,
        closed_cons_of_closes hbrace]
      cases depth with
      | zero =>
        rw [closer_zero_cons_of_closes hbrace]
        refine iff_of_false (by simp) ?_
        rintro ⟨⟨outer, hzero, -⟩, -⟩
        cases hzero
      | succ outer =>
        rw [closer_succ_cons_of_closes hbrace, ih]
        constructor
        · rintro ⟨hcontained, hcount⟩
          exact ⟨⟨outer, rfl, hcontained⟩, by omega⟩
        · rintro ⟨⟨_, hsucc, hcontained⟩, hcount⟩
          cases hsucc
          exact ⟨hcontained, by omega⟩

/-- A search goes on behind braces among which it finds none. -/
theorem closer_append (front behind : List Brace) :
    closer depth (front ++ behind) =
      match closer depth front with
      | .ok brace => .ok brace
      | .error left => closer left behind := by
  induction front generalizing depth with
  | nil => rfl
  | cons brace front ih =>
    rw [List.cons_append]
    cases hbrace : brace.opens with
    | true => rw [closer_cons_of_opens hbrace, closer_cons_of_opens hbrace, ih]
    | false =>
      cases depth with
      | zero => rw [closer_zero_cons_of_closes hbrace, closer_zero_cons_of_closes hbrace]
      | succ outer => rw [closer_succ_cons_of_closes hbrace, closer_succ_cons_of_closes hbrace, ih]

/-- A search that finds a brace has come to a brace that closes with nothing left open. -/
theorem exists_of_closer_eq_ok {found : Brace} (h : closer depth braces = .ok found) :
    ∃ between after, braces = between ++ found :: after ∧ found.opens = false ∧
      closer depth between = .error 0 := by
  induction braces generalizing depth with
  | nil => cases h
  | cons brace rest ih =>
    cases hbrace : brace.opens with
    | true =>
      rw [closer_cons_of_opens hbrace] at h
      obtain ⟨between, after, rfl, hfound, hbetween⟩ := ih h
      exact ⟨brace :: between, after, rfl, hfound, by rwa [closer_cons_of_opens hbrace]⟩
    | false =>
      cases depth with
      | zero =>
        rw [closer_zero_cons_of_closes hbrace] at h
        cases h
        exact ⟨[], rest, rfl, hbrace, rfl⟩
      | succ outer =>
        rw [closer_succ_cons_of_closes hbrace] at h
        obtain ⟨between, after, rfl, hfound, hbetween⟩ := ih h
        exact ⟨brace :: between, after, rfl, hfound, by rwa [closer_succ_cons_of_closes hbrace]⟩

/-- **The brace that a search finds.** It closes, and the braces before it match one another. -/
theorem closer_eq_ok_iff {found : Brace} :
    closer 0 braces = .ok found ↔
      ∃ between after, braces = between ++ found :: after ∧ found.opens = false ∧
        Matched between := by
  have hmatched (between : List Brace) : Matched between ↔ closer 0 between = .error 0 := by
    rw [matched_iff, closer_eq_error_iff, Nat.zero_add, Nat.zero_add, eq_comm]
  constructor
  · intro h
    obtain ⟨between, after, hbraces, hfound, hbetween⟩ := exists_of_closer_eq_ok h
    exact ⟨between, after, hbraces, hfound, (hmatched between).2 hbetween⟩
  · rintro ⟨between, after, rfl, hfound, hbetween⟩
    rw [closer_append, (hmatched between).1 hbetween]
    exact closer_zero_cons_of_closes hfound after

/-- A search through lines is one through their braces. -/
theorem closerInLines?_eq (index : Nat) (lines : List Line) :
    closerInLines? depth index lines = (closer depth (ofLines index lines)).toOption := by
  induction lines generalizing depth index with
  | nil => rfl
  | cons line rest ih =>
    rw [closerInLines?, ofLines, closer_append]
    cases closer depth (ofLine index line) with
    | ok brace => rfl
    | error left => exact ih (index + 1)

end

/-! ## The last brace that opens -/

/-- There is no last brace that opens if none does. -/
theorem lastOpener?_eq_none_iff {braces : List Brace} :
    lastOpener? braces = none ↔ ∀ brace ∈ braces, brace.opens = false := by
  induction braces with
  | nil => simp [lastOpener?]
  | cons brace rest ih =>
    rw [lastOpener?, List.forall_mem_cons]
    cases hrest : lastOpener? rest with
    | none => simpa using fun _ => ih.1 hrest
    | some found =>
      refine iff_of_false (by simp) ?_
      rintro ⟨-, hnone⟩
      rw [ih.2 hnone] at hrest
      cases hrest

/-- The last brace that opens has only braces that close behind it. -/
theorem lastOpener?_eq_some_iff {braces behind : List Brace} {opener : Brace} :
    lastOpener? braces = some (opener, behind) ↔
      ∃ before, braces = before ++ opener :: behind ∧ opener.opens = true ∧
        ∀ brace ∈ behind, brace.opens = false := by
  induction braces with
  | nil => simp [lastOpener?]
  | cons brace rest ih =>
    rw [lastOpener?]
    cases hrest : lastOpener? rest with
    | none =>
      have hnone := lastOpener?_eq_none_iff.1 hrest
      constructor
      · intro h
        obtain ⟨hopens, heq⟩ : brace.opens = true ∧ (brace, rest) = (opener, behind) := by
          simpa using h
        cases heq
        exact ⟨[], rfl, hopens, hnone⟩
      · rintro ⟨before, hbraces, hopens, -⟩
        cases before with
        | nil =>
          cases hbraces
          exact if_pos hopens
        | cons first before =>
          cases hbraces
          rw [hnone opener (List.mem_append_right _ List.mem_cons_self)] at hopens
          cases hopens
    | some found =>
      show some found = some (opener, behind) ↔ _
      rw [← hrest, ih]
      constructor
      · rintro ⟨before, rfl, hlast⟩
        exact ⟨brace :: before, rfl, hlast⟩
      · rintro ⟨before, hbraces, hopens, hbehind⟩
        cases before with
        | nil =>
          cases hbraces
          rw [lastOpener?_eq_none_iff.2 hbehind] at hrest
          cases hrest
        | cons first before =>
          cases hbraces
          exact ⟨before, rfl, hopens, hbehind⟩

/-- The last brace that opens on a line, and the braces behind it on the line. -/
theorem of_lastOpener?_ofLine {index : Nat} {line : Line} {opener : Brace} {rest : List Brace}
    (h : lastOpener? (ofLine index line) = some (opener, rest)) :
    opener.opens = true ∧ opener.line = index ∧
      ∀ brace ∈ rest, brace.opens = false ∧ brace.line = index := by
  obtain ⟨before, hofLine, hopens, hrest⟩ := lastOpener?_eq_some_iff.1 h
  have hline : ∀ brace ∈ opener :: rest, brace.line = index := by
    intro brace hbrace
    have hmem : brace ∈ ofLine index line := by
      rw [hofLine]
      exact List.mem_append_right _ hbrace
    exact (mem_ofLine_iff.1 hmem).1
  exact ⟨hopens, hline opener List.mem_cons_self,
    fun brace hbrace => ⟨hrest brace hbrace, hline brace (List.mem_cons_of_mem _ hbrace)⟩⟩

/-- A list has only one last place where a condition holds. -/
theorem eq_of_append_cons_eq {α : Type} {p : α → Prop} {a b a' b' : List α} {x x' : α}
    (h : a ++ x :: b = a' ++ x' :: b') (hx : p x) (hx' : p x') (hb : ∀ y ∈ b, ¬ p y)
    (hb' : ∀ y ∈ b', ¬ p y) : a = a' ∧ x = x' ∧ b = b' := by
  rcases List.append_eq_append_iff.1 h with ⟨middle, rfl, hrest⟩ | ⟨middle, rfl, hrest⟩
  · cases middle with
    | nil =>
      cases hrest
      exact ⟨(List.append_nil a).symm, rfl, rfl⟩
    | cons y middle =>
      cases hrest
      exact absurd hx' (hb x' (List.mem_append_right _ List.mem_cons_self))
  · cases middle with
    | nil =>
      cases hrest
      exact ⟨List.append_nil a', rfl, rfl⟩
    | cons y middle =>
      cases hrest
      exact absurd hx (hb' x (List.mem_append_right _ List.mem_cons_self))

end Brace

/-! ## Folds -/

namespace Document

variable {document : Document} {index : Nat} {line : Line} {before behind rest : List Brace}
  {opener : Brace}

/-- The braces of a document, behind the last one that opens on a line. -/
theorem braces_eq_append_lastOpener? (hline : document.lines[index]? = some line)
    (hfound : Brace.lastOpener? (Brace.ofLine index line) = some (opener, rest)) :
    ∃ before, document.braces = before ++ opener ::
        (rest ++ Brace.ofLines (index + 1) (document.lines.drop (index + 1))) ∧
      ∀ brace ∈ rest ++ Brace.ofLines (index + 1) (document.lines.drop (index + 1)),
        brace.opens = true → brace.line ≠ index := by
  obtain ⟨before, hofLine, -, -⟩ := Brace.lastOpener?_eq_some_iff.1 hfound
  refine ⟨Brace.ofLines 0 (document.lines.take index) ++ before, ?_, ?_⟩
  · rw [braces_eq_append hline, hofLine]
    simp
  · intro brace hbrace hopens
    rcases List.mem_append.1 hbrace with hbrace | hbrace
    · rw [((Brace.of_lastOpener?_ofLine hfound).2.2 brace hbrace).1] at hopens
      cases hopens
    · have hle := Brace.le_line_of_mem_ofLines hbrace
      omega

/-- What the search for the end of a fold comes to. -/
theorem fold?_eq_some_iff_closer (hline : document.lines[index]? = some line)
    (hfound : Brace.lastOpener? (Brace.ofLine index line) = some (opener, rest)) (fold : Fold) :
    document.fold? index = some fold ↔
      ∃ closer, Brace.closer 0
          (rest ++ Brace.ofLines (index + 1) (document.lines.drop (index + 1))) = .ok closer ∧
        index < closer.line ∧ fold = ⟨opener.stop, closer.start⟩ := by
  have hmem {depth : Nat} {braces : List Brace} {closer : Brace}
      (hcloser : Brace.closer depth braces = .ok closer) : closer ∈ braces := by
    obtain ⟨between, after, rfl, -⟩ := Brace.exists_of_closer_eq_ok hcloser
    exact List.mem_append_right _ List.mem_cons_self
  rw [fold?, hline, Option.bind_eq_bind, Option.bind_some, hfound, Option.bind_eq_bind,
    Option.bind_some, Brace.closer_append]
  dsimp only
  cases hcloser : Brace.closer 0 rest with
  | ok closer =>
    -- The brace closes again on its own line.
    refine iff_of_false (by simp) ?_
    rintro ⟨_, hok, hlt, -⟩
    cases hok
    rw [((Brace.of_lastOpener?_ofLine hfound).2.2 closer (hmem hcloser)).2] at hlt
    exact Nat.lt_irrefl _ hlt
  | error depth =>
    dsimp only
    rw [Brace.closerInLines?_eq]
    cases hbelow : Brace.closer depth
        (Brace.ofLines (index + 1) (document.lines.drop (index + 1))) with
    | error => simp [Except.toOption]
    | ok closer =>
      have hlt : index < closer.line := Brace.le_line_of_mem_ofLines (hmem hbelow)
      have hopener : opener.line = index := (Brace.of_lastOpener?_ofLine hfound).2.1
      simp [Except.toOption, Brace.start, Brace.stop, hlt, hopener, eq_comm]

/-- The line of a brace that opens has a last brace that opens. -/
theorem exists_lastOpener?_of_mem (hmem : opener ∈ document.braces)
    (hopens : opener.opens = true) :
    ∃ line last rest, document.lines[opener.line]? = some line ∧
      Brace.lastOpener? (Brace.ofLine opener.line line) = some (last, rest) := by
  have hlt : opener.line < document.lines.length := by
    have hlt := Brace.line_lt_of_mem_ofLines hmem
    rwa [Nat.zero_add] at hlt
  have hline : document.lines[opener.line]? = some document.lines[opener.line] :=
    List.getElem?_eq_getElem hlt
  cases hfound : Brace.lastOpener? (Brace.ofLine opener.line document.lines[opener.line]) with
  | some found => exact ⟨_, found.1, found.2, hline, hfound⟩
  | none =>
    rw [braces_eq_append hline, List.mem_append, List.mem_append] at hmem
    rcases hmem with habove | hmem | hbelow
    · have hline := Brace.line_lt_of_mem_ofLines habove
      rw [List.length_take] at hline
      omega
    · rw [Brace.lastOpener?_eq_none_iff.1 hfound opener hmem] at hopens
      cases hopens
    · have hline := Brace.le_line_of_mem_ofLines hbelow
      omega

/-- A brace of a document that opens, and no brace behind it on its line does, is the last one that
opens on the line. -/
theorem exists_lastOpener?_of_braces_eq (hbraces : document.braces = before ++ opener :: behind)
    (hopens : opener.opens = true)
    (hlast : ∀ brace ∈ behind, brace.opens = true → brace.line ≠ opener.line) :
    ∃ line rest, document.lines[opener.line]? = some line ∧
      Brace.lastOpener? (Brace.ofLine opener.line line) = some (opener, rest) ∧
      behind = rest ++
        Brace.ofLines (opener.line + 1) (document.lines.drop (opener.line + 1)) := by
  have hmem : opener ∈ document.braces := by
    rw [hbraces]
    exact List.mem_append_right _ List.mem_cons_self
  obtain ⟨line, other, rest, hline, hfound⟩ := exists_lastOpener?_of_mem hmem hopens
  obtain ⟨front, hfront, hotherLast⟩ := braces_eq_append_lastOpener? hline hfound
  obtain ⟨hother, hotherLine, -⟩ := Brace.of_lastOpener?_ofLine hfound
  obtain ⟨-, rfl, hbehind⟩ := Brace.eq_of_append_cons_eq
    (p := fun brace => brace.opens = true ∧ brace.line = opener.line) (hbraces.symm.trans hfront)
    ⟨hopens, rfl⟩ ⟨hother, hotherLine⟩ (fun brace hbrace h => hlast brace hbrace h.1 h.2)
    (fun brace hbrace h => hotherLast brace hbrace h.1 h.2)
  exact ⟨line, rest, hline, hfound, hbehind⟩

/-- What a line folds, if its last brace that opens is known: up to the brace that matches this
one. -/
theorem fold?_eq_some_iff_of_braces_eq (hbraces : document.braces = before ++ opener :: behind)
    (hopens : opener.opens = true)
    (hlast : ∀ brace ∈ behind, brace.opens = true → brace.line ≠ opener.line) (fold : Fold) :
    document.fold? opener.line = some fold ↔
      ∃ between closer after, behind = between ++ closer :: after ∧ closer.opens = false ∧
        Brace.Matched between ∧ opener.line < closer.line ∧
        fold = ⟨opener.stop, closer.start⟩ := by
  obtain ⟨line, rest, hline, hfound, rfl⟩ := exists_lastOpener?_of_braces_eq hbraces hopens hlast
  rw [fold?_eq_some_iff_closer hline hfound]
  constructor
  · rintro ⟨closer, hcloser, hlt, hfold⟩
    obtain ⟨between, after, hbehind, hcloses, hmatched⟩ := Brace.closer_eq_ok_iff.1 hcloser
    exact ⟨between, closer, after, hbehind, hcloses, hmatched, hlt, hfold⟩
  · rintro ⟨between, closer, after, hbehind, hcloses, hmatched, hlt, hfold⟩
    exact ⟨closer, Brace.closer_eq_ok_iff.2 ⟨between, after, hbehind, hcloses, hmatched⟩, hlt,
      hfold⟩

/-- **Folds are matching braces.** A line folds from its last brace that opens to the brace that
matches it, if there is one and it stands on a later line. -/
theorem fold?_eq_some_iff (document : Document) (index : Nat) (fold : Fold) :
    document.fold? index = some fold ↔
      ∃ before opener between closer after,
        document.braces = before ++ opener :: (between ++ closer :: after) ∧
        opener.opens = true ∧ opener.line = index ∧
        (∀ brace ∈ between ++ closer :: after, brace.opens = true → brace.line ≠ index) ∧
        closer.opens = false ∧ Brace.Matched between ∧ index < closer.line ∧
        fold = ⟨opener.stop, closer.start⟩ := by
  constructor
  · intro h
    have hfold := h
    rw [fold?, Option.bind_eq_bind, Option.bind_eq_some_iff] at hfold
    obtain ⟨line, hline, hfold⟩ := hfold
    obtain ⟨⟨opener, rest⟩, hfound, -⟩ := Option.bind_eq_some_iff.1 hfold
    obtain ⟨before, hbraces, hlast⟩ := braces_eq_append_lastOpener? hline hfound
    obtain ⟨hopens, rfl, -⟩ := Brace.of_lastOpener?_ofLine hfound
    obtain ⟨between, closer, after, hbehind, hcloser⟩ :=
      (fold?_eq_some_iff_of_braces_eq hbraces hopens hlast fold).1 h
    rw [hbehind] at hbraces hlast
    exact ⟨before, opener, between, closer, after, hbraces, hopens, rfl, hlast, hcloser⟩
  · rintro ⟨before, opener, between, closer, after, hbraces, hopens, rfl, hlast, hcloser⟩
    exact (fold?_eq_some_iff_of_braces_eq hbraces hopens hlast fold).2
      ⟨between, closer, after, rfl, hcloser⟩

end Document

end SyntaxMode
