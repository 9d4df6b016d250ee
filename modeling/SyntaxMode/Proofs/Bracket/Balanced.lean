import SyntaxMode.Proofs.Token.Fragment

/-!
# Balanced brackets

`unclosed?` follows the brackets among fragments, each closing bracket pairing with the innermost
open one, and fragments are balanced if that leaves nothing open. Brackets that are open around
fragments stay open if these do not need them (`unclosed?_frame`), so balanced fragments can be
left out wherever they stand.
-/

namespace SyntaxMode

/-- The brackets that are open behind an effect, innermost first. A bracket that closes has to pair
with the innermost open one. -/
def Effect.unclosed? (opened : List Delimiter) : Effect → Option (List Delimiter)
  | .opening delimiter => some (delimiter :: opened)
  | .closing delimiter =>
    match opened with
    | inner :: outer => if inner = delimiter then some outer else none
    | [] => none
  | .arm => some opened

/-- The brackets that are open behind a fragment, innermost first. -/
def Fragment.unclosed? (opened : List Delimiter) (fragment : Fragment) :
    Option (List Delimiter) :=
  match fragment.effect? with
  | some effect => effect.unclosed? opened
  | none => some opened

/-- The brackets that are open behind fragments, innermost first, if each bracket that closes pairs
with the innermost one that is then open. -/
def unclosed? (opened : List Delimiter) : List Fragment → Option (List Delimiter)
  | [] => some opened
  | fragment :: rest =>
    match fragment.unclosed? opened with
    | some opened => unclosed? opened rest
    | none => none

/-- Whether the brackets among fragments pair with one another. -/
def Balanced (fragments : List Fragment) : Prop := unclosed? [] fragments = some []

instance (fragments : List Fragment) : Decidable (Balanced fragments) :=
  inferInstanceAs (Decidable (_ = _))

namespace Fragment

/-- Whether the fragment is a bracket that opens. -/
def opens (fragment : Fragment) : Bool :=
  match fragment.effect? with
  | some (.opening _) => true
  | _ => false

/-- Whether the fragment is a bracket that closes. -/
def closes (fragment : Fragment) : Bool :=
  match fragment.effect? with
  | some (.closing _) => true
  | _ => false

/-- A fragment opens if its effect is to open a delimiter. -/
theorem opens_iff {fragment : Fragment} :
    fragment.opens = true ↔ ∃ delimiter, fragment.effect? = some (.opening delimiter) := by
  rw [opens]
  split <;> simp_all

/-- A fragment closes if its effect is to close a delimiter. -/
theorem closes_iff {fragment : Fragment} :
    fragment.closes = true ↔ ∃ delimiter, fragment.effect? = some (.closing delimiter) := by
  rw [closes]
  split <;> simp_all

/-- No bracket both opens and closes. -/
theorem opens_of_closes {fragment : Fragment} (h : fragment.closes = true) :
    fragment.opens = false := by
  obtain ⟨delimiter, heffect⟩ := closes_iff.1 h
  rw [opens, heffect]

/-- A fragment that is no bracket leaves open what was open before it. -/
theorem unclosed?_of_opens_of_closes {fragment : Fragment} (hopens : fragment.opens = false)
    (hcloses : fragment.closes = false) (opened : List Delimiter) :
    fragment.unclosed? opened = some opened := by
  cases heffect : fragment.effect? with
  | none => rw [unclosed?, heffect]
  | some effect =>
    cases effect with
    | opening => simp [opens, heffect] at hopens
    | closing => simp [closes, heffect] at hcloses
    | arm =>
      rw [unclosed?, heffect]
      rfl

end Fragment

/-! ## Following brackets -/

section
variable {opened opened' : List Delimiter} {fragment : Fragment}

/-- A bracket closes the innermost open one and leaves the others open. -/
theorem Effect.unclosed?_closing_eq_some_iff {delimiter : Delimiter} :
    (Effect.closing delimiter).unclosed? opened = some opened' ↔
      opened = delimiter :: opened' := by
  cases opened with
  | nil => simp [Effect.unclosed?]
  | cons inner outer => simp [Effect.unclosed?]

/-- A bracket that opens is open behind itself. -/
theorem Fragment.unclosed?_of_opening {delimiter : Delimiter}
    (h : fragment.effect? = some (.opening delimiter)) (opened : List Delimiter) :
    fragment.unclosed? opened = some (delimiter :: opened) := by
  rw [Fragment.unclosed?, h]
  rfl

/-- A bracket that closes takes the innermost open one away, if that is its partner. -/
theorem Fragment.unclosed?_of_closing {delimiter : Delimiter}
    (h : fragment.effect? = some (.closing delimiter)) (opened : List Delimiter) :
    fragment.unclosed? (delimiter :: opened) = some opened := by
  rw [Fragment.unclosed?, h]
  exact Effect.unclosed?_closing_eq_some_iff.2 rfl

/-- Fragments are gone through from the first one on. -/
theorem unclosed?_cons (fragment : Fragment) (rest : List Fragment) :
    unclosed? opened (fragment :: rest) =
      (fragment.unclosed? opened).bind (unclosed? · rest) := by
  rw [unclosed?]
  cases fragment.unclosed? opened <;> rfl

/-- What fragments leave open is what the fragments behind them begin with. -/
theorem unclosed?_append (a b : List Fragment) :
    unclosed? opened (a ++ b) = (unclosed? opened a).bind (unclosed? · b) := by
  induction a generalizing opened with
  | nil => rfl
  | cons fragment a ih =>
    rw [List.cons_append, unclosed?_cons, unclosed?_cons, Option.bind_assoc]
    exact congrArg _ (funext fun _ => ih)

/-- Brackets that are open around a bracket stay open, if it does not need them. -/
theorem Effect.unclosed?_frame (outer : List Delimiter) {effect : Effect}
    (h : effect.unclosed? opened = some opened') :
    effect.unclosed? (opened ++ outer) = some (opened' ++ outer) := by
  cases effect with
  | opening | arm => exact congrArg (Option.map (· ++ outer)) h
  | closing delimiter =>
    rw [Effect.unclosed?_closing_eq_some_iff] at h ⊢
    rw [h, List.cons_append]

/-- Brackets that are open around a fragment stay open, if it does not need them. -/
theorem Fragment.unclosed?_frame (outer : List Delimiter)
    (h : fragment.unclosed? opened = some opened') :
    fragment.unclosed? (opened ++ outer) = some (opened' ++ outer) := by
  rw [Fragment.unclosed?] at h ⊢
  cases heffect : fragment.effect? with
  | none =>
    rw [heffect] at h
    exact congrArg (Option.map (· ++ outer)) h
  | some effect =>
    rw [heffect] at h
    exact effect.unclosed?_frame outer h

/-- Brackets that are open around fragments stay open, if these do not need them. -/
theorem unclosed?_frame (outer : List Delimiter) {fragments : List Fragment}
    (h : unclosed? opened fragments = some opened') :
    unclosed? (opened ++ outer) fragments = some (opened' ++ outer) := by
  induction fragments generalizing opened with
  | nil =>
    cases h
    rfl
  | cons fragment fragments ih =>
    rw [unclosed?_cons, Option.bind_eq_some_iff] at h
    obtain ⟨next, hfragment, hrest⟩ := h
    rw [unclosed?_cons, Fragment.unclosed?_frame outer hfragment, Option.bind_some]
    exact ih hrest

/-- A fragment with one more bracket open around it closes that bracket or does not need it. -/
theorem Fragment.unclosed?_around {delimiter : Delimiter} {outer next : List Delimiter}
    (h : fragment.unclosed? (opened ++ delimiter :: outer) = some next) :
    (∃ inner, fragment.unclosed? opened = some inner ∧ next = inner ++ delimiter :: outer) ∨
      (opened = [] ∧ next = outer ∧ fragment.effect? = some (.closing delimiter)) := by
  rw [Fragment.unclosed?] at h ⊢
  cases heffect : fragment.effect? with
  | none =>
    rw [heffect] at h
    cases h
    exact .inl ⟨opened, rfl, rfl⟩
  | some effect =>
    rw [heffect] at h
    cases effect with
    | opening inner =>
      cases h
      exact .inl ⟨inner :: opened, rfl, rfl⟩
    | arm =>
      cases h
      exact .inl ⟨opened, rfl, rfl⟩
    | closing closed =>
      have hopened : opened ++ delimiter :: outer = closed :: next :=
        Effect.unclosed?_closing_eq_some_iff.1 h
      cases opened with
      | nil =>
        cases hopened
        exact .inr ⟨rfl, rfl, rfl⟩
      | cons inner opened =>
        cases hopened
        exact .inl ⟨opened, Effect.unclosed?_closing_eq_some_iff.2 rfl, rfl⟩

/-- Fragments with one more bracket open around them do not need that bracket, or one of them
closes it behind balanced ones. -/
theorem unclosed?_around {delimiter : Delimiter} {outer next : List Delimiter}
    {fragments : List Fragment}
    (h : unclosed? (opened ++ delimiter :: outer) fragments = some next) :
    (∃ inner, unclosed? opened fragments = some inner ∧ next = inner ++ delimiter :: outer) ∨
      ∃ inside closer rest, fragments = inside ++ closer :: rest ∧
        closer.effect? = some (.closing delimiter) ∧ unclosed? opened inside = some [] := by
  induction fragments generalizing opened with
  | nil =>
    cases h
    exact .inl ⟨opened, rfl, rfl⟩
  | cons fragment fragments ih =>
    rw [unclosed?_cons, Option.bind_eq_some_iff] at h
    obtain ⟨behind, hfragment, hrest⟩ := h
    rcases Fragment.unclosed?_around hfragment with ⟨inner, hinner, rfl⟩ | ⟨rfl, -, hclosing⟩
    · rw [unclosed?_cons, hinner, Option.bind_some]
      rcases ih hrest with hleft | ⟨inside, closer, rest, rfl, hcloser, hinside⟩
      · exact .inl hleft
      · refine .inr ⟨fragment :: inside, closer, rest, rfl, hcloser, ?_⟩
        rw [unclosed?_cons, hinner, Option.bind_some, hinside]
    · exact .inr ⟨[], fragment, fragments, rfl, hclosing, rfl⟩

/-- Balanced fragments leave open what was open before them. -/
theorem Balanced.unclosed?_eq {fragments : List Fragment} (h : Balanced fragments)
    (opened : List Delimiter) : unclosed? opened fragments = some opened :=
  unclosed?_frame opened h

/-- Without fragments nothing is left open. -/
theorem balanced_nil : Balanced [] := rfl

/-- Balanced fragments may follow one another. -/
theorem Balanced.append {a b : List Fragment} (ha : Balanced a) (hb : Balanced b) :
    Balanced (a ++ b) := by
  rw [Balanced, unclosed?_append, ha]
  exact hb

/-- Balanced fragments do not begin with a bracket that closes. -/
theorem Balanced.closes_head {fragments : List Fragment}
    (h : Balanced (fragment :: fragments)) : fragment.closes = false := by
  rw [← Bool.not_eq_true, Fragment.closes_iff]
  rintro ⟨delimiter, heffect⟩
  rw [Balanced, unclosed?_cons, Fragment.unclosed?, heffect] at h
  cases h

/-- No bracket behind balanced fragments closes. -/
theorem Balanced.not_balanced_append {fragments rest : List Fragment} (h : Balanced fragments)
    (hcloses : fragment.closes = true) : ¬ Balanced (fragments ++ fragment :: rest) := by
  intro hbalanced
  rw [Balanced, unclosed?_append, h.unclosed?_eq, Option.bind_some] at hbalanced
  have hcloses' := Balanced.closes_head hbalanced
  rw [hcloses] at hcloses'
  cases hcloses'

/-- A bracket that opens within balanced fragments is closed within them. -/
theorem Balanced.not_balanced_of_opens {before inside rest : List Fragment}
    (h : Balanced (before ++ fragment :: inside)) (hopens : fragment.opens = true) :
    ¬ Balanced (inside ++ rest) := by
  intro hinside
  obtain ⟨delimiter, heffect⟩ := Fragment.opens_iff.1 hopens
  rw [Balanced, unclosed?_append, Option.bind_eq_some_iff] at h hinside
  obtain ⟨outer, -, houter⟩ := h
  obtain ⟨inner, hinner, -⟩ := hinside
  rw [unclosed?_cons, Fragment.unclosed?, heffect] at houter
  have hframe : unclosed? (delimiter :: outer) inside = some (inner ++ delimiter :: outer) :=
    unclosed?_frame (delimiter :: outer) hinner
  rw [show (unclosed? (delimiter :: outer) inside) = some [] from houter] at hframe
  simp at hframe

/-- What stands between a bracket and the one that closes it leaves that bracket open. -/
theorem unclosed?_of_balanced_append {delimiter : Delimiter} {fragments : List Fragment}
    (heffect : fragment.effect? = some (.closing delimiter))
    (h : Balanced (fragments ++ [fragment])) : unclosed? [] fragments = some [delimiter] := by
  rw [Balanced, unclosed?_append, Option.bind_eq_some_iff] at h
  obtain ⟨opened, hopened, hclosing⟩ := h
  rw [unclosed?_cons, Fragment.unclosed?, heffect, Option.bind_eq_some_iff] at hclosing
  obtain ⟨outer, hpair, houter⟩ := hclosing
  cases houter
  rw [Effect.unclosed?_closing_eq_some_iff] at hpair
  rw [hopened, hpair]

end

end SyntaxMode
