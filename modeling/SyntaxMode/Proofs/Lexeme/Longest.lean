import Mathlib.Computability.Language
import SyntaxMode.Text.Basic

/-!
# Longest matches

A lexeme is meant to be the longest word of a grammar that a text begins with. A reader that takes
one part of the grammar after the other, each as far as it goes, finds that word only if going far
in one part never costs more in the next one. It does not if no word of the next part begins with a
character that the part before consists of (`LongestMatch.mul`). The parts here are built from
classes of characters, and a run of a class is the longest match of its repetition
(`LongestMatch.star`).
-/

namespace SyntaxMode.Grammar

open scoped Computability

/-- The words of one character of a class. -/
def oneOf (accepts : Char → Bool) : Language Char := {word | ∃ c, accepts c = true ∧ word = [c]}

/-- The words of a language, and the empty one. -/
def optional (language : Language Char) : Language Char := 1 + language

/-- One word of a language after another, one at least. -/
def atLeastOne (language : Language Char) : Language Char := language * language∗

/-- The longest word of a language that a text begins with has this length. -/
structure LongestMatch (language : Language Char) (text : Text) (length : Nat) : Prop where
  mem : text.take length ∈ language
  le : length ≤ text.length
  longest : ∀ word ∈ language, word <+: text → word.length ≤ length

/-- A text begins with no word of a language. -/
def NoMatch (language : Language Char) (text : Text) : Prop := ∀ word ∈ language, ¬ word <+: text

/-- The words of a language consist of characters of a class. -/
def Within (accepts : Char → Bool) (language : Language Char) : Prop :=
  ∀ word ∈ language, ∀ c ∈ word, accepts c = true

/-- No word of a language begins with a character of a class. -/
def Avoids (accepts : Char → Bool) (language : Language Char) : Prop :=
  ∀ word ∈ language, ∀ c ∈ word.head?, accepts c = false

variable {accepts accepts' : Char → Bool} {a b : Language Char} {text : Text} {m n : Nat}

/-! ## Words -/

/-- The words over a class are those that consist of its characters. -/
theorem mem_star_oneOf {word : Text} : word ∈ (oneOf accepts)∗ ↔ ∀ c ∈ word, accepts c = true := by
  rw [Language.mem_kstar]
  constructor
  · rintro ⟨parts, rfl, hparts⟩ c hc
    obtain ⟨part, hpart, hmem⟩ := List.mem_flatten.1 hc
    obtain ⟨d, hd, rfl⟩ := hparts part hpart
    rwa [List.mem_singleton.1 hmem]
  · intro hword
    refine ⟨word.map fun c => [c], ?_, ?_⟩
    · rw [← List.flatMap_def, List.flatMap_singleton']
    · intro part hpart
      obtain ⟨c, hc, rfl⟩ := List.mem_map.1 hpart
      exact ⟨c, hword c hc, rfl⟩

/-! ## The characters of a word -/

namespace Within

/-- Single characters of a class stay within a wider one. -/
theorem oneOf (h : ∀ c, accepts' c = true → accepts c = true) :
    Within accepts (oneOf accepts') := by
  rintro word ⟨c, hc, rfl⟩ d hd
  rw [List.mem_singleton.1 hd]
  exact h c hc

/-- Runs over a class stay within a wider one. -/
theorem star (h : ∀ c, accepts' c = true → accepts c = true) :
    Within accepts (Grammar.oneOf accepts')∗ :=
  fun _ hword c hc => h c (mem_star_oneOf.1 hword c hc)

/-- A part that may be missing stays within the class of the part. -/
theorem optional (h : Within accepts a) : Within accepts (optional a) := by
  rintro word (rfl | hword)
  · simp
  · exact h word hword

/-- Two parts one after the other stay within the class of both. -/
theorem mul (ha : Within accepts a) (hb : Within accepts b) : Within accepts (a * b) := by
  intro word hword c hc
  obtain ⟨u, hu, v, hv, rfl⟩ := Language.mem_mul.1 hword
  exact (List.mem_append.1 hc).elim (ha u hu c) (hb v hv c)

/-- Two alternatives stay within the class of both. -/
theorem add (ha : Within accepts a) (hb : Within accepts b) : Within accepts (a + b) := by
  rintro word (hword | hword)
  · exact ha word hword
  · exact hb word hword

end Within

namespace Avoids

/-- Words that begin with a character of one class avoid another class. -/
theorem oneOf_mul (h : ∀ c, accepts' c = true → accepts c = false) :
    Avoids accepts (oneOf accepts' * a) := by
  intro word hword c hc
  obtain ⟨_, ⟨d, hd, rfl⟩, v, -, rfl⟩ := Language.mem_mul.1 hword
  cases hc
  exact h _ hd

/-- A part that may be missing avoids what the part avoids. -/
theorem optional (h : Avoids accepts a) : Avoids accepts (optional a) := by
  rintro word (rfl | hword)
  · simp
  · exact h word hword

/-- Two parts one after the other avoid what both avoid. -/
theorem mul (ha : Avoids accepts a) (hb : Avoids accepts b) : Avoids accepts (a * b) := by
  intro word hword c hc
  obtain ⟨u, hu, v, hv, rfl⟩ := Language.mem_mul.1 hword
  cases u with
  | nil => exact hb v hv c hc
  | cons d u => exact ha (d :: u) hu c hc

end Avoids

/-! ## One character first -/

/-- Where no character of a class comes first, no word begins that needs one. -/
theorem NoMatch.oneOf_mul (h : ∀ c ∈ text.head?, accepts c = false) :
    NoMatch (oneOf accepts * a) text := by
  rintro word hword ⟨rest, rfl⟩
  obtain ⟨_, ⟨c, hc, rfl⟩, v, -, rfl⟩ := Language.mem_mul.1 hword
  exact Bool.false_ne_true ((h c rfl).symm.trans hc)

/-- Where a word does not begin behind the first character, it does not begin with one more before
it. -/
theorem NoMatch.cons {c : Char} (h : NoMatch a text) :
    NoMatch (oneOf accepts * a) (c :: text) := by
  intro word hword hbegins
  obtain ⟨_, ⟨d, -, rfl⟩, v, hv, rfl⟩ := Language.mem_mul.1 hword
  exact h v hv (List.cons_prefix_cons.1 hbegins).2

/-- A character of the class before a longest word makes it longer by one. -/
theorem LongestMatch.cons {c : Char} (hc : accepts c = true) (h : LongestMatch a text n) :
    LongestMatch (oneOf accepts * a) (c :: text) (n + 1) where
  mem := Language.mem_mul.2 ⟨[c], ⟨c, hc, rfl⟩, text.take n, h.mem, rfl⟩
  le := Nat.succ_le_succ h.le
  longest := by
    intro word hword hbegins
    obtain ⟨_, ⟨d, -, rfl⟩, v, hv, rfl⟩ := Language.mem_mul.1 hword
    exact Nat.succ_le_succ (h.longest v hv (List.cons_prefix_cons.1 hbegins).2)

/-! ## Choices -/

/-- Where a text begins with neither of two alternatives, it begins with no word of both
together. -/
theorem NoMatch.add (ha : NoMatch a text) (hb : NoMatch b text) : NoMatch (a + b) text := by
  rintro word (hword | hword)
  · exact ha word hword
  · exact hb word hword

namespace LongestMatch

/-- Of two alternatives the longer one is the longest word of both together. -/
theorem add (ha : LongestMatch a text m) (hb : LongestMatch b text n) (h : n ≤ m) :
    LongestMatch (a + b) text m where
  mem := .inl ha.mem
  le := ha.le
  longest := by
    rintro word (hword | hword) hbegins
    · exact ha.longest word hword hbegins
    · exact (hb.longest word hword hbegins).trans h

/-- Where the second alternative has no word, the first one decides. -/
theorem add_left (ha : LongestMatch a text m) (hb : NoMatch b text) :
    LongestMatch (a + b) text m where
  mem := .inl ha.mem
  le := ha.le
  longest := by
    rintro word (hword | hword) hbegins
    · exact ha.longest word hword hbegins
    · exact absurd hbegins (hb word hword)

/-- Where the first alternative has no word, the second one decides. -/
theorem add_right (ha : NoMatch a text) (hb : LongestMatch b text n) :
    LongestMatch (a + b) text n := by
  rw [add_comm]
  exact hb.add_left ha

/-- Where the empty word is the only one, nothing is taken. -/
theorem one (text : Text) : LongestMatch 1 text 0 where
  mem := rfl
  le := Nat.zero_le _
  longest := by
    rintro word rfl -
    exact Nat.le_refl 0

/-- A part that may be missing is taken if it is there. -/
theorem optional (h : LongestMatch a text n) : LongestMatch (optional a) text n := by
  rw [Grammar.optional, add_comm]
  exact h.add (one text) (Nat.zero_le n)

end LongestMatch

/-- An optional part that a text does not begin with is left out. -/
theorem NoMatch.optional (h : NoMatch a text) : LongestMatch (optional a) text 0 :=
  (LongestMatch.one text).add_left h

/-! ## Repetitions -/

/-- A run of a class is the longest word over it. -/
theorem LongestMatch.star (accepts : Char → Bool) (text : Text) :
    LongestMatch (oneOf accepts)∗ text (text.runLength accepts) where
  mem := by
    rw [Text.take_runLength, mem_star_oneOf]
    exact List.all_eq_true.1 List.all_takeWhile
  le := text.runLength_le accepts
  longest := by
    rintro word hword ⟨rest, rfl⟩
    rw [Text.runLength_append (mem_star_oneOf.1 hword)]
    exact Nat.le_add_right ..

/-- At least one character of a class is as long as the run of them, if there is one. -/
theorem LongestMatch.atLeastOne (h : text.runLength accepts ≠ 0) :
    LongestMatch (atLeastOne (oneOf accepts)) text (text.runLength accepts) := by
  cases text with
  | nil => exact absurd rfl h
  | cons c rest =>
    have hc : accepts c = true := by
      by_contra hc
      exact h (Text.runLength_eq_zero_iff.2 (by simpa using hc))
    have hrun : Text.runLength accepts (c :: rest) = Text.runLength accepts rest + 1 := by
      simp [Text.runLength, hc]
    rw [hrun]
    exact (LongestMatch.star accepts rest).cons hc

/-- Without a run of a class there is not even one character of it. -/
theorem NoMatch.atLeastOne (h : text.runLength accepts = 0) :
    NoMatch (atLeastOne (oneOf accepts)) text :=
  .oneOf_mul (Text.runLength_eq_zero_iff.1 h)

/-! ## One part after another -/

/-- Where the first part goes less far than it could, nothing of the second part follows. -/
theorem LongestMatch.length_eq_or_eq_nil (ha : LongestMatch a text m)
    (hwithin : Within accepts a) (havoids : Avoids accepts b) {u v : Text} (hu : u ∈ a)
    (hv : v ∈ b) (hbegins : u ++ v <+: text) : u.length = m ∨ v = [] := by
  rw [or_iff_not_imp_right]
  intro hne
  obtain ⟨c, rest, rfl⟩ := List.exists_cons_of_ne_nil hne
  have hfront : u ++ [c] <+: text :=
    (List.prefix_append_right_inj u).2 (List.prefix_append [c] rest) |>.trans hbegins
  have hle : u.length ≤ m := ha.longest u hu ((List.prefix_append u _).trans hbegins)
  refine hle.antisymm (Nat.le_of_not_lt fun hlt => ?_)
  have hlength : (u ++ [c]).length ≤ m := by
    rw [List.length_append]
    exact hlt
  have htake : u ++ [c] <+: text.take m := List.prefix_take_iff.2 ⟨hfront, hlength⟩
  have hc : accepts c = true := hwithin _ ha.mem c (htake.subset (by simp))
  rw [havoids _ hv c rfl] at hc
  cases hc

/-- **Greedy reading is longest reading** if no word of the second part begins with a character
that the first part consists of. -/
theorem LongestMatch.mul (ha : LongestMatch a text m) (hb : LongestMatch b (text.drop m) n)
    (hwithin : Within accepts a) (havoids : Avoids accepts b) :
    LongestMatch (a * b) text (m + n) where
  mem := by
    rw [List.take_add]
    exact Language.mem_mul.2 ⟨_, ha.mem, _, hb.mem, rfl⟩
  le := by
    have hm := ha.le
    have hn := hb.le
    rw [List.length_drop] at hn
    omega
  longest := by
    intro word hword hbegins
    obtain ⟨u, hu, v, hv, rfl⟩ := Language.mem_mul.1 hword
    rw [List.length_append]
    rcases ha.length_eq_or_eq_nil hwithin havoids hu hv hbegins with rfl | rfl
    · obtain ⟨rest, rfl⟩ := hbegins
      rw [List.append_assoc, List.drop_left] at hb
      exact Nat.add_le_add_left (hb.longest v hv (List.prefix_append v rest)) _
    · rw [List.append_nil] at hbegins
      exact Nat.add_le_add (ha.longest u hu hbegins) (Nat.zero_le n)

/-- Where the first part does not match, nothing that starts with it does. -/
theorem NoMatch.mul_left (h : NoMatch a text) : NoMatch (a * b) text := by
  intro word hword hbegins
  obtain ⟨u, hu, v, -, rfl⟩ := Language.mem_mul.1 hword
  exact h u hu ((List.prefix_append u v).trans hbegins)

/-- Where the first part is followed by no word of the second, the two do not match. -/
theorem NoMatch.mul (ha : LongestMatch a text m) (hb : NoMatch b (text.drop m))
    (hwithin : Within accepts a) (havoids : Avoids accepts b) : NoMatch (a * b) text := by
  intro word hword hbegins
  obtain ⟨u, hu, v, hv, rfl⟩ := Language.mem_mul.1 hword
  rcases ha.length_eq_or_eq_nil hwithin havoids hu hv hbegins with rfl | rfl
  · obtain ⟨rest, rfl⟩ := hbegins
    rw [List.append_assoc, List.drop_left] at hb
    exact hb v hv (List.prefix_append v rest)
  · exact hb [] hv List.nil_prefix

/-! ## More text behind -/

/-- There is only one longest match. -/
theorem LongestMatch.unique (hm : LongestMatch a text m) (hn : LongestMatch a text n) : m = n := by
  have hle {m n : Nat} (hm : LongestMatch a text m) (hn : LongestMatch a text n) : m ≤ n := by
    have hlongest := hn.longest _ hm.mem (List.take_prefix m text)
    rwa [List.length_take_of_le hm.le] at hlongest
  exact (hle hm hn).antisymm (hle hn hm)

/-- A character that stands in no word ends every longest match. -/
theorem LongestMatch.append {c : Char} (h : LongestMatch a text n) (hc : ∀ word ∈ a, c ∉ word)
    (rest : Text) : LongestMatch a (text ++ c :: rest) n where
  mem := by
    rw [List.take_append_of_le_length h.le]
    exact h.mem
  le := by
    rw [List.length_append]
    exact h.le.trans (Nat.le_add_right ..)
  longest := by
    intro word hword hbegins
    rw [List.append_cons] at hbegins
    have hwithin : ¬ text ++ [c] <+: word :=
      fun hfront => hc word hword (hfront.subset (by simp))
    have hfront : word <+: text ++ [c] :=
      (List.prefix_or_prefix_of_prefix hbegins (List.prefix_append _ rest)).resolve_right hwithin
    rcases List.prefix_concat_iff.1 hfront with rfl | hfront
    · exact absurd (List.prefix_refl _) hwithin
    · exact h.longest word hword hfront

end SyntaxMode.Grammar
