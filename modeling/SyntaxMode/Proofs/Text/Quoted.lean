import Mathlib.Data.List.Basic
import SyntaxMode.Text.Quoted

/-!
# Quoted text and numbers in digits

A quoted text stands on one line (`newline_not_mem_quoted`) and can be read back
(`quoted_injective`). Each character is written in one of three ways (`Writes`), and what is
written tells the way, the character and where the next one begins (`Writes.append_inj`). Digits
that stand before a separator can be read back as well, because no digit is a separator
(`append_cons_inj_of_not_mem`) and two numbers never have the same digits (`toDigits_injective`).
-/

namespace SyntaxMode

/-! ## Digits -/

/-- Two digits up to hexadecimal `f` are written by two characters. -/
theorem digitChar_inj : ∀ m < 16, ∀ n < 16, Nat.digitChar m = Nat.digitChar n → m = n := by decide

section
variable {base : Nat}

/-- The last digit of a number is the remainder, and the digits before it are those of the
quotient, unless that is zero. -/
theorem toDigits_eq_append (hbase : 1 < base) (n : Nat) :
    Nat.toDigits base n = (if n < base then [] else Nat.toDigits base (n / base)) ++
      [Nat.digitChar (n % base)] := by
  split
  next hlt => rw [Nat.toDigits_of_lt_base hlt, Nat.mod_eq_of_lt hlt, List.nil_append]
  next hlt => exact Nat.toDigits_of_base_le hbase (Nat.le_of_not_lt hlt)

/-- A character that is no digit up to hexadecimal `f` does not occur in a number. -/
theorem not_mem_toDigits (hbase : 1 < base) (hle : base ≤ 16) {c : Char}
    (hc : ∀ digit < 16, Nat.digitChar digit ≠ c) (n : Nat) : c ∉ Nat.toDigits base n := by
  induction n using Nat.strongRecOn with
  | _ n ih =>
    have hdigit : n % base < 16 := Nat.lt_of_lt_of_le (Nat.mod_lt n (by omega)) hle
    rw [toDigits_eq_append hbase, List.mem_append, List.mem_singleton, not_or]
    refine ⟨?_, (hc _ hdigit).symm⟩
    split
    · exact List.not_mem_nil
    · exact ih _ (Nat.div_lt_self (by omega) hbase)

/-- Two numbers are written by two rows of digits. -/
theorem toDigits_injective (hbase : 1 < base) (hle : base ≤ 16) :
    Function.Injective (Nat.toDigits base) := by
  intro m
  induction m using Nat.strongRecOn with
  | _ m ih =>
    intro n h
    have hm : m % base < 16 := Nat.lt_of_lt_of_le (Nat.mod_lt m (by omega)) hle
    have hn : n % base < 16 := Nat.lt_of_lt_of_le (Nat.mod_lt n (by omega)) hle
    rw [toDigits_eq_append hbase m, toDigits_eq_append hbase n] at h
    obtain ⟨hfront, hlast⟩ := List.append_inj' h rfl
    have hmod : m % base = n % base := digitChar_inj _ hm _ hn (List.singleton_inj.1 hlast)
    -- Only a number below the base has no digits before the last one.
    split at hfront <;> split at hfront
    next hm hn => rwa [Nat.mod_eq_of_lt hm, Nat.mod_eq_of_lt hn] at hmod
    next => exact absurd hfront.symm Nat.toDigits_ne_nil
    next => exact absurd hfront Nat.toDigits_ne_nil
    next =>
      have hdiv : m / base = n / base := ih _ (Nat.div_lt_self (by omega) hbase) hfront
      rw [← Nat.div_add_mod m base, hdiv, hmod, Nat.div_add_mod]

end

/-- A text is cut at the first place of a separator in one way only. -/
theorem append_cons_inj_of_not_mem {α : Type} {separator : α}
    {front front' behind behind' : List α}
    (hfront : separator ∉ front) (hfront' : separator ∉ front')
    (h : front ++ separator :: behind = front' ++ separator :: behind') :
    front = front' ∧ behind = behind' := by
  rcases List.append_eq_append_iff.1 h with ⟨between, rfl, hrest⟩ | ⟨between, rfl, hrest⟩
  · cases between with
    | nil => exact ⟨(List.append_nil front).symm, (List.cons.inj hrest).2⟩
    | cons c between =>
      obtain rfl : separator = c := (List.cons.inj hrest).1
      exact absurd (List.mem_append_right _ List.mem_cons_self) hfront'
  · cases between with
    | nil => exact ⟨List.append_nil front', (List.cons.inj hrest).2.symm⟩
    | cons c between =>
      obtain rfl : separator = c := (List.cons.inj hrest).1
      exact absurd (List.mem_append_right _ List.mem_cons_self) hfront

namespace Text

/-! ## Characters -/

/-- The characters that are written by a name, and their names. -/
def charNames : List (Char × Char) :=
  [('"', '"'), ('\\', '\\'), ('\t', 't'), ('\n', 'n'), ('\r', 'r'), ('\x00', '0')]

/-- The ways to write a character in a quoted text. -/
inductive Writes : Char → Text → Prop where
  /-- As it is. -/
  | visible {c : Char} (hquote : c ≠ '"') (hbackslash : c ≠ '\\') (hnewline : c ≠ '\n') :
    Writes c [c]
  /-- By its name. -/
  | named {c name : Char} (h : (c, name) ∈ charNames) : Writes c ['\\', name]
  /-- By its code point. -/
  | codePoint (c : Char) : Writes c (codePoint c)

/-- A quoted text writes each of its characters. -/
theorem writes_quoteChar (c : Char) : Writes c (quoteChar c) := by
  unfold quoteChar
  split
  case h_7 hquote hbackslash _ hnewline _ _ =>
    split
    next => exact .visible hquote hbackslash hnewline
    next => exact .codePoint c
  all_goals exact .named (by decide)

/-- No two characters have one name. -/
theorem charNames_inj : ∀ named ∈ charNames, ∀ other ∈ charNames, named.2 = other.2 →
    named.1 = other.1 := by decide

/-- The letter before a code point is not the name of a character. -/
theorem ne_u_of_mem_charNames : ∀ named ∈ charNames, named.2 ≠ 'u' := by decide

/-- No name of a character is a line feed. -/
theorem ne_newline_of_mem_charNames : ∀ named ∈ charNames, named.2 ≠ '\n' := by decide

/-- The characters that are printed in ASCII can be seen by themselves. -/
theorem isVisible_of_ascii : ∀ n < 127, 32 ≤ n → isVisible (Char.ofNat n) = true := by
  decide +kernel

/-- A printed character of ASCII that does not end a quoted text or begin an escape is written as
it is. -/
theorem quoteChar_eq_singleton {c : Char} (hle : 32 ≤ c.toNat) (hlt : c.toNat < 127)
    (hquote : c ≠ '"') (hbackslash : c ≠ '\\') : quoteChar c = [c] := by
  have hvisible : isVisible c = true := by
    have hcode := isVisible_of_ascii c.toNat hlt hle
    rwa [Char.ofNat_toNat] at hcode
  unfold quoteChar
  split
  case h_1 => exact absurd rfl hquote
  case h_2 => exact absurd rfl hbackslash
  case h_7 => rw [if_pos hvisible]
  all_goals exact absurd hle (by decide)

/-- What is written for a character tells the character, and where the text behind it begins. -/
theorem Writes.append_inj {c other : Char} {written written' : Text} (h : Writes c written)
    (h' : Writes other written') {rest rest' : Text}
    (heq : written ++ rest = written' ++ rest') : c = other ∧ rest = rest' := by
  cases h with
  | visible _ hbackslash =>
    cases h' with
    | visible => exact List.cons.inj heq
    | named | codePoint => exact absurd (List.cons.inj heq).1 hbackslash
  | named hname =>
    cases h' with
    | visible _ hbackslash => exact absurd (List.cons.inj heq).1.symm hbackslash
    | named hname' =>
      obtain ⟨hnames, hrest⟩ := List.cons.inj (List.cons.inj heq).2
      exact ⟨charNames_inj _ hname _ hname' hnames, hrest⟩
    | codePoint =>
      exact absurd (List.cons.inj (List.cons.inj heq).2).1 (ne_u_of_mem_charNames _ hname)
  | codePoint =>
    cases h' with
    | visible _ hbackslash => exact absurd (List.cons.inj heq).1.symm hbackslash
    | named hname =>
      exact absurd (List.cons.inj (List.cons.inj heq).2).1.symm (ne_u_of_mem_charNames _ hname)
    | codePoint =>
      have hbrace (n : Nat) : '}' ∉ Nat.toDigits 16 n :=
        not_mem_toDigits (by decide) (by decide) (by decide) n
      simp only [Text.codePoint, List.append_assoc, List.cons_append, List.nil_append,
        List.cons.injEq, true_and] at heq
      obtain ⟨hdigits, hrest⟩ := append_cons_inj_of_not_mem (hbrace _) (hbrace _) heq
      exact ⟨Char.toNat_inj.1 (toDigits_injective (by decide) (by decide) hdigits), hrest⟩

/-- No character is written as nothing. -/
theorem Writes.ne_nil {c : Char} {written : Text} (h : Writes c written) : written ≠ [] := by
  cases h <;> exact List.cons_ne_nil _ _

/-- A character inside a quoted text is written without a line feed, even if it is one. -/
theorem Writes.newline_not_mem {c : Char} {written : Text} (h : Writes c written) :
    '\n' ∉ written := by
  cases h with
  | visible _ _ hnewline =>
    rw [List.mem_singleton]
    exact hnewline.symm
  | named hname => simp [(ne_newline_of_mem_charNames _ hname).symm]
  | codePoint =>
    have hdigits : '\n' ∉ Nat.toDigits 16 c.toNat :=
      not_mem_toDigits (by decide) (by decide) (by decide) _
    simp [Text.codePoint, hdigits]

/-! ## Texts -/

/-- A quoted text stands on one line. -/
theorem newline_not_mem_quoted (text : Text) : '\n' ∉ text.quoted := by
  have hbody : '\n' ∉ text.flatMap quoteChar := by
    rw [List.mem_flatMap]
    rintro ⟨c, -, hc⟩
    exact (writes_quoteChar c).newline_not_mem hc
  simp [quoted, hbody]

/-- A text of printed characters of ASCII, none of which ends it or begins an escape, is quoted as
it is. -/
theorem quoted_eq_of_ascii {text : Text}
    (h : ∀ c ∈ text, 32 ≤ c.toNat ∧ c.toNat < 127 ∧ c ≠ '"' ∧ c ≠ '\\') :
    text.quoted = '"' :: text ++ ['"'] := by
  have hchars : ∀ c ∈ text, quoteChar c = [c] := by
    intro c hc
    obtain ⟨hle, hlt, hquote, hbackslash⟩ := h c hc
    exact quoteChar_eq_singleton hle hlt hquote hbackslash
  rw [quoted, List.flatMap_congr hchars, List.flatMap_singleton']

/-- **Quoted texts can be read back.** Two texts are quoted in two ways. -/
theorem quoted_injective : Function.Injective quoted := by
  intro text other h
  replace h : text.flatMap quoteChar = other.flatMap quoteChar :=
    List.append_cancel_right (List.cons.inj h).2
  induction text generalizing other with
  | nil =>
    cases other with
    | nil => rfl
    | cons d other =>
      exact absurd (List.append_eq_nil_iff.1 h.symm).1 (writes_quoteChar d).ne_nil
  | cons c text ih =>
    cases other with
    | nil => exact absurd (List.append_eq_nil_iff.1 h).1 (writes_quoteChar c).ne_nil
    | cons d other =>
      obtain ⟨rfl, hrest⟩ := (writes_quoteChar c).append_inj (writes_quoteChar d) h
      rw [ih hrest]

end Text

end SyntaxMode
