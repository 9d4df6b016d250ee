import SyntaxMode.Text.Basic

/-!
# Searching by bytes finds characters

A byte below 128 is the whole form of one character, and no part of the form of a longer one. So a
search for such bytes finds what a search through the characters finds, and it ends at a character
boundary (`findByte?_eq`).
-/

namespace SyntaxMode.Text

/-- Whether the form of a character is one byte that `accepts` holds of. -/
def isByte (accepts : UInt8 → Bool) (c : Char) : Bool := c.toNat < 128 && accepts c.toUInt8

variable {accepts : UInt8 → Bool}

/-- A character below 128 is written as one byte. -/
theorem utf8EncodeChar_of_lt {c : Char} (h : c.toNat < 128) :
    String.utf8EncodeChar c = [c.toUInt8] := by
  have hval : c.val.toNat < 128 := h
  rw [String.utf8EncodeChar, if_pos (by omega)]
  rfl

/-- The byte of a character below 128 is its code point. -/
theorem toNat_toUInt8_of_lt {c : Char} (h : c.toNat < 128) : c.toUInt8.toNat = c.toNat := by
  show c.toNat % 256 = c.toNat
  omega

/-- Only one character has a given byte below 128 as its form. -/
theorem isByte_beq {d : Char} (h : d.toNat < 128) (c : Char) :
    isByte (· == d.toUInt8) c = (c == d) := by
  rw [Bool.eq_iff_iff, isByte, Bool.and_eq_true, decide_eq_true_eq, beq_iff_eq, beq_iff_eq]
  constructor
  · rintro ⟨hc, heq⟩
    have hnat := congrArg UInt8.toNat heq
    rw [toNat_toUInt8_of_lt hc, toNat_toUInt8_of_lt h] at hnat
    exact Char.toNat_inj.1 hnat
  · rintro rfl
    exact ⟨h, rfl⟩

/-- A byte below 128 is the form of the character of its number. -/
theorem toUInt8_ofNat {byte : UInt8} (h : byte.toNat < 128) :
    (Char.ofNat byte.toNat).toUInt8 = byte ∧ (Char.ofNat byte.toNat).toNat < 128 := by
  have hvalid : byte.toNat.isValidChar := .inl (by omega)
  have hnat : (Char.ofNat byte.toNat).toNat = byte.toNat := by
    rw [Char.ofNat, dif_pos hvalid]
    rfl
  have hlt : (Char.ofNat byte.toNat).toNat < 128 := by omega
  refine ⟨?_, hlt⟩
  rw [← UInt8.toNat_inj, toNat_toUInt8_of_lt hlt, hnat]

/-- A character that is written as one byte has the number of that byte. -/
theorem ofNat_toUInt8 {c : Char} (h : isByte accepts c = true) :
    Char.ofNat c.toUInt8.toNat = c := by
  rw [isByte, Bool.and_eq_true, decide_eq_true_eq] at h
  rw [toNat_toUInt8_of_lt h.1, Char.ofNat_toNat]

/-- A search for a byte below 128 is one for the character of its number. -/
theorem isByte_beq_ofNat {byte : UInt8} (h : byte.toNat < 128) :
    isByte (· == byte) = (· == Char.ofNat byte.toNat) := by
  obtain ⟨hbyte, hchar⟩ := toUInt8_ofNat h
  funext c
  have hc := isByte_beq hchar c
  rwa [hbyte] at hc

/-- A character has a byte of either of two kinds if it has one of the first or of the second. -/
theorem isByte_or (accepts accepts' : UInt8 → Bool) (c : Char) :
    isByte (fun byte => accepts byte || accepts' byte) c =
      (isByte accepts c || isByte accepts' c) := by
  simp only [isByte, Bool.and_or_distrib_left]

/-- A condition that has nothing to do with the byte may be looked at first. -/
theorem isByte_and (holds : Bool) (accepts : UInt8 → Bool) (c : Char) :
    isByte (fun byte => holds && accepts byte) c = (holds && isByte accepts c) := by
  simp only [isByte, Bool.and_left_comm]

/-- Any other character is written in bytes from 128 on. -/
theorem le_of_mem_utf8EncodeChar {c : Char} (h : 128 ≤ c.toNat) {byte : UInt8}
    (hbyte : byte ∈ String.utf8EncodeChar c) : 128 ≤ byte.toNat := by
  have hval : 128 ≤ c.val.toNat := h
  rw [String.utf8EncodeChar, if_neg (by omega)] at hbyte
  split at hbyte
  · simp only [List.mem_cons, List.not_mem_nil, or_false] at hbyte
    rcases hbyte with rfl | rfl <;> rw [UInt8.toNat_ofNat'] <;> omega
  · split at hbyte
    · simp only [List.mem_cons, List.not_mem_nil, or_false] at hbyte
      rcases hbyte with rfl | rfl | rfl <;> rw [UInt8.toNat_ofNat'] <;> omega
    · simp only [List.mem_cons, List.not_mem_nil, or_false] at hbyte
      rcases hbyte with rfl | rfl | rfl | rfl <;> rw [UInt8.toNat_ofNat'] <;> omega

/-- If only bytes below 128 are accepted, the form of a character that is none of them holds none
of them. -/
theorem accepts_of_mem_utf8EncodeChar (h : ∀ byte, accepts byte = true → byte.toNat < 128)
    {c : Char}
    (hc : isByte accepts c = false) {byte : UInt8} (hbyte : byte ∈ String.utf8EncodeChar c) :
    accepts byte = false := by
  rw [← Bool.not_eq_true]
  intro hbyteAccepts
  by_cases hlt : c.toNat < 128
  · rw [utf8EncodeChar_of_lt hlt, List.mem_singleton] at hbyte
    subst hbyte
    simp [isByte, hlt, hbyteAccepts] at hc
  · exact absurd (h byte hbyteAccepts)
      (Nat.not_lt.2 (le_of_mem_utf8EncodeChar (Nat.le_of_not_lt hlt) hbyte))

/-- A search passes over a character whose form holds none of the bytes that are accepted. -/
theorem findByte?_cons_of_forall {c : Char}
    (h : ∀ byte ∈ String.utf8EncodeChar c, accepts byte = false) (rest : Text) :
    findByte? accepts (c :: rest) =
      (findByte? accepts rest).map fun found => (c.utf8Size + found.1, found.2) := by
  have hnone : (String.utf8EncodeChar c).findIdx? accepts = none := List.findIdx?_eq_none_iff.2 h
  have hget (offset : Nat) :
      (String.utf8EncodeChar c ++ bytes rest)[offset + c.utf8Size]? = (bytes rest)[offset]? := by
    rw [List.getElem?_append_right (by simp [String.length_utf8EncodeChar]),
      String.length_utf8EncodeChar, Nat.add_sub_cancel]
  simp only [findByte?, bytes_cons, List.findIdx?_append, hnone, Option.none_or,
    String.length_utf8EncodeChar]
  cases (bytes rest).findIdx? accepts with
  | none => rfl
  | some offset =>
    simp only [Option.map_some, Option.bind_eq_bind, Option.bind_some, hget]
    cases (bytes rest)[offset]? with
    | none => rfl
    | some found => simp [Nat.add_comm]

/-- **A byte search is a character search.** If only bytes below 128 are accepted, the search for
one of them finds the first character that is one of them, and its offset is the byte length of the
characters before it. -/
theorem findByte?_eq (h : ∀ byte, accepts byte = true → byte.toNat < 128) (text : Text) :
    text.findByte? accepts = (text.find? (isByte accepts)).map fun c =>
      (byteLength (text.takeWhile fun c => !isByte accepts c), c.toUInt8) := by
  induction text with
  | nil => rfl
  | cons c rest ih =>
    cases hc : isByte accepts c with
    | true =>
      have hbyte : (decide (c.toNat < 128) && accepts c.toUInt8) = true := hc
      rw [Bool.and_eq_true, decide_eq_true_eq] at hbyte
      simp [findByte?, utf8EncodeChar_of_lt hbyte.1, List.findIdx?_cons, hbyte.2, hc]
    | false =>
      rw [findByte?_cons_of_forall (fun byte => accepts_of_mem_utf8EncodeChar h hc) rest, ih,
        List.find?_cons_of_neg (by simp [hc]), List.takeWhile_cons_of_pos (by simp [hc])]
      cases rest.find? (isByte accepts) <;> rfl

/-- As many characters lie within the length of a leading part as the part has. -/
theorem charsWithin_byteLength_append (before after : Text) :
    charsWithin before.byteLength (before ++ after) = before.length := by
  induction before with
  | nil =>
    cases after with
    | nil => rfl
    | cons c after =>
      have hpos := c.utf8Size_pos
      rw [List.nil_append, byteLength_nil, charsWithin, if_neg (by omega), List.length_nil]
  | cons c before ih =>
    rw [List.cons_append, byteLength_cons, charsWithin, if_pos (Nat.le_add_right ..),
      Nat.add_sub_cancel_left, ih, List.length_cons]

end SyntaxMode.Text
