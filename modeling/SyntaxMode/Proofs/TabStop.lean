import Mathlib.Data.List.Induction
import Mathlib.Order.Bounds.Basic
import SyntaxMode.Proofs.Column
import SyntaxMode.Proofs.Offsets.Basic
import SyntaxMode.Proofs.Text.Boundary

/-!
# Columns and tab stops

Counting columns in words stays at the largest word, and each tab stop is computed from the column
that the count has come to, not from the true one. The column is all the same the one that counting
in unbounded numbers gives, cut off at the largest word (`toNat_ofText`): a count that is too large
for a word stays too large, whatever is added to it. On the way no remainder is taken by zero and
no difference falls below zero (`foldlM_next?`). It follows that columns grow with the offset, and
that every character makes them grow until they are at the largest word.
-/

namespace SyntaxMode.Column

/-! ## Counting without bound -/

/-- The first tab stop behind a column, with a stop at each multiple of a width. -/
def nextStop (width column : Nat) : Nat := (column / width + 1) * width

/-- The column after a character, in unbounded numbers. -/
def exactNext (width column : Nat) (c : Char) : Nat :=
  if c = '\t' then nextStop width column else column + 1

/-- The column after a text that starts at column 0, in unbounded numbers. -/
def exact (width : Nat) (text : Text) : Nat := text.foldl (exactNext width) 0

/-- The column after a character, if computing it neither takes a remainder by zero nor falls below
zero. -/
def next? (tabWidth column : Column) (c : Char) : Option Column :=
  if c = '\t' then
    if tabWidth = 0 ∨ tabWidth < column % tabWidth then none
    else some (column.saturatingAdd (tabWidth - column % tabWidth))
  else some (column.saturatingAdd 1)

section
variable {width : Nat}

/-- The next tab stop is behind the column. -/
theorem lt_nextStop (h : 0 < width) (column : Nat) : column < nextStop width column := by
  rw [nextStop, Nat.mul_comm]
  exact Nat.lt_mul_div_succ column h

/-- The next tab stop is the smallest multiple of the width that is greater than the column. -/
theorem isLeast_nextStop (h : 0 < width) (column : Nat) :
    IsLeast {stop | width ∣ stop ∧ column < stop} (nextStop width column) := by
  refine ⟨⟨Nat.dvd_mul_left .., lt_nextStop h column⟩, ?_⟩
  rintro _ ⟨⟨count, rfl⟩, hlt⟩
  rw [nextStop, Nat.mul_comm]
  exact Nat.mul_le_mul_left width (Nat.succ_le_of_lt (Nat.div_lt_of_lt_mul hlt))

/-- What is left of a stretch between two stops leads to the next stop. -/
theorem add_sub_mod_eq_nextStop (h : 0 < width) (column : Nat) :
    column + (width - column % width) = nextStop width column := by
  have hmod := Nat.mod_lt column h
  have hdiv := Nat.div_add_mod column width
  rw [nextStop, Nat.add_one_mul, Nat.mul_comm]
  omega

/-- Every character makes the exact column grow. -/
theorem lt_exactNext (h : 0 < width) (column : Nat) (c : Char) :
    column < exactNext width column c := by
  rw [exactNext]
  split
  · exact lt_nextStop h column
  · exact Nat.lt_succ_self column

/-- The last character of a text is counted last. -/
theorem exact_append_singleton (text : Text) (c : Char) :
    exact width (text ++ [c]) = exactNext width (exact width text) c := by
  rw [exact, List.foldl_append]
  rfl

/-- A longer text reaches at least as far. -/
theorem exact_le_of_prefix (h : 0 < width) {before text : Text} (hleading : before <+: text) :
    exact width before ≤ exact width text := by
  obtain ⟨after, rfl⟩ := hleading
  induction after using List.reverseRecOn with
  | nil => rw [List.append_nil]
  | append_singleton after c ih =>
    rw [← List.append_assoc, exact_append_singleton]
    exact ih.trans (lt_exactNext h _ c).le

end

/-! ## Counting in words -/

section
variable {width : Column}

/-- A tab width is never zero. -/
theorem toNat_tabWidth (tabSize : UInt32) : (tabWidth tabSize).toNat = max tabSize.toNat 1 := by
  rw [tabWidth]
  split
  next h =>
    rw [h]
    rfl
  next h =>
    have hpos : tabSize.toNat ≠ 0 := fun hzero => h (UInt32.toNat_inj.1 hzero)
    omega

/-- The width of a tab is not zero in unbounded numbers either. -/
theorem toNat_tabWidth_pos (tabSize : UInt32) : 0 < (tabWidth tabSize).toNat := by
  rw [toNat_tabWidth]
  omega

/-- **One step of the count.** Where a column is the exact one, cut off at the largest word, so is
the column after another character. -/
theorem toNat_next (h : 0 < width.toNat) {column : Column} {exactColumn : Nat}
    (hcolumn : column.toNat = min exactColumn 4294967295) (c : Char) :
    (next width column c).toNat =
      min (exactNext width.toNat exactColumn c) 4294967295 := by
  rw [next, exactNext]
  split
  · have hmod := Nat.mod_lt column.toNat h
    have hrest : (width - column % width).toNat =
        width.toNat - column.toNat % width.toNat := by
      rw [UInt32.toNat_sub_of_le, UInt32.toNat_mod]
      rw [UInt32.le_iff_toNat_le, UInt32.toNat_mod]
      exact hmod.le
    rw [toNat_saturatingAdd, hrest, add_sub_mod_eq_nextStop h, hcolumn]
    -- Behind the largest word the two next stops differ, and both are cut off.
    by_cases hle : exactColumn ≤ 4294967295
    · rw [Nat.min_eq_left hle]
    · have hstop := lt_nextStop h exactColumn
      have hstop' := lt_nextStop h 4294967295
      rw [Nat.min_eq_right (Nat.le_of_not_le hle)]
      omega
  · rw [toNat_saturatingAdd, hcolumn, UInt32.toNat_one]
    omega

/-- **The count.** The column after a text is the exact one, cut off at the largest word. -/
theorem toNat_ofText (tabSize : UInt32) (text : Text) :
    (ofText tabSize text).toNat = min (exact (max tabSize.toNat 1) text) 4294967295 := by
  rw [← toNat_tabWidth]
  induction text using List.reverseRecOn with
  | nil => rfl
  | append_singleton text c ih =>
    rw [exact_append_singleton, ofText, List.foldl_append]
    exact toNat_next (toNat_tabWidth_pos tabSize) ih c

/-- With a tab width that is not zero, computing the next column does not fail. -/
theorem next?_eq_some (h : 0 < width.toNat) (column : Column) (c : Char) :
    next? width column c = some (next width column c) := by
  have hzero : width ≠ 0 := by
    rintro rfl
    exact absurd h (Nat.lt_irrefl 0)
  have hmod : ¬ width < column % width := by
    rw [UInt32.lt_iff_toNat_lt, UInt32.toNat_mod]
    exact (Nat.mod_lt column.toNat h).not_gt
  rw [next?, next, if_neg (not_or.2 ⟨hzero, hmod⟩)]
  split <;> rfl

/-- Nothing that is computed on the way fails. -/
theorem foldlM_next? (tabSize : UInt32) (text : Text) :
    text.foldlM (next? (tabWidth tabSize)) 0 = some (ofText tabSize text) := by
  have hnext : next? (tabWidth tabSize) =
      fun column c => pure (next (tabWidth tabSize) column c) := by
    funext column c
    exact next?_eq_some (toNat_tabWidth_pos tabSize) column c
  rw [hnext]
  exact List.foldlM_pure ..

end

/-! ## The column of an offset -/

section
variable {tabSize : UInt32} {text before before' : Text} {offset : Nat} {column : Column}

/-- An offset has a column if it is a boundary, or past the end. -/
theorem atByte?_eq_some_iff :
    atByte? tabSize text offset = some column ↔
      ∃ before : Text, before <+: text ∧ before.byteLength = min offset text.byteLength ∧
        ofText tabSize before = column := by
  simp only [atByte?, Option.map_eq_some_iff, Text.splitAtByte?_eq_some_iff]
  constructor
  · rintro ⟨⟨before, after⟩, ⟨htext, hlength⟩, hcolumn⟩
    exact ⟨before, ⟨after, htext⟩, hlength, hcolumn⟩
  · rintro ⟨before, ⟨after, htext⟩, hlength, hcolumn⟩
    exact ⟨(before, after), ⟨htext, hlength⟩, hcolumn⟩

/-- The column after a longer text is no smaller. -/
theorem ofText_le_of_prefix (tabSize : UInt32) (h : before <+: before') :
    ofText tabSize before ≤ ofText tabSize before' := by
  have hexact := exact_le_of_prefix (show 0 < max tabSize.toNat 1 by omega) h
  rw [UInt32.le_iff_toNat_le, toNat_ofText, toNat_ofText]
  omega

/-- A character makes the column grow, unless the column is as large as it can be. -/
theorem ofText_lt_append_singleton (c : Char) (h : (ofText tabSize before).toNat < 4294967295) :
    ofText tabSize before < ofText tabSize (before ++ [c]) := by
  have hexact := lt_exactNext (show 0 < max tabSize.toNat 1 by omega)
    (exact (max tabSize.toNat 1) before) c
  rw [toNat_ofText] at h
  rw [UInt32.lt_iff_toNat_lt, toNat_ofText, toNat_ofText, exact_append_singleton]
  omega

/-- **Columns are exact until they saturate.** An offset that is a character boundary or past the
end has a column, and no other offset does. The column is what counting in unbounded numbers gives
for the characters before the offset, cut off at the largest word, where a tab leads to the
smallest multiple of the tab width behind it; and counting in words comes to it without failing.
The columns of later offsets are no smaller, and each character makes them grow until they
saturate. -/
theorem atByte?_exact (tabSize : UInt32) (text : Text) :
    (∀ offset column, atByte? tabSize text offset = some column ↔
      ∃ before : Text, before <+: text ∧ before.byteLength = min offset text.byteLength ∧
        before.foldlM (next? (tabWidth tabSize)) 0 = some column ∧
        column.toNat = min 4294967295 (exact (max tabSize.toNat 1) before)) ∧
      (∀ column, IsLeast {stop | max tabSize.toNat 1 ∣ stop ∧ column < stop}
        (nextStop (max tabSize.toNat 1) column)) ∧
      (∀ offset offset' column column', offset ≤ offset' →
        atByte? tabSize text offset = some column → atByte? tabSize text offset' = some column' →
          column ≤ column') ∧
      ∀ (before : Text) (c : Char) (after : Text), before ++ c :: after = text →
        ∃ column column', atByte? tabSize text before.byteLength = some column ∧
          atByte? tabSize text (before.byteLength + c.utf8Size) = some column' ∧
          (column.toNat < 4294967295 → column < column') := by
  refine ⟨?exact, isLeast_nextStop (by omega), ?monotone, ?strict⟩
  case exact =>
    intro offset column
    simp only [atByte?_eq_some_iff, foldlM_next?, Option.some.injEq]
    constructor
    · rintro ⟨before, hleading, hlength, rfl⟩
      exact ⟨before, hleading, hlength, rfl, by rw [toNat_ofText, Nat.min_comm]⟩
    · rintro ⟨before, hleading, hlength, hcolumn, -⟩
      exact ⟨before, hleading, hlength, hcolumn⟩
  case monotone =>
    intro offset offset' column column' hle h h'
    obtain ⟨before, hleading, hlength, rfl⟩ := atByte?_eq_some_iff.1 h
    obtain ⟨before', hleading', hlength', rfl⟩ := atByte?_eq_some_iff.1 h'
    refine ofText_le_of_prefix tabSize (Text.prefix_of_byteLength_le hleading hleading' ?_)
    omega
  case strict =>
    rintro before c after rfl
    have hafter : (before ++ [c]) ++ after = before ++ c :: after := by simp
    have hlength : Text.byteLength (before ++ [c]) = before.byteLength + c.utf8Size := by simp
    refine ⟨ofText tabSize before, ofText tabSize (before ++ [c]), atByte?_of_append tabSize rfl,
      ?_, ofText_lt_append_singleton c⟩
    rw [← hlength]
    exact atByte?_of_append tabSize hafter

/-- The theorem for tabs of the largest size, the second of which leads beyond all words. -/
theorem atByte?_exact_saturated :
    let text : Text := "é\t\tx".toList
    (exact 4294967295 (text.take 3) = 8589934590 ∧
        atByte? 4294967295 text 4 = some 4294967295) ∧
      (1 : Column) ≤ 4294967295 ∧
      ∃ column column', atByte? 4294967295 text 2 = some column ∧
        atByte? 4294967295 text 3 = some column' ∧ column < column' := by
  intro text
  obtain ⟨hexact, -, hmonotone, hstrict⟩ := atByte?_exact 4294967295 text
  have htabs : atByte? 4294967295 text 4 = some 4294967295 :=
    (hexact 4 4294967295).2 ⟨text.take 3, List.take_prefix .., rfl, rfl, rfl⟩
  have hbefore : atByte? 4294967295 text 2 = some 1 := rfl
  obtain ⟨column, column', hcolumn, hcolumn', hlt⟩ := hstrict ['é'] '\t' ['\t', 'x'] rfl
  have hone : column = 1 := Option.some.inj (hcolumn.symm.trans hbefore)
  refine ⟨⟨rfl, htabs⟩, hmonotone 2 4 1 4294967295 (by decide) hbefore htabs, column, column',
    hcolumn, hcolumn', hlt ?_⟩
  rw [hone]
  decide

end

end SyntaxMode.Column
