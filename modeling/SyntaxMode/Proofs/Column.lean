import SyntaxMode.Column

/-!
# Columns as numbers

Columns and indentations are words that stay at their largest value, so as numbers they are minima.
A run of spaces is as wide as it is long, and a column that a signed word can hold comes back from
it unchanged.
-/

namespace SyntaxMode.Column

/-- The sum of two widths as a number. -/
theorem toNat_saturatingAdd (column width : Column) :
    (column.saturatingAdd width).toNat = min (column.toNat + width.toNat) 4294967295 := by
  have hsize : UInt32.size = 4294967296 := rfl
  rw [saturatingAdd]
  by_cases h : column.toNat + width.toNat < UInt32.size
  · rw [UInt32.toNat_ofNatClamp_of_lt h]
    omega
  · rw [UInt32.toNat_ofNatClamp_of_le (Nat.le_of_not_lt h)]
    omega

/-- Spaces take up as many columns as there are of them. -/
theorem toNat_foldl_spaces (tabWidth column : Column) (count : Nat) :
    ((List.replicate count ' ').foldl (next tabWidth) column).toNat =
      min (column.toNat + count) 4294967295 := by
  induction count generalizing column with
  | zero =>
    have hlt : column.toNat < 4294967296 := column.toNat_lt
    rw [List.replicate_zero, List.foldl_nil]
    omega
  | succ count ih =>
    have hnext : (next tabWidth column ' ').toNat = min (column.toNat + 1) 4294967295 :=
      toNat_saturatingAdd column 1
    rw [List.replicate_succ, List.foldl_cons, ih, hnext]
    omega

/-- Behind spaces the column is their number. -/
theorem toNat_ofText_spaces (tabSize : UInt32) {count : Nat} (h : count < 4294967296) :
    (ofText tabSize (List.replicate count ' ')).toNat = count := by
  have hzero : (0 : Column).toNat = 0 := rfl
  rw [ofText, toNat_foldl_spaces, hzero]
  omega

/-- A column as a signed word. -/
theorem toInt_toSigned (column : Column) :
    column.toSigned.toInt = min column.toNat 2147483647 := by
  rw [toSigned, Int32.ofIntClamp]
  have hmin : Int32.minValue.toInt = -2147483648 := rfl
  have hmax : Int32.maxValue.toInt = 2147483647 := rfl
  rw [dif_pos (by omega)]
  split
  next h =>
    rw [Int32.toInt_ofIntLE]
    omega
  next h =>
    rw [hmax]
    omega

/-- An indentation as a column. -/
theorem toNat_ofSigned (indentation : Int32) :
    (ofSigned indentation).toNat = indentation.toInt.toNat := by
  have hlt : indentation.toInt < 2147483648 := indentation.toInt_lt
  have hsize : UInt32.size = 4294967296 := rfl
  refine UInt32.toNat_ofNatClamp_of_lt ?_
  omega

end SyntaxMode.Column
