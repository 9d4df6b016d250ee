/-!
# Text

A text is a list of characters. The positions by which an editor names a place in it are byte
offsets of its UTF-8 form, and an offset inside a multi-byte character names no place at all:
`splitAtByte?` and `slice?` answer `none` there, and likewise past the end of the text.
`charsWithin` goes back from bytes to characters, counting the ones that end within a bound.

A search by bytes looks at the UTF-8 form of a text, not at its characters. For bytes below 128 the
two come to the same, because such a byte never occurs inside the form of a longer character.

A text is cut into lines at each line feed, and a line loses one carriage return at its end. The
text of several lines has one line feed between each two of them and none at the end.
-/

namespace SyntaxMode

/-- A text, character by character. -/
abbrev Text := List Char

/-- A set of code points, as ranges with both ends included. -/
abbrev CodeRanges := List (Nat × Nat)

/-- Whether the code point of a character lies in one of the ranges. -/
def CodeRanges.contains (ranges : CodeRanges) (c : Char) : Bool :=
  ranges.any fun range => range.1 ≤ c.toNat && c.toNat ≤ range.2

namespace Text

/-- The number of bytes a text takes in UTF-8. -/
def byteLength : Text → Nat
  | [] => 0
  | c :: rest => c.utf8Size + byteLength rest

/-- The two parts of a text around a byte offset, when the offset is a character boundary. -/
def splitAtByte? : Nat → Text → Option (Text × Text)
  | 0, text => some ([], text)
  | _ + 1, [] => none
  | offset + 1, c :: rest =>
    if offset + 1 < c.utf8Size then none
    else (splitAtByte? (offset + 1 - c.utf8Size) rest).map fun parts => (c :: parts.1, parts.2)

/-- The text between two byte offsets, when both are character boundaries in this order. -/
def slice? (text : Text) (start stop : Nat) : Option Text := do
  guard (start ≤ stop)
  let tail ← splitAtByte? start text
  let parts ← splitAtByte? (stop - start) tail.2
  return parts.1

/-- The number of leading characters that lie within the first `bound` bytes. -/
def charsWithin (bound : Nat) : Text → Nat
  | [] => 0
  | c :: rest => if c.utf8Size ≤ bound then charsWithin (bound - c.utf8Size) rest + 1 else 0

/-- The number of leading characters that `accepts` holds of. -/
def runLength (accepts : Char → Bool) (text : Text) : Nat := (text.takeWhile accepts).length

/-- The UTF-8 form of a text. -/
def bytes (text : Text) : List UInt8 := text.flatMap String.utf8EncodeChar

/-- The offset of the first byte that `accepts` holds of, and that byte. -/
def findByte? (accepts : UInt8 → Bool) (text : Text) : Option (Nat × UInt8) := do
  let offset ← text.bytes.findIdx? accepts
  let found ← text.bytes[offset]?
  return (offset, found)

/-- A line without the carriage return at its end, if it has one. -/
def dropReturn (line : Text) : Text :=
  if line.getLast? = some '\r' then line.dropLast else line

/-- The lines of a text: at least one, since an empty text is one empty line. -/
def lines (text : Text) : List Text := (text.splitOn '\n').map dropReturn

/-- The text whose lines are the given ones. -/
def joinLines (lines : List Text) : Text := List.intercalate ['\n'] lines

/-! ## Runs -/

/-- A run ends within its text. -/
theorem runLength_le (accepts : Char → Bool) (text : Text) :
    text.runLength accepts ≤ text.length :=
  (List.takeWhile_sublist accepts).length_le

/-- A run is what is taken of a text for the length of the run. -/
theorem take_runLength (accepts : Char → Bool) (text : Text) :
    text.take (text.runLength accepts) = text.takeWhile accepts := by
  have h := List.takeWhile_append_dropWhile (p := accepts) (l := text)
  conv => lhs; rw [← h]
  exact List.take_left' (by rw [h]; rfl)

/-- What follows a run is what is left when its characters are dropped. -/
theorem drop_runLength (accepts : Char → Bool) (text : Text) :
    text.drop (text.runLength accepts) = text.dropWhile accepts := by
  have h := List.takeWhile_append_dropWhile (p := accepts) (l := text)
  conv => lhs; rw [← h]
  exact List.drop_left' (by rw [h]; rfl)

/-- A run goes on behind characters that belong to it. -/
theorem runLength_append {accepts : Char → Bool} {front : Text}
    (h : ∀ c ∈ front, accepts c = true) (behind : Text) :
    (front ++ behind).runLength accepts = front.length + behind.runLength accepts := by
  rw [runLength, List.takeWhile_append_of_pos h, List.length_append, runLength]

/-- A run is empty where no character that belongs to it comes first. -/
theorem runLength_eq_zero_iff {accepts : Char → Bool} {text : Text} :
    text.runLength accepts = 0 ↔ ∀ c ∈ text.head?, accepts c = false := by
  cases text with
  | nil => simp [runLength]
  | cons first rest => cases hfirst : accepts first <;> simp [runLength, hfirst]

/-! ## Byte lengths -/

@[simp] theorem byteLength_nil : byteLength [] = 0 := rfl

@[simp] theorem byteLength_cons (c : Char) (text : Text) :
    byteLength (c :: text) = c.utf8Size + byteLength text := rfl

@[simp] theorem byteLength_append (a b : Text) :
    byteLength (a ++ b) = byteLength a + byteLength b := by
  induction a with
  | nil => simp
  | cons c a ih => simp [ih, Nat.add_assoc]

@[simp] theorem byteLength_reverse (text : Text) : byteLength text.reverse = byteLength text := by
  induction text with
  | nil => rfl
  | cons c text ih => simp [ih, Nat.add_comm]

/-- No character takes less than one byte. -/
theorem length_le_byteLength (text : Text) : text.length ≤ byteLength text := by
  induction text with
  | nil => exact Nat.le_refl 0
  | cons c text ih =>
    have hpos := c.utf8Size_pos
    rw [List.length_cons, byteLength_cons]
    omega

/-- Only the empty text takes no bytes. -/
theorem byteLength_eq_zero_iff {text : Text} : byteLength text = 0 ↔ text = [] := by
  cases text with
  | nil => simp
  | cons c text => simp [Nat.ne_of_gt c.utf8Size_pos]

/-! ## Bytes -/

@[simp] theorem bytes_nil : bytes [] = [] := rfl

@[simp] theorem bytes_cons (c : Char) (text : Text) :
    bytes (c :: text) = String.utf8EncodeChar c ++ bytes text := by
  simp [bytes]

/-! ## Splitting at a byte offset -/

/-- The end of a leading part is a character boundary, and splitting there gives that part back. -/
theorem splitAtByte?_byteLength_append (a b : Text) :
    splitAtByte? (byteLength a) (a ++ b) = some (a, b) := by
  induction a with
  | nil => simp [splitAtByte?]
  | cons c a ih =>
    obtain ⟨n, hn⟩ : ∃ n, c.utf8Size = n + 1 := ⟨c.utf8Size - 1, by have := c.utf8Size_pos; omega⟩
    have hlen : byteLength (c :: a) = (n + byteLength a) + 1 := by simp [hn]; omega
    have hsub : n + byteLength a + 1 - (n + 1) = byteLength a := by omega
    rw [hlen, List.cons_append, splitAtByte?, if_neg (by omega), hn, hsub, ih]
    rfl

/-- A split keeps every character, and its first part takes exactly the bytes before the offset. -/
theorem eq_append_of_splitAtByte? {offset : Nat} {text : Text} {parts : Text × Text}
    (h : splitAtByte? offset text = some parts) :
    text = parts.1 ++ parts.2 ∧ byteLength parts.1 = offset := by
  induction text generalizing offset parts with
  | nil =>
    cases offset with
    | zero => simp only [splitAtByte?, Option.some.injEq] at h; subst h; simp
    | succ n => simp [splitAtByte?] at h
  | cons c rest ih =>
    cases offset with
    | zero => simp only [splitAtByte?, Option.some.injEq] at h; subst h; simp
    | succ n =>
      rw [splitAtByte?] at h
      split at h
      · simp at h
      · obtain ⟨tail, htail, rfl⟩ := Option.map_eq_some_iff.1 h
        obtain ⟨hrest, hlen⟩ := ih htail
        refine ⟨by simp [← hrest], ?_⟩
        simp only [byteLength_cons, hlen]
        omega

end Text

end SyntaxMode
