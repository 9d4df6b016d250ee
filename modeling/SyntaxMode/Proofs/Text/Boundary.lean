import SyntaxMode.Proofs.Token.Fragment

/-!
# Character boundaries

A byte offset names a place in a text if it stands between two characters of it, or at one of its
ends. Two such places in the right order bound a slice (`IsBoundary.exists_slice?`), and of two the
one with the smaller offset comes first (`prefix_of_byteLength_le`).
-/

namespace SyntaxMode.Text

variable {text before before' : Text} {offset start stop : Nat}

/-- Whether a byte offset in a text is the length of a leading part of it. -/
def IsBoundary (text : Text) (offset : Nat) : Prop :=
  ∃ before : Text, before <+: text ∧ before.byteLength = offset

/-- Of two leading parts of a text, the one with fewer bytes is a leading part of the other. -/
theorem prefix_of_byteLength_le (h : before <+: text) (h' : before' <+: text)
    (hle : before.byteLength ≤ before'.byteLength) : before <+: before' := by
  rcases List.prefix_or_prefix_of_prefix h h' with hleading | ⟨more, rfl⟩
  · exact hleading
  · have hmore : byteLength more = 0 := by
      rw [byteLength_append] at hle
      omega
    exact ⟨[], by rw [byteLength_eq_zero_iff.1 hmore, List.append_nil, List.append_nil]⟩

/-- A text is split at its character boundaries, and nowhere else. -/
theorem splitAtByte?_eq_some_iff {parts : Text × Text} :
    text.splitAtByte? offset = some parts ↔
      parts.1 ++ parts.2 = text ∧ parts.1.byteLength = offset := by
  constructor
  · intro h
    obtain ⟨htext, hlength⟩ := eq_append_of_splitAtByte? h
    exact ⟨htext.symm, hlength⟩
  · rintro ⟨rfl, rfl⟩
    exact splitAtByte?_byteLength_append ..

namespace IsBoundary

/-- A character boundary lies within its text. -/
theorem le_byteLength (h : text.IsBoundary offset) : offset ≤ text.byteLength := by
  obtain ⟨before, ⟨after, rfl⟩, rfl⟩ := h
  rw [byteLength_append]
  omega

/-- A slice between two boundaries succeeds. -/
theorem exists_slice? (hstart : text.IsBoundary start) (hstop : text.IsBoundary stop)
    (hle : start ≤ stop) : ∃ slice, text.slice? start stop = some slice := by
  obtain ⟨before, hbefore, rfl⟩ := hstart
  obtain ⟨upTo, hupTo, rfl⟩ := hstop
  obtain ⟨slice, rfl⟩ := prefix_of_byteLength_le hbefore hupTo hle
  obtain ⟨after, rfl⟩ := hupTo
  rw [byteLength_append]
  exact ⟨slice, slice?_append before slice after⟩

end IsBoundary

end SyntaxMode.Text
