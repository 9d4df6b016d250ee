import SyntaxMode.Cursor.Program
import SyntaxMode.Proofs.Offsets.Basic

/-!
# Operations by byte offsets

The operations on a cursor as programs on byte offsets. Each of them, and so each attempt that is
made of others, answers what the operation on the cursor answers, and leaves the offsets of the
cursor that the operation leaves (`Operation.runs_program`). A search by bytes goes to where
passing characters one by one goes, and answers the character there
(`Operation.seek_passes_characters`).
-/

namespace SyntaxMode

namespace Cursor

/-! ## Programs -/

mutual

/-- Whether an operation looks for no byte from 128 on. -/
def Operation.Ascii : Operation → Prop
  | .seek byte => byte.toNat < 128
  | .seekEither first second => first.toNat < 128 ∧ second.toNat < 128
  | .attempt operations => allAscii operations
  | .next | .peek | .passIf _ | .expect _ | .passWhile _ | .begin | .toEnd => True

/-- Whether no operation of a list looks for a byte from 128 on. -/
def allAscii : List Operation → Prop
  | [] => True
  | operation :: rest => operation.Ascii ∧ allAscii rest

end

mutual

/-- An operation as a program on byte offsets. -/
def Operation.program : Operation → Offsets.Program Answer
  | .next => do return .char (← Offsets.next)
  | .peek => do return .char (← Offsets.peek)
  | .passIf accepts => do return .char (← Offsets.passIf accepts)
  | .expect char => do return .flag (← Offsets.expect char)
  | .passWhile accepts => do return .flag (← Offsets.passWhile accepts)
  | .begin => do
    Offsets.begin
    return .done
  | .toEnd => do
    Offsets.toEnd
    return .done
  | .seek byte => do return .flag (← Offsets.seek (· == byte)).isSome
  | .seekEither first second => do
    let found? ← Offsets.seek fun byte => byte == first || byte == second
    return .char (found?.map fun byte => Char.ofNat byte.toNat)
  | .attempt operations => do return .flag (← Offsets.attempt (programAll operations))

/-- Operations in order until one fails, as a program that tells whether none did. -/
def programAll : List Operation → Offsets.Program Bool
  | [] => return true
  | operation :: rest => do
    if (← operation.program).succeeds then programAll rest else return false

end

/-! ## Searches -/

/-- If only bytes below 128 are accepted, a search passes the run of characters that are none of
them, and finds the character behind the run. -/
theorem seek_eq {accepts : UInt8 → Bool} (h : ∀ byte, accepts byte = true → byte.toNat < 128)
    (cursor : Cursor) :
    cursor.seek accepts =
      ((cursor.ahead.find? (Text.isByte accepts)).map Char.toUInt8,
        cursor.passWhile fun c => !Text.isByte accepts c) := by
  rw [seek, Text.findByte?_eq h]
  cases hfind : cursor.ahead.find? (Text.isByte accepts) with
  | some c =>
    have hsplit := List.takeWhile_append_dropWhile
      (p := fun c => !Text.isByte accepts c) (l := cursor.ahead)
    have hchars := Text.charsWithin_byteLength_append
      (cursor.ahead.takeWhile fun c => !Text.isByte accepts c)
      (cursor.ahead.dropWhile fun c => !Text.isByte accepts c)
    rw [hsplit] at hchars
    simp only [Option.map_some, hchars]
    rfl
  | none =>
    rw [passWhile_eq_toEnd hfind]
    rfl

/-! ## Places -/

/-- Whether an operation runs others. -/
def Operation.isAttempt : Operation → Bool
  | .attempt _ => true
  | _ => false

/-- Passing a character, or none, goes forward. -/
theorem exists_forward_passAnswer (cursor : Cursor) (accepts : Char → Bool) :
    ∃ count, (cursor.passAnswer accepts).2 = cursor.forward count := by
  rw [passAnswer, passIf?]
  cases cursor.ahead with
  | nil => exact ⟨0, rfl⟩
  | cons c after =>
    cases hc : accepts c with
    | true => exact ⟨1, by simp [hc]⟩
    | false => exact ⟨0, by simp [hc]⟩

/-- A search goes forward. -/
theorem exists_forward_seek (cursor : Cursor) (accepts : UInt8 → Bool) :
    ∃ count, (cursor.seek accepts).2 = cursor.forward count := by
  rw [seek]
  cases cursor.ahead.findByte? accepts with
  | some found => exact ⟨_, rfl⟩
  | none => exact ⟨_, rfl⟩

/-- **One operation.** An operation that runs no others begins a lexeme, or goes forward. -/
theorem Operation.eq_begin_or_exists_forward {operation : Operation}
    (h : operation.isAttempt = false) (cursor : Cursor) :
    operation = .begin ∨ ∃ count, (operation.run cursor).2 = cursor.forward count := by
  cases operation with
  | begin => exact .inl rfl
  | next | passIf | expect => exact .inr (exists_forward_passAnswer cursor _)
  | peek => exact .inr ⟨0, rfl⟩
  | passWhile | toEnd => exact .inr ⟨_, rfl⟩
  | seek | seekEither => exact .inr (exists_forward_seek cursor _)
  | attempt operations => cases h

/-- An operation that runs no others stays in its line. -/
theorem Operation.line_run_of_isAttempt {operation : Operation}
    (h : operation.isAttempt = false) (cursor : Cursor) :
    (operation.run cursor).2.line = cursor.line := by
  rcases operation.eq_begin_or_exists_forward h cursor with rfl | ⟨count, hcount⟩
  · exact line_begin cursor
  · rw [hcount, line_forward]

/-- The search for a byte tells whether it was found. -/
theorem Operation.run_seek (byte : UInt8) (cursor : Cursor) :
    (Operation.seek byte).run cursor =
      (.flag (cursor.seek (· == byte)).1.isSome, (cursor.seek (· == byte)).2) := by
  rw [Operation.run]

/-- The search for the first of two bytes answers its character. -/
theorem Operation.run_seekEither (first second : UInt8) (cursor : Cursor) :
    (Operation.seekEither first second).run cursor =
      let (found?, after) := cursor.seek fun byte => byte == first || byte == second
      (.char (found?.map fun byte => Char.ofNat byte.toNat), after) := by
  rw [Operation.run]

/-- Passing a run of characters tells whether there were any. -/
theorem Operation.run_passWhile (accepts : Char → Bool) (cursor : Cursor) :
    (Operation.passWhile accepts).run cursor =
      (.flag (cursor.ahead.runLength accepts != 0), cursor.passWhile accepts) := by
  rw [Operation.run]

/-- An attempt tells whether all of its operations succeeded, and goes back if one did not. -/
theorem Operation.run_attempt (operations : List Operation) (cursor : Cursor) :
    (Operation.attempt operations).run cursor =
      (.flag (runAll operations cursor).1,
        if (runAll operations cursor).1 then (runAll operations cursor).2
        else cursor.backTo (runAll operations cursor).2) := by
  rw [Operation.run]

/-- Operations are run in order until one fails. -/
theorem runAll_cons (operation : Operation) (rest : List Operation) (cursor : Cursor) :
    runAll (operation :: rest) cursor =
      if (operation.run cursor).1.succeeds then runAll rest (operation.run cursor).2
      else (false, (operation.run cursor).2) := by
  rw [runAll]

mutual

/-- An operation stays in its line. -/
theorem Operation.line_run : (operation : Operation) → (cursor : Cursor) →
    (operation.run cursor).2.line = cursor.line
  | .attempt operations, cursor => by
    have hline := line_runAll operations cursor
    rw [Operation.run_attempt]
    simp only
    split
    · exact hline
    · rfl
  | .next, cursor | .peek, cursor | .passIf _, cursor | .expect _, cursor | .passWhile _, cursor
  | .begin, cursor | .toEnd, cursor | .seek _, cursor | .seekEither _ _, cursor =>
    Operation.line_run_of_isAttempt rfl cursor

/-- Operations that are run in order stay in their line. -/
theorem line_runAll : (operations : List Operation) → (cursor : Cursor) →
    (runAll operations cursor).2.line = cursor.line
  | [], cursor => rfl
  | operation :: rest, cursor => by
    have hline := operation.line_run cursor
    rw [runAll_cons]
    split
    · rw [line_runAll rest, hline]
    · exact hline

end

/-! ## Answers -/

/-- Passing a character, or none, by byte offsets. -/
theorem runs_passIf (cursor : Cursor) (accepts : Char → Bool) :
    Offsets.Runs (Offsets.passIf accepts) cursor (cursor.passAnswer accepts).1
      (cursor.passAnswer accepts).2 := by
  rw [passAnswer, passIf?]
  cases hahead : cursor.ahead with
  | nil => exact Offsets.runs_passIf_of_neg (by simp [hahead])
  | cons c after =>
    cases hc : accepts c with
    | true =>
      simp only [hc, if_true]
      exact Offsets.runs_passIf_of_pos hahead hc
    | false =>
      simp only [hc, Bool.false_eq_true, if_false]
      exact Offsets.runs_passIf_of_neg (by simp [hahead, hc])

/-- A search by byte offsets for bytes below 128. -/
theorem runs_seek {accepts : UInt8 → Bool} (h : ∀ byte, accepts byte = true → byte.toNat < 128)
    (cursor : Cursor) :
    Offsets.Runs (Offsets.seek accepts) cursor (cursor.seek accepts).1
      (cursor.seek accepts).2 := by
  rw [seek_eq h]
  exact Offsets.runs_seek cursor h

/-- Going back over a failed attempt changes the place alone. -/
theorem offsets_backTo {earlier cursor : Cursor} (h : cursor.line = earlier.line) :
    (earlier.backTo cursor).offsets =
      { cursor.offsets with position := earlier.offsets.position } := by
  simp only [offsets, backTo, lexemeStart, beforeLexeme, position, line] at h ⊢
  rw [h]

/-- An attempt by byte offsets. -/
theorem runs_attempt {program : Offsets.Program Bool} {holds : Bool} {after : Cursor}
    (h : Offsets.Runs program cursor holds after) (hline : after.line = cursor.line) :
    Offsets.Runs (Offsets.attempt program) cursor holds
      (if holds then after else cursor.backTo after) := by
  cases holds with
  | true => exact Offsets.runs_attempt_of_true h
  | false =>
    exact .bind (Offsets.runs_get cursor)
      (.bind h (.bind (Offsets.runs_modify (offsets_backTo hline).symm) (.pure _ _)))

/-- A byte that is one of two below 128 is below 128. -/
theorem toNat_lt_of_beq_or_beq {first second : UInt8} (hfirst : first.toNat < 128)
    (hsecond : second.toNat < 128) {byte : UInt8} (h : (byte == first || byte == second) = true) :
    byte.toNat < 128 := by
  rw [Bool.or_eq_true, beq_iff_eq, beq_iff_eq] at h
  rcases h with rfl | rfl
  · exact hfirst
  · exact hsecond

mutual

/-- **Operations by byte offsets.** An operation that looks for no byte from 128 on answers the
same by byte offsets, and leaves the same place. -/
theorem Operation.runs_program : (operation : Operation) → operation.Ascii → (cursor : Cursor) →
    Offsets.Runs operation.program cursor (operation.run cursor).1 (operation.run cursor).2
  | .next, _, cursor | .passIf _, _, cursor => .bind (runs_passIf cursor _) (.pure _ _)
  | .peek, _, cursor => .bind (Offsets.runs_peek cursor) (.pure _ _)
  | .expect _, _, cursor => .bind (.bind (runs_passIf cursor _) (.pure _ _)) (.pure _ _)
  | .passWhile accepts, _, cursor => .bind (Offsets.runs_passWhile cursor accepts) (.pure _ _)
  | .begin, _, cursor => .bind (Offsets.runs_begin cursor) (.pure _ _)
  | .toEnd, _, cursor => .bind (Offsets.runs_toEnd cursor) (.pure _ _)
  | .seek byte, h, cursor =>
    .bind (runs_seek (fun other hother => by rw [beq_iff_eq.1 hother]; exact h) cursor) (.pure _ _)
  | .seekEither first second, h, cursor =>
    .bind (runs_seek (fun other => toNat_lt_of_beq_or_beq h.1 h.2) cursor) (.pure _ _)
  | .attempt operations, h, cursor =>
    .bind (runs_attempt (runs_programAll operations h cursor) (line_runAll operations cursor))
      (.pure _ _)

/-- Operations in order answer the same by byte offsets, and leave the same place. -/
theorem runs_programAll : (operations : List Operation) → allAscii operations →
    (cursor : Cursor) →
    Offsets.Runs (programAll operations) cursor (runAll operations cursor).1
      (runAll operations cursor).2
  | [], _, cursor => .pure _ _
  | operation :: rest, h, cursor => by
    refine .bind (operation.runs_program h.1 cursor) ?_
    rw [runAll_cons]
    split
    · exact runs_programAll rest h.2 _
    · exact .pure _ _

end

/-! ## Searches and runs of characters -/

/-- The first character of a kind that is ahead comes behind the run of all others. -/
theorem peek?_passWhile (cursor : Cursor) (stops : Char → Bool) :
    (cursor.passWhile fun c => !stops c).peek? = cursor.ahead.find? stops := by
  rw [peek?, passWhile, ahead_forward, Text.drop_runLength, List.find?_eq_head?_dropWhile_not]

/-- There is a character to look at unless the line has ended. -/
theorem isSome_peek? (cursor : Cursor) : cursor.peek?.isSome = !cursor.atEnd := by
  rw [peek?, atEnd]
  cases cursor.ahead <;> rfl

/-- A search for bytes below 128 ends where the run of all other characters ends, and finds the
character there. -/
theorem seek_eq_passWhile {accepts : UInt8 → Bool} {stops : Char → Bool}
    (h : ∀ byte, accepts byte = true → byte.toNat < 128) (hstops : Text.isByte accepts = stops)
    (cursor : Cursor) :
    cursor.seek accepts =
      ((cursor.passWhile fun c => !stops c).peek?.map Char.toUInt8,
        cursor.passWhile fun c => !stops c) := by
  subst hstops
  rw [seek_eq h, peek?_passWhile]

/-- A byte that is found stands for its character. -/
theorem map_ofNat_peek?_passWhile (cursor : Cursor) (accepts : UInt8 → Bool) :
    ((cursor.passWhile fun c => !Text.isByte accepts c).peek?.map Char.toUInt8).map
        (fun byte => Char.ofNat byte.toNat) =
      (cursor.passWhile fun c => !Text.isByte accepts c).peek? := by
  rw [peek?_passWhile]
  cases hfind : cursor.ahead.find? (Text.isByte accepts) with
  | none => rfl
  | some c => exact congrArg some (Text.ofNat_toUInt8 (List.find?_some hfind))

/-- **A byte search goes where passing characters goes.** The search for one byte below 128, and
for the first of two, ends where the run of all characters other than theirs ends. The first tells
whether that is not the end of the line, and the second answers the character there, if there is
one. By byte offsets the operations come to the same. -/
theorem Operation.seek_passes_characters (cursor : Cursor) {first second : UInt8}
    (hfirst : first.toNat < 128) (hsecond : second.toNat < 128) :
    let char (byte : UInt8) := Char.ofNat byte.toNat
    let passOne := Operation.passWhile fun c => c != char first
    let passBoth := Operation.passWhile fun c => c != char first && c != char second
    ((Operation.seek first).run cursor =
        (.flag !(passOne.run cursor).2.atEnd, (passOne.run cursor).2)) ∧
      ((Operation.seekEither first second).run cursor =
        (.char (passBoth.run cursor).2.peek?, (passBoth.run cursor).2)) ∧
      ∀ operation ∈ [.seek first, passOne, .seekEither first second, passBoth],
        Offsets.Runs operation.program cursor (operation.run cursor).1
          (operation.run cursor).2 := by
  intro char passOne passBoth
  refine ⟨?one, ?both, ?offsets⟩
  case one =>
    have hascii : ∀ byte, (byte == first) = true → byte.toNat < 128 := by
      intro byte hbyte
      rw [beq_iff_eq.1 hbyte]
      exact hfirst
    rw [Operation.run_seek, seek_eq_passWhile hascii (Text.isByte_beq_ofNat hfirst),
      Operation.run_passWhile, Option.isSome_map, isSome_peek?]
    rfl
  case both =>
    have hstops : Text.isByte (fun byte => byte == first || byte == second) =
        fun c => c == char first || c == char second := by
      funext c
      rw [Text.isByte_or, Text.isByte_beq_ofNat hfirst, Text.isByte_beq_ofNat hsecond]
    have hpass : (fun c => !Text.isByte (fun byte => byte == first || byte == second) c) =
        fun c => c != char first && c != char second := by
      rw [hstops]
      simp only [Bool.not_or]
      rfl
    have hascii (byte : UInt8) := @toNat_lt_of_beq_or_beq first second hfirst hsecond byte
    rw [Operation.run_seekEither, seek_eq_passWhile hascii rfl, Operation.run_passWhile, ← hpass]
    simp only [map_ofNat_peek?_passWhile]
  case offsets =>
    have hascii : ∀ operation ∈ [.seek first, passOne, .seekEither first second, passBoth],
        operation.Ascii := by
      simp [passOne, passBoth, Operation.Ascii, hfirst, hsecond]
    intro operation hoperation
    exact operation.runs_program (hascii operation hoperation) cursor

/-- The theorem for a slash behind a character of two bytes, and for a quote that is not there. -/
theorem Operation.seek_passes_characters_slash :
    let cursor : Cursor := .ofLine "é*/".toList
    (Operation.seek 47).run cursor = (.flag true, cursor.forward 2) ∧
      (Operation.seekEither 34 92).run cursor = (.char none, cursor.forward 3) := by
  intro cursor
  obtain ⟨hslash, -, -⟩ := Operation.seek_passes_characters cursor
    (show (47 : UInt8).toNat < 128 by decide) (show (34 : UInt8).toNat < 128 by decide)
  obtain ⟨-, hquote, -⟩ := Operation.seek_passes_characters cursor
    (show (34 : UInt8).toNat < 128 by decide) (show (92 : UInt8).toNat < 128 by decide)
  rw [hslash, hquote]
  exact ⟨rfl, rfl⟩

end Cursor

end SyntaxMode
