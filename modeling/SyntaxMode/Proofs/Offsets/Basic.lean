import Mathlib.Data.List.TakeWhile
import SyntaxMode.Proofs.Text.Bytes
import SyntaxMode.Proofs.Token.Fragment

/-!
# Places as byte offsets

An editor keeps a place in a line as a byte offset and slices the line by offsets, and a slice
fails if one of its ends lies inside a character or beyond the end of the line. A program on
offsets fails where a slice of it does. It also fails where a loop of it has not ended after one
round for each byte of the line and one more, so a program that answers has come to an end. `Runs`
compares it with a cursor: started at the offsets of a cursor, the program answers and leaves the
offsets of another cursor. Each operation is proved to run as the move of the cursor does, so that
whole programs are compared operation by operation.
-/

namespace SyntaxMode

/-- A place in a line and the place where the current lexeme began, as byte offsets. Nothing says
that they are character boundaries of the line. -/
structure Offsets where
  line : Text
  lexemeStart : Nat
  position : Nat

/-- The byte offsets of a cursor. -/
def Cursor.offsets (cursor : Cursor) : Offsets :=
  ⟨cursor.line, cursor.lexemeStart, cursor.position⟩

namespace Offsets

/-- A program on byte offsets. It has no answer if a slice fails or if a loop does not end. -/
abbrev Program := StateT Offsets Option

/-- The line from the place on. -/
def rest : Program Text := do
  let offsets ← get
  let parts ← offsets.line.splitAtByte? offsets.position
  return parts.2

/-- The part of the line between two offsets. -/
def slice (start stop : Nat) : Program Text := do
  let offsets ← get
  offsets.line.slice? start stop

/-- The current lexeme. -/
def current : Program Text := do
  let offsets ← get
  slice offsets.lexemeStart offsets.position

/-- The column in which the current lexeme began. -/
def column (tabSize : UInt32) : Program Column := do
  let offsets ← get
  Column.atByte? tabSize offsets.line offsets.lexemeStart

/-- The width of the blank characters that the line starts with. -/
def indentation (tabSize : UInt32) : Program Column := do
  let offsets ← get
  Column.atByte? tabSize offsets.line (Text.byteLength (offsets.line.takeWhile isBlank))

/-- Begins a new lexeme at the place. -/
def begin : Program Unit :=
  modify fun offsets => { offsets with lexemeStart := offsets.position }

/-- Looks at the next character. -/
def peek : Program (Option Char) := do
  return (← rest).head?

/-- Goes on by the bytes of a character. -/
def pass (c : Char) : Program Unit :=
  modify fun offsets => { offsets with position := offsets.position + c.utf8Size }

/-- Passes the next character if `accepts` holds of it. -/
def passIf (accepts : Char → Bool) : Program (Option Char) := do
  match ← peek with
  | some c =>
    if accepts c then
      pass c
      return some c
    else return none
  | none => return none

/-- Passes the next character. -/
def next : Program (Option Char) := passIf fun _ => true

/-- Passes the next character if it is this one. -/
def expect (c : Char) : Program Bool := do
  return (← passIf (· == c)).isSome

/-- The rounds that a loop may take: one for each byte of the line, and one to find that it
ends. -/
def rounds : Program Nat := do
  let offsets ← get
  return offsets.line.byteLength + 1

/-- Passes one character after the other while `accepts` holds of them, in at most a number of
rounds. -/
def passWithin (accepts : Char → Bool) : Nat → Program Unit
  | 0 => failure
  | rounds + 1 => do
    if (← passIf accepts).isSome then passWithin accepts rounds

/-- Passes the longest run of characters that `accepts` holds of, and tells whether there was
one. -/
def passWhile (accepts : Char → Bool) : Program Bool := do
  let before ← get
  passWithin accepts (← rounds)
  let after ← get
  return before.position < after.position

/-- Runs a program all or not at all: if it answers no, the place is where it was before. -/
def attempt (program : Program Bool) : Program Bool := do
  let before ← get
  if ← program then return true
  else
    modify fun offsets => { offsets with position := before.position }
    return false

/-- Goes to the end of the line. -/
def toEnd : Program Unit :=
  modify fun offsets => { offsets with position := offsets.line.byteLength }

/-- Goes to the first byte ahead that `accepts` holds of, or to the end of the line. -/
def seek (accepts : UInt8 → Bool) : Program (Option UInt8) := do
  match (← rest).findByte? accepts with
  | some (offset, found) =>
    modify fun offsets => { offsets with position := offsets.position + offset }
    return some found
  | none =>
    toEnd
    return none

/-! ## Runs -/

/-- Whether a program, started at the offsets of a cursor, gives an answer and leaves the offsets
of another cursor. -/
def Runs {α : Type} (program : Program α) (cursor : Cursor) (answer : α) (after : Cursor) : Prop :=
  program.run cursor.offsets = some (answer, after.offsets)

section
variable {α β : Type} {cursor middle after : Cursor}

/-- A program that only answers stays where it is. -/
theorem Runs.pure (answer : α) (cursor : Cursor) :
    Runs (Pure.pure answer : Program α) cursor answer cursor := rfl

/-- A program and the one that goes on with its answer run one after the other. -/
theorem Runs.bind {program : Program α} {next : α → Program β} {answer : α} {answer' : β}
    (h : Runs program cursor answer middle) (h' : Runs (next answer) middle answer' after) :
    Runs (program >>= next) cursor answer' after := by
  show (program.run cursor.offsets).bind (fun result => (next result.1).run result.2) = _
  rw [show program.run cursor.offsets = some (answer, middle.offsets) from h]
  exact h'

/-- A program whose answer is not used runs all the same. -/
theorem Runs.discard {program : Program α} {answer : α} (h : Runs program cursor answer after) :
    Runs (Functor.discard program : Program Unit) cursor () after := by
  show (program.run cursor.offsets).bind (fun result => some ((), result.2)) = _
  rw [show program.run cursor.offsets = some (answer, after.offsets) from h]
  rfl

/-- The offsets of a cursor can be looked at. -/
theorem runs_get (cursor : Cursor) : Runs (get : Program Offsets) cursor cursor.offsets cursor :=
  rfl

/-- A slice that succeeds. -/
theorem runs_lift {result : Option α} {answer : α} (h : result = some answer) (cursor : Cursor) :
    Runs (liftM result : Program α) cursor answer cursor := by
  subst h
  rfl

/-- A change of offsets runs if it leads to those of another cursor. -/
theorem runs_modify {change : Offsets → Offsets} (h : change cursor.offsets = after.offsets) :
    Runs (modify change : Program Unit) cursor () after := by
  show some ((), change cursor.offsets) = _
  rw [h]

end

end Offsets

/-! ## The offsets of a cursor -/

/-- The end of a leading part of a line has the column of that part. -/
theorem Column.atByte?_of_append (tabSize : UInt32) {before after line : Text}
    (h : before ++ after = line) :
    atByte? tabSize line before.byteLength = some (ofText tabSize before) := by
  subst h
  have hle : before.byteLength ≤ Text.byteLength (before ++ after) := by simp
  rw [atByte?, Nat.min_eq_left hle, Text.splitAtByte?_byteLength_append]
  rfl

namespace Cursor

variable (cursor : Cursor)

@[simp] theorem forward_zero : cursor.forward 0 = cursor := rfl

@[simp] theorem forward_forward (m n : Nat) :
    (cursor.forward m).forward n = cursor.forward (m + n) := by
  simp [forward, List.take_add, List.drop_drop]

/-- At the end of a line there is nowhere to go. -/
theorem forward_of_ahead_eq_nil {cursor : Cursor} (h : cursor.ahead = []) (count : Nat) :
    cursor.forward count = cursor := by
  obtain ⟨behind, ahead, mark⟩ := cursor
  cases h
  simp [forward]

/-- What is ahead behind a character and some more. -/
theorem ahead_forward_of_cons {cursor : Cursor} {c : Char} {after : Text}
    (h : cursor.ahead = c :: after) (count : Nat) :
    (cursor.forward (1 + count)).ahead = after.drop count := by
  rw [ahead_forward, h, Nat.add_comm, List.drop_succ_cons]

/-- What is ahead once a lexeme has begun, its first character has been passed, and some more
have. -/
theorem ahead_forward_begin_of_cons {cursor : Cursor} {c : Char} {after : Text}
    (h : cursor.ahead = c :: after) (count : Nat) :
    (cursor.begin.forward (1 + count)).ahead = after.drop count := by
  rw [ahead_forward, ahead_begin, h, Nat.add_comm, List.drop_succ_cons]

/-- Passing characters up to one that is not ahead ends at the end of the line. -/
theorem passWhile_eq_toEnd {cursor : Cursor} {stops : Char → Bool}
    (h : cursor.ahead.find? stops = none) :
    (cursor.passWhile fun c => !stops c) = cursor.toEnd := by
  have hall : ∀ c ∈ cursor.ahead, (!stops c) = true := by
    intro c hc
    rw [Bool.not_eq_true', ← Bool.not_eq_true]
    exact List.find?_eq_none.1 h c hc
  rw [passWhile, Text.runLength, List.takeWhile_eq_self_iff.2 hall]
  rfl

/-- Going forward moves the place by the bytes of the characters that are passed. -/
theorem offsets_forward (count : Nat) :
    (cursor.forward count).offsets = { cursor.offsets with
      position := cursor.offsets.position + Text.byteLength (cursor.ahead.take count) } := by
  simp [offsets, lexemeStart, beforeLexeme, position, forward, line, Nat.add_comm]

/-- At the end of a line the place is its length. -/
theorem offsets_toEnd :
    cursor.toEnd.offsets = { cursor.offsets with position := cursor.offsets.line.byteLength } := by
  rw [toEnd, offsets_forward]
  simp [offsets, position, line]

/-- A lexeme that begins has its mark at the place. -/
theorem offsets_begin :
    cursor.begin.offsets = { cursor.offsets with lexemeStart := cursor.offsets.position } := by
  simp [offsets, begin, lexemeStart, beforeLexeme, position, line]

/-- The place of a cursor is a character boundary. -/
theorem splitAtByte?_position :
    cursor.line.splitAtByte? cursor.position = some (cursor.behind.reverse, cursor.ahead) := by
  rw [position, ← Text.byteLength_reverse]
  exact Text.splitAtByte?_byteLength_append ..

/-- A slice from the beginning of the current lexeme holds what the cursor has passed since, and
may go on with what is ahead. -/
theorem slice?_lexemeStart {lexeme : Text} (h : cursor.lexeme? = some lexeme) (count : Nat) :
    cursor.line.slice? cursor.lexemeStart
        (cursor.position + Text.byteLength (cursor.ahead.take count)) =
      some (lexeme ++ cursor.ahead.take count) := by
  rw [lexeme?] at h
  split at h
  next hmark =>
    cases h
    have hline : cursor.line = cursor.beforeLexeme ++
        ((cursor.behind.take (cursor.behind.length - cursor.mark)).reverse ++
          cursor.ahead.take count) ++ cursor.ahead.drop count := by
      rw [beforeLexeme, line, List.take_append_of_le_length (by simpa using hmark),
        List.take_reverse, List.append_assoc, List.append_assoc, List.take_append_drop,
        ← List.append_assoc, ← List.reverse_append, List.take_append_drop]
    have hposition : cursor.position + Text.byteLength (cursor.ahead.take count) =
        cursor.lexemeStart + Text.byteLength
          ((cursor.behind.take (cursor.behind.length - cursor.mark)).reverse ++
            cursor.ahead.take count) := by
      have hbehind := congrArg Text.byteLength
        (List.take_append_drop (cursor.behind.length - cursor.mark) cursor.behind)
      rw [Text.byteLength_append] at hbehind
      rw [position, lexemeStart, beforeLexeme, line,
        List.take_append_of_le_length (by simpa using hmark), List.take_reverse,
        Text.byteLength_append, Text.byteLength_reverse, Text.byteLength_reverse]
      omega
    rw [hposition]
    conv => lhs; rw [hline]
    exact Text.slice?_append ..
  next => cases h

end Cursor

namespace Offsets

variable (cursor : Cursor)

/-! ## Slices -/

/-- The slice from the place on is what is ahead. -/
theorem runs_rest : Runs rest cursor cursor.ahead cursor :=
  .bind (runs_get cursor) (.bind (runs_lift cursor.splitAtByte?_position cursor) (.pure _ _))

/-- A slice from the beginning of the current lexeme. -/
theorem runs_slice {lexeme : Text} (h : cursor.lexeme? = some lexeme) (count : Nat) :
    Runs (slice cursor.lexemeStart
        (cursor.position + Text.byteLength (cursor.ahead.take count))) cursor
      (lexeme ++ cursor.ahead.take count) cursor :=
  .bind (runs_get cursor) (runs_lift (cursor.slice?_lexemeStart h count) cursor)

/-- The slice between the mark and the place is the current lexeme. -/
theorem runs_current {lexeme : Text} (h : cursor.lexeme? = some lexeme) :
    Runs current cursor lexeme cursor := by
  have hslice := runs_slice cursor h 0
  rw [List.take_zero, List.append_nil] at hslice
  exact .bind (runs_get cursor) hslice

/-- The column of the place is that of the cursor. -/
theorem runs_column (tabSize : UInt32) :
    Runs (column tabSize) cursor (cursor.column tabSize) cursor :=
  .bind (runs_get cursor)
    (runs_lift (Column.atByte?_of_append tabSize (List.take_append_drop ..)) cursor)

/-- The indentation of the line is that of the cursor. -/
theorem runs_indentation (tabSize : UInt32) :
    Runs (indentation tabSize) cursor (cursor.indentation tabSize) cursor :=
  .bind (runs_get cursor)
    (runs_lift (Column.atByte?_of_append tabSize List.takeWhile_append_dropWhile) cursor)

/-- The character at the place is the first one ahead. -/
theorem runs_peek : Runs peek cursor cursor.peek? cursor := .bind (runs_rest cursor) (.pure _ _)

/-! ## Moves -/

/-- Moving the mark to the place begins a lexeme. -/
theorem runs_begin : Runs begin cursor () cursor.begin := runs_modify cursor.offsets_begin.symm

/-- Moving the place to the length of the line goes to its end. -/
theorem runs_toEnd : Runs toEnd cursor () cursor.toEnd := runs_modify cursor.offsets_toEnd.symm

section
variable {cursor : Cursor} {accepts : Char → Bool} {c : Char} {after : Text}

/-- Moving the place by the bytes of the first character ahead passes it. -/
theorem runs_pass (h : cursor.ahead = c :: after) :
    Runs (pass c) cursor () (cursor.forward 1) := by
  refine runs_modify ?_
  rw [Cursor.offsets_forward, h]
  rfl

/-- A character that is accepted is passed. -/
theorem runs_passIf_of_pos (h : cursor.ahead = c :: after) (hc : accepts c = true) :
    Runs (passIf accepts) cursor (some c) (cursor.forward 1) := by
  refine .bind (runs_peek cursor) ?_
  rw [Cursor.peek?, h, List.head?_cons]
  simp only [hc, if_true]
  exact .bind (runs_pass h) (.pure _ _)

/-- Where no character that is accepted comes next, the place stays. -/
theorem runs_passIf_of_neg (h : ∀ c ∈ cursor.ahead.head?, accepts c = false) :
    Runs (passIf accepts) cursor none cursor := by
  refine .bind (runs_peek cursor) ?_
  rw [Cursor.peek?]
  cases hhead : cursor.ahead.head? with
  | none => exact .pure _ _
  | some c =>
    simp only [h c hhead, Bool.false_eq_true, if_false]
    exact .pure _ _

/-- The next character is passed if there is one. -/
theorem runs_next (h : cursor.ahead = c :: after) :
    Runs next cursor (some c) (cursor.forward 1) := runs_passIf_of_pos h rfl

/-- Going on by one character, if there is one. -/
theorem runs_discard_next (cursor : Cursor) :
    Runs (Functor.discard next) cursor () (cursor.forward 1) := by
  obtain ⟨behind, _ | ⟨c, after⟩, mark⟩ := cursor
  · exact (runs_passIf_of_neg (by simp)).discard
  · exact (runs_next rfl).discard

/-- A character that is expected is passed if it comes next. -/
theorem runs_expect_of_pos (h : cursor.ahead = c :: after) :
    Runs (expect c) cursor true (cursor.forward 1) :=
  .bind (runs_passIf_of_pos h (beq_self_eq_true c)) (.pure _ _)

/-- A character that is expected is not passed if it does not come next. -/
theorem runs_expect_of_neg (h : cursor.ahead.head? ≠ some c) :
    Runs (expect c) cursor false cursor := by
  refine .bind (runs_passIf_of_neg ?_) (.pure _ _)
  intro other hother
  rw [beq_eq_false_iff_ne]
  rintro rfl
  exact h hother

/-- A loop may take more rounds than there are characters ahead. -/
theorem runs_rounds (cursor : Cursor) :
    ∃ count, cursor.ahead.length < count ∧ Runs rounds cursor count cursor := by
  refine ⟨cursor.line.byteLength + 1, ?_, .bind (runs_get cursor) (.pure _ _)⟩
  have hlength := Text.length_le_byteLength cursor.ahead
  rw [Cursor.line, Text.byteLength_append]
  omega

/-- The loop ends behind the run. -/
theorem runs_passWithin (cursor : Cursor) (accepts : Char → Bool) {rounds : Nat}
    (h : cursor.ahead.length < rounds) :
    Runs (passWithin accepts rounds) cursor () (cursor.passWhile accepts) := by
  induction rounds generalizing cursor with
  | zero => exact absurd h (Nat.not_lt_zero _)
  | succ rounds ih =>
    cases hahead : cursor.ahead with
    | nil =>
      have hnone : ∀ c ∈ cursor.ahead.head?, accepts c = false := by simp [hahead]
      have hrun : cursor.passWhile accepts = cursor := by
        rw [Cursor.passWhile, hahead]
        rfl
      rw [hrun]
      exact .bind (runs_passIf_of_neg hnone) (.pure _ _)
    | cons c after =>
      cases hc : accepts c with
      | true =>
        have hrun : cursor.passWhile accepts = (cursor.forward 1).passWhile accepts := by
          rw [Cursor.passWhile, Cursor.passWhile, Cursor.forward_forward, hahead]
          simp [Text.runLength, hc, hahead, Nat.add_comm]
        have hrest : (cursor.forward 1).ahead.length < rounds := by
          rw [hahead, List.length_cons] at h
          rw [Cursor.ahead_forward_of_cons hahead 0, List.drop_zero]
          omega
        refine .bind (runs_passIf_of_pos hahead hc) ?_
        rw [hrun]
        exact ih (cursor.forward 1) hrest
      | false =>
        have hrun : cursor.passWhile accepts = cursor := by
          rw [Cursor.passWhile, hahead]
          simp [Text.runLength, hc]
        have hnone : ∀ c ∈ cursor.ahead.head?, accepts c = false := by simp [hahead, hc]
        rw [hrun]
        exact .bind (runs_passIf_of_neg hnone) (.pure _ _)

/-- A run of characters is passed one by one, and whether there were any is told by the place. -/
theorem runs_passWhile (cursor : Cursor) (accepts : Char → Bool) :
    Runs (passWhile accepts) cursor (cursor.ahead.runLength accepts != 0)
      (cursor.passWhile accepts) := by
  obtain ⟨count, hcount, hrounds⟩ := runs_rounds cursor
  refine .bind (runs_get cursor) (.bind hrounds (.bind (runs_passWithin cursor accepts hcount)
    (.bind (runs_get (cursor.passWhile accepts)) ?_)))
  have hmoved : decide (cursor.offsets.position < (cursor.passWhile accepts).offsets.position) =
      (cursor.ahead.runLength accepts != 0) := by
    rw [Cursor.passWhile, Cursor.offsets_forward, Text.take_runLength, Bool.eq_iff_iff,
      decide_eq_true_eq, bne_iff_ne, Text.runLength, ne_eq, List.length_eq_zero_iff,
      ← Text.byteLength_eq_zero_iff]
    simp only
    omega
  rw [hmoved]
  exact .pure _ _

/-- An attempt that answers yes goes on where it is. -/
theorem runs_attempt_of_true {program : Program Bool} {after : Cursor}
    (h : Runs program cursor true after) : Runs (attempt program) cursor true after :=
  .bind (runs_get cursor) (.bind h (.pure _ _))

/-- An attempt that answers no comes to nothing. -/
theorem runs_attempt_of_false {program : Program Bool} (count : Nat)
    (h : Runs program cursor false (cursor.forward count)) :
    Runs (attempt program) cursor false cursor := by
  refine .bind (runs_get cursor) (.bind h (.bind (runs_modify ?_) (.pure _ _)))
  rw [Cursor.offsets_forward]

/-- **A byte search stops at a character.** If only bytes below 128 are accepted, the search passes
the run of characters that are none of them. -/
theorem runs_seek (cursor : Cursor) {accepts : UInt8 → Bool}
    (h : ∀ byte, accepts byte = true → byte.toNat < 128) :
    Runs (seek accepts) cursor
      ((cursor.ahead.find? (Text.isByte accepts)).map Char.toUInt8)
      (cursor.passWhile fun c => !Text.isByte accepts c) := by
  refine .bind (runs_rest cursor) ?_
  rw [Text.findByte?_eq h]
  have hrun : (cursor.passWhile fun c => !Text.isByte accepts c).offsets =
      { cursor.offsets with
        position := cursor.offsets.position +
          Text.byteLength (cursor.ahead.takeWhile fun c => !Text.isByte accepts c) } := by
    rw [Cursor.passWhile, Cursor.offsets_forward, Text.take_runLength]
  cases hfind : cursor.ahead.find? (Text.isByte accepts) with
  | some c => exact .bind (runs_modify hrun.symm) (.pure _ _)
  | none =>
    rw [Cursor.passWhile_eq_toEnd hfind]
    exact .bind (runs_toEnd cursor) (.pure _ _)

/-- What a byte search passes, and where it stops. -/
theorem exists_runs_seek (cursor : Cursor) {accepts : UInt8 → Bool} {stops : Char → Bool}
    (h : ∀ byte, accepts byte = true → byte.toNat < 128) (hstops : Text.isByte accepts = stops) :
    ∃ run rest, cursor.ahead = run ++ rest ∧ (∀ c ∈ run, stops c = false) ∧
      (∀ c ∈ rest.head?, stops c = true) ∧ (cursor.forward run.length).ahead = rest ∧
      Runs (seek accepts) cursor (rest.head?.map Char.toUInt8) (cursor.forward run.length) := by
  have hsplit := List.takeWhile_append_dropWhile (p := fun c => !stops c) (l := cursor.ahead)
  refine ⟨cursor.ahead.takeWhile fun c => !stops c, cursor.ahead.dropWhile fun c => !stops c,
    hsplit.symm, ?_, ?_, ?_, ?_⟩
  · intro c hc
    simpa using List.mem_takeWhile_imp hc
  · intro c hc
    have hhead := List.head?_dropWhile_not (fun c => !stops c) cursor.ahead
    rw [hc] at hhead
    simpa using hhead
  · rw [Cursor.ahead_forward]
    exact Text.drop_runLength ..
  · have hseek := runs_seek cursor h
    rw [hstops, List.find?_eq_head?_dropWhile_not] at hseek
    exact hseek

end

end Offsets

end SyntaxMode
