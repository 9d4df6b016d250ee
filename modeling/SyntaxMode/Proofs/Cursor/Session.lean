import SyntaxMode.Proofs.Cursor.Operation
import SyntaxMode.Proofs.Text.Boundary

/-!
# The use of a cursor

Whoever reads a line calls one operation after the other, and may at any time enter an attempt and
leave it again, with success or without; what they do next can depend on all answers so far. A run
is the list of these acts, so a statement about all lists of acts is one about all ways to use a
cursor. It works on byte offsets, which nothing but the operations themselves keeps on character
boundaries. An attempt that fails takes the place back to where it was entered, but not the mark
where the current lexeme began, so it can leave the place before the mark if a lexeme began in it.
`Orderly` says of a list of acts that this does not happen, and `orderly_sound` is what follows.
What an operation of the library does, an attempt of several others included, is done by such acts
(`exists_performs`).
-/

namespace SyntaxMode

open Cursor

namespace Offsets

/-- A reader at work: its offsets, and the places where the attempts under way were entered,
innermost first. -/
structure Session where
  offsets : Offsets
  entered : List Nat

/-- What a reader can do. -/
inductive Act where
  /-- Calls an operation. -/
  | call (operation : Operation)
  /-- Enters an attempt. -/
  | enter
  /-- Leaves the attempt that was entered last, and tells whether it succeeds. -/
  | leave (holds : Bool)

namespace Session

/-- A reader at the start of a text. -/
def start (text : Text) : Session := ⟨⟨text, 0, 0⟩, []⟩

/-- One act of a reader. It is none if the operation has no answer, or if there is no attempt to
leave. -/
def act? : Act → Session → Option Session
  | .call operation, ⟨offsets, entered⟩ =>
    (operation.program.run offsets).map fun result => ⟨result.2, entered⟩
  | .enter, ⟨offsets, entered⟩ => some ⟨offsets, offsets.position :: entered⟩
  | .leave holds, ⟨offsets, position :: entered⟩ =>
    some ⟨if holds then offsets else { offsets with position }, entered⟩
  | .leave _, ⟨_, []⟩ => none

/-- The acts of a list, one after the other. -/
def run? (acts : List Act) (session : Session) : Option Session :=
  acts.foldlM (fun session act => act? act session) session

end Session

/-- Whether a list of acts leaves each attempt that it enters, and no other. -/
inductive Balanced : List Act → Prop where
  | nil : Balanced []
  | call {acts : List Act} (operation : Operation) (h : Balanced acts) :
    Balanced (acts ++ [.call operation])
  | attempt {acts inner : List Act} (holds : Bool) (h : Balanced acts) (hinner : Balanced inner) :
    Balanced (acts ++ .enter :: inner ++ [.leave holds])

/-- Whether a reader may call an operation: it is no attempt, since attempts are entered and left,
and it looks for no byte from 128 on. -/
def Callable (operation : Operation) : Prop := operation.isAttempt = false ∧ operation.Ascii

/-- Whether a reader may act as a list says: it leaves attempts only that it has entered, and
begins no lexeme in an attempt that fails. -/
inductive Orderly : List Act → Prop where
  | nil : Orderly []
  | call {acts : List Act} {operation : Operation} (h : Orderly acts)
      (hoperation : Callable operation) : Orderly (acts ++ [.call operation])
  | enter {acts : List Act} (h : Orderly acts) : Orderly (acts ++ [.enter])
  | leave {before inner : List Act} {holds : Bool} (h : Orderly (before ++ .enter :: inner))
      (hinner : Balanced inner) (hbegin : holds = false → .call .begin ∉ inner) :
      Orderly (before ++ .enter :: inner ++ [.leave holds])

/-- What holds of the offsets in a text throughout: the mark, the place and the end of the text
come in this order, and the first two are character boundaries. -/
structure Sound (text : Text) (offsets : Offsets) : Prop where
  line : offsets.line = text
  lexemeStart : text.IsBoundary offsets.lexemeStart
  position : text.IsBoundary offsets.position
  start_le : offsets.lexemeStart ≤ offsets.position
  le_length : offsets.position ≤ text.byteLength

/-! ## Places in a text -/

/-- Whether offsets are those of a cursor in a text. -/
def Within (text : Text) (offsets : Offsets) : Prop :=
  ∃ cursor : Cursor, cursor.line = text ∧ cursor.offsets = offsets

namespace Within

variable {text : Text} {offsets : Offsets}

/-- The offsets of a reader at the start of a text are those of a cursor. -/
theorem start (text : Text) : Within text ⟨text, 0, 0⟩ := ⟨.ofLine text, rfl, rfl⟩

/-- The place of a cursor is a character boundary. -/
theorem isBoundary_position (h : Within text offsets) : text.IsBoundary offsets.position := by
  obtain ⟨cursor, rfl, rfl⟩ := h
  exact ⟨cursor.behind.reverse, List.prefix_append .., Text.byteLength_reverse _⟩

/-- The mark of a cursor is a character boundary. -/
theorem isBoundary_lexemeStart (h : Within text offsets) :
    text.IsBoundary offsets.lexemeStart := by
  obtain ⟨cursor, rfl, rfl⟩ := h
  exact ⟨cursor.beforeLexeme, List.take_prefix .., rfl⟩

/-- The place may be moved to any character boundary. -/
theorem move (h : Within text offsets) {position : Nat} (hposition : text.IsBoundary position) :
    Within text { offsets with position } := by
  obtain ⟨cursor, rfl, rfl⟩ := h
  obtain ⟨before, ⟨after, htext⟩, rfl⟩ := hposition
  refine ⟨⟨before.reverse, after, cursor.mark⟩, by simp [Cursor.line, htext], ?_⟩
  simp [Cursor.offsets, Cursor.lexemeStart, Cursor.beforeLexeme, Cursor.position,
    Cursor.line, htext]

end Within

/-! ## Runs -/

namespace Session

variable {text : Text} {session middle after : Session} {front behind acts inner : List Act}

/-- A list of acts begins with the first one. -/
theorem run?_cons (act : Act) (acts : List Act) (session : Session) :
    run? (act :: acts) session = (act? act session).bind (run? acts) := by
  rw [run?, List.foldlM_cons]
  rfl

/-- Acts go on from where the acts before them end. -/
theorem run?_append (front behind : List Act) (session : Session) :
    run? (front ++ behind) session = (run? front session).bind (run? behind) := by
  rw [run?, List.foldlM_append]
  rfl

/-- A single act is a list of acts. -/
theorem run?_singleton (act : Act) (session : Session) :
    run? [act] session = act? act session := by
  rw [run?_cons]
  exact Option.bind_fun_some _

/-- A call leads from the offsets of a cursor to those of the cursor that the operation leaves. -/
theorem run?_call {operation : Operation} (h : operation.Ascii) (cursor : Cursor)
    (entered : List Nat) :
    run? [.call operation] ⟨cursor.offsets, entered⟩ =
      some ⟨(operation.run cursor).2.offsets, entered⟩ := by
  rw [run?_singleton, act?, show operation.program.run cursor.offsets = _ from
    operation.runs_program h cursor]
  rfl

/-- An attempt goes on from where the acts in it end if it succeeds, and from where it was entered
if it fails. -/
theorem run?_attempt {offsets last : Offsets} {entered : List Nat}
    (h : run? inner ⟨offsets, offsets.position :: entered⟩ =
      some ⟨last, offsets.position :: entered⟩) (holds : Bool) :
    run? (.enter :: inner ++ [.leave holds]) ⟨offsets, entered⟩ =
      some ⟨if holds then last else { last with position := offsets.position }, entered⟩ := by
  rw [run?_append, run?_cons, act?, Option.bind_some, h, Option.bind_some, run?_singleton]
  rfl

/-- What acts come to that leave each attempt they enter: they have an answer, stay in the text and
end no further back than they start. The mark moves only if a lexeme begins. -/
structure Advances (text : Text) (acts : List Act) (session after : Session) : Prop where
  run : run? acts session = some after
  within : Within text after.offsets
  entered : after.entered = session.entered
  position_le : session.offsets.position ≤ after.offsets.position
  lexemeStart : .call .begin ∉ acts → after.offsets.lexemeStart = session.offsets.lexemeStart

/-! ## Calls -/

/-- An operation that runs no others moves the mark to the place, or the place forward. -/
theorem offsets_run {operation : Operation} (h : operation.isAttempt = false) (cursor : Cursor) :
    operation = .begin ∧
        (operation.run cursor).2.offsets =
          { cursor.offsets with lexemeStart := cursor.offsets.position } ∨
      ∃ bytes, (operation.run cursor).2.offsets =
        { cursor.offsets with position := cursor.offsets.position + bytes } := by
  rcases operation.eq_begin_or_exists_forward h cursor with rfl | ⟨count, hcount⟩
  · exact .inl ⟨rfl, cursor.offsets_begin⟩
  · exact .inr ⟨_, by rw [hcount, Cursor.offsets_forward]⟩

/-- **One call.** An operation has an answer. It does not go back, and the mark is past the place
only if it was so before. -/
theorem Advances.call (h : Within text session.offsets) {operation : Operation}
    (hoperation : Callable operation) :
    ∃ after, Advances text [.call operation] session after ∧
      (session.offsets.lexemeStart ≤ session.offsets.position →
        after.offsets.lexemeStart ≤ after.offsets.position) := by
  obtain ⟨offsets, entered⟩ := session
  obtain ⟨cursor, rfl, rfl⟩ := h
  have hrun := run?_call hoperation.2 cursor entered
  have hwithin : Within cursor.line (operation.run cursor).2.offsets :=
    ⟨_, operation.line_run cursor, rfl⟩
  rcases offsets_run hoperation.1 cursor with ⟨rfl, hoffsets⟩ | ⟨bytes, hoffsets⟩
  · rw [hoffsets] at hrun hwithin
    exact ⟨_, ⟨hrun, hwithin, rfl, Nat.le_refl _, fun h => absurd (List.mem_singleton_self _) h⟩,
      fun _ => Nat.le_refl _⟩
  · rw [hoffsets] at hrun hwithin
    exact ⟨_, ⟨hrun, hwithin, rfl, Nat.le_add_right .., fun _ => rfl⟩,
      fun hle => hle.trans (Nat.le_add_right ..)⟩

/-! ## Attempts -/

/-- To do nothing is to stay. -/
theorem Advances.refl (h : Within text session.offsets) : Advances text [] session session :=
  ⟨rfl, h, rfl, Nat.le_refl _, fun _ => rfl⟩

/-- Acts that advance may follow one another. -/
theorem Advances.append (h : Advances text front session middle)
    (h' : Advances text behind middle after) : Advances text (front ++ behind) session after where
  run := by rw [run?_append, h.run, Option.bind_some, h'.run]
  within := h'.within
  entered := h'.entered.trans h.entered
  position_le := h.position_le.trans h'.position_le
  lexemeStart hbegin := by
    rw [List.mem_append, not_or] at hbegin
    rw [h'.lexemeStart hbegin.2, h.lexemeStart hbegin.1]

/-- **One attempt.** An attempt does not go back over the place where it was entered. -/
theorem Advances.attempt (hsession : Within text session.offsets)
    (h : Advances text inner
      ⟨session.offsets, session.offsets.position :: session.entered⟩ middle) (holds : Bool) :
    Advances text (.enter :: inner ++ [.leave holds]) session
      ⟨if holds then middle.offsets
        else { middle.offsets with position := session.offsets.position }, session.entered⟩ := by
  obtain ⟨offsets, entered⟩ := middle
  obtain ⟨hrun, hwithin, hentered, hposition, hstart⟩ := h
  cases hentered
  refine ⟨run?_attempt hrun holds, ?within, rfl, ?position, ?mark⟩
  case within =>
    cases holds with
    | true => exact hwithin
    | false => exact hwithin.move hsession.isBoundary_position
  case position =>
    cases holds with
    | true => exact hposition
    | false => exact Nat.le_refl _
  case mark =>
    intro hbegin
    have hinner : Act.call .begin ∉ inner := fun hmem =>
      hbegin (List.mem_append_left _ (List.mem_cons_of_mem _ hmem))
    cases holds <;> exact hstart hinner

/-- **Balanced acts.** Acts that leave each attempt they enter come to an end, whatever attempts
are under way around them. -/
theorem Advances.of_balanced (h : Balanced acts)
    (hcalls : ∀ operation, .call operation ∈ acts → Callable operation) (session : Session)
    (hsession : Within text session.offsets) : ∃ after, Advances text acts session after := by
  induction h generalizing session with
  | nil => exact ⟨session, .refl hsession⟩
  | @call acts operation _ ih =>
    obtain ⟨middle, hacts⟩ :=
      ih (fun operation hmem => hcalls operation (by simp [hmem])) session hsession
    have hoperation : Callable operation := hcalls operation (by simp)
    obtain ⟨after, hcall, -⟩ := Advances.call hacts.within hoperation
    exact ⟨after, hacts.append hcall⟩
  | @attempt acts inner holds _ _ ih ihInner =>
    obtain ⟨middle, hacts⟩ :=
      ih (fun operation hmem => hcalls operation (by simp [hmem])) session hsession
    obtain ⟨after, hinner⟩ :=
      ihInner (fun operation hmem => hcalls operation (by simp [hmem]))
        ⟨middle.offsets, middle.offsets.position :: middle.entered⟩ hacts.within
    rw [List.append_assoc]
    exact ⟨_, hacts.append (hinner.attempt hacts.within holds)⟩

end Session

/-! ## Operations as acts -/

open Session

/-- Balanced acts may follow one another. -/
theorem Balanced.append {acts : List Act} (h : Balanced acts) {behind : List Act}
    (hbehind : Balanced behind) : Balanced (acts ++ behind) := by
  induction hbehind with
  | nil => rwa [List.append_nil]
  | call operation _ ih =>
    rw [← List.append_assoc]
    exact .call operation ih
  | attempt holds _ hinner ih =>
    rw [← List.append_assoc, ← List.append_assoc]
    exact .attempt holds ih hinner

/-- Whether a list of acts does in a session what an operation, or several, do to a cursor. -/
structure Performs (acts : List Act) (cursor after : Cursor) (entered : List Nat) : Prop where
  balanced : Balanced acts
  callable : ∀ operation, .call operation ∈ acts → Callable operation
  run : run? acts ⟨cursor.offsets, entered⟩ = some ⟨after.offsets, entered⟩

/-- Acts that do one thing and acts that do the next do both. -/
theorem Performs.append {front behind : List Act} {cursor middle after : Cursor}
    {entered : List Nat} (h : Performs front cursor middle entered)
    (h' : Performs behind middle after entered) :
    Performs (front ++ behind) cursor after entered where
  balanced := h.balanced.append h'.balanced
  callable operation hmem :=
    (List.mem_append.1 hmem).elim (h.callable operation) (h'.callable operation)
  run := by rw [run?_append, h.run, Option.bind_some, h'.run]

/-- An operation that may be called is done by the call. -/
theorem performs_call {operation : Operation} (h : Callable operation) (cursor : Cursor)
    (entered : List Nat) :
    Performs [.call operation] cursor (operation.run cursor).2 entered where
  balanced := .call operation .nil
  callable other hmem := by
    cases List.mem_singleton.1 hmem
    exact h
  run := run?_call h.2 cursor entered

/-- An attempt is done by entering it, doing what is in it, and leaving it. -/
theorem Performs.attempt {inner : List Act} {cursor after : Cursor} {entered : List Nat}
    (h : Performs inner cursor after (cursor.position :: entered))
    (hline : after.line = cursor.line) (holds : Bool) :
    Performs (.enter :: inner ++ [.leave holds]) cursor
      (if holds then after else cursor.backTo after) entered where
  balanced := .attempt holds .nil h.balanced
  callable operation hmem := h.callable operation (by simpa using hmem)
  run := by
    rw [run?_attempt h.run holds]
    cases holds with
    | true => rfl
    | false =>
      simp only [Bool.false_eq_true, if_false, offsets_backTo hline]

mutual

/-- **Operations are acts.** What an operation does, an attempt of several others included, is done
by acts that leave each attempt they enter. -/
theorem exists_performs : (operation : Operation) → operation.Ascii → (cursor : Cursor) →
    (entered : List Nat) → ∃ acts, Performs acts cursor (operation.run cursor).2 entered
  | .attempt operations, h, cursor, entered => by
    obtain ⟨inner, hinner⟩ :=
      exists_performs_all operations h cursor (cursor.position :: entered)
    rw [Operation.run_attempt]
    exact ⟨_, hinner.attempt (line_runAll operations cursor) _⟩
  | .next, h, cursor, entered | .peek, h, cursor, entered | .passIf _, h, cursor, entered
  | .expect _, h, cursor, entered | .passWhile _, h, cursor, entered | .begin, h, cursor, entered
  | .toEnd, h, cursor, entered | .seek _, h, cursor, entered
  | .seekEither _ _, h, cursor, entered => ⟨_, performs_call ⟨rfl, h⟩ cursor entered⟩

/-- What operations in order do is done by balanced acts as well. -/
theorem exists_performs_all : (operations : List Operation) → allAscii operations →
    (cursor : Cursor) → (entered : List Nat) →
    ∃ acts, Performs acts cursor (runAll operations cursor).2 entered
  | [], _, cursor, entered => ⟨[], .nil, (fun _ hmem => nomatch hmem), rfl⟩
  | operation :: rest, h, cursor, entered => by
    obtain ⟨front, hfront⟩ := exists_performs operation h.1 cursor entered
    obtain ⟨behind, hbehind⟩ := exists_performs_all rest h.2 (operation.run cursor).2 entered
    rw [runAll_cons]
    split
    · exact ⟨_, hfront.append hbehind⟩
    · exact ⟨_, hfront⟩

end

/-! ## Orderly acts -/

variable {text : Text} {session middle after : Session} {front acts inner : List Act}

/-- What a reader that has acted as a list says from the start of a text has come to. -/
structure Session.Reached (text : Text) (acts : List Act) (session : Session) : Prop where
  run : run? acts (start text) = some session
  within : Within text session.offsets
  start_le : session.offsets.lexemeStart ≤ session.offsets.position

/-- Acts in order call only what may be called. -/
theorem Orderly.callable (h : Orderly acts) {operation : Operation}
    (hmem : .call operation ∈ acts) : Callable operation := by
  induction h with
  | nil => cases hmem
  | call _ hoperation ih =>
    rcases List.mem_append.1 hmem with hmem | hmem
    · exact ih hmem
    · cases List.mem_singleton.1 hmem
      exact hoperation
  | enter _ ih | leave _ _ _ ih =>
    rcases List.mem_append.1 hmem with hmem | hmem
    · exact ih hmem
    · cases List.mem_singleton.1 hmem

/-- A reader in order that leaves an attempt comes to where the attempt leads, and the mark is not
past the place: an attempt that succeeds ends where the acts in it end, and in one that fails the
mark has not moved. -/
theorem Session.Reached.leave {before : List Act} {holds : Bool} (hinner : Balanced inner)
    (hcalls : ∀ operation, .call operation ∈ inner → Callable operation)
    (hbegin : holds = false → .call .begin ∉ inner) (h : Reached text before session)
    (hall : Reached text (before ++ .enter :: inner) middle) :
    ∃ after, Reached text (before ++ .enter :: inner ++ [.leave holds]) after := by
  obtain ⟨last, hadvances⟩ := Advances.of_balanced hinner hcalls
    ⟨session.offsets, session.offsets.position :: session.entered⟩ h.within
  have hlast : last = middle := by
    have hrun := hall.run
    rw [run?_append, h.run, Option.bind_some, run?_cons, act?, Option.bind_some,
      hadvances.run] at hrun
    exact Option.some.inj hrun
  subst hlast
  have hattempt := hadvances.attempt h.within holds
  refine ⟨_, ?run, hattempt.within, ?start⟩
  case run => rw [List.append_assoc, run?_append, h.run, Option.bind_some, hattempt.run]
  case start =>
    cases holds with
    | true => exact hall.start_le
    | false => exact (hadvances.lexemeStart (hbegin rfl)).trans_le h.start_le

/-- Acts in order are in order up to any of them. -/
theorem Orderly.of_prefix (h : Orderly acts) (hfront : front <+: acts) : Orderly front := by
  induction h with
  | nil =>
    rw [List.prefix_nil.1 hfront]
    exact .nil
  | call h hoperation ih =>
    rcases List.prefix_concat_iff.1 hfront with rfl | hfront
    · exact h.call hoperation
    · exact ih hfront
  | enter h ih =>
    rcases List.prefix_concat_iff.1 hfront with rfl | hfront
    · exact h.enter
    · exact ih hfront
  | leave h hinner hbegin ih =>
    rcases List.prefix_concat_iff.1 hfront with rfl | hfront
    · exact h.leave hinner hbegin
    · exact ih hfront

/-- **All orderly runs.** A reader in order always comes to an answer. -/
theorem Orderly.exists_reached (h : Orderly acts) (text : Text) :
    ∃ session, Reached text acts session := by
  -- A failing attempt goes back to an earlier session, which an induction on `h` does not reach.
  induction hlength : acts.length using Nat.strong_induction_on generalizing acts with
  | _ length ih =>
    subst hlength
    cases h with
    | nil => exact ⟨_, rfl, .start text, Nat.le_refl _⟩
    | call h hoperation =>
      obtain ⟨session, hrun, hwithin, hstart⟩ := ih _ (by simp) h rfl
      obtain ⟨after, hcall, hle⟩ := Advances.call hwithin hoperation
      refine ⟨after, ?_, hcall.within, hle hstart⟩
      rw [run?_append, hrun, Option.bind_some, hcall.run]
    | enter h =>
      obtain ⟨session, hrun, hwithin, hstart⟩ := ih _ (by simp) h rfl
      refine ⟨⟨session.offsets, session.offsets.position :: session.entered⟩, ?_, hwithin, hstart⟩
      rw [run?_append, hrun, Option.bind_some, run?_singleton, act?]
    | leave h hinner hbegin =>
      obtain ⟨session, hsession⟩ := ih _ (by simp) (h.of_prefix (List.prefix_append ..)) rfl
      obtain ⟨middle, hmiddle⟩ := ih _ (by simp) h rfl
      exact hsession.leave hinner (fun operation hmem => h.callable (by simp [hmem])) hbegin
        hmiddle

/-! ## What holds throughout -/

/-- What has been reached is sound. -/
theorem Session.Reached.sound (h : Reached text acts session) : Sound text session.offsets where
  line := by
    obtain ⟨cursor, hline, hoffsets⟩ := h.within
    rw [← hoffsets, ← hline]
    rfl
  lexemeStart := h.within.isBoundary_lexemeStart
  position := h.within.isBoundary_position
  start_le := h.start_le
  le_length := h.within.isBoundary_position.le_byteLength

/-- No slice that a reader takes fails. -/
theorem Session.Reached.isSome (h : Reached text acts session) (tabSize : UInt32) :
    (rest.run session.offsets).isSome ∧ (current.run session.offsets).isSome ∧
      ((column tabSize).run session.offsets).isSome := by
  have hsound := h.sound
  obtain ⟨cursor, -, hoffsets⟩ := h.within
  obtain ⟨lexeme, hlexeme⟩ := hsound.lexemeStart.exists_slice? hsound.position hsound.start_le
  have hcurrent : current.run session.offsets = some (lexeme, session.offsets) := by
    show (session.offsets.line.slice? _ _).bind _ = _
    rw [hsound.line, hlexeme]
    rfl
  rw [hcurrent, ← hoffsets, show rest.run cursor.offsets = _ from runs_rest cursor,
    show (column tabSize).run cursor.offsets = _ from runs_column cursor tabSize]
  exact ⟨rfl, rfl, rfl⟩

/-- Only leaving an attempt that fails goes back. -/
theorem Session.position_le_of_act? {act : Act} (h : Within text session.offsets)
    (hcall : ∀ operation, act = .call operation → Callable operation) (hleave : act ≠ .leave false)
    (hact : act? act session = some after) :
    session.offsets.position ≤ after.offsets.position := by
  cases act with
  | call operation =>
    obtain ⟨other, hadvances, -⟩ := Advances.call h (hcall operation rfl)
    have hrun := hadvances.run
    rw [run?_singleton, hact] at hrun
    cases hrun
    exact hadvances.position_le
  | enter =>
    rw [act?] at hact
    cases hact
    exact Nat.le_refl _
  | leave holds =>
    obtain ⟨offsets, _ | ⟨position, entered⟩⟩ := session
    · cases hact
    · cases holds with
      | true =>
        cases hact
        exact Nat.le_refl _
      | false => exact absurd rfl hleave

/-- **The cursor stays sound.** After any of the acts of a reader in order, in any text, the mark
is not past the place, the place not past the end, and both are character boundaries. So what is
ahead, the current lexeme and its column can be sliced, and any further operation, an attempt of
several others included, answers as the library's cursor does and comes to what acts can come to.
No act goes back but leaving an attempt that fails, and no attempt as a whole goes back: one that
fails ends exactly where it was entered. -/
theorem orderly_sound (text : Text) {acts done : List Act} (h : Orderly acts)
    (hdone : done <+: acts) :
    ∃ session, run? done (.start text) = some session ∧ Sound text session.offsets ∧
      (∀ tabSize, (rest.run session.offsets).isSome ∧ (current.run session.offsets).isSome ∧
        ((column tabSize).run session.offsets).isSome) ∧
      (∃ cursor : Cursor, cursor.offsets = session.offsets ∧
        ∀ operation : Operation, operation.Ascii →
          Runs operation.program cursor (operation.run cursor).1 (operation.run cursor).2 ∧
            ∃ acts, Performs acts cursor (operation.run cursor).2 session.entered) ∧
      (∀ front act, done = front ++ [act] → act ≠ .leave false →
        ∃ before, run? front (.start text) = some before ∧
          before.offsets.position ≤ session.offsets.position) ∧
      ∀ front inner holds, done = front ++ .enter :: inner ++ [.leave holds] → Balanced inner →
        ∃ before, run? front (.start text) = some before ∧
          before.offsets.position ≤ session.offsets.position ∧
          (holds = false → session.offsets.position = before.offsets.position) := by
  replace h := h.of_prefix hdone
  obtain ⟨session, hsession⟩ := h.exists_reached text
  obtain ⟨cursor, -, hcursor⟩ := hsession.within
  refine ⟨session, hsession.run, hsession.sound, hsession.isSome, ⟨cursor, hcursor, ?operation⟩,
    ?act, ?attempt⟩
  case operation =>
    intro operation hascii
    exact ⟨operation.runs_program hascii cursor,
      exists_performs operation hascii cursor session.entered⟩
  case act =>
    rintro front act rfl hleave
    obtain ⟨before, hbefore⟩ := (h.of_prefix (List.prefix_append ..)).exists_reached text
    refine ⟨before, hbefore.run, position_le_of_act? hbefore.within ?_ hleave ?_⟩
    · rintro operation rfl
      exact h.callable (by simp)
    · rw [← run?_singleton, ← hsession.run, run?_append, hbefore.run, Option.bind_some]
  case attempt =>
    rintro front inner holds rfl hinner
    rw [List.append_assoc] at h hsession
    obtain ⟨before, hbefore⟩ := (h.of_prefix (List.prefix_append ..)).exists_reached text
    obtain ⟨middle, hmiddle⟩ := Advances.of_balanced hinner
      (fun operation hmem => h.callable (by simp [hmem]))
      ⟨before.offsets, before.offsets.position :: before.entered⟩ hbefore.within
    have hattempt := hmiddle.attempt hbefore.within holds
    have hrun := hsession.run
    rw [run?_append, hbefore.run, Option.bind_some, hattempt.run] at hrun
    cases hrun
    refine ⟨before, hbefore.run, hattempt.position_le, ?_⟩
    rintro rfl
    rfl

/-- The theorem for an attempt that fails with another in it that fails, behind a lexeme that began
in one that succeeded. -/
theorem orderly_sound_nested :
    let text : Text := "aé(".toList
    let front : List Act := [.enter, .call .next, .call .begin, .leave true]
    let inner : List Act := [.call (.passIf (· == 'é')), .enter, .call (.expect 'x'), .leave false]
    let done := front ++ .enter :: inner ++ [.leave false]
    let acts := done ++ [.call (.seek 40)]
    Orderly acts ∧ done <+: acts ∧ Balanced inner ∧
      (∃ session, run? acts (.start text) = some session ∧ Sound text session.offsets ∧
        session.offsets.lexemeStart = 1 ∧ session.offsets.position = 3) ∧
      ∃ before session, run? front (.start text) = some before ∧
        run? done (.start text) = some session ∧
        session.offsets.position = before.offsets.position := by
  intro text front inner done acts
  have hnext : Callable .next := ⟨rfl, trivial⟩
  have hbegin : Callable .begin := ⟨rfl, trivial⟩
  have hpassIf : Callable (.passIf (· == 'é')) := ⟨rfl, trivial⟩
  have hexpect : Callable (.expect 'x') := ⟨rfl, trivial⟩
  have hseek : Callable (.seek 40) := ⟨rfl, by simp [Operation.Ascii]⟩
  have hsucceeded : Balanced [.call .next, .call .begin] := (Balanced.nil.call .next).call .begin
  have hfailed : Balanced [.call (.expect 'x')] := Balanced.nil.call (.expect 'x')
  have hinner : Balanced inner := (Balanced.nil.call (.passIf (· == 'é'))).attempt false hfailed
  have hfront : Orderly front :=
    @Orderly.leave [] _ true ((Orderly.nil.enter.call hnext).call hbegin) hsucceeded (by simp)
  have hentered : Orderly (front ++ .enter :: inner) :=
    @Orderly.leave (front ++ [.enter, .call (.passIf (· == 'é'))]) _ false
      ((hfront.enter.call hpassIf).enter.call hexpect) hfailed (by simp)
  have hdone : Orderly done := @Orderly.leave front inner false hentered hinner (by simp [inner])
  have hacts : Orderly acts := hdone.call hseek
  have hleading : done <+: acts := List.prefix_append ..
  obtain ⟨last, hlast, hsound, -⟩ := orderly_sound text hacts List.prefix_rfl
  obtain ⟨session, hsession, -, -, -, -, hattempt⟩ := orderly_sound text hacts hleading
  obtain ⟨before, hbefore, -, hback⟩ := hattempt front inner false rfl hinner
  have hrun : run? acts (.start text) = some ⟨⟨text, 1, 3⟩, []⟩ := rfl
  rw [hrun] at hlast
  cases hlast
  exact ⟨hacts, hleading, hinner, ⟨_, hrun, hsound, rfl, rfl⟩, before, session, hbefore, hsession,
    hback rfl⟩

/-- Where a lexeme begins in an attempt that fails, it begins past the place. -/
example : run? [.enter, .call .next, .call .begin, .leave false] (.start ['a', 'b']) =
    some ⟨⟨['a', 'b'], 1, 0⟩, []⟩ := rfl

end Offsets

end SyntaxMode
