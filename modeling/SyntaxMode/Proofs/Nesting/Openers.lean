import Mathlib.Data.List.Forall2
import SyntaxMode.Proofs.Token.Reading

/-!
# Contexts and their brackets

Each context above the one outside all brackets belongs to a bracket that has been opened and not
closed, and everything in it but its kind can be read off the text: where the bracket stands, what
its line was indented by, or what a bracket closed on the line before it had been, and whether
anything follows it. `Recorded` is the invariant, for any place in any line. It holds at the start
of a text, one token keeps it (`Recorded.read`), and so do the tokens of a line and the lines of a
text. What follows a bracket becomes known late: with the next lexeme on its line, or when the next
line that is not empty begins. Only the innermost context is ever settled, which is enough because
a bracket is a lexeme that follows the one around it.
-/

namespace SyntaxMode

namespace Reading

variable (reading : Reading) (context : Context)

@[simp] theorem column_settle : (reading.settle context).column = context.column := by
  rw [settle]
  split <;> split <;> rfl

@[simp] theorem indented_settle : (reading.settle context).indented = context.indented := by
  rw [settle]
  split <;> split <;> rfl

/-- What a reading settles of the alignment: at the start of a line that nothing follows the
bracket on its own line, and at any other lexeme that something does. -/
theorem align_settle :
    (reading.settle context).align =
      let align :=
        if reading.cursor.atStart then some (context.align.getD false) else context.align
      if reading.follows then some (align.getD true) else align := by
  rw [settle]
  split <;> split <;> rfl

end Reading

/-- The signed indentation of a line behind some readings: that of the last bracket which closed on
the line, or else the width of the blanks that the line starts with. -/
def indentedBehind (tabSize : UInt32) (line : Nat) (text : Text) (before : List Reading) : Int32 :=
  match (before.filter fun reading => reading.line == line && reading.pops).getLast? with
  | some closer => closer.before.context.indented
  | none => (Column.ofText tabSize (text.takeWhile isBlank)).toSigned

/-- Whether a context is that of a bracket, given what was read before the bracket and after it,
and whether its line is over. -/
structure Context.Describes (tabSize : UInt32) (before : List Reading) (opener : Reading)
    (after : List Reading) (ended : Bool) (context : Context) : Prop where
  column : context.column = Column.ofText tabSize opener.front
  indented : context.indented = indentedBehind tabSize opener.line opener.cursor.line before
  align : context.align =
    if after.any fun reading => reading.line == opener.line && reading.follows then some true
    else if ended then some false else none

namespace Context.Describes

variable {tabSize : UInt32} {before after : List Reading} {opener reading : Reading} {ended : Bool}
  {context : Context}

/-- One more reading settles the context of the innermost bracket. -/
theorem settle (h : context.Describes tabSize before opener after ended)
    (hstart : reading.cursor.atStart = true → reading.line ≠ opener.line)
    (hbegun : reading.cursor.atStart = false → reading.line ≠ opener.line → ended = true)
    (hended : ended = true → reading.line ≠ opener.line) :
    (reading.settle context).Describes tabSize before opener (after ++ [reading])
      (ended || reading.line != opener.line) := by
  refine ⟨(reading.column_settle context).trans h.column,
    (reading.indented_settle context).trans h.indented, ?_⟩
  rw [reading.align_settle, h.align, List.any_append]
  by_cases hline : reading.line = opener.line
  · have hbehind : reading.cursor.atStart = false := by
      rw [← Bool.not_eq_true]
      exact fun hatStart => hstart hatStart hline
    have hopen : ended = false := by
      rw [← Bool.not_eq_true]
      exact fun hended' => hended hended' hline
    cases hfollows : reading.follows <;> cases after.any _ <;>
      simp [hbehind, hopen, hline, hfollows]
  · cases hatStart : reading.cursor.atStart with
    | true => cases reading.follows <;> cases after.any _ <;> cases ended <;> simp [hline]
    | false =>
      rw [hbegun hatStart hline]
      cases reading.follows <;> cases after.any _ <;> simp [hline]

/-- One more reading tells nothing new of a bracket if it is known what follows it. -/
theorem append (h : context.Describes tabSize before opener after ended)
    (halign : context.align.isSome) (hended : ended = true → reading.line ≠ opener.line) :
    context.Describes tabSize before opener (after ++ [reading])
      (ended || reading.line != opener.line) := by
  refine ⟨h.column, h.indented, ?_⟩
  rw [h.align] at halign ⊢
  rw [List.any_append]
  cases hfollowed : after.any fun reading => reading.line == opener.line && reading.follows with
  | true => rfl
  | false =>
    have hended' : ended = true := by
      cases ended with
      | true => rfl
      | false => simp [hfollowed] at halign
    simp [hended', hended hended']

end Context.Describes

/-- Whether a context is that of the bracket with an index among readings. -/
def Opened (tabSize : UInt32) (run : List Reading) (index : Nat) (context : Context) : Prop :=
  ∃ before opener after, run = before ++ opener :: after ∧ before.length = index ∧
    opener.opens = true ∧
    context.Describes tabSize before opener after
      (after.any fun reading => reading.line != opener.line)

/-- What the contexts are, at a cursor in a line of a text that begins at a column, behind the
readings of everything before it. -/
structure Recorded (config : Config) (base : UInt32) (line : Nat) (cursor : Cursor)
    (run : List Reading) (state : State) : Prop where
  shaped : state.Shaped config base
  ordered : run.Pairwise fun first second => first.line ≤ second.line
  passed : ∀ reading ∈ run, reading.line ≤ line
  fresh : cursor.atStart = true → ∀ reading ∈ run, reading.line < line
  begun : cursor.atStart = false → ∃ last, run.getLast? = some last ∧ last.line = line
  indented : cursor.atStart = false →
    state.indented = indentedBehind config.tabSize line cursor.line run
  opened : List.Forall₂ (Opened config.tabSize run) (unpopped run) state.nesting.opened

/-! ## Lists of contexts -/

/-- A change of the innermost context leaves the outer ones alone. -/
theorem Nesting.forall₂_modify {R R' : Nat → Context → Prop} {change : Context → Context}
    {nesting : Nesting} {indexes : List Nat} (h : List.Forall₂ R indexes nesting.opened)
    (hinner : ∀ index context, R index context → R' index (change context))
    (houter : ∀ index, ∀ context ∈ nesting.opened.tail, R index context → R' index context) :
    List.Forall₂ R' indexes (nesting.modify change).opened := by
  obtain ⟨outside, opened⟩ := nesting
  cases h with
  | nil => exact .nil
  | cons hhead htail =>
    refine .cons (hinner _ _ hhead) ?_
    induction htail with
    | nil => exact .nil
    | cons hnext _ ih =>
      refine .cons (houter _ _ List.mem_cons_self hnext) (ih ?_)
      intro index context hcontext
      exact houter index context (List.mem_cons_of_mem _ hcontext)

/-- What one more reading does to the indentation of the line. -/
theorem indentedBehind_append_singleton (tabSize : UInt32) (line : Nat) (text : Text)
    (run : List Reading) (reading : Reading) :
    indentedBehind tabSize line text (run ++ [reading]) =
      if reading.line == line && reading.pops then reading.before.context.indented
      else indentedBehind tabSize line text run := by
  rw [indentedBehind, List.filter_append, List.filter_cons, List.filter_nil]
  by_cases h : (reading.line == line && reading.pops) = true
  · rw [if_pos h, if_pos h, List.getLast?_concat]
  · rw [if_neg h, if_neg h, List.append_nil, indentedBehind]

/-! ## One token -/

section
variable {config : Config} {base : UInt32} {line : Nat} {cursor : Cursor} {run : List Reading}
  {state : State}

/-- The indentation of a line, once it is entered. -/
theorem Recorded.indented_atCursor (h : Recorded config base line cursor run state) :
    (state.atCursor config.tabSize cursor).indented =
      indentedBehind config.tabSize line cursor.line run := by
  cases hstart : cursor.atStart with
  | true =>
    have hnone : run.filter (fun reading => reading.line == line && reading.pops) = [] := by
      rw [List.filter_eq_nil_iff]
      intro reading hreading
      have hlt : reading.line < line := h.fresh hstart reading hreading
      simp [Nat.ne_of_lt hlt]
    rw [State.atCursor, if_pos hstart, indentedBehind, hnone]
    rfl
  | false =>
    rw [State.atCursor_of_atStart_eq_false _ _ _ hstart]
    exact h.indented hstart

/-- Whether the line of a bracket is over, given what was read after the bracket. -/
theorem Recorded.ended (h : Recorded config base line cursor run state)
    {before after : List Reading} {opener : Reading} (hrun : run = before ++ opener :: after) :
    (cursor.atStart = true → line ≠ opener.line) ∧
      (cursor.atStart = false → line ≠ opener.line →
        (after.any fun reading => reading.line != opener.line) = true) ∧
      ((after.any fun reading => reading.line != opener.line) = true → line ≠ opener.line) := by
  have hopener : opener ∈ run := by
    rw [hrun]
    exact List.mem_append_right _ List.mem_cons_self
  refine ⟨?_, ?_, ?_⟩
  · intro hstart
    exact Nat.ne_of_gt (h.fresh hstart opener hopener)
  · intro hstart hline
    obtain ⟨last, hlast, rfl⟩ := h.begun hstart
    rw [hrun, List.getLast?_append, List.getLast?_cons] at hlast
    rw [List.any_eq_true]
    refine ⟨last, ?_, by simpa using hline⟩
    cases hafter : after.getLast? with
    | none =>
      rw [hafter] at hlast
      cases hlast
      exact absurd rfl hline
    | some other =>
      rw [hafter] at hlast
      cases hlast
      exact List.mem_of_getLast? hafter
  · intro hended
    obtain ⟨other, hother, hne⟩ := List.any_eq_true.1 hended
    have hle : opener.line ≤ other.line := by
      have hordered := h.ordered
      rw [hrun, List.pairwise_append] at hordered
      exact List.rel_of_pairwise_cons hordered.2.1 hother
    have hpassed : other.line ≤ line := by
      refine h.passed other ?_
      rw [hrun]
      exact List.mem_append_right _ (List.mem_cons_of_mem _ hother)
    have hne : other.line ≠ opener.line := by simpa using hne
    omega

/-- Brackets that stay open are settled by one more token of the line. -/
theorem Recorded.forall₂_settle (h : Recorded config base line cursor run state) :
    List.Forall₂ (Opened config.tabSize (run ++ [Reading.read config line cursor state]))
      (unpopped run)
      (state.nesting.modify (Reading.read config line cursor state).settle).opened := by
  have hany (opener : Reading) (after : List Reading) :
      (after ++ [Reading.read config line cursor state]).any
          (fun reading => reading.line != opener.line) =
        ((after.any fun reading => reading.line != opener.line) || line != opener.line) := by
    rw [List.any_append, List.any_cons, List.any_nil, Bool.or_false]
    rfl
  refine Nesting.forall₂_modify h.opened ?_ ?_
  · rintro index context ⟨before, opener, after, hrun, hindex, hopens, hdescribes⟩
    obtain ⟨hstart, hbegun, hended⟩ := h.ended hrun
    refine ⟨before, opener, after ++ [.read config line cursor state], ?_, hindex, hopens, ?_⟩
    · rw [hrun, List.append_assoc, List.cons_append]
    · rw [hany]
      exact hdescribes.settle hstart hbegun hended
  · rintro index context hcontext ⟨before, opener, after, hrun, hindex, hopens, hdescribes⟩
    have halign : context.align.isSome := h.shaped.nesting.outer_align context hcontext
    obtain ⟨-, -, hended⟩ := h.ended hrun
    refine ⟨before, opener, after ++ [.read config line cursor state], ?_, hindex, hopens, ?_⟩
    · rw [hrun, List.append_assoc, List.cons_append]
    · rw [hany]
      exact hdescribes.append halign hended

/-- Behind a token the indentation of the line is that of the last bracket which closed on it. -/
theorem Recorded.indented_read (h : Recorded config base line cursor run state)
    (hne : cursor.ahead ≠ []) :
    (Token.read config cursor state).after.indented =
      indentedBehind config.tabSize line cursor.line
        (run ++ [Reading.read config line cursor state]) := by
  have hline : (Reading.read config line cursor state).line == line := beq_self_eq_true line
  rw [indentedBehind_append_singleton, hline, Bool.true_and]
  rcases Reading.cases_read config line state hne with
    ⟨-, hpops, _, -, hindented⟩ | ⟨-, hpops, closed, hpop, hindented⟩ | ⟨-, hpops, -, hindented⟩
  · rw [hpops, hindented]
    exact h.indented_atCursor
  · rw [hpops, if_pos rfl, hindented, (Nesting.pop?_eq_some hpop).1, Nesting.innermost_modify,
      Reading.indented_settle]
    rfl
  · rw [hpops, hindented]
    exact h.indented_atCursor

/-- Behind a token the open contexts are those of the brackets that are open behind it. -/
theorem Recorded.opened_read (h : Recorded config base line cursor run state)
    (hne : cursor.ahead ≠ []) :
    List.Forall₂ (Opened config.tabSize (run ++ [Reading.read config line cursor state]))
      (unpopped (run ++ [Reading.read config line cursor state]))
      (Token.read config cursor state).after.nesting.opened := by
  have hsettled := h.forall₂_settle
  rw [unpopped_append_singleton, unpoppedBehind]
  rcases Reading.cases_read config line state hne with
    ⟨hopens, -, _, hnesting, -⟩ | ⟨hopens, hpops, _, hpop, -⟩ | ⟨hopens, hpops, hnesting, -⟩
  · rw [hopens, if_pos rfl, hnesting]
    refine .cons ?_ hsettled
    exact ⟨run, Reading.read config line cursor state, [], rfl, rfl, hopens, rfl,
      h.indented_atCursor, rfl⟩
  · rw [hopens, hpops, if_pos rfl, (Nesting.pop?_eq_some hpop).2.1, ← List.drop_one,
      ← List.drop_one]
    exact List.forall₂_drop 1 hsettled
  · rw [hopens, hpops]
    rcases hnesting with hnesting | hnesting
    · rw [hnesting]
      exact hsettled
    · rw [hnesting]
      refine Nesting.forall₂_modify hsettled ?_ fun _ _ _ hopened => hopened
      rintro index context ⟨before, opener, after, hrun, hindex, hopener, hdescribes⟩
      exact ⟨before, opener, after, hrun, hindex, hopener,
        hdescribes.column, hdescribes.indented, hdescribes.align⟩

/-- **One token.** -/
theorem Recorded.read (h : Recorded config base line cursor run state) (hne : cursor.ahead ≠ []) :
    Recorded config base line (Token.read config cursor state).cursor
      (run ++ [Reading.read config line cursor state])
      (Token.read config cursor state).after where
  shaped := h.shaped.read config cursor
  ordered := by
    rw [List.pairwise_append]
    refine ⟨h.ordered, List.pairwise_singleton .., ?_⟩
    intro first hfirst second hsecond
    rw [List.mem_singleton.1 hsecond]
    exact h.passed first hfirst
  passed := by
    intro reading hreading
    rcases List.mem_append.1 hreading with hreading | hreading
    · exact h.passed reading hreading
    · rw [List.mem_singleton.1 hreading]
      exact Nat.le_refl line
  fresh := by
    intro hstart
    rw [Token.atStart_cursor_read config state hne] at hstart
    cases hstart
  begun := by
    intro _
    exact ⟨_, List.getLast?_concat .., rfl⟩
  indented := by
    intro _
    rw [Token.line_cursor_read]
    exact h.indented_read hne
  opened := h.opened_read hne

/-! ## Lines -/

/-- The tokens up to the end of a line. -/
theorem Recorded.tokens (h : Recorded config base line cursor run state) :
    ∃ behind, Recorded config base line behind
      (run ++ tokenReadings line cursor state (tokens config cursor state))
      (stateAfter state (SyntaxMode.tokens config cursor state)) := by
  fun_induction SyntaxMode.tokens config cursor state generalizing run with
  | case1 cursor state _ =>
    refine ⟨cursor, ?_⟩
    rw [tokenReadings, List.append_nil]
    exact h
  | case2 cursor state hne token =>
    rename_i ih
    obtain ⟨behind, hbehind⟩ := ih (h.read hne)
    refine ⟨behind, ?_⟩
    rw [stateAfter_cons, tokenReadings]
    rw [List.append_assoc] at hbehind
    exact hbehind

/-- Behind a line the next one begins. -/
theorem Recorded.next (h : Recorded config base line cursor run state) (text : Text) :
    Recorded config base (line + 1) (Cursor.ofLine text) run state where
  shaped := h.shaped
  ordered := h.ordered
  passed := fun reading hreading => Nat.le_succ_of_le (h.passed reading hreading)
  fresh := fun _ reading hreading => Nat.lt_succ_of_le (h.passed reading hreading)
  begun := nofun
  indented := nofun
  opened := h.opened

/-- The start of a text is on record with no readings. -/
theorem recorded_start (config : Config) (base : UInt32) (text : Text) :
    Recorded config base 0 (Cursor.ofLine text) [] (State.start config base) where
  shaped := State.shaped_start config base
  ordered := .nil
  passed := fun reading hreading => by cases hreading
  fresh := fun _ reading hreading => by cases hreading
  begun := fun hbehind => by cases hbehind
  indented := fun hbehind => by cases hbehind
  opened := .nil

/-- **The lines of a text.** -/
theorem recorded_readings (texts : List Text)
    (h : ∀ text, Recorded config base line (Cursor.ofLine text) run state) (text : Text) :
    Recorded config base (line + texts.length) (Cursor.ofLine text)
      (run ++ readings config line state texts) (stateBehind config state texts) := by
  induction texts generalizing line run state with
  | nil =>
    rw [readings, List.append_nil]
    exact h text
  | cons first texts ih =>
    obtain ⟨behind, hbehind⟩ := (h first).tokens
    have hrest := ih hbehind.next
    rw [List.append_assoc] at hrest
    rw [List.length_cons, Nat.add_comm texts.length, ← Nat.add_assoc]
    exact hrest

end

/-! ## Texts -/

/-- A line is over when a later one that is not empty has begun. -/
theorem any_line_ne_eq {config : Config} {state : State} {texts : List Text}
    {before after : List Reading} {opener : Reading}
    (hrun : readings config 0 state texts = before ++ opener :: after)
    (hordered :
      (before ++ opener :: after).Pairwise fun first second => first.line ≤ second.line) :
    (after.any fun reading => reading.line != opener.line) =
      (texts.drop (opener.line + 1)).any fun text => !text.isEmpty := by
  obtain ⟨-, hbehind, hbefore⟩ := List.pairwise_append.1 hordered
  rw [Bool.eq_iff_iff, List.any_eq_true, List.any_eq_true]
  constructor
  · rintro ⟨other, hother, hne⟩
    have hmem : other ∈ readings config 0 state texts := by
      rw [hrun]
      exact List.mem_append_right _ (List.mem_cons_of_mem _ hother)
    have hle : opener.line ≤ other.line := List.rel_of_pairwise_cons hbehind hother
    have hne : other.line ≠ opener.line := by simpa using hne
    obtain ⟨index, hindex, htext, hfilled⟩ := exists_getElem?_of_mem_readings hmem
    refine ⟨other.cursor.line, ?_, by simpa using hfilled⟩
    rw [List.mem_iff_getElem?]
    refine ⟨index - (opener.line + 1), ?_⟩
    rw [List.getElem?_drop, ← htext]
    congr 1
    omega
  · rintro ⟨text, htext, hfilled⟩
    obtain ⟨index, hindex⟩ := List.mem_iff_getElem?.1 htext
    rw [List.getElem?_drop] at hindex
    obtain ⟨other, hother, hline⟩ :=
      exists_mem_readings config 0 state hindex (by simpa using hfilled)
    rw [hrun, List.mem_append, List.mem_cons] at hother
    refine ⟨other, ?_, ?_⟩
    · rcases hother with hother | rfl | hother
      · have hle := hbefore other hother opener List.mem_cons_self
        omega
      · omega
      · exact hother
    · simp only [bne_iff_ne, ne_eq]
      omega

/-- **Every open context describes its bracket.** In a text that begins at a column, the contexts
above the one outside all brackets are, from the outermost inwards, those of the brackets that were
opened and not closed, in the order of the text; and each has the column of its bracket, the
indentation that the line of the bracket had when it was opened, and what is known to follow it. -/
theorem opened_describe (config : Config) (base : UInt32) (texts : List Text) :
    let run := readings config 0 (State.start config base) texts
    (unpopped run).reverse.Pairwise (fun outer inner => outer < inner) ∧
      List.Forall₂
        (fun index context => ∃ before opener after,
          run = before ++ opener :: after ∧ before.length = index ∧ opener.opens = true ∧
            texts[opener.line]? = some opener.cursor.line ∧
            context.Describes config.tabSize before opener after
              ((texts.drop (opener.line + 1)).any fun text => !text.isEmpty))
        (unpopped run).reverse
        (stateBehind config (State.start config base) texts).nesting.toList.tail := by
  intro run
  have hrecorded := recorded_readings texts (recorded_start config base) []
  rw [List.nil_append] at hrecorded
  refine ⟨List.pairwise_reverse.2 (unpopped_sorted run).1, ?_⟩
  show List.Forall₂ _ (unpopped run).reverse (List.reverse _)
  rw [List.forall₂_reverse_iff]
  refine hrecorded.opened.imp ?_
  rintro index context ⟨before, opener, after, hrun, hindex, hopens, hdescribes⟩
  refine ⟨before, opener, after, hrun, hindex, hopens, ?_, ?_⟩
  · have hmem : opener ∈ readings config 0 (State.start config base) texts := by
      rw [hrun]
      exact List.mem_append_right _ List.mem_cons_self
    obtain ⟨line, hline, htext, -⟩ := exists_getElem?_of_mem_readings hmem
    rw [hline, Nat.zero_add]
    exact htext
  · rw [← any_line_ne_eq hrun (hrun ▸ hrecorded.ordered)]
    exact hdescribes

end SyntaxMode
