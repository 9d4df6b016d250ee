import Mathlib.Data.List.InsertIdx
import Mathlib.Order.Bounds.Defs
import SyntaxMode.Proofs.Document.FullScan

/-!
# The lines that an edit reads again

An edit answers the range of the lines that it has read again. An editor repaints these lines and
no others, so all other lines have to be what they were, and the range should not be longer than
that takes. Reading again ends at the first line, behind the changed ones, that has been read in
the state that reading has come to (`isLeast_rereadLines`), and the lines from there on are not
touched (`getElem?_rereadLines`). Every edit is of that form: lines of the document are cut out,
changed ones are put in their place, and the document is read again from there
(`exists_apply_eq_reread`). So the range of an edit is the least one that can be repainted
(`apply_range`).
-/

namespace SyntaxMode

namespace Edit

/-- The index of the line that an edit changes in a document with a number of lines. A line
inserted beyond the last one goes to the end. -/
def place (count : Nat) : Edit → Nat
  | replace index _ => index
  | insert index _ => min index count
  | remove index => index

/-- Whether an edit finds the line that it changes in a document with a number of lines. -/
def Applies (count : Nat) : Edit → Prop
  | replace index _ => index < count
  | insert _ _ => True
  | remove index => index < count

/-- How many lines of the edited document are changed ones. -/
def changed : Edit → Nat
  | replace _ _ => 1
  | insert _ _ => 1
  | remove _ => 0

/-- The index that a line had before an edit changed a line above it. -/
def indexBefore (index : Nat) : Edit → Nat
  | replace _ _ => index
  | insert _ _ => index - 1
  | remove _ => index + 1

end Edit

/-- Whether lines that are read again from a state on can be left as they are from an index on:
there are no more of them, or the first one has been read in the state that reading comes to. -/
def KeptFrom (config : Config) (state : State) (lines : List Line) (index : Nat) : Prop :=
  index = lines.length ∨ ∃ line, lines[index]? = some line ∧
    line.before = stateBehind config state ((lines.map Line.text).take index)

section
variable {config : Config} {state : State}

/-! ## Where lines can be kept -/

/-- Behind its first line, lines can be left as they are where those below that line can. -/
theorem keptFrom_succ {line : Line} {lines : List Line} {index : Nat} :
    KeptFrom config state (line :: lines) (index + 1) ↔
      KeptFrom config (highlight config state line.text).2 lines index := by
  simp only [KeptFrom, List.length_cons, Nat.add_right_cancel_iff, List.getElem?_cons_succ,
    List.map_cons, List.take_succ_cons]
  rfl

/-- Behind some lines, lines can be left as they are where those below can. -/
theorem keptFrom_append {above below : List Line} {index : Nat} :
    KeptFrom config state (above ++ below) (above.length + index) ↔
      KeptFrom config (stateBehind config state (above.map Line.text)) below index := by
  induction above generalizing state with
  | nil =>
    rw [List.nil_append, List.length_nil, Nat.zero_add]
    rfl
  | cons line above ih =>
    rw [List.cons_append, List.length_cons, Nat.succ_add, keptFrom_succ, ih]
    rfl

/-! ## Reading again -/

namespace Document

/-- Reading lines again keeps their texts. -/
@[simp] theorem map_text_rereadLines (changed : Nat) (lines : List Line) :
    (rereadLines config state changed lines).1.map Line.text = lines.map Line.text := by
  induction lines generalizing state changed with
  | nil => rfl
  | cons line lines ih =>
    rw [rereadLines]
    split
    · rfl
    · exact congrArg (line.text :: ·) (ih (changed - 1))

/-- The lines that are not read again are kept. -/
theorem getElem?_rereadLines {changed : Nat} {lines : List Line} {index : Nat}
    (h : (rereadLines config state changed lines).2 ≤ index) :
    (rereadLines config state changed lines).1[index]? = lines[index]? := by
  induction lines generalizing state changed index with
  | nil => rfl
  | cons line lines ih =>
    rw [rereadLines] at h ⊢
    split
    next => rfl
    next hstop =>
      rw [if_neg hstop] at h
      obtain ⟨index, rfl⟩ := Nat.exists_eq_succ_of_ne_zero (Nat.ne_zero_of_lt h)
      exact ih (Nat.le_of_succ_le_succ h)

/-- **Where reading again ends.** It ends at the first index, behind the changed lines, from which
on the lines can be left as they are. -/
theorem isLeast_rereadLines (config : Config) (state : State) {changed : Nat} {lines : List Line}
    (h : changed ≤ lines.length) :
    IsLeast {index | changed ≤ index ∧ KeptFrom config state lines index}
      (rereadLines config state changed lines).2 := by
  induction lines generalizing state changed with
  | nil => exact ⟨⟨h, .inl rfl⟩, fun index _ => Nat.zero_le index⟩
  | cons line lines ih =>
    rw [rereadLines]
    split
    next hstop =>
      obtain ⟨rfl, hbefore⟩ := hstop
      exact ⟨⟨Nat.le_refl 0, .inr ⟨line, rfl, hbefore⟩⟩, fun index _ => Nat.zero_le index⟩
    next hstop =>
      have hlength : changed - 1 ≤ lines.length := Nat.sub_le_of_le_add h
      obtain ⟨⟨hchanged, hkept⟩, hleast⟩ := ih (highlight config state line.text).2 hlength
      refine ⟨⟨?_, keptFrom_succ.2 hkept⟩, ?_⟩
      · show changed ≤ (rereadLines config _ (changed - 1) lines).2 + 1
        exact Nat.le_add_of_sub_le hchanged
      · rintro (_ | index) ⟨hindex, hindexKept⟩
        · -- The first line has been read again because it has changed or its state has.
          rcases hindexKept with hnil | ⟨other, hother, hbefore⟩
          · cases hnil
          · cases hother
            exact absurd ⟨Nat.le_zero.1 hindex, hbefore⟩ hstop
        · exact Nat.succ_le_succ
            (hleast ⟨Nat.sub_le_of_le_add hindex, keptFrom_succ.1 hindexKept⟩)

end Document

end

namespace Document

section
variable (document : Document) (index changed : Nat)

/-- Reading a document again keeps the texts of its lines. -/
@[simp] theorem lineTexts_reread :
    (document.reread index changed).1.lineTexts = document.lineTexts := by
  rw [lineTexts, lineTexts, reread, List.map_append, map_text_rereadLines, ← List.map_append,
    List.take_append_drop]

@[simp] theorem length_lines_reread :
    (document.reread index changed).1.lines.length = document.lines.length := by
  rw [← List.length_map (f := Line.text), ← List.length_map (f := Line.text)]
  exact congrArg List.length (document.lineTexts_reread index changed)

variable {document index changed}

/-- Reading a document again keeps the lines above the range and those below. -/
theorem getElem?_lines_reread (hindex : index ≤ document.lines.length) {other : Nat}
    (h : other < index ∨ (document.reread index changed).2.stop ≤ other) :
    (document.reread index changed).1.lines[other]? = document.lines[other]? := by
  have htake : (document.lines.take index).length = index := List.length_take_of_le hindex
  rw [reread]
  rcases h with h | h
  · rw [List.getElem?_append_left (htake.symm ▸ h), List.getElem?_take_of_lt h]
  · have hle : index + (rereadLines document.config (document.stateAt index) changed
        (document.lines.drop index)).2 ≤ other := h
    rw [List.getElem?_append_right (by omega), htake, getElem?_rereadLines (by omega),
      List.getElem?_drop, Nat.add_sub_cancel' (by omega)]

/-- The range of the lines that are read again holds the changed lines, and ends within the
document. -/
theorem stop_reread_mem (hindex : index + changed ≤ document.lines.length) :
    index + changed ≤ (document.reread index changed).2.stop ∧
      (document.reread index changed).2.stop ≤ document.lines.length := by
  have hlength : (document.lines.drop index).length = document.lines.length - index :=
    List.length_drop
  have hchanged : changed ≤ (document.lines.drop index).length := by omega
  obtain ⟨⟨hle, -⟩, hleast⟩ :=
    isLeast_rereadLines document.config (document.stateAt index) hchanged
  have hend := hleast ⟨hchanged, .inl rfl⟩
  show index + changed ≤ index + _ ∧ index + _ ≤ document.lines.length
  omega

/-- **Where a document is kept.** If the lines above an index are known as they are read, reading
the document again from there ends at the first index, behind the changed lines, from which on it
can be left as it is. -/
theorem isLeast_reread (document : Document) (hindex : index + changed ≤ document.lines.length)
    (habove : document.lines.take index = scanLines document.config
      (State.initial document.config) (document.lineTexts.take index)) :
    IsLeast {other | index + changed ≤ other ∧
        KeptFrom document.config (State.initial document.config) document.lines other}
      (document.reread index changed).2.stop := by
  have htake : (document.lines.take index).length = index :=
    List.length_take_of_le (Nat.le_of_add_right_le hindex)
  have hstate : document.stateAt index = stateBehind document.config
      (State.initial document.config) ((document.lines.take index).map Line.text) := by
    have hlines : document.lines = scanLines document.config (State.initial document.config)
        (document.lineTexts.take index) ++ document.lines.drop index := by
      rw [← habove, List.take_append_drop]
    have hstate := stateAt_of_lines_eq hlines
    rwa [lineTexts, ← List.map_take, List.length_map, htake] at hstate
  have hkept (offset : Nat) :
      KeptFrom document.config (State.initial document.config) document.lines (index + offset) ↔
        KeptFrom document.config (document.stateAt index) (document.lines.drop index) offset := by
    rw [hstate, ← keptFrom_append, htake, List.take_append_drop]
  have hdrop : changed ≤ (document.lines.drop index).length := by
    rw [List.length_drop]
    omega
  obtain ⟨⟨hchanged, hstop⟩, hleast⟩ :=
    isLeast_rereadLines document.config (document.stateAt index) hdrop
  refine ⟨⟨Nat.add_le_add_left hchanged index, (hkept _).2 hstop⟩, ?_⟩
  rintro other ⟨hother, hotherKept⟩
  obtain ⟨offset, rfl⟩ := Nat.exists_eq_add_of_le (Nat.le_of_add_right_le hother)
  exact Nat.add_le_add_left
    (hleast ⟨Nat.le_of_add_le_add_left hother, (hkept offset).1 hotherKept⟩) index

end

/-! ## Edits -/

/-- The lines of a current document above an index are read one after the other from the start. -/
theorem Current.take_lines {document : Document} (h : document.Current) (index : Nat) :
    document.lines.take index = scanLines document.config (State.initial document.config)
      (document.lineTexts.take index) := by
  conv => lhs; rw [h]
  exact take_scanLines ..

/-- An edit that finds its line puts other lines in the place of those from that line on, of which
all but the changed ones are lines of the document, and reads the document again from there. -/
theorem exists_apply_eq_reread (document : Document) {edit : Edit}
    (h : edit.Applies document.lines.length) :
    let place := edit.place document.lines.length
    ∃ lines : List Line, place + edit.changed ≤ lines.length ∧
      lines.take place = document.lines.take place ∧
      (∀ index ≥ place + edit.changed, lines[index]? = document.lines[edit.indexBefore index]?) ∧
      document.apply edit = reread ⟨document.config, lines⟩ place edit.changed := by
  cases edit with
  | replace index text =>
    have hindex : index < document.lines.length := h
    have hshort : (document.lines.take index).length ≤ index := List.length_take_le ..
    refine ⟨document.lines.modify index fun line => { line with text }, ?_, ?_, ?_, if_pos hindex⟩
    · rw [List.length_modify]
      exact hindex
    · show (document.lines.modify index _).take index = document.lines.take index
      rw [List.take_modify, List.modify_eq_self hshort]
    · intro other hother
      exact List.getElem?_modify_ne _ _ (Nat.ne_of_lt hother)
  | insert index text =>
    have hindex : min index document.lines.length ≤ document.lines.length := Nat.min_le_right ..
    refine ⟨document.lines.insertIdx (min index document.lines.length) _, ?_, ?_, ?_, rfl⟩
    · rw [List.length_insertIdx_of_le_length hindex]
      exact Nat.succ_le_succ hindex
    · exact List.take_insertIdx_eq_take_of_le _ _ _ _ (Nat.le_refl _)
    · intro other hother
      exact List.getElem?_insertIdx_of_gt hother
  | remove index =>
    have hindex : index < document.lines.length := h
    refine ⟨document.lines.eraseIdx index, ?_, ?_, ?_, if_pos hindex⟩
    · rw [List.length_eraseIdx_of_lt hindex]
      exact Nat.le_sub_one_of_lt hindex
    · exact List.take_eraseIdx_eq_take_of_le _ _ _ (Nat.le_refl index)
    · intro other hother
      exact List.getElem?_eraseIdx_of_ge hother

section
variable {document : Document} {edit : Edit}

/-- The range that an edit answers begins at the line that it changes. -/
theorem start_apply (document : Document) (edit : Edit) :
    (document.apply edit).2.start = edit.place document.lines.length := by
  cases edit with
  | replace | remove =>
    rw [apply]
    split <;> rfl
  | insert => rfl

/-- The range that an edit answers holds the changed lines, and ends within the edited document. -/
theorem stop_apply_mem (h : edit.Applies document.lines.length) :
    edit.place document.lines.length + edit.changed ≤ (document.apply edit).2.stop ∧
      (document.apply edit).2.stop ≤ (document.apply edit).1.lines.length := by
  obtain ⟨lines, hplace, -, -, happly⟩ := document.exists_apply_eq_reread h
  rw [happly, length_lines_reread]
  exact stop_reread_mem hplace

/-- **Outside of its range an edit keeps every line.** -/
theorem getElem?_lines_apply (h : edit.Applies document.lines.length) (index : Nat) :
    (index < (document.apply edit).2.start →
        (document.apply edit).1.lines[index]? = document.lines[index]?) ∧
      ((document.apply edit).2.stop ≤ index →
        (document.apply edit).1.lines[index]? = document.lines[edit.indexBefore index]?) := by
  have hmem := stop_apply_mem h
  obtain ⟨lines, hplace, habove, hbelow, happly⟩ := document.exists_apply_eq_reread h
  have hle : edit.place document.lines.length ≤ lines.length := Nat.le_of_add_right_le hplace
  refine ⟨?_, ?_⟩
  · intro hindex
    rw [start_apply] at hindex
    rw [happly, getElem?_lines_reread hle (.inl hindex)]
    show lines[index]? = document.lines[index]?
    rw [← List.getElem?_take_of_lt hindex, habove, List.getElem?_take_of_lt hindex]
  · intro hindex
    rw [← hbelow index (Nat.le_trans hmem.1 hindex)]
    rw [happly] at hindex ⊢
    exact getElem?_lines_reread hle (.inr hindex)

/-- **The range of an edit is the least one.** In a current document, it ends at the first index
behind the changed line at which the edited document ends, or at which the line was read before the
edit in the state that a full scan of the edited document reaches. -/
theorem Current.isLeast_stop_apply (hcurrent : document.Current)
    (h : edit.Applies document.lines.length) :
    IsLeast {index | edit.place document.lines.length + edit.changed ≤ index ∧
        (index = (document.apply edit).1.lines.length ∨
          ∃ line, document.lines[edit.indexBefore index]? = some line ∧
            line.before = stateBehind document.config (State.initial document.config)
              ((document.apply edit).1.lineTexts.take index))}
      (document.apply edit).2.stop := by
  obtain ⟨lines, hplace, habove, hbelow, happly⟩ := document.exists_apply_eq_reread h
  have hscan : lines.take (edit.place document.lines.length) =
      scanLines document.config (State.initial document.config)
        ((lines.map Line.text).take (edit.place document.lines.length)) := by
    rw [← List.map_take, habove, List.map_take]
    exact hcurrent.take_lines _
  have hleast := isLeast_reread ⟨document.config, lines⟩ hplace hscan
  have hkept {index : Nat} (hindex : edit.place document.lines.length + edit.changed ≤ index) :
      KeptFrom document.config (State.initial document.config) lines index ↔
        (index = lines.length ∨ ∃ line, document.lines[edit.indexBefore index]? = some line ∧
          line.before = stateBehind document.config (State.initial document.config)
            ((lines.map Line.text).take index)) := by
    rw [KeptFrom, hbelow index hindex]
  rw [happly, length_lines_reread, lineTexts_reread]
  obtain ⟨⟨hchanged, hstop⟩, hlower⟩ := hleast
  refine ⟨⟨hchanged, (hkept hchanged).1 hstop⟩, ?_⟩
  rintro index ⟨hindex, hindexKept⟩
  exact hlower ⟨hindex, (hkept hindex).2 hindexKept⟩

end

/-- **The lines that an edit reads again are the least that it has to.** In a document that edits
have led to, take an edit that finds the line it changes. The range that it answers begins at that
line and ends within the edited document. Every line outside of it is a line of the document before
the edit, with all that was known of it. And the range ends at the first index behind the changed
line at which the edited document ends, or at which the line was read before the edit in the state
that a full scan of the edited document reaches. An edit that does not find its line changes
nothing and answers an empty range. -/
theorem apply_range (config : Config) (text : Text) (edits : List Edit) (edit : Edit) :
    let document := (ofText config text).applyAll edits
    let place := edit.place document.lines.length
    let edited := (document.apply edit).1
    let range := (document.apply edit).2
    (edit.Applies document.lines.length →
      range.start = place ∧ range.stop ≤ edited.lines.length ∧
      (∀ index < range.start, edited.lines[index]? = document.lines[index]?) ∧
      (∀ index ≥ range.stop, edited.lines[index]? = document.lines[edit.indexBefore index]?) ∧
      IsLeast {index | place + edit.changed ≤ index ∧ (index = edited.lines.length ∨
        ∃ line, document.lines[edit.indexBefore index]? = some line ∧
          line.before =
            stateBehind config (State.initial config) (edited.lineTexts.take index))}
        range.stop) ∧
    (¬ edit.Applies document.lines.length → document.apply edit = (document, ⟨place, place⟩)) := by
  intro document place edited range
  have hcurrent : document.Current := ((current_ofText config text).applyAll edits).1
  have hconfig : document.config = config := config_applyAll (ofText config text) edits
  refine ⟨?_, ?_⟩
  · intro happlies
    have hleast := hcurrent.isLeast_stop_apply happlies
    rw [hconfig] at hleast
    exact ⟨document.start_apply edit, (stop_apply_mem happlies).2,
      fun index => (getElem?_lines_apply happlies index).1,
      fun index => (getElem?_lines_apply happlies index).2, hleast⟩
  · intro happlies
    cases edit with
    | replace | remove => exact if_neg happlies
    | insert => exact absurd trivial happlies

/-- The theorem where the line that opens a comment is removed: the two lines that were inside the
comment are read again, and the last one is kept. -/
theorem apply_range_comment :
    let document := (ofText {} "/*
x
*/ y
z".toList).applyAll []
    (Edit.remove 0).Applies document.lines.length ∧
      (document.apply (.remove 0)).2 = ⟨0, 2⟩ ∧
      (document.apply (.remove 0)).1.lines[2]? = document.lines[3]? := by
  intro document
  have happlies : (Edit.remove 0).Applies document.lines.length := by
    show 0 < document.lines.length
    decide +kernel
  have hrange : (document.apply (.remove 0)).2 = ⟨0, 2⟩ := by decide +kernel
  obtain ⟨-, -, -, hbelow, -⟩ :=
    (apply_range {} "/*
x
*/ y
z".toList [] (.remove 0)).1 happlies
  exact ⟨happlies, hrange, hbelow 2 (Nat.le_of_eq (congrArg LineRange.stop hrange))⟩

end Document

end SyntaxMode
