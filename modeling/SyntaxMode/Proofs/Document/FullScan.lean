import SyntaxMode.Document.Edit

/-!
# Edits and the full scan

An edit reads only some lines again, and the rest of the document is kept as it was read before.
The invariant is `Document.Current`: what is known of the lines is what one scan of all of them
from the start would find. It holds of a new document (`current_ofText`), and an edit keeps it
whatever line it names (`Current.apply`), because below the changed lines the document is a scan
too, only perhaps from another state (`rereadLines_append_scanLines`). A run of edits therefore
ends in the scan of the texts that the edits leave (`applyAll_ofText`).
-/

namespace SyntaxMode

/-- The texts of the lines after an edit. A replacement or a removal beyond the last line leaves
them as they are, and an insertion beyond it goes to the end. -/
def Edit.applyTexts (texts : List Text) : Edit → List Text
  | .replace index text => texts.set index text
  | .insert index text => texts.insertIdx (min index texts.length) text
  | .remove index => texts.eraseIdx index

/-- The state behind lines that are read one after the other from a state on. -/
def stateBehind (config : Config) (state : State) (texts : List Text) : State :=
  texts.foldl (fun state text => (highlight config state text).2) state

section
variable {config : Config} {state : State}

/-! ## Scans -/

/-- Lines are read on from the state behind the lines above them. -/
theorem stateBehind_append (a b : List Text) :
    stateBehind config state (a ++ b) = stateBehind config (stateBehind config state a) b :=
  List.foldl_append

/-- A scan goes on, behind some of its lines, from the state behind them. -/
theorem scanLines_append (a b : List Text) :
    scanLines config state (a ++ b) =
      scanLines config state a ++ scanLines config (stateBehind config state a) b := by
  induction a generalizing state with
  | nil => rfl
  | cons text a ih =>
    rw [List.cons_append, scanLines, ih]
    rfl

/-- Each line of a scan is read in the state behind the lines above it. -/
theorem getElem?_scanLines (texts : List Text) (index : Nat) :
    (scanLines config state texts)[index]? =
      texts[index]?.map (Line.scan config (stateBehind config state (texts.take index))) := by
  induction texts generalizing state index with
  | nil => rfl
  | cons text rest ih =>
    cases index with
    | zero => rfl
    | succ index =>
      rw [scanLines, List.getElem?_cons_succ, List.getElem?_cons_succ, ih]
      rfl

/-- The first lines of a scan are a scan of the first lines. -/
theorem take_scanLines (texts : List Text) (index : Nat) :
    (scanLines config state texts).take index = scanLines config state (texts.take index) := by
  induction texts generalizing state index with
  | nil => simp [scanLines]
  | cons text rest ih =>
    cases index with
    | zero => rfl
    | succ index => exact congrArg (_ :: ·) (ih index)

/-- The lines of a scan from an index on are a scan from the state behind the lines above. -/
theorem drop_scanLines (texts : List Text) (index : Nat) :
    (scanLines config state texts).drop index =
      scanLines config (stateBehind config state (texts.take index)) (texts.drop index) := by
  induction texts generalizing state index with
  | nil => simp [scanLines]
  | cons text rest ih =>
    cases index with
    | zero => rfl
    | succ index => exact ih index

@[simp] theorem length_scanLines (texts : List Text) :
    (scanLines config state texts).length = texts.length := by
  rw [← List.length_map (f := Line.text), map_text_scanLines]

/-! ## Reading again -/

namespace Document

/-- Where no line has changed, reading a scan again from another state gives the scan from that
state: the lines that are kept begin in the state in which they would be read. -/
theorem rereadLines_scanLines (old : State) (texts : List Text) :
    (rereadLines config state 0 (scanLines config old texts)).1 =
      scanLines config state texts := by
  induction texts generalizing state old with
  | nil => rfl
  | cons text rest ih =>
    rw [scanLines, rereadLines]
    split
    next h =>
      have hstate : old = state := h.2
      rw [hstate]
      rfl
    next => exact congrArg (_ :: ·) (ih _)

/-- Reading changed lines again, above a scan from any state, gives the scan of all the texts. -/
theorem rereadLines_append_scanLines (changed : List Line) (old : State) (texts : List Text) :
    (rereadLines config state changed.length (changed ++ scanLines config old texts)).1 =
      scanLines config state (changed.map Line.text ++ texts) := by
  induction changed generalizing state with
  | nil => exact rereadLines_scanLines old texts
  | cons line changed ih =>
    rw [List.cons_append, rereadLines, if_neg (by simp)]
    exact congrArg (_ :: ·) ih

/-! ## Current documents -/

/-- Whether what is known of the lines of a document is what a scan of them finds. -/
def Current (document : Document) : Prop :=
  document.lines =
    scanLines document.config (State.initial document.config) document.lineTexts

/-- A new document is current. -/
theorem current_ofLines (config : Config) (texts : List Text) :
    (ofLines config texts).Current := by
  rw [Current, lineTexts_ofLines]
  rfl

/-- A new document is current. -/
theorem current_ofText (config : Config) (text : Text) : (ofText config text).Current :=
  current_ofLines config text.lines

/-- The state at a line that ends a scan is the one behind the lines of the scan. -/
theorem stateAt_of_lines_eq {document : Document} {above : List Text} {below : List Line}
    (h : document.lines =
      scanLines document.config (State.initial document.config) above ++ below) :
    document.stateAt above.length =
      stateBehind document.config (State.initial document.config) above := by
  rcases List.eq_nil_or_concat above with rfl | ⟨above, text, rfl⟩
  · rfl
  · rw [List.concat_eq_append] at h ⊢
    have hline : document.lines[above.length]? = some (Line.scan document.config
        (stateBehind document.config (State.initial document.config) above) text) := by
      rw [h, List.getElem?_append_left (by simp), getElem?_scanLines]
      simp
    rw [List.length_append, List.length_singleton, stateAt, hline, stateBehind_append]
    rfl

/-- Reading a document again from the first changed line on makes it current, if the lines above
are a scan and so are those below the changed ones. -/
theorem reread_lines (document : Document) (above : List Text) (changed : List Line) (old : State)
    (below : List Text)
    (h : document.lines = scanLines document.config (State.initial document.config) above ++
      (changed ++ scanLines document.config old below)) :
    (document.reread above.length changed.length).1.lines =
      scanLines document.config (State.initial document.config)
        (above ++ (changed.map Line.text ++ below)) := by
  have hlength : (scanLines document.config (State.initial document.config) above).length =
      above.length := length_scanLines above
  rw [reread, stateAt_of_lines_eq h, h, List.drop_left' hlength, List.take_left' hlength,
    scanLines_append, ← rereadLines_append_scanLines changed old below]

/-- A new document is what its lines come to, once all of them count as changed and are read. -/
theorem ofLines_eq_reread (config : Config) (texts : List Text) (unread : List Line)
    (h : unread.map Line.text = texts) :
    ofLines config texts = (reread ⟨config, unread⟩ 0 unread.length).1 := by
  have hlines := reread_lines ⟨config, unread⟩ [] unread (State.initial config) []
    (by simp [scanLines])
  rw [List.nil_append, List.append_nil, h] at hlines
  exact congrArg (Document.mk config) hlines.symm

/-! ## Edits -/

/-- An insertion into a list, between the part before its index and the part from there on. -/
theorem insertIdx_eq_take_append_cons_drop {α : Type} {l : List α} {index : Nat} (a : α)
    (h : index ≤ l.length) : l.insertIdx index a = l.take index ++ a :: l.drop index := by
  induction l generalizing index with
  | nil => obtain rfl : index = 0 := Nat.le_zero.1 h; rfl
  | cons b l ih =>
    cases index with
    | zero => rfl
    | succ index =>
      rw [List.insertIdx_succ_cons, ih (Nat.le_of_succ_le_succ h)]
      rfl

@[simp] theorem config_apply (document : Document) (edit : Edit) :
    (document.apply edit).1.config = document.config := by
  cases edit with
  | replace | remove => simp only [apply]; split <;> rfl
  | insert => rfl

/-- Reading a current document again, with lines changed between an index and another one below,
gives the scan of the texts that it now has. -/
theorem Current.reread_lines {document : Document} (h : document.Current) {index : Nat}
    (hindex : index ≤ document.lines.length) (changed : List Line) (below : Nat) :
    (reread ⟨document.config, document.lines.take index ++ (changed ++ document.lines.drop below)⟩
        index changed.length).1.lines =
      scanLines document.config (State.initial document.config)
        (document.lineTexts.take index ++
          (changed.map Line.text ++ document.lineTexts.drop below)) := by
  have hlength : (document.lineTexts.take index).length = index := by simp [lineTexts, hindex]
  have hread := Document.reread_lines
    ⟨document.config, document.lines.take index ++ (changed ++ document.lines.drop below)⟩
    (document.lineTexts.take index) changed
    (stateBehind document.config (State.initial document.config) (document.lineTexts.take below))
    (document.lineTexts.drop below) (by rw [← take_scanLines, ← drop_scanLines, ← h])
  rwa [hlength] at hread

/-- The lines of a current document after an edit are a scan of the texts that the edit leaves. -/
theorem Current.lines_apply {document : Document} (h : document.Current) (edit : Edit) :
    (document.apply edit).1.lines =
      scanLines document.config (State.initial document.config)
        (edit.applyTexts document.lineTexts) := by
  have hlength : document.lineTexts.length = document.lines.length := List.length_map ..
  cases edit with
  | replace index text =>
    simp only [apply, Edit.applyTexts, List.set_eq_take_append_cons_drop, hlength]
    split
    next hindex =>
      rw [List.modify_eq_take_cons_drop hindex]
      exact h.reread_lines (Nat.le_of_lt hindex) [_] (index + 1)
    next => exact h
  | insert index text =>
    have hindex : min index document.lines.length ≤ document.lines.length := Nat.min_le_right ..
    simp only [apply, Edit.applyTexts, hlength]
    rw [insertIdx_eq_take_append_cons_drop _ hindex,
      insertIdx_eq_take_append_cons_drop _ (hlength ▸ hindex)]
    exact h.reread_lines hindex [_] _
  | remove index =>
    simp only [apply, Edit.applyTexts]
    split
    next hindex =>
      rw [List.eraseIdx_eq_take_drop_succ, List.eraseIdx_eq_take_drop_succ]
      exact h.reread_lines (Nat.le_of_lt hindex) [] (index + 1)
    next hindex =>
      rw [List.eraseIdx_of_length_le (hlength ▸ Nat.le_of_not_lt hindex)]
      exact h

/-- An edit changes the texts of the lines and nothing else. -/
theorem Current.lineTexts_apply {document : Document} (h : document.Current) (edit : Edit) :
    (document.apply edit).1.lineTexts = edit.applyTexts document.lineTexts := by
  rw [lineTexts, h.lines_apply, map_text_scanLines]

/-- An edit keeps a document current. -/
theorem Current.apply {document : Document} (h : document.Current) (edit : Edit) :
    (document.apply edit).1.Current := by
  rw [Current, h.lines_apply, h.lineTexts_apply, config_apply]

/-! ## Runs of edits -/

/-- Edits change no settings. -/
theorem config_applyAll (document : Document) (edits : List Edit) :
    (document.applyAll edits).config = document.config := by
  induction edits generalizing document with
  | nil => rfl
  | cons edit edits ih => exact (ih _).trans (config_apply document edit)

/-- A run of edits keeps a document current, and its lines have the texts that the edits leave. -/
theorem Current.applyAll {document : Document} (h : document.Current) (edits : List Edit) :
    (document.applyAll edits).Current ∧
      (document.applyAll edits).lineTexts = edits.foldl Edit.applyTexts document.lineTexts := by
  induction edits generalizing document with
  | nil => exact ⟨h, rfl⟩
  | cons edit edits ih =>
    obtain ⟨hcurrent, htexts⟩ := ih (h.apply edit)
    refine ⟨hcurrent, htexts.trans ?_⟩
    rw [h.lineTexts_apply, List.foldl_cons]

/-- In a current document each line is known as it is read in the state behind the lines above. -/
theorem Current.getElem?_lines {document : Document} (h : document.Current) (index : Nat) :
    document.lines[index]? = document.lineTexts[index]?.map (Line.scan document.config
      (stateBehind document.config (State.initial document.config)
        (document.lineTexts.take index))) := by
  conv => lhs; rw [h]
  exact getElem?_scanLines ..

/-- In a current document the state at an index is the one behind the lines above it. -/
theorem Current.stateAt {document : Document} (h : document.Current) {index : Nat}
    (hindex : index ≤ document.lines.length) :
    document.stateAt index = stateBehind document.config (State.initial document.config)
      (document.lineTexts.take index) := by
  have hlength : (document.lineTexts.take index).length = index := by simp [lineTexts, hindex]
  have hlines : document.lines = scanLines document.config (State.initial document.config)
      (document.lineTexts.take index) ++ document.lines.drop index := by
    rw [← take_scanLines, ← h, List.take_append_drop]
  have hstate := stateAt_of_lines_eq hlines
  rwa [hlength] at hstate

/-- The hint for a line is the one for its text in the state at its index. -/
theorem indentHint_eq {document : Document} {index : Nat} {text : Text}
    (htext : document.lineTexts[index]? = some text) :
    document.indentHint index = ((document.stateAt index).indent document.config text).1 := by
  obtain ⟨line, hline, rfl⟩ : ∃ line, document.lines[index]? = some line ∧ line.text = text := by
    rwa [lineTexts, List.getElem?_map, Option.map_eq_some_iff] at htext
  rw [indentHint, hline]

/-- In a current document the state known before a line is the state at its index. -/
theorem Current.before_eq_stateAt {document : Document} (h : document.Current) {index : Nat}
    {line : Line} (hline : document.lines[index]? = some line) :
    line.before = document.stateAt index := by
  obtain ⟨hindex, -⟩ := List.getElem?_eq_some_iff.1 hline
  rw [h.stateAt (Nat.le_of_lt hindex)]
  rw [h.getElem?_lines, Option.map_eq_some_iff] at hline
  obtain ⟨text, -, rfl⟩ := hline
  rfl

/-- **Reading after edits is reading in full.** After any edits of a document, its lines have the
texts that the edits leave, and the spans and states of each line, and the state at each index, are
the ones that a scan of all these texts from the start comes to. -/
theorem applyAll_ofText (config : Config) (text : Text) (edits : List Edit) :
    let document := (ofText config text).applyAll edits
    let texts := edits.foldl Edit.applyTexts text.lines
    document.lineTexts = texts ∧
      (∀ index line, document.lines[index]? = some line →
        line.before = stateBehind config (State.initial config) (texts.take index) ∧
          (line.spans, line.after) = highlight config line.before line.text) ∧
      ∀ index ≤ texts.length,
        document.stateAt index =
          stateBehind config (State.initial config) (texts.take index) := by
  intro document texts
  have h : document.Current ∧ document.lineTexts = texts := by
    obtain ⟨hcurrent, htexts⟩ := (current_ofText config text).applyAll edits
    rw [ofText, lineTexts_ofLines] at htexts
    exact ⟨hcurrent, htexts⟩
  obtain ⟨hcurrent, htexts⟩ := h
  have hconfig : document.config = config := config_applyAll (ofText config text) edits
  refine ⟨htexts, ?_, ?_⟩
  · intro index line hline
    rw [hcurrent.getElem?_lines, Option.map_eq_some_iff, htexts, hconfig] at hline
    obtain ⟨text, -, rfl⟩ := hline
    exact ⟨rfl, rfl⟩
  · intro index hindex
    have hlength : texts.length = document.lines.length := by
      rw [← htexts, lineTexts, List.length_map]
    rw [hcurrent.stateAt (hlength ▸ hindex), htexts, hconfig]

end Document

end

end SyntaxMode
