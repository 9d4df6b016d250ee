import SyntaxMode.Proofs.Document.FullScan
import SyntaxMode.Proofs.Reindent.Basic
import SyntaxMode.Proofs.State.Hint

/-!
# Indenting the lines of a document

An editor indents a document line by line: it asks for the hint of a line and edits the line as the
hint says. Indenting a text does the same in one pass, but where the document asks for a hint in a
copy of a state, the pass goes on in the state that the hint leaves. Only the end of an arm could
tell the two apart, and the line that the hint is for ends the arm as well when it begins
(`highlight_indent`). So behind an indented line the pass is in the state of the document
(`after_ofLine`), and both come to the same text (`text_indentUpTo`).
-/

namespace SyntaxMode

/-- The states that indenting lines goes through: the one before each line, and the one behind the
last. -/
def indentStates (config : Config) (state : State) (lines : List Text) : List State :=
  state :: (indentLines config state lines).map IndentedLine.after

/-- What an editor makes of the text of a line when it is told where the line should begin. Without
a column the text stays, a blank line becomes empty, and any other gets that many spaces in place
of the blanks it begins with. -/
def IndentHint.follow (text : Text) : IndentHint → Text
  | .defer => text
  | .column width =>
    if text.isAllBlank then [] else List.replicate width.toNat ' ' ++ text.trimStart

/-- An editor follows a hint as the pass over a text does. -/
theorem IndentHint.follow_eq_indentLine (hint : IndentHint) (text : Text) :
    hint.follow text = hint.indentLine text := by
  cases hint with
  | defer => rfl
  | column width =>
    rw [follow, indentLine]
    exact if_congr Text.trimStart_eq_nil_iff.symm rfl rfl

namespace Document

/-- The document with the line of an index indented as its hint says. -/
def indentAt (document : Document) (index : Nat) : Document :=
  match document.lines[index]? with
  | some line =>
    (document.apply (.replace index ((document.indentHint index).follow line.text))).1
  | none => document

/-- The document with its first lines indented, one after the other. -/
def indentUpTo (document : Document) (count : Nat) : Document :=
  (List.range count).foldl indentAt document

end Document

/-! ## Reading a line after its hint -/

section
variable (config : Config)

/-- **Reading an indented line after its hint.** It makes no difference whether the line is read in
the state in which its hint was asked for or in the one that the hint leaves. -/
theorem highlight_indent (state : State) (line : Text) :
    let (hint, after) := state.indent config line
    highlight config after (hint.indentLine line) =
      highlight config state (hint.indentLine line) := by
  show highlight config (state.indent config line).2
      ((state.indent config line).1.indentLine line) =
    highlight config state ((state.indent config line).1.indentLine line)
  by_cases hblank : line.trimStart = []
  · rw [State.indent_of_trimStart_eq_nil config state hblank]
  · refine highlight_congr config ?_ (state.enterLine_indent config line)
    intro hnil
    have htrim := (state.indent config line).1.trimStart_indentLine line
    rw [hnil, Text.trimStart_nil] at htrim
    exact hblank htrim.symm

/-- The state behind an indented line is the one in which a scan leaves it. -/
theorem after_ofLine (state : State) (line : Text) :
    (IndentedLine.ofLine config state line).after =
      (highlight config state (IndentedLine.ofLine config state line).text).2 :=
  congrArg Prod.snd (highlight_indent config state line)

/-! ## Indented lines one by one -/

/-- A line of an indented text is the old one, indented in the state behind the new ones above
it. -/
theorem getElem?_indentedTexts (state : State) (lines : List Text) (index : Nat) :
    (indentedTexts config state lines)[index]? =
      lines[index]?.map fun line => (IndentedLine.ofLine config
        (stateBehind config state ((indentedTexts config state lines).take index)) line).text := by
  induction lines generalizing state index with
  | nil => rfl
  | cons line lines ih =>
    cases index with
    | zero => rfl
    | succ index =>
      rw [indentedTexts_cons, List.getElem?_cons_succ, ih, List.getElem?_cons_succ,
        List.take_succ_cons, after_ofLine]
      rfl

/-- The pass goes through the states in which a scan of the indented lines is. -/
theorem getElem?_indentStates (state : State) {lines : List Text} {index : Nat}
    (h : index ≤ lines.length) :
    (indentStates config state lines)[index]? =
      some (stateBehind config state ((indentedTexts config state lines).take index)) := by
  induction lines generalizing state index with
  | nil =>
    obtain rfl : index = 0 := Nat.le_zero.1 h
    rfl
  | cons line lines ih =>
    cases index with
    | zero => rfl
    | succ index =>
      rw [indentedTexts_cons, List.take_succ_cons]
      refine (ih _ (Nat.le_of_succ_le_succ h)).trans ?_
      rw [after_ofLine]
      rfl

end

/-! ## Documents -/

namespace Document

/-- Indenting one more line. -/
theorem indentUpTo_succ (document : Document) (count : Nat) :
    document.indentUpTo (count + 1) = (document.indentUpTo count).indentAt count := by
  rw [indentUpTo, List.range_succ, List.foldl_append]
  rfl

@[simp] theorem config_indentUpTo (document : Document) (count : Nat) :
    (document.indentUpTo count).config = document.config := by
  induction count with
  | zero => rfl
  | succ count ih =>
    rw [indentUpTo_succ, indentAt]
    split
    · rw [config_apply, ih]
    · exact ih

/-- The hint for a line of a current document is the one that the pass over its text finds behind
the same lines, and an edit that follows it keeps the document current. -/
theorem Current.indentAt {document : Document} (h : document.Current) {index : Nat} {text : Text}
    (htext : document.lineTexts[index]? = some text) :
    let state := stateBehind document.config (State.initial document.config)
      (document.lineTexts.take index)
    (document.indentAt index).Current ∧
      (document.indentAt index).lineTexts =
        document.lineTexts.set index (IndentedLine.ofLine document.config state text).text := by
  intro state
  have hhint := indentHint_eq htext
  obtain ⟨line, hline, rfl⟩ : ∃ line, document.lines[index]? = some line ∧ line.text = text := by
    rwa [lineTexts, List.getElem?_map, Option.map_eq_some_iff] at htext
  have hindex : index < document.lines.length := (List.getElem?_eq_some_iff.1 hline).1
  rw [h.stateAt (Nat.le_of_lt hindex)] at hhint
  rw [Document.indentAt, hline]
  refine ⟨h.apply _, ?_⟩
  rw [h.lineTexts_apply, hhint, IndentHint.follow_eq_indentLine]
  rfl

/-- Changing the first of the entries of a list that are left to the one of another list. -/
theorem set_take_append_drop {α : Type} {new old : List α} {index : Nat} {a : α}
    (ha : new[index]? = some a) (hindex : index < old.length) :
    (new.take index ++ old.drop index).set index a =
      new.take (index + 1) ++ old.drop (index + 1) := by
  obtain ⟨hlt, rfl⟩ := List.getElem?_eq_some_iff.1 ha
  have htake : (new.take index).length = index := by simp; omega
  rw [List.set_append_right index _ (Nat.le_of_eq htake), htake, Nat.sub_self,
    List.drop_eq_getElem_cons hindex, List.set_cons_zero, List.take_succ_eq_append_getElem hlt,
    List.append_assoc]
  rfl

/-- **Indenting one line after the other.** The lines that have been indented have the texts
that indenting the whole text gives them, the others are as they were, and all is known as it is
read. -/
theorem indentUpTo_ofLines (config : Config) (texts : List Text) {count : Nat}
    (hcount : count ≤ texts.length) :
    ((ofLines config texts).indentUpTo count).Current ∧
      ((ofLines config texts).indentUpTo count).lineTexts =
        (indentedTexts config (State.initial config) texts).take count ++ texts.drop count := by
  induction count with
  | zero => exact ⟨current_ofLines config texts, lineTexts_ofLines config texts⟩
  | succ count ih =>
    obtain ⟨hcurrent, htexts⟩ := ih (Nat.le_of_succ_le hcount)
    have hconfig : ((ofLines config texts).indentUpTo count).config = config :=
      config_indentUpTo (ofLines config texts) count
    have htake :
        ((indentedTexts config (State.initial config) texts).take count).length = count := by
      rw [List.length_take, length_indentedTexts]
      exact Nat.min_eq_left (Nat.le_of_succ_le hcount)
    -- The line that is indented now is still the old one, and those above it are indented.
    have htext : ((ofLines config texts).indentUpTo count).lineTexts[count]? =
        some texts[count] := by
      rw [htexts, List.getElem?_append_right (Nat.le_of_eq htake), htake, Nat.sub_self,
        List.getElem?_drop]
      exact List.getElem?_eq_getElem hcount
    have hindented := getElem?_indentedTexts config (State.initial config) texts count
    rw [List.getElem?_eq_getElem hcount, Option.map_some] at hindented
    obtain ⟨hnext, hnextTexts⟩ := hcurrent.indentAt htext
    rw [hconfig, htexts, List.take_left' htake, set_take_append_drop hindented hcount]
      at hnextTexts
    rw [indentUpTo_succ]
    exact ⟨hnext, hnextTexts⟩

/-- **Indenting a document line by line is indenting its text.** An editor that goes through a
document from the first line to the last, and edits each line as its hint says, ends with the text
that indenting the whole text gives. Before each line the document has the state that the pass over
the text has there, both when that line is reached and in the end. -/
theorem text_indentUpTo (config : Config) (text : Text) :
    let document := ofText config text
    let count := document.lines.length
    (document.indentUpTo count).text = reindent config text ∧
      ∀ index ≤ count,
        (indentStates config (State.initial config) text.lines)[index]? =
            some ((document.indentUpTo index).stateAt index) ∧
          (document.indentUpTo index).stateAt index =
            (document.indentUpTo count).stateAt index := by
  intro document count
  have hcount : count = text.lines.length := length_scanLines text.lines
  have hstate {reached index : Nat} (hreached : reached ≤ count) (hindex : index ≤ reached) :
      (document.indentUpTo reached).stateAt index = stateBehind config (State.initial config)
        ((indentedTexts config (State.initial config) text.lines).take index) := by
    obtain ⟨hcurrent, htexts⟩ := indentUpTo_ofLines config text.lines (hcount ▸ hreached)
    have hlength : ((ofLines config text.lines).indentUpTo reached).lines.length =
        text.lines.length := by
      have hlength := congrArg List.length htexts
      rw [lineTexts, List.length_map] at hlength
      rw [hlength]
      simp
      omega
    have hlines : index ≤ ((ofLines config text.lines).indentUpTo reached).lines.length := by omega
    have hat := hcurrent.stateAt hlines
    rw [htexts, config_indentUpTo, List.take_append_of_le_length (by simp; omega),
      List.take_take, Nat.min_eq_left hindex] at hat
    exact hat
  refine ⟨?_, ?_⟩
  · obtain ⟨-, htexts⟩ := indentUpTo_ofLines config text.lines (Nat.le_of_eq hcount)
    rw [List.drop_of_length_le (Nat.le_of_eq hcount.symm), List.append_nil,
      List.take_of_length_le (by simp; omega)] at htexts
    exact congrArg Text.joinLines htexts
  · intro index hindex
    rw [hstate hindex (Nat.le_refl index), hstate (Nat.le_refl count) hindex]
    exact ⟨getElem?_indentStates config _ (hcount ▸ hindex), rfl⟩

end Document

end SyntaxMode
