import SyntaxMode.Document.Basic

/-!
# Editing a document

An edit replaces, inserts or removes one line and reads again as few lines as it can: from the
changed line on, until a line below it begins in the state in which it was read before. All that
follows would be read as it was, so it stays. The answer is the range of lines that were read.
-/

namespace SyntaxMode

/-- A run of line indexes, from `start` up to but not including `stop`. -/
structure LineRange where
  start : Nat
  stop : Nat
  deriving DecidableEq, Repr

/-- A change to one line of a document. -/
inductive Edit where
  /-- Gives a line another text. -/
  | replace (line : Nat) (text : Text)
  /-- Puts a new line before a line, or behind the last one. -/
  | insert (line : Nat) (text : Text)
  /-- Removes a line. -/
  | remove (line : Nat)
  deriving DecidableEq, Repr

namespace Document

/-- Reads lines again from a state on: the first `changed` of them in any case, and then on to the
first line that has been read in the state it now begins in. Answers the lines, and how many of
them were read. -/
def rereadLines (config : Config) (state : State) (changed : Nat) : List Line → List Line × Nat
  | [] => ([], 0)
  | line :: rest =>
    if changed = 0 ∧ line.before = state then (line :: rest, 0)
    else
      let line := Line.scan config state line.text
      let (rest, count) := rereadLines config line.after (changed - 1) rest
      (line :: rest, count + 1)

/-- Reads the lines of a document again from an index on, of which the first `changed` have
changed. -/
def reread (document : Document) (index changed : Nat) : Document × LineRange :=
  let (lines, count) := rereadLines document.config (document.stateAt index) changed
    (document.lines.drop index)
  ({ document with lines := document.lines.take index ++ lines }, ⟨index, index + count⟩)

/-- Makes an edit, and answers which lines were read again. An edit of a line that does not exist
changes nothing, except that a line inserted behind the last one goes to the end. -/
def apply (document : Document) : Edit → Document × LineRange
  | .replace index text =>
    if index < document.lines.length then
      let change (line : Line) : Line := { line with text }
      { document with lines := document.lines.modify index change }.reread index 1
    else (document, ⟨index, index⟩)
  | .insert index text =>
    let index := min index document.lines.length
    let state := document.stateAt index
    let line : Line := { text, spans := [], before := state, after := state }
    { document with lines := document.lines.insertIdx index line }.reread index 1
  | .remove index =>
    if index < document.lines.length then
      { document with lines := document.lines.eraseIdx index }.reread index 0
    else (document, ⟨index, index⟩)

/-- The document after a run of edits. -/
def applyAll (document : Document) (edits : List Edit) : Document :=
  edits.foldl (fun document edit => (document.apply edit).1) document

end Document

end SyntaxMode
