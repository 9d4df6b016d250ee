import SyntaxMode.Highlight
import SyntaxMode.Indent

/-!
# Documents

A document is a buffer with what is known of each of its lines: the spans, and the states before
and behind the line. `scanLines` finds all of that by reading the lines from the first to the last,
each in the state that the one before it leaves.
-/

namespace SyntaxMode

/-- A line of a buffer and what is known of it. -/
structure Line where
  text : Text
  spans : List Span
  /-- The state before the line. -/
  before : State
  /-- The state behind the line. -/
  after : State
  deriving DecidableEq, Repr

/-- The line of a text that begins in a state. -/
def Line.scan (config : Config) (state : State) (text : Text) : Line :=
  let (spans, after) := highlight config state text
  { text, spans, before := state, after }

/-- The lines of texts that are read one after the other from a state on. -/
def scanLines (config : Config) (state : State) : List Text → List Line
  | [] => []
  | text :: rest =>
    let line := Line.scan config state text
    line :: scanLines config line.after rest

/-- Reading lines keeps their texts. -/
@[simp] theorem map_text_scanLines (config : Config) (state : State) (texts : List Text) :
    (scanLines config state texts).map Line.text = texts := by
  induction texts generalizing state with
  | nil => rfl
  | cons text rest ih => simp only [scanLines, List.map_cons, ih]; rfl

/-- A buffer and what is known of its lines. -/
structure Document where
  config : Config
  lines : List Line
  deriving DecidableEq, Repr

namespace Document

/-- The document of a list of lines. -/
def ofLines (config : Config) (lines : List Text) : Document :=
  ⟨config, scanLines config (State.initial config) lines⟩

/-- The document of a text. -/
def ofText (config : Config) (text : Text) : Document := ofLines config text.lines

/-- The texts of the lines. -/
def lineTexts (document : Document) : List Text := document.lines.map Line.text

/-- The text of the document, without a line feed at its end. -/
def text (document : Document) : Text := Text.joinLines document.lineTexts

/-- The state before the line of an index, which is the one behind the line above it. Where there
is no line above, it is the state in which a buffer starts. -/
def stateAt (document : Document) (index : Nat) : State :=
  match index with
  | 0 => State.initial document.config
  | above + 1 =>
    match document.lines[above]? with
    | some line => line.after
    | none => State.initial document.config

/-- The hint for the line of an index; a line that does not exist counts as empty. -/
def indentHint (document : Document) (index : Nat) : IndentHint :=
  let text := match document.lines[index]? with
    | some line => line.text
    | none => []
  ((document.stateAt index).indent document.config text).1

/-- A document has the lines it was made of. -/
@[simp] theorem lineTexts_ofLines (config : Config) (lines : List Text) :
    (ofLines config lines).lineTexts = lines :=
  map_text_scanLines config (State.initial config) lines

end Document

end SyntaxMode
