import SyntaxMode.Indent
import SyntaxMode.Proofs.Token.Lexing

/-!
# Hints between lines

Asking for the hint for a line may end an arm, and it changes nothing else. A line that is not
empty ends the arm as well, before anything of it is read (`enterLine_indent`), so the line is read
in the same way whether a hint was asked for or not (`highlight_congr`). Only empty lines carry the
difference on, because they do not touch the state. `EntersAs` says that a line cannot tell two
states apart; requests keep two sessions of an editor related by it (`EntersAs.serve`), one with
hints and one without (`hints_leave_no_trace`).
-/

namespace SyntaxMode

namespace State

/-- Whether a line that is not empty begins in the same way in two states. -/
def EntersAs (a b : State) : Prop :=
  ∀ indentation, a.enterLine indentation = b.enterLine indentation

/-- A state enters every line as itself. -/
theorem EntersAs.refl (state : State) : EntersAs state state := fun _ => rfl

/-- Where one state enters every line as a second one does, and that as a third one does, the first
enters every line as the third. -/
theorem EntersAs.trans {a b c : State} (h : EntersAs a b) (h' : EntersAs b c) : EntersAs a c :=
  fun indentation => (h indentation).trans (h' indentation)

variable (config : Config) (state : State)

/-- Asking for a hint changes nothing that a line does not change when it begins. -/
theorem enterLine_indent (text : Text) : EntersAs (state.indent config text).2 state := by
  intro indentation
  rw [indent]
  split
  · rfl
  · simp only
    split
    · obtain ⟨region, ⟨outside, _ | ⟨context, outer⟩⟩, indented, freshLine⟩ := state <;>
        simp [enterLine, Nesting.modify, Context.atLineStart, Context.endArm]
    · rfl

/-- The hint for a blank line changes nothing. -/
theorem indent_of_trimStart_eq_nil {text : Text} (h : text.trimStart = []) :
    (state.indent config text).2 = state := by
  have harm : ¬ (state.context.kind = .arm ∧ text.trimStart.startsArm = true) := by
    rw [h]
    exact fun harm => Bool.noConfusion harm.2
  rw [indent]
  split
  · rfl
  · simp only [if_neg harm]

end State

/-- A line that is not empty is read in the same way from states in which it begins in the same
way. -/
theorem highlight_congr (config : Config) {state state' : State} {line : Text} (hline : line ≠ [])
    (h : State.EntersAs state state') :
    highlight config state line = highlight config state' line := by
  have hahead : (Cursor.ofLine line).ahead ≠ [] := hline
  have hread : Token.read config (Cursor.ofLine line) state =
      Token.read config (Cursor.ofLine line) state' := by
    have hstart : state.atCursor config.tabSize (Cursor.ofLine line).begin =
        state'.atCursor config.tabSize (Cursor.ofLine line).begin := h _
    simp only [Token.read, hstart]
  simp only [highlight, lineTokens, tokens_of_ahead_ne_nil config _ hahead, stateAfter_cons, hread]

/-! ## Sessions -/

/-- A request of an editor that goes down a text. -/
inductive Request where
  /-- For the hint for a line with a given text. -/
  | hint (text : Text)
  /-- For the spans of the next line. -/
  | line (text : Text)

namespace Request

/-- Whether a request reads a line. -/
def isLine : Request → Bool
  | hint _ => false
  | line _ => true

/-- The spans of the lines that requests read one after the other from a state on, and the state
behind them. -/
def serve (config : Config) (state : State) : List Request → List (List Span) × State
  | [] => ([], state)
  | hint text :: rest => serve config (state.indent config text).2 rest
  | line text :: rest =>
    let (spans, after) := highlight config state text
    let (shown, last) := serve config after rest
    (spans :: shown, last)

end Request

namespace State

variable {a b : State}

/-- A line keeps two states alike, and shows the same in both. -/
theorem EntersAs.highlight (h : EntersAs a b) (config : Config) (line : Text) :
    (highlight config a line).1 = (highlight config b line).1 ∧
      EntersAs (highlight config a line).2 (highlight config b line).2 := by
  by_cases hline : line = []
  · -- An empty line is not read, so that the states stay as they are.
    rw [hline, highlight_nil, highlight_nil]
    exact ⟨rfl, h⟩
  · rw [highlight_congr config hline h]
    exact ⟨rfl, .refl _⟩

/-- Leaving out the hints of a session changes nothing of what it shows. -/
theorem EntersAs.serve (h : EntersAs a b) (config : Config) (requests : List Request) :
    (Request.serve config a requests).1 =
        (Request.serve config b (requests.filter Request.isLine)).1 ∧
      EntersAs (Request.serve config a requests).2
        (Request.serve config b (requests.filter Request.isLine)).2 := by
  induction requests generalizing a b with
  | nil => exact ⟨rfl, h⟩
  | cons request requests ih =>
    cases request with
    | hint text => exact ih ((a.enterLine_indent config text).trans h)
    | line text =>
      obtain ⟨hspans, hafter⟩ := h.highlight config text
      obtain ⟨hshown, hlast⟩ := ih hafter
      exact ⟨congrArg₂ List.cons hspans hshown, hlast⟩

end State

/-- **Hints leave no trace.** A line that is not empty has the same spans, and leaves the same
state, whether or not a hint for any text was asked for before it. The same holds of a whole
session, with any number of hints for any texts between any lines: without the hints its lines have
the same spans, and a line that is not empty then leaves the same state. -/
theorem hints_leave_no_trace (config : Config) (state : State) {line : Text} (h : line ≠ []) :
    (∀ text, highlight config (state.indent config text).2 line = highlight config state line) ∧
      ∀ requests : List Request,
        let asked := Request.serve config state requests
        let unasked := Request.serve config state (requests.filter Request.isLine)
        asked.1 = unasked.1 ∧ highlight config asked.2 line = highlight config unasked.2 line := by
  refine ⟨fun text => highlight_congr config h (state.enterLine_indent config text), ?_⟩
  intro requests asked unasked
  obtain ⟨hshown, hlast⟩ := (State.EntersAs.refl state).serve config requests
  exact ⟨hshown, highlight_congr config h hlast⟩

/-- The theorem below an arm, where the hint for another arm does change the state, and with an
empty line behind the hint. -/
theorem hints_leave_no_trace_arm :
    let arms : List Request := [.line r"switch x {".toList, .line "case 1: y".toList]
    let state := (Request.serve {} (State.initial {}) arms).2
    let next := "  case 2: \"z".toList
    next ≠ [] ∧ (state.indent {} "case".toList).2 ≠ state ∧
      highlight {} (state.indent {} "case".toList).2 next = highlight {} state next ∧
      highlight {} (Request.serve {} state [.hint "case".toList, .line []]).2 next =
        highlight {} (Request.serve {} state [.line []]).2 next := by
  intro arms state next
  have hnext : next ≠ [] := by decide
  have harm : (state.indent {} "case".toList).2 ≠ state := by decide +kernel
  obtain ⟨hhint, hsession⟩ := hints_leave_no_trace {} state hnext
  exact ⟨hnext, harm, hhint _, (hsession [.hint "case".toList, .line []]).2⟩

end SyntaxMode
