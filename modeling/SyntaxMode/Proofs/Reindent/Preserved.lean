import SyntaxMode.Proofs.Document.FullScan
import SyntaxMode.Proofs.Reindent.Basic

/-!
# What indenting preserves

Three scans are kept in step: that of the text, the one that indents it, and that of the indented
text. Before each line their states enter lines alike, so the lines are hinted at, lexed and nested
in the same way, although blank lines are read in one scan and are empty in another.
`forall_indentedTexts` carries this from line to line, and `reindent_preserves` says what it means
for the documents of the two texts.
-/

namespace SyntaxMode

open State

/-- What a line and the same line indented again have in common. -/
structure Line.IndentedFrom (old new : Line) : Prop where
  before : EntersLike new.before old.before
  after : EntersLike new.after old.after
  trimStart : new.text.trimStart = old.text.trimStart
  /-- A line that begins inside a string or a comment stays as it is. -/
  text : old.before.region ≠ .code → new.text = old.text
  lexemes : new.lexemes = old.lexemes
  /-- Behind a line that is not blank the contexts agree, columns left aside. -/
  outline : old.text.trimStart ≠ [] → new.after.nesting.outline = old.after.nesting.outline

section
variable (config : Config)

/-- A line that is indented in one state, and read in others that enter lines alike. -/
theorem indentedFrom_scan {state old new : State} (hold : EntersLike state old)
    (hnew : EntersLike new old) (text : Text) :
    Line.IndentedFrom (Line.scan config old text)
      (Line.scan config new (IndentedLine.ofLine config state text).text) where
  before := hnew
  after := hnew.highlight (IndentedLine.trimStart_text_ofLine config state text)
  trimStart := IndentedLine.trimStart_text_ofLine config state text
  text h := by
    have hindent : state.indent config text = (.defer, state) := if_pos (hold.region ▸ h)
    show (IndentedLine.ofLine config state text).text = text
    rw [IndentedLine.text_ofLine, hindent]
    rfl
  lexemes := by
    rw [lexemes_scan, lexemes_scan]
    exact (lexemesOf_lineTokens_congr config config hnew.region
      (IndentedLine.trimStart_text_ofLine config state text)).1
  outline h := hnew.outline_highlight (IndentedLine.trimStart_text_ofLine config state text)
    (by rwa [IndentedLine.trimStart_text_ofLine])

/-- The scans of lines and of the same lines indented go in step. -/
theorem indentedFrom_scanLines {config : Config} {state old new : State}
    (hold : EntersLike state old) (hnew : EntersLike new old) (texts : List Text)
    (index : Nat) {oldLine newLine : Line}
    (holdLine : (scanLines config old texts)[index]? = some oldLine)
    (hnewLine : (scanLines config new (indentedTexts config state texts))[index]? = some newLine) :
    oldLine.IndentedFrom newLine := by
  induction texts generalizing state old new index with
  | nil => cases holdLine
  | cons text texts ih =>
    have hline := indentedFrom_scan config hold hnew text
    rw [indentedTexts_cons, scanLines] at hnewLine
    cases index with
    | zero =>
      cases holdLine
      cases hnewLine
      exact hline
    | succ index =>
      exact ih (entersLike_after_ofLine config text hold) hline.after index holdLine hnewLine

/-- **Indenting a text preserves the program.** If no piece of a text ends in two carriage returns,
the text and the indented text have as many lines, and each two corresponding lines differ only in
leading blanks, and not at all if they begin inside a string or a comment; their lexemes have the
same texts and styles; they begin in the same region, inside as many brackets; and behind a line
that is not blank, the contexts have the same kinds and the same alignment. -/
theorem reindent_preserves (text : Text)
    (h : ∀ piece ∈ text.splitOn '\n', ¬ ['\r', '\r'] <:+ piece) :
    let source := Document.ofText config text
    let result := Document.ofText config (reindent config text)
    source.lines.length = result.lines.length ∧
      ∀ index old new, source.lines[index]? = some old → result.lines[index]? = some new →
        new.text.trimStart = old.text.trimStart ∧
        ((source.stateAt index).region ≠ .code → new.text = old.text) ∧
        new.lexemes = old.lexemes ∧
        (result.stateAt index).region = (source.stateAt index).region ∧
        (result.stateAt index).depth = (source.stateAt index).depth ∧
        (old.text.isAllBlank = false → new.after.nesting.shape = old.after.nesting.shape) := by
  intro source result
  have hlines : result.lines = scanLines config (State.initial config)
      (indentedTexts config (State.initial config) text.lines) := by
    rw [← lines_reindent fun piece => getLast?_of_mem_splitOn_reindent h]
    rfl
  refine ⟨?_, ?_⟩
  · rw [hlines, length_scanLines, length_indentedTexts]
    exact length_scanLines text.lines
  · intro index old new hold hnew
    have hline : old.IndentedFrom new :=
      indentedFrom_scanLines (.refl (State.initial config)) (.refl (State.initial config))
        text.lines index hold (hlines ▸ hnew)
    have hbefore : old.before = source.stateAt index :=
      (Document.current_ofText config text).before_eq_stateAt hold
    have hbefore' : new.before = result.stateAt index :=
      (Document.current_ofText config (reindent config text)).before_eq_stateAt hnew
    rw [← hbefore, ← hbefore']
    refine ⟨hline.trimStart, hline.text, hline.lexemes, hline.before.region,
      hline.before.depth_eq, ?_⟩
    intro hblank
    rw [← Nesting.shape_outline, hline.outline (Text.trimStart_ne_nil hblank),
      Nesting.shape_outline]

/-- The theorem at a text with a blank line, an arm, and a string that runs over two lines. -/
theorem reindent_preserves_switch :
    let text : Text := Text.joinLines [['{', '\r'], "  \r".toList, "\tcase 1: \"a".toList,
      "  b\";".toList, [' ', '}']]
    (∀ piece ∈ text.splitOn '\n', ¬ ['\r', '\r'] <:+ piece) ∧
      ∀ (index : Nat) (old new : Line),
        (Document.ofText {} text).lines[index]? = some old →
          (Document.ofText {} (reindent {} text)).lines[index]? = some new →
          new.lexemes = old.lexemes := by
  intro text
  have h : ∀ piece ∈ text.splitOn '\n', ¬ ['\r', '\r'] <:+ piece := by decide
  exact ⟨h, fun index old new hold hnew =>
    ((reindent_preserves {} _ h).2 index old new hold hnew).2.2.1⟩

end

end SyntaxMode
