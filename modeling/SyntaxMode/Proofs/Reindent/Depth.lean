import SyntaxMode.Proofs.Document.FullScan
import SyntaxMode.Proofs.Nesting.BlockLine
import SyntaxMode.Proofs.Reindent.Basic

/-!
# Indenting block-structured code

In block-structured code, a bracket either has its partner on its own line or it begins or ends a
block: then it is the first lexeme of its line, or the last one apart from comments. Indenting such
code puts each line at one indent unit for each bracket that is open before it, less one unit if
the line begins with a closing bracket (`reindent_blockStructured`). The invariant that carries
this from line to line is that the nesting of the indented lines is stepped.
-/

namespace SyntaxMode

open State Nesting

/-- Whether a text starts with a closing bracket. -/
def Text.startsWithCloser (text : Text) : Bool :=
  text.head?.any fun c => (Delimiter.ofCloser? c).isSome

/-- What is asked of a line of block-structured code. -/
structure Line.BlockStructured (line : Line) : Prop where
  /-- No word opens an arm of a `switch`. -/
  noArm : ∀ fragment ∈ line.lexemes, fragment.effect? ≠ some .arm
  /-- A bracket without a partner on the line begins or ends a block. -/
  block : BlockLine line.lexemes
  /-- If the line begins inside a string or a comment, each bracket has its partner on it. -/
  enclosed : line.before.region ≠ .code → Enclosed line.lexemes

instance (line : Line) : Decidable line.BlockStructured :=
  decidable_of_iff
    ((∀ fragment ∈ line.lexemes, fragment.effect? ≠ some .arm) ∧ BlockLine line.lexemes ∧
      (line.before.region ≠ .code → Enclosed line.lexemes))
    ⟨fun h => ⟨h.1, h.2.1, h.2.2⟩, fun h => ⟨h.noArm, h.block, h.enclosed⟩⟩

/-- The brackets that are open before the line of an index, innermost first, if some are open
before the first line. -/
def openBefore (opened : List Delimiter) (lines : List Line) (index : Nat) : List Delimiter :=
  (unclosed? opened ((lines.take index).flatMap Line.lexemes)).getD []

namespace Document

/-- Whether the code of a document is block-structured. -/
structure BlockStructured (document : Document) : Prop where
  lines : ∀ line ∈ document.lines, line.BlockStructured
  /-- Each bracket that closes pairs with the innermost one that is then open. -/
  paired : (unclosed? [] (document.lines.flatMap Line.lexemes)).isSome

/-- The number of brackets that are open before the line of an index. -/
def openDepth (document : Document) (index : Nat) : Nat :=
  (openBefore [] document.lines index).length

end Document

/-! ## The bracket that a line begins with -/

/-- A text starts with a closing bracket if its first character closes a delimiter. -/
theorem Text.startsWithCloser_iff {text : Text} :
    text.startsWithCloser = true ↔
      ∃ delimiter : Delimiter, text.head? = some delimiter.closer := by
  rw [startsWithCloser, Option.any_eq_true]
  constructor
  · rintro ⟨c, hc, hcloser⟩
    obtain ⟨delimiter, hdelimiter⟩ := Option.isSome_iff_exists.1 hcloser
    exact ⟨delimiter, by rw [hc, Delimiter.ofCloser?_eq_some_iff.1 hdelimiter]⟩
  · rintro ⟨delimiter, hhead⟩
    exact ⟨delimiter.closer, hhead, by rw [Delimiter.ofCloser?_closer]; rfl⟩

section
variable {config : Config} {state scanned : State} {text : Text} {opened opened' : List Delimiter}

/-- In code, the first lexeme of a line that is not blank closes a bracket if the line begins with
a closing one. -/
theorem head?_lexemesOf_closes (hregion : state.region = .code) (hbody : text.trimStart ≠ []) :
    (lexemesOf (lineTokens config state text)).head?.any Fragment.closes =
      text.trimStart.startsWithCloser := by
  obtain ⟨fragment, rest, hlexemes, heffect⟩ :=
    exists_lexemesOf_lineTokens_eq_cons config state hbody
  rw [hregion, Lexeme.scan] at heffect
  rw [hlexemes, List.head?_cons, Option.any_some, Bool.eq_iff_iff, Fragment.closes_iff,
    Text.startsWithCloser_iff]
  apply exists_congr
  intro delimiter
  rw [heffect, Lexeme.effect_scanCode_eq_closing_iff]

/-- A line that begins with a closing bracket closes the innermost open one. -/
theorem isClosedBy_trimStart (h : state.nesting.Stepped config.indentUnit opened)
    (hregion : state.region = .code) (hbody : text.trimStart ≠ [])
    (hopened : unclosed? opened (lexemesOf (lineTokens config state text)) = some opened') :
    state.context.isClosedBy text.trimStart = text.trimStart.startsWithCloser := by
  obtain ⟨fragment, rest, hlexemes, heffect⟩ :=
    exists_lexemesOf_lineTokens_eq_cons config state hbody
  rw [hregion, Lexeme.scan] at heffect
  have hclosed : state.context.isClosedBy text.trimStart = _ := h.isClosedBy text.trimStart
  rw [hclosed, Bool.eq_iff_iff, Text.startsWithCloser_iff, Option.any_eq_true]
  constructor
  · rintro ⟨delimiter, -, hhead⟩
    exact ⟨delimiter, beq_iff_eq.1 hhead⟩
  · rintro ⟨delimiter, hhead⟩
    rw [Lexeme.effect_scanCode_eq_closing_iff.2 hhead] at heffect
    rw [hlexemes, unclosed?_cons, Fragment.unclosed?, heffect, Option.bind_eq_some_iff] at hopened
    obtain ⟨outer, hpair, -⟩ := hopened
    rw [Effect.unclosed?_closing_eq_some_iff] at hpair
    exact ⟨delimiter, by rw [hpair, List.head?_cons], beq_iff_eq.2 hhead⟩

/-! ## One line -/

/-- The hint for a line in code, where no arm can end. -/
theorem State.indent_of_noArm (hregion : state.region = .code) (harm : state.context.kind ≠ .arm) :
    state.indent config text =
      (.column (Column.ofSigned (state.context.indentation config.indentUnit text.trimStart)),
        state) := by
  rw [State.indent, if_neg (fun h => h hregion)]
  exact if_neg fun h => harm h.1

/-- **A line in code comes to stand at its depth.** -/
theorem text_ofLine_of_stepped (h : state.nesting.Stepped config.indentUnit opened)
    (hmax : config.indentUnit.toNat * opened.length ≤ 2147483647)
    (hregion : state.region = .code) (hbody : text.trimStart ≠ [])
    (hopened : unclosed? opened (lexemesOf (lineTokens config state text)) = some opened') :
    (IndentedLine.ofLine config state text).text =
      List.replicate (config.indentUnit.toNat *
        (opened.length - if text.trimStart.startsWithCloser then 1 else 0)) ' ' ++
      text.trimStart := by
  have hwidth := h.indentation hmax text.trimStart
  have hclosed := isClosedBy_trimStart h hregion hbody hopened
  rw [State.context] at hclosed
  rw [IndentedLine.text_ofLine, State.indent_of_noArm hregion h.noArm, IndentHint.indentLine,
    State.context]
  simp only [if_neg hbody]
  rw [Column.toNat_ofSigned, hwidth, hclosed, Int.toNat_natCast]

/-- Behind a line on which each bracket has its partner, the nesting is stepped as before. -/
theorem stepped_highlight_of_enclosed (h : state.nesting.Stepped config.indentUnit opened)
    (harm : ∀ fragment ∈ lexemesOf (lineTokens config state text), fragment.effect? ≠ some .arm)
    (henclosed : Enclosed (lexemesOf (lineTokens config state text))) :
    (highlight config state text).2.nesting.Stepped config.indentUnit opened := by
  by_cases hnil : text = []
  · rw [hnil, highlight_nil]
    exact h
  · exact (reads_line config state hnil).stepped_of_balanced harm henclosed.balanced h.terraced

/-- The indentation of a line that is entered behind spaces is their number. -/
theorem indented_enterLine_spaces (tabSize : UInt32) (state : State) {count : Nat}
    (h : count ≤ 2147483647) (text : Text) :
    (state.enterLine (Column.ofText tabSize
      ((List.replicate count ' ' ++ text.trimStart).takeWhile isBlank))).indented.toInt =
      count := by
  have hwidth : (Column.ofText tabSize (List.replicate count ' ')).toNat = count :=
    Column.toNat_ofText_spaces tabSize (by omega)
  rw [Text.takeWhile_spaces_append, State.enterLine, Column.toInt_toSigned, hwidth]
  omega

/-- Behind a block line in code, the nesting is stepped. -/
theorem stepped_after_ofLine_of_code (h : state.nesting.Stepped config.indentUnit opened)
    (hmax : config.indentUnit.toNat * opened.length ≤ 2147483647)
    (hregion : state.region = .code) (hbody : text.trimStart ≠ [])
    (harm : ∀ fragment ∈ lexemesOf (lineTokens config state text), fragment.effect? ≠ some .arm)
    (hblock : BlockLine (lexemesOf (lineTokens config state text)))
    (hopened : unclosed? opened (lexemesOf (lineTokens config state text)) = some opened') :
    (IndentedLine.ofLine config state text).after.nesting.Stepped config.indentUnit opened' := by
  have htext := text_ofLine_of_stepped h hmax hregion hbody hopened
  have hlexemes := (lexemesOf_lineTokens_congr config config (Eq.refl state.region)
    (IndentedLine.trimStart_text_ofLine config state text)).1
  have hne : (IndentedLine.ofLine config state text).text ≠ [] := by
    intro hnil
    have htrim := IndentedLine.trimStart_text_ofLine config state text
    rw [hnil] at htrim
    exact hbody htrim.symm
  have hreads := reads_line config state hne
  rw [hlexemes] at hreads
  rw [IndentedLine.after_ofLine, State.indent_of_noArm hregion h.noArm]
  refine hreads.stepped_of_blockLine harm hblock h.terraced ?_ hopened
  rw [htext, indented_enterLine_spaces, head?_lexemesOf_closes hregion hbody]
  exact Nat.le_trans (Nat.mul_le_mul_left _ (Nat.sub_le _ _)) hmax

/-- Behind a line of block-structured code, the nesting is stepped. -/
theorem stepped_after_ofLine (h : state.nesting.Stepped config.indentUnit opened)
    (hmax : config.indentUnit.toNat * opened.length ≤ 2147483647)
    (hline : (Line.scan config state text).BlockStructured)
    (hopened : unclosed? opened (lexemesOf (lineTokens config state text)) = some opened') :
    (IndentedLine.ofLine config state text).after.nesting.Stepped config.indentUnit opened' := by
  obtain ⟨harm, hblock, henclosed⟩ := hline
  rw [lexemes_scan] at harm hblock henclosed
  by_cases hregion : state.region = .code
  · by_cases hbody : text.trimStart = []
    · rw [lexemesOf_lineTokens_of_trimStart_eq_nil config state hbody] at hopened
      cases hopened
      rw [IndentedLine.after_ofLine, IndentedLine.text_ofLine,
        State.indent_of_noArm hregion h.noArm, IndentHint.indentLine]
      simp only [hbody, if_pos, highlight_nil]
      exact h
    · exact stepped_after_ofLine_of_code h hmax hregion hbody harm hblock hopened
  · have hindent : state.indent config text = (.defer, state) := if_pos hregion
    have hbalanced : Balanced (lexemesOf (lineTokens config state text)) :=
      (henclosed hregion).balanced
    rw [hbalanced.unclosed?_eq] at hopened
    cases hopened
    rw [IndentedLine.after_ofLine, IndentedLine.text_ofLine, hindent]
    exact stepped_highlight_of_enclosed h harm (henclosed hregion)

/-! ## All lines -/

/-- Block structure depends on the lexemes of a line and on the region in which it begins. -/
theorem Line.BlockStructured.congr {line line' : Line} (h : line.BlockStructured)
    (hregion : line.before.region = line'.before.region)
    (hlexemes : line.lexemes = line'.lexemes) :
    line'.BlockStructured := by
  obtain ⟨harm, hblock, henclosed⟩ := h
  rw [hregion, hlexemes] at henclosed
  rw [hlexemes] at harm hblock
  exact ⟨harm, hblock, henclosed⟩

/-- What is open before a line below another one is what is open once that one has been gone
through. -/
theorem openBefore_succ {line : Line} (h : unclosed? opened line.lexemes = some opened')
    (lines : List Line) (index : Nat) :
    openBefore opened (line :: lines) (index + 1) = openBefore opened' lines index := by
  rw [openBefore, List.take_succ_cons, List.flatMap_cons, unclosed?_append, h]
  rfl

/-- **Block-structured lines come to stand at their depths.** The lines are indented from a state
with a stepped nesting on, while the scan of the lines themselves goes through states that enter
lines alike. -/
theorem getElem?_indentedTexts_of_stepped (hscan : EntersLike state scanned)
    (h : state.nesting.Stepped config.indentUnit opened) (texts : List Text)
    (hlines : ∀ line ∈ scanLines config scanned texts, line.BlockStructured)
    (hpaired : (unclosed? opened ((scanLines config scanned texts).flatMap Line.lexemes)).isSome)
    (hmax : ∀ index < texts.length, config.indentUnit.toNat *
      (openBefore opened (scanLines config scanned texts) index).length ≤ 2147483647)
    {index : Nat} {line : Line} (hline : (scanLines config scanned texts)[index]? = some line)
    (hregion : line.before.region = .code) (hbody : line.text.trimStart ≠ []) :
    (indentedTexts config state texts)[index]? = some
      (List.replicate (config.indentUnit.toNat *
        ((openBefore opened (scanLines config scanned texts) index).length -
          if line.text.trimStart.startsWithCloser then 1 else 0)) ' ' ++ line.text.trimStart) := by
  induction texts generalizing state scanned opened index with
  | nil => cases hline
  | cons text texts ih =>
    have hlexemes : (Line.scan config scanned text).lexemes =
        lexemesOf (lineTokens config state text) := by
      rw [lexemes_scan]
      exact (lexemesOf_lineTokens_congr config config hscan.region.symm rfl).1
    have hfirst : (Line.scan config scanned text).BlockStructured :=
      hlines _ List.mem_cons_self
    have hdepth : config.indentUnit.toNat * opened.length ≤ 2147483647 :=
      hmax 0 (Nat.succ_pos _)
    -- What is open behind the first line is open before the others.
    obtain ⟨last, hlast⟩ := Option.isSome_iff_exists.1 hpaired
    rw [scanLines, List.flatMap_cons, unclosed?_append, Option.bind_eq_some_iff] at hlast
    obtain ⟨opened', hopened, hrest⟩ := hlast
    rw [indentedTexts_cons]
    cases index with
    | zero =>
      cases hline
      have hcode : state.region = .code := hscan.region.trans hregion
      rw [hlexemes] at hopened
      exact congrArg some (text_ofLine_of_stepped h hdepth hcode hbody hopened)
    | succ index =>
      have hsucc (index : Nat) : openBefore opened (scanLines config scanned (text :: texts))
          (index + 1) = openBefore opened' (scanLines config _ texts) index :=
        openBefore_succ hopened _ index
      have hafter : EntersLike (IndentedLine.ofLine config state text).after
          (Line.scan config scanned text).after :=
        entersLike_after_ofLine config text hscan
      have hnext : (IndentedLine.ofLine config state text).after.nesting.Stepped
          config.indentUnit opened' :=
        stepped_after_ofLine h hdepth
          (hfirst.congr hscan.region.symm (hlexemes.trans (lexemes_scan config state text).symm))
          (hlexemes ▸ hopened)
      rw [hsucc]
      refine ih hafter hnext ?_ ?_ ?_ hline
      · intro line hmem
        exact hlines line (List.mem_cons_of_mem _ hmem)
      · rw [hrest]
        rfl
      · intro index hindex
        rw [← hsucc]
        exact hmax (index + 1) (Nat.succ_lt_succ hindex)

/-- A text begins outside all brackets, which is where the terraces begin. -/
theorem stepped_initial (config : Config) :
    (State.initial config).nesting.Stepped config.indentUnit [] :=
  Terraced.outside.stepped

/-- **Block-structured code is indented by its depth.** If no piece of a text ends in two carriage
returns, the code of the text is block-structured, and no depth asks for more than 2147483647
columns, then each line that begins in code and is not blank comes to stand at one indent unit for
each bracket that is open before it, less one unit if the line begins with a closing bracket. -/
theorem reindent_blockStructured (config : Config) (text : Text)
    (h : ∀ piece ∈ text.splitOn '\n', ¬ ['\r', '\r'] <:+ piece)
    (hblock : (Document.ofText config text).BlockStructured)
    (hmax : ∀ index < (Document.ofText config text).lines.length,
      config.indentUnit.toNat * (Document.ofText config text).openDepth index ≤ 2147483647)
    (index : Nat) (line : Line) (hline : (Document.ofText config text).lines[index]? = some line)
    (hregion : line.before.region = .code) (hbody : line.text.isAllBlank = false) :
    (reindent config text).lines[index]? = some
      (List.replicate (config.indentUnit.toNat * ((Document.ofText config text).openDepth index -
        if line.text.trimStart.startsWithCloser then 1 else 0)) ' ' ++ line.text.trimStart) := by
  have hlength : (Document.ofText config text).lines.length = text.lines.length :=
    length_scanLines text.lines
  have hdepths : ∀ index < text.lines.length,
      config.indentUnit.toNat * (Document.ofText config text).openDepth index ≤ 2147483647 := by
    intro index hindex
    exact hmax index (hlength ▸ hindex)
  rw [lines_reindent fun piece => getLast?_of_mem_splitOn_reindent h]
  exact getElem?_indentedTexts_of_stepped (.refl (State.initial config)) (stepped_initial config)
    text.lines hblock.lines hblock.paired hdepths hline hregion (Text.trimStart_ne_nil hbody)

/-- A text with a comment behind an opening bracket, a string that runs over two lines, a blank
line, and a line that closes one block and opens another. -/
def nestedBlocks : Text :=
  Text.joinLines [r"{ // a )".toList, "\tif (x) ".toList ++ ['{', '\r'], "s = \"(".toList,
    "  q\"; f([1]);".toList, [], r"} else { /* b */".toList, "g();".toList, ['}']]

/-- The theorem at the line that closes one block and opens another. -/
theorem reindent_blockStructured_else :
    (∀ piece ∈ nestedBlocks.splitOn '\n', ¬ ['\r', '\r'] <:+ piece) ∧
      (Document.ofText {} nestedBlocks).BlockStructured ∧
      (∀ index < (Document.ofText {} nestedBlocks).lines.length,
        2 * (Document.ofText {} nestedBlocks).openDepth index ≤ 2147483647) ∧
      (reindent {} nestedBlocks).lines[5]? = some r"  } else { /* b */".toList := by
  have h : ∀ piece ∈ nestedBlocks.splitOn '\n', ¬ ['\r', '\r'] <:+ piece := by decide
  have hblock : (Document.ofText {} nestedBlocks).BlockStructured :=
    ⟨by decide +kernel, by decide +kernel⟩
  have hmax : ∀ index < (Document.ofText {} nestedBlocks).lines.length,
      2 * (Document.ofText {} nestedBlocks).openDepth index ≤ 2147483647 := by decide +kernel
  refine ⟨h, hblock, hmax, ?_⟩
  refine (reindent_blockStructured {} nestedBlocks h hblock hmax 5 _
    (List.getElem?_eq_getElem (by decide +kernel)) ?_ ?_).trans (congrArg some ?_)
  · decide +kernel
  · decide +kernel
  · decide +kernel

end

end SyntaxMode
