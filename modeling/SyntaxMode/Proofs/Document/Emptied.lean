import SyntaxMode.Proofs.Document.Outside
import SyntaxMode.Proofs.State.Blank
import SyntaxMode.Proofs.State.Sibling

/-!
# Blank lines above a hint

A hint is read from the state before its line, and a line of blanks above may have changed that
state: it enters a line, and an empty line does not. The next line that is not empty enters a line
as well, so the two differ only behind the last line above the hint that is not empty
(`Current.stateAt_emptied`). There entering a line changes no hint, unless it ends an arm
(`State.Shaped.indent_enterLine`), and then it changes those for the lines that look like another
arm, which the arm above asks for, and those for the lines that close a brace block, which the arm
has become. `HidesArm` names the place, and `indentHint_emptied` says which lines it concerns and
which hints they get.
-/

namespace SyntaxMode

/-! ## Indentations in a context -/

namespace Context

/-- The indentation of a line that closes a context. -/
def atCloser (context : Context) : Int32 :=
  if context.align = some true then Column.toSigned context.column else context.indented

/-- The indentation of the other lines in a context. -/
def inside (indentUnit : UInt32) (context : Context) : Int32 :=
  addIndentation context.atCloser
    (if context.align = some true then 1 else Column.toSigned indentUnit)

variable {context : Context}

/-- The indentation in a context is the one of its closing line or the one of its other lines. -/
theorem indentation_eq (indentUnit : UInt32) (context : Context) (text : Text) :
    context.indentation indentUnit text =
      if context.isClosedBy text then context.atCloser else context.inside indentUnit := by
  by_cases halign : context.align = some true
  · simp only [indentation, inside, atCloser, if_pos halign]
  · simp only [indentation, inside, atCloser, if_neg halign]

/-- A line that begins settles what follows the bracket, and moves no line. -/
theorem atCloser_atLineStart (context : Context) :
    context.atLineStart.atCloser = context.atCloser := by
  obtain ⟨indented, column, kind, _ | align⟩ := context <;> rfl

/-- A line that begins moves none of the other lines of a context either. -/
theorem inside_atLineStart (indentUnit : UInt32) (context : Context) :
    context.atLineStart.inside indentUnit = context.inside indentUnit := by
  obtain ⟨indented, column, kind, _ | align⟩ := context <;> rfl

/-- No text closes an arm. -/
theorem isClosedBy_of_arm (h : context.kind = .arm) (text : Text) :
    context.isClosedBy text = false := by
  rw [isClosedBy, h]
  rfl

/-- What an arm becomes when a line begins is closed by a brace. -/
theorem isClosedBy_atLineStart_of_arm (h : context.kind = .arm) (text : Text) :
    context.atLineStart.isClosedBy text = (text.head? == some Delimiter.brace.closer) := by
  rw [isClosedBy, atLineStart, endArm, h]
  rfl

/-- When a line begins, no context is an arm any more. -/
theorem kind_atLineStart_ne_arm (context : Context) : context.atLineStart.kind ≠ .arm := by
  rw [atLineStart, endArm]
  cases context.kind <;> exact Kind.noConfusion

end Context

/-- A text that looks like an arm does not start with a brace. -/
theorem Text.head?_ne_of_startsArm {text : Text} (h : text.startsArm = true) :
    text.head? ≠ some Delimiter.brace.closer := by
  obtain ⟨word, rest, hword, rfl, -⟩ := Text.startsArm_iff.1 h
  rcases Word.opensArm_iff.1 hword with rfl | rfl
  · exact fun hhead => by cases hhead
  · exact fun hhead => by cases hhead

/-! ## Hints behind a line that was entered -/

namespace State

variable {config : Config} {state : State}

/-- A line that is entered changes the innermost context as a line that begins does. -/
theorem context_enterLine (indentation : Column) (state : State) :
    (state.enterLine indentation).context = state.context.atLineStart :=
  Nesting.innermost_modify ..

/-- Where a line has just been entered there is no arm. -/
theorem lineIndentation_enterLine (config : Config) (indentation : Column) (text : Text) :
    (state.enterLine indentation).lineIndentation config text =
      state.context.atLineStart.indentation config.indentUnit text.trimStart := by
  rw [lineIndentation, context_enterLine,
    if_neg fun harm => Context.kind_atLineStart_ne_arm state.context harm.1]

/-- Without an arm, entering a line moves no line below. -/
theorem lineIndentation_enterLine_of_ne_arm (h : state.context.kind ≠ .arm) (config : Config)
    (indentation : Column) (text : Text) :
    (state.enterLine indentation).lineIndentation config text =
      state.lineIndentation config text := by
  rw [lineIndentation_enterLine, lineIndentation, if_neg fun harm => h harm.1,
    Context.indentation_atLineStart h]

/-- Below an arm, another arm stands where the block of the arms does, and other lines inside. -/
theorem lineIndentation_of_arm (h : state.context.kind = .arm) (config : Config) (text : Text) :
    state.lineIndentation config text =
      if text.trimStart.startsArm = true then state.context.indented
      else state.context.inside config.indentUnit := by
  rw [lineIndentation, Context.indentation_eq, Context.isClosedBy_of_arm h]
  simp [h]

/-- Behind a line that has ended an arm, a brace stands where the block of the arms does, and other
lines inside. -/
theorem lineIndentation_enterLine_of_arm (h : state.context.kind = .arm) (config : Config)
    (indentation : Column) (text : Text) :
    (state.enterLine indentation).lineIndentation config text =
      if text.trimStart.head? = some Delimiter.brace.closer then state.context.atCloser
      else state.context.inside config.indentUnit := by
  rw [lineIndentation_enterLine, Context.indentation_eq, Context.isClosedBy_atLineStart_of_arm h,
    Context.atCloser_atLineStart, Context.inside_atLineStart]
  simp

/-- **Entering a line changes no hint** but those below an arm inside brackets, for lines that look
like another arm or start with a closing brace. -/
theorem Shaped.indent_enterLine (h : state.Shaped config 0) (indentation : Column) (text : Text)
    (hother : ¬ (state.region = .code ∧ state.depth ≠ 0 ∧ state.context.kind = .arm ∧
      (text.trimStart.startsArm = true ∨ text.trimStart.head? = some Delimiter.brace.closer))) :
    ((state.enterLine indentation).indent config text).1 = (state.indent config text).1 := by
  by_cases hregion : state.region = .code
  · have hentered : (state.enterLine indentation).region = .code := hregion
    by_cases hdepth : state.depth = 0
    · have hdepth' : (state.enterLine indentation).depth = 0 :=
        (Nesting.depth_modify ..).trans hdepth
      rw [h.indent_of_depth_eq_zero hregion hdepth,
        (h.enterLine indentation).indent_of_depth_eq_zero hentered hdepth']
    · rw [indent_of_code hregion, indent_of_code hentered]
      by_cases harm : state.context.kind = .arm
      · rw [not_and, not_and, not_and, not_or] at hother
        obtain ⟨hstarts, hbrace⟩ := hother hregion hdepth harm
        rw [lineIndentation_of_arm harm, lineIndentation_enterLine_of_arm harm, if_neg hstarts,
          if_neg hbrace]
      · rw [lineIndentation_enterLine_of_ne_arm harm]
  · have hentered : (state.enterLine indentation).region ≠ .code := hregion
    rw [State.indent, State.indent, if_pos hregion, if_pos hentered]

end State

/-! ## The states above a hint -/

section
variable {config : Config} {a b : State} {lines : List Text}

/-- Empty lines leave the state as it is. -/
theorem stateBehind_of_forall_eq_nil (config : Config) (state : State)
    (h : ∀ line ∈ lines, line = []) : stateBehind config state lines = state := by
  induction lines with
  | nil => rfl
  | cons line lines ih =>
    have hempty : (highlight config state line).2 = state := by
      rw [h line List.mem_cons_self, highlight_nil]
    show stateBehind config (highlight config state line).2 lines = state
    rw [hempty]
    exact ih fun other hother => h other (List.mem_cons_of_mem _ hother)

/-- Behind a line that is not empty nothing tells apart what entered it in the same way. -/
theorem State.EntersAs.stateBehind_eq (h : EntersAs a b) (config : Config)
    (hne : ∃ line ∈ lines, line ≠ []) :
    stateBehind config a lines = stateBehind config b lines := by
  induction lines generalizing a b with
  | nil =>
    obtain ⟨_, hline, -⟩ := hne
    cases hline
  | cons line lines ih =>
    show SyntaxMode.stateBehind config (SyntaxMode.highlight config a line).2 lines =
      SyntaxMode.stateBehind config (SyntaxMode.highlight config b line).2 lines
    by_cases hline : line = []
    · rw [hline, highlight_nil, highlight_nil]
      obtain ⟨other, hother, hotherNe⟩ := hne
      refine ih h ⟨other, (List.mem_cons.1 hother).resolve_left ?_, hotherNe⟩
      rintro rfl
      exact hotherNe hline
    · rw [highlight_congr config hline h]

end

namespace Document

/-- Whether the line of an index is the last one above another index that is not empty. -/
structure LastAbove (document : Document) (above index : Nat) : Prop where
  lt : above < index
  ne_nil : document.lineTexts[above]? ≠ some []
  empty : ∀ other, above < other → other < index → document.lineTexts[other]? = some []

/-- Whether a blank line hides an arm from the hint for the line of an index: the blank line is the
last one above that is not empty, and above it there is code in an arm inside brackets. -/
structure HidesArm (document : Document) (blank index : Nat) : Prop
    extends document.LastAbove blank index where
  region : (document.stateAt blank).region = .code
  depth : (document.stateAt blank).depth ≠ 0
  arm : (document.stateAt blank).context.kind = .arm

/-- The texts of the lines between two indexes. -/
def between (document : Document) (above index : Nat) : List Text :=
  (document.lineTexts.drop (above + 1)).take (index - (above + 1))

section
variable {document : Document} {above index : Nat} {line : Text}

/-- The lines between two indexes are those with an index between the two. -/
theorem mem_between_iff :
    line ∈ document.between above index ↔
      ∃ other, above < other ∧ other < index ∧ document.lineTexts[other]? = some line := by
  simp only [between, List.mem_iff_getElem?, List.getElem?_take, List.getElem?_drop]
  constructor
  · rintro ⟨offset, hoffset⟩
    rw [Option.ite_none_right_eq_some] at hoffset
    exact ⟨above + 1 + offset, by omega, by omega, hoffset.2⟩
  · rintro ⟨other, habove, hindex, hline⟩
    refine ⟨other - (above + 1), ?_⟩
    rw [if_pos (by omega), Nat.add_sub_cancel' habove]
    exact hline

/-- The last line above an index that is not empty is one with empty lines between. -/
theorem lastAbove_iff (hline : document.lineTexts[above]? = some line)
    (hindex : index ≤ document.lines.length) :
    document.LastAbove above index ↔
      above < index ∧ line ≠ [] ∧ ∀ other ∈ document.between above index, other = [] := by
  have hlength : document.lineTexts.length = document.lines.length := List.length_map ..
  constructor
  · rintro ⟨hlt, hne, hempty⟩
    refine ⟨hlt, ?_, ?_⟩
    · rintro rfl
      exact hne hline
    · intro text htext
      obtain ⟨other, habove, hother, htext⟩ := mem_between_iff.1 htext
      rw [hempty other habove hother] at htext
      exact (Option.some.inj htext).symm
  · rintro ⟨hlt, hne, hempty⟩
    refine ⟨hlt, ?_, ?_⟩
    · rw [hline]
      exact fun heq => hne (Option.some.inj heq)
    · intro other habove hother
      have hinside : other < document.lineTexts.length := by omega
      have htext : document.lineTexts[other]? = some document.lineTexts[other] :=
        List.getElem?_eq_getElem hinside
      rw [htext, hempty _ (mem_between_iff.2 ⟨other, habove, hother, htext⟩)]

/-- The state below a line is the one behind this line and the ones that follow it. -/
theorem Current.stateAt_below (h : document.Current)
    (hline : document.lineTexts[above]? = some line) (hlt : above < index)
    (hindex : index ≤ document.lines.length) :
    document.stateAt index =
      stateBehind document.config (highlight document.config (document.stateAt above) line).2
        (document.between above index) := by
  have htake : document.lineTexts.take index =
      document.lineTexts.take above ++ line :: document.between above index := by
    have hsplit : index = above + 1 + (index - (above + 1)) := by omega
    conv => lhs; rw [hsplit, List.take_add, List.take_add_one, hline]
    rw [List.append_assoc]
    rfl
  rw [h.stateAt hindex, h.stateAt (Nat.le_trans (Nat.le_of_lt hlt) hindex), htake,
    stateBehind_append]
  rfl

/-! ## Another text for a line -/

/-- Giving a line another text leaves the number of lines as it is. -/
theorem Current.length_lines_replace (h : document.Current) (above : Nat) (text : Text) :
    (document.apply (.replace above text)).1.lines.length = document.lines.length := by
  rw [h.lines_apply, length_scanLines, Edit.applyTexts, List.length_set, lineTexts,
    List.length_map]

/-- Another text for a line changes no state above it. -/
theorem Current.stateAt_replace (h : document.Current) (hle : index ≤ above)
    (hindex : index ≤ document.lines.length) (text : Text) :
    (document.apply (.replace above text)).1.stateAt index = document.stateAt index := by
  rw [(h.apply _).stateAt (h.length_lines_replace above text ▸ hindex), h.stateAt hindex,
    h.lineTexts_apply, config_apply, Edit.applyTexts, List.take_set_of_le hle]

/-- Another text for a line changes the states below it by what is read of the line. -/
theorem Current.stateAt_replace_of_lt (h : document.Current)
    (hline : document.lineTexts[above]? = some line) (hlt : above < index)
    (hindex : index ≤ document.lines.length) (text : Text) :
    (document.apply (.replace above text)).1.stateAt index =
      stateBehind document.config (highlight document.config (document.stateAt above) text).2
        (document.between above index) := by
  have htext : (document.apply (.replace above text)).1.lineTexts[above]? = some text := by
    rw [h.lineTexts_apply, Edit.applyTexts, List.getElem?_set_self]
    exact (List.getElem?_eq_some_iff.1 hline).1
  have hbetween : (document.apply (.replace above text)).1.between above index =
      document.between above index := by
    rw [between, between, h.lineTexts_apply, Edit.applyTexts,
      List.drop_set_of_lt (Nat.lt_succ_self above)]
  rw [(h.apply _).stateAt_below htext hlt (h.length_lines_replace above text ▸ hindex),
    h.stateAt_replace (Nat.le_refl above) (Nat.le_trans (Nat.le_of_lt hlt) hindex), config_apply,
    hbetween]

/-- **The states below a blank line, once that line is emptied.** Where it is the last line above
that is not empty, the line is no longer entered; elsewhere nothing changes. -/
theorem Current.stateAt_emptied (h : document.Current)
    (hline : document.lineTexts[above]? = some line) (hblank : line.trimStart = [])
    (hindex : index ≤ document.lines.length) :
    let emptied := (document.apply (.replace above [])).1
    (document.LastAbove above index →
      emptied.stateAt index = document.stateAt above ∧
        ∃ indentation, document.stateAt index =
          (document.stateAt above).enterLine indentation) ∧
    (¬ document.LastAbove above index → emptied.stateAt index = document.stateAt index) := by
  intro emptied
  rw [lastAbove_iff hline hindex]
  by_cases hlt : above < index
  · have hemptied : emptied.stateAt index = _ := h.stateAt_replace_of_lt hline hlt hindex []
    rw [hemptied, h.stateAt_below hline hlt hindex, highlight_nil]
    refine ⟨?_, ?_⟩
    · rintro ⟨-, hne, hempty⟩
      rw [stateBehind_of_forall_eq_nil _ _ hempty, stateBehind_of_forall_eq_nil _ _ hempty,
        after_highlight_of_blank _ _ hblank hne]
      exact ⟨rfl, _, rfl⟩
    · intro hnot
      by_cases hne : line = []
      · rw [hne, highlight_nil]
      · have hentered :=
          State.entersAs_highlight_blank document.config (document.stateAt above) hblank
        refine (hentered.stateBehind_eq document.config ?_).symm
        by_contra hempty
        exact hnot ⟨hlt, hne, fun other hother => by_contra fun hother' =>
          hempty ⟨other, hother, hother'⟩⟩
  · exact ⟨fun hlast => absurd hlast.1 hlt,
      fun _ => h.stateAt_replace (Nat.le_of_not_lt hlt) hindex []⟩

end

/-- **Blanks on a line above change a hint only where they hide an arm.** In a document that edits
have led to, let a blank line be emptied. The hint for a line that is not blank stays, unless the
blank line hides an arm from it and it looks like another arm or starts with a closing brace. For
another arm the hint was the one inside the brace block that the arm became, and it becomes the one
for the block of the arms; for a closing brace it was the one for the end of the brace block, and
it becomes the one inside the arm. -/
theorem indentHint_emptied (config : Config) (text : Text) (edits : List Edit) {blank index : Nat}
    {blanks line : Text} :
    let document := (ofText config text).applyAll edits
    let emptied := (document.apply (.replace blank [])).1
    let arm := (document.stateAt blank).context
    let body := line.trimStart
    document.lineTexts[blank]? = some blanks → blanks.trimStart = [] →
    document.lineTexts[index]? = some line → body ≠ [] →
      (¬ (document.HidesArm blank index ∧
          (body.startsArm = true ∨ body.head? = some Delimiter.brace.closer)) →
        emptied.indentHint index = document.indentHint index) ∧
      (document.HidesArm blank index →
        ((Lexeme.scanCode body).effect = some .arm →
          document.indentHint index = .column (Column.ofSigned (arm.inside config.indentUnit)) ∧
          emptied.indentHint index = .column (Column.ofSigned arm.indented)) ∧
        (body.head? = some Delimiter.brace.closer →
          document.indentHint index = .column (Column.ofSigned arm.atCloser) ∧
          emptied.indentHint index =
            .column (Column.ofSigned (arm.inside config.indentUnit)))) := by
  intro document emptied arm body hblanks hblank hline hne
  have hcurrent : document.Current := ((current_ofText config text).applyAll edits).1
  have hconfig : document.config = config := config_applyAll (ofText config text) edits
  have hindex : index ≤ document.lines.length := by
    rw [← List.length_map (f := Line.text)]
    exact Nat.le_of_lt (List.getElem?_eq_some_iff.1 hline).1
  obtain ⟨hlast, hother⟩ := hcurrent.stateAt_emptied hblanks hblank hindex
  have hapart : blank ≠ index := by
    rintro rfl
    rw [hblanks] at hline
    cases hline
    exact hne hblank
  have hemptiedLine : emptied.lineTexts[index]? = some line := by
    rw [hcurrent.lineTexts_apply, Edit.applyTexts, List.getElem?_set_ne hapart]
    exact hline
  rw [indentHint_eq hline, indentHint_eq hemptiedLine, config_apply, hconfig]
  refine ⟨?_, ?_⟩
  · intro hnot
    by_cases habove : document.LastAbove blank index
    · obtain ⟨hemptied, indentation, hdocument⟩ := hlast habove
      have hshaped := hcurrent.shaped_stateAt blank
      rw [hconfig] at hshaped
      rw [hemptied, hdocument, hshaped.indent_enterLine indentation line]
      rintro ⟨hregion, hdepth, harm, hbody⟩
      exact hnot ⟨⟨habove, hregion, hdepth, harm⟩, hbody⟩
    · rw [hother habove]
  · intro harm
    obtain ⟨hemptied, indentation, hdocument⟩ := hlast harm.toLastAbove
    have hentered : ((document.stateAt blank).enterLine indentation).region = .code := harm.region
    rw [hemptied, hdocument, State.indent_of_code harm.region, State.indent_of_code hentered,
      State.lineIndentation_of_arm harm.arm, State.lineIndentation_enterLine_of_arm harm.arm]
    refine ⟨?_, ?_⟩
    · intro hopens
      have hstarts : body.startsArm = true := Text.startsArm_of_effect_eq_arm hopens
      rw [if_pos hstarts, if_neg (Text.head?_ne_of_startsArm hstarts)]
      exact ⟨rfl, rfl⟩
    · intro hbrace
      rw [if_pos hbrace, if_neg fun hstarts => Text.head?_ne_of_startsArm hstarts hbrace]
      exact ⟨rfl, rfl⟩

/-- The theorem where a line of blanks and an empty line stand between an arm and the brace behind
its block: the brace is hinted below the `switch`, and without the blanks inside the arm. -/
theorem indentHint_emptied_brace :
    let document := (ofText {} (Text.joinLines [r"switch x {".toList, " case 1:".toList,
      "  ".toList, ['}']])).applyAll [.insert 3 []]
    let emptied := (document.apply (.replace 2 [])).1
    document.HidesArm 2 4 ∧ document.indentHint 4 = .column 0 ∧
      emptied.indentHint 4 = .column 2 := by
  intro document emptied
  have hhides : document.HidesArm 2 4 := by
    refine ⟨⟨by decide, by decide +kernel, ?_⟩, by decide +kernel, by decide +kernel,
      by decide +kernel⟩
    intro other habove hindex
    obtain rfl : other = 3 := by omega
    decide +kernel
  have hblanks : document.lineTexts[2]? = some "  ".toList := by decide +kernel
  have hline : document.lineTexts[4]? = some ['}'] := by decide +kernel
  have hhints := (indentHint_emptied {} _ [.insert 3 []] hblanks rfl hline (by decide)).2 hhides
  obtain ⟨hdocument, hemptied⟩ := hhints.2 (by decide)
  have hcloser : Column.ofSigned (document.stateAt 2).context.atCloser = 0 := by decide +kernel
  have hinside : Column.ofSigned ((document.stateAt 2).context.inside 2) = 2 := by decide +kernel
  rw [hcloser] at hdocument
  exact ⟨hhides, hdocument, hemptied.trans (congrArg IndentHint.column hinside)⟩

/-- Blanks on a line above another arm do change its hint: once they are gone, it stands where the
block of the arms does. -/
theorem indentHint_emptied_ne :
    let document := (ofText {} (Text.joinLines [r"switch x {".toList, "  case 1:".toList,
      "   ".toList, "case 2:".toList])).applyAll []
    let emptied := (document.apply (.replace 2 [])).1
    document.lineTexts[2]? = some "   ".toList ∧ Text.trimStart "   ".toList = [] ∧
      document.lineTexts[3]? = some "case 2:".toList ∧
      Text.trimStart "case 2:".toList ≠ [] ∧
      emptied.indentHint 3 ≠ document.indentHint 3 := by
  decide +kernel

end Document

end SyntaxMode
