import SyntaxMode.Proofs.Bracket.Marks
import SyntaxMode.Proofs.Document.FullScan
import SyntaxMode.Proofs.Token.Reads

/-!
# The kinds of the open contexts

Which brackets close depends only on the kinds of the open contexts, and these depend only on the
marks of the lines that were read (`kinds_stateBehind`): a line that begins ends an arm, a bracket
opens a block, a word that opens an arm makes the innermost context an arm, and a bracket closes
the innermost context if that is a block of its pair.
-/

namespace SyntaxMode

/-- The kinds of the open contexts, innermost first. -/
def Nesting.kinds (nesting : Nesting) : List Context.Kind := nesting.opened.map Context.kind

namespace Context.Kind

/-- What the innermost context becomes at a mark that is no bracket. -/
def turn (kind : Kind) (mark : Mark) : Kind :=
  if mark = .line then kind.endArm else if mark.effect? = some .arm then .arm else kind

/-- The kinds of the open contexts behind a bracket that closes. -/
def close (delimiter : Delimiter) : List Kind → List Kind
  | [] => []
  | inner :: outer => if inner = .block delimiter then outer else inner :: outer

end Context.Kind

/-- What the kinds of the open contexts become at a mark. -/
def Mark.follow (kinds : List Context.Kind) (mark : Mark) : List Context.Kind :=
  match mark.effect? with
  | some (.opening delimiter) => .block delimiter :: kinds
  | some (.closing delimiter) => Context.Kind.close delimiter kinds
  | _ => kinds.modifyHead (·.turn mark)

namespace Mark

variable {mark : Mark} {delimiter : Delimiter} (kinds : List Context.Kind)

/-- A mark that is no bracket turns the innermost kind. -/
theorem follow_of_effect (h : mark.effect? = none ∨ mark.effect? = some .arm) :
    follow kinds mark = kinds.modifyHead (·.turn mark) := by
  rw [follow]
  rcases h with h | h <;> rw [h]

/-- A bracket that opens opens a block. -/
theorem follow_of_opening (h : mark.effect? = some (.opening delimiter)) :
    follow kinds mark = .block delimiter :: kinds := by
  rw [follow, h]

/-- A bracket that closes closes the innermost block if that is its own. -/
theorem follow_of_closing (h : mark.effect? = some (.closing delimiter)) :
    follow kinds mark = Context.Kind.close delimiter kinds := by
  rw [follow, h]

end Mark

/-! ## Reading -/

namespace Nesting

variable (nesting : Nesting)

/-- A change of the innermost context changes its kind only. -/
theorem kinds_modify {change : Context → Context} {turn : Context.Kind → Context.Kind}
    (h : ∀ context, (change context).kind = turn context.kind) :
    (nesting.modify change).kinds = nesting.kinds.modifyHead turn := by
  obtain ⟨outside, _ | ⟨context, outer⟩⟩ := nesting
  · rfl
  · exact congrArg (· :: outer.map Context.kind) (h context)

/-- Closing a bracket closes its kind. -/
theorem kinds_close (delimiter : Delimiter) :
    (nesting.close delimiter).kinds = Context.Kind.close delimiter nesting.kinds := by
  obtain ⟨outside, _ | ⟨context, outer⟩⟩ := nesting
  · rw [close]
    split <;> rfl
  · have hkinds : Nesting.kinds ⟨outside, context :: outer⟩ =
        context.kind :: outer.map Context.kind := rfl
    have hinner : (Nesting.innermost ⟨outside, context :: outer⟩).kind = context.kind := rfl
    rw [close, hkinds, Context.Kind.close, hinner]
    split <;> rfl

/-- What a lexeme does to the kinds of the open contexts. -/
theorem kinds_follow (fragment : Fragment) {opening : Delimiter → Context}
    (hopening : ∀ delimiter, (opening delimiter).kind = .block delimiter) :
    (nesting.follow fragment.style fragment.effect? opening).kinds =
      Mark.follow nesting.kinds (.lexeme fragment) := by
  have heffect : (Mark.lexeme fragment).effect? = fragment.effect? := rfl
  have hturn (hnone : fragment.effect? = none) :
      Mark.follow nesting.kinds (.lexeme fragment) = nesting.kinds := by
    have hkind : (fun kind : Context.Kind => kind.turn (.lexeme fragment)) = id := by
      funext kind
      simp [Context.Kind.turn, heffect, hnone]
    rw [Mark.follow_of_effect _ (.inl (heffect.trans hnone)), hkind]
    exact congrFun List.modifyHead_id nesting.kinds
  have hafter : (nesting.modify Context.afterLexeme).kinds = nesting.kinds := by
    have hmodify : (nesting.modify Context.afterLexeme).kinds = nesting.kinds.modifyHead id :=
      nesting.kinds_modify fun _ => rfl
    rw [hmodify, List.modifyHead_id]
    rfl
  simp only [follow]
  split
  next hcomment =>
    refine (hturn ?_).symm
    rw [Fragment.effect?, hcomment]
  next =>
    cases hcase : fragment.effect? with
    | none => exact hafter.trans (hturn hcase).symm
    | some effect =>
      have hmark : (Mark.lexeme fragment).effect? = some effect := heffect.trans hcase
      cases effect with
      | opening delimiter =>
        rw [Mark.follow_of_opening _ hmark, ← hopening delimiter, ← hafter]
        rfl
      | closing delimiter =>
        rw [Mark.follow_of_closing _ hmark, ← hafter]
        exact kinds_close _ delimiter
      | arm =>
        rw [Mark.follow_of_effect _ (.inr hmark), ← hafter]
        refine kinds_modify _ fun context => ?_
        simp [Context.Kind.turn, Context.openArm, hmark]

end Nesting

/-- Reading lexemes. -/
theorem Reads.kinds {tabSize : UInt32} {state after : State} {fragments : List Fragment}
    (h : Reads tabSize state fragments after) :
    after.nesting.kinds = (fragments.map .lexeme).foldl Mark.follow state.nesting.kinds := by
  induction h with
  | nil => rfl
  | @cons state after fragment rest cursor lexeme hstyle heffect _ ih =>
    rw [ih, State.nesting_afterLexeme, hstyle, heffect, Nesting.kinds_follow _ _ fun _ => rfl]
    rfl

/-- Reading a line. -/
theorem kinds_highlight (config : Config) (state : State) (text : Text) :
    (highlight config state text).2.nesting.kinds =
      (Line.scan config state text).marks.foldl Mark.follow state.nesting.kinds := by
  have htext : (Line.scan config state text).text = text := rfl
  rw [Line.marks, htext]
  split
  next hempty =>
    rw [hempty, highlight_nil]
    rfl
  next hne =>
    have henter (indentation : Column) : (state.enterLine indentation).nesting.kinds =
        Mark.follow state.nesting.kinds .line :=
      state.nesting.kinds_modify fun _ => rfl
    rw [lexemes_scan, (reads_line config state hne).kinds, henter]
    rfl

/-- **Reading lines.** The kinds of the contexts that are open behind lines follow from the marks
of the lines. -/
theorem kinds_stateBehind (config : Config) (state : State) (texts : List Text) :
    (stateBehind config state texts).nesting.kinds =
      ((scanLines config state texts).flatMap Line.marks).foldl Mark.follow
        state.nesting.kinds := by
  induction texts generalizing state with
  | nil => rfl
  | cons text texts ih =>
    rw [scanLines, List.flatMap_cons, List.foldl_append, ← kinds_highlight]
    exact ih (highlight config state text).2

end SyntaxMode
