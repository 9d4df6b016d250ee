import SyntaxMode.Proofs.Bracket.Balanced
import SyntaxMode.Proofs.Token.Reads

/-!
# Reading balanced brackets

While lexemes are read, the brackets that open among them stand inside the nesting from which
reading began. All of them take the indentation that the reader has then, and a bracket that closes
gives the same indentation back. So the reader keeps it (`Reads.within`), and behind balanced
lexemes the nesting is the old one too (`Reads.of_balanced`).
-/

namespace SyntaxMode

/-- The nestings inside brackets that were opened inside an outer nesting, all of them on lines
with the same indentation. -/
inductive Nesting.Within (outer : Nesting) (indented : Int32) :
    List Delimiter → Nesting → Prop where
  | outer : Within outer indented [] outer
  | push {opened : List Delimiter} {nesting : Nesting} {context : Context} {delimiter : Delimiter}
      (hkind : context.kind = .block delimiter) (hindented : context.indented = indented)
      (h : Within outer indented opened nesting) :
      Within outer indented (delimiter :: opened) (nesting.push context)

/-! ## Contexts that nothing follows -/

namespace Nesting

/-- Where it is known what follows the innermost bracket, a lexeme tells nothing new. -/
theorem modify_afterLexeme {nesting : Nesting} {align : Bool}
    (h : nesting.innermost.align = some align) :
    nesting.modify Context.afterLexeme = nesting := by
  refine modify_eq_self ?_
  rw [Context.afterLexeme, h, Option.getD_some, ← h]

/-- A lexeme leaves what is open inside an outer nesting inside it. -/
theorem Within.modify_afterLexeme {outer nesting : Nesting} {indented : Int32}
    {opened : List Delimiter} (h : outer.Within indented opened nesting)
    (halign : outer.innermost.align = some false) :
    outer.Within indented opened (nesting.modify Context.afterLexeme) := by
  cases h with
  | outer =>
    rw [Nesting.modify_afterLexeme halign]
    exact .outer
  | push hkind hindented h => exact .push hkind hindented h

end Nesting

/-! ## One lexeme -/

namespace State

variable {tabSize : UInt32} {cursor : Cursor} {lexeme : Lexeme} {state : State}

/-- A bracket that closes the innermost one gives back its indentation. -/
theorem closeBracket_of_push {nesting : Nesting} {context : Context} {delimiter : Delimiter}
    (hnesting : state.nesting = nesting.push context) (hkind : context.kind = .block delimiter) :
    state.closeBracket delimiter =
      { state with nesting := nesting, indented := context.indented } := by
  have hinner : state.context.kind = .block delimiter := by
    rw [State.context, hnesting, Nesting.innermost_push, hkind]
  rw [closeBracket, if_pos hinner, hnesting, Nesting.pop?_push]

/-- A lexeme that closes the innermost bracket. -/
theorem afterLexeme_of_closing {nesting : Nesting} {context : Context} {delimiter : Delimiter}
    (hstyle : lexeme.style ≠ some .comment) (heffect : lexeme.effect = some (.closing delimiter))
    (hnesting : state.nesting = nesting.push context) (hkind : context.kind = .block delimiter) :
    state.afterLexeme tabSize cursor lexeme =
      { region := lexeme.region, nesting, indented := context.indented, freshLine := false } := by
  simp only [afterLexeme, if_neg hstyle, heffect, applyEffect]
  rw [hnesting, Nesting.modify_push]
  rw [closeBracket_of_push rfl (show context.afterLexeme.kind = .block delimiter from hkind)]
  rfl

/-- A lexeme that opens a bracket. -/
theorem afterLexeme_of_opening {delimiter : Delimiter} (hstyle : lexeme.style ≠ some .comment)
    (heffect : lexeme.effect = some (.opening delimiter)) :
    state.afterLexeme tabSize cursor lexeme =
      { state with
        region := lexeme.region
        nesting := (state.nesting.modify Context.afterLexeme).push
          ⟨state.indented, cursor.column tabSize, .block delimiter, none⟩
        freshLine := false } := by
  simp only [afterLexeme, if_neg hstyle, heffect]
  rfl

/-- A lexeme that does nothing to the contexts. -/
theorem afterLexeme_of_effect_eq_none (hstyle : lexeme.style ≠ some .comment)
    (heffect : lexeme.effect = none) :
    state.afterLexeme tabSize cursor lexeme =
      { state with
        region := lexeme.region
        nesting := state.nesting.modify Context.afterLexeme
        freshLine := false } := by
  simp only [afterLexeme, if_neg hstyle, heffect]

end State

/-- A comment does nothing to the contexts. -/
theorem Fragment.effect?_of_comment {fragment : Fragment} (h : fragment.style = some .comment) :
    fragment.effect? = none := by
  rw [Fragment.effect?, h]

/-- What does something to the contexts is no comment. -/
theorem Fragment.style_ne_comment {fragment : Fragment} {effect : Effect}
    (h : fragment.effect? = some effect) : fragment.style ≠ some .comment := by
  intro hcomment
  rw [Fragment.effect?_of_comment hcomment] at h
  cases h

/-! ## Lexemes one after the other -/

section
variable {tabSize : UInt32} {state after : State} {outer : Nesting} {indented : Int32}

/-- What is open inside the outer nesting behind a lexeme. -/
theorem within_afterLexeme (tabSize : UInt32) (cursor : Cursor) {lexeme : Lexeme}
    {fragment : Fragment}
    {opened opened' : List Delimiter} (hstyle : lexeme.style = fragment.style)
    (heffect : lexeme.effect = fragment.effect?) (harm : fragment.effect? ≠ some .arm)
    (halign : outer.innermost.align = some false) (hindented : state.indented = indented)
    (h : outer.Within indented opened state.nesting)
    (hopened : fragment.unclosed? opened = some opened') :
    (state.afterLexeme tabSize cursor lexeme).indented = indented ∧
      outer.Within indented opened' (state.afterLexeme tabSize cursor lexeme).nesting := by
  by_cases hcomment : lexeme.style = some .comment
  · rw [Fragment.unclosed?, Fragment.effect?_of_comment (hstyle ▸ hcomment)] at hopened
    cases hopened
    rw [State.afterLexeme_of_comment hcomment]
    exact ⟨hindented, h⟩
  · rw [Fragment.unclosed?, ← heffect] at hopened
    rw [← heffect] at harm
    cases hcase : lexeme.effect with
    | none =>
      rw [hcase] at hopened
      cases hopened
      rw [State.afterLexeme_of_effect_eq_none hcomment hcase]
      exact ⟨hindented, h.modify_afterLexeme halign⟩
    | some effect =>
      rw [hcase] at hopened harm
      cases effect with
      | arm => exact absurd rfl harm
      | opening delimiter =>
        cases hopened
        rw [State.afterLexeme_of_opening hcomment hcase]
        exact ⟨hindented, .push rfl hindented (h.modify_afterLexeme halign)⟩
      | closing delimiter =>
        -- The innermost bracket is one that was opened inside, or else there is none to close.
        generalize hnesting : state.nesting = nesting at h
        cases h with
        | outer => cases hopened
        | push hkind hcontext h =>
          rw [Effect.unclosed?_closing_eq_some_iff, List.cons.injEq] at hopened
          obtain ⟨rfl, rfl⟩ := hopened
          rw [State.afterLexeme_of_closing hcomment hcase hnesting hkind]
          exact ⟨hcontext, h⟩

/-- What is open inside the outer nesting behind lexemes. -/
theorem Reads.within {fragments : List Fragment} {opened opened' : List Delimiter}
    (hreads : Reads tabSize state fragments after)
    (harm : ∀ fragment ∈ fragments, fragment.effect? ≠ some .arm)
    (halign : outer.innermost.align = some false) (hindented : state.indented = indented)
    (h : outer.Within indented opened state.nesting)
    (hopened : unclosed? opened fragments = some opened') :
    after.indented = indented ∧ outer.Within indented opened' after.nesting := by
  induction hreads generalizing opened with
  | nil =>
    cases hopened
    exact ⟨hindented, h⟩
  | @cons state after fragment rest cursor lexeme hstyle heffect hrest ih =>
    rw [unclosed?_cons, Option.bind_eq_some_iff] at hopened
    obtain ⟨next, hnext, hrest⟩ := hopened
    obtain ⟨hindented', h'⟩ := within_afterLexeme tabSize cursor hstyle heffect
      (harm fragment List.mem_cons_self) halign hindented h hnext
    exact ih (fun other hother => harm other (List.mem_cons_of_mem _ hother)) hindented' h' hrest

/-- Balanced lexemes change neither the contexts nor the indentation, if it is known what follows
the innermost bracket. -/
theorem Reads.of_balanced {fragments : List Fragment}
    (hreads : Reads tabSize state fragments after)
    (harm : ∀ fragment ∈ fragments, fragment.effect? ≠ some .arm)
    (halign : state.nesting.innermost.align = some false) (h : Balanced fragments) :
    after.nesting = state.nesting ∧ after.indented = state.indented := by
  obtain ⟨hindented, hwithin⟩ := hreads.within harm halign rfl .outer h
  generalize hnesting : after.nesting = nesting at hwithin ⊢
  cases hwithin
  exact ⟨rfl, hindented⟩

/-- Comments change neither the contexts nor the indentation. -/
theorem Reads.of_comments {fragments : List Fragment}
    (hreads : Reads tabSize state fragments after)
    (h : ∀ fragment ∈ fragments, fragment.style = some .comment) :
    after.nesting = state.nesting ∧ after.indented = state.indented := by
  induction hreads with
  | nil => exact ⟨rfl, rfl⟩
  | @cons state after fragment rest cursor lexeme hstyle heffect hrest ih =>
    have hcomment : lexeme.style = some .comment :=
      hstyle.trans (h fragment List.mem_cons_self)
    rw [State.afterLexeme_of_comment hcomment] at ih
    exact ih fun other hother => h other (List.mem_cons_of_mem _ hother)

end

end SyntaxMode
