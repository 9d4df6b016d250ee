import SyntaxMode.Proofs.Bracket.BlockLine
import SyntaxMode.Proofs.Nesting.Terraced
import SyntaxMode.Proofs.Nesting.Within

/-!
# Block lines on terraces

A block line leads from terrace to terrace. A closing bracket at its start goes back to the terrace
around the bracket it closes, and gives the line the indentation of that bracket's line; balanced
brackets change nothing; and an opening bracket at the end makes the next terrace, one unit right
of the line, because nothing but comments follows it.
-/

namespace SyntaxMode

open Nesting

section
variable {tabSize indentUnit : UInt32} {state after : State} {opened opened' : List Delimiter}
  {lexemes : List Fragment}

/-- What comments leave open is what was open before them. -/
theorem unclosed?_of_comments (h : ∀ fragment ∈ lexemes, fragment.style = some .comment) :
    unclosed? opened lexemes = some opened := by
  induction lexemes with
  | nil => rfl
  | cons fragment lexemes ih =>
    have hfragment : fragment.unclosed? opened = some opened := by
      rw [Fragment.unclosed?, Fragment.effect?_of_comment (h fragment List.mem_cons_self)]
    rw [unclosed?_cons, hfragment, Option.bind_some]
    exact ih fun other hother => h other (List.mem_cons_of_mem _ hother)

/-- Balanced lexemes leave the terrace as it is. -/
theorem Reads.stepped_of_balanced (hreads : Reads tabSize state lexemes after)
    (harm : ∀ fragment ∈ lexemes, fragment.effect? ≠ some .arm) (hbalanced : Balanced lexemes)
    (h : state.nesting.Terraced indentUnit opened) : after.nesting.Stepped indentUnit opened := by
  obtain ⟨hnesting, -⟩ := hreads.of_balanced harm h.align hbalanced
  rw [hnesting]
  exact h.stepped

/-- An opening bracket that only comments follow makes the next terrace. -/
theorem Reads.stepped_of_opener {opener : Fragment}
    (hreads : Reads tabSize state (opener :: lexemes) after) (hopens : opener.opens = true)
    (hcomments : ∀ fragment ∈ lexemes, fragment.style = some .comment)
    (h : state.nesting.Terraced indentUnit opened)
    (hindented : state.indented.toInt = indentUnit.toNat * opened.length)
    (hopened : unclosed? opened (opener :: lexemes) = some opened') :
    after.nesting.Stepped indentUnit opened' := by
  obtain ⟨delimiter, hopener⟩ := Fragment.opens_iff.1 hopens
  obtain _ | ⟨cursor, lexeme, hstyle, heffect, hrest⟩ := hreads
  have hcomment : lexeme.style ≠ some .comment := hstyle ▸ Fragment.style_ne_comment hopener
  have hopening : lexeme.effect = some (.opening delimiter) := heffect.trans hopener
  obtain ⟨hnesting, -⟩ := hrest.of_comments hcomments
  rw [hnesting, State.afterLexeme_of_opening hcomment hopening, modify_afterLexeme h.align]
  have hfragment : opener.unclosed? opened = some (delimiter :: opened) := by
    rw [Fragment.unclosed?, hopener]
    rfl
  rw [unclosed?_cons, hfragment, Option.bind_some, unclosed?_of_comments hcomments] at hopened
  cases hopened
  exact h.stepped_push rfl hindented rfl

/-- Balanced lexemes up to an opening bracket that only comments follow. -/
theorem Reads.stepped_of_append {middle trail : List Fragment}
    (hreads : Reads tabSize state (middle ++ trail) after)
    (harm : ∀ fragment ∈ middle ++ trail, fragment.effect? ≠ some .arm)
    (hmiddle : Balanced middle)
    (htrail : ∀ opener after, trail = opener :: after →
      opener.opens = true ∧ ∀ other ∈ after, other.style = some .comment)
    (h : state.nesting.Terraced indentUnit opened)
    (hindented : state.indented.toInt = indentUnit.toNat * opened.length)
    (hopened : unclosed? opened (middle ++ trail) = some opened') :
    after.nesting.Stepped indentUnit opened' := by
  rw [unclosed?_append, hmiddle.unclosed?_eq, Option.bind_some] at hopened
  obtain ⟨between, hbefore, hbehind⟩ := Reads.append_iff.1 hreads
  obtain ⟨hnesting, hafter⟩ := hbefore.of_balanced
    (fun fragment hfragment => harm fragment (List.mem_append_left _ hfragment)) h.align hmiddle
  rw [← hnesting] at h
  rw [← hafter] at hindented
  cases trail with
  | nil =>
    cases hbehind
    cases hopened
    exact h.stepped
  | cons opener comments =>
    obtain ⟨hopens, hcomments⟩ := htrail opener comments rfl
    exact hbehind.stepped_of_opener hopens hcomments h hindented hopened

/-- A closing bracket goes back to the terrace around the bracket that it closes. -/
theorem Nesting.Terraced.afterLexeme_of_closing (tabSize : UInt32) (cursor : Cursor)
    {lexeme : Lexeme} {closer : Fragment} (h : state.nesting.Terraced indentUnit opened)
    (hstyle : lexeme.style = closer.style) (heffect : lexeme.effect = closer.effect?)
    (hcloses : closer.closes = true) (hopened : closer.unclosed? opened = some opened') :
    (state.afterLexeme tabSize cursor lexeme).nesting.Terraced indentUnit opened' ∧
      (state.afterLexeme tabSize cursor lexeme).indented.toInt =
        indentUnit.toNat * opened'.length := by
  obtain ⟨delimiter, hcloser⟩ := Fragment.closes_iff.1 hcloses
  have hcomment : lexeme.style ≠ some .comment := hstyle ▸ Fragment.style_ne_comment hcloser
  rw [Fragment.unclosed?, hcloser] at hopened
  generalize hnesting : state.nesting = nesting at h
  cases h with
  | outside => cases hopened
  | push hkind hindented halign h =>
    rw [Effect.unclosed?_closing_eq_some_iff, List.cons.injEq] at hopened
    obtain ⟨rfl, rfl⟩ := hopened
    rw [State.afterLexeme_of_closing hcomment (heffect.trans hcloser) hnesting hkind]
    exact ⟨h, hindented⟩

/-- **A block line leads from terrace to terrace.** It has one unit of indentation for each bracket
that is open where it begins, less one if it begins with a closing bracket. -/
theorem Reads.stepped_of_blockLine (hreads : Reads tabSize state lexemes after)
    (harm : ∀ fragment ∈ lexemes, fragment.effect? ≠ some .arm) (hblock : BlockLine lexemes)
    (h : state.nesting.Terraced indentUnit opened)
    (hindented : state.indented.toInt = (indentUnit.toNat *
      (opened.length - if lexemes.head?.any Fragment.closes then 1 else 0) : Nat))
    (hopened : unclosed? opened lexemes = some opened') :
    after.nesting.Stepped indentUnit opened' := by
  by_cases hhead : lexemes.head?.any Fragment.closes = true
  · cases lexemes with
    | nil => cases hhead
    | cons closer lexemes =>
      have hcloses : closer.closes = true := hhead
      -- Behind the closing bracket the line goes on one terrace further out.
      obtain _ | ⟨cursor, lexeme, hstyle, heffect, hrest⟩ := hreads
      rw [unclosed?_cons, Option.bind_eq_some_iff] at hopened
      obtain ⟨outer, hcloser, hbehind⟩ := hopened
      obtain ⟨hterraced, hafter⟩ :=
        h.afterLexeme_of_closing tabSize cursor hstyle heffect hcloses hcloser
      obtain ⟨middle, trail, rfl, hmiddle, htrail⟩ :=
        BlockLine.exists_balanced_append [closer] hblock (hblock.partnered_of_closer hcloses)
      exact hrest.stepped_of_append
        (fun fragment hfragment => harm fragment (List.mem_cons_of_mem _ hfragment))
        hmiddle htrail hterraced hafter hbehind
  · have hcloses : ∀ fragment ∈ lexemes.head?, fragment.closes = false := by
      intro fragment hfragment
      rw [hfragment] at hhead
      exact Bool.eq_false_iff.2 hhead
    rw [if_neg hhead, Nat.sub_zero, Int.natCast_mul] at hindented
    obtain ⟨middle, trail, rfl, hmiddle, htrail⟩ :=
      BlockLine.exists_balanced_append [] hblock (hblock.partnered_of_head hcloses)
    exact hreads.stepped_of_append harm hmiddle htrail h hindented hopened

end

end SyntaxMode
