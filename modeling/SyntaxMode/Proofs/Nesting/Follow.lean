import SyntaxMode.Nesting
import SyntaxMode.Lexeme.Basic

/-!
# What lexemes do to the contexts

`Nesting.follow` is what a lexeme does to the contexts around it, given its style, its effect and
the context that it opens if it is a bracket. The outline of a nesting leaves out indentations and
columns and keeps the kinds and the alignment. It says all about the contexts that lexemes
themselves decide: the outline behind a lexeme follows from the outline before it
(`outline_follow`).
-/

namespace SyntaxMode

namespace Context

/-- The context as an arm of a `switch`. -/
def openArm (context : Context) : Context := { context with kind := .arm }

/-- The context without its indentation and its column. -/
def outline (context : Context) : Context := { context with indented := 0, column := 0 }

end Context

namespace Nesting

/-- The nesting behind a closing bracket: outside of the innermost bracket, if the two pair. -/
def close (delimiter : Delimiter) (nesting : Nesting) : Nesting :=
  if nesting.innermost.kind = .block delimiter then
    match nesting.pop? with
    | some (_, outer) => outer
    | none => nesting
  else nesting

/-- The nesting behind a lexeme with a style and an effect. A bracket that opens brings the context
given for it. -/
def follow (style : Option Style) (effect? : Option Effect) (opening : Delimiter → Context)
    (nesting : Nesting) : Nesting :=
  if style = some .comment then nesting
  else
    let nesting := nesting.modify Context.afterLexeme
    match effect? with
    | some (.opening delimiter) => nesting.push (opening delimiter)
    | some (.closing delimiter) => nesting.close delimiter
    | some .arm => nesting.modify Context.openArm
    | none => nesting

/-- The nesting without indentations and columns. -/
def outline (nesting : Nesting) : Nesting :=
  ⟨nesting.outside.outline, nesting.opened.map Context.outline⟩

/-- The kinds of the contexts, and whether text follows their brackets, from the outermost
inwards. -/
def shape (nesting : Nesting) : List (Context.Kind × Option Bool) :=
  nesting.toList.map fun context => (context.kind, context.align)

/-! ## Changes of the innermost context -/

@[simp] theorem modify_push (change : Context → Context) (context : Context) (nesting : Nesting) :
    (nesting.push context).modify change = nesting.push (change context) := rfl

/-- A change that leaves the innermost context as it is changes nothing. -/
theorem modify_eq_self {change : Context → Context} {nesting : Nesting}
    (h : change nesting.innermost = nesting.innermost) : nesting.modify change = nesting := by
  obtain ⟨outside, _ | ⟨context, outer⟩⟩ := nesting
  · exact congrArg (Nesting.mk · []) h
  · exact congrArg (fun context => Nesting.mk outside (context :: outer)) h

/-! ## Outlines -/

section
variable (nesting : Nesting)

@[simp] theorem innermost_outline : nesting.outline.innermost = nesting.innermost.outline := by
  obtain ⟨outside, _ | ⟨context, outer⟩⟩ := nesting <;> rfl

@[simp] theorem depth_outline : nesting.outline.depth = nesting.depth := List.length_map ..

@[simp] theorem shape_outline : nesting.outline.shape = nesting.shape := by
  simp [outline, shape, toList, Context.outline]

@[simp] theorem outline_push (context : Context) :
    (nesting.push context).outline = nesting.outline.push context.outline := rfl

/-- A change of the innermost context that leaves indentation and column alone changes the outline
in the same way. -/
theorem outline_modify {change : Context → Context}
    (h : ∀ context : Context, (change context).outline = change context.outline) :
    (nesting.modify change).outline = nesting.outline.modify change := by
  obtain ⟨outside, _ | ⟨context, outer⟩⟩ := nesting <;> simp [modify, outline, h]

/-- Closing a bracket does not depend on what outlines leave out. -/
theorem outline_close (delimiter : Delimiter) :
    (nesting.close delimiter).outline = nesting.outline.close delimiter := by
  have hkind : nesting.innermost.outline.kind = nesting.innermost.kind := rfl
  rw [close, close, innermost_outline, hkind]
  split
  · obtain ⟨outside, _ | ⟨context, outer⟩⟩ := nesting <;> rfl
  · rfl

/-- The outline behind a lexeme follows from the outline before it. -/
theorem outline_follow (style : Option Style) (effect? : Option Effect)
    (opening : Delimiter → Context) :
    (nesting.follow style effect? opening).outline =
      nesting.outline.follow style effect? fun delimiter => (opening delimiter).outline := by
  have hafter : (nesting.modify Context.afterLexeme).outline =
      nesting.outline.modify Context.afterLexeme := outline_modify nesting fun _ => rfl
  simp only [follow]
  split
  · rfl
  · rw [← hafter]
    cases effect? with
    | none => rfl
    | some effect =>
      cases effect with
      | opening delimiter => rfl
      | closing delimiter => exact outline_close _ delimiter
      | arm => exact outline_modify _ fun _ => rfl

end

end Nesting

end SyntaxMode
