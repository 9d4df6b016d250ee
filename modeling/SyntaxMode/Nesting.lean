import SyntaxMode.Context

/-!
# Nesting

The contexts around a place: those of the open brackets, from the innermost outwards, and a last
one that stands for the outside of all brackets and is never popped.
-/

namespace SyntaxMode

/-- The contexts around a place. -/
structure Nesting where
  /-- The context outside all brackets. -/
  outside : Context
  /-- The contexts of the open brackets, innermost first. -/
  opened : List Context
  deriving DecidableEq, Repr

namespace Nesting

/-- No open brackets, outside of which the indentation is the given one. -/
def ofBase (indented : Int32) : Nesting := ⟨Context.ofBase indented, []⟩

/-- The innermost context. -/
def innermost (nesting : Nesting) : Context := nesting.opened.headD nesting.outside

/-- The number of open brackets. -/
def depth (nesting : Nesting) : Nat := nesting.opened.length

/-- The contexts from the outermost to the innermost. -/
def toList (nesting : Nesting) : List Context := nesting.outside :: nesting.opened.reverse

/-- The nesting with its innermost context changed. -/
def modify (change : Context → Context) : Nesting → Nesting
  | ⟨outside, []⟩ => ⟨change outside, []⟩
  | ⟨outside, context :: outer⟩ => ⟨outside, change context :: outer⟩

/-- The nesting inside one more open bracket. -/
def push (context : Context) (nesting : Nesting) : Nesting :=
  { nesting with opened := context :: nesting.opened }

/-- The context of the innermost open bracket, and the nesting outside of it. -/
def pop? : Nesting → Option (Context × Nesting)
  | ⟨_, []⟩ => none
  | ⟨outside, context :: outer⟩ => some (context, ⟨outside, outer⟩)

/-! ## Equations -/

@[simp] theorem innermost_ofBase (indented : Int32) :
    (ofBase indented).innermost = Context.ofBase indented := rfl

@[simp] theorem innermost_push (context : Context) (nesting : Nesting) :
    (nesting.push context).innermost = context := rfl

@[simp] theorem innermost_modify (change : Context → Context) (nesting : Nesting) :
    (nesting.modify change).innermost = change nesting.innermost := by
  obtain ⟨outside, _ | ⟨context, outer⟩⟩ := nesting <;> rfl

@[simp] theorem depth_push (context : Context) (nesting : Nesting) :
    (nesting.push context).depth = nesting.depth + 1 := rfl

@[simp] theorem depth_modify (change : Context → Context) (nesting : Nesting) :
    (nesting.modify change).depth = nesting.depth := by
  obtain ⟨outside, _ | ⟨context, outer⟩⟩ := nesting <;> rfl

@[simp] theorem pop?_push (context : Context) (nesting : Nesting) :
    (nesting.push context).pop? = some (context, nesting) := rfl

end Nesting

end SyntaxMode
