import SyntaxMode.Region
import SyntaxMode.Text.Basic

/-!
# Strings and block comments

A string runs to the first quote of its own kind that no backslash escapes, and a block comment to
the first `*/`. Where the line has no such end, all of it belongs to the string or comment and the
region goes on with the next line. A backslash escapes nothing beyond its line.
-/

namespace SyntaxMode.Lexeme

/-- The length of what is left of a string, with its closing quote, and the region behind it.
`escaped` tells whether the next character follows an escaping backslash. -/
def stringRest (quote : Quote) (escaped : Bool) : Text → Nat × Region
  | [] => (0, .string quote)
  | c :: rest =>
    if !escaped && c == quote.char then (1, .code)
    else
      let (length, region) := stringRest quote (!escaped && c == '\\' && !quote.isRaw) rest
      (length + 1, region)

/-- The length of what is left of a block comment, with its `*/`, and the region behind it. -/
def commentRest : Text → Nat × Region
  | [] => (0, .comment)
  | '*' :: '/' :: _ => (2, .code)
  | _ :: rest =>
    let (length, region) := commentRest rest
    (length + 1, region)

/-! ## How much they take -/

/-- What is left of a string takes at least one character of a line that has not ended. -/
theorem stringRest_length_pos (quote : Quote) (escaped : Bool) {text : Text} (h : text ≠ []) :
    0 < (stringRest quote escaped text).1 := by
  cases text with
  | nil => exact absurd rfl h
  | cons c rest =>
    rw [stringRest]
    split <;> simp

/-- What is left of a string ends within its line. -/
theorem stringRest_length_le (quote : Quote) (escaped : Bool) (text : Text) :
    (stringRest quote escaped text).1 ≤ text.length := by
  induction text generalizing escaped with
  | nil => exact Nat.le_refl 0
  | cons c rest ih =>
    rw [stringRest]
    split
    · simp
    · exact Nat.succ_le_succ (ih _)

/-- What is left of a comment takes at least one character of a line that has not ended. -/
theorem commentRest_length_pos {text : Text} (h : text ≠ []) : 0 < (commentRest text).1 := by
  unfold commentRest
  split
  · exact absurd rfl h
  · simp
  · simp

/-- What is left of a comment ends within its line. -/
theorem commentRest_length_le (text : Text) : (commentRest text).1 ≤ text.length := by
  fun_induction commentRest text with
  | case1 => exact Nat.le_refl 0
  | case2 rest => simp
  | case3 c rest h length region hrest ih =>
    rw [hrest] at ih
    exact Nat.succ_le_succ ih

end SyntaxMode.Lexeme
