import SyntaxMode.Text.Basic

/-!
# Columns and settings

The column of a place in a line is the width of the text before it as the editor shows it: a tab
reaches to the next tab stop and any other character is one column wide. Columns are 32-bit words,
and counting stays at the largest of them once it gets there. Two numbers of columns can be set in
an editor: what is added for each level of nesting, and the distance between tab stops.
-/

namespace SyntaxMode

/-- A column, counted from 0. -/
abbrev Column := UInt32

namespace Column

/-- The sum of two widths, or the largest column if the sum is beyond it. -/
def saturatingAdd (column width : Column) : Column :=
  UInt32.ofNatClamp (column.toNat + width.toNat)

/-- The column after a character, with tab stops `tabWidth` columns apart. -/
def next (tabWidth column : Column) (c : Char) : Column :=
  if c = '\t' then column.saturatingAdd (tabWidth - column % tabWidth) else column.saturatingAdd 1

/-- The distance between tab stops for a tab size; tabs of size 0 are one column wide. -/
def tabWidth (tabSize : UInt32) : Column := if tabSize = 0 then 1 else tabSize

/-- The column after a text that starts at column 0. -/
def ofText (tabSize : UInt32) (text : Text) : Column := text.foldl (next (tabWidth tabSize)) 0

/-- The column of a byte offset in a text. An offset past the end counts as the end; one inside a
character has no column. -/
def atByte? (tabSize : UInt32) (text : Text) (offset : Nat) : Option Column :=
  (text.splitAtByte? (min offset text.byteLength)).map fun parts => ofText tabSize parts.1

/-- A column as a signed word; columns beyond the largest signed word become that word. -/
def toSigned (column : Column) : Int32 := Int32.ofIntClamp column.toNat

/-- A signed word as a column; negative words become column 0. -/
def ofSigned (indentation : Int32) : Column := UInt32.ofNatClamp indentation.toInt.toNat

end Column

/-- The settings of an editor. -/
structure Config where
  /-- The columns added for each level of nesting. -/
  indentUnit : UInt32 := 2
  /-- The distance between tab stops. -/
  tabSize : UInt32 := 4
  deriving DecidableEq, Repr

end SyntaxMode
