import SyntaxMode.Json.Form
import SyntaxMode.State
import SyntaxMode.Style

/-!
# The JSON form of states

An editor can store the state before a line and come back to it, so states, all they are made of,
styles and settings have a JSON form. Names are matched letter by letter, numbers have to fit
their word, and a field may be missing only where its value may be unknown (`align`) or has a
default (the settings). `read?` takes the forms that are written and is narrower than other readers
of them: it refuses a structure that is written as the array of its fields, and a name without
content that is written as an object with that name and `null`.
-/

namespace SyntaxMode

open Json (Form write read? field? fields? required? orDefault?)

instance : Form Style where
  write style := .string style.name
  read?
    | .string name => Style.ofName? name
    | _ => none

instance : Form Delimiter where
  write
    | .paren => .string "Paren"
    | .bracket => .string "Bracket"
    | .brace => .string "Brace"
  read?
    | .string "Paren" => some .paren
    | .string "Bracket" => some .bracket
    | .string "Brace" => some .brace
    | _ => none

instance : Form Quote where
  write
    | .double => .string "Double"
    | .single => .string "Single"
    | .backtick => .string "Backtick"
  read?
    | .string "Double" => some .double
    | .string "Single" => some .single
    | .string "Backtick" => some .backtick
    | _ => none

instance : Form Region where
  write
    | .code => .string "Base"
    | .string quote => .object [("InString", write quote)]
    | .comment => .string "InComment"
  read?
    | .string "Base" => some .code
    | .string "InComment" => some .comment
    | .object [("InString", quote)] => (read? quote).map .string
    | _ => none

instance : Form Context.Kind where
  write
    | .outside => .string "Top"
    | .arm => .string "Case"
    | .block delimiter => .object [("Block", write delimiter)]
  read?
    | .string "Top" => some .outside
    | .string "Case" => some .arm
    | .object [("Block", delimiter)] => (read? delimiter).map .block
    | _ => none

instance : Form Context where
  write context := .object
    [("indented", write context.indented), ("column", write context.column),
     ("kind", write context.kind), ("align", write context.align)]
  read? value := do
    let fields ← fields? value
    let indented ← required? "indented" fields
    let column ← required? "column" fields
    let kind ← required? "kind" fields
    let align ← orDefault? "align" none fields
    return { indented, column, kind, align }

instance : Form Nesting where
  write nesting := .object
    [("top", write nesting.outside), ("open", write nesting.opened.reverse)]
  read? value := do
    let fields ← fields? value
    let outside ← required? "top" fields
    let outermostFirst : List Context ← required? "open" fields
    return { outside, opened := outermostFirst.reverse }

instance : Form State where
  write state := .object
    [("tokenizer", write state.region), ("contexts", write state.nesting),
     ("indented", write state.indented), ("start_of_line", write state.freshLine)]
  read? value := do
    let fields ← fields? value
    let region ← required? "tokenizer" fields
    let nesting ← required? "contexts" fields
    let indented ← required? "indented" fields
    let freshLine ← required? "start_of_line" fields
    return { region, nesting, indented, freshLine }

instance : Form Config where
  write config := .object
    [("indent_unit", write config.indentUnit), ("tab_size", write config.tabSize)]
  read? value := do
    let fields ← fields? value
    let standard : Config := {}
    let indentUnit ← orDefault? "indent_unit" standard.indentUnit fields
    let tabSize ← orDefault? "tab_size" standard.tabSize fields
    return { indentUnit, tabSize }

end SyntaxMode
