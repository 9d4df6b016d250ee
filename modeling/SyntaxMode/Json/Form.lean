import SyntaxMode.Json.Basic

/-!
# Types with a JSON form

A type with a JSON form can be written as a value and read from one, and reading refuses a value
that is not of the form. A structure is an object, whose further fields do not matter; a name is a
string; a name with content is an object with that one field.
-/

namespace SyntaxMode.Json

/-- A type whose values are written and read as JSON. -/
class Form (α : Type) where
  /-- The JSON form of a value. -/
  write : α → Json
  /-- The value of a JSON form. -/
  read? : Json → Option α

export Form (write read?)

/-! ## Fields -/

/-- The fields of an object. -/
def fields? : Json → Option (List (String × Json))
  | .object fields => some fields
  | _ => none

/-- The value of a field that has to be there. -/
def required? {α : Type} [Form α] (name : String) (fields : List (String × Json)) : Option α :=
  match field? name fields with
  | some value => read? value
  | none => none

/-- The value of a field, or a given one if the field is not there. -/
def orDefault? {α : Type} [Form α] (name : String) (default : α)
    (fields : List (String × Json)) : Option α :=
  match field? name fields with
  | some value => read? value
  | none => some default

/-! ## Basic forms -/

instance : Form Bool where
  write := .bool
  read?
    | .bool value => some value
    | _ => none

instance : Form UInt32 where
  write value := .integer value.toNat
  read?
    | .integer value =>
      if 0 ≤ value ∧ value < UInt32.size then some (UInt32.ofNat value.toNat) else none
    | _ => none

instance : Form Int32 where
  write value := .integer value.toInt
  read?
    | .integer value =>
      if Int32.minValue.toInt ≤ value ∧ value ≤ Int32.maxValue.toInt then some (Int32.ofInt value)
      else none
    | _ => none

instance {α : Type} [Form α] : Form (List α) where
  write items := .array (items.map write)
  read?
    | .array items => items.mapM read?
    | _ => none

/-- A value that may be missing; it is then `null`. -/
instance {α : Type} [Form α] : Form (Option α) where
  write
    | some value => write value
    | none => .null
  read?
    | .null => some none
    | value => (read? value).map some

end SyntaxMode.Json
