/-!
# JSON values

The values of the format in which states and listings are written. An integer and a number with a
fraction or an exponent are kept apart, because only the first can be read as a word. The fields of
an object keep their order.
-/

namespace SyntaxMode

/-- A JSON value. -/
inductive Json where
  | null
  | bool (value : Bool)
  | integer (value : Int)
  /-- The number `mantissa / 10 ^ places`, written with a fraction. -/
  | decimal (mantissa : Int) (places : Nat)
  | string (value : String)
  | array (items : List Json)
  | object (fields : List (String × Json))
  deriving Repr, Inhabited

namespace Json

/-- The value of the last field of a name. -/
def field? (name : String) (fields : List (String × Json)) : Option Json :=
  fields.reverse.lookup name

end Json

end SyntaxMode
