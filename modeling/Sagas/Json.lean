/-!
# JSON values

The values that saga states are stored as. A number is `mantissa · 10^(-exponent)`; it is
an integer exactly when its exponent is zero.
-/

namespace Sagas

/-- A JSON value. The fields of an object keep the order they were written in. -/
inductive Json where
  | null
  | bool (value : Bool)
  | number (mantissa : Int) (exponent : Nat)
  | string (value : String)
  | array (items : List Json)
  | object (fields : List (String × Json))
  deriving Inhabited

namespace Json

/-- The integer `n`. -/
def int (n : Int) : Json := .number n 0

/-- The integer that a value is, if it is one. -/
def int? : Json → Option Int
  | .number n 0 => some n
  | _ => none

/-- The text that a value is, if it is one. -/
def string? : Json → Option String
  | .string s => some s
  | _ => none

/-- The value of a field, the first of its name. -/
def field? (fields : List (String × Json)) (name : String) : Option Json :=
  (fields.find? fun entry => entry.1 == name).map (·.2)

/-- A text, or `null` for none. -/
def ofOption : Option String → Json
  | none => .null
  | some s => .string s

end Json

end Sagas
