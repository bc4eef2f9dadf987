import Sagas.Text.Cut
import Sagas.Text.Digits

/-!
# Errors of JSON conversion

Why a value could not be read from JSON or written as JSON, with the place in the JSON text
where a place is known. A reason may bring its place along, as an ending such as
` at line 3 column 7`: the ending is taken off and kept as numbers.
-/

namespace Sagas.Json

/-- A failed conversion. Lines count from 1; line 0 stands for no known place. -/
structure Error where
  reason : String
  line : Nat
  column : Nat
  deriving DecidableEq, Repr

namespace Error

/-- A number of 64 bits, of one or more digits. -/
def count? (digits : List Char) : Option Nat :=
  let n := Text.valueOf digits
  if digits ≠ [] ∧ n < UInt64.size then some n else none

/-- The line and the column in a text of the form `3 column 7`. -/
def place? (cs : List Char) : Option (Nat × Nat) := do
  let column ← Text.after? [' ', 'c', 'o', 'l', 'u', 'm', 'n', ' '] (cs.dropWhile Text.isDigit)
  if column.all Text.isDigit then
    return (← count? (cs.takeWhile Text.isDigit), ← count? column)
  else none

/-- The error with a reason. Only the last place in it counts, and only at its end. -/
def ofReason (reason : String) : Error :=
  match Text.cutLast? [' ', 'a', 't', ' ', 'l', 'i', 'n', 'e', ' '] reason.toList with
  | none => ⟨reason, 0, 0⟩
  | some (before, tail) =>
    match place? tail with
    | none => ⟨reason, 0, 0⟩
    | some (line, column) => ⟨String.ofList before, line, column⟩

/-- The sentence that describes the error, with its place if it is known. -/
def message (error : Error) : String :=
  if error.line = 0 then error.reason
  else s!"{error.reason} at line {error.line} column {error.column}"

end Error

end Sagas.Json
