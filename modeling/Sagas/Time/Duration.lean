import Sagas.Text.Digits

/-!
# Durations

A span of time in whole nanoseconds, split into seconds and the rest, and its inspected
text: the largest of the units s, ms, µs and ns in which it is at least one, with as many
decimals as are needed.
-/

namespace Sagas

/-- A span of time. -/
structure Duration where
  seconds : Nat
  nanos : Nat
  nanos_lt : nanos < 1000000000
  deriving DecidableEq, Repr

namespace Duration

/-- The sum of `seconds` and `nanos`; a billion nanoseconds carry over. -/
def ofParts (seconds nanos : Nat) : Duration :=
  ⟨seconds + nanos / 1000000000, nanos % 1000000000, Nat.mod_lt _ (by decide)⟩

/-- A whole number and a fraction of `places` digits, without trailing zeros. -/
private def decimal (whole fraction places : Nat) : String :=
  let digits := ((Text.padded places fraction).reverse.dropWhile (· == '0')).reverse
  toString whole ++ (if digits.isEmpty then "" else "." ++ String.ofList digits)

/-- The inspected form, such as `1.5s`, `250ms` or `0ns`. -/
def inspect (d : Duration) : String :=
  if 0 < d.seconds then decimal d.seconds d.nanos 9 ++ "s"
  else if 1000000 ≤ d.nanos then decimal (d.nanos / 1000000) (d.nanos % 1000000) 6 ++ "ms"
  else if 1000 ≤ d.nanos then decimal (d.nanos / 1000) (d.nanos % 1000) 3 ++ "µs"
  else decimal d.nanos 0 0 ++ "ns"

/-- An inspected optional duration. -/
def inspectOption : Option Duration → String
  | none => "None"
  | some d => "Some(" ++ d.inspect ++ ")"

end Duration

end Sagas
