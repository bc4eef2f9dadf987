import Sagas.Text.Blank
import Sagas.Text.Digits
import Sagas.Time.Instant

/-!
# RFC 3339 time stamps

An instant is written as date, `T`, time, a fraction of 0, 3, 6 or 9 digits (the fewest
that are exact) and `Z`. Reading is wider: white space may stand before each number and
around the separators, `t` or one space may stand for `T`, a field may have a single digit,
the year may carry a sign, and any offset of less than a day is taken off.
-/

namespace Sagas.Rfc3339

open Text

/-- The year, in four digits; with a sign outside of 0 to 9999. -/
def yearText (year : Int) : List Char :=
  if 0 ≤ year ∧ year ≤ 9999 then padded 4 year.toNat
  else
    let digits := Nat.toDigits 10 year.natAbs
    (if year < 0 then '-' else '+') :: List.replicate (4 - digits.length) '0' ++ digits

/-- The fraction of a second. -/
def fractionText (nanos : Nat) : List Char :=
  if nanos = 0 then []
  else if nanos % 1000000 = 0 then '.' :: padded 3 (nanos / 1000000)
  else if nanos % 1000 = 0 then '.' :: padded 6 (nanos / 1000)
  else '.' :: padded 9 nanos

/-- The time stamp of an instant, at offset zero. -/
def render (t : Instant) : List Char :=
  yearText t.date.year ++ '-' :: padded 2 t.date.month ++ '-' :: padded 2 t.date.day ++
    'T' :: padded 2 t.time.hour ++ ':' :: padded 2 t.time.minute ++ ':' :: padded 2 t.time.second ++
      fractionText t.time.nanos ++ ['Z']

/-- The text without white space at its start. -/
def skipBlank (cs : List Char) : List Char := cs.dropWhile isBlank

/-- A field of one or two digits, after white space. -/
def field? (cs : List Char) : Option (Nat × List Char) := number? 2 (skipBlank cs)

/-- The year, after white space: up to four digits, or a sign and any number of them. -/
def year? (cs : List Char) : Option (Int × List Char) :=
  match skipBlank cs with
  | '-' :: rest => (number? rest.length rest).map fun (n, rest) => (-(n : Int), rest)
  | '+' :: rest => (number? rest.length rest).map fun (n, rest) => ((n : Int), rest)
  | rest => (number? 4 rest).map fun (n, rest) => ((n : Int), rest)

/-- A separator, after white space. -/
def separator? (c : Char) (cs : List Char) : Option (List Char) :=
  match skipBlank cs with
  | d :: rest => if d = c then some rest else none
  | [] => none

/-- The date, and what follows it. -/
def date? (cs : List Char) : Option (Date × List Char) := do
  let (year, cs) ← year? cs
  let (month, cs) ← field? (← separator? '-' cs)
  let (day, cs) ← field? (← separator? '-' cs)
  return (← Date.of? year month day, cs)

/-- The fraction of a second in nanoseconds; digits after the ninth do not count. -/
def fraction? : List Char → Option (Nat × List Char)
  | '.' :: cs => do
    let (n, rest) ← number? 9 cs
    return (n * Nat.pow 10 (9 - (cs.length - rest.length)), rest.dropWhile isDigit)
  | cs => some (0, cs)

/-- The time of day, and what follows it. -/
def time? (cs : List Char) : Option (TimeOfDay × List Char) := do
  let (hour, cs) ← field? cs
  let (minute, cs) ← field? (← separator? ':' cs)
  let (second, cs) ← field? (← separator? ':' cs)
  let (nanos, cs) ← fraction? cs
  return (← TimeOfDay.of? hour minute second nanos, cs)

/-- Two digits. -/
def twoDigits? : List Char → Option (Nat × List Char)
  | c :: d :: rest => if isDigit c && isDigit d then some (valueOf [c, d], rest) else none
  | _ => none

/-- The minutes of an offset after its sign. Any colons and white space may stand between
its hours and its minutes. -/
def offsetMinutes? (cs : List Char) : Option (Nat × List Char) := do
  let (hours, cs) ← twoDigits? cs
  let (minutes, cs) ← twoDigits? (cs.dropWhile fun c => c == ':' || isBlank c)
  if minutes < 60 ∧ hours * 60 + minutes < 1440 then some (hours * 60 + minutes, cs) else none

/-- The offset from UTC in minutes: `UTC` or `Z` in either case, or a sign, hours and
minutes. -/
def offset? (cs : List Char) : Option (Int × List Char) :=
  if (cs.take 3).map Char.toLower = ['u', 't', 'c'] then some (0, cs.drop 3)
  else match cs with
    | 'Z' :: rest => some (0, rest)
    | 'z' :: rest => some (0, rest)
    | '+' :: rest => (offsetMinutes? rest).map fun (n, rest) => ((n : Int), rest)
    | '-' :: rest => (offsetMinutes? rest).map fun (n, rest) => (-(n : Int), rest)
    | '\u2212' :: rest => (offsetMinutes? rest).map fun (n, rest) => (-(n : Int), rest)
    | _ => none

/-- The text after the mark between date and time. -/
def afterMark? : List Char → Option (List Char)
  | c :: rest => if c = 'T' ∨ c = 't' ∨ c = ' ' then some rest else none
  | [] => none

/-- The instant that a time stamp denotes. -/
def parse? (cs : List Char) : Option Instant := do
  let (date, cs) ← date? cs
  let (time, cs) ← time? (← afterMark? cs)
  let (offset, cs) ← offset? (skipBlank cs)
  if cs.all isBlank then Instant.ofLocal? date time offset else none

end Sagas.Rfc3339
