/-!
# Instants

Calendar dates of the proleptic Gregorian calendar, times of day and points in time on the
UTC scale. A date has at most one day before it and one after it inside the years that the
calendar covers, which is all that a shift by less than a day needs.
-/

namespace Sagas

/-- Whether a year has a 29 February. -/
def isLeapYear (year : Int) : Bool :=
  year % 4 == 0 && (year % 100 != 0 || year % 400 == 0)

/-- The number of days of a month. -/
def daysIn (year : Int) (month : Nat) : Nat :=
  if month = 2 then (if isLeapYear year then 29 else 28)
  else if month = 4 ∨ month = 6 ∨ month = 9 ∨ month = 11 then 30
  else 31

/-- The first year of the calendar. -/
def firstYear : Int := -262143

/-- The last year of the calendar. -/
def lastYear : Int := 262142

/-- What makes a year, a month and a day a date. -/
def IsDate (year : Int) (month day : Nat) : Prop :=
  firstYear ≤ year ∧ year ≤ lastYear ∧
    1 ≤ month ∧ month ≤ 12 ∧ 1 ≤ day ∧ day ≤ daysIn year month

instance (year : Int) (month day : Nat) : Decidable (IsDate year month day) := by
  unfold IsDate; infer_instance

/-- A calendar date. -/
structure Date where
  year : Int
  month : Nat
  day : Nat
  isDate : IsDate year month day
  deriving DecidableEq, Repr

namespace Date

/-- The date of the given parts, if there is one. -/
def of? (year : Int) (month day : Nat) : Option Date :=
  if h : IsDate year month day then some ⟨year, month, day, h⟩ else none

/-- The day after, if the calendar covers it. -/
def next? (d : Date) : Option Date :=
  if d.day < daysIn d.year d.month then of? d.year d.month (d.day + 1)
  else if d.month < 12 then of? d.year (d.month + 1) 1
  else of? (d.year + 1) 1 1

/-- The day before, if the calendar covers it. -/
def previous? (d : Date) : Option Date :=
  if 1 < d.day then of? d.year d.month (d.day - 1)
  else if 1 < d.month then of? d.year (d.month - 1) (daysIn d.year (d.month - 1))
  else of? (d.year - 1) 12 31

end Date

/-- What makes an hour, a minute, a second and nanoseconds a time of day. -/
def IsTimeOfDay (hour minute second nanos : Nat) : Prop :=
  hour < 24 ∧ minute < 60 ∧ second ≤ 60 ∧ nanos < 1000000000

instance (hour minute second nanos : Nat) : Decidable (IsTimeOfDay hour minute second nanos) := by
  unfold IsTimeOfDay; infer_instance

/-- A time of day. The second 60 is a leap second. -/
structure TimeOfDay where
  hour : Nat
  minute : Nat
  second : Nat
  nanos : Nat
  isTimeOfDay : IsTimeOfDay hour minute second nanos
  deriving DecidableEq, Repr

/-- The time of day of the given parts, if there is one. -/
def TimeOfDay.of? (hour minute second nanos : Nat) : Option TimeOfDay :=
  if h : IsTimeOfDay hour minute second nanos then some ⟨hour, minute, second, nanos, h⟩
  else none

/-- A point in time, by its date and time of day at offset zero. -/
structure Instant where
  date : Date
  time : TimeOfDay
  deriving DecidableEq, Repr

namespace Instant

/-- The first instant of 1970. -/
def epoch : Instant where
  date := ⟨1970, 1, 1, by decide⟩
  time := ⟨0, 0, 0, 0, by decide⟩

/-- The instant that a clock `offset` minutes ahead of UTC shows as the given date and
time. The seconds stay as they are, because an offset has whole minutes. -/
def ofLocal? (date : Date) (time : TimeOfDay) (offset : Int) : Option Instant := do
  let minutes : Int := time.hour * 60 + time.minute - offset
  let date ←
    if minutes < 0 then date.previous?
    else if minutes < 1440 then some date
    else date.next?
  let ofDay := (minutes % 1440).toNat
  let time ← TimeOfDay.of? (ofDay / 60) (ofDay % 60) time.second time.nanos
  return ⟨date, time⟩

end Instant

end Sagas
