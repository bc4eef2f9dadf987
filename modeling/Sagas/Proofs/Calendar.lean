import Mathlib.Order.Monotone.Basic
import Sagas.Time.Instant

/-!
# Days and minutes of the calendar

The days of the calendar have numbers, and so have the minutes of its instants. The day after a date
is the one with the next number, over the ends of months and years; and what a clock shows that is
ahead of UTC is that much later than the instant.

* `Date.dayNumber`: the number of a day; `Date.dayNumber_lt_iff`: earlier days have smaller ones.
* `Date.next?_eq_some_iff`, `Date.previous?_eq_some_iff`: the days around a date.
* `Instant.ofLocal?_eq_some_iff`: what a clock at some offset from UTC shows.
* `Instant.ofLocal?_neg`: taking an offset off undoes adding it.
-/

namespace Sagas

/-- The number of days from the start of the year 1 to the start of a year. -/
def daysBeforeYear (year : Int) : Int :=
  365 * (year - 1) + (year - 1) / 4 - (year - 1) / 100 + (year - 1) / 400

/-- The number of days of the first months of a year. -/
def daysThrough (year : Int) : Nat → Nat
  | 0 => 0
  | month + 1 => daysThrough year month + daysIn year (month + 1)

theorem daysIn_bounds (year : Int) (month : Nat) :
    0 < daysIn year month ∧ daysIn year month ≤ 31 := by
  unfold daysIn
  split
  · split <;> decide
  · split <;> decide

theorem daysThrough_mono (year : Int) : Monotone (daysThrough year) :=
  monotone_nat_of_le_succ fun _ => Nat.le_add_right _ _

theorem daysThrough_of_pos (year : Int) {month : Nat} (h : 0 < month) :
    daysThrough year month = daysThrough year (month - 1) + daysIn year month := by
  obtain ⟨before, rfl⟩ : ∃ before, month = before + 1 := ⟨month - 1, by omega⟩
  rfl

/-- A year has 365 days, and a leap year one more. -/
theorem daysThrough_twelve (year : Int) :
    daysThrough year 12 = 365 + if isLeapYear year then 1 else 0 := by
  simp only [daysThrough, daysIn]
  by_cases hleap : isLeapYear year = true <;> simp [hleap]

/-- **A year starts** as many days after the one before as that has, leap years and others. -/
theorem daysBeforeYear_succ (year : Int) :
    daysBeforeYear (year + 1) = daysBeforeYear year + daysThrough year 12 := by
  rw [daysThrough_twelve]
  unfold daysBeforeYear
  by_cases hleap : isLeapYear year = true
  · have hrule : year % 4 = 0 ∧ (year % 100 ≠ 0 ∨ year % 400 = 0) := by
      simpa [isLeapYear] using hleap
    rw [if_pos hleap]
    omega
  · have hrule : ¬ (year % 4 = 0 ∧ (year % 100 ≠ 0 ∨ year % 400 = 0)) := by
      simpa [isLeapYear] using hleap
    rw [if_neg hleap]
    omega

theorem daysBeforeYear_mono {year other : Int} (h : year ≤ other) :
    daysBeforeYear year ≤ daysBeforeYear other := by
  unfold daysBeforeYear
  omega

namespace Date

variable {d e : Date}

theorem of?_eq_some_iff {year : Int} {month day : Nat} :
    of? year month day = some d ↔ d.year = year ∧ d.month = month ∧ d.day = day := by
  unfold of?
  constructor
  · intro h
    split at h
    · rw [← Option.some.inj h]
      exact ⟨rfl, rfl, rfl⟩
    · cases h
  · rintro ⟨rfl, rfl, rfl⟩
    exact dif_pos d.isDate

theorem exists_of? {year : Int} {month day : Nat} (h : IsDate year month day) :
    ∃ d, of? year month day = some d :=
  ⟨_, dif_pos h⟩

/-- The number of a day: 1 for the first day of the year 1. -/
def dayNumber (d : Date) : Int :=
  daysBeforeYear d.year + daysThrough d.year (d.month - 1) + d.day

/-- The days of a month come after those of the months before it. -/
theorem daysThrough_le (d : Date) :
    daysThrough d.year (d.month - 1) + d.day ≤ daysThrough d.year d.month := by
  obtain ⟨-, -, hmonth, -, -, hday⟩ := d.isDate
  rw [daysThrough_of_pos d.year hmonth]
  omega

/-- The days of a year come after those of the years before it. -/
theorem dayNumber_bounds (d : Date) :
    daysBeforeYear d.year < d.dayNumber ∧ d.dayNumber ≤ daysBeforeYear (d.year + 1) := by
  obtain ⟨-, -, -, hmonth, hday, -⟩ := d.isDate
  have hthrough := d.daysThrough_le
  have htwelve := daysThrough_mono d.year hmonth
  rw [daysBeforeYear_succ]
  unfold dayNumber
  omega

/-- One day comes before another one. -/
def Before (d e : Date) : Prop :=
  d.year < e.year ∨ d.year = e.year ∧ (d.month < e.month ∨ d.month = e.month ∧ d.day < e.day)

theorem before_trichotomy (d e : Date) : d.Before e ∨ d = e ∨ e.Before d := by
  unfold Before
  by_cases heq : d.year = e.year ∧ d.month = e.month ∧ d.day = e.day
  · obtain ⟨hyear, hmonth, hday⟩ := heq
    cases d
    cases e
    subst hyear hmonth hday
    exact .inr (.inl rfl)
  · omega

/-- Earlier days have smaller numbers. -/
theorem Before.dayNumber_lt (h : d.Before e) : d.dayNumber < e.dayNumber := by
  rcases h with hyear | ⟨hyear, hmonth | ⟨hmonth, hday⟩⟩
  · have hd := d.dayNumber_bounds.2
    have he := e.dayNumber_bounds.1
    have hyears := daysBeforeYear_mono (show d.year + 1 ≤ e.year by omega)
    omega
  · have hd := d.daysThrough_le
    have hday := e.isDate.2.2.2.2.1
    have hmonths := daysThrough_mono d.year (show d.month ≤ e.month - 1 by omega)
    unfold dayNumber
    rw [hyear] at hd hmonths ⊢
    omega
  · unfold dayNumber
    rw [hyear, hmonth]
    omega

theorem dayNumber_lt_iff : d.dayNumber < e.dayNumber ↔ d.Before e := by
  refine ⟨fun hlt => ?_, Before.dayNumber_lt⟩
  rcases before_trichotomy d e with hbefore | rfl | hafter
  · exact hbefore
  · omega
  · have hgt := hafter.dayNumber_lt
    omega

/-- **A day is known by its number.** -/
theorem eq_of_dayNumber_eq (h : d.dayNumber = e.dayNumber) : d = e := by
  rcases before_trichotomy d e with hbefore | heq | hafter
  · have hlt := hbefore.dayNumber_lt
    omega
  · exact heq
  · have hgt := hafter.dayNumber_lt
    omega

/-! ## The days around a date -/

theorem dayNumber_next (h : d.next? = some e) : e.dayNumber = d.dayNumber + 1 := by
  obtain ⟨-, -, hmonth, htwelve, -, hday⟩ := d.isDate
  unfold next? at h
  unfold dayNumber
  split at h
  · obtain ⟨hyear, hmonth, hday⟩ := of?_eq_some_iff.1 h
    rw [hyear, hmonth, hday]
    omega
  · rename_i hlast
    have hthrough := daysThrough_of_pos d.year hmonth
    split at h
    · -- the last day of a month
      obtain ⟨hyear, hnext, hfirst⟩ := of?_eq_some_iff.1 h
      rw [hyear, hnext, hfirst, Nat.add_sub_cancel, hthrough]
      omega
    · -- the last day of a year
      obtain ⟨hyear, hnext, hfirst⟩ := of?_eq_some_iff.1 h
      obtain hdecember : d.month = 12 := by omega
      rw [hdecember] at hthrough hday hlast ⊢
      rw [hyear, hnext, hfirst, daysBeforeYear_succ, hthrough]
      change _ + ((0 : Nat) : Int) + _ = _
      omega

/-- There is a day after every day but the last one. -/
theorem exists_next (h : d.dayNumber < e.dayNumber) : ∃ next, d.next? = some next := by
  obtain ⟨hfirst, hlast, hmonth, htwelve, hone, hday⟩ := d.isDate
  obtain ⟨-, hcovered, -, htwelve', -, hday'⟩ := e.isDate
  unfold next?
  split
  · exact exists_of? ⟨hfirst, hlast, hmonth, htwelve, by omega, by omega⟩
  · split
    · exact exists_of? ⟨hfirst, hlast, by omega, by omega, Nat.le_refl _, (daysIn_bounds _ _).1⟩
    · -- no day of the same year comes later
      rcases dayNumber_lt_iff.1 h with hyear | ⟨hyear, hlater | ⟨hsame, hlater⟩⟩
      · exact exists_of?
          ⟨by omega, by omega, Nat.le_refl _, by omega, Nat.le_refl _, (daysIn_bounds _ _).1⟩
      · omega
      · rw [← hyear, ← hsame] at hday'
        omega

/-- **The day after** is the one with the next number. -/
theorem next?_eq_some_iff : d.next? = some e ↔ e.dayNumber = d.dayNumber + 1 := by
  refine ⟨dayNumber_next, fun hnumber => ?_⟩
  obtain ⟨next, hnext⟩ := exists_next (d := d) (e := e) (by omega)
  have hsame := dayNumber_next hnext
  rw [hnext, eq_of_dayNumber_eq (hsame.trans hnumber.symm)]

theorem dayNumber_previous (h : d.previous? = some e) : e.dayNumber + 1 = d.dayNumber := by
  obtain ⟨-, -, hmonth, htwelve, hone, hday⟩ := d.isDate
  unfold previous? at h
  unfold dayNumber
  split at h
  · obtain ⟨hyear, hmonth, hday⟩ := of?_eq_some_iff.1 h
    rw [hyear, hmonth, hday]
    omega
  · split at h
    · -- the first day of a month
      obtain ⟨hyear, hprevious, hlast⟩ := of?_eq_some_iff.1 h
      have hthrough := daysThrough_of_pos d.year (show 0 < d.month - 1 by omega)
      rw [hyear, hprevious, hlast]
      omega
    · -- the first day of a year
      obtain ⟨hyear, hprevious, hlast⟩ := of?_eq_some_iff.1 h
      have hstart := daysBeforeYear_succ (d.year - 1)
      have hdecember : daysThrough (d.year - 1) 12 = daysThrough (d.year - 1) 11 + 31 := rfl
      obtain hjanuary : d.month = 1 := by omega
      rw [hyear, hprevious, hlast, hjanuary]
      rw [Int.sub_add_cancel] at hstart
      change _ + ((daysThrough (d.year - 1) 11 : Nat) : Int) + _ + 1 = _ + ((0 : Nat) : Int) + _
      omega

/-- There is a day before every day but the first one. -/
theorem exists_previous (h : e.dayNumber < d.dayNumber) :
    ∃ previous, d.previous? = some previous := by
  obtain ⟨hfirst, hlast, hmonth, htwelve, hone, hday⟩ := d.isDate
  obtain ⟨hcovered, -, hmonth', -, hone', -⟩ := e.isDate
  unfold previous?
  split
  · exact exists_of? ⟨hfirst, hlast, hmonth, htwelve, by omega, by omega⟩
  · split
    · exact exists_of? ⟨hfirst, hlast, by omega, by omega, (daysIn_bounds _ _).1, Nat.le_refl _⟩
    · -- no day of the same year comes earlier
      rcases dayNumber_lt_iff.1 h with hyear | ⟨hyear, hearlier | ⟨hsame, hearlier⟩⟩
      · exact exists_of? ⟨by omega, by omega, by omega, Nat.le_refl _, by omega, Nat.le_refl 31⟩
      · omega
      · omega

/-- **The day before** is the one with the number before. -/
theorem previous?_eq_some_iff : d.previous? = some e ↔ e.dayNumber + 1 = d.dayNumber := by
  refine ⟨dayNumber_previous, fun hnumber => ?_⟩
  obtain ⟨previous, hprevious⟩ := exists_previous (d := d) (e := e) (by omega)
  have hsame := dayNumber_previous hprevious
  rw [hprevious, eq_of_dayNumber_eq (d := previous) (e := e) (by omega)]

end Date

/-! ## The minutes of a clock -/

theorem TimeOfDay.ext {time time' : TimeOfDay} (hour : time.hour = time'.hour)
    (minute : time.minute = time'.minute) (second : time.second = time'.second)
    (nanos : time.nanos = time'.nanos) : time = time' := by
  cases time
  cases time'
  subst hour minute second nanos
  rfl

namespace Instant

/-- The number of the minute that a clock shows with a date and a time of day. -/
def minutes (t : Instant) : Int := t.date.dayNumber * 1440 + t.time.hour * 60 + t.time.minute

/-- The time of day of a minute of the day. -/
def timeAt (ofDay : Nat) (h : ofDay < 1440) (time : TimeOfDay) : TimeOfDay where
  hour := ofDay / 60
  minute := ofDay % 60
  second := time.second
  nanos := time.nanos
  isTimeOfDay := ⟨by omega, by omega, time.isTimeOfDay.2.2.1, time.isTimeOfDay.2.2.2⟩

theorem of?_timeAt (ofDay : Nat) (h : ofDay < 1440) (time : TimeOfDay) :
    TimeOfDay.of? (ofDay / 60) (ofDay % 60) time.second time.nanos = some (timeAt ofDay h time) :=
  dif_pos (timeAt ofDay h time).isTimeOfDay

variable {date : Date} {time : TimeOfDay} {offset : Int} {t : Instant}

/-- The date of a minute that is counted from the start of a date. -/
def shifted? (date : Date) (minute : Int) : Option Date :=
  if minute < 0 then date.previous? else if minute < 1440 then some date else date.next?

theorem shifted?_eq_some_iff {minute : Int} {other : Date} (hlow : -1440 ≤ minute)
    (hhigh : minute < 2880) :
    shifted? date minute = some other ↔ other.dayNumber = date.dayNumber + minute / 1440 := by
  unfold shifted?
  split
  · rw [Date.previous?_eq_some_iff]
    omega
  · split
    · rw [Option.some_inj]
      constructor
      · rintro rfl
        omega
      · intro hnumber
        exact Date.eq_of_dayNumber_eq (by omega)
    · rw [Date.next?_eq_some_iff]
      omega

theorem ofLocal?_eq (date : Date) (time : TimeOfDay) (offset : Int) :
    ofLocal? date time offset =
      (shifted? date (time.hour * 60 + time.minute - offset)).map fun date =>
        ⟨date, timeAt ((time.hour * 60 + time.minute - offset) % 1440).toNat (by omega) time⟩ := by
  have htime := of?_timeAt ((time.hour * 60 + time.minute - offset) % 1440).toNat (by omega) time
  unfold ofLocal? shifted?
  simp only [htime]
  split
  · cases date.previous? <;> rfl
  · split
    · rfl
    · cases date.next? <;> rfl

/-- **What a clock shows at an offset from UTC**: the instant comes that many minutes before it, in
the same second. -/
theorem ofLocal?_eq_some_iff (hlow : -1440 < offset) (hhigh : offset < 1440) :
    ofLocal? date time offset = some t ↔ t.minutes = minutes ⟨date, time⟩ - offset ∧
      t.time.second = time.second ∧ t.time.nanos = time.nanos := by
  obtain ⟨hhour, hminute, -, -⟩ := time.isTimeOfDay
  obtain ⟨hhour', hminute', -, -⟩ := t.time.isTimeOfDay
  rw [ofLocal?_eq, Option.map_eq_some_iff]
  constructor
  · rintro ⟨other, hshifted, rfl⟩
    rw [shifted?_eq_some_iff (by omega) (by omega)] at hshifted
    refine ⟨?_, rfl, rfl⟩
    simp only [minutes, timeAt]
    omega
  · rintro ⟨hminutes, hsecond, hnanos⟩
    simp only [minutes] at hminutes
    refine ⟨t.date, ?_, ?_⟩
    · rw [shifted?_eq_some_iff (by omega) (by omega)]
      omega
    · have hsameHour : ((time.hour * 60 + time.minute - offset) % 1440).toNat / 60 =
          t.time.hour := by
        omega
      have hsameMinute : ((time.hour * 60 + time.minute - offset) % 1440).toNat % 60 =
          t.time.minute := by
        omega
      exact congrArg (mk t.date) (TimeOfDay.ext hsameHour hsameMinute hsecond.symm
        hnanos.symm)

/-- **Taking an offset off undoes adding it**, over midnight and the ends of months and years. -/
theorem ofLocal?_neg {shown : Instant} (hlow : -1440 < offset) (hhigh : offset < 1440) :
    ofLocal? shown.date shown.time offset = some t ↔
      ofLocal? t.date t.time (-offset) = some shown := by
  rw [ofLocal?_eq_some_iff hlow hhigh, ofLocal?_eq_some_iff (by omega) (by omega)]
  simp only [minutes]
  omega

/-- At offset zero a clock shows the instant itself. -/
theorem ofLocal?_zero (t : Instant) : ofLocal? t.date t.time 0 = some t := by
  rw [ofLocal?_eq_some_iff (by decide) (by decide)]
  simp

end Instant

end Sagas
