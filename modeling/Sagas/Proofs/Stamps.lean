import Sagas.Proofs.Calendar
import Sagas.Time.Rfc3339

/-!
# Time stamps that read back

A time stamp is written in fields of fixed width, so each reader takes just the characters of its
own field. What a clock shows at any offset from UTC, with any number of digits for the fraction of
a second, denotes the instant that the calendar makes of it; and the stamp that is written for an
instant denotes that instant.

* `number?_append`: a row of digits reads as its value.
* `clockText`, `offsetText`: what a clock shows, and its offset.
* `parse?_clock`: the stamp of a clock denotes the instant shown.
* `parse?_render`: what is written for an instant reads back.
-/

namespace Sagas

namespace Text

variable {c : Char} {width n : Nat} {digits rest : List Char}

/-- What comes after a number: nothing, or something that is no digit. -/
def Stops (rest : List Char) : Prop := ∀ c ∈ rest.head?, isDigit c = false

/-- **A row of digits reads as its value**, if it is as long as a number may be, or shorter and
something else comes after it. -/
theorem number?_append (hdigits : ∀ c ∈ digits, isDigit c = true) (hne : digits ≠ [])
    (hlength : digits.length = width ∨ digits.length ≤ width ∧ Stops rest) :
    number? width (digits ++ rest) = some (valueOf digits, rest) := by
  have htaken : ((digits ++ rest).take width).takeWhile isDigit = digits := by
    rcases hlength with rfl | ⟨hle, hstops⟩
    · rw [List.take_left]
      have hall := takeWhile_append_of_stops hdigits
        (show ∀ c ∈ ([] : List Char).head?, isDigit c = false by simp)
      rwa [List.append_nil] at hall
    · rw [List.take_append, List.take_of_length_le hle]
      refine takeWhile_append_of_stops hdigits fun c hc => hstops c ?_
      cases rest with
      | nil => simp at hc
      | cons d rest =>
        cases hwidth : width - digits.length with
        | zero => simp [hwidth] at hc
        | succ k =>
          rw [hwidth, List.take_succ_cons] at hc
          exact hc
  unfold number?
  simp only [htaken, List.drop_left]
  rw [if_neg]
  rw [List.isEmpty_iff]
  exact hne

/-- A number in as many digits as are read is read. -/
theorem number?_padded (hwidth : 0 < width) (hn : n < Nat.pow 10 width) (rest : List Char) :
    number? width (padded width n ++ rest) = some (n, rest) := by
  have hne : padded width n ≠ [] := by
    intro hnil
    have hlength := length_padded width n
    rw [hnil, List.length_nil] at hlength
    omega
  have hread : number? width (padded width n ++ rest) = some (valueOf (padded width n), rest) :=
    number?_append (fun _ => isDigit_of_mem_padded) hne (.inl (length_padded width n))
  rw [hread, valueOf_padded hn]

end Text

open Text

/-! ## What a clock shows -/

namespace Rfc3339

/-- The digits of a fraction of a second, after a point. -/
def fractionOf (digits : List Char) : List Char := if digits.isEmpty then [] else '.' :: digits

/-- The nanoseconds of a fraction of a second; digits after the ninth do not count. -/
def nanosOf (digits : List Char) : Nat :=
  valueOf (digits.take 9) * Nat.pow 10 (9 - (digits.take 9).length)

/-- What a clock shows, with some digits of the fraction of a second. -/
def clockText (shown : Instant) (digits : List Char) : List Char :=
  yearText shown.date.year ++ '-' :: padded 2 shown.date.month ++ '-' :: padded 2 shown.date.day ++
    'T' :: padded 2 shown.time.hour ++ ':' :: padded 2 shown.time.minute ++
      ':' :: padded 2 shown.time.second ++ fractionOf digits

/-- A clock's offset from UTC, in minutes: its sign, hours and minutes. -/
def offsetText (offset : Int) : List Char :=
  (if offset < 0 then '-' else '+') :: padded 2 (offset.natAbs / 60) ++
    ':' :: padded 2 (offset.natAbs % 60)

variable {n width : Nat} {c : Char} {digits rest : List Char}

/-! ## Fields -/

/-- A number of some digits begins with one. -/
theorem exists_padded_eq_cons (hwidth : 0 < width) (n : Nat) :
    ∃ c tail, padded width n = c :: tail ∧ isDigit c = true := by
  cases hpadded : padded width n with
  | nil =>
    have hlength := length_padded width n
    rw [hpadded, List.length_nil] at hlength
    omega
  | cons c tail => exact ⟨c, tail, rfl, isDigit_of_mem_padded (hpadded ▸ List.mem_cons_self)⟩

theorem skipBlank_cons (h : isBlank c = false) (rest : List Char) :
    skipBlank (c :: rest) = c :: rest := by
  simp [skipBlank, h]

theorem skipBlank_padded (hwidth : 0 < width) (n : Nat) (rest : List Char) :
    skipBlank (padded width n ++ rest) = padded width n ++ rest := by
  obtain ⟨c, tail, hpadded, hdigit⟩ := exists_padded_eq_cons hwidth n
  rw [hpadded]
  exact skipBlank_cons (isBlank_of_isDigit hdigit) _

theorem field?_padded (hn : n < 100) (rest : List Char) :
    field? (padded 2 n ++ rest) = some (n, rest) := by
  unfold field?
  rw [skipBlank_padded (by decide)]
  exact number?_padded (by decide) hn rest

theorem separator?_cons (h : isBlank c = false) (rest : List Char) :
    separator? c (c :: rest) = some rest := by
  simp [separator?, skipBlank_cons h]

/-- A year of four digits begins with no sign. -/
theorem year?_padded (hn : n < 10000) (rest : List Char) :
    year? (padded 4 n ++ rest) = some ((n : Int), rest) := by
  obtain ⟨c, tail, hpadded, hdigit⟩ := exists_padded_eq_cons (show 0 < 4 by decide) n
  have hread := number?_padded (show 0 < 4 by decide) hn rest
  unfold year?
  rw [skipBlank_padded (by decide)]
  rw [hpadded, List.cons_append] at hread ⊢
  split
  · rename_i heq
    rw [(List.cons.inj heq).1] at hdigit
    cases hdigit
  · rename_i heq
    rw [(List.cons.inj heq).1] at hdigit
    cases hdigit
  · rw [hread]
    rfl

theorem date?_text {d : Date} (hlow : 0 ≤ d.year) (hhigh : d.year ≤ 9999) (rest : List Char) :
    date? (yearText d.year ++ ('-' :: padded 2 d.month ++ ('-' :: padded 2 d.day ++ rest))) =
      some (d, rest) := by
  have hyear : yearText d.year = padded 4 d.year.toNat := if_pos ⟨hlow, hhigh⟩
  have hnat : (d.year.toNat : Int) = d.year := Int.toNat_of_nonneg hlow
  have hdays := (daysIn_bounds d.year d.month).2
  obtain ⟨-, -, -, hmonth, -, hday⟩ := d.isDate
  have hdate : Date.of? d.year d.month d.day = some d := Date.of?_eq_some_iff.2 ⟨rfl, rfl, rfl⟩
  unfold date?
  rw [hyear, year?_padded (by omega)]
  simp [separator?_cons (c := '-') (by decide), field?_padded (n := d.month) (by omega),
    field?_padded (n := d.day) (by omega), hnat, hdate]

/-! ## Times of day -/

/-- Where an offset begins. -/
def BeginsOffset (c : Char) : Prop := c = 'Z' ∨ c = '+' ∨ c = '-'

theorem BeginsOffset.plain (h : BeginsOffset c) :
    isDigit c = false ∧ isBlank c = false ∧ c ≠ '.' := by
  rcases h with rfl | rfl | rfl <;> decide

theorem BeginsOffset.stops (h : BeginsOffset c) (rest : List Char) : Stops (c :: rest) := by
  intro d hd
  rw [← Option.some.inj hd]
  exact h.plain.1

/-- **A fraction of a second** with any number of digits is read. -/
theorem fraction?_of (hdigits : ∀ c ∈ digits, isDigit c = true) (hc : BeginsOffset c)
    (rest : List Char) :
    fraction? (fractionOf digits ++ c :: rest) = some (nanosOf digits, c :: rest) := by
  unfold fractionOf
  by_cases hnone : digits = []
  · subst hnone
    change fraction? (c :: rest) = some (0, c :: rest)
    unfold fraction?
    split
    · rename_i heq
      exact absurd (List.cons.inj heq).1 hc.plain.2.2
    · rfl
  · have hempty : digits.isEmpty = false := by
      simpa using hnone
    have hne : digits.take 9 ≠ [] := by
      simp [hnone]
    have htaken : ∀ c ∈ digits.take 9, isDigit c = true := fun c hmem =>
      hdigits c (List.mem_of_mem_take hmem)
    have hdropped : ∀ c ∈ digits.drop 9, isDigit c = true := fun c hmem =>
      hdigits c (List.mem_of_mem_drop hmem)
    -- nine digits are read, or fewer if something else comes after them
    have hlength : (digits.take 9).length = 9 ∨
        (digits.take 9).length ≤ 9 ∧ Stops (digits.drop 9 ++ c :: rest) := by
      by_cases hlong : 9 ≤ digits.length
      · exact .inl (by simp [hlong])
      · refine .inr ⟨List.length_take_le 9 digits, ?_⟩
        rw [List.drop_eq_nil_of_le (by omega), List.nil_append]
        exact hc.stops rest
    have hread := number?_append htaken hne hlength
    rw [← List.append_assoc, List.take_append_drop] at hread
    have hused : (digits ++ c :: rest).length - (digits.drop 9 ++ c :: rest).length =
        (digits.take 9).length := by
      simp only [List.length_append, List.length_take, List.length_drop]
      omega
    rw [hempty]
    change ((number? 9 (digits ++ c :: rest)).bind fun p =>
      some (p.1 * Nat.pow 10 (9 - ((digits ++ c :: rest).length - p.2.length)),
        p.2.dropWhile isDigit)) = _
    rw [hread, Option.bind_some, hused, dropWhile_append_of_stops hdropped (hc.stops rest)]
    rfl

theorem time?_text {time : TimeOfDay} (hdigits : ∀ c ∈ digits, isDigit c = true)
    (hnanos : nanosOf digits = time.nanos) (hc : BeginsOffset c) (rest : List Char) :
    time? (padded 2 time.hour ++ (':' :: padded 2 time.minute ++ (':' :: padded 2 time.second ++
      (fractionOf digits ++ c :: rest)))) = some (time, c :: rest) := by
  obtain ⟨hhour, hminute, hsecond, -⟩ := time.isTimeOfDay
  have htime : TimeOfDay.of? time.hour time.minute time.second (nanosOf digits) = some time := by
    rw [hnanos]
    exact dif_pos time.isTimeOfDay
  unfold time?
  rw [field?_padded (by omega)]
  simp [separator?_cons (c := ':') (by decide), field?_padded (n := time.minute) (by omega),
    field?_padded (n := time.second) (by omega), fraction?_of hdigits hc, htime]

theorem twoDigits?_padded (hn : n < 100) (rest : List Char) :
    twoDigits? (padded 2 n ++ rest) = some (n, rest) := by
  have hvalue : valueOf (padded 2 n) = n := valueOf_padded hn
  have hdigit : ∀ c ∈ padded 2 n, isDigit c = true := fun _ => isDigit_of_mem_padded
  obtain ⟨c, d, hpadded⟩ : ∃ c d, padded 2 n = [c, d] := ⟨_, _, rfl⟩
  rw [hpadded] at hvalue hdigit ⊢
  simp [twoDigits?, hdigit c (by simp), hdigit d (by simp), hvalue]

/-- **An offset** of less than a day is read. -/
theorem offset?_text {offset : Int} (hlow : -1440 < offset) (hhigh : offset < 1440) :
    offset? (offsetText offset) = some (offset, []) := by
  have hminutes : offsetMinutes? (padded 2 (offset.natAbs / 60) ++
      ':' :: padded 2 (offset.natAbs % 60)) = some (offset.natAbs, []) := by
    have hlast := twoDigits?_padded (n := offset.natAbs % 60) (by omega) []
    rw [List.append_nil] at hlast
    obtain ⟨c, tail, hpadded, hdigit⟩ :=
      exists_padded_eq_cons (show 0 < 2 by decide) (offset.natAbs % 60)
    have hcolon : c ≠ ':' := fun heq => by
      rw [heq] at hdigit
      cases hdigit
    have hskip : (':' :: padded 2 (offset.natAbs % 60)).dropWhile
        (fun c => c == ':' || isBlank c) = padded 2 (offset.natAbs % 60) := by
      rw [hpadded]
      simp [hcolon, isBlank_of_isDigit hdigit]
    have hsum : offset.natAbs / 60 * 60 + offset.natAbs % 60 = offset.natAbs :=
      Nat.div_add_mod' _ _
    have hbound : offset.natAbs % 60 < 60 ∧ offset.natAbs < 1440 := by omega
    unfold offsetMinutes?
    rw [twoDigits?_padded (by omega)]
    simp only [Option.bind_eq_bind, Option.bind_some, hskip, hlast, hsum]
    exact if_pos hbound
  unfold offsetText offset?
  rw [List.cons_append]
  by_cases hsign : offset < 0
  · rw [if_pos hsign, if_neg (by simp)]
    simp only [hminutes, Option.map_some]
    rw [show -(offset.natAbs : Int) = offset by omega]
  · rw [if_neg hsign, if_neg (by simp)]
    simp only [hminutes, Option.map_some]
    rw [show (offset.natAbs : Int) = offset by omega]

/-! ## Stamps -/

/-- **The stamp of a clock** denotes the instant that the calendar makes of what the clock shows. -/
theorem parse?_of {shown : Instant} {offset : Int} (hlow : 0 ≤ shown.date.year)
    (hhigh : shown.date.year ≤ 9999) (hdigits : ∀ c ∈ digits, isDigit c = true)
    (hnanos : nanosOf digits = shown.time.nanos) (hc : BeginsOffset c)
    (hoffset : offset? (c :: rest) = some (offset, [])) :
    parse? (clockText shown digits ++ c :: rest) =
      Instant.ofLocal? shown.date shown.time offset := by
  have hdate := date?_text hlow hhigh ('T' :: (padded 2 shown.time.hour ++
    (':' :: padded 2 shown.time.minute ++ (':' :: padded 2 shown.time.second ++
      (fractionOf digits ++ c :: rest)))))
  have htime := time?_text hdigits hnanos hc rest
  have hmark : ∀ cs, afterMark? ('T' :: cs) = some cs := fun _ => rfl
  have htext : clockText shown digits ++ c :: rest = yearText shown.date.year ++
      ('-' :: padded 2 shown.date.month ++ ('-' :: padded 2 shown.date.day ++
        'T' :: (padded 2 shown.time.hour ++ (':' :: padded 2 shown.time.minute ++
          (':' :: padded 2 shown.time.second ++ (fractionOf digits ++ c :: rest)))))) := by
    simp only [clockText, List.append_assoc, List.cons_append]
  unfold parse?
  rw [htext, hdate]
  simp only [Option.bind_eq_bind, Option.bind_some, hmark, htime, skipBlank_cons hc.plain.2.1,
    hoffset]
  rfl

theorem parse?_clock {shown : Instant} {offset : Int} (hlow : 0 ≤ shown.date.year)
    (hhigh : shown.date.year ≤ 9999) (hdigits : ∀ c ∈ digits, isDigit c = true)
    (hnanos : nanosOf digits = shown.time.nanos) (hless : -1440 < offset) (hmore : offset < 1440) :
    parse? (clockText shown digits ++ offsetText offset) =
      Instant.ofLocal? shown.date shown.time offset := by
  have hoffset := offset?_text hless hmore
  have hsign : BeginsOffset (if offset < 0 then '-' else '+') := by
    split
    · exact .inr (.inr rfl)
    · exact .inr (.inl rfl)
  exact parse?_of hlow hhigh hdigits hnanos hsign hoffset

/-! ## What is written -/

/-- The digits that are written for the fraction of a second: the fewest groups of three. -/
def digitsOf (nanos : Nat) : List Char :=
  if nanos = 0 then []
  else if nanos % 1000000 = 0 then padded 3 (nanos / 1000000)
  else if nanos % 1000 = 0 then padded 6 (nanos / 1000)
  else padded 9 nanos

theorem isDigit_of_mem_digitsOf {nanos : Nat} (h : c ∈ digitsOf nanos) : isDigit c = true := by
  unfold digitsOf at h
  split at h
  · simp at h
  · split at h
    · exact isDigit_of_mem_padded h
    · split at h <;> exact isDigit_of_mem_padded h

theorem fractionText_eq (nanos : Nat) : fractionText nanos = fractionOf (digitsOf nanos) := by
  have hsome : ∀ {width n}, 0 < width → fractionOf (padded width n) = '.' :: padded width n := by
    intro width n hwidth
    obtain ⟨c, tail, hpadded, -⟩ := exists_padded_eq_cons hwidth n
    rw [hpadded]
    rfl
  unfold fractionText digitsOf
  split
  · rfl
  · split
    · exact (hsome (by decide)).symm
    · split <;> exact (hsome (by decide)).symm

theorem nanosOf_padded (hwidth : width ≤ 9) (hn : n < Nat.pow 10 width) :
    nanosOf (padded width n) = n * Nat.pow 10 (9 - width) := by
  unfold nanosOf
  rw [List.take_of_length_le (by rw [length_padded]; exact hwidth), length_padded,
    valueOf_padded hn]

/-- **No digit is lost** of a fraction of a second. -/
theorem nanosOf_digitsOf {nanos : Nat} (h : nanos < 1000000000) :
    nanosOf (digitsOf nanos) = nanos := by
  unfold digitsOf
  split
  · rename_i hzero
    rw [hzero]
    rfl
  · split
    · rw [nanosOf_padded (by decide) (show nanos / 1000000 < 1000 by omega)]
      change nanos / 1000000 * 1000000 = nanos
      omega
    · split
      · rw [nanosOf_padded (by decide) (show nanos / 1000 < 1000000 by omega)]
        change nanos / 1000 * 1000 = nanos
        omega
      · rw [nanosOf_padded (by decide) h]
        exact Nat.mul_one nanos

theorem render_eq (t : Instant) :
    render t = clockText t (digitsOf t.time.nanos) ++ ['Z'] := by
  unfold render clockText
  rw [fractionText_eq]

/-- **What is written for an instant reads back**, in the years of four digits. -/
theorem parse?_render {t : Instant} (hlow : 0 ≤ t.date.year) (hhigh : t.date.year ≤ 9999) :
    parse? (render t) = some t := by
  rw [render_eq, parse?_of hlow hhigh (fun _ => isDigit_of_mem_digitsOf)
    (nanosOf_digitsOf t.time.isTimeOfDay.2.2.2) (.inl rfl) rfl]
  exact Instant.ofLocal?_zero t

/-- **A stamp shows an instant**: it is what a clock shows at that instant, at less than a day from
UTC, with any digits that make the fraction of the second. -/
inductive Shows (t : Instant) : List Char → Prop where
  | clock {shown : Instant} {offset : Int} {digits : List Char} :
      -1440 < offset → offset < 1440 → Instant.ofLocal? t.date t.time (-offset) = some shown →
      0 ≤ shown.date.year → shown.date.year ≤ 9999 → (∀ c ∈ digits, isDigit c = true) →
      nanosOf digits = t.time.nanos → Shows t (clockText shown digits ++ offsetText offset)
  | written : 0 ≤ t.date.year → t.date.year ≤ 9999 → Shows t (render t)

/-- **A stamp that shows an instant denotes it**, wherever its clock is. -/
theorem Shows.parse?_eq {t : Instant} {stamp : List Char} (h : Shows t stamp) :
    parse? stamp = some t := by
  cases h with
  | clock hless hmore hshown hlow hhigh hdigits hnanos =>
    have hsame := ((Instant.ofLocal?_eq_some_iff (by omega) (by omega)).1 hshown).2.2
    rw [parse?_clock hlow hhigh hdigits (hnanos.trans hsame.symm) hless hmore]
    exact (Instant.ofLocal?_neg hless hmore).2 hshown
  | written hlow hhigh => exact parse?_render hlow hhigh

end Rfc3339

end Sagas
