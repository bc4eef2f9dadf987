import Mathlib.Data.List.Induction
import Sagas.Config

/-!
# Settings as they are written

The number of reruns is read from the value of a variable: white space around it is taken away, and
what is left has to be a count, which fits into 32 bits. Anything else gives the default.

* `Numeral`, `Count`: how numbers are written, and which one it is.
* `count?_eq_some_iff`: the reader takes just the counts below 2 ^ 32. It does so digit by digit and
  never holds a larger number, however many zeros lead.
* `Malformed`: texts that are not the count of any number below 2 ^ 32.
* `retries_read`: what the setting is, for any value of its variable.
-/

namespace Sagas

variable {cs digits core : List Char} {c : Char} {n m d : Nat}

/-! ## How a count is written -/

/-- A row of decimal digits and the number that it denotes. Zeros may lead. -/
inductive Numeral : List Char → Nat → Prop where
  | digit {d : Nat} (h : d < 10) : Numeral [d.digitChar] d
  | more {digits : List Char} {n d : Nat} (h : Numeral digits n) (hd : d < 10) :
      Numeral (digits ++ [d.digitChar]) (10 * n + d)

/-- A numeral, with a plus sign in front or without one. -/
inductive Count : List Char → Nat → Prop where
  | plain {digits : List Char} {n : Nat} (h : Numeral digits n) : Count digits n
  | signed {digits : List Char} {n : Nat} (h : Numeral digits n) : Count ('+' :: digits) n

/-- What stands in a value for a number: a count with white space around it. -/
def Stands (value : String) (n : Nat) : Prop :=
  ∃ core, Text.Trimmed value.toList core ∧ Count core n

theorem isDigit_iff : Text.isDigit c = true ↔ ∃ d < 10, c = Nat.digitChar d := by
  constructor
  · intro h
    have hbounds : 48 ≤ c.toNat ∧ c.toNat ≤ 57 := by simpa [Text.isDigit] using h
    refine ⟨c.toNat - 48, by omega, ?_⟩
    apply Char.toNat_inj.1
    rw [Nat.toNat_digitChar_of_lt_ten (by omega)]
    omega
  · rintro ⟨d, hd, rfl⟩
    simp [Text.isDigit, Nat.toNat_digitChar_of_lt_ten hd]
    omega

theorem valueOf_concat_digit (digits : List Char) (h : d < 10) :
    Text.valueOf (digits ++ [d.digitChar]) = 10 * Text.valueOf digits + d := by
  rw [Text.valueOf_concat, Nat.toNat_digitChar_of_lt_ten h]
  omega

theorem valueOf_digit (h : d < 10) : Text.valueOf [d.digitChar] = d :=
  (valueOf_concat_digit [] h).trans (Nat.zero_add d)

/-- **Numerals** are the rows of digits, and denote their values. -/
theorem numeral_iff : Numeral digits n ↔
    digits ≠ [] ∧ (∀ c ∈ digits, Text.isDigit c = true) ∧ Text.valueOf digits = n := by
  constructor
  · intro h
    induction h with
    | digit hd =>
      have hdigit := isDigit_iff.2 ⟨_, hd, rfl⟩
      exact ⟨List.cons_ne_nil _ _, List.forall_mem_singleton.2 hdigit, valueOf_digit hd⟩
    | more h hd ih =>
      obtain ⟨-, hdigits, hvalue⟩ := ih
      refine ⟨List.concat_ne_nil _ _, ?_, ?_⟩
      · intro c hc
        rcases List.mem_append.1 hc with hc | hc
        · exact hdigits c hc
        · exact isDigit_iff.2 ⟨_, hd, List.mem_singleton.1 hc⟩
      · rw [valueOf_concat_digit _ hd, hvalue]
  · rintro ⟨hne, hdigits, rfl⟩
    induction digits using List.reverseRecOn with
    | nil => exact absurd rfl hne
    | append_singleton digits c ih =>
      obtain ⟨d, hd, rfl⟩ := isDigit_iff.1 (hdigits c (by simp))
      rcases eq_or_ne digits [] with rfl | hmore
      · rw [List.nil_append, valueOf_digit hd]
        exact .digit hd
      · rw [valueOf_concat_digit _ hd]
        exact .more (ih hmore fun c hc => hdigits c (List.mem_append_left _ hc)) hd

theorem Numeral.isDigit (h : Numeral digits n) (hc : c ∈ digits) : Text.isDigit c = true :=
  (numeral_iff.1 h).2.1 c hc

theorem Numeral.eq (h : Numeral digits n) (h' : Numeral digits m) : n = m :=
  (numeral_iff.1 h).2.2.symm.trans (numeral_iff.1 h').2.2

theorem Count.iff_of_ne (h : ∀ digits, cs ≠ '+' :: digits) : Count cs n ↔ Numeral cs n := by
  refine ⟨fun hcount => ?_, .plain⟩
  cases hcount with
  | plain hnumeral => exact hnumeral
  | signed => exact absurd rfl (h _)

/-- A sign is no digit, so what stands behind it is the numeral. -/
theorem Count.signed_iff : Count ('+' :: digits) n ↔ Numeral digits n := by
  refine ⟨fun hcount => ?_, .signed⟩
  cases hcount with
  | plain hnumeral => exact absurd (hnumeral.isDigit List.mem_cons_self) (by decide)
  | signed hnumeral => exact hnumeral

/-- A count denotes one number. -/
theorem Count.eq (h : Count cs n) (h' : Count cs m) : n = m := by
  cases h with
  | plain hnumeral =>
    cases h' with
    | plain hother => exact hnumeral.eq hother
    | signed => exact absurd (hnumeral.isDigit List.mem_cons_self) (by decide)
  | signed hnumeral => exact hnumeral.eq (Count.signed_iff.1 h')

namespace Config

/-! ## How it is read -/

theorem push?_eq_some_iff {number next : UInt32} : push? number c = some next ↔
    Text.isDigit c = true ∧ 10 * number.toNat + (c.toNat - 48) = next.toNat := by
  have hsize := next.toNat_lt_size
  unfold push?
  dsimp only
  constructor
  · intro h
    split at h
    · next hfits =>
      rw [← Option.some.inj h, UInt32.toNat_ofNat_of_lt' hfits.2]
      exact ⟨hfits.1, rfl⟩
    · cases h
  · rintro ⟨hdigit, hnext⟩
    rw [hnext, if_pos ⟨hdigit, hsize⟩, UInt32.ofNat_toNat]

/-- **Digit by digit** a row of digits is read as its value, if that fits, by induction from its
last digit. What is read before the last digit is no larger than the whole, so zeros in front take
no room and no digit is refused too early. -/
theorem foldlM_push?_eq_some_iff {number : UInt32} : digits.foldlM push? 0 = some number ↔
    (∀ c ∈ digits, Text.isDigit c = true) ∧ Text.valueOf digits = number.toNat := by
  induction digits using List.reverseRecOn generalizing number with
  | nil =>
    have hzero : some (0 : UInt32) = some number ↔ Text.valueOf [] = number.toNat := by
      rw [Option.some_inj, ← UInt32.toNat_inj]
      rfl
    simpa using hzero
  | append_singleton digits c ih =>
    rw [Text.valueOf_concat]
    simp only [List.foldlM_append, List.foldlM_cons, List.foldlM_nil, bind_pure,
      Option.bind_eq_bind, Option.bind_eq_some_iff, ih, push?_eq_some_iff]
    constructor
    · rintro ⟨before, ⟨hdigits, hvalue⟩, hdigit, hnumber⟩
      refine ⟨?_, hvalue ▸ hnumber⟩
      intro c hc
      rcases List.mem_append.1 hc with hc | hc
      · exact hdigits c hc
      · exact List.mem_singleton.1 hc ▸ hdigit
    · rintro ⟨hdigits, hnumber⟩
      -- the digits before the last one fit because the whole does
      have hsize := number.toNat_lt_size
      have hfits : Text.valueOf digits < UInt32.size := by omega
      have hbefore : (UInt32.ofNat (Text.valueOf digits)).toNat = Text.valueOf digits :=
        UInt32.toNat_ofNat_of_lt' hfits
      refine ⟨UInt32.ofNat (Text.valueOf digits), ⟨?_, hbefore.symm⟩, hdigits c (by simp), ?_⟩
      · exact fun c hc => hdigits c (List.mem_append_left _ hc)
      · rw [hbefore, hnumber]

/-- **The reader takes the counts** of 32 bits, and nothing else. -/
theorem count?_eq_some_iff {number : UInt32} :
    count? cs = some number ↔ Count cs number.toNat := by
  have hread : ∀ digits, (if digits = [] then none else digits.foldlM push? 0) = some number ↔
      Numeral digits number.toNat := by
    intro digits
    rw [numeral_iff, ← foldlM_push?_eq_some_iff]
    split
    · next hempty => simp [hempty]
    · next hne => simp [hne]
  unfold count?
  dsimp only
  split
  · next digits =>
    rw [Count.signed_iff]
    exact hread digits
  · next hunsigned =>
    rw [Count.iff_of_ne hunsigned]
    exact hread cs

/-! ## What is no count -/

/-- **Texts that are not the count** of any number below 2 ^ 32. -/
inductive Malformed : List Char → Prop where
  | empty : Malformed []
  | plus : Malformed ['+']
  | minus {core : List Char} (h : '-' ∈ core) : Malformed core
  | blank {core : List Char} {c : Char} (h : c ∈ core) (hblank : Text.isBlank c = true) :
      Malformed core
  /-- Among them are the digits of other scripts. -/
  | foreign {core : List Char} {c : Char} (h : c ∈ core) (hforeign : 128 ≤ c.toNat) :
      Malformed core
  | large {core : List Char} {n : Nat} (h : Count core n) (hlarge : UInt32.size ≤ n) :
      Malformed core

end Config

theorem Count.ne_nil (h : Count cs n) : cs ≠ [] := by
  cases h with
  | plain hnumeral => exact (numeral_iff.1 hnumeral).1
  | signed => exact List.cons_ne_nil _ _

theorem Count.isDigit_or (h : Count cs n) (hc : c ∈ cs) : Text.isDigit c = true ∨ c = '+' := by
  cases h with
  | plain hnumeral => exact .inl (hnumeral.isDigit hc)
  | signed hnumeral =>
    rcases List.mem_cons.1 hc with rfl | hc
    · exact .inr rfl
    · exact .inl (hnumeral.isDigit hc)

namespace Config

theorem Malformed.not_count (h : Malformed core) (hn : n < UInt32.size) : ¬ Count core n := by
  intro hcount
  cases h with
  | empty => exact hcount.ne_nil rfl
  | plus => exact (numeral_iff.1 (Count.signed_iff.1 hcount)).1 rfl
  | minus h => exact absurd (hcount.isDigit_or h) (by decide)
  | blank h hblank =>
    rcases hcount.isDigit_or h with hdigit | rfl
    · rw [Text.isBlank_of_isDigit hdigit] at hblank
      cases hblank
    · exact absurd hblank (by decide)
  | foreign h hforeign =>
    rcases hcount.isDigit_or h with hdigit | rfl
    · simp only [Text.isDigit, Bool.and_eq_true, decide_eq_true_eq] at hdigit
      omega
    · exact absurd hforeign (by decide)
  | large h hlarge =>
    have := hcount.eq h
    omega

/-! ## The setting -/

/-- The variable that holds the number of reruns. -/
def retriesVariable : String := "SAGA_CONCURRENCY_RETRIES"

/-- How the number of reruns is read from a look-up of variables. -/
structure ReadsRetries (lookup : String → Option String) : Prop where
  /-- The number below 2 ^ 32 that stands in the value is taken. -/
  counted : ∀ value n, lookup retriesVariable = some value → Stands value n → n < UInt32.size →
    (ofLookup lookup).concurrencyRetries.toNat = n
  /-- If none stands there the default is. -/
  otherwise : ∀ value, lookup retriesVariable = some value →
    (∀ n < UInt32.size, ¬ Stands value n) →
    (ofLookup lookup).concurrencyRetries = default.concurrencyRetries
  /-- So it is if what the value holds between white space is malformed. -/
  malformed : ∀ value core, lookup retriesVariable = some value →
    Text.Trimmed value.toList core → Malformed core →
    (ofLookup lookup).concurrencyRetries = default.concurrencyRetries
  /-- So it is if the variable is not set. -/
  unset : lookup retriesVariable = none →
    (ofLookup lookup).concurrencyRetries = default.concurrencyRetries
  /-- No other variable is of any matter. -/
  alone : ∀ other, other retriesVariable = lookup retriesVariable →
    (ofLookup other).concurrencyRetries = (ofLookup lookup).concurrencyRetries

/-- One variable decides. -/
theorem retries_eq (lookup : String → Option String) : (ofLookup lookup).concurrencyRetries =
    ((lookup retriesVariable).bind fun value => count? (Text.trim value.toList)).getD
      default.concurrencyRetries := rfl

/-- What a value is read as. -/
theorem retries_of_value {lookup : String → Option String} {value : String}
    (h : lookup retriesVariable = some value) : (ofLookup lookup).concurrencyRetries =
      (count? (Text.trim value.toList)).getD default.concurrencyRetries := by
  rw [retries_eq, h, Option.bind_some]

theorem stands_of_count? {value : String} {number : UInt32}
    (h : count? (Text.trim value.toList) = some number) : Stands value number.toNat :=
  ⟨_, Text.trimmed_trim _, count?_eq_some_iff.1 h⟩

/-- **The number of reruns** is the one that stands in the value of its variable, or the default. -/
theorem retries_read (lookup : String → Option String) : ReadsRetries lookup := by
  have hdefault : ∀ value, lookup retriesVariable = some value →
      (∀ n < UInt32.size, ¬ Stands value n) →
      (ofLookup lookup).concurrencyRetries = default.concurrencyRetries := by
    intro value hvalue hnone
    rw [retries_of_value hvalue]
    cases hcount : count? (Text.trim value.toList) with
    | none => rfl
    | some number => exact absurd (stands_of_count? hcount) (hnone _ number.toNat_lt_size)
  constructor
  · rintro value n hvalue ⟨core, htrimmed, hcount⟩ hn
    have hnumber : (UInt32.ofNat n).toNat = n := UInt32.toNat_ofNat_of_lt' hn
    rw [retries_of_value hvalue, htrimmed.eq_trim, count?_eq_some_iff.2 (hnumber.symm ▸ hcount)]
    exact hnumber
  · exact hdefault
  · intro value core hvalue htrimmed hmalformed
    refine hdefault value hvalue ?_
    rintro n hn ⟨other, hother, hcount⟩
    obtain rfl : core = other := htrimmed.eq_trim.symm.trans hother.eq_trim
    exact hmalformed.not_count hn hcount
  · intro hunset
    rw [retries_eq, hunset, Option.bind_none, Option.getD_none]
  · intro other hsame
    rw [retries_eq, retries_eq, hsame]

/-- The largest count, with zeros in front and foreign white space around it, and the one after
it. -/
theorem retries_read_largest :
    let set (value : String) := fun name => if name = retriesVariable then some value else none
    Stands "\u00a0+0004294967295\u3000" 4294967295 ∧
      (ofLookup (set "\u00a0+0004294967295\u3000")).concurrencyRetries.toNat = 4294967295 ∧
      Malformed "4294967296".toList ∧
      (ofLookup (set "4294967296")).concurrencyRetries = default.concurrencyRetries := by
  intro set
  have hlargest : Stands "\u00a0+0004294967295\u3000" 4294967295 := by
    have hcount : Count "+0004294967295".toList 4294967295 :=
      .signed (numeral_iff.2 ⟨List.cons_ne_nil _ _, List.all_eq_true.1 rfl, rfl⟩)
    refine ⟨"+0004294967295".toList, ?_, hcount⟩
    refine ⟨⟨['\u00a0'], ['\u3000'], rfl, List.all_eq_true.1 rfl, List.all_eq_true.1 rfl⟩, ?_, ?_⟩
    · rintro _ ⟨⟩
      rfl
    · rintro _ ⟨⟩
      rfl
  have hbeyond : Malformed "4294967296".toList := by
    have hcount : Count "4294967296".toList 4294967296 :=
      .plain (numeral_iff.2 ⟨List.cons_ne_nil _ _, List.all_eq_true.1 rfl, rfl⟩)
    exact .large hcount (by decide)
  have hbare : Text.Trimmed "4294967296".toList "4294967296".toList := by
    refine ⟨⟨[], [], rfl, fun _ hc => absurd hc List.not_mem_nil,
      fun _ hc => absurd hc List.not_mem_nil⟩, ?_, ?_⟩
    · rintro _ ⟨⟩
      rfl
    · rintro _ ⟨⟩
      rfl
  exact ⟨hlargest, (retries_read _).counted _ _ rfl hlargest (by decide), hbeyond,
    (retries_read _).malformed _ _ rfl hbare hbeyond⟩

end Config

end Sagas
