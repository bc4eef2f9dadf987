import Sagas.Text.Blank

/-!
# Decimal digits

Reading and writing natural numbers in ASCII decimal digits.

* `valueOf_padded`: a number written in enough digits reads back.
-/

namespace Sagas.Text

/-- Whether a character is one of `0` to `9`. -/
def isDigit (c : Char) : Bool :=
  48 ≤ c.toNat && c.toNat ≤ 57

/-- The number that a row of digits denotes, most significant digit first. -/
def valueOf (cs : List Char) : Nat :=
  cs.foldl (fun n c => 10 * n + (c.toNat - 48)) 0

/-- The last `width` decimal digits of a number, with leading zeros. -/
def padded : Nat → Nat → List Char
  | 0, _ => []
  | width + 1, n => padded width (n / 10) ++ [Nat.digitChar (n % 10)]

/-- A number from the start of a text: as many digits as there are, at most `width`, at
least one. -/
def number? (width : Nat) (cs : List Char) : Option (Nat × List Char) :=
  let digits := (cs.take width).takeWhile isDigit
  if digits.isEmpty then none else some (valueOf digits, cs.drop digits.length)

theorem isBlank_of_isDigit {c : Char} (h : isDigit c = true) : isBlank c = false := by
  unfold isDigit at h
  unfold isBlank
  simp only [Bool.and_eq_true, decide_eq_true_eq] at h
  simp
  omega

@[simp] theorem length_padded (width n : Nat) : (padded width n).length = width := by
  induction width generalizing n with
  | zero => rfl
  | succ w ih => simp [padded, ih]

theorem valueOf_concat (cs : List Char) (c : Char) :
    valueOf (cs ++ [c]) = 10 * valueOf cs + (c.toNat - 48) := by
  simp [valueOf]

theorem valueOf_padded {width n : Nat} (h : n < Nat.pow 10 width) :
    valueOf (padded width n) = n := by
  induction width generalizing n with
  | zero => simp at h; subst h; rfl
  | succ w ih =>
    have hd : n / 10 < Nat.pow 10 w := by
      have hp : Nat.pow 10 (w + 1) = 10 * Nat.pow 10 w := Nat.mul_comm _ _
      exact Nat.div_lt_of_lt_mul (hp ▸ h)
    rw [padded, valueOf_concat, ih hd, Nat.toNat_digitChar_of_lt_ten (Nat.mod_lt _ (by decide))]
    omega

theorem isDigit_of_mem_padded {width n : Nat} {c : Char} (h : c ∈ padded width n) :
    isDigit c = true := by
  induction width generalizing n with
  | zero => simp [padded] at h
  | succ w ih =>
    simp only [padded, List.mem_append, List.mem_singleton] at h
    rcases h with h | rfl
    · exact ih h
    · have := Nat.toNat_digitChar_of_lt_ten (Nat.mod_lt n (show 0 < 10 by decide))
      simp [isDigit, this]; omega

end Sagas.Text
