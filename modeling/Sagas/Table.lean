/-!
# Tables

Finite maps as lists of entries with pairwise different keys, in the order in which the
keys first came in.

* `find?_insert`: what is found after an insertion.
-/

namespace Sagas

/-- A finite map from keys to values. -/
abbrev Table (κ ν : Type) := List (κ × ν)

namespace Table

variable {κ ν : Type} [DecidableEq κ]

/-- The value under a key. -/
def find? (key : κ) : Table κ ν → Option ν
  | [] => none
  | (k, v) :: rest => if k = key then some v else find? key rest

/-- The table with `value` under `key`. A key that is there keeps its place. -/
def insert (key : κ) (value : ν) : Table κ ν → Table κ ν
  | [] => [(key, value)]
  | (k, v) :: rest => if k = key then (key, value) :: rest else (k, v) :: insert key value rest

/-- Whether a key is in the table. -/
def contains (key : κ) (table : Table κ ν) : Bool := (find? key table).isSome

@[simp] theorem find?_nil (key : κ) : find? key ([] : Table κ ν) = none := rfl

@[simp] theorem find?_insert_self (key : κ) (value : ν) (table : Table κ ν) :
    find? key (insert key value table) = some value := by
  induction table with
  | nil => simp [insert, find?]
  | cons entry rest ih =>
    simp only [insert]
    split <;> simp_all [find?]

@[simp] theorem find?_insert_of_ne {key other : κ} (h : other ≠ key) (value : ν)
    (table : Table κ ν) : find? other (insert key value table) = find? other table := by
  induction table with
  | nil => simp [insert, find?, h.symm]
  | cons entry rest ih =>
    simp only [insert]
    split
    · rename_i he
      simp [find?, he, h.symm]
    · simp [find?, ih]

theorem find?_insert (key other : κ) (value : ν) (table : Table κ ν) :
    find? other (insert key value table) =
      if other = key then some value else find? other table := by
  split
  · rename_i h; subst h; simp
  · rename_i h; simp [h]

end Table

end Sagas
