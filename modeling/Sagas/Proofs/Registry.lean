import Sagas.Directory

/-!
# What is registered

What the tables of a registration hold was declared by its saga type, and a directory holds
registrations of valid saga types only.

* `Table.mem_of_find?_foldl`, `Table.find?_foldl_of_mem`: tables that items were put into.
* `Registration.declared_of_handlerTable`: handlers and stages are those of a declaration.
* `Directory.mem_register`: a directory grows by valid registrations.
-/

namespace Sagas

variable {A : Application}

namespace Table

variable {κ ν ι : Type} [DecidableEq κ] {keyOf : ι → κ} {valueOf : ι → ν} {items : List ι}
  {table : Table κ ν} {key : κ} {value : ν}

/-- What a table finds is one of its entries. -/
theorem mem_of_find? (h : find? key table = some value) : (key, value) ∈ table := by
  induction table with
  | nil => cases h
  | cons entry rest ih =>
    obtain ⟨k, v⟩ := entry
    simp only [find?] at h
    split at h
    · rename_i hkey
      obtain rfl := Option.some.inj h
      rw [hkey]
      exact List.mem_cons_self
    · exact List.mem_cons_of_mem _ (ih h)

/-- A table that items are put into finds what it found before, or one of the items. -/
theorem mem_of_find?_foldl
    (h : find? key
        (items.foldl (fun table item => insert (keyOf item) (valueOf item) table) table) =
      some value) :
    find? key table = some value ∨ ∃ item ∈ items, keyOf item = key ∧ valueOf item = value := by
  induction items generalizing table with
  | nil => exact .inl h
  | cons item rest ih =>
    rcases ih h with hbefore | ⟨other, hmem, hother⟩
    · rw [find?_insert] at hbefore
      split at hbefore
      · rename_i hkey
        exact .inr ⟨item, List.mem_cons_self, hkey.symm, Option.some.inj hbefore⟩
      · exact .inl hbefore
    · exact .inr ⟨other, List.mem_cons_of_mem _ hmem, hother⟩

/-- What is not put into a table again stays as it is. -/
theorem find?_foldl_of_not_mem (h : key ∉ items.map keyOf) :
    find? key (items.foldl (fun table item => insert (keyOf item) (valueOf item) table) table) =
      find? key table := by
  induction items generalizing table with
  | nil => rfl
  | cons item rest ih =>
    simp only [List.map_cons, List.mem_cons, not_or] at h
    rw [List.foldl_cons, ih h.2, find?_insert_of_ne h.1]

/-- Of items with different keys, each one is found under its own. -/
theorem find?_foldl_of_mem (hnodup : (items.map keyOf).Nodup) {item : ι} (hmem : item ∈ items) :
    find? (keyOf item)
        (items.foldl (fun table item => insert (keyOf item) (valueOf item) table) table) =
      some (valueOf item) := by
  induction items generalizing table with
  | nil => cases hmem
  | cons first rest ih =>
    obtain ⟨hfirst, hrest⟩ := List.nodup_cons.1 hnodup
    rw [List.foldl_cons]
    rcases List.mem_cons.1 hmem with rfl | hmem
    · rw [find?_foldl_of_not_mem hfirst, find?_insert_self]
    · exact ih hrest hmem

end Table

/-! ## Registrations -/

namespace Registration

/-- What a registration handles was declared. -/
theorem declared_of_handlerTable {saga : Saga A} {message : MessageType} {stage : Stage}
    {handler : Handler A} (h : Table.find? message (handlerTable saga) = some (stage, handler)) :
    ⟨message, stage, handler⟩ ∈ saga.declarations := by
  rcases Table.mem_of_find?_foldl h with hnone | ⟨⟨_, _, _⟩, hmem, rfl, hvalue⟩
  · cases hnone
  · obtain ⟨rfl, rfl⟩ := Prod.mk.inj hvalue
    exact hmem

theorem build_eq_ok {saga : Saga A} {registration : Registration A}
    (h : build saga = .ok registration) :
    registration.saga = saga ∧ registration.handlers = handlerTable saga := by
  unfold build at h
  split at h
  · obtain rfl := Except.ok.inj h
    exact ⟨rfl, rfl⟩
  · cases h

end Registration

/-- A directory grows by valid registrations only. -/
theorem Directory.mem_register {directory : Directory A} {saga : Saga A}
    {registration : Registration A}
    (h : registration ∈ (directory.register saga).1.registrations) :
    registration ∈ directory.registrations ∨ Registration.build saga = .ok registration := by
  unfold register at h
  split at h
  · exact .inl h
  · split at h
    · rename_i built hbuilt
      rcases List.mem_append.1 h with hold | hnew
      · exact .inl hold
      · rw [List.mem_singleton.1 hnew]
        exact .inr hbuilt
    · exact .inl h

end Sagas
