import Sagas.Proofs.Replay

/-!
# The versions of a record

The accepted saves under one key, in their order, with the tokens that they were given. In the
replayed store the record under a key is the last of its versions; a token tells how many saves
had been accepted when it was issued, so no version is saved between two moments at which the
same token is stored.

* `find?_replay`: the record under a key is the last version saved under it.
* `token_of_mem_versions`: versions bear tokens of the store's supply, in the order of issue.
* `versions_eq_nil_of_token_eq`: the same token before and after means no version in between.
-/

namespace Sagas

variable {A : Application} {store : Store} {key : Key} {es es' : List (Entry A)}

/-- The version that an event saves under a key, with the token that it was given. -/
def Event.version? (key : Key) : Event A → Option Record
  | .saved record (.ok token) =>
    if record.toKey = key then some { record with token := some token } else none
  | _ => none

/-- The versions saved under a key. -/
def versions (key : Key) (entries : List (Entry A)) : List Record :=
  entries.filterMap fun entry => entry.event.version? key

/-- No token is issued twice. -/
def Store.IssuesOnce (store : Store) : Prop :=
  ∀ m n, store.mint (m + 1) = store.mint (n + 1) → m = n

@[simp] theorem versions_nil : versions key ([] : List (Entry A)) = [] := rfl

theorem versions_append : versions key (es ++ es') = versions key es ++ versions key es' :=
  List.filterMap_append

theorem versions_cons (entry : Entry A) :
    versions key (entry :: es) = (entry.event.version? key).toList ++ versions key es := by
  unfold versions
  rw [List.filterMap_cons]
  cases entry.event.version? key <;> rfl

/-- A version is a record that was saved under its key, with the token that it was given. -/
theorem Event.saved_of_version? {event : Event A} {version : Record}
    (h : event.version? key = some version) :
    ∃ record token, event = .saved record (.ok token) ∧ record.toKey = key ∧
      version = { record with token := some token } := by
  unfold Event.version? at h
  split at h
  · rename_i record token
    by_cases hkey : record.toKey = key
    · rw [if_pos hkey] at h
      exact ⟨record, token, rfl, hkey, (Option.some.inj h).symm⟩
    · rw [if_neg hkey] at h
      cases h
  · cases h

/-! ## The store of a moment -/

theorem Store.find?_put (record : Record) : (store.put record).find? key =
    if record.toKey = key then
      some { record with token := some (store.mint (store.saves + 1)) }
    else store.find? key := by
  unfold Store.find? Store.put
  rw [Table.find?_insert]
  by_cases h : record.toKey = key
  · rw [if_pos h, if_pos h.symm]
  · rw [if_neg h, if_neg (Ne.symm h)]

/-- A save that is up to date while no outage is on is accepted; any other one is refused and leaves
the store as it is. -/
theorem Store.save_cases (store : Store) (record : Record) :
    (store.failing = false ∧ store.accepts record.toKey record.token = true ∧
      store.save record = (.ok (store.mint (store.saves + 1)), store.put record)) ∨
    (¬(store.failing = false ∧ store.accepts record.toKey record.token = true) ∧
      ∃ error, store.save record = (.error error, store)) := by
  unfold Store.save
  cases hfailing : store.failing with
  | true => exact .inr ⟨by simp, _, rfl⟩
  | false =>
    cases haccepts : store.accepts record.toKey record.token with
    | true => exact .inl ⟨rfl, rfl, rfl⟩
    | false => exact .inr ⟨by simp, _, rfl⟩

/-- One entry changes the record under a key to the version that it saves, if it saves one. -/
theorem Store.find?_apply {entry : Entry A} (h : store.Answers entry.event) :
    (store.apply entry).find? key = (entry.event.version? key).or (store.find? key) := by
  obtain ⟨depth, attempt, event⟩ := entry
  unfold Store.apply Event.version?
  cases event with
  | saved record result =>
    cases result with
    | error error => rfl
    | ok token =>
      obtain ⟨-, rfl⟩ := h
      simp only [Store.find?_put]
      by_cases hkey : record.toKey = key
      · rw [if_pos hkey, if_pos hkey]
        rfl
      · rw [if_neg hkey, if_neg hkey]
        rfl
  | _ => rfl

/-- **The stored record is the last version**, or the one from before if there is none. -/
theorem find?_replay (h : store.Bears es) :
    (store.replay es).find? key = (versions key es).getLast?.or (store.find? key) := by
  induction es generalizing store with
  | nil => rfl
  | cons entry es ih =>
    have hlast : (entry.event.version? key).toList.getLast? = entry.event.version? key := by
      cases entry.event.version? key <;> rfl
    rw [Store.replay_cons, ih h.2, Store.find?_apply h.1, versions_cons, List.getLast?_append,
      hlast, Option.or_assoc]

/-- In a store that began without records nothing else is stored. -/
theorem find?_replay_of_empty (hempty : store.records = []) (h : store.Bears es) :
    (store.replay es).find? key = (versions key es).getLast? := by
  have hnone : store.find? key = none := by
    unfold Store.find?
    rw [hempty, Table.find?_nil]
  rw [find?_replay h, hnone, Option.or_none]

/-- A record never goes away. -/
theorem isSome_find?_replay (h : store.Bears es) (hsome : (store.find? key).isSome) :
    ((store.replay es).find? key).isSome := by
  rw [find?_replay h, Option.isSome_or, hsome, Bool.or_true]

/-! ## Tokens -/

theorem mint_apply (entry : Entry A) : (store.apply entry).mint = store.mint := by
  unfold Store.apply
  split <;> rfl

@[simp] theorem mint_replay : (store.replay es).mint = store.mint := by
  induction es generalizing store with
  | nil => rfl
  | cons entry es ih => rw [Store.replay_cons, ih, mint_apply]

theorem saves_le_apply (entry : Entry A) : store.saves ≤ (store.apply entry).saves := by
  unfold Store.apply
  split
  · exact Nat.le_succ _
  · exact Nat.le_refl _

theorem saves_le_replay : store.saves ≤ (store.replay es).saves := by
  induction es generalizing store with
  | nil => exact Nat.le_refl _
  | cons entry es ih => exact Nat.le_trans (saves_le_apply entry) ih

/-- The version that an accepted save leaves bears the token issued last. -/
theorem token_of_version? {entry : Entry A} {record : Record} (h : store.Answers entry.event)
    (hversion : entry.event.version? key = some record) :
    record.token = some (store.mint (store.saves + 1)) ∧
      (store.apply entry).saves = store.saves + 1 := by
  obtain ⟨saved, token, he, -, rfl⟩ := Event.saved_of_version? hversion
  rw [he] at h
  obtain ⟨-, rfl⟩ := h
  unfold Store.apply
  rw [he]
  exact ⟨rfl, rfl⟩

/-- **Every version bears a token of the supply**, issued between the first entry and the last. -/
theorem token_of_mem_versions (h : store.Bears es) {record : Record}
    (hmem : record ∈ versions key es) :
    ∃ n, store.saves ≤ n ∧ n < (store.replay es).saves ∧
      record.token = some (store.mint (n + 1)) := by
  induction es generalizing store with
  | nil => simp at hmem
  | cons entry es ih =>
    rw [versions_cons] at hmem
    rw [Store.replay_cons]
    rcases List.mem_append.1 hmem with hhere | hlater
    · obtain ⟨htoken, hsaves⟩ := token_of_version? h.1 (Option.mem_toList.1 hhere)
      refine ⟨store.saves, Nat.le_refl _, ?_, htoken⟩
      have hle : (store.apply entry).saves ≤ ((store.apply entry).replay es).saves :=
        saves_le_replay
      omega
    · obtain ⟨n, hlow, hhigh, htoken⟩ := ih h.2 hlater
      rw [mint_apply] at htoken
      exact ⟨n, Nat.le_trans (saves_le_apply entry) hlow, hhigh, htoken⟩

/-- **A token belongs to one key only**: versions under two keys never bear the same one. -/
theorem key_eq_of_token_eq (honce : store.IssuesOnce) (h : store.Bears es) {other : Key}
    {record record' : Record} (hmem : record ∈ versions key es)
    (hmem' : record' ∈ versions other es) (htoken : record'.token = record.token) :
    other = key := by
  induction es generalizing store with
  | nil => simp at hmem
  | cons entry es ih =>
    -- a later version bears a later token than the one that the first entry leaves
    have hlater : ∀ {first later : Key} {version version' : Record},
        entry.event.version? first = some version → version' ∈ versions later es →
        version'.token ≠ version.token := by
      intro first later version version' hversion hmem hsame
      obtain ⟨hissued, hsaves⟩ := token_of_version? h.1 hversion
      obtain ⟨n, hn, -, htoken⟩ := token_of_mem_versions h.2 hmem
      rw [hissued, htoken, mint_apply] at hsame
      have hsavesn := honce n store.saves (Option.some.inj hsame)
      omega
    rw [versions_cons, List.mem_append, Option.mem_toList] at hmem hmem'
    rcases hmem with hhere | hmem <;> rcases hmem' with hhere' | hmem'
    · -- both are the version of the first entry
      obtain ⟨saved, token, he, rfl, -⟩ := Event.saved_of_version? hhere
      obtain ⟨saved', token', he', rfl, -⟩ := Event.saved_of_version? hhere'
      rw [he] at he'
      obtain ⟨rfl, -⟩ := Event.saved.inj he'
      rfl
    · exact absurd htoken (hlater hhere hmem')
    · exact absurd htoken.symm (hlater hhere' hmem)
    · refine ih ?_ h.2 hmem hmem'
      intro m n hmint
      rw [mint_apply] at hmint
      exact honce m n hmint

/-- **No version between two moments at which the same token is stored.** -/
theorem versions_eq_nil_of_token_eq (hempty : store.records = []) (honce : store.IssuesOnce)
    (h : store.Bears (es ++ es')) {previous current : Record}
    (hprevious : (store.replay es).find? key = some previous)
    (hcurrent : (store.replay (es ++ es')).find? key = some current)
    (htoken : current.token = previous.token) : versions key es' = [] := by
  rw [find?_replay_of_empty hempty h.left] at hprevious
  rw [find?_replay_of_empty hempty h, versions_append] at hcurrent
  cases hnone : versions key es' with
  | nil => rfl
  | cons first rest =>
    -- the current version would be one of the later ones, and bear a later token
    have hlater : current ∈ versions key es' := by
      rw [hnone, List.getLast?_append] at hcurrent
      rw [hnone]
      cases hlast : (first :: rest).getLast? with
      | none => simp at hlast
      | some last =>
        rw [hlast] at hcurrent
        obtain rfl := Option.some.inj hcurrent
        exact List.mem_of_getLast? hlast
    obtain ⟨m, -, hm, hmtoken⟩ := token_of_mem_versions h.left (List.mem_of_getLast? hprevious)
    obtain ⟨n, hn, -, hntoken⟩ := token_of_mem_versions h.right hlater
    rw [mint_replay] at hntoken
    rw [hmtoken, hntoken] at htoken
    have hmn := honce n m (Option.some.inj htoken)
    omega

end Sagas
