import Mathlib.Data.List.Induction
import Mathlib.Data.List.Nodup
import Sagas.Proofs.Scripts
import Sagas.Proofs.Versions

/-!
# Compare and swap

The store in memory between callers of any kind, who save and load as they like, under any key and
with any token, while the flag is switched on and off under which every save fails. A save is
accepted if it names the version that it replaces; so each version is replaced at most once, and of
the saves that would begin a record one is accepted.

* `Store.serve`, `Store.after`, `Store.swaps`: the calls of a store, one by one, and the saves among
  them that it accepts.
* `Store.serve_cases`: what one call can do to a store.
* `Store.Tracks`: what the accepted saves tell about the store that they leave; `tracks_after`
  carries it through all calls.
* `Store.comparesAndSwaps`: the store is a correct compare-and-swap for every sequence of calls.
-/

namespace Sagas

namespace Store

/-! ## Calls -/

/-- A call of a store. -/
inductive Call where
  | save (record : Record)
  | load (key : Key)
  /-- The flag under which every save fails is set or lowered. -/
  | switch (failing : Bool)

/-- What a call is answered. -/
inductive Reply where
  | saved (result : Except StoreError Token)
  | loaded (found : Option Record)
  | switched

/-- Serves one call. -/
def serve (store : Store) : Call → Reply × Store
  | .save record => (.saved (store.save record).1, (store.save record).2)
  | .load key => (.loaded (store.find? key), store)
  | .switch failing => (.switched, store.flag failing)

/-- The store after some calls. -/
def after : Store → List Call → Store
  | store, [] => store
  | store, call :: calls => (store.serve call).2.after calls

/-- An accepted save: the record as it came in, with the token that it carried, and the token that
was issued for it. -/
structure Swap where
  record : Record
  issued : Token

namespace Swap

/-- The key under which a record was saved. -/
def key (swap : Swap) : Key := swap.record.toKey

/-- The token of the version that was replaced, none if the record was new. -/
def carried (swap : Swap) : Option Token := swap.record.token

/-- What was stored. -/
def version (swap : Swap) : Record := { swap.record with token := some swap.issued }

@[simp] theorem key_mk (record : Record) (token : Token) : key ⟨record, token⟩ = record.toKey := rfl

@[simp] theorem carried_mk (record : Record) (token : Token) :
    carried ⟨record, token⟩ = record.token := rfl

end Swap

/-- The accepted save that a call is, if it is one. -/
def swap? (store : Store) : Call → Option Swap
  | .save record => match (store.save record).1 with
    | .ok token => some ⟨record, token⟩
    | .error _ => none
  | .load _ | .switch _ => none

/-- The accepted saves among some calls, in their order. -/
def swaps : Store → List Call → List Swap
  | _, [] => []
  | store, call :: calls => (store.swap? call).toList ++ (store.serve call).2.swaps calls

variable {store : Store} {call : Call} {calls calls' : List Call} {record stored : Record}
  {key : Key} {expected : Option Token} {token : Token} {swap : Swap} {made : List Swap}

theorem after_append : store.after (calls ++ calls') = (store.after calls).after calls' := by
  induction calls generalizing store with
  | nil => rfl
  | cons call calls ih => exact ih

theorem swaps_append :
    store.swaps (calls ++ calls') = store.swaps calls ++ (store.after calls).swaps calls' := by
  induction calls generalizing store with
  | nil => rfl
  | cons call calls ih => simp only [List.cons_append, swaps, after, ih, List.append_assoc]

theorem swaps_singleton : store.swaps [call] = (store.swap? call).toList := List.append_nil _

/-! ## One call -/

theorem serve_save : store.serve (.save record) =
    (.saved (store.save record).1, (store.save record).2) := rfl

/-- **What one call does**: it puts the record of an accepted save, or changes no more than the
flag. -/
theorem serve_cases (store : Store) (call : Call) :
    (∃ record, call = .save record ∧ store.accepts record.toKey record.token = true ∧
      store.swap? call = some ⟨record, store.mint (store.saves + 1)⟩ ∧
      (store.serve call).2 = store.put record) ∨
    (store.swap? call = none ∧ ∃ failing, (store.serve call).2 = store.flag failing) := by
  cases call with
  | save record =>
    rcases save_cases store record with ⟨-, haccepts, hsave⟩ | ⟨-, error, hsave⟩
    · exact .inl ⟨record, rfl, haccepts, by simp only [swap?, hsave], by rw [serve_save, hsave]⟩
    · exact .inr ⟨by simp only [swap?, hsave], store.failing, by rw [serve_save, hsave]; rfl⟩
  | load key => exact .inr ⟨rfl, store.failing, rfl⟩
  | switch failing => exact .inr ⟨rfl, failing, rfl⟩

theorem isOk_serve_iff :
    (∃ token, (store.serve (.save record)).1 = .saved (.ok token)) ↔
      store.failing = false ∧ store.accepts record.toKey record.token = true := by
  rw [serve_save]
  rcases save_cases store record with ⟨hfailing, haccepts, hsave⟩ | ⟨hstale, error, hsave⟩
  · rw [hsave]
    exact ⟨fun _ => ⟨hfailing, haccepts⟩, fun _ => ⟨_, rfl⟩⟩
  · rw [hsave]
    refine ⟨?_, fun h => absurd h hstale⟩
    rintro ⟨token, h⟩
    cases h

/-- What a save that was accepted has stored. -/
theorem put_of_saved (h : (store.serve (.save record)).1 = .saved (.ok token)) :
    token = store.mint (store.saves + 1) ∧ (store.serve (.save record)).2 = store.put record := by
  rw [serve_save] at h ⊢
  rcases save_cases store record with ⟨-, -, hsave⟩ | ⟨-, error, hsave⟩
  · rw [hsave] at h ⊢
    exact ⟨(Except.ok.inj (Reply.saved.inj h)).symm, rfl⟩
  · rw [hsave] at h
    cases h

/-- Where every stored record bears a token, that is the one to carry. -/
theorem accepts_iff (hbears : ∀ stored, store.find? key = some stored → stored.token.isSome) :
    store.accepts key expected = true ↔
      (store.find? key = none ∧ expected = none) ∨
        ∃ stored, store.find? key = some stored ∧ expected = stored.token := by
  unfold accepts
  cases hfind : store.find? key with
  | none => simp
  | some stored => simp [hbears stored hfind, @eq_comm _ expected]

/-! ## What all calls keep -/

/-- Calls that are no accepted save under a key leave what is stored under it. -/
theorem find?_after (h : ∀ swap ∈ store.swaps calls, swap.key ≠ key) :
    (store.after calls).find? key = store.find? key := by
  induction calls generalizing store with
  | nil => rfl
  | cons call calls ih =>
    rw [after, ih fun swap hswap => h swap (List.mem_append_right _ hswap)]
    rcases serve_cases store call with ⟨record, -, -, hswap, hserve⟩ | ⟨-, failing, hserve⟩
    · have hother : record.toKey ≠ key := by
        refine h ⟨record, store.mint (store.saves + 1)⟩ (List.mem_append_left _ ?_)
        rw [hswap]
        exact List.mem_singleton.2 rfl
      rw [hserve, find?_put, if_neg hother]
    · rw [hserve]
      rfl

/-- The tokens issued are those of the supply, one after the other. -/
theorem issued_eq (store : Store) (calls : List Call) :
    (store.swaps calls).map Swap.issued =
      (List.range (store.swaps calls).length).map fun i => store.mint (store.saves + i + 1) := by
  induction calls generalizing store with
  | nil => rfl
  | cons call calls ih =>
    unfold swaps
    rcases serve_cases store call with ⟨record, -, -, hswap, hserve⟩ | ⟨hswap, failing, hserve⟩
    · rw [hswap, hserve, Option.toList_some, List.singleton_append, List.map_cons, ih,
        List.length_cons, List.range_succ_eq_map, List.map_cons, List.map_map]
      refine congrArg _ (List.map_congr_left fun i _ => congrArg store.mint ?_)
      change store.saves + 1 + i + 1 = store.saves + (i + 1) + 1
      omega
    · rw [hswap, hserve]
      exact ih _

/-- A supply without repetition issues no token twice. -/
theorem IssuesOnce.issued_nodup (h : store.IssuesOnce) (calls : List Call) :
    ((store.swaps calls).map Swap.issued).Nodup := by
  rw [issued_eq]
  refine List.nodup_range.map fun i j hij => ?_
  have hsum : store.saves + i = store.saves + j := h _ _ hij
  omega

/-- **What the accepted saves tell about the store that they leave.** -/
structure Tracks (store : Store) (made : List Swap) : Prop where
  /-- What is stored under a key is a version that was saved under it. -/
  stored : ∀ {key record}, store.find? key = some record →
    ∃ swap ∈ made, swap.key = key ∧ swap.version = record
  /-- What was saved once has a record from then on. -/
  kept : ∀ swap ∈ made, (store.find? swap.key).isSome
  /-- The version that is stored was not replaced. -/
  current : ∀ {key record}, store.find? key = some record →
    ∀ swap ∈ made, swap.carried ≠ record.token
  /-- A token that was carried had been issued, under the same key. -/
  follows : ∀ {earlier swap later token}, made = earlier ++ swap :: later →
    swap.carried = some token → ∃ previous ∈ earlier, previous.key = swap.key ∧
      previous.issued = token
  /-- No token was carried twice. -/
  spent : (made.filterMap Swap.carried).Nodup
  /-- No record was begun twice. -/
  begun : ((made.filter fun swap => swap.carried.isNone).map Swap.key).Nodup
  count : store.saves = made.length

theorem tracks_empty (mint : Nat → Token) : (Store.empty mint).Tracks [] where
  stored h := by cases h
  kept _ h := by cases h
  current h := by cases h
  follows h := by simp at h
  spent := List.nodup_nil
  begun := List.nodup_nil
  count := rfl

namespace Tracks

theorem flag (h : store.Tracks made) (failing : Bool) : (store.flag failing).Tracks made :=
  ⟨h.stored, h.kept, h.current, h.follows, h.spent, h.begun, h.count⟩

theorem isSome_token (h : store.Tracks made) (hfind : store.find? key = some stored) :
    stored.token.isSome := by
  obtain ⟨swap, -, -, rfl⟩ := h.stored hfind
  rfl

/-- Two keys never have the same token stored. -/
theorem key_eq (h : store.Tracks made) (honce : (made.map Swap.issued).Nodup) {key' : Key}
    {stored' : Record} (hfind : store.find? key = some stored)
    (hfind' : store.find? key' = some stored') (htoken : stored'.token = stored.token) :
    key' = key := by
  obtain ⟨swap, hmem, rfl, rfl⟩ := h.stored hfind
  obtain ⟨swap', hmem', rfl, rfl⟩ := h.stored hfind'
  rw [List.inj_on_of_nodup_map honce hmem' hmem (Option.some.inj htoken)]

/-- A token that was carried had been issued. -/
theorem known (h : store.Tracks made) (hmem : swap ∈ made) (hcarried : swap.carried = some token) :
    token ∈ made.map Swap.issued := by
  obtain ⟨earlier, later, rfl⟩ := List.append_of_mem hmem
  obtain ⟨previous, hprevious, -, rfl⟩ := h.follows rfl hcarried
  exact List.mem_map_of_mem (List.mem_append_left _ hprevious)

section

variable (h : store.Tracks made) (haccepts : store.accepts record.toKey record.token = true)
include h haccepts

/-- A save without a token is accepted only where nothing is stored. -/
theorem find?_eq_none (hnew : record.token = none) : store.find? record.toKey = none := by
  rcases (accepts_iff fun _ => h.isSome_token).1 haccepts with ⟨hnone, -⟩ | ⟨stored, hfind, hsame⟩
  · exact hnone
  · have hsome := h.isSome_token hfind
    rw [← hsame, hnew] at hsome
    cases hsome

/-- A save with a token is accepted only where that is stored. -/
theorem exists_stored (hcarried : record.token = some token) :
    ∃ stored, store.find? record.toKey = some stored ∧ stored.token = some token := by
  rcases (accepts_iff fun _ => h.isSome_token).1 haccepts with ⟨-, hnone⟩ | ⟨stored, hfind, hsame⟩
  · rw [hnone] at hcarried
    cases hcarried
  · exact ⟨stored, hfind, hsame ▸ hcarried⟩

/-- What an accepted save carries was issued under the same key. -/
theorem exists_previous (hcarried : record.token = some token) :
    ∃ previous ∈ made, previous.key = record.toKey ∧ previous.issued = token := by
  obtain ⟨stored, hstored, htoken⟩ := h.exists_stored haccepts hcarried
  obtain ⟨previous, hmem, hkey, rfl⟩ := h.stored hstored
  exact ⟨previous, hmem, hkey, Option.some.inj htoken⟩

/-- **One more save**: it spends the token of the version that it replaces, or begins a record. -/
theorem put (hissued : store.mint (store.saves + 1) = token) (hfresh : token ∉ made.map Swap.issued)
    (honce : (made.map Swap.issued).Nodup) :
    (store.put record).Tracks (made ++ [⟨record, token⟩]) := by
  have hfind : ∀ key, (store.put record).find? key =
      if record.toKey = key then some { record with token := some token } else store.find? key := by
    intro key
    rw [find?_put, hissued]
  refine ⟨?stored, ?kept, ?current, ?follows, ?spent, ?begun, ?count⟩
  case stored =>
    intro key found hfound
    rw [hfind] at hfound
    split at hfound
    · rename_i hkey
      exact ⟨_, List.mem_append_right _ (List.mem_singleton.2 rfl), hkey, Option.some.inj hfound⟩
    · obtain ⟨swap, hmem, hswap⟩ := h.stored hfound
      exact ⟨swap, List.mem_append_left _ hmem, hswap⟩
  case kept =>
    intro swap hmem
    rw [hfind]
    split
    · rfl
    · rename_i hkey
      rcases List.mem_append.1 hmem with hmem | hmem
      · exact h.kept swap hmem
      · exact absurd (congrArg Swap.key (List.mem_singleton.1 hmem)).symm hkey
  case current =>
    intro key found hfound swap hmem hsame
    rw [hfind] at hfound
    split at hfound
    · -- the new version bears a token that nothing has carried yet
      obtain rfl := Option.some.inj hfound
      rcases List.mem_append.1 hmem with hmem | hmem
      · exact hfresh (h.known hmem hsame)
      · rw [List.mem_singleton.1 hmem] at hsame
        obtain ⟨previous, hprevious, -, rfl⟩ := h.exists_previous haccepts hsame
        exact hfresh (List.mem_map_of_mem hprevious)
    · rename_i hkey
      rcases List.mem_append.1 hmem with hmem | hmem
      · exact h.current hfound swap hmem hsame
      · -- what the save carries is stored under its own key only
        rw [List.mem_singleton.1 hmem] at hsame
        obtain ⟨bears, hbears⟩ := Option.isSome_iff_exists.1 (h.isSome_token hfound)
        obtain ⟨stored, hstored, htoken⟩ := h.exists_stored haccepts (hsame.trans hbears)
        exact hkey (h.key_eq honce hfound hstored (htoken.trans hbears.symm))
  case follows =>
    intro earlier swap later carried hsplit hcarried
    rcases List.eq_nil_or_concat later with rfl | ⟨later, last, rfl⟩
    · obtain ⟨rfl, hlast⟩ := List.append_inj' hsplit rfl
      obtain rfl := (List.cons.inj hlast).1
      exact h.exists_previous haccepts hcarried
    · rw [List.concat_eq_append, ← List.cons_append, ← List.append_assoc] at hsplit
      exact h.follows (List.append_inj' hsplit rfl).1 hcarried
  case spent =>
    rw [List.filterMap_append, List.nodup_append']
    refine ⟨h.spent, ?_, ?_⟩
    · cases hcarried : record.token <;> simp [hcarried]
    · intro carried hmem hnew
      obtain ⟨swap, hswap, hsame⟩ := List.mem_filterMap.1 hmem
      have hcarried : record.token = some carried := by simpa using hnew
      obtain ⟨stored, hstored, htoken⟩ := h.exists_stored haccepts hcarried
      exact h.current hstored swap hswap (hsame.trans htoken.symm)
  case begun =>
    rw [List.filter_append, List.map_append, List.nodup_append']
    refine ⟨h.begun, ?_, ?_⟩
    · cases hcarried : record.token <;> simp [hcarried]
    · intro key hmem hnew
      obtain ⟨swap, hswap, rfl⟩ := List.mem_map.1 hmem
      obtain ⟨hnone, hkey⟩ : record.token = none ∧ record.toKey = swap.key := by
        simpa using hnew
      have hkept := h.kept swap (List.mem_filter.1 hswap).1
      rw [← hkey, h.find?_eq_none haccepts hnone] at hkept
      cases hkept
  case count =>
    rw [List.length_append]
    exact congrArg (· + 1) h.count

end

end Tracks

/-- **All calls keep the account**, as long as no token is issued twice. -/
theorem tracks_after (mint : Nat → Token) (calls : List Call)
    (honce : (((Store.empty mint).swaps calls).map Swap.issued).Nodup) :
    ((Store.empty mint).after calls).Tracks ((Store.empty mint).swaps calls) := by
  induction calls using List.reverseRecOn with
  | nil => exact tracks_empty mint
  | append_singleton calls call ih =>
    rw [after_append]
    rw [swaps_append, swaps_singleton] at honce ⊢
    have hbefore := ih (by
      rw [List.map_append] at honce
      exact honce.of_append_left)
    change (((Store.empty mint).after calls).serve call).2.Tracks _
    rcases serve_cases ((Store.empty mint).after calls) call with
      ⟨record, -, haccepts, hswap, hserve⟩ | ⟨hswap, failing, hserve⟩
    · rw [hswap, List.map_append, List.nodup_append'] at honce
      rw [hswap, hserve]
      refine hbefore.put haccepts rfl (fun hmem => ?_) honce.1
      exact honce.2.2 hmem (List.mem_singleton.2 rfl)
    · rw [hswap, hserve, Option.toList_none, List.append_nil]
      exact hbefore.flag failing

/-! ## The store to its callers -/

/-- The flag that a call sets. -/
def Call.flag? : Call → Option Bool
  | .switch failing => some failing
  | .save _ | .load _ => none

/-- The flag is as it was switched last. -/
theorem failing_after (store : Store) (calls : List Call) :
    (store.after calls).failing = (calls.filterMap Call.flag?).getLast?.getD store.failing := by
  induction calls generalizing store with
  | nil => rfl
  | cons call calls ih =>
    rw [after, ih]
    cases call with
    | save record =>
      have hsame : (store.serve (.save record)).2.failing = store.failing := by
        rw [serve_save]
        rcases save_cases store record with ⟨-, -, hsave⟩ | ⟨-, error, hsave⟩
        · rw [hsave]
          rfl
        · rw [hsave]
      rw [hsame]
      rfl
    | load key => rfl
    | switch failing =>
      change _ = (failing :: calls.filterMap Call.flag?).getLast?.getD store.failing
      rw [List.getLast?_cons]
      rfl

/-- **A correct compare-and-swap**: what a store that has served some calls since `start` does with
the next ones, and what it has accepted. -/
structure ComparesAndSwaps (start : Store) (calls : List Call) : Prop where
  /-- The flag is as it was switched last. -/
  flag : (start.after calls).failing = (calls.filterMap Call.flag?).getLast?.getD false
  /-- A save is accepted exactly if no outage is on and it carries the token of what is stored under
  its key, or none where nothing is. -/
  accepts : ∀ record,
    (∃ token, ((start.after calls).serve (.save record)).1 = .saved (.ok token)) ↔
      (start.after calls).failing = false ∧
        (((start.after calls).find? record.toKey = none ∧ record.token = none) ∨
          ∃ stored token, (start.after calls).find? record.toKey = some stored ∧
            stored.token = some token ∧ record.token = some token)
  /-- A refused save changes nothing. -/
  refuses : ∀ record error,
    ((start.after calls).serve (.save record)).1 = .saved (.error error) →
      ((start.after calls).serve (.save record)).2 = start.after calls
  /-- An accepted save changes what is stored under its own key only. -/
  frames : ∀ record key, key ≠ record.toKey →
    ((start.after calls).serve (.save record)).2.find? key = (start.after calls).find? key
  /-- What an accepted save has stored is loaded, with the token returned, until the next one under
  its key is accepted. -/
  reads : ∀ record token between,
    ((start.after calls).serve (.save record)).1 = .saved (.ok token) →
      (∀ swap ∈ ((start.after calls).serve (.save record)).2.swaps between,
        swap.key ≠ record.toKey) →
      ((((start.after calls).serve (.save record)).2.after between).serve
        (.load record.toKey)).1 = .loaded (some { record with token := some token })
  /-- A token that an accepted save carries was issued to one before it, under the same key. -/
  follows : ∀ earlier swap later token, start.swaps calls = earlier ++ swap :: later →
    swap.carried = some token → ∃ previous ∈ earlier, previous.key = swap.key ∧
      previous.issued = token
  /-- No token is accepted twice. -/
  spends : ((start.swaps calls).filterMap Swap.carried).Nodup
  /-- Under no key two saves without a token are accepted. -/
  begins : (((start.swaps calls).filter fun swap => swap.carried.isNone).map Swap.key).Nodup
  /-- The saves that are counted are those accepted. -/
  counts : (start.after calls).saves = (start.swaps calls).length

/-- **The store in memory compares and swaps**: for every sequence of calls since there were no
records, as long as no token is issued twice. -/
theorem comparesAndSwaps (mint : Nat → Token) (calls : List Call)
    (honce : (((Store.empty mint).swaps calls).map Swap.issued).Nodup) :
    ComparesAndSwaps (Store.empty mint) calls := by
  have htracks := tracks_after mint calls honce
  refine ⟨failing_after _ calls, ?accepts, ?refuses, ?frames, ?reads,
    fun _ _ _ _ => htracks.follows, htracks.spent, htracks.begun, htracks.count⟩
  case accepts =>
    intro record
    rw [isOk_serve_iff, accepts_iff fun _ => htracks.isSome_token]
    refine and_congr_right fun _ => or_congr_right ⟨?_, ?_⟩
    · rintro ⟨stored, hfind, hsame⟩
      obtain ⟨token, htoken⟩ := Option.isSome_iff_exists.1 (htracks.isSome_token hfind)
      exact ⟨stored, token, hfind, htoken, hsame.trans htoken⟩
    · rintro ⟨stored, token, hfind, htoken, hcarried⟩
      exact ⟨stored, hfind, hcarried.trans htoken.symm⟩
  case refuses =>
    intro record error hrefused
    rw [serve_save] at hrefused ⊢
    rcases save_cases _ record with ⟨-, -, hsave⟩ | ⟨-, _, hsave⟩
    · rw [hsave] at hrefused
      cases hrefused
    · rw [hsave]
  case frames =>
    intro record key hkey
    rw [serve_save]
    rcases save_cases _ record with ⟨-, -, hsave⟩ | ⟨-, _, hsave⟩
    · rw [hsave, find?_put, if_neg (Ne.symm hkey)]
    · rw [hsave]
  case reads =>
    intro record token between hsaved hbetween
    obtain ⟨rfl, hput⟩ := put_of_saved hsaved
    change Reply.loaded _ = _
    rw [find?_after hbetween, hput, find?_put, if_pos rfl]

end Store

namespace Simulation

/-- A record of a counter, to be saved over the version with a token. -/
def counterAt (sagaId : String) (token : Option Token) : Record where
  toKey := ⟨counterSpec.type.name, sagaId⟩
  status := .active
  state := .null
  token := token
  updatedAt := .epoch

/-- Two callers begin a counter and replace its first version, one of them during an outage; another
counter is begun meanwhile. -/
def contention : List Store.Call :=
  [.save (counterAt "c" none), .save (counterAt "c" none), .load (counterAt "c" none).toKey,
    .switch true, .save (counterAt "c" (some (mint 1))), .switch false,
    .save (counterAt "d" none), .save (counterAt "c" (some (mint 1))),
    .save (counterAt "c" (some (mint 1))), .save (counterAt "c" (some (mint 3)))]

theorem contention_compares_and_swaps :
    ((((Store.empty mint).swaps contention).map Store.Swap.issued).Nodup ∧
      ((Store.empty mint).swaps contention).map Store.Swap.carried =
        [none, none, some (mint 1), some (mint 3)]) ∧
      (Store.empty mint).ComparesAndSwaps contention :=
  have honce := emptyBench_issuesOnce.issued_nodup contention
  ⟨⟨honce, by decide +kernel⟩, Store.comparesAndSwaps mint contention honce⟩

end Simulation

end Sagas
