import Sagas.Proofs.Errors
import Sagas.Proofs.Lineage
import Sagas.Proofs.Reruns

/-!
# Interference

Messages that are sent while a step is attempted may save the record that the step is about. Then
the step's own save is refused as stale, and the step is run again. A saga that carries the token of
its state along is refused for no other reason, so enough reruns outlast the interference.

* `Trial.Charged`: an attempt that was refused is charged with an accepted save under its key, made
  by a nested delivery between its load and its own save.
* `Visit.charged`: every attempt that was refused has such a save.
* `exists_charges`: attempts occupy windows of their own, so no save is charged twice.
* `Orchestrator.reruns_outlast`: with as many reruns as there were interfering saves, the step of a
  stored instance does not end in a conflict.
-/

namespace Sagas

variable {A : Application}

/-! ## Records with tokens -/

/-- Every stored record has a token. -/
def Store.Tokened (store : Store) : Prop :=
  ∀ key record, store.find? key = some record → record.token ≠ none

theorem Store.tokened_of_empty {store : Store} (hempty : store.records = []) : store.Tokened := by
  intro key record hfind
  unfold find? at hfind
  rw [hempty, Table.find?_nil] at hfind
  cases hfind

namespace Store.Tokened

variable {store : Store}

theorem put (h : store.Tokened) (record : Record) : (store.put record).Tokened := by
  intro key found hfind
  rw [find?_put] at hfind
  split at hfind
  · rw [← Option.some.inj hfind]
    exact Option.some_ne_none _
  · exact h key found hfind

/-- An accepted save leaves a record with a token, and nothing else changes the records. -/
theorem replay (h : store.Tokened) (es : List (Entry A)) : (store.replay es).Tokened := by
  induction es generalizing store with
  | nil => exact h
  | cons entry es ih =>
    refine ih ?_
    unfold Store.apply
    split
    · exact h.put _
    · exact h

end Store.Tokened

/-- **In a run over a store that was empty at first every record has a token.** -/
theorem follow_tokened {orchestrator : Orchestrator A} (hmemory : orchestrator.InMemory)
    {start : Resources A} (hempty : start.store.records = []) (moves : List (Move A)) :
    (orchestrator.follow moves (World.ofResources start)).store.Tokened := by
  obtain ⟨failing, hstore⟩ := (follow_ran hmemory start moves).store
  rw [hstore]
  exact (Store.tokened_of_empty hempty).replay _

/-! ## Saves that interfere -/

/-- Whether an entry is an accepted save under a key, made by a delivery nested in one at this
depth. -/
def Entry.interferes (depth : Nat) (key : Key) (entry : Entry A) : Bool :=
  decide (depth < entry.depth) && (entry.event.version? key).isSome

/-- The accepted saves under a key that nested deliveries have made. -/
def interference (depth : Nat) (key : Key) (entries : List (Entry A)) : List (Entry A) :=
  entries.filter (Entry.interferes depth key)

/-- An entry of the attempt itself. -/
structure Trial.Own (trial : Trial A) (entry : Entry A) : Prop where
  depth : entry.depth = trial.before.depth
  attempt : entry.attempt = trial.before.attempts + 1

/-- An attempt that was refused is charged with a save: one that interferes, made between the load
of the attempt and its own save, which the store refused. -/
def Trial.Charged (key : Key) (trial : Trial A) (save : Entry A) : Prop :=
  ∃ before load earlier later refused after previous record error,
    trial.entries = before ++ load :: (earlier ++ save :: later) ++ refused :: after ∧
    trial.Own load ∧ load.event = .loaded key (.ok (some previous)) ∧
    save.interferes trial.before.depth key = true ∧
    trial.Own refused ∧ refused.event = .saved record (.error error) ∧ record.toKey = key

theorem Trial.Charged.mem_interference {key : Key} {trial : Trial A} {save : Entry A}
    (h : trial.Charged key save) : save ∈ interference trial.before.depth key trial.entries := by
  obtain ⟨before, load, earlier, later, refused, after, -, -, -, hentries, -, -, hsave, -⟩ := h
  refine List.mem_filter.2 ⟨?_, hsave⟩
  rw [hentries]
  simp

/-- A save that is refused although it bears the token which its attempt has loaded: another version
was saved in between. -/
theorem versions_ne_nil_of_refused {store : Store} {key stale : Key} {load refused : Entry A}
    {before between after : List (Entry A)} {previous record : Record} {error : StoreError}
    (hbears : store.Bears (before ++ load :: (between ++ refused :: after)))
    (htokened : store.Tokened) (hload : load.event = .loaded key (.ok (some previous)))
    (hrefused : refused.event = .saved record (.error error))
    (herror : SagaError.ofStore error = .conflict stale) (hkey : record.toKey = key)
    (htoken : record.token = previous.token) : versions key between ≠ [] := by
  intro hnone
  -- what was loaded is what was stored
  have hloaded := hbears.answers
  rw [hload] at hloaded
  replace hloaded : (store.replay before).find? key = some previous := (Except.ok.inj hloaded).symm
  have hrest := hbears.right.2
  have hsame : (store.replay before).apply load = store.replay before := by
    unfold Store.apply
    rw [hload]
  rw [hsame] at hrest
  -- and it still is when the save comes
  have hstill : ((store.replay before).replay between).find? key = some previous := by
    rw [find?_replay hrest.left, hnone, hloaded]
    rfl
  have hanswer := hrest.answers
  rw [hrefused] at hanswer
  rcases hanswer with rfl | ⟨hrejected, -⟩
  · cases herror
  · have hsome := htokened.replay before key previous hloaded
    rw [hkey, htoken, Store.accepts, hstill] at hrejected
    simp [hsome] at hrejected

namespace Visit

variable {visit : Visit A} {stage : Stage} {handler : Handler A} {runner : Instance} {key : Key}
  {state : A.State} {events : List (Event A)} {stale : Key} {w : World A}

/-! ## An attempt that was refused -/

/-- A step that carries its token along and ends in a conflict was refused its save. -/
theorem Executes.refused (hcarries : visit.registration.CarriesToken visit.request.message.type)
    (hhandler : visit.registration.handler? visit.request.message.type = some (stage, handler))
    (h : visit.Executes stage handler runner key state events (.error (.conflict stale))) :
    ∃ before record error, events = before ++ [.saved record (.error error)] ∧
      SagaError.ofStore error = .conflict stale ∧ record.toKey = key ∧
      record.token = visit.saga.tokenOf state := by
  generalize hresult : Except.error (SagaError.conflict stale) = result at h
  cases h with
  | cancelled | raised => cases hresult
  | settled hworks hsettles =>
    cases hsettles with
    | redelivered | cancelled | unwritable | silent | published | unpublished => cases hresult
    | refused =>
      refine ⟨_, _, _, List.append_cons .., (Except.error.inj hresult).symm, rfl, ?_⟩
      cases hworks with
      | halted => rfl
      | entered hend => exact hcarries.handler _ _ _ _ _ _ hhandler hend

/-- An attempt that ended in a conflict could not load its record, or was refused the save of a
record with the token of the one that it had loaded. -/
theorem Advances.refused (hcarries : visit.registration.CarriesToken visit.request.message.type)
    (hhandler : visit.registration.handler? visit.request.message.type = some (stage, handler))
    (h : visit.Advances stage handler key events (.error (.conflict stale))) :
    (∃ error, events = [.loaded key (.error error)]) ∨
      ∃ previous middle record error,
        events = .loaded key (.ok (some previous)) :: (middle ++ [.saved record (.error error)]) ∧
        SagaError.ofStore error = .conflict stale ∧ record.toKey = key ∧
        record.token = previous.token := by
  generalize hresult : Except.error (SagaError.conflict stale) = result at h
  cases h with
  | cancelled | missing | terminated | abandoned => cases hresult
  | unloaded => exact .inl ⟨_, rfl⟩
  | unreadable _ herror =>
    obtain ⟨source, rfl⟩ := stateOf_eq_error herror
    cases hresult
  | unresolved _ _ herror =>
    obtain ⟨source, rfl⟩ := checkInstance_eq_error herror
    cases hresult
  | executed _ hstate _ hexecutes =>
    rw [← hresult] at hexecutes
    obtain ⟨before, record, error, rfl, herror, hkey, htoken⟩ := hexecutes.refused hcarries hhandler
    refine .inr ⟨_, _ :: before, record, error, rfl, herror, hkey, ?_⟩
    obtain ⟨decoded, hdecoded, rfl⟩ := stateOf_eq_ok hstate
    rw [htoken]
    exact hcarries.keeps _ _ _ hdecoded

/-! ## What stands in the window of an attempt -/

section

variable {C : List (Event A) → Prop} {R : World A → List (Entry A) → World A → Prop}
  {trial : Trial A} {entry : Entry A}
  (h : Within C R (begun trial.before) trial.entries trial.after)
include h

/-- The entries of the attempt itself are those with its number. -/
theorem own_of_attempt (hmem : entry ∈ trial.entries) (hengine : entry.event.isEngine = true)
    (hattempt : entry.attempt = trial.before.attempts + 1) : trial.Own entry := by
  refine ⟨?_, hattempt⟩
  rcases h.place entry hmem hengine with ⟨hdepth, -⟩ | ⟨-, hlater, -⟩
  · exact hdepth
  · exact absurd hattempt (Nat.ne_of_gt hlater)

/-- The window of an attempt, from its load to its save. -/
theorem exists_window {answer : Except StoreError (Option Record)} {record : Record}
    {result : Except StoreError Token} {middle : List (Event A)}
    (hevents : trial.events = .loaded key answer :: (middle ++ [.saved record result])) :
    ∃ before load between save after,
      trial.entries = before ++ load :: (between ++ save :: after) ∧
      trial.Own load ∧ load.event = .loaded key answer ∧
      trial.Own save ∧ save.event = .saved record result := by
  have hown : eventsOf (trial.before.attempts + 1) trial.entries = trial.events := eventsOf_begun h
  rw [hevents] at hown
  obtain ⟨before, load, rest, hentries, hloadat, hload, -, hrest⟩ :=
    exists_entry_of_eventsOf (show _ = [] ++ _ :: _ from hown)
  obtain ⟨between, save, after, rfl, hsaveat, hsave, -, -⟩ := exists_entry_of_eventsOf hrest
  exact ⟨before, load, between, save, after, hentries,
    own_of_attempt h (by simp [hentries]) (by rw [hload]; rfl) hloadat, hload,
    own_of_attempt h (by simp [hentries]) (by rw [hsave]; rfl) hsaveat, hsave⟩

/-- An attempt that has saved nothing itself leaves saves to nested deliveries. -/
theorem interferes_of_idle (hidle : Idle trial.events) (hmem : entry ∈ trial.entries)
    {version : Record} (hmade : entry.event.version? key = some version) :
    entry.interferes trial.before.depth key = true := by
  obtain ⟨record, token, hsaved, -, -⟩ := Event.saved_of_version? hmade
  have hengine : entry.event.isEngine = true := by rw [hsaved]; rfl
  unfold Entry.interferes
  rw [hmade, Option.isSome_some, Bool.and_true, decide_eq_true_eq]
  rcases h.place entry hmem hengine with ⟨hdepth, hattempt⟩ | ⟨hdeeper, -, -⟩
  · have hmine := mem_eventsOf hmem hengine
    rw [hattempt, show (begun trial.before).attempt = trial.before.attempts + 1 from rfl,
      eventsOf_begun h, hsaved] at hmine
    cases hidle _ hmine
  · exact hdeeper

end

/-- An attempt begins at the depth of its step, and over records with tokens if the step does. -/
theorem begins_of_mem (hmemory : visit.orchestrator.InMemory) (hsends : visit.Nests)
    (htokened : w.store.Tokened) {reruns made : Nat} {trial : Trial A}
    (hmem : trial ∈ visit.trialsFrom stage handler key reruns made w) :
    trial.before.depth = w.depth ∧ trial.before.store.Tokened := by
  obtain ⟨es, hbefore⟩ := exists_across_of_mem hmemory.law (hsends _ hmemory.law)
    (fun _ _ _ => trivial) hmem
  refine ⟨hbefore.depth, ?_⟩
  rw [hbefore.law.store]
  exact htokened.replay es

/-- **An attempt is refused because of a save that interferes.** What it has loaded was up to date,
and its own save bears the token of that; so another version came in between. -/
theorem charged (hmemory : visit.orchestrator.InMemory) (hsends : visit.Nests)
    (hcarries : visit.registration.CarriesToken visit.request.message.type)
    (hhandler : visit.registration.handler? visit.request.message.type = some (stage, handler))
    (hkey : key.sagaType = visit.sagaType) (htokened : w.store.Tokened)
    (hstale : (visit.trial stage handler key w).isStale = true) :
    ∃ save, (visit.trial stage handler key w).Charged key save := by
  obtain ⟨stale, hresult⟩ := Trial.result_of_isStale hstale
  obtain ⟨hwithin, hadvances, hloads⟩ :=
    trial_within hmemory.law (hsends _ hmemory.law) stage handler key w
  rw [hresult] at hadvances
  have hidle := (hadvances.concludes .nil hkey).ends.idle_of_conflict
  obtain ⟨error, hunloaded⟩ | ⟨previous, middle, record, error, hevents, herror, hsaved, htoken⟩ :=
    hadvances.refused hcarries hhandler
  · -- the store in memory answers every load
    rw [hunloaded] at hloads
    cases (loadedIn_inMemory hmemory).symm.trans hloads.loadedIn_eq
  · generalize htrial : visit.trial stage handler key w = trial at hwithin hidle hevents ⊢
    obtain rfl : trial.before = w := htrial ▸ rfl
    obtain ⟨before, load, between, refused, after, hentries, hownload, hload, hownrefused,
      hrefused⟩ := exists_window hwithin hevents
    have hbears : trial.before.store.Bears trial.entries := hwithin.law.bears
    rw [hentries] at hbears
    obtain ⟨version, hversion⟩ := List.exists_mem_of_ne_nil _
      (versions_ne_nil_of_refused hbears htokened hload hrefused herror hsaved htoken)
    obtain ⟨save, hsave, hmade⟩ := List.mem_filterMap.1 hversion
    obtain ⟨earlier, later, rfl⟩ := List.append_of_mem hsave
    refine ⟨save, before, load, earlier, later, refused, after, previous, record, error, ?_,
      hownload, hload, interferes_of_idle hwithin hidle (by simp [hentries]) hmade, hownrefused,
      hrefused, hsaved⟩
    rw [hentries]
    simp

end Visit

/-! ## Enough reruns -/

/-- **No save is charged twice**: attempts one after the other have windows of their own. -/
theorem exists_charges {key : Key} {depth : Nat} {trials : List (Trial A)}
    (hdepth : ∀ trial ∈ trials, trial.before.depth = depth)
    (hcharged : ∀ trial ∈ trials, trial.isStale = true → ∃ save, trial.Charged key save) :
    ∃ charges, charges.Sublist (interference depth key (trials.flatMap Trial.entries)) ∧
      List.Forall₂ (Trial.Charged key) (trials.filter Trial.isStale) charges := by
  induction trials with
  | nil => exact ⟨[], List.nil_sublist _, .nil⟩
  | cons trial rest ih =>
    obtain ⟨hfirst, hothers⟩ := List.forall_mem_cons.1 hdepth
    obtain ⟨charges, hsub, hall⟩ := ih hothers fun other hmem =>
      hcharged other (List.mem_cons_of_mem _ hmem)
    rw [List.flatMap_cons, interference, List.filter_append]
    by_cases hstale : trial.isStale = true
    · obtain ⟨save, hsave⟩ := hcharged trial List.mem_cons_self hstale
      have hmem := hsave.mem_interference
      rw [hfirst] at hmem
      refine ⟨save :: charges, (List.singleton_sublist.2 hmem).append hsub, ?_⟩
      rw [List.filter_cons_of_pos hstale]
      exact .cons hsave hall
    · refine ⟨charges, hsub.trans (List.sublist_append_right _ _), ?_⟩
      rw [List.filter_cons_of_neg hstale]
      exact hall

namespace Visit

variable {visit : Visit A} {stage : Stage} {handler : Handler A} {sagaId : String} {stale : Key}
  {reruns : Nat} {earlier : List (Trial A)} {last : Trial A}

/-- With reruns for all the attempts that were refused, the last attempt is not one of them. -/
theorem Concluded.isStale_eq_false (h : Concluded reruns earlier last)
    (hfew : ((earlier ++ [last]).filter Trial.isStale).length ≤ reruns) : last.isStale = false := by
  cases hlast : last.isStale with
  | false => rfl
  | true =>
    have hall : (earlier ++ [last]).filter Trial.isStale = earlier ++ [last] :=
      List.filter_eq_self.2
        (List.forall_mem_append.2 ⟨h.stale, List.forall_mem_singleton.2 hlast⟩)
    rw [hall, List.length_append, List.length_singleton, h.full hlast] at hfew
    exact absurd hfew (Nat.not_succ_le_self _)

section

variable (hstage : stage ≠ .start)
  (hhandler : visit.registration.handler? visit.request.message.type = some (stage, handler))
  (hid : visit.registration.correlate visit.request.message = .ok sagaId) (w : World A)
include hstage hhandler hid

variable (visit) in
/-- A turn ends in a conflict only if all its attempts were refused. -/
theorem conflict_of_turn (hconflict : (visit.turn w).error? = some (.conflict stale)) :
    visit.orchestrator.config.concurrencyRetries.toNat <
      ((visit.trials stage handler ⟨visit.sagaType, sagaId⟩ w).filter Trial.isStale).length := by
  obtain ⟨earlier, last, htrials, hconcluded, hrun⟩ := dispatch_run_of_stage hstage hhandler hid w
  have hresult : (visit.turn w).result = last.result.map some := congrArg Prod.fst hrun
  rw [Turn.result_eq_error hconflict] at hresult
  have hlast : last.result = .error (.conflict stale) := map_some_inj hresult.symm
  by_contra hfew
  rw [Nat.not_lt, htrials] at hfew
  have hquiet := hconcluded.isStale_eq_false hfew
  rw [Trial.isStale_of_result hlast] at hquiet
  cases hquiet

end

end Visit

namespace Orchestrator

/-- What messages sent meanwhile do to the step of a stored instance. -/
structure Outlasts (orchestrator : Orchestrator A) (nesting : Nat) (request : Request A.Body)
    (w : World A) (turn : Turn A) (stage : Stage) (handler : Handler A) (key : Key) : Prop where
  /-- The attempts make the turn, one window after the other. -/
  windows : turn.entries =
    ((orchestrator.visitOf nesting request turn).trials stage handler key turn.before).flatMap
      Trial.entries
  /-- Each attempt that was refused is charged with an interfering save of its own window, and no
  save is charged twice. -/
  charges : ∃ charges,
    charges.Sublist (interference turn.before.depth key turn.entries) ∧
      List.Forall₂ (Trial.Charged key)
        (((orchestrator.visitOf nesting request turn).trials stage handler key turn.before).filter
          Trial.isStale) charges
  /-- If there were no more interfering saves than reruns are allowed, the turn does not end in a
  conflict. -/
  enough : (interference turn.before.depth key turn.entries).length ≤
      orchestrator.config.concurrencyRetries.toNat → ∀ stale, turn.error? ≠ some (.conflict stale)
  /-- A conflict that the call ends in is then one of another saga, which had its turn later. -/
  others : (interference turn.before.depth key turn.entries).length ≤
      orchestrator.config.concurrencyRetries.toNat → ∀ stale,
    (orchestrator.deliver nesting request w).1 = .error (.conflict stale) →
      ∃ earlier last, orchestrator.turns nesting request w = earlier ++ [last] ∧
        turn ∈ earlier ∧ last.error? = some (.conflict stale) ∧ stale.sagaType = last.sagaType

variable {orchestrator : Orchestrator A} {nesting : Nat} {request : Request A.Body} {w : World A}
  {turn : Turn A}

/-- A record of the store has a token also when a turn begins. -/
theorem turn_tokened (hmemory : orchestrator.InMemory) (htokened : w.store.Tokened)
    (hmem : turn ∈ orchestrator.turns nesting request w) : turn.before.store.Tokened := by
  obtain ⟨earlier, later, hturns⟩ := List.append_of_mem hmem
  obtain ⟨hbefore, -, -⟩ := turns_across hmemory.law hturns
  rw [hbefore.law.store]
  exact htokened.replay _

/-- **Enough reruns outlast the interference.** For every step or compensate message of a saga that
carries its token along, over a store in memory: an attempt is refused only because of a save that
another delivery made in its window, and if there were at most as many of these as reruns are
allowed, the call does not end in a conflict of that saga. -/
theorem reruns_outlast (orchestrator : Orchestrator A) (hmemory : orchestrator.InMemory)
    (nesting : Nat) (request : Request A.Body) (w : World A) (htokened : w.store.Tokened)
    (turn : Turn A) (hmem : turn ∈ orchestrator.turns nesting request w) (stage : Stage)
    (hstage : stage ≠ .start) (handler : Handler A)
    (hhandler : turn.registration.handler? request.message.type = some (stage, handler))
    (sagaId : String) (hid : turn.registration.correlate request.message = .ok sagaId)
    (hcarries : turn.registration.CarriesToken request.message.type) :
    orchestrator.Outlasts nesting request w turn stage handler
      ⟨turn.registration.saga.type.name, sagaId⟩ := by
  let visit := orchestrator.visitOf nesting request turn
  have hsends : visit.Nests := fun _ hR => orchestrator.below_free hR nesting
  obtain ⟨-, -, hturn⟩ := turns_visits nesting request w turn hmem
  have hwindows : (visit.turn turn.before).entries = _ :=
    Visit.turn_entries_eq hstage hhandler hid (hsends _ (Law.trivial _)) turn.before
  rw [show visit.turn turn.before = turn from hturn] at hwindows
  have hbegins : ∀ trial ∈ visit.trials stage handler ⟨visit.sagaType, sagaId⟩ turn.before,
      trial.before.depth = turn.before.depth ∧ trial.before.store.Tokened :=
    fun _ => Visit.begins_of_mem hmemory hsends (turn_tokened hmemory htokened hmem)
  have hcharges := exists_charges (fun trial htrial => (hbegins trial htrial).1)
    fun trial htrial hstale => by
      rw [← Visit.trial_of_mem htrial] at hstale ⊢
      exact Visit.charged hmemory hsends hcarries hhandler rfl (hbegins trial htrial).2 hstale
  rw [← hwindows] at hcharges
  have henough : (interference turn.before.depth ⟨visit.sagaType, sagaId⟩ turn.entries).length ≤
      orchestrator.config.concurrencyRetries.toNat →
      ∀ stale, turn.error? ≠ some (.conflict stale) := by
    intro hfew stale herror
    rw [← hturn] at herror
    have hmany := visit.conflict_of_turn hstage hhandler hid turn.before herror
    -- there was an interfering save for each attempt that was refused
    obtain ⟨charges, hsub, hall⟩ := hcharges
    have hlength := hsub.length_le
    rw [← hall.length_eq] at hlength
    exact absurd (Nat.lt_of_lt_of_le hmany (Nat.le_trans hlength hfew)) (Nat.lt_irrefl _)
  refine ⟨hwindows, hcharges, henough, fun hfew stale hanswer => ?_⟩
  obtain ⟨front, final, hturns, herror, -⟩ := exists_turn_of_error hanswer (by simp) (by simp)
  have hfinal : final ∈ orchestrator.turns nesting request w := by simp [hturns]
  refine ⟨front, final, hturns, ?_, herror, ?_⟩
  · rw [hturns] at hmem
    rcases List.mem_append.1 hmem with hfront | hlast
    · exact hfront
    · obtain rfl := List.mem_singleton.1 hlast
      exact absurd herror (henough hfew stale)
  · obtain ⟨resolve, hresolve⟩ := hmemory
    refine (turn_fails hfinal herror).of_conflict
      (turns_law (Gateways.NamesConflicts.law ?_) hfinal)
    rw [hresolve]
    exact .inMemory resolve

open Simulation in
/-- Adding to a counter is refused once, since the handler has another message add to the counter;
that one save is made up for by the one rerun. -/
theorem reruns_outlast_counters :
    let w := counters.follow (counterMoves.take 1) (World.ofResources emptyBench)
    let turn := Visit.turn {
      orchestrator := counters
      send := counters.below 2
      registration := .ofSaga counterSpec.toSaga
      request := requestTo addToCounter } (begun w)
    (interference turn.before.depth ⟨"Counter", "c"⟩ turn.entries).length = 1 ∧
      counters.config.concurrencyRetries.toNat = 1 ∧
      counters.Outlasts 2 (requestTo addToCounter) w turn .step
        (counterSpec.handler addToCounter.type) ⟨"Counter", "c"⟩ := by
  intro w turn
  refine ⟨by decide +kernel, rfl, ?_⟩
  exact counters.reruns_outlast counters_inMemory 2 (requestTo addToCounter) w
    (follow_tokened counters_inMemory rfl _) turn List.mem_cons_self .step (by decide) _ rfl "c" rfl
    (carriesToken_of_spec (by decide) rfl (counters_registered List.mem_cons_self))

end Orchestrator

end Sagas
