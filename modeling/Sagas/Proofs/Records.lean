import Mathlib.Data.List.Induction
import Mathlib.Data.List.Nodup
import Sagas.Proofs.Lineage
import Sagas.Proofs.Routing

/-!
# What is stored

A store that was empty at first and is written by deliveries only holds nothing but sound records,
at every moment of a run and whatever the programs do: a record stands under its own key, the key is
that of an instance of a registered saga type, the record has a token of its own, and it never goes
away. Where handlers leave the id of a state alone and states are read back as they were stored, the
id in the state is the one of the key.

The key of a record comes from the creation hook at first, and from the loaded record in every later
step; its state comes from handlers. The two are tied together along the versions of the record.

* `Orchestrator.Owns`, `Orchestrator.Sound`, `Orchestrator.Identified`: what is asked of a record
  and of a store.
* `versions_induction`: what every accepted save makes true of its record, given the earlier ones,
  is true of all versions.
* `Ran.saved`: what an accepted save was made from.
* `records_sound`: every moment of a run.
-/

namespace Sagas

variable {A : Application}

/-- A record is one of an instance of a registered saga type. -/
structure Orchestrator.Owns (orchestrator : Orchestrator A) (key : Key) (record : Record) :
    Prop where
  /-- It stands under its own key. -/
  filed : record.toKey = key
  id : key.sagaId ≠ ""
  registered : ∃ registration ∈ orchestrator.directory.registrations,
    registration.saga.type.name = key.sagaType
  /-- The name of the saga type is not blank. -/
  named : Text.trim key.sagaType.toList ≠ []
  token : record.token ≠ none

/-- What is stored is owned, and each record has a token of its own. -/
structure Orchestrator.Sound (orchestrator : Orchestrator A) (store : Store) : Prop where
  owned : ∀ key record, store.find? key = some record → orchestrator.Owns key record
  apart : ∀ key other record record', store.find? key = some record →
    store.find? other = some record' → record'.token = record.token → other = key

/-- Every stored state can be read, and its id is the one that it is stored under. -/
def Orchestrator.Identified (orchestrator : Orchestrator A) (store : Store) : Prop :=
  ∀ key record, store.find? key = some record →
    ∀ registration ∈ orchestrator.directory.registrations,
      registration.saga.type.name = key.sagaType →
      ∃ state, registration.saga.decode record.state = .ok state ∧
        registration.saga.idOf state = key.sagaId

/-! ## Where a version comes from -/

/-- What every accepted save makes true of the version that it leaves, given that it is true of all
earlier versions, is true of all versions. -/
theorem versions_induction {history : List (Entry A)} {P : Key → Record → Prop}
    (hsave : ∀ before save after record token, history = before ++ save :: after →
      save.event = .saved record (.ok token) →
      (∀ key, ∀ version ∈ versions key before, P key version) →
      P record.toKey { record with token := some token })
    {before after : List (Entry A)} (hs : history = before ++ after) :
    ∀ key, ∀ version ∈ versions key before, P key version := by
  induction before using List.reverseRecOn generalizing after with
  | nil => simp
  | append_singleton before save ih =>
    rw [List.append_assoc] at hs
    intro key version hmem
    rw [versions_append, List.mem_append] at hmem
    rcases hmem with hbefore | hlast
    · exact ih hs key version hbefore
    · rw [versions_cons, versions_nil, List.append_nil, Option.mem_toList] at hlast
      obtain ⟨record, token, he, rfl, rfl⟩ := Event.saved_of_version? hlast
      exact hsave before save after record token hs he (ih hs)

section

variable {orchestrator : Orchestrator A} {start : Resources A} {w : World A}

/-- **What an accepted save was made from**: a new state and the id that its creation hook gave it,
or the state of an earlier version under the same key. -/
theorem Ran.saved (h : Ran orchestrator start w) (hempty : start.store.records = [])
    {before after : List (Entry A)} {save : Entry A} {record : Record} {token : Token}
    (hs : w.history = before ++ save :: after) (he : save.event = .saved record (.ok token)) :
    ∃ (visit : Visit A) (stage : Stage) (handler : Handler A) (runner : Instance)
      (state : A.State) (earlier : List (Event A)),
      visit.registration ∈ orchestrator.directory.registrations ∧
      visit.registration.handler? visit.request.message.type = some (stage, handler) ∧
      record.sagaType = visit.sagaType ∧
      visit.Saves stage handler runner record.toKey state earlier record ∧
      (((visit.hook runner).CanEnd (state, .ok ()) ∧ record.sagaId = visit.saga.idOf state ∧
          record.sagaId ≠ "") ∨
        ∃ previous ∈ versions record.toKey before, visit.stateOf previous = .ok state) := by
  have hcourse := h.course hs (by rw [he]; rfl)
  rw [he] at hcourse
  obtain ⟨visit, stage, handler, runner, state, earlier, hreg, hhandler, hsaga, hsaves, hkind⟩ :=
    hcourse.saved
  refine ⟨visit, stage, handler, runner, state, earlier, hreg, hhandler, hsaga, hsaves, ?_⟩
  rcases hkind with ⟨-, hhook, hid, hne, -⟩ | ⟨-, previous, -, hstate, hown⟩
  · exact .inl ⟨hhook, hid, hne⟩
  · obtain ⟨front, load, between, rfl, -, -, hprevious, -⟩ := h.loaded hempty hs hown
    refine .inr ⟨previous, ?_, hstate⟩
    rw [versions_append]
    exact List.mem_append_left _ (List.mem_of_getLast? hprevious)

/-! ## Keys -/

/-- Every version stands under its own key, which is that of an instance of a registered saga
type. -/
theorem Ran.keyed (h : Ran orchestrator start w) (hempty : start.store.records = [])
    {before after : List (Entry A)} (hs : w.history = before ++ after) (key : Key) :
    ∀ version ∈ versions key before, version.toKey = key ∧ key.sagaId ≠ "" ∧
      ∃ registration ∈ orchestrator.directory.registrations,
        registration.saga.type.name = key.sagaType := by
  refine versions_induction (P := fun key version => version.toKey = key ∧ key.sagaId ≠ "" ∧
    ∃ registration ∈ orchestrator.directory.registrations,
      registration.saga.type.name = key.sagaType) ?_ hs key
  intro before save after record token hs he hearlier
  obtain ⟨visit, stage, handler, runner, state, events, hreg, -, hsaga, -, hkind⟩ :=
    h.saved hempty hs he
  refine ⟨rfl, ?_, visit.registration, hreg, hsaga.symm⟩
  rcases hkind with ⟨-, -, hne⟩ | ⟨previous, hmem, -⟩
  · exact hne
  · -- the key of the version that was loaded
    exact (hearlier _ previous hmem).2.1

/-! ## States -/

/-- A version holds a state of its saga type that keeps its id, which is the one that it is stored
under. -/
def Registration.Holds (registration : Registration A) (key : Key) (version : Record) : Prop :=
  ∃ states, registration.KeepsIds states ∧ ∃ state, states state ∧
    registration.saga.idOf state = key.sagaId ∧ registration.saga.encode state = .ok version.state

/-- What a version holds is read back with its id. -/
theorem Registration.Holds.decoded {registration : Registration A} {key : Key} {version : Record}
    (h : registration.Holds key version) :
    ∃ states, registration.KeepsIds states ∧ ∃ state, states state ∧
      registration.saga.idOf state = key.sagaId ∧
      registration.saga.decode version.state = .ok state := by
  obtain ⟨states, hkeeps, state, hstate, hid, hencode⟩ := h
  obtain ⟨decoded, hdecode, rfl | ⟨token, rfl⟩⟩ := hkeeps.roundTrips state _ hstate hencode
  · exact ⟨states, hkeeps, _, hstate, hid, hdecode⟩
  · obtain ⟨hagain, hsame⟩ := hkeeps.token token state hstate
    exact ⟨states, hkeeps, _, hagain, hsame.trans hid, hdecode⟩

/-- A step saves a state with the id of the state that it started from. -/
theorem Visit.Saves.holds {visit : Visit A} {stage : Stage} {handler : Handler A}
    {runner : Instance} {key : Key} {state : A.State} {events : List (Event A)} {record : Record}
    {states : A.State → Prop} (h : visit.Saves stage handler runner key state events record)
    (hkeeps : visit.registration.KeepsIds states) {message : MessageType}
    (hhandler : visit.registration.handler? message = some (stage, handler))
    (hstate : states state) (hid : visit.saga.idOf state = key.sagaId) :
    visit.registration.Holds key record := by
  cases h with
  | @intro _ _ left _ _ _ hworks _ hencode =>
    suffices hleft : states left ∧ visit.saga.idOf left = visit.saga.idOf state from
      ⟨states, hkeeps, left, hleft.1, hleft.2.trans hid, hencode⟩
    cases hworks with
    | halted => exact ⟨hstate, rfl⟩
    | entered hend => exact hkeeps.handler _ _ _ _ _ _ _ hhandler hstate hend

/-- Where names tell saga types apart and states keep their ids, every version holds a state with
the id that it is stored under. -/
theorem Ran.holds (h : Ran orchestrator start w) (hempty : start.store.records = [])
    (hnames : (orchestrator.directory.registrations.map (·.saga.type.name)).Nodup)
    (hkeeps : ∀ r ∈ orchestrator.directory.registrations, ∃ states, r.KeepsIds states)
    {before after : List (Entry A)} (hs : w.history = before ++ after) (key : Key) :
    ∀ version ∈ versions key before, ∀ registration ∈ orchestrator.directory.registrations,
      registration.saga.type.name = key.sagaType → registration.Holds key version := by
  refine versions_induction (P := fun key version =>
    ∀ registration ∈ orchestrator.directory.registrations,
      registration.saga.type.name = key.sagaType → registration.Holds key version) ?_ hs key
  intro before save after record token hs he hearlier registration hmem hname
  obtain ⟨visit, stage, handler, runner, state, events, hreg, hhandler, hsaga, hsaves, hkind⟩ :=
    h.saved hempty hs he
  obtain rfl : registration = visit.registration :=
    List.inj_on_of_nodup_map hnames hmem hreg (hname.trans hsaga)
  rcases hkind with ⟨hhook, hid, -⟩ | ⟨previous, hprevious, hstate⟩
  · obtain ⟨states, hstates⟩ := hkeeps _ hreg
    exact hsaves.holds hstates hhandler (hstates.hook _ _ _ _ hstates.initial hhook) hid.symm
  · -- the state of the version that was loaded, with its token
    obtain ⟨decoded, hdecoded, rfl⟩ := Visit.stateOf_eq_ok hstate
    obtain ⟨states, hstates, read, hfrom, hid, hread⟩ :=
      (hearlier _ previous hprevious _ hreg hname).decoded
    obtain rfl := Except.ok.inj (hdecoded.symm.trans hread)
    obtain ⟨hfilled, hsame⟩ := hstates.token previous.token decoded hfrom
    exact hsaves.holds hstates hhandler hfilled (hsame.trans hid)

end

/-! ## Every moment of a run -/

section

variable {orchestrator : Orchestrator A} {start : Resources A} {w : World A}

/-- What is stored at a moment of a run is a version. -/
theorem Ran.mem_versions (h : Ran orchestrator start w) (hempty : start.store.records = [])
    {before after : List (Entry A)} (hs : w.history = before ++ after) {key : Key}
    {record : Record} (hfind : (start.store.replay before).find? key = some record) :
    record ∈ versions key before := by
  rw [h.find?_replay hempty hs] at hfind
  exact List.mem_of_getLast? hfind

/-- The store is sound at every moment of a run. -/
theorem Ran.sound (h : Ran orchestrator start w) {log : List (Directory.Logged A)}
    (hreached : orchestrator.directory.Reached log) (hempty : start.store.records = [])
    (honce : start.store.IssuesOnce) {before after : List (Entry A)}
    (hs : w.history = before ++ after) : orchestrator.Sound (start.store.replay before) := by
  have hbears := h.bears
  rw [hs] at hbears
  constructor
  case owned =>
    intro key record hfind
    have hmem := h.mem_versions hempty hs hfind
    obtain ⟨hkey, hid, registration, hreg, hname⟩ := h.keyed hempty hs key record hmem
    obtain ⟨n, -, -, htoken⟩ := token_of_mem_versions hbears.left hmem
    refine ⟨hkey, hid, ⟨registration, hreg, hname⟩, ?_, ?_⟩
    · rw [← hname]
      exact (hreached.wellFormed hreg).1.named
    · rw [htoken]
      exact Option.some_ne_none _
  case apart =>
    intro key other record record' hfind hfind' hsame
    exact key_eq_of_token_eq honce hbears.left (h.mem_versions hempty hs hfind)
      (h.mem_versions hempty hs hfind') hsame

/-- Every stored state has the id that it is stored under. -/
theorem Ran.identified (h : Ran orchestrator start w) (hempty : start.store.records = [])
    (hnames : (orchestrator.directory.registrations.map (·.saga.type.name)).Nodup)
    (hkeeps : ∀ r ∈ orchestrator.directory.registrations, ∃ states, r.KeepsIds states)
    {before after : List (Entry A)} (hs : w.history = before ++ after) :
    orchestrator.Identified (start.store.replay before) := by
  intro key record hfind registration hreg hname
  have hholds := h.holds hempty hnames hkeeps hs key record (h.mem_versions hempty hs hfind)
    registration hreg hname
  obtain ⟨-, -, state, -, hid, hdecode⟩ := hholds.decoded
  exact ⟨state, hdecode, hid⟩

end

/-- **What is stored is sound at every moment of a run**, with a store that was empty at first and a
directory that came about by registering saga types. The moments are told by the entries made so
far; after the last one the store is the one that the run has led to. -/
theorem records_sound (orchestrator : Orchestrator A) (hmemory : orchestrator.InMemory)
    {log : List (Directory.Logged A)} (hreached : orchestrator.directory.Reached log)
    (start : Resources A) (hempty : start.store.records = []) (honce : start.store.IssuesOnce)
    (moves : List (Move A)) :
    let w := orchestrator.follow moves (World.ofResources start)
    (∀ key, w.store.find? key = (start.store.replay w.history).find? key) ∧
      ∀ before between after, w.history = before ++ between ++ after →
        orchestrator.Sound (start.store.replay before) ∧
        (∀ key, ((start.store.replay before).find? key).isSome →
          ((start.store.replay (before ++ between)).find? key).isSome) ∧
        ((orchestrator.directory.registrations.map (·.saga.type.name)).Nodup →
          (∀ r ∈ orchestrator.directory.registrations, ∃ states, r.KeepsIds states) →
          orchestrator.Identified (start.store.replay before)) := by
  intro w
  have hran : Ran orchestrator start w := follow_ran hmemory start moves
  refine ⟨hran.find?, fun before between after hs => ⟨?_, ?_, ?_⟩⟩
  · rw [List.append_assoc] at hs
    exact hran.sound hreached hempty honce hs
  · -- what is stored stays stored, by the answers in between
    intro key hsome
    have hbears := hran.bears
    rw [hs] at hbears
    rw [Store.replay_append]
    exact isSome_find?_replay hbears.left.right hsome
  · intro hnames hkeeps
    rw [List.append_assoc] at hs
    exact hran.identified hempty hnames hkeeps hs

open Simulation in
/-- A counter whose step has sent a message to itself: its record is there, sound, and holds its own
id. -/
theorem records_sound_counters :
    let w := counters.follow counterMoves (World.ofResources emptyBench)
    (w.store.find? ⟨"Counter", "c"⟩).isSome = true ∧
      counters.Sound (emptyBench.store.replay w.history) ∧
      counters.Identified (emptyBench.store.replay w.history) := by
  intro w
  have hsplit : w.history = w.history ++ [] ++ [] := by simp
  obtain ⟨-, hmoments⟩ := records_sound counters counters_inMemory (.register .empty _) emptyBench
    rfl emptyBench_issuesOnce counterMoves
  obtain ⟨hsound, -, hidentified⟩ := hmoments w.history [] [] hsplit
  refine ⟨by decide +kernel, hsound, hidentified (by decide) fun registration hmem => ?_⟩
  exact ⟨_, keepsIds_of_spec (by decide) rfl (counters_registered hmem)⟩

end Sagas
