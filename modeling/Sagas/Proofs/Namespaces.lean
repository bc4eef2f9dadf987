import Sagas.Proofs.Endings
import Sagas.Proofs.Frozen

/-!
# Sagas in the store

The records of a saga type stand under the name that it declares. So the steps of a saga type
read and replace only what was saved under that name: records of its own, if no other registered
saga type declares it too. Registering a saga type does not look at the names of the others, and
two saga types of one name share their records.

* `Visit.Attempts.concerns`: every event of an attempt concerns the saga type of its step.
* `Ran.lastSavedBy`: who has saved the stored record.
* `namespaces_isolated`: saga types of different names are isolated, over whole runs.
-/

namespace Sagas

variable {A : Application}

/-- An event concerns a saga type: the instance is one of it, or the key bears its name. -/
def Event.Concerns (saga : SagaType) : Event A → Prop
  | .loaded key _ => key.sagaType = saga.name
  | .resolved other _ | .hooked other _ => other = saga
  | .handled step .. | .returned step .. => step.key.sagaType = saga.name
  | .saved record _ => record.sagaType = saga.name
  | .published .. | .cancelled _ | .noted _ => True

namespace Visit

/-- What one attempt at the step of a visit leaves in the history. -/
inductive Attempts (visit : Visit A) : List (Event A) → Prop where
  | create {handler events result} :
      visit.registration.handler? visit.request.message.type = some (.start, handler) →
      visit.Creates handler events result → Attempts visit events
  | advance {stage handler sagaId events result} : stage ≠ .start →
      visit.registration.handler? visit.request.message.type = some (stage, handler) →
      visit.registration.correlate visit.request.message = .ok sagaId →
      visit.Advances stage handler ⟨visit.sagaType, sagaId⟩ events result →
      Attempts visit events

variable {visit : Visit A} {stage : Stage} {handler : Handler A} {runner : Instance} {key : Key}
  {state : A.State} {events : List (Event A)} {result : Except SagaError Settled}

/-! ## Events of one saga type -/

theorem concerns_of_ofStep {saga : SagaType} {event : Event A} (hsaga : key.sagaType = saga.name)
    (h : event.OfStep key) : event.Concerns saga := by
  cases event with
  | handled | returned | saved => exact (congrArg Key.sagaType h).trans hsaga
  | published => trivial
  | _ => cases h

theorem Executes.concerns (hsaga : key.sagaType = visit.sagaType)
    (h : visit.Executes stage handler runner key state events result) :
    ∀ event ∈ events, event.Concerns visit.saga.type :=
  fun event hmem => concerns_of_ofStep hsaga (h.ofStep event hmem)

theorem Creates.concerns (h : visit.Creates handler events result) :
    ∀ event ∈ events, event.Concerns visit.saga.type := by
  cases h with
  | cancelled => simp
  | unresolved | raised | nameless => simp [Event.Concerns]
  | executed _ _ _ hexec =>
    exact List.forall_mem_cons.2 ⟨rfl, List.forall_mem_cons.2 ⟨rfl, hexec.concerns rfl⟩⟩

theorem Advances.concerns (hsaga : key.sagaType = visit.sagaType)
    (h : visit.Advances stage handler key events result) :
    ∀ event ∈ events, event.Concerns visit.saga.type := by
  cases h with
  | cancelled => simp
  | unloaded | missing | terminated | unreadable | abandoned =>
    exact List.forall_mem_singleton.2 hsaga
  | unresolved => exact List.forall_mem_cons.2 ⟨hsaga, List.forall_mem_singleton.2 rfl⟩
  | executed _ _ _ hexec =>
    exact List.forall_mem_cons.2 ⟨hsaga, List.forall_mem_cons.2 ⟨rfl, hexec.concerns hsaga⟩⟩

/-- **Every event of an attempt concerns the saga type of its step.** -/
theorem Attempts.concerns (h : visit.Attempts events) :
    ∀ event ∈ events, event.Concerns visit.saga.type := by
  cases h with
  | create _ hcreates => exact hcreates.concerns
  | advance _ _ _ hadvances => exact hadvances.concerns rfl

end Visit

/-! ## Who has saved a record -/

/-- What one attempt at a step of a registered saga type leaves in the history. -/
def Orchestrator.StepOf (orchestrator : Orchestrator A) (saga : SagaType)
    (events : List (Event A)) : Prop :=
  ∃ visit : Visit A, visit.orchestrator = orchestrator ∧
    visit.registration ∈ orchestrator.directory.registrations ∧ visit.saga.type = saga ∧
    visit.Attempts events

/-- The record that is stored under a key once some entries of a history are made was saved last
by a step of a saga type. -/
def LastSavedBy (orchestrator : Orchestrator A) (history before : List (Entry A)) (key : Key)
    (stored : Record) (maker : SagaType) : Prop :=
  ∃ earlier save between, before = earlier ++ save :: between ∧
    save.event.version? key = some stored ∧ versions key between = [] ∧
    orchestrator.StepOf maker (eventsOf save.attempt history)

variable {orchestrator : Orchestrator A} {start : Resources A} {w : World A}

theorem Orchestrator.StepOf.concerns {saga : SagaType} {events : List (Event A)}
    (h : orchestrator.StepOf saga events) : ∀ event ∈ events, event.Concerns saga := by
  obtain ⟨visit, -, -, rfl, hattempts⟩ := h
  exact hattempts.concerns

theorem Orchestrator.Course.stepOf {events : List (Event A)} (h : orchestrator.Course events) :
    ∃ registration ∈ orchestrator.directory.registrations,
      orchestrator.StepOf registration.saga.type events := by
  cases h with
  | @create visit _ _ _ hvisit hreg hhandler hcreates =>
    exact ⟨visit.registration, hreg, visit, hvisit, hreg, rfl, .create hhandler hcreates⟩
  | @advance visit _ _ _ _ _ hvisit hreg hstage hhandler hcorrelate hadvances =>
    exact ⟨visit.registration, hreg, visit, hvisit, hreg, rfl,
      .advance hstage hhandler hcorrelate hadvances⟩

/-- Every entry of the engine belongs to a step of a registered saga type. -/
theorem Ran.stepOf (h : Ran orchestrator start w) {entry : Entry A} (hmem : entry ∈ w.history)
    (he : entry.event.isEngine = true) :
    ∃ registration ∈ orchestrator.directory.registrations,
      orchestrator.StepOf registration.saga.type (eventsOf entry.attempt w.history) :=
  (h.course_of_mem hmem he).stepOf

/-- The last version under a key, and the entry that saved it. -/
theorem exists_save_of_getLast? {key : Key} {entries : List (Entry A)} {stored : Record}
    (h : (versions key entries).getLast? = some stored) :
    ∃ earlier save between, entries = earlier ++ save :: between ∧
      save.event.version? key = some stored ∧ versions key between = [] := by
  obtain ⟨others, hversions⟩ := List.getLast?_eq_some_iff.1 h
  obtain ⟨front, back, rfl, -, hback⟩ := List.filterMap_eq_append_iff.1 hversions
  obtain ⟨skipped, save, between, rfl, -, hversion, hbetween⟩ :=
    List.filterMap_eq_cons_iff.1 hback
  exact ⟨front ++ skipped, save, between, by simp, hversion, hbetween⟩

/-- **Who has saved the stored record**: a step of a saga type whose name its key bears. -/
theorem Ran.lastSavedBy (h : Ran orchestrator start w) (hempty : start.store.records = [])
    {before after : List (Entry A)} (hs : w.history = before ++ after) {key : Key}
    {stored : Record} (hstored : (start.store.replay before).find? key = some stored) :
    ∃ registration ∈ orchestrator.directory.registrations,
      registration.saga.type.name = key.sagaType ∧
      LastSavedBy orchestrator w.history before key stored registration.saga.type := by
  rw [h.find?_replay hempty hs] at hstored
  obtain ⟨earlier, save, between, rfl, hversion, hbetween⟩ := exists_save_of_getLast? hstored
  obtain ⟨record, token, hsave, rfl, -⟩ := Event.saved_of_version? hversion
  have hmem : save ∈ w.history := by simp [hs]
  have hengine : save.event.isEngine = true := by rw [hsave]; rfl
  obtain ⟨registration, hreg, hstep⟩ := h.stepOf hmem hengine
  have hconcerns := hstep.concerns _ (mem_eventsOf hmem hengine)
  rw [hsave] at hconcerns
  exact ⟨registration, hreg, hconcerns.symm, earlier, save, between, rfl, hversion, hbetween, hstep⟩

/-! ## Isolation -/

/-- In a run, the steps of a saga type meet no records in the store but those saved by steps of
certain saga types. -/
structure Isolated (orchestrator : Orchestrator A) (start : Resources A) (w : World A)
    (saga : SagaType) (own : SagaType → Prop) : Prop where
  /-- What they load was saved last by one of these. -/
  loads : ∀ before load after key stored, w.history = before ++ load :: after →
    orchestrator.StepOf saga (eventsOf load.attempt w.history) →
    load.event = .loaded key (.ok (some stored)) →
    ∃ maker, own maker ∧ LastSavedBy orchestrator w.history before key stored maker
  /-- So was what stands under the key of a save, be it replaced or the save refused. -/
  saves : ∀ before save after record result stored, w.history = before ++ save :: after →
    orchestrator.StepOf saga (eventsOf save.attempt w.history) → save.event = .saved record result →
    (start.store.replay before).find? record.toKey = some stored →
    ∃ maker, own maker ∧ LastSavedBy orchestrator w.history before record.toKey stored maker
  /-- A save leaves what stands under other keys. -/
  keeps : ∀ before save after record result key, w.history = before ++ save :: after →
    orchestrator.StepOf saga (eventsOf save.attempt w.history) → save.event = .saved record result →
    key ≠ record.toKey →
    (start.store.replay (before ++ [save])).find? key = (start.store.replay before).find? key
  /-- A save that is refused as stale would be so whatever stood under other keys. -/
  refusals : ∀ before save after record key expected actual, w.history = before ++ save :: after →
    orchestrator.StepOf saga (eventsOf save.attempt w.history) →
    save.event = .saved record (.error (.conflict key expected actual)) →
    ∀ store : Store, store.find? record.toKey = (start.store.replay before).find? record.toKey →
      store.accepts record.toKey record.token = false

theorem Store.accepts_congr {store store' : Store} {key : Key} {expected : Option Token}
    (h : store'.find? key = store.find? key) :
    store'.accepts key expected = store.accepts key expected := by
  unfold accepts
  rw [h]

/-- A saga type is isolated from all others but those of its own name. -/
theorem Ran.isolated (h : Ran orchestrator start w) (hempty : start.store.records = [])
    {saga : SagaType} {own : SagaType → Prop}
    (hown : ∀ registration ∈ orchestrator.directory.registrations,
      registration.saga.type.name = saga.name → own registration.saga.type) :
    Isolated orchestrator start w saga own := by
  -- what stands under a key that bears the name of the saga type
  have hsaved : ∀ before after key stored, w.history = before ++ after →
      key.sagaType = saga.name → (start.store.replay before).find? key = some stored →
      ∃ maker, own maker ∧ LastSavedBy orchestrator w.history before key stored maker := by
    intro before after key stored hs hkey hstored
    obtain ⟨registration, hreg, hname, hlast⟩ := h.lastSavedBy hempty hs hstored
    exact ⟨_, hown registration hreg (hname.trans hkey), hlast⟩
  -- the events of a step concern its saga type
  have hconcerns : ∀ before entry after, w.history = before ++ entry :: after →
      entry.event.isEngine = true → orchestrator.StepOf saga (eventsOf entry.attempt w.history) →
      entry.event.Concerns saga := by
    intro before entry after hs hengine hstep
    have hmem : entry ∈ w.history := by simp [hs]
    exact hstep.concerns _ (mem_eventsOf hmem hengine)
  refine ⟨?loads, ?saves, ?keeps, ?refusals⟩
  case loads =>
    intro before load after key stored hs hstep hload
    have hkey := hconcerns before load after hs (by rw [hload]; rfl) hstep
    have hanswer := h.answers hs
    rw [hload] at hkey hanswer
    exact hsaved before _ key stored hs hkey (Except.ok.inj hanswer).symm
  case saves =>
    intro before save after record result stored hs hstep hsave hstored
    have hkey := hconcerns before save after hs (by rw [hsave]; rfl) hstep
    rw [hsave] at hkey
    exact hsaved before _ record.toKey stored hs hkey hstored
  case keeps =>
    intro before save after record result key hs _ hsave hkey
    have hnone : save.event.version? key = none := by
      rw [hsave]
      cases result with
      | ok token => exact if_neg (Ne.symm hkey)
      | error error => rfl
    rw [Store.replay_append, Store.replay_cons, Store.replay_nil, Store.find?_apply (h.answers hs),
      hnone, Option.none_or]
  case refusals =>
    intro before save after record key expected actual hs _ hsave store hfind
    have hanswer := h.answers hs
    rw [hsave] at hanswer
    rcases hanswer with hbackend | ⟨hstale, -⟩
    · cases hbackend
    · rw [Store.accepts_congr hfind]
      exact hstale

/-- **Saga types are isolated by their names.** In every run over a store that was empty at first,
each entry of the engine belongs to a step of a registered saga type; the steps of a saga type meet
records only of saga types of its own name, and records of its own only, if no other registered
saga type has its name. -/
theorem namespaces_isolated (orchestrator : Orchestrator A) (hmemory : orchestrator.InMemory)
    (start : Resources A) (hempty : start.store.records = []) (moves : List (Move A)) :
    let w := orchestrator.follow moves (World.ofResources start)
    (∀ entry ∈ w.history, entry.event.isEngine = true →
      ∃ registration ∈ orchestrator.directory.registrations,
        orchestrator.StepOf registration.saga.type (eventsOf entry.attempt w.history)) ∧
      ∀ saga, Isolated orchestrator start w saga (·.name = saga.name) ∧
        ((∀ registration ∈ orchestrator.directory.registrations,
            registration.saga.type.name = saga.name → registration.saga.type = saga) →
          Isolated orchestrator start w saga (· = saga)) := by
  intro w
  have hran : Ran orchestrator start w := follow_ran hmemory start moves
  refine ⟨fun entry hmem he => hran.stepOf hmem he, fun saga => ⟨?_, fun hunique => ?_⟩⟩
  · exact hran.isolated hempty fun _ _ hname => hname
  · exact hran.isolated hempty hunique

open Simulation in
/-- Both sagas of a pair keep a record, and the second one takes another step. -/
theorem namespaces_isolated_pair :
    let w := (pair "Second").follow
      [.deliver 2 (requestFor none keepBoth), .deliver 2 (requestFor none touchSecond)]
      (World.ofResources emptyBench)
    (versions ⟨"First", "c"⟩ w.history).length = 1 ∧
      (versions ⟨"Second", "c"⟩ w.history).length = 2 ∧
      (∀ entry ∈ w.history, entry.event.isEngine = true →
        ∃ registration ∈ (pair "Second").directory.registrations,
          (pair "Second").StepOf registration.saga.type (eventsOf entry.attempt w.history)) ∧
      ∀ saga, Isolated (pair "Second") emptyBench w saga (·.name = saga.name) ∧
        ((∀ registration ∈ (pair "Second").directory.registrations,
            registration.saga.type.name = saga.name → registration.saga.type = saga) →
          Isolated (pair "Second") emptyBench w saga (· = saga)) :=
  ⟨by decide +kernel, by decide +kernel,
    namespaces_isolated (pair "Second") ⟨_, rfl⟩ emptyBench rfl _⟩

/-! ## Namesakes -/

/-- The saga type of which an instance was asked for. -/
def Event.resolved? : Event A → Option SagaType
  | .resolved saga _ => some saga
  | _ => none

/-- The record that was loaded. -/
def Event.found? : Event A → Option Record
  | .loaded _ (.ok found) => found
  | _ => none

theorem loaded_of_found? {event : Event A} (h : event.found?.isSome = true) :
    ∃ key stored, event = .loaded key (.ok (some stored)) := by
  unfold Event.found? at h
  split at h
  · rename_i key found
    obtain ⟨stored, rfl⟩ := Option.isSome_iff_exists.1 h
    exact ⟨key, stored, rfl⟩
  · cases h

theorem Orchestrator.StepOf.eq_of_resolved {saga other : SagaType} {events : List (Event A)}
    (h : orchestrator.StepOf saga events) (hmem : other ∈ events.filterMap Event.resolved?) :
    other = saga := by
  obtain ⟨event, hevent, hresolved⟩ := List.mem_filterMap.1 hmem
  have hconcerns := h.concerns event hevent
  cases event with
  | resolved resolved answer =>
    rw [← Option.some.inj hresolved]
    exact hconcerns
  | _ => cases hresolved

/-- A step that asked for an instance of a saga type is one of that saga type. -/
theorem Ran.stepOf_of_resolved (h : Ran orchestrator start w) {entry : Entry A} {saga : SagaType}
    (hmem : entry ∈ w.history) (he : entry.event.isEngine = true)
    (hresolved : saga ∈ (eventsOf entry.attempt w.history).filterMap Event.resolved?) :
    orchestrator.StepOf saga (eventsOf entry.attempt w.history) := by
  obtain ⟨registration, -, hstep⟩ := h.stepOf hmem he
  rw [hstep.eq_of_resolved hresolved]
  exact hstep

open Simulation in
/-- Two saga types of one name. The first one keeps a record, and a step of the second one loads
it. -/
theorem namesakes_not_isolated :
    let w := (pair "First").follow
      [.deliver 2 (requestFor (some firstSpec.type) keepBoth),
        .deliver 2 (requestFor none touchSecond)] (World.ofResources emptyBench)
    let second := (secondSpec "First").type
    (pair "First").directory.registrations.map (·.saga.type) = [firstSpec.type, second] ∧
      ¬ Isolated (pair "First") emptyBench w second (· = second) := by
  intro w second
  refine ⟨by decide +kernel, fun hisolated => ?_⟩
  have hran : Ran (pair "First") emptyBench w := follow_ran ⟨_, rfl⟩ _ _
  -- the second step begins with the load of a record
  let place : Fin w.history.length := ⟨7, by decide +kernel⟩
  let load := w.history.get place
  have hs : w.history = w.history.take 7 ++ load :: w.history.drop 8 := by
    have hdrop : load :: w.history.drop 8 = w.history.drop 7 := List.getElem_cons_drop place.isLt
    rw [hdrop, List.take_append_drop]
  have hfound : load.event.found?.isSome = true := by decide +kernel
  obtain ⟨key, stored, hload⟩ := loaded_of_found? hfound
  have hresolved : second ∈ (eventsOf load.attempt w.history).filterMap Event.resolved? := by
    decide +kernel
  have hstep : (pair "First").StepOf second (eventsOf load.attempt w.history) :=
    hran.stepOf_of_resolved (List.get_mem _ _) (by rw [hload]; rfl) hresolved
  obtain ⟨maker, hown, earlier, save, between, hbefore, hversion, -, hmaker⟩ :=
    hisolated.loads _ load _ key stored hs hstep hload
  -- but every save before it is one of the first saga type
  have hsaves : ∀ save ∈ w.history.take 7, save.event.accepted?.isSome = true →
      firstSpec.type ∈ (eventsOf save.attempt w.history).filterMap Event.resolved? := by
    decide +kernel
  have hmem : save ∈ w.history.take 7 := by rw [hbefore]; simp
  obtain ⟨record, token, hsave, -⟩ := Event.saved_of_version? hversion
  have hfirst : firstSpec.type = maker :=
    hmaker.eq_of_resolved (hsaves save hmem (by rw [hsave]; rfl))
  rw [hown] at hfirst
  exact absurd hfirst (by decide)

end Sagas
