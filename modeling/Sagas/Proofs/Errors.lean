import Sagas.Proofs.Answers

/-!
# The errors of a step, and the saga that they name

A delivery stops at one saga: the first one whose step ends in an error, or else the first one that
failed. Its error comes from one of a few places, and most of these put the name of the saga into
it. The errors of a store that broke down, of a state that is no JSON, and of a cancelled signal
bear no name, so the caller cannot tell which of several sagas they are about.

* `Visit.Fails`: where the errors of a step come from.
* `Dispatches.fails`: the error of a step comes from one of these places.
* `Orchestrator.stoppedAt`: the saga at which a delivery stopped.
* `error_named_iff`: when the error of a delivery names that saga.
-/

namespace Sagas

variable {A : Application}

namespace Visit

/-- Where the error of a step comes from, given the events that the step has left. -/
inductive Fails (visit : Visit A) (events : List (Event A)) : SagaError → Prop where
  | cancelled : Fails visit events .cancelled
  | uncorrelated {stage handler error} : stage ≠ .start →
      visit.registration.handler? visit.request.message.type = some (stage, handler) →
      visit.registration.correlate visit.request.message = .error error →
      Fails visit events error
  | unloaded {key error} : key.sagaType = visit.sagaType →
      .loaded key (.error error) ∈ events → Fails visit events (.ofStore error)
  | missing {key} : key.sagaType = visit.sagaType → Fails visit events (.notFound key)
  | terminated {key status} : key.sagaType = visit.sagaType →
      Fails visit events (.terminated key status)
  /-- A state could not be read or written. -/
  | garbled {source} : Fails visit events (.serialization source)
  | unresolved {source} : Fails visit events (.resolution visit.sagaType source)
  | raised {source} : Fails visit events (.handler visit.sagaType source)
  | nameless : Fails visit events (.configuration visit.sagaType [.emptySagaId])
  | refused {record error} : record.sagaType = visit.sagaType →
      .saved record (.error error) ∈ events → Fails visit events (.ofStore error)
  | unpublished {key source} : key.sagaType = visit.sagaType →
      Fails visit events (.publish key source)

variable {visit : Visit A} {stage : Stage} {handler : Handler A} {runner : Instance} {key : Key}
  {state : A.State} {step : StepInfo} {events events' : List (Event A)} {error : SagaError}

theorem Fails.mono (h : visit.Fails events error) (hsub : events ⊆ events') :
    visit.Fails events' error := by
  cases h with
  | cancelled => exact .cancelled
  | uncorrelated hstage hhandler herror => exact .uncorrelated hstage hhandler herror
  | unloaded hkey hmem => exact .unloaded hkey (hsub hmem)
  | missing hkey => exact .missing hkey
  | terminated hkey => exact .terminated hkey
  | garbled => exact .garbled
  | unresolved => exact .unresolved
  | raised => exact .raised
  | nameless => exact .nameless
  | refused hkey hmem => exact .refused hkey (hsub hmem)
  | unpublished hkey => exact .unpublished hkey

/-! ## The functions of the engine -/

theorem Settles.fails {transition : Transition A.Body} (hkey : step.key.sagaType = visit.sagaType)
    (h : visit.Settles step state transition events (.error error)) :
    visit.Fails events error := by
  cases h with
  | cancelled => exact .cancelled
  | unwritable => exact .garbled
  | refused => exact .refused hkey List.mem_cons_self
  | unpublished => exact .unpublished hkey

theorem Executes.fails (hkey : key.sagaType = visit.sagaType)
    (h : visit.Executes stage handler runner key state events (.error error)) :
    visit.Fails events error := by
  cases h with
  | cancelled => exact .cancelled
  | raised => exact .raised
  | settled _ hsettles =>
    have hfails := hsettles.fails hkey
    exact hfails.mono fun _ hmem => List.mem_append_right _ (List.mem_cons_of_mem _ hmem)

theorem Creates.fails (h : visit.Creates handler events (.error error)) :
    visit.Fails events error := by
  cases h with
  | cancelled => exact .cancelled
  | unresolved herror =>
    obtain ⟨source, rfl⟩ := checkInstance_eq_error herror
    exact .unresolved
  | raised => exact .raised
  | nameless => exact .nameless
  | executed _ _ _ hexecutes =>
    have hfails := hexecutes.fails rfl
    exact hfails.mono fun _ hmem => List.mem_cons_of_mem _ (List.mem_cons_of_mem _ hmem)

theorem Advances.fails (hkey : key.sagaType = visit.sagaType)
    (h : visit.Advances stage handler key events (.error error)) : visit.Fails events error := by
  cases h with
  | cancelled | abandoned => exact .cancelled
  | unloaded => exact .unloaded hkey List.mem_cons_self
  | missing => exact .missing hkey
  | terminated => exact .terminated hkey
  | unreadable _ herror =>
    obtain ⟨source, rfl⟩ := stateOf_eq_error herror
    exact .garbled
  | unresolved _ _ herror =>
    obtain ⟨source, rfl⟩ := checkInstance_eq_error herror
    exact .unresolved
  | executed _ _ _ hexecutes =>
    have hfails := hexecutes.fails hkey
    exact hfails.mono fun _ hmem => List.mem_cons_of_mem _ (List.mem_cons_of_mem _ hmem)

theorem Reruns.fails {reruns : Nat} (hkey : key.sagaType = visit.sagaType)
    (h : visit.Reruns stage handler key reruns events (.error error)) :
    visit.Fails events error := by
  generalize hresult : Except.error error = result at h
  -- by induction on the attempts: the last one makes the error
  induction h with
  | last hadvances =>
    subst hresult
    exact hadvances.fails hkey
  | again _ _ ih =>
    have hfails := ih hresult
    exact hfails.mono (List.subset_append_right _ _)

theorem map_some_inj {α : Type} {first second : Except SagaError α}
    (h : first.map some = second.map some) : first = second := by
  cases first with
  | error error =>
    cases second with
    | error other => rw [Except.error.inj h]
    | ok other => cases h
  | ok value =>
    cases second with
    | error other => cases h
    | ok other => rw [Option.some.inj (Except.ok.inj h)]

/-- **The error of the step of one saga** comes from one of the places told. -/
theorem Dispatches.fails (h : visit.Dispatches events (.error error)) :
    visit.Fails events error := by
  generalize hresult : Except.error error = result at h
  cases h with
  | skipped => cases hresult
  | created _ hcreates =>
    obtain rfl : Except.error error = _ := map_some_inj hresult
    exact hcreates.fails
  | uncorrelated hstage hhandler herror =>
    rw [Except.error.inj hresult]
    exact .uncorrelated hstage hhandler herror
  | advanced _ _ _ hreruns =>
    obtain rfl : Except.error error = _ := map_some_inj hresult
    exact hreruns.fails rfl

end Visit

/-! ## Errors and names -/

/-- Whether an error bears no name of a saga type. -/
def SagaError.isAnonymous : SagaError → Bool
  | .repository _ | .serialization _ | .cancelled => true
  | _ => false

/-- A conflict that the store tells of is one under the key that it was asked for. -/
def Event.NamesConflict : Event A → Prop
  | .loaded key (.error (.conflict stale _ _)) => stale.sagaType = key.sagaType
  | .saved record (.error (.conflict stale _ _)) => stale.sagaType = record.sagaType
  | _ => True

/-- The store tells of conflicts under the keys that it is asked for. -/
structure Gateways.NamesConflicts (gateways : Gateways A) : Prop where
  load : ∀ key signal resources stale expected actual,
    (gateways.load key signal resources).1 = .error (.conflict stale expected actual) →
      stale.sagaType = key.sagaType
  save : ∀ record signal resources stale expected actual,
    (gateways.save record signal resources).1 = .error (.conflict stale expected actual) →
      stale.sagaType = record.sagaType

namespace Gateways.NamesConflicts

theorem inMemory (resolve : SagaType → Program A (Except Fault Instance)) :
    (Gateways.inMemory resolve).NamesConflicts where
  load key signal resources stale expected actual h := by cases h
  save record signal resources stale expected actual h := by
    change (resources.store.save record).1 = _ at h
    unfold Store.save at h
    split at h
    · cases h
    · split at h
      · cases h
      · obtain ⟨rfl, -, -⟩ := StoreError.conflict.inj (Except.error.inj h)
        rfl

variable {gateways : Gateways A}

/-- So every conflict in a history is one under the key that the store was asked for. -/
theorem law (h : gateways.NamesConflicts) :
    Law gateways fun _ es _ => ∀ e ∈ es, e.event.NamesConflict where
  still _ _ _ := by simp
  trans h h' e hmem := by
    rcases List.mem_append.1 hmem with hmem | hmem
    · exact h e hmem
    · exact h' e hmem
  plain w event hplain e hmem := by
    rw [List.mem_singleton.1 hmem]
    cases event with
    | loaded | saved => cases hplain
    | _ => trivial
  cancel w signal e hmem := by
    rw [List.mem_singleton.1 hmem]
    trivial
  load w key signal e hmem := by
    rw [List.mem_singleton.1 hmem]
    change Event.NamesConflict (.loaded key _)
    generalize hresult : (gateways.load key signal w.toResources).1 = result
    match result with
    | .ok _ | .error (.backend _) => trivial
    | .error (.conflict stale expected actual) =>
      exact h.load key signal _ stale expected actual hresult
  save w record signal e hmem := by
    rw [List.mem_singleton.1 hmem]
    change Event.NamesConflict (.saved record _)
    generalize hresult : (gateways.save record signal w.toResources).1 = result
    match result with
    | .ok _ | .error (.backend _) => trivial
    | .error (.conflict stale expected actual) =>
      exact h.save record signal _ stale expected actual hresult
  publish w outgoing signal e hmem := by
    rw [List.mem_singleton.1 hmem]
    trivial

end Gateways.NamesConflicts

namespace Visit

variable {visit : Visit A} {events : List (Event A)} {error : SagaError}

/-- The error of a step names its saga, unless it bears no name at all or is a conflict that the
store tells of under another one. -/
theorem Fails.sagaType?_iff (h : visit.Fails events error) :
    error.sagaType? = some visit.sagaType ↔
      error.isAnonymous = false ∧
        ∀ stale, error = .conflict stale → stale.sagaType = visit.sagaType := by
  have hstore : ∀ error : StoreError, (SagaError.ofStore error).sagaType? = some visit.sagaType ↔
      (SagaError.ofStore error).isAnonymous = false ∧
        ∀ stale, SagaError.ofStore error = .conflict stale → stale.sagaType = visit.sagaType := by
    intro error
    cases error <;> simp [SagaError.ofStore, SagaError.sagaType?, SagaError.isAnonymous]
  cases h with
  | unloaded | refused => exact hstore _
  | cancelled | garbled => simp [SagaError.sagaType?, SagaError.isAnonymous]
  | unresolved | raised | nameless => simp [SagaError.sagaType?, SagaError.isAnonymous]
  | missing hkey | terminated hkey | unpublished hkey =>
    simp [SagaError.sagaType?, SagaError.isAnonymous, hkey]
  | uncorrelated _ _ herror =>
    -- the rule that is broken is one for the declarations of this saga
    unfold Registration.correlate at herror
    split at herror
    · cases herror
    · rw [← Except.error.inj herror]
      simp [SagaError.sagaType?, SagaError.isAnonymous, sagaType, saga]

/-- A conflict is one of the saga of the step, if the store tells of it as it should. -/
theorem Fails.of_conflict {stale : Key} (h : visit.Fails events (.conflict stale))
    (hnames : ∀ event ∈ events, event.NamesConflict) : stale.sagaType = visit.sagaType := by
  have hstore : ∀ {error : StoreError}, SagaError.conflict stale = .ofStore error →
      ∃ expected actual, error = .conflict stale expected actual := by
    rintro (⟨key, expected, actual⟩ | _) herror
    · exact ⟨expected, actual, by rw [SagaError.conflict.inj herror]⟩
    · cases herror
  generalize hconflict : SagaError.conflict stale = error at h
  cases h with
  | unloaded hkey hmem =>
    obtain ⟨expected, actual, rfl⟩ := hstore hconflict
    have hstale : stale.sagaType = _ := hnames _ hmem
    rw [hstale, hkey]
  | refused hkey hmem =>
    obtain ⟨expected, actual, rfl⟩ := hstore hconflict
    have hstale : stale.sagaType = _ := hnames _ hmem
    rw [hstale, hkey]
  | uncorrelated _ _ herror =>
    unfold Registration.correlate at herror
    rw [← hconflict] at herror
    split at herror <;> cases herror
  | _ => cases hconflict

/-- What a step comes to is under the name of its saga. -/
theorem Ends.sagaType_eq {settled : Settled} (h : visit.Ends events (.ok (some settled))) :
    settled.outcome.key.sagaType = visit.sagaType := by
  cases h with
  | redelivered _ hsaga => exact hsaga
  | silent _ hsaving | published _ hsaving => exact hsaving.saga

end Visit

/-! ## The saga at which a delivery stopped -/

namespace Turn

/-- The failure that the step of a turn came to. -/
def failure? (turn : Turn A) : Option (Key × Fault) :=
  turn.settled?.bind fun settled => settled.failure.map fun fault => (settled.outcome.key, fault)

/-- The name of the saga type of a turn. -/
def sagaType (turn : Turn A) : String := turn.registration.saga.type.name

end Turn

namespace Orchestrator

/-- The name of the saga at which a delivery stopped: the one asked for, if there is none of this
type; or else the first one whose step ended in an error; or else the first one that failed. -/
def stoppedAt (orchestrator : Orchestrator A) (nesting : Nat) (request : Request A.Body)
    (w : World A) : Option String :=
  match orchestrator.selected request with
  | .error _ => request.target.map (·.name)
  | .ok _ =>
    let turns := orchestrator.turns nesting request w
    ((turns.find? (·.error?.isSome)).or (turns.find? (·.failure?.isSome))).map Turn.sagaType

variable {orchestrator : Orchestrator A} {nesting : Nat} {request : Request A.Body} {w : World A}
  {turn : Turn A}

/-- The events of a turn are in the history of its delivery. -/
theorem exists_entry (hmem : turn ∈ orchestrator.turns nesting request w) {event : Event A}
    (hevent : event ∈ turn.events) {es : List (Entry A)}
    (hhistory : (orchestrator.deliver nesting request w).2.history = w.history ++ es) :
    ∃ entry ∈ es, entry.event = event := by
  obtain ⟨es', hhistory', hevents⟩ := orchestrator.deliver_events nesting request w
  obtain rfl : es = es' := List.append_cancel_left (hhistory.symm.trans hhistory')
  have hall : event ∈ eventsAt w.depth es := by
    rw [hevents]
    exact List.mem_flatMap.2 ⟨turn, hmem, hevent⟩
  obtain ⟨entry, hentry, hsame⟩ := List.mem_map.1 hall
  exact ⟨entry, List.mem_of_mem_filter hentry, hsame⟩

/-- Each event of a turn is as every entry of a history is. -/
theorem turns_law {p : Event A → Prop}
    (hR : Law orchestrator.gateways fun _ es _ => ∀ e ∈ es, p e.event)
    (hmem : turn ∈ orchestrator.turns nesting request w) : ∀ event ∈ turn.events, p event := by
  intro event hevent
  obtain ⟨es, hes, -⟩ := deliver_yields hR nesting request w
  obtain ⟨entry, hentry, rfl⟩ := exists_entry hmem hevent hes.history
  exact hes.law entry hentry

theorem failures_eq (turns : List (Turn A)) :
    failures (turns.filterMap Turn.settled?) = turns.filterMap Turn.failure? :=
  List.filterMap_filterMap

theorem turn_fails (hmem : turn ∈ orchestrator.turns nesting request w) {error : SagaError}
    (herror : turn.error? = some error) :
    (orchestrator.visitOf nesting request turn).Fails turn.events error := by
  have hstep := turns_steps nesting request w turn hmem
  rw [Turn.result_eq_error herror] at hstep
  exact hstep.fails

theorem sagaType_of_failure? (hmem : turn ∈ orchestrator.turns nesting request w) {key : Key}
    {fault : Fault} (h : turn.failure? = some (key, fault)) : key.sagaType = turn.sagaType := by
  obtain ⟨settled, hsettled, hfault⟩ := Option.bind_eq_some_iff.1 h
  obtain ⟨_, -, hpair⟩ := Option.map_eq_some_iff.1 hfault
  have hends := turn_ends hmem
  rw [Turn.result_eq_some hsettled] at hends
  rw [← (Prod.mk.inj hpair).1]
  exact hends.sagaType_eq

/-- The first turn of which something is told is the first one that tells anything. -/
theorem exists_find?_of_findSome? {α : Type} {tell : Turn A → Option α} {turns : List (Turn A)}
    {told : α} (h : turns.findSome? tell = some told) :
    ∃ turn ∈ turns, tell turn = some told ∧
      turns.find? (fun turn => (tell turn).isSome) = some turn := by
  obtain ⟨earlier, turn, later, hturns, htold, hearlier⟩ := List.findSome?_eq_some_iff.1 h
  refine ⟨turn, by simp [hturns], htold, ?_⟩
  refine List.find?_eq_some_iff_append.2 ⟨by simp [htold], earlier, later, hturns, ?_⟩
  intro other hother
  simp [hearlier other hother]

/-- The error that some turns make is that of the first step that ended in one, or else the first
failure. -/
theorem gathered_eq_error {messageType : MessageType} {turns : List (Turn A)} {error : SagaError}
    (h : (gathered turns).bind (answerOf messageType) = .error error) :
    turns.findSome? Turn.error? = some error ∨ turns.findSome? Turn.error? = none ∧
      ∃ key fault, turns.findSome? Turn.failure? = some (key, fault) ∧
        error = .failed key fault := by
  unfold gathered at h
  cases hfound : turns.findSome? Turn.error? with
  | some found =>
    rw [hfound] at h
    exact .inl (congrArg some (Except.error.inj h))
  | none =>
    rw [hfound] at h
    refine .inr ⟨rfl, ?_⟩
    change answerOf messageType (turns.filterMap Turn.settled?) = .error error at h
    unfold answerOf at h
    rw [failures_eq] at h
    split at h
    · cases h
    · rename_i key fault rest hfailures
      refine ⟨key, fault, ?_, (Except.error.inj h).symm⟩
      rw [← List.head?_filterMap, hfailures, List.head?_cons]

/-- The error of a delivery is that of a saga type that is not registered, that of the step at which
the delivery stopped, or the failure of the saga at which it stopped. -/
theorem exists_stoppedAt {error : SagaError}
    (h : (orchestrator.deliver nesting request w).1 = .error error) :
    ∃ name, orchestrator.stoppedAt nesting request w = some name ∧
      (error = .notRegistered name ∨
        (∃ turn ∈ orchestrator.turns nesting request w, turn.error? = some error ∧
          turn.sagaType = name) ∨
        ∃ key fault, error = .failed key fault ∧ key.sagaType = name) := by
  rw [answer_eq] at h
  unfold stoppedAt
  cases hselected : orchestrator.selected request with
  | error missing =>
    rw [hselected] at h
    obtain rfl : missing = error := Except.error.inj h
    obtain ⟨saga, htarget, hmissing⟩ := exists_target_of_selected hselected
    exact ⟨saga.name, by rw [htarget]; rfl, .inl hmissing⟩
  | ok registrations =>
    rw [hselected] at h
    rcases gathered_eq_error h with hfound | ⟨hnone, key, fault, hfound, rfl⟩
    · obtain ⟨turn, hmem, herror, hfirst⟩ := exists_find?_of_findSome? hfound
      refine ⟨turn.sagaType, ?_, .inr (.inl ⟨turn, hmem, herror, rfl⟩)⟩
      simp only [hfirst]
      rfl
    · have hquiet : (orchestrator.turns nesting request w).find? (·.error?.isSome) = none := by
        refine List.find?_eq_none.2 fun turn hmem => ?_
        simp [List.findSome?_eq_none_iff.1 hnone turn hmem]
      obtain ⟨turn, hmem, hfailure, hfirst⟩ := exists_find?_of_findSome? hfound
      have hname : key.sagaType = turn.sagaType := sagaType_of_failure? hmem hfailure
      refine ⟨turn.sagaType, ?_, .inr (.inr ⟨key, fault, rfl, hname⟩)⟩
      simp only [hquiet, hfirst]
      rfl

/-- **Which errors name their saga.** The error of a delivery names the saga at which the delivery
stopped, unless it is one of a broken store, of a state that is no JSON or of a cancelled signal, or
the store tells of a conflict under another name than it was asked for. A store that tells of
conflicts as it should leaves the first three only. -/
theorem error_named_iff (orchestrator : Orchestrator A) (nesting : Nat) (request : Request A.Body)
    (w : World A) (error : SagaError)
    (h : (orchestrator.deliver nesting request w).1 = .error error) :
    ∃ name, orchestrator.stoppedAt nesting request w = some name ∧
      (error.sagaType? = some name ↔
        error.isAnonymous = false ∧ ∀ stale, error = .conflict stale → stale.sagaType = name) ∧
      (orchestrator.gateways.NamesConflicts →
        (error.sagaType? = some name ↔ error.isAnonymous = false)) := by
  obtain ⟨name, hname, hcases⟩ := exists_stoppedAt h
  refine ⟨name, hname, ?_⟩
  rcases hcases with rfl | ⟨turn, hmem, herror, rfl⟩ | ⟨key, fault, rfl, rfl⟩
  · simp [SagaError.sagaType?, SagaError.isAnonymous]
  · have hfails := turn_fails hmem herror
    have hiff := hfails.sagaType?_iff
    refine ⟨hiff, fun hnames => hiff.trans ⟨And.left, fun hnamed => ⟨hnamed, ?_⟩⟩⟩
    rintro stale rfl
    exact hfails.of_conflict (turns_law hnames.law hmem)
  · simp [SagaError.sagaType?, SagaError.isAnonymous]

open Simulation in
/-- The message that starts both sagas of a pair stops at the second one, which is there already. -/
theorem error_named_pair :
    ∃ name, (pair "Second").stoppedAt 2 (requestFor none keepBoth) startedTwice = some name ∧
      ((SagaError.conflict ⟨"Second", "c"⟩).sagaType? = some name ↔
        (SagaError.conflict ⟨"Second", "c"⟩).isAnonymous = false ∧
          ∀ stale, SagaError.conflict ⟨"Second", "c"⟩ = .conflict stale →
            stale.sagaType = name) ∧
      ((pair "Second").gateways.NamesConflicts →
        ((SagaError.conflict ⟨"Second", "c"⟩).sagaType? = some name ↔
          (SagaError.conflict ⟨"Second", "c"⟩).isAnonymous = false)) :=
  error_named_iff (pair "Second") 2 (requestFor none keepBoth) startedTwice _
    (eq_error_of_error? (by decide +kernel))

open Simulation in
/-- While saves fail, the message that starts both sagas of a pair stops at the first one, and the
caller gets an error without a name. -/
theorem stopped_without_name :
    let w := (pair "Second").follow [.failSaves true] (World.ofResources emptyBench)
    let request := requestFor none keepBoth
    (pair "Second").stoppedAt 2 request w = some "First" ∧
      ¬ ∀ error, ((pair "Second").deliver 2 request w).1 = .error error →
        error.sagaType? = (pair "Second").stoppedAt 2 request w := by
  intro w request
  have hstopped : (pair "Second").stoppedAt 2 request w = some "First" := by decide +kernel
  have hanswer : ((pair "Second").deliver 2 request w).1 =
      .error (.repository (.text "saga store unavailable")) :=
    eq_error_of_error? (by decide +kernel)
  refine ⟨hstopped, fun hnamed => ?_⟩
  have hsome := (hnamed _ hanswer).trans hstopped
  cases hsome

end Orchestrator

end Sagas
