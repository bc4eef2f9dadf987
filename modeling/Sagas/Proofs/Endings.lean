import Sagas.Proofs.Course

/-!
# How a step ends

Up to its save a step only looks around and runs programs: whatever goes wrong by then, it has
had no effect, and attempts that were refused as stale have had none either. So a step ends in
one of six ways, and what it has left in the history tells which.

* `Visit.Ends`: the ways of ending, each with its events and its result.
* `Visit.Concludes`: the last handler of a step, and what the engine did with its answer.
* `Dispatches.ends`: the step of one saga ends in one of them.
* `Ends.asked_eq`, `Ends.accepted_eq_nil_iff`, `Ends.of_failed`: the redelivery, the record and the
  failure that come of a step.
-/

namespace Sagas

variable {A : Application}

/-- Whether an error comes after the save of its step. -/
def SagaError.isAfterSave : SagaError → Bool
  | .failed .. | .publish .. => true
  | _ => false

/-- Whether an event is neither an accepted save nor a publish, and brings no retry either. -/
def Event.isIdle : Event A → Bool
  | .saved _ (.ok _) | .published .. | .returned _ _ (.ok (some (.retry ..))) => false
  | _ => true

/-- Events none of which is an accepted save or a publish, or brings a retry. -/
def Idle (events : List (Event A)) : Prop := ∀ event ∈ events, event.isIdle = true

theorem Idle.nil : Idle ([] : List (Event A)) := by simp [Idle]

theorem Idle.append {events events' : List (Event A)} (h : Idle events) (h' : Idle events') :
    Idle (events ++ events') := by
  intro event hmem
  rcases List.mem_append.1 hmem with hmem | hmem
  · exact h event hmem
  · exact h' event hmem

theorem Idle.concat {events : List (Event A)} {event : Event A} (h : Idle events)
    (hevent : event.isIdle = true) : Idle (events ++ [event]) :=
  h.append fun _ hmem => List.mem_singleton.1 hmem ▸ hevent

/-- The redelivery that a saga asks for when its step comes back with a retry. -/
def Event.asked? (saga : SagaType) : Event A → Option RetryRequest
  | .returned step _ (.ok (some (.retry delay error))) =>
    some { saga, sagaId := step.key.sagaId, delay, error }
  | _ => none

/-- The record that the store accepts with an event. -/
def Event.accepted? : Event A → Option Record
  | .saved record (.ok _) => some record
  | _ => none

/-- The redeliveries that a saga asks for. -/
def asked (saga : SagaType) (events : List (Event A)) : List RetryRequest :=
  events.filterMap (Event.asked? saga)

/-- The records that the store accepts. -/
def accepted (events : List (Event A)) : List Record := events.filterMap Event.accepted?

theorem asked_append (saga : SagaType) (events events' : List (Event A)) :
    asked saga (events ++ events') = asked saga events ++ asked saga events' :=
  List.filterMap_append

theorem accepted_append (events events' : List (Event A)) :
    accepted (events ++ events') = accepted events ++ accepted events' :=
  List.filterMap_append

theorem asked_idle {saga : SagaType} {events : List (Event A)} (h : Idle events) :
    asked saga events = [] := by
  refine List.filterMap_eq_nil_iff.2 fun event hmem => ?_
  have hidle := h event hmem
  unfold Event.asked?
  split
  · cases hidle
  · rfl

theorem accepted_idle {events : List (Event A)} (h : Idle events) : accepted events = [] := by
  refine List.filterMap_eq_nil_iff.2 fun event hmem => ?_
  have hidle := h event hmem
  unfold Event.accepted?
  split
  · cases hidle
  · rfl

/-- A fail transition, with the error that it carries, is saved in a record. -/
def FailsWith (events : List (Event A)) (record : Record) (fault : Fault) : Prop :=
  ∃ before step left outgoing token after,
    events = before ++ .returned step left (.ok (some (.fail outgoing fault))) ::
      .saved record (.ok token) :: after ∧
    record.toKey = step.key ∧ record.status = .failed

theorem FailsWith.mem_accepted {events : List (Event A)} {record : Record} {fault : Fault}
    (h : FailsWith events record fault) : record ∈ accepted events := by
  obtain ⟨before, step, left, outgoing, token, after, rfl, -⟩ := h
  exact List.mem_filterMap.2 ⟨.saved record (.ok token), by simp, rfl⟩

/-- Only a transition that fails its saga carries the error of a failure. -/
theorem status_of_failure? {β : Type} {transition : Transition β} {status : Status}
    (hstatus : Status.after transition.kind = some status) (h : transition.failure? ≠ none) :
    status = .failed := by
  cases transition with
  | fail => exact (Option.some.inj hstatus).symm
  | _ => exact absurd rfl h

theorem isAfterSave_ofStore (error : StoreError) :
    (SagaError.ofStore error).isAfterSave = false := by
  cases error <;> rfl

theorem isAfterSave_correlate {registration : Registration A} {message : Message A.Body}
    {error : SagaError} (h : registration.correlate message = .error error) :
    error.isAfterSave = false := by
  unfold Registration.correlate at h
  split at h
  · cases h
  · rw [← Except.error.inj h]
    rfl

namespace Visit

variable {visit : Visit A} {stage : Stage} {handler : Handler A} {runner : Instance} {key : Key}
  {state left : A.State} {step : StepInfo} {transition : Option (Transition A.Body)}
  {record : Record} {before events : List (Event A)} {result : Except SagaError Settled}

/-- What a step saves: the state that was left, under its own key and with the status that its
transition asks for; the version to replace is the one whose token the state bears. -/
structure Saving (visit : Visit A) (step : StepInfo) (left : A.State)
    (transition : Option (Transition A.Body)) (record : Record) : Prop where
  saga : step.key.sagaType = visit.sagaType
  key : record.toKey = step.key
  status : Status.after (transition.getD (.proceed none)).kind = some record.status
  state : visit.saga.encode left = .ok record.state
  token : record.token = visit.saga.tokenOf left

/-- How the step of a saga ends, with what it has left in the history by then. -/
inductive Ends (visit : Visit A) : List (Event A) → Except SagaError (Option Settled) → Prop where
  /-- The saga does not handle the message. -/
  | skipped : visit.registration.handler? visit.request.message.type = none →
      Ends visit [] (.ok none)
  /-- The step broke off before its save. -/
  | stopped {events error} : Idle events → error.isAfterSave = false →
      Ends visit events (.error error)
  | redelivered {before step left delay error} : Idle before →
      step.key.sagaType = visit.sagaType →
      Ends visit (before ++ [.returned step left (.ok (some (.retry delay error)))])
        (.ok (some (visit.redelivery step (.retry delay error))))
  | silent {before step left transition record token} : Idle before →
      visit.Saving step left transition record →
      Ends visit
        (before ++ [.returned step left (.ok transition), .saved record (.ok token)])
        (.ok (some (kept step (transition.getD (.proceed none)) false token)))
  | published {before step left transition record token outgoing} : Idle before →
      visit.Saving step left transition record →
      Ends visit
        (before ++ [.returned step left (.ok transition), .saved record (.ok token),
          .published outgoing (.ok ())])
        (.ok (some (kept step (transition.getD (.proceed none)) true token)))
  | unpublished {before step left transition record token outgoing source} : Idle before →
      visit.Saving step left transition record →
      Ends visit
        (before ++ [.returned step left (.ok transition), .saved record (.ok token),
          .published outgoing (.error source)])
        (.error (.publish step.key source))

/-- What becomes of a step once it has begun: it breaks off before its save, or its last handler
comes back and the engine acts on what it answered. -/
inductive Concludes (visit : Visit A) (stage : Stage) :
    List (Event A) → Except SagaError Settled → Prop where
  | stopped {events error} : Idle events → error.isAfterSave = false →
      Concludes visit stage events (.error error)
  | acted {before events : List (Event A)} {key : Key} {left : A.State}
      {transition : Option (Transition A.Body)} {result : Except SagaError Settled} :
      Idle before → key.sagaType = visit.sagaType →
      visit.Settles (visit.stepOf stage key) left (transition.getD (.proceed none)) events result →
      Concludes visit stage
        (before ++ .returned (visit.stepOf stage key) left (.ok transition) :: events) result

/-! ## From the handler to the end of the step -/

theorem isIdle_returned {status : Status}
    (h : Status.after (transition.getD (.proceed none)).kind = some status) :
    (Event.returned step left (.ok transition)).isIdle = true := by
  cases transition with
  | none => rfl
  | some transition =>
    cases transition with
    | retry => cases h
    | _ => rfl

theorem Settles.ends (hbefore : Idle before) (hsaga : step.key.sagaType = visit.sagaType)
    (h : visit.Settles step left (transition.getD (.proceed none)) events result) :
    visit.Ends (before ++ .returned step left (.ok transition) :: events) (result.map some) := by
  cases h with
  | redelivered hnone =>
    -- only a retry leaves its saga alone
    cases transition with
    | none => cases hnone
    | some transition =>
      cases transition with
      | retry => exact .redelivered hbefore hsaga
      | _ => cases hnone
  | cancelled hstatus => exact .stopped (hbefore.concat (isIdle_returned hstatus)) rfl
  | unwritable hstatus => exact .stopped (hbefore.concat (isIdle_returned hstatus)) rfl
  | refused hstatus =>
    rw [List.append_cons]
    exact .stopped ((hbefore.concat (isIdle_returned hstatus)).concat rfl) (isAfterSave_ofStore _)
  | silent hstatus hjson => exact .silent hbefore ⟨hsaga, rfl, hstatus, hjson, rfl⟩
  | published hstatus hjson => exact .published hbefore ⟨hsaga, rfl, hstatus, hjson, rfl⟩
  | unpublished hstatus hjson => exact .unpublished hbefore ⟨hsaga, rfl, hstatus, hjson, rfl⟩

theorem Concludes.ends (h : visit.Concludes stage events result) :
    visit.Ends events (result.map some) := by
  cases h with
  | stopped hidle hquiet => exact .stopped hidle hquiet
  | acted hbefore hsaga hsettles => exact hsettles.ends hbefore hsaga

/-- An attempt that ended in a conflict has left nothing but idle events. -/
theorem Ends.idle_of_conflict {stale : Key} (h : visit.Ends events (.error (.conflict stale))) :
    Idle events := by
  cases h with
  | stopped hidle => exact hidle

theorem Works.idle {answer : HandlerResult A.Body}
    (h : visit.Works step runner handler state events answer left) : Idle events := by
  cases h with
  | halted => exact .nil
  | entered => exact Idle.nil.concat rfl

theorem Executes.concludes (hbefore : Idle before) (hsaga : key.sagaType = visit.sagaType)
    (h : visit.Executes stage handler runner key state events result) :
    visit.Concludes stage (before ++ events) result := by
  cases h with
  | cancelled =>
    rw [List.append_nil]
    exact .stopped hbefore rfl
  | raised hworks =>
    rw [← List.append_assoc]
    exact .stopped ((hbefore.append hworks.idle).concat rfl) rfl
  | settled hworks hsettles =>
    rw [← List.append_assoc]
    exact .acted (hbefore.append hworks.idle) hsaga hsettles

theorem checkInstance_eq_error {saga : SagaType} {answer : Except Fault Instance}
    {error : SagaError} (h : checkInstance saga answer = .error error) :
    ∃ source, error = .resolution saga.name source := by
  unfold checkInstance at h
  split at h
  · exact ⟨_, (Except.error.inj h).symm⟩
  · split at h
    · cases h
    · exact ⟨_, (Except.error.inj h).symm⟩

theorem stateOf_eq_error {error : SagaError} (h : visit.stateOf record = .error error) :
    ∃ source, error = .serialization source := by
  unfold stateOf at h
  split at h
  · cases h
  · exact ⟨_, (Except.error.inj h).symm⟩

theorem Creates.concludes (h : visit.Creates handler events result) :
    visit.Concludes .start events result := by
  have hresolved : ∀ answer, Idle [Event.resolved (A := A) visit.saga.type answer] :=
    fun _ => Idle.nil.concat rfl
  cases h with
  | cancelled => exact .stopped .nil rfl
  | unresolved herror =>
    obtain ⟨source, rfl⟩ := checkInstance_eq_error herror
    exact .stopped (hresolved _) rfl
  | raised => exact .stopped ((hresolved _).concat rfl) rfl
  | nameless => exact .stopped ((hresolved _).concat rfl) rfl
  | executed _ _ _ hexec =>
    exact hexec.concludes ((hresolved _).concat rfl) rfl

theorem Advances.concludes (hbefore : Idle before) (hsaga : key.sagaType = visit.sagaType)
    (h : visit.Advances stage handler key events result) :
    visit.Concludes stage (before ++ events) result := by
  cases h with
  | cancelled =>
    rw [List.append_nil]
    exact .stopped hbefore rfl
  | unloaded => exact .stopped (hbefore.concat rfl) (isAfterSave_ofStore _)
  | missing | terminated | abandoned => exact .stopped (hbefore.concat rfl) rfl
  | unreadable _ herror =>
    obtain ⟨source, rfl⟩ := stateOf_eq_error herror
    exact .stopped (hbefore.concat rfl) rfl
  | unresolved _ _ herror =>
    obtain ⟨source, rfl⟩ := checkInstance_eq_error herror
    rw [List.append_cons]
    exact .stopped ((hbefore.concat rfl).concat rfl) rfl
  | executed _ _ _ hexec =>
    rw [List.append_cons, List.append_cons]
    exact hexec.concludes ((hbefore.concat rfl).concat rfl) hsaga

theorem Reruns.concludes {reruns : Nat} (hbefore : Idle before)
    (hsaga : key.sagaType = visit.sagaType)
    (h : visit.Reruns stage handler key reruns events result) :
    visit.Concludes stage (before ++ events) result := by
  -- by induction on the attempts: those before the last one go into the idle part
  induction h generalizing before with
  | last hadvances => exact hadvances.concludes hbefore hsaga
  | again hadvances _ ih =>
    rw [← List.append_assoc]
    exact ih (hadvances.concludes hbefore hsaga).ends.idle_of_conflict

/-- The step of a saga that handles the message, in the stage in which it does. -/
theorem Dispatches.concludes {result : Except SagaError (Option Settled)}
    (h : visit.Dispatches events result) :
    (visit.registration.handler? visit.request.message.type = none ∧ events = [] ∧
        result = .ok none) ∨
      ∃ stage handler result',
        visit.registration.handler? visit.request.message.type = some (stage, handler) ∧
          visit.Concludes stage events result' ∧ result = result'.map some := by
  cases h with
  | skipped hnone => exact .inl ⟨hnone, rfl, rfl⟩
  | created hhandler hcreates => exact .inr ⟨_, _, _, hhandler, hcreates.concludes, rfl⟩
  | uncorrelated _ hhandler herror =>
    exact .inr ⟨_, _, .error _, hhandler, .stopped .nil (isAfterSave_correlate herror), rfl⟩
  | advanced _ hhandler _ hreruns =>
    exact .inr ⟨_, _, _, hhandler, hreruns.concludes .nil rfl, rfl⟩

/-- **The step of one saga** ends in one of the ways told of it. -/
theorem Dispatches.ends {result : Except SagaError (Option Settled)}
    (h : visit.Dispatches events result) : visit.Ends events result := by
  rcases h.concludes with ⟨hnone, rfl, rfl⟩ | ⟨stage, handler, result, -, hconcludes, rfl⟩
  · exact .skipped hnone
  · exact hconcludes.ends

/-! ## What a step asks for, and what it saves -/

/-- A step of a saga that does not handle the message comes to nothing, and no other does. -/
theorem Dispatches.eq_none_iff {settled : Option Settled}
    (h : visit.Dispatches events (.ok settled)) :
    settled = none ↔ visit.registration.handler? visit.request.message.type = none := by
  constructor
  · rintro rfl
    cases h.ends with
    | skipped hnone => exact hnone
  · intro hnone
    generalize hresult : Except.ok settled = result at h
    cases h with
    | skipped => exact Except.ok.inj hresult
    | created hhandler | advanced _ hhandler =>
      rw [hnone] at hhandler
      cases hhandler
    | uncorrelated => cases hresult

/-- Up to its save, a step that saves is idle. -/
theorem Saving.idle (h : visit.Saving step left transition record) (hbefore : Idle before) :
    Idle (before ++ [.returned step left (.ok transition)]) :=
  hbefore.concat (isIdle_returned h.status)

/-- Of a step that saves, the store accepts nothing before that. -/
theorem Saving.accepted_eq {token : Token} {after : List (Event A)} (hbefore : Idle before)
    (h : visit.Saving step left transition record) :
    accepted (before ++ .returned step left (.ok transition) :: .saved record (.ok token) :: after) =
      record :: accepted after := by
  rw [List.append_cons, accepted_append, accepted_idle (h.idle hbefore)]
  rfl

/-- **The redelivery that a step asks for** is the one that it comes to. -/
theorem Ends.asked_eq {settled : Option Settled} (h : visit.Ends events (.ok settled)) :
    asked visit.saga.type events = (settled.bind (·.outcome.retry)).toList := by
  cases h with
  | skipped => rfl
  | redelivered hbefore =>
    rw [asked_append, asked_idle hbefore]
    rfl
  | silent hbefore hsaving | published hbefore hsaving =>
    rw [List.append_cons, asked_append, asked_idle (hsaving.idle hbefore)]
    rfl

/-- A step that ends in an error from before its save has saved nothing. -/
theorem Ends.accepted_of_error {error : SagaError} (h : visit.Ends events (.error error))
    (hquiet : error.isAfterSave = false) : accepted events = [] := by
  cases h with
  | stopped hidle => exact accepted_idle hidle
  | unpublished => cases hquiet

/-- Without an error a step saves, unless the saga does not handle the message or asks for a
redelivery. -/
theorem Ends.accepted_eq_nil_iff {settled : Option Settled} (h : visit.Ends events (.ok settled)) :
    accepted events = [] ↔ asked visit.saga.type events ≠ [] ∨ settled = none := by
  rw [h.asked_eq]
  cases h with
  | skipped => simp [accepted]
  | redelivered hbefore =>
    rw [accepted_append, accepted_idle hbefore]
    simp [accepted, Event.accepted?, redelivery]
  | silent hbefore hsaving | published hbefore hsaving =>
    rw [hsaving.accepted_eq hbefore]
    simp [kept]

/-- Only a transition that fails its saga leaves the status failed. -/
theorem eq_fail_of_status {β : Type} {transition : Option (Transition β)}
    (h : Status.after (transition.getD (.proceed none)).kind = some .failed) :
    ∃ outgoing fault, transition = some (.fail outgoing fault) := by
  cases transition with
  | none => cases h
  | some transition =>
    cases transition with
    | fail outgoing fault => exact ⟨outgoing, fault, rfl⟩
    | _ => cases h

/-- The failure that a step saves is the one of its transition. -/
theorem Saving.failsWith {token : Token} {after : List (Event A)} (hbefore : Idle before)
    (h : visit.Saving step left transition record) (hafter : accepted after = [])
    (hfailed : ∃ saved ∈ accepted
      (before ++ .returned step left (.ok transition) :: .saved record (.ok token) :: after),
      saved.status = .failed) :
    ∃ fault, (transition.getD (.proceed none)).failure? = some fault ∧
      FailsWith
        (before ++ .returned step left (.ok transition) :: .saved record (.ok token) :: after)
        record fault := by
  rw [h.accepted_eq hbefore, hafter] at hfailed
  obtain ⟨saved, hmem, hstatus⟩ := hfailed
  obtain rfl := List.mem_singleton.1 hmem
  obtain ⟨outgoing, fault, rfl⟩ := eq_fail_of_status (hstatus ▸ h.status)
  exact ⟨fault, rfl, before, step, left, outgoing, token, after, rfl, h.key, hstatus⟩

/-- A step that saves no failure comes to none. -/
theorem Ends.failure_eq_none {settled : Settled} (h : visit.Ends events (.ok (some settled)))
    (hnone : ∀ record ∈ accepted events, record.status ≠ .failed) : settled.failure = none := by
  cases h with
  | redelivered => rfl
  | silent hbefore hsaving | published hbefore hsaving =>
    rw [hsaving.accepted_eq hbefore] at hnone
    refine Decidable.byContradiction fun hfailure => hnone _ List.mem_cons_self ?_
    exact status_of_failure? hsaving.status hfailure

/-- **A step that saves a failure** saves it for a fail transition of its saga. Unless the message
of that transition could not be published, the step comes to a failure with its error. -/
theorem Ends.of_failed {result : Except SagaError (Option Settled)} (h : visit.Ends events result)
    (hfailed : ∃ record ∈ accepted events, record.status = .failed) :
    ∃ record fault, FailsWith events record fault ∧ record.sagaType = visit.sagaType ∧
      ((∃ settled, result = .ok (some settled) ∧ settled.outcome.key = record.toKey ∧
          settled.failure = some fault) ∨
        ∃ source, result = .error (.publish record.toKey source)) := by
  have hsaga : ∀ {step left transition record}, visit.Saving step left transition record →
      record.sagaType = visit.sagaType :=
    fun hsaving => (congrArg Key.sagaType hsaving.key).trans hsaving.saga
  cases h with
  | skipped => simp [accepted] at hfailed
  | stopped hidle => simp [accepted_idle hidle] at hfailed
  | redelivered hbefore =>
    rw [accepted_append, accepted_idle hbefore] at hfailed
    simp [accepted, Event.accepted?] at hfailed
  | silent hbefore hsaving | published hbefore hsaving =>
    obtain ⟨fault, hfault, hfails⟩ := hsaving.failsWith hbefore rfl hfailed
    exact ⟨_, fault, hfails, hsaga hsaving, .inl ⟨_, rfl, hsaving.key.symm, hfault⟩⟩
  | unpublished hbefore hsaving =>
    obtain ⟨fault, hfault, hfails⟩ := hsaving.failsWith hbefore rfl hfailed
    exact ⟨_, fault, hfails, hsaga hsaving, .inr ⟨_, by rw [hsaving.key]⟩⟩

/-- A step whose message is refused ends in that error, for the record that it has saved. -/
theorem Ends.error_of_refused {result : Except SagaError (Option Settled)}
    (h : visit.Ends events result) {outgoing : Outgoing A.Body} {source : Fault}
    (hrefused : .published outgoing (.error source) ∈ events) (hrecord : record ∈ accepted events) :
    result = .error (.publish record.toKey source) := by
  have hidle : ∀ {others : List (Event A)}, Idle others →
      .published outgoing (.error source) ∉ others :=
    fun hothers hmem => by cases hothers _ hmem
  cases h with
  | skipped => cases hrefused
  | stopped hothers => exact absurd hrefused (hidle hothers)
  | redelivered hbefore => simp [hidle hbefore] at hrefused
  | silent hbefore | published hbefore => simp [hidle hbefore] at hrefused
  | unpublished hbefore hsaving =>
    obtain ⟨-, rfl⟩ : outgoing = _ ∧ source = _ := by simpa [hidle hbefore] using hrefused
    rw [hsaving.accepted_eq hbefore] at hrecord
    obtain rfl := List.mem_singleton.1 hrecord
    rw [hsaving.key]

end Visit

end Sagas
