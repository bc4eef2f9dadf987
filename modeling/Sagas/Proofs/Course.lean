import Sagas.Proofs.History

/-!
# What a step can do

Every exit of the step of one saga, with the events that the step has left by then and with
its result. The relations follow the functions of the engine one by one: `Settles` what acts
on a transition, `Executes` what runs the handler inside the chain, `Creates` and `Advances`
one attempt, `Reruns` the attempts at one step, `Dispatches` the step of one saga and
`Delivers` a whole delivery. Results of gateways, handlers, hooks and wrappers are left open:
the relations hold whatever these answer.

`Course` is what one attempt leaves, from its first event to its last.

* `Executes.ofStep`: from the handler on, every event is one of the step under its key.
-/

namespace Sagas

variable {A : Application} {α : Type}

/-- A value in which a program may end, in some world and with some answers to its messages. -/
def Program.CanEnd (program : Program A α) (value : α) : Prop :=
  ∃ (send : Request A.Body → Run A Answer) (w : World A), (program.run send w).1 = value

/-- How a chain of wrappers answers, given the answer of the handler if it let the handler
run. -/
inductive Wraps (step : StepInfo) :
    Chain A → Option (HandlerResult A.Body) → HandlerResult A.Body → Prop where
  | bare (result) : Wraps step [] (some result) result
  | tracing {rest inner result} : Wraps step rest inner result →
      Wraps step (.tracing :: rest) inner result
  | metrics {rest inner result} : Wraps step rest inner result →
      Wraps step (.metrics :: rest) inner result
  | halt {before rest result} : (before step).CanEnd (.halt result) →
      Wraps step (.custom before :: rest) none result
  | enclose {before after rest inner result answer} : (before step).CanEnd (.enclose after) →
      Wraps step rest inner result → (after result).CanEnd answer →
      Wraps step (.custom before :: rest) inner answer

namespace Visit

/-- The handler inside the chain: what it leaves in the history, its answer, and the state. -/
inductive Works (visit : Visit A) (step : StepInfo) (runner : Instance) (handler : Handler A)
    (state : A.State) : List (Event A) → HandlerResult A.Body → A.State → Prop where
  /-- A wrapper answered in the handler's place. -/
  | halted {result} : Wraps step visit.orchestrator.chain none result →
      Works visit step runner handler state [] result state
  | entered {inner left result} :
      (handler runner (visit.context step.key state)).CanEnd (left, inner) →
      Wraps step visit.orchestrator.chain (some inner) result →
      Works visit step runner handler state
        [.handled step runner (visit.context step.key state)] result left

/-- The ways of acting on a transition. -/
inductive Settles (visit : Visit A) (step : StepInfo) (state : A.State)
    (transition : Transition A.Body) : List (Event A) → Except SagaError Settled → Prop where
  | redelivered : Status.after transition.kind = none →
      Settles visit step state transition [] (.ok (visit.redelivery step transition))
  | cancelled {status} : Status.after transition.kind = some status →
      Settles visit step state transition [] (.error .cancelled)
  | unwritable {status reason} : Status.after transition.kind = some status →
      visit.saga.encode state = .error reason →
      Settles visit step state transition [] (.error (.serialization (.ofReason reason)))
  | refused {status json now error} : Status.after transition.kind = some status →
      visit.saga.encode state = .ok json →
      Settles visit step state transition
        [.saved (visit.recordOf step.key status state json now) (.error error)]
        (.error (.ofStore error))
  | silent {status json now token} : Status.after transition.kind = some status →
      visit.saga.encode state = .ok json → transition.outgoing? = none →
      Settles visit step state transition
        [.saved (visit.recordOf step.key status state json now) (.ok token)]
        (.ok (kept step transition false token))
  | published {status json now token outgoing} : Status.after transition.kind = some status →
      visit.saga.encode state = .ok json → transition.outgoing? = some outgoing →
      Settles visit step state transition
        [.saved (visit.recordOf step.key status state json now) (.ok token),
          .published outgoing (.ok ())]
        (.ok (kept step transition true token))
  | unpublished {status json now token outgoing fault} :
      Status.after transition.kind = some status → visit.saga.encode state = .ok json →
      transition.outgoing? = some outgoing →
      Settles visit step state transition
        [.saved (visit.recordOf step.key status state json now) (.ok token),
          .published outgoing (.error fault)]
        (.error (.publish step.key fault))

/-- The ways of running a handler from a state. -/
inductive Executes (visit : Visit A) (stage : Stage) (handler : Handler A) (runner : Instance)
    (key : Key) (state : A.State) : List (Event A) → Except SagaError Settled → Prop where
  | cancelled : Executes visit stage handler runner key state [] (.error .cancelled)
  | raised {entered fault left} :
      visit.Works (visit.stepOf stage key) runner handler state entered (.error fault) left →
      Executes visit stage handler runner key state
        (entered ++ [.returned (visit.stepOf stage key) left (.error fault)])
        (.error (.handler visit.sagaType fault))
  | settled {entered transition left events result} :
      visit.Works (visit.stepOf stage key) runner handler state entered (.ok transition) left →
      visit.Settles (visit.stepOf stage key) left (transition.getD (.proceed none)) events result →
      Executes visit stage handler runner key state
        (entered ++ .returned (visit.stepOf stage key) left (.ok transition) :: events) result

/-- The creation hook of a new instance. -/
def hook (visit : Visit A) (runner : Instance) : Program A (A.State × Except Fault Unit) :=
  visit.saga.onCreated runner (visit.context ⟨visit.sagaType, ""⟩ visit.saga.initial)

/-- The ways of making a new instance. -/
inductive Creates (visit : Visit A) (handler : Handler A) :
    List (Event A) → Except SagaError Settled → Prop where
  | cancelled : Creates visit handler [] (.error .cancelled)
  | unresolved {answer error} : checkInstance visit.saga.type answer = .error error →
      Creates visit handler [.resolved visit.saga.type answer] (.error error)
  | raised {runner left fault} : runner.type = visit.saga.type.id →
      (visit.hook runner).CanEnd (left, .error fault) →
      Creates visit handler
        [.resolved visit.saga.type (.ok runner), .hooked visit.saga.type runner]
        (.error (.handler visit.sagaType fault))
  | nameless {runner left} : runner.type = visit.saga.type.id →
      (visit.hook runner).CanEnd (left, .ok ()) → visit.saga.idOf left = "" →
      Creates visit handler
        [.resolved visit.saga.type (.ok runner), .hooked visit.saga.type runner]
        (.error (.configuration visit.sagaType [.emptySagaId]))
  | executed {runner left events result} : runner.type = visit.saga.type.id →
      (visit.hook runner).CanEnd (left, .ok ()) → visit.saga.idOf left ≠ "" →
      visit.Executes .start handler runner ⟨visit.sagaType, visit.saga.idOf left⟩ left events
        result →
      Creates visit handler
        (.resolved visit.saga.type (.ok runner) :: .hooked visit.saga.type runner :: events) result

/-- The ways of one attempt at the step of a stored instance. -/
inductive Advances (visit : Visit A) (stage : Stage) (handler : Handler A) (key : Key) :
    List (Event A) → Except SagaError Settled → Prop where
  | cancelled : Advances visit stage handler key [] (.error .cancelled)
  | unloaded {error} :
      Advances visit stage handler key [.loaded key (.error error)] (.error (.ofStore error))
  | missing :
      Advances visit stage handler key [.loaded key (.ok none)] (.error (.notFound key))
  | terminated {record : Record} : record.status.isTerminal = true →
      Advances visit stage handler key [.loaded key (.ok (some record))]
        (.error (.terminated key record.status))
  | unreadable {record error} : record.status.isTerminal = false →
      visit.stateOf record = .error error →
      Advances visit stage handler key [.loaded key (.ok (some record))] (.error error)
  | abandoned {record state} : record.status.isTerminal = false →
      visit.stateOf record = .ok state →
      Advances visit stage handler key [.loaded key (.ok (some record))] (.error .cancelled)
  | unresolved {record state answer error} : record.status.isTerminal = false →
      visit.stateOf record = .ok state → checkInstance visit.saga.type answer = .error error →
      Advances visit stage handler key
        [.loaded key (.ok (some record)), .resolved visit.saga.type answer] (.error error)
  | executed {record state runner events result} : record.status.isTerminal = false →
      visit.stateOf record = .ok state → runner.type = visit.saga.type.id →
      visit.Executes stage handler runner key state events result →
      Advances visit stage handler key
        (.loaded key (.ok (some record)) :: .resolved visit.saga.type (.ok runner) :: events)
        result

/-- Attempts at one step: after a conflict there is another one, while reruns are left. -/
inductive Reruns (visit : Visit A) (stage : Stage) (handler : Handler A) (key : Key) :
    (reruns : Nat) → List (Event A) → Except SagaError Settled → Prop where
  | last {reruns events result} : visit.Advances stage handler key events result →
      (∀ stale, result = .error (.conflict stale) → reruns = 0) →
      Reruns visit stage handler key reruns events result
  | again {reruns events stale others result} :
      visit.Advances stage handler key events (.error (.conflict stale)) →
      Reruns visit stage handler key reruns others result →
      Reruns visit stage handler key (reruns + 1) (events ++ others) result

/-- The ways of the step of one saga. -/
inductive Dispatches (visit : Visit A) :
    List (Event A) → Except SagaError (Option Settled) → Prop where
  | skipped : visit.registration.handler? visit.request.message.type = none →
      Dispatches visit [] (.ok none)
  | created {handler events result} :
      visit.registration.handler? visit.request.message.type = some (.start, handler) →
      visit.Creates handler events result → Dispatches visit events (result.map some)
  | uncorrelated {stage handler error} : stage ≠ .start →
      visit.registration.handler? visit.request.message.type = some (stage, handler) →
      visit.registration.correlate visit.request.message = .error error →
      Dispatches visit [] (.error error)
  | advanced {stage handler sagaId events result} : stage ≠ .start →
      visit.registration.handler? visit.request.message.type = some (stage, handler) →
      visit.registration.correlate visit.request.message = .ok sagaId →
      visit.Reruns stage handler ⟨visit.sagaType, sagaId⟩
        visit.orchestrator.config.concurrencyRetries.toNat events result →
      Dispatches visit events (result.map some)

end Visit

namespace Orchestrator

/-- The steps of some sagas, one after the other, up to the first error. -/
inductive DispatchesAll (orchestrator : Orchestrator A) (send : Request A.Body → Run A Answer)
    (request : Request A.Body) :
    List (Registration A) → List (Event A) → Except SagaError (List Settled) → Prop where
  | nil : DispatchesAll orchestrator send request [] [] (.ok [])
  | stopped {registration rest events error} :
      Visit.Dispatches { orchestrator, send, registration, request } events (.error error) →
      DispatchesAll orchestrator send request (registration :: rest) events (.error error)
  | cons {registration rest events others} {settled : Option Settled} {result} :
      Visit.Dispatches { orchestrator, send, registration, request } events (.ok settled) →
      DispatchesAll orchestrator send request rest others result →
      DispatchesAll orchestrator send request (registration :: rest) (events ++ others)
        (result.map (settled.toList ++ ·))

/-- The ways of a whole delivery. -/
inductive Delivers (orchestrator : Orchestrator A) (send : Request A.Body → Run A Answer)
    (request : Request A.Body) : List (Event A) → Answer → Prop where
  | unregistered {error} : orchestrator.selected request = .error error →
      Delivers orchestrator send request [] (.error error)
  | stopped {registrations events error} : orchestrator.selected request = .ok registrations →
      orchestrator.DispatchesAll send request registrations events (.error error) →
      Delivers orchestrator send request events (.error error)
  | concluded {registrations events settled} : orchestrator.selected request = .ok registrations →
      orchestrator.DispatchesAll send request registrations events (.ok settled) →
      Delivers orchestrator send request events (answerOf request.message.type settled)

/-- What one attempt of an orchestrator leaves in the history. -/
inductive Course (orchestrator : Orchestrator A) : List (Event A) → Prop where
  | create {visit : Visit A} {handler events result} : visit.orchestrator = orchestrator →
      visit.registration ∈ orchestrator.directory.registrations →
      visit.registration.handler? visit.request.message.type = some (.start, handler) →
      visit.Creates handler events result → Course orchestrator events
  | advance {visit : Visit A} {stage handler sagaId events result} :
      visit.orchestrator = orchestrator →
      visit.registration ∈ orchestrator.directory.registrations → stage ≠ .start →
      visit.registration.handler? visit.request.message.type = some (stage, handler) →
      visit.registration.correlate visit.request.message = .ok sagaId →
      visit.Advances stage handler ⟨visit.sagaType, sagaId⟩ events result →
      Course orchestrator events

end Orchestrator

/-! ## From the handler on -/

/-- An event of the handler of a step, or of what is done with its answer, under a key. -/
def Event.OfStep (key : Key) : Event A → Prop
  | .handled step .. | .returned step .. => step.key = key
  | .saved record _ => record.toKey = key
  | .published .. => True
  | .loaded .. | .resolved .. | .hooked .. | .cancelled _ | .noted _ => False

namespace Visit

variable {visit : Visit A} {stage : Stage} {handler : Handler A} {runner : Instance} {key : Key}
  {state left : A.State} {step : StepInfo} {events : List (Event A)}
  {result : Except SagaError Settled}

theorem Works.ofStep {answer : HandlerResult A.Body}
    (h : visit.Works step runner handler state events answer left) :
    ∀ event ∈ events, event.OfStep step.key := by
  cases h with
  | halted => simp
  | entered => exact List.forall_mem_singleton.2 rfl

theorem Settles.ofStep {transition : Transition A.Body}
    (h : visit.Settles step state transition events result) :
    ∀ event ∈ events, event.OfStep step.key := by
  cases h with
  | redelivered | cancelled | unwritable => simp
  | refused | silent => exact List.forall_mem_singleton.2 rfl
  | published | unpublished =>
    exact List.forall_mem_cons.2 ⟨rfl, List.forall_mem_singleton.2 trivial⟩

theorem Executes.ofStep (h : visit.Executes stage handler runner key state events result) :
    ∀ event ∈ events, event.OfStep key := by
  cases h with
  | cancelled => simp
  | raised hworks =>
    exact List.forall_mem_append.2 ⟨hworks.ofStep, List.forall_mem_singleton.2 rfl⟩
  | settled hworks hsettles =>
    exact List.forall_mem_append.2
      ⟨hworks.ofStep, List.forall_mem_cons.2 ⟨rfl, hsettles.ofStep⟩⟩

end Visit

end Sagas
