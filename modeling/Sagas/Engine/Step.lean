import Sagas.Engine.Visit

/-!
# One step of one saga

What the engine does for one saga that reacts to a message: it makes a new instance or
loads the stored one, runs the handler inside the chain, and acts on the transition. It
saves first and publishes second, and looks at the caller's signal before each effect that
comes before the save.

* `create`: the step of a start message, made exactly once.
* `advance`: the step of any other message; a save that is refused as stale is followed by
  another attempt, as often as the configuration allows.
-/

namespace Sagas

variable {A : Application}

/-- The step of one saga that came to an end: its outcome, and the error of a saga that
failed. -/
structure Settled where
  outcome : Outcome
  failure : Option Fault
  deriving DecidableEq, Repr

namespace Visit

/-- How a step that asks for a redelivery comes out. -/
def redelivery (visit : Visit A) (step : StepInfo) (transition : Transition A.Body) : Settled where
  outcome := {
    key := step.key, stage := step.stage, kind := transition.kind
    published := false, token := none
    retry := some {
      saga := visit.saga.type, sagaId := step.key.sagaId
      delay := transition.delay?, error := transition.error? } }
  failure := none

/-- How a step whose state was saved under a token comes out. -/
def kept (step : StepInfo) (transition : Transition A.Body) (published : Bool) (token : Token) :
    Settled where
  outcome := {
    key := step.key, stage := step.stage, kind := transition.kind, published
    token := some token, retry := none }
  failure := transition.failure?

/-- What a retry leaves: nothing is saved, and the caller is asked to deliver again. -/
def redeliver (visit : Visit A) (step : StepInfo) (transition : Transition A.Body) :
    Attempt A Settled := do
  Attempt.lift (World.emit [.redelivery step.key transition.delay?])
  return visit.redelivery step transition

/-- The events that tell how a saved step left its saga. -/
def endEvents (key : Key) (status : Status) : Transition A.Body → List TraceEvent
  | .fail _ error => [.failed key (some error)]
  | transition =>
    (transition.error?.map fun error => .compensating key error).toList ++
      if status.isTerminal then [.completed key] else []

/-- The record that a step leaves: its token is the one of the version to replace. -/
def recordOf (visit : Visit A) (key : Key) (status : Status) (state : A.State) (json : Json)
    (now : Instant) : Record :=
  { key with status, state := json, token := visit.saga.tokenOf state, updatedAt := now }

/-- Publishes the message of a transition, if it has one, and answers whether it has. -/
def publishOutgoing (visit : Visit A) (key : Key) : Option (Outgoing A.Body) → Attempt A Bool
  | none => return false
  | some outgoing => do
    visit.publish key outgoing
    return true

/-- Saves the state that a step left, then publishes the message of its transition. Once
the state is saved the signal does not count any more. -/
def commit (visit : Visit A) (step : StepInfo) (state : A.State) (transition : Transition A.Body)
    (status : Status) : Attempt A Settled := do
  checkSignal visit.request.signal
  let json ← Attempt.ofExcept ((visit.saga.encode state).mapError fun reason =>
    .serialization (.ofReason reason))
  let world ← Attempt.lift get
  let token ← visit.save (visit.recordOf step.key status state json world.clock)
  let published ← visit.publishOutgoing step.key transition.outgoing?
  Attempt.lift (World.emit (endEvents step.key status transition))
  return kept step transition published token

/-- Acts on the transition of a step. -/
def settle (visit : Visit A) (step : StepInfo) (state : A.State) (transition : Transition A.Body) :
    Attempt A Settled := do
  Attempt.lift (World.count [.transitions step.key.sagaType transition.kind])
  match Status.after transition.kind with
  | none => visit.redeliver step transition
  | some status => visit.commit step state transition status

/-- The step of this visit in a stage, for a saga instance. -/
def stepOf (visit : Visit A) (stage : Stage) (key : Key) : StepInfo where
  key
  stage
  message := visit.request.message.type
  correlation := visit.request.correlation

/-- Runs the handler from a state inside the chain, and acts on its answer. -/
def execute (visit : Visit A) (stage : Stage) (handler : Handler A) (runner : Instance) (key : Key)
    (state : A.State) : Attempt A Settled := do
  checkSignal visit.request.signal
  let step := visit.stepOf stage key
  let work := visit.orchestrator.chain.run visit.send step (visit.work step runner handler)
  let (result, state) ← Attempt.lift (work.run state)
  Attempt.lift (World.record (.returned step state result))
  let transition ← Attempt.ofExcept (result.mapError (.handler visit.sagaType))
  visit.settle step state (transition.getD (.proceed none))

/-- The step of a start message: a new instance is made, its creation hook gives it an id,
and its handler runs. -/
def create (visit : Visit A) (handler : Handler A) : Attempt A Settled := do
  Attempt.lift World.beginAttempt
  checkSignal visit.request.signal
  let runner ← visit.resolve
  Attempt.lift (World.record (.hooked visit.saga.type runner))
  let context := visit.context ⟨visit.sagaType, ""⟩ visit.saga.initial
  let (state, result) ← Attempt.lift ((visit.saga.onCreated runner context).run visit.send)
  Attempt.ofExcept (result.mapError (.handler visit.sagaType))
  let key : Key := ⟨visit.sagaType, visit.saga.idOf state⟩
  Attempt.refuse (key.sagaId == "") (.configuration visit.sagaType [.emptySagaId])
  Attempt.lift (World.emit [.created key])
  visit.execute .start handler runner key state

/-- The state of a loaded record, with the token of its version. -/
def stateOf (visit : Visit A) (record : Record) : Except SagaError A.State :=
  match visit.saga.decode record.state with
  | .ok state => .ok (visit.saga.withToken record.token state)
  | .error reason => .error (.serialization (.ofReason reason))

/-- The record that was loaded, if there is one. -/
def found (key : Key) : Option Record → Except SagaError Record
  | some record => .ok record
  | none => .error (.notFound key)

/-- One attempt at the step of a message for a stored instance. -/
def advanceOnce (visit : Visit A) (stage : Stage) (handler : Handler A) (key : Key) :
    Attempt A Settled := do
  Attempt.lift World.beginAttempt
  checkSignal visit.request.signal
  let loaded ← visit.load key
  let record ← Attempt.ofExcept (found key loaded)
  Attempt.refuse record.status.isTerminal (.terminated key record.status)
  let state ← Attempt.ofExcept (visit.stateOf record)
  checkSignal visit.request.signal
  let runner ← visit.resolve
  visit.execute stage handler runner key state

/-- Attempts at a step, of which `reruns` more are allowed after a conflict and `made` were
made before. -/
def attempts (visit : Visit A) (stage : Stage) (handler : Handler A) (key : Key) :
    (reruns made : Nat) → Attempt A Settled
  | reruns, made => ExceptT.mk do
    match ← (visit.advanceOnce stage handler key).run with
    | .error (.conflict stale) =>
      World.count [.conflicts visit.sagaType]
      match reruns with
      | 0 => return .error (.conflict stale)
      | reruns + 1 =>
        World.emit [.reloading key (made + 1)]
        (visit.attempts stage handler key reruns (made + 1)).run
    | result => return result

/-- The step of a message for a stored instance. -/
def advance (visit : Visit A) (stage : Stage) (handler : Handler A) : Attempt A Settled := do
  let sagaId ← Attempt.ofExcept (visit.registration.correlate visit.request.message)
  visit.attempts stage handler ⟨visit.sagaType, sagaId⟩
    visit.orchestrator.config.concurrencyRetries.toNat 0

/-- The step of one saga, or nothing if it does not react to the message. -/
def dispatch (visit : Visit A) : Attempt A (Option Settled) := do
  match visit.registration.handler? visit.request.message.type with
  | none =>
    Attempt.lift (World.emit [.skipped visit.sagaType visit.request.message.type])
    return none
  | some (.start, handler) => return some (← visit.create handler)
  | some (stage, handler) => return some (← visit.advance stage handler)

end Visit

end Sagas
