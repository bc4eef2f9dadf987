import Sagas.Engine.Step

/-!
# Delivering messages

A message is delivered to every registered saga that reacts to it, in the order of
registration, or to one saga type only. A saga that fails does not hold up the others: once
all of them have run, the first failure is the error of the call. Any other error ends the
call at its saga.

Programs may send messages while a message is delivered. `deliver` follows such nesting
down to a limit; below it a message is answered with an empty report, and the world notes
that the run was cut short.
-/

namespace Sagas.Orchestrator

variable {A : Application}

/-- The registrations that a request is for, in the order in which they run. -/
def selected (orchestrator : Orchestrator A) (request : Request A.Body) :
    Except SagaError (List (Registration A)) :=
  match request.target with
  | none => .ok (orchestrator.directory.matching request.message.type)
  | some saga => match orchestrator.directory.find? saga with
    | some registration => .ok [registration]
    | none => .error (.notRegistered saga.name)

/-- The steps of some registrations, one after the other, up to the first error. -/
def dispatchAll (orchestrator : Orchestrator A) (send : Request A.Body → Run A Answer)
    (request : Request A.Body) : List (Registration A) → Attempt A (List Settled)
  | [] => return []
  | registration :: rest => do
    let settled ← Visit.dispatch { orchestrator, send, registration, request }
    let others ← orchestrator.dispatchAll send request rest
    return settled.toList ++ others

/-- The sagas that failed, with their errors. -/
def failures (settled : List Settled) : List (Key × Fault) :=
  settled.filterMap fun step => step.failure.map fun error => (step.outcome.key, error)

/-- The events of a message whose steps have all run: that there were none, and every
failure but the first one. -/
def concludingEvents (settled : List Settled) : List TraceEvent :=
  (if settled.isEmpty then [.irrelevant] else []) ++
    (failures settled).tail.map fun (key, error) => .furtherFailure key error

/-- The answer to a message whose steps have all run: the first failure, or else what
happened to each saga. -/
def answerOf (messageType : MessageType) (settled : List Settled) : Answer :=
  match failures settled with
  | [] => .ok { messageType, outcomes := settled.map (·.outcome) }
  | (key, error) :: _ => .error (.failed key error)

/-- Ends a delivery whose steps have all run. -/
def conclude (messageType : MessageType) (settled : List Settled) : Attempt A Report := do
  Attempt.lift (World.emit (concludingEvents settled))
  Attempt.ofExcept (answerOf messageType settled)

/-- Delivers a message, with `send` for the messages that programs send meanwhile. -/
def handleWith (orchestrator : Orchestrator A) (send : Request A.Body → Run A Answer)
    (request : Request A.Body) : Run A Answer := ExceptT.run do
  Attempt.lift World.beginDelivery
  Attempt.lift (World.count [.messagesHandled])
  let registrations ← Attempt.ofExcept (orchestrator.selected request)
  let settled ← orchestrator.dispatchAll send request registrations
  conclude request.message.type settled

/-- What answers a message below the limit of nesting. -/
def cutShort (request : Request A.Body) : Run A Answer := do
  World.alter fun world => { world with truncated := true }
  return .ok { messageType := request.message.type, outcomes := [] }

/-- Delivers a message, following messages that programs send down to `nesting` levels. -/
def deliver (orchestrator : Orchestrator A) : (nesting : Nat) → Request A.Body → Run A Answer
  | 0 => orchestrator.handleWith cutShort
  | nesting + 1 => orchestrator.handleWith (orchestrator.deliver nesting)

/-- The inspected form of an orchestrator. -/
def inspect (orchestrator : Orchestrator A) : String :=
  "SagaOrchestrator \x7b router: " ++ orchestrator.directory.inspect ++
    ", pipeline: " ++ orchestrator.chain.inspect ++
    ", config: " ++ orchestrator.config.inspect ++ " \x7d"

end Sagas.Orchestrator
