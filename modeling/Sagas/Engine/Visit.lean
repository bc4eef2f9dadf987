import Sagas.Config
import Sagas.Directory
import Sagas.Engine.Attempt
import Sagas.Engine.Chain

/-!
# Visits to gateways and handlers

The gateways of an orchestrator, and the calls that the step of one saga makes: to load, to
save, to publish, to resolve an instance, and to run a handler. Every call is written into
the journal with its result.
-/

namespace Sagas

variable {A : Application}

/-- The gateways of the engine. Store and outbox work on the resources of the world; the
resolver is a program. -/
structure Gateways (A : Application) where
  load : Key → Signal → StateM (Resources A) (Except StoreError (Option Record))
  save : Record → Signal → StateM (Resources A) (Except StoreError Token)
  publish : Outgoing A.Body → Signal → StateM (Resources A) (Except Fault Unit)
  resolve : SagaType → Program A (Except Fault Instance)

/-- The gateways of the store and the outbox in memory. -/
def Gateways.inMemory (resolve : SagaType → Program A (Except Fault Instance)) : Gateways A where
  load key _ := do return .ok ((← get).store.find? key)
  save record _ := fun resources =>
    let (result, store) := resources.store.save record
    (result, { resources with store })
  publish outgoing _ := fun resources =>
    let (result, outbox) := resources.outbox.publish outgoing
    (result, { resources with outbox })
  resolve

/-- Everything that a delivery works with. -/
structure Orchestrator (A : Application) where
  directory : Directory A
  gateways : Gateways A
  chain : Chain A
  config : Config

/-- What every part of a step needs: the orchestrator, where nested messages go, and the
registration and the request that the step is for. -/
structure Visit (A : Application) where
  orchestrator : Orchestrator A
  send : Request A.Body → Run A Answer
  registration : Registration A
  request : Request A.Body

namespace Visit

/-- The saga type that the step is for. -/
def saga (visit : Visit A) : Saga A := visit.registration.saga

/-- The name of the saga type that the step is for. -/
def sagaType (visit : Visit A) : String := visit.saga.type.name

/-- Loads the record of a saga instance. -/
def load (visit : Visit A) (key : Key) : Attempt A (Option Record) := do
  let call := visit.orchestrator.gateways.load key visit.request.signal
  let result ← Attempt.lift (World.onResources call)
  Attempt.lift (World.record (.loaded key result))
  Attempt.ofExcept (result.mapError .ofStore)

/-- Keeps a record and answers its new token. -/
def save (visit : Visit A) (record : Record) : Attempt A Token := do
  let call := visit.orchestrator.gateways.save record visit.request.signal
  let result ← Attempt.lift (World.onResources call)
  Attempt.lift (World.record (.saved record result))
  Attempt.ofExcept (result.mapError .ofStore)

/-- Publishes a message of the saga instance `key`. -/
def publish (visit : Visit A) (key : Key) (outgoing : Outgoing A.Body) : Attempt A Unit := do
  let call := visit.orchestrator.gateways.publish outgoing visit.request.signal
  let result ← Attempt.lift (World.onResources call)
  Attempt.lift (World.record (.published outgoing result))
  Attempt.ofExcept (result.mapError (.publish key))

/-- The instance that a resolver answered, if it is one of the saga type. -/
def checkInstance (saga : SagaType) : Except Fault Instance → Except SagaError Instance
  | .error source => .error (.resolution saga.name source)
  | .ok runner =>
    if runner.type = saga.id then .ok runner
    else .error (.resolution saga.name
      (.text s!"resolver returned an instance of another type for {saga.name}"))

/-- An instance of the saga type. -/
def resolve (visit : Visit A) : Attempt A Instance := do
  let saga := visit.saga.type
  let result ← Attempt.lift ((visit.orchestrator.gateways.resolve saga).run visit.send)
  Attempt.lift (World.record (.resolved saga result))
  Attempt.ofExcept (checkInstance saga result)

/-- What a handler or a creation hook gets to see. -/
def context (visit : Visit A) (key : Key) (state : A.State) : Context A where
  key
  state
  message := visit.request.message
  correlation := visit.request.correlation
  causation := visit.request.causation
  signal := visit.request.signal

/-- The handler at work on the state of its saga. -/
def work (visit : Visit A) (step : StepInfo) (runner : Instance) (handler : Handler A) :
    Work A := do
  let context := visit.context step.key (← get)
  Work.lift (World.record (.handled step runner context))
  let (state, result) ← Work.lift ((handler runner context).run visit.send)
  set state
  return result

end Visit

end Sagas
