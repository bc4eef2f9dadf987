import Sagas.Outbox
import Sagas.Saga.Definition
import Sagas.Store
import Sagas.Telemetry

/-!
# The world of a run

The state that a run threads through: what programs see (`Surroundings`), the store and
the outbox beside it (`Resources`), and what is observed of the run (`World`): counters,
log events and the journal.

The journal lists, newest first, every call of a gateway, every entry into a hook or a
handler, and the notes of programs. Each entry says how deep the delivery is nested that made
it, and to which attempt at a step it belongs; attempts are numbered from 1 in the order in
which they began, over the whole run.
-/

namespace Sagas

variable {A : Application} {α : Type}

/-- The step that a handler is run for. -/
structure StepInfo where
  key : Key
  message : MessageType
  stage : Stage
  correlation : Option String
  deriving DecidableEq, Repr

/-- What happened in a run. -/
inductive Event (A : Application) where
  /-- The store was asked for a record. -/
  | loaded (key : Key) (result : Except StoreError (Option Record))
  /-- The resolver was asked for an instance. -/
  | resolved (saga : SagaType) (result : Except Fault Instance)
  /-- The creation hook was entered. -/
  | hooked (saga : SagaType) (runner : Instance)
  /-- The handler was entered. -/
  | handled (step : StepInfo) (runner : Instance) (context : Context A)
  /-- The wrapped handler came back, leaving a state. -/
  | returned (step : StepInfo) (state : A.State) (result : HandlerResult A.Body)
  /-- The store was asked to keep a record. -/
  | saved (record : Record) (result : Except StoreError Token)
  /-- The outbox was handed a message. -/
  | published (outgoing : Outgoing A.Body) (result : Except Fault Unit)
  /-- A program cancelled a signal. -/
  | cancelled (signal : Signal)
  /-- A program left a note. -/
  | noted (note : A.Note)

/-- An event with its place in the run. -/
structure Entry (A : Application) where
  /-- The number of deliveries in progress around the one that made the entry. -/
  depth : Nat
  /-- The attempt that made the entry, or 0 before the first one of its delivery. -/
  attempt : Nat
  event : Event A

/-- What programs see and change. -/
structure Surroundings (A : Application) where
  env : A.Env
  signals : Signals
  /-- The number of instances made so far. -/
  instances : Nat

/-- What gateways see and change. -/
structure Resources (A : Application) extends Surroundings A where
  store : Store
  outbox : Outbox A.Body
  /-- What the clock shows. -/
  clock : Instant

/-- The state of a run. -/
structure World (A : Application) extends Resources A where
  /-- Newest first. -/
  journal : List (Entry A)
  /-- Newest first. -/
  metrics : List Metric
  /-- Newest first. -/
  trace : List TraceEvent
  /-- The number of attempts begun so far. -/
  attempts : Nat
  /-- The number of deliveries around the one in progress. -/
  depth : Nat
  /-- The attempt in progress, 0 before the first one of its delivery. -/
  attempt : Nat
  /-- Whether a message was sent from deeper than the limit of nesting. -/
  truncated : Bool

/-- A computation in a world. -/
abbrev Run (A : Application) := StateM (World A)

namespace World

/-- A world in which nothing has happened yet. -/
def ofResources (resources : Resources A) : World A where
  toResources := resources
  journal := []
  metrics := []
  trace := []
  attempts := 0
  depth := 0
  attempt := 0
  truncated := false

/-- Changes the world. -/
def alter (change : World A → World A) : Run A Unit := modify change

/-- Writes an event into the journal. -/
def record (event : Event A) : Run A Unit := alter fun world =>
  { world with journal := ⟨world.depth, world.attempt, event⟩ :: world.journal }

/-- Counts metrics, in their order. -/
def count (metrics : List Metric) : Run A Unit := alter fun world =>
  { world with metrics := metrics.reverse ++ world.metrics }

/-- Logs events, in their order. -/
def emit (events : List TraceEvent) : Run A Unit := alter fun world =>
  { world with trace := events.reverse ++ world.trace }

/-- Runs the call of a gateway on the resources of the world. -/
def onResources (call : StateM (Resources A) α) : Run A α := fun world =>
  let (result, resources) := call world.toResources
  (result, { world with toResources := resources })

/-- Begins a delivery: no attempt of it is in progress yet. -/
def beginDelivery : Run A Unit := alter fun world => { world with attempt := 0 }

/-- Begins an attempt: what follows belongs to it. -/
def beginAttempt : Run A Unit := alter fun world =>
  { world with attempts := world.attempts + 1, attempt := world.attempts + 1 }

/-- Runs a nested delivery: one level deeper, and afterwards back in the attempt in progress. -/
def nested (delivery : Run A α) : Run A α := fun world =>
  let (result, after) := delivery { world with depth := world.depth + 1 }
  (result, { after with depth := world.depth, attempt := world.attempt })

end World

/-- Runs a program. Messages that it sends are handed to `send`. -/
def Program.run (send : Request A.Body → Run A Answer) : Program A α → Run A α
  | done value => pure value
  | update change next => do
    World.alter fun world => { world with env := change world.env }
    let world ← get
    (next world.env).run send
  | note entry next => do
    World.record (.noted entry)
    next.run send
  | newSignal next => do
    let world ← get
    set { world with signals := world.signals.issue }
    (next world.signals.fresh).run send
  | cancel signal next => do
    World.record (.cancelled signal)
    World.alter fun world => { world with signals := world.signals.cancel signal }
    next.run send
  | isCancelled signal next => do
    let world ← get
    (next (world.signals.isCancelled signal)).run send
  | newInstance next => do
    let world ← get
    set { world with instances := world.instances + 1 }
    (next world.instances).run send
  | Program.send request next => do
    let answer ← World.nested (send request)
    (next answer).run send

end Sagas
