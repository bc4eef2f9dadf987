import Sagas.Engine.Delivery
import Sagas.Simulation.Gateways
import Sagas.Simulation.Wrappers

/-!
# Scenarios

A scenario describes simulated sagas, how they are registered and wrapped, and a list of
steps: messages to send, faults to inject, questions to ask. Running it gives one answer for
each step.
-/

namespace Sagas.Simulation

/-- How the factories of a saga type are registered. -/
inductive Provision where
  /-- A factory of new instances. -/
  | factory
  /-- One shared instance. -/
  | shared
  deriving DecidableEq, Repr

/-- A request to register saga types. -/
inductive Enrolment where
  | single (spec : SagaSpec)
  /-- Several saga types, up to the first one that is refused. -/
  | group (specs : List SagaSpec)

/-- What came of a request to register saga types. -/
inductive EnrolmentAnswer where
  | single (result : Except SagaError Capabilities)
  /-- How many were accepted before the first one that was refused, and why it was. -/
  | group (accepted : Nat) (refusal : Option SagaError)

/-- One step of a scenario. -/
inductive Step where
  | send (sending : Sending)
  | find (key : Key)
  /-- Saves a record past the engine. The token is given by its name. -/
  | save (key : Key) (status : Status) (state : Json) (tokenName : Option String)
  | failOnSave (flag : Bool)
  | failOnPublish (flag : Bool)
  | hook (hook : Hook)
  | cancel (signalName : String)
  | isCancelled (signalName : String)
  | published
  | countOf (message : MessageType)
  /-- Asks the factories for two instances. -/
  | resolve (saga : SagaType)
  | metrics
  | trace
  | inspect

/-- A line of the log of a send. -/
inductive LogLine where
  | load (key : Key)
  | save (key : Key) (status : Status) (expected : Option Token)
  | publish (message : MessageType) (key : Key)
  | resolve (sagaType : String)
  | note (note : Note)

/-- The answer to one step. -/
inductive StepAnswer where
  | nothing
  | sent (answer : Answer) (log : List LogLine) (saves records published : Nat)
  | found (record : Option Record)
  | saved (result : Except StoreError Token) (saves records : Nat)
  | done
  | flag (isCancelled : Bool)
  | published (sent : List (Outgoing Body))
  | count (n : Nat)
  | resolved (contains : Bool) (first second : Except Fault Instance)
  /-- Each series with its total. -/
  | metrics (totals : Table String Nat)
  /-- Oldest first. -/
  | trace (events : List TraceEvent)
  | inspected (orchestrator directory factories : String) (retries : UInt32)

/-- A scenario. -/
structure Scenario where
  specs : List (SagaSpec × List Provision)
  enrolments : List Enrolment
  retries : Option UInt32
  wrappers : List WrapperSpec
  steps : List Step

/-- The answer to a scenario. -/
structure ScenarioAnswer where
  enrolments : List EnrolmentAnswer
  directory : Directory Scripted
  steps : List StepAnswer
  /-- Every record at the end, by saga type and id. -/
  records : List Record

/-! ### Setting up -/

/-- The factories of some saga types, with the number of shared instances made so far. -/
def provide (factories : Factories) (instances : Nat) :
    List (SagaType × Provision) → Factories × Nat
  | [] => (factories, instances)
  | (saga, .factory) :: rest => provide (factories.register saga .fresh) instances rest
  | (saga, .shared) :: rest =>
    provide (factories.register saga (.shared ⟨saga.id, instances⟩)) (instances + 1) rest

/-- The factories of a scenario, with the number of instances made for them. -/
def Scenario.factories (scenario : Scenario) : Factories × Nat :=
  provide [] 0 (scenario.specs.flatMap fun (spec, provisions) => provisions.map (spec.type, ·))

/-- Registers what a request asks for. -/
def enrol (directory : Directory Scripted) : Enrolment → Directory Scripted × EnrolmentAnswer
  | .single spec =>
    let (directory, result) := directory.register spec.toSaga
    (directory, .single result)
  | .group specs =>
    let (directory, accepted, refusal) := directory.registerModule (specs.map (·.toSaga))
    (directory, .group accepted refusal)

/-- Registers what several requests ask for. -/
def enrolAll (directory : Directory Scripted) :
    List Enrolment → Directory Scripted × List EnrolmentAnswer
  | [] => (directory, [])
  | enrolment :: rest =>
    let (directory, answer) := enrol directory enrolment
    let (directory, answers) := enrolAll directory rest
    (directory, answer :: answers)

/-- The world at the start of a scenario. -/
def startWorld (instances : Nat) (trace : List TraceEvent) : World Scripted :=
  { World.ofResources {
      env := Bench.empty, signals := .empty, instances, store := .empty mint, outbox := .empty
      clock := .epoch } with
    trace := trace.reverse }

/-! ### Running -/

/-- How deep the messages that scripts send are followed. -/
def nestingLimit : Nat := 1000000

/-- Runs a program that sends nothing. -/
def runQuietly {α : Type} (program : Program Scripted α) : Run Scripted α :=
  program.run Orchestrator.cutShort

/-- The line that an event adds to the log of a send, if it adds one. -/
def logLine? : Event Scripted → Option LogLine
  | .loaded key _ => some (.load key)
  | .resolved saga _ => some (.resolve saga.name)
  | .saved record _ => some (.save record.toKey record.status record.token)
  | .published outgoing _ => some (.publish outgoing.message.type outgoing.key)
  | .noted note => some (.note note)
  | .hooked .. | .handled .. | .returned .. | .cancelled _ => none

/-- The log of what was added to a journal that had `length` entries, oldest first. -/
def logSince (length : Nat) (journal : List (Entry Scripted)) : List LogLine :=
  (journal.take (journal.length - length)).reverse.filterMap fun entry => logLine? entry.event

/-- Sends a message and reports on it. -/
def sendStep (orchestrator : Orchestrator Scripted) (sending : Sending) :
    Run Scripted StepAnswer := do
  let length := (← get).journal.length
  let request ← runQuietly sending.begin
  let answer ← orchestrator.deliver nestingLimit request
  runQuietly Sending.finish
  let world ← get
  return .sent answer (logSince length world.journal) world.store.saves world.store.records.length
    world.outbox.sent.length

/-- Totals by series. -/
def totals (metrics : List Metric) : Table String Nat :=
  metrics.foldr (fun metric table =>
    Table.insert metric.series ((Table.find? metric.series table).getD 0 + 1) table) []

/-- Performs one step of a scenario. -/
def Step.perform (orchestrator : Orchestrator Scripted) (factories : Factories) :
    Step → Run Scripted StepAnswer
  | send sending => sendStep orchestrator sending
  | find key => return .found ((← get).store.find? key)
  | save key status state tokenName => do
    let token := tokenName.map (tokenNamed (← get).store.saves)
    let record : Record := { key with status, state, token, updatedAt := (← get).clock }
    let result ← World.onResources (keep record)
    let store := (← get).store
    return .saved result store.saves store.records.length
  | failOnSave flag => do
    World.alter fun world => { world with store := { world.store with failing := flag } }
    return .nothing
  | failOnPublish flag => do
    World.alter fun world => { world with outbox := { world.outbox with failing := flag } }
    return .nothing
  | hook waiting => do
    World.alter fun world =>
      { world with env := { world.env with hooks := world.env.hooks ++ [waiting] } }
    return .nothing
  | cancel name => do
    runQuietly do
      let signal ← signalNamed name
      Program.cancel signal (pure ())
    return .done
  | isCancelled name => do
    let flag ← runQuietly do
      let signal ← signalNamed name
      Program.isCancelled signal pure
    return .flag flag
  | published => return .published (← get).outbox.sent
  | countOf message => return .count ((← get).outbox.countOf message)
  | resolve saga => do
    let first ← runQuietly (factories.resolve saga)
    let second ← runQuietly (factories.resolve saga)
    return .resolved (factories.contains saga) first second
  | metrics => return .metrics (totals (← get).metrics)
  | trace => do
    let events := (← get).trace.reverse
    World.alter fun world => { world with trace := [] }
    return .trace events
  | inspect =>
    return .inspected orchestrator.inspect orchestrator.directory.inspect factories.inspect
      orchestrator.config.concurrencyRetries

/-- The order of records in an answer: by saga type, then by id. -/
def recordLe (a b : Record) : Bool :=
  a.sagaType < b.sagaType || (a.sagaType == b.sagaType && !(b.sagaId < a.sagaId))

/-- Runs a scenario. -/
def Scenario.run (scenario : Scenario) : ScenarioAnswer :=
  let (directory, enrolments) := enrolAll .empty scenario.enrolments
  let (factories, instances) := scenario.factories
  let orchestrator : Orchestrator Scripted := {
    directory
    gateways := gateways factories
    chain := scenario.wrappers.map (·.toWrapper)
    config := (scenario.retries.map Config.default.withRetries).getD .default }
  let steps : Run Scripted (List StepAnswer) :=
    scenario.steps.mapM fun step => step.perform orchestrator factories
  let (answers, world) := steps.run (startWorld instances directory.trace)
  { enrolments, directory, steps := answers
    records := (world.store.records.map (·.2)).mergeSort recordLe }

/-! ### A chain on its own -/

/-- What came of a chain that ran around a step without a saga. -/
structure ChainAnswer where
  result : HandlerResult Body
  log : List LogLine
  totals : Table String Nat
  trace : List TraceEvent

/-- Runs a chain of wrappers around a step without a saga, whose handler answers an error or
nothing. -/
def runChain (wrappers : List WrapperSpec) (step : StepInfo) (error : Option Fault) :
    ChainAnswer :=
  let chain : Chain Scripted := wrappers.map (·.toWrapper)
  let work : Work Scripted := chain.run Orchestrator.cutShort step (bareWork error)
  let ((result, _), world) := (work.run .initial).run (startWorld 0 [])
  { result, log := logSince 0 world.journal, totals := totals world.metrics
    trace := world.trace.reverse }

end Sagas.Simulation
