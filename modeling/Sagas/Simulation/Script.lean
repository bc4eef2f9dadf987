import Sagas.Saga.Definition
import Sagas.Simulation.Bench

/-!
# Scripts

A simulated saga is described by data: its declarations, and for each message type a list of
acts that its handler performs and the replies that it gives. `SagaSpec.toSaga` makes the
saga type of a description.
-/

namespace Sagas.Simulation

/-- A message to send, with the name of its signal if it is to share one. -/
structure Sending where
  message : Message Body
  correlation : Option String
  causation : Option String
  /-- The only saga type to run; none runs every one that reacts. -/
  target : Option SagaType
  signalName : Option String
  /-- Whether the signal is cancelled beforehand. -/
  cancelled : Bool

/-- Where a script takes an id from. -/
inductive IdSource where
  | id
  | ref
  deriving DecidableEq, Repr

/-- One thing that a script does. -/
inductive Act where
  | setId (id : String)
  | idFrom (source : IdSource)
  | add (amount : Int)
  /-- Adds the amount of the message. -/
  | addAmount
  | setData (field : String) (value : Json)
  | setToken (name : Option String)
  | poison
  /-- Cancels the signal of the context. -/
  | cancel
  /-- Ends in an error if the signal of the context is cancelled. -/
  | check
  | note (text : String)
  | raise (fault : Fault)
  | observe
  /-- Does something in the first `count` runs only. -/
  | first (count : Nat) (act : Act)
  /-- Sends a message and notes the answer. -/
  | send (sending : Sending)
  /-- Sends a message, notes the answer, and ends in an error if the answer is one. -/
  | sendOrFail (sending : Sending)

/-- A message that a reply sends out; without a body of its own it takes the body of the
message that it replies to. -/
structure Draft where
  type : MessageType
  body : Option Body

/-- What a scripted handler answers. -/
inductive Reply where
  | nothing
  | proceed (draft : Option Draft)
  | complete (draft : Option Draft)
  | compensate (draft : Option Draft) (error : Option Fault)
  | fail (draft : Option Draft) (error : Fault)
  | retry (delay : Option Duration) (error : Option Fault)

/-- What a scripted handler does. The `n`-th run gives the `n`-th reply; the last one is
repeated, and without any the handler answers nothing. -/
structure Script where
  acts : List Act
  replies : List Reply

/-- How a simulated message names its saga instance. -/
inductive Strategy where
  | id
  | ref
  | const (id : String)
  /-- A text in front of the id of the message. -/
  | after (text : String)
  deriving DecidableEq, Repr

/-- The saga instance that a message names. -/
def Strategy.sagaId : Strategy → Body → String
  | id, body => body.id
  | ref, body => body.ref
  | const other, _ => other
  | after text, body => text ++ body.id

/-- The description of a simulated saga type. -/
structure SagaSpec where
  type : SagaType
  declarations : List (Stage × MessageType)
  correlations : List (MessageType × Strategy)
  scripts : Table MessageType Script
  /-- The acts of the creation hook; none takes the id of the message. -/
  created : Option (List Act)
  /-- Whether the state drops every token that it is given. -/
  forgetsToken : Bool

/-! ### Sending -/

/-- The signal of a name; it is issued when the name is used first. -/
def signalNamed (name : String) : Program Scripted Signal := do
  let bench ← Program.read
  match Table.find? name bench.named with
  | some signal => return signal
  | none =>
    let signal ← Program.newSignal pure
    Program.modify fun bench => { bench with named := Table.insert name signal bench.named }
    return signal

/-- Prepares a send: its signal is known to be the innermost one in progress. -/
def Sending.begin (sending : Sending) : Program Scripted (Request Body) := do
  let signal ← match sending.signalName with
    | some name => signalNamed name
    | none => Program.newSignal pure
  if sending.cancelled then Program.cancel signal (pure ())
  Program.modify fun bench => { bench with sending := signal :: bench.sending }
  return {
    message := sending.message, correlation := sending.correlation
    causation := sending.causation, signal, target := sending.target }

/-- Ends the innermost send in progress. -/
def Sending.finish : Program Scripted Unit :=
  Program.modify fun bench => { bench with sending := bench.sending.tail }

/-- Cancels the signal of the innermost send in progress. -/
def cancelInnermost : Program Scripted Unit := do
  match (← Program.read).sending with
  | signal :: _ => Program.cancel signal (pure ())
  | [] => return ()

/-! ### Acts -/

/-- What acts work with: they change a state and may end in an error. -/
abbrev ScriptM := ExceptT Fault (StateT State (Program Scripted))

/-- A program as an act that leaves the state alone. -/
def ScriptM.lift {α : Type} (program : Program Scripted α) : ScriptM α :=
  ExceptT.lift (StateT.lift program)

/-- What stays the same while a script runs. -/
structure Setting where
  spec : SagaSpec
  context : Context Scripted
  runner : Instance
  /-- How often the script was run before. -/
  runs : Nat

/-- The body of the message that a script reacts to. -/
def Setting.body (setting : Setting) : Body := setting.context.message.body

/-- A sum of signed 64-bit words, which wraps around. -/
def addWords (a b : Int) : Int := (a + b).bmod wordCount

/-- What a script sees of its surroundings. -/
def Setting.observe (setting : Setting) (state : State) : Program Scripted Observation := do
  let bench ← Program.read
  let cancelled ← Program.isCancelled setting.context.signal pure
  return {
    key := setting.context.key, correlation := setting.context.correlation
    causation := setting.context.causation, cancelled
    message := setting.context.message.type, id := state.id, counter := state.counter
    token := state.token, calls := (Table.find? setting.runner.serial bench.calls).getD 0 }

/-- Sends a message from a script and notes the answer. -/
def sendNested (sending : Sending) : Program Scripted Answer := do
  let request ← sending.begin
  let answer ← Program.send request pure
  Sending.finish
  Program.log (.nested answer)
  return answer

/-- Performs one act. -/
def Act.perform (setting : Setting) : Act → ScriptM Unit
  | setId id => modify fun state => { state with id }
  | idFrom .id => modify fun state => { state with id := setting.body.id }
  | idFrom .ref => modify fun state => { state with id := setting.body.ref }
  | add amount => modify fun state => { state with counter := addWords state.counter amount }
  | addAmount => modify fun state =>
    { state with counter := addWords state.counter setting.body.amount }
  | setData field value => modify fun state =>
    { state with data := Table.insert field value state.data }
  | setToken name => do
    let bench ← ScriptM.lift Program.read
    modify fun state =>
      if setting.spec.forgetsToken then state
      else { state with token := name.map (tokenNamed bench.issued) }
  | poison => modify fun state => { state with poisoned := true }
  | cancel => ScriptM.lift (Program.cancel setting.context.signal (pure ()))
  | check => do
    if ← ScriptM.lift (Program.isCancelled setting.context.signal pure) then
      throw (.text SagaError.cancelled.message)
  | note text => ScriptM.lift (Program.log (.text text))
  | raise fault => throw fault
  | observe => do
    let observation ← ScriptM.lift (setting.observe (← get))
    ScriptM.lift (Program.log (.observed observation))
  | first count act => if setting.runs < count then act.perform setting else return ()
  | send sending => do
    let _ ← ScriptM.lift (sendNested sending)
  | sendOrFail sending => do
    match ← ScriptM.lift (sendNested sending) with
    | .ok _ => return ()
    | .error error => throw (.text error.message)

/-- Performs some acts, up to the first error, and answers the state that they leave. -/
def performAll (setting : Setting) (acts : List Act) :
    Program Scripted (State × Except Fault Unit) := do
  let (result, state) ← (acts.forM (Act.perform setting)).run.run setting.context.state
  return (state, result)

/-! ### Handlers -/

/-- The message of a draft, as sent out by the step of a context. -/
def Draft.outgoing (context : Context Scripted) (draft : Draft) : Outgoing Body :=
  context.outgoing ⟨draft.type, draft.body.getD context.message.body⟩

/-- The transition of a reply, if it is one. -/
def Reply.transition (context : Context Scripted) : Reply → Option (Transition Body)
  | nothing => none
  | proceed draft => some (.proceed (draft.map (·.outgoing context)))
  | complete draft => some (.complete (draft.map (·.outgoing context)))
  | compensate draft error => some (.compensate (draft.map (·.outgoing context)) error)
  | fail draft error => some (.fail (draft.map (·.outgoing context)) error)
  | retry delay error => some (.retry delay error)

/-- The reply of the `n`-th run. -/
def Script.reply (script : Script) (n : Nat) : Reply :=
  (script.replies[min n (script.replies.length - 1)]?).getD .nothing

/-- Counts one more run of a handler, and answers how many there were before. -/
def countRun (slot : Nat) (message : MessageType) (runner : Instance) : Program Scripted Nat := do
  let bench ← Program.read
  let runs := (Table.find? (slot, message) bench.invocations).getD 0
  let calls := (Table.find? runner.serial bench.calls).getD 0
  Program.modify fun bench => { bench with
    invocations := Table.insert (slot, message) (runs + 1) bench.invocations
    calls := Table.insert runner.serial (calls + 1) bench.calls }
  return runs

namespace SagaSpec

/-- The handler of a message type. -/
def handler (spec : SagaSpec) (message : MessageType) : Handler Scripted := fun runner context => do
  let runs ← countRun spec.type.id message runner
  Program.log (.handler spec.type.id message runs)
  let script := (Table.find? message spec.scripts).getD ⟨[], []⟩
  let (state, result) ← performAll { spec, context, runner, runs } script.acts
  match result with
  | .error fault => return (state, .error fault)
  | .ok () => return (state, .ok ((script.reply runs).transition context))

/-- The creation hook. -/
def onCreated (spec : SagaSpec) (runner : Instance) (context : Context Scripted) :
    Program Scripted (State × Except Fault Unit) := do
  Program.log (.created spec.type.id)
  performAll { spec, context, runner, runs := 0 } (spec.created.getD [.idFrom .id])

/-- The saga type of a description. -/
def toSaga (spec : SagaSpec) : Saga Scripted where
  type := spec.type
  declarations := spec.declarations.map fun (stage, message) =>
    { message, stage, handler := spec.handler message }
  correlations := spec.correlations.map fun (message, strategy) =>
    { message, sagaId := strategy.sagaId }
  initial := .initial
  onCreated := spec.onCreated
  idOf state := state.id
  tokenOf state := state.token
  withToken token state := if spec.forgetsToken then state else { state with token }
  encode := State.encode
  decode := State.decode

end SagaSpec

end Sagas.Simulation
