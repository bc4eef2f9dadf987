import Sagas.Engine.World

/-!
# The bench of a simulation

The application of simulated sagas: what their messages, states and notes are, and what
their scripts share while a scenario runs.

Tokens are known to scenarios by number: `t3` names the token of the third accepted save,
once there is one. Any other text names a token that no save issues.

* `mint_ne_madeUp`: no text of a scenario is ever an issued token.
-/

namespace Sagas.Simulation

/-- What a simulated message carries. -/
structure Body where
  id : String
  ref : String
  amount : Int
  deriving DecidableEq, Repr

/-- What a simulated saga remembers. Token and poison are not stored. -/
structure State where
  id : String
  counter : Int
  data : Table String Json
  token : Option Token
  /-- A poisoned state cannot be stored. -/
  poisoned : Bool

/-- What a script saw of its context, its state and its instance. -/
structure Observation where
  key : Key
  correlation : Option String
  causation : Option String
  cancelled : Bool
  message : MessageType
  id : String
  counter : Int
  token : Option Token
  /-- How many handlers the instance has run. -/
  calls : Nat

/-- What scripts write into the journal. -/
inductive Note where
  /-- The creation hook of a slot ran. -/
  | created (slot : Nat)
  /-- The handler of a slot for a message type ran, for the `n`-th time from 0. -/
  | handler (slot : Nat) (message : MessageType) (n : Nat)
  /-- A handler without a saga ran. -/
  | bareHandler
  | text (note : String)
  | observed (observation : Observation)
  /-- A message that a script sent was answered. -/
  | nested (answer : Answer)
  | before (name : String) (step : StepInfo)
  | after (name : String) (result : HandlerResult Body)

/-- The gateways at which faults can be injected. -/
inductive Gateway where
  | load
  | save
  | publish
  | resolve
  deriving DecidableEq, Repr

/-- What an injected fault does. At a gateway that it does not suit it does nothing. -/
inductive Mishap where
  /-- The gateway fails with an error of its own; the store fails with a plain text only. -/
  | fail (error : Fault)
  /-- The store reports a conflict. -/
  | conflict
  /-- Somebody else saves the stored record once more. -/
  | touch
  /-- The record is not found. -/
  | missing
  /-- The record comes without its token. -/
  | strip
  /-- The signal of the call is cancelled. -/
  | cancel
  /-- The instance is of another saga type. -/
  | wrong
  /-- Nothing happens. -/
  | none
  deriving DecidableEq, Repr

/-- A fault that waits at a gateway: it lets `skip` calls pass and then strikes `times` times. -/
structure Hook where
  gateway : Gateway
  mishap : Mishap
  skip : Nat
  times : Nat
  deriving DecidableEq, Repr

/-- What scripts share while a scenario runs. -/
structure Bench where
  /-- How often the handler of a slot for a message type was run. -/
  invocations : Table (Nat × MessageType) Nat
  /-- How many handlers each instance has run, by serial number. -/
  calls : Table Nat Nat
  /-- The oldest first. -/
  hooks : List Hook
  /-- The signals that scenarios refer to by name. -/
  named : Table String Signal
  /-- The signals of the sends in progress, the innermost first. -/
  sending : List Signal
  /-- How many tokens the store has issued. -/
  issued : Nat

namespace Bench

/-- The bench at the start of a scenario. -/
def empty : Bench := ⟨[], [], [], [], [], 0⟩

end Bench

/-- The application of simulated sagas. -/
abbrev Scripted : Application := ⟨Body, State, Bench, Note⟩

/-! ### Tokens by number -/

/-- The name of the `n`-th token. -/
def tokenName (n : Nat) : String := s!"t{n}"

/-- The token of the `n`-th accepted save. -/
def mint (n : Nat) : Token := "#" ++ tokenName n

/-- A token that no save issues. -/
def madeUp (text : String) : Token := "=" ++ text

/-- The token that a text names when `issued` tokens are known. -/
def tokenNamed (issued : Nat) (text : String) : Token :=
  match (List.range issued).find? fun n => tokenName (n + 1) == text with
  | some n => mint (n + 1)
  | none => madeUp text

/-- The text that names a token: all but the mark in front of it. -/
def nameOfToken (token : Token) : String := String.ofList token.toList.tail

theorem mint_ne_madeUp (n : Nat) (text : String) : mint n ≠ madeUp text := by
  intro h
  have := congrArg (·.toList.head?) h
  simp [mint, madeUp] at this

@[simp] theorem nameOfToken_mint (n : Nat) : nameOfToken (mint n) = tokenName n := by
  simp [nameOfToken, mint]

@[simp] theorem nameOfToken_madeUp (text : String) : nameOfToken (madeUp text) = text := by
  simp [nameOfToken, madeUp]

/-! ### States as JSON -/

/-- The number of 64-bit words. -/
def wordCount : Nat := 18446744073709551616

/-- Whether a number is a signed 64-bit word. -/
def isWord (n : Int) : Bool := n.bmod wordCount == n

namespace State

/-- The state of a new instance. -/
def initial : State := ⟨"", 0, [], none, false⟩

/-- The stored form of a state. -/
def encode (state : State) : Except String Json :=
  if state.poisoned then .error "state is poisoned"
  else .ok (.object [("id", .string state.id), ("counter", .int state.counter),
    ("data", .object state.data)])

/-- Reads the stored form of a state; the counter must fit into 64 bits. -/
def decode (json : Json) : Except String State := do
  let .object fields := json | throw "state must be an object"
  let some (.string id) := Json.field? fields "id" | throw "id must be a string"
  let some counter := (Json.field? fields "counter").bind Json.int?
    | throw "counter must be an integer"
  unless isWord counter do throw "counter must be an integer"
  let data ← match Json.field? fields "data" with
    | none => pure []
    | some (.object data) => pure data
    | some _ => throw "data must be an object"
  return ⟨id, counter, data, none, false⟩

end State

end Sagas.Simulation
