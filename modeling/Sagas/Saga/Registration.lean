import Sagas.Saga.Check
import Sagas.Saga.Definition
import Sagas.Table
import Sagas.Text.Quoted

/-!
# Registrations

A saga type whose declarations break no rule, with the tables that a delivery looks things
up in: a handler for each message type, and a correlation for each step and compensate
message.
-/

namespace Sagas

variable {A : Application}

/-- What a saga type reacts to. -/
structure Capabilities where
  saga : SagaType
  /-- The message types that start the saga. -/
  starts : List MessageType
  /-- The message types that advance it. -/
  steps : List MessageType
  /-- The message types that roll it back. -/
  compensations : List MessageType
  deriving DecidableEq, Repr

namespace Capabilities

/-- The capabilities of a saga type with these declarations. -/
def ofDeclared (saga : SagaType) (declared : List Check.Declared) : Capabilities where
  saga
  starts := declared.filterMap fun (message, stage) => if stage = .start then some message else none
  steps := declared.filterMap fun (message, stage) => if stage = .step then some message else none
  compensations :=
    declared.filterMap fun (message, stage) => if stage = .compensate then some message else none

/-- The stage of a message type, if the saga reacts to it. -/
def stageOf? (capabilities : Capabilities) (message : MessageType) : Option Stage :=
  if message ∈ capabilities.starts then some .start
  else if message ∈ capabilities.steps then some .step
  else if message ∈ capabilities.compensations then some .compensate
  else none

/-- Whether the saga reacts to a message type. -/
def reactsTo (capabilities : Capabilities) (message : MessageType) : Bool :=
  (capabilities.stageOf? message).isSome

/-- Every message type that the saga reacts to, each once. -/
def messageTypes (capabilities : Capabilities) : List MessageType :=
  (capabilities.starts ++ capabilities.steps ++ capabilities.compensations).eraseDups

/-- The inspected form. -/
def inspect (capabilities : Capabilities) : String :=
  let list := fun messages : List MessageType =>
    "[" ++ ", ".intercalate (messages.map (·.inspect)) ++ "]"
  "RegistrationInfo \x7b saga: " ++ capabilities.saga.inspect ++
    ", starts: " ++ list capabilities.starts ++ ", steps: " ++ list capabilities.steps ++
    ", compensations: " ++ list capabilities.compensations ++ " \x7d"

end Capabilities

/-- A saga type that may be run. -/
structure Registration (A : Application) where
  saga : Saga A
  capabilities : Capabilities
  handlers : Table MessageType (Stage × Handler A)
  correlations : Table MessageType (A.Body → String)

namespace Registration

/-- The declarations of a saga type without their handlers. -/
def declared (saga : Saga A) : List Check.Declared :=
  saga.declarations.map fun declaration => (declaration.message, declaration.stage)

/-- The rules that a saga type breaks. -/
def violations (saga : Saga A) : List Violation :=
  Check.violations saga.type.name (declared saga) (saga.correlations.map (·.message))

/-- The handlers by message type; of two for one type the later one counts. -/
def handlerTable (saga : Saga A) : Table MessageType (Stage × Handler A) :=
  saga.declarations.foldl
    (fun table declaration =>
      Table.insert declaration.message (declaration.stage, declaration.handler) table) []

/-- The correlations by message type; of two for one type the later one counts. -/
def correlationTable (saga : Saga A) : Table MessageType (A.Body → String) :=
  saga.correlations.foldl
    (fun table correlation => Table.insert correlation.message correlation.sagaId table) []

/-- The registration of a saga type, or an error that lists every rule it breaks. -/
def build (saga : Saga A) : Except SagaError (Registration A) :=
  if violations saga = [] then
    .ok {
      saga
      capabilities := .ofDeclared saga.type (declared saga)
      handlers := handlerTable saga
      correlations := correlationTable saga }
  else .error (.configuration saga.type.name (violations saga))

/-- The handler of a message type, with its stage. -/
def handler? (registration : Registration A) (message : MessageType) :
    Option (Stage × Handler A) :=
  Table.find? message registration.handlers

/-- The id of the saga instance that a step or compensate message belongs to. -/
def correlate (registration : Registration A) (message : Message A.Body) :
    Except SagaError String :=
  match Table.find? message.type registration.correlations with
  | some sagaId => .ok (sagaId message.body)
  | none =>
    .error (.configuration registration.saga.type.name
      [.missingCorrelation message.type
        ((registration.capabilities.stageOf? message.type).getD .step)])

end Registration

end Sagas
