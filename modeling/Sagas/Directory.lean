import Sagas.Saga.Registration
import Sagas.Telemetry

/-!
# The directory of saga types

Every registered saga type, in the order of registration, with two indexes: the position of
each saga type, and for each message type the positions of the sagas that react to it.
-/

namespace Sagas

variable {A : Application}

/-- The registered saga types. -/
structure Directory (A : Application) where
  registrations : List (Registration A)
  /-- The position of each saga type, by identity. -/
  bySaga : Table Nat Nat
  /-- The positions of the sagas that react to each message type, in ascending order. -/
  byMessage : Table MessageType (List Nat)

namespace Directory

/-- No saga types. -/
def empty : Directory A := ⟨[], [], []⟩

/-- The index with one more position under each of the message types. -/
def indexAt (position : Nat) (messages : List MessageType) (index : Table MessageType (List Nat)) :
    Table MessageType (List Nat) :=
  messages.foldl (fun index message =>
    Table.insert message ((Table.find? message index).getD [] ++ [position]) index) index

/-- The directory with one more registration. -/
def add (directory : Directory A) (registration : Registration A) : Directory A :=
  let position := directory.registrations.length
  { registrations := directory.registrations ++ [registration]
    bySaga := Table.insert registration.saga.type.id position directory.bySaga
    byMessage := indexAt position registration.capabilities.messageTypes directory.byMessage }

/-- The registration of a saga type. -/
def find? (directory : Directory A) (saga : SagaType) : Option (Registration A) :=
  (Table.find? saga.id directory.bySaga).bind fun position => directory.registrations[position]?

/-- Whether a saga type is registered. -/
def contains (directory : Directory A) (saga : SagaType) : Bool :=
  Table.contains saga.id directory.bySaga

/-- The registrations that react to a message type, in the order of registration. -/
def matching (directory : Directory A) (message : MessageType) : List (Registration A) :=
  ((Table.find? message directory.byMessage).getD []).filterMap fun position =>
    directory.registrations[position]?

/-- What each saga that reacts to a message type can do. -/
def resolve (directory : Directory A) (message : MessageType) : List Capabilities :=
  (directory.matching message).map (·.capabilities)

/-- Registers a saga type and answers what it can do. One that is there stays as it is, and
one that breaks a rule is not added. -/
def register (directory : Directory A) (saga : Saga A) :
    Directory A × Except SagaError Capabilities :=
  match directory.find? saga.type with
  | some registration => (directory, .ok registration.capabilities)
  | none => match Registration.build saga with
    | .ok registration => (directory.add registration, .ok registration.capabilities)
    | .error error => (directory, .error error)

/-- Registers the saga types of a module, up to the first one that is refused. The answer is
how many were accepted, and why one was not. -/
def registerModule (directory : Directory A) :
    List (Saga A) → Directory A × Nat × Option SagaError
  | [] => (directory, 0, none)
  | saga :: rest => match directory.register saga with
    | (directory, .error error) => (directory, 0, some error)
    | (directory, .ok _) =>
      let (directory, accepted, refusal) := directory.registerModule rest
      (directory, accepted + 1, refusal)

/-- The events that are logged while the saga types of a directory are registered. -/
def trace (directory : Directory A) : List TraceEvent :=
  directory.registrations.map fun registration => .registered registration.saga.type.name

/-- The inspected form. -/
def inspect (directory : Directory A) : String :=
  "[" ++ ", ".intercalate (directory.registrations.map (·.capabilities.inspect)) ++ "]"

end Directory

end Sagas
