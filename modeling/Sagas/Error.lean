import Sagas.Fault
import Sagas.Json.Error
import Sagas.Record
import Sagas.Saga.Violation

/-!
# Errors

What can go wrong in a store, and what can go wrong while sagas are registered or messages
are delivered. Each error is a cause; its wording is in `message`.
-/

namespace Sagas

/-- Errors of a store. -/
inductive StoreError where
  /-- The stored version is not the one that the save expected. -/
  | conflict (key : Key) (expected actual : Option Token)
  /-- The storage itself failed. -/
  | backend (source : Fault)
  deriving DecidableEq, Repr

/-- The sentence that describes an error of a store. -/
def StoreError.message : StoreError → String
  | conflict key expected actual =>
    s!"Stale state for saga {key.sagaType}/{key.sagaId}: " ++
      s!"expected token {Text.quoteOption expected}, found {Text.quoteOption actual}"
  | backend source => s!"Repository backend error: {source.message}"

/-- Errors of registration and delivery. -/
inductive SagaError where
  /-- A saga type breaks the rules; every violation is listed. -/
  | configuration (sagaType : String) (violations : List Violation)
  /-- The message belongs to an instance that was never started. -/
  | notFound (key : Key)
  /-- The record changed between load and save. -/
  | conflict (key : Key)
  /-- The message belongs to an instance that has ended. -/
  | terminated (key : Key) (status : Status)
  /-- The saga returned a fail transition. -/
  | failed (key : Key) (source : Fault)
  /-- A handler, a creation hook or a wrapper returned an error. -/
  | handler (sagaType : String) (source : Fault)
  /-- No instance could be provided. -/
  | resolution (sagaType : String) (source : Fault)
  /-- The outgoing message could not be published; the state is saved. -/
  | publish (key : Key) (source : Fault)
  /-- The message was meant for a saga type that is not registered. -/
  | notRegistered (sagaType : String)
  /-- The store failed for another reason than a conflict. -/
  | repository (source : Fault)
  /-- A state could not be read or written as JSON. -/
  | serialization (error : Json.Error)
  /-- The caller cancelled before the state was saved. -/
  | cancelled
  deriving DecidableEq, Repr

namespace SagaError

/-- The sentence that describes an error. -/
def message : SagaError → String
  | configuration sagaType violations =>
    s!"Invalid saga configuration for {sagaType}: " ++ "; ".intercalate (violations.map (·.text))
  | notFound key => s!"Saga not found: {key.sagaType}/{key.sagaId}"
  | conflict key => s!"Concurrency conflict for saga {key.sagaType}/{key.sagaId}"
  | terminated key status =>
    s!"Saga {key.sagaType}/{key.sagaId} is {status.name} and accepts no further messages"
  | failed key source => s!"Saga {key.sagaType}/{key.sagaId} failed: {source.message}"
  | handler sagaType source => s!"Handler error in saga {sagaType}: {source.message}"
  | resolution sagaType source => s!"Could not resolve saga {sagaType}: {source.message}"
  | publish key source =>
    s!"Failed to publish message from saga {key.sagaType}/{key.sagaId}: {source.message}"
  | notRegistered sagaType => s!"Saga {sagaType} is not registered"
  | repository source => s!"Repository error: {source.message}"
  | serialization error => s!"Serialization error: {error.message}"
  | cancelled => "Operation cancelled"

/-- Whether delivering the whole message again may succeed. -/
def isRetryable : SagaError → Bool
  | conflict _ => true
  | _ => false

/-- The name of the saga type that the error belongs to, if it is tied to one. -/
def sagaType? : SagaError → Option String
  | configuration sagaType _ | handler sagaType _ | resolution sagaType _
  | notRegistered sagaType => some sagaType
  | notFound key | conflict key | terminated key _ | failed key _ | publish key _ =>
    some key.sagaType
  | repository _ | serialization _ | cancelled => none

/-- The violations of a configuration error. -/
def violations : SagaError → List Violation
  | configuration _ violations => violations
  | _ => []

/-- The fault that an error wraps, if it wraps one. -/
def source? : SagaError → Option Fault
  | failed _ source | handler _ source | resolution _ source | publish _ source
  | repository source => some source
  | serialization error => some (.text error.message)
  | configuration .. | notFound _ | conflict _ | terminated .. | notRegistered _ | cancelled => none

/-- What an error of the store means for a delivery. -/
def ofStore : StoreError → SagaError
  | .conflict key _ _ => conflict key
  | .backend source => repository source

end SagaError

end Sagas
