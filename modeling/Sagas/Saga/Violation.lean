import Sagas.Lifecycle
import Sagas.Message

/-!
# Violations

The rules that the declarations of a saga type can break.
-/

namespace Sagas

/-- A structural problem of a saga type. -/
inductive Violation where
  | emptySagaType
  | noStartMessage
  /-- One message type is declared in two different stages. -/
  | conflictingStages (message : MessageType) (first second : Stage)
  | duplicateHandler (message : MessageType) (stage : Stage)
  /-- A step or compensate message does not say which instance it belongs to. -/
  | missingCorrelation (message : MessageType) (stage : Stage)
  | orphanCorrelation (message : MessageType)
  | duplicateCorrelation (message : MessageType)
  /-- The creation hook left the instance without an id. -/
  | emptySagaId
  deriving DecidableEq, Repr

/-- The sentence that describes a violation. -/
def Violation.text : Violation → String
  | emptySagaType => "saga type name is empty"
  | noStartMessage => "no start message declared"
  | conflictingStages m first second =>
    s!"message {m.shortName} is declared as both {first.text} and {second.text}"
  | duplicateHandler m stage => s!"message {m.shortName} is declared twice as {stage.text}"
  | missingCorrelation m stage => s!"{stage.text} message {m.shortName} has no correlation strategy"
  | orphanCorrelation m =>
    s!"correlation strategy for {m.shortName} has no step or compensate handler"
  | duplicateCorrelation m =>
    s!"correlation strategy for {m.shortName} is declared more than once"
  | emptySagaId => "creation hook left the saga id empty"

end Sagas
