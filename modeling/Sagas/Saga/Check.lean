import Sagas.Saga.Violation
import Sagas.Text.Blank

/-!
# Checking declarations

Every rule that the declarations of a saga type break, in a fixed order: the name, the
start message, each declaration against the first earlier one of its message type, missing
correlations, and the correlations in their order.
-/

namespace Sagas.Check

/-- A declaration without its handler. -/
abbrev Declared := MessageType × Stage

/-- What is wrong with one declaration after the `earlier` ones. -/
def againstEarlier (earlier : List Declared) (declared : Declared) : List Violation :=
  match earlier.find? fun other => other.1 == declared.1 with
  | none => []
  | some (_, stage) =>
    if stage = declared.2 then [.duplicateHandler declared.1 declared.2]
    else [.conflictingStages declared.1 stage declared.2]

/-- What is wrong with declarations that follow the `earlier` ones. -/
def repetitions (earlier : List Declared) : List Declared → List Violation
  | [] => []
  | declared :: rest =>
    againstEarlier earlier declared ++ repetitions (earlier ++ [declared]) rest

/-- The step and compensate messages that nobody correlates, each once. -/
def missing (declared : List Declared) (correlated : List MessageType) : List Violation :=
  (declared.filterMap fun (message, stage) =>
    if stage.requiresCorrelation ∧ message ∉ correlated then
      some (Violation.missingCorrelation message stage)
    else none).eraseDups

/-- Whether a message type is declared as step or compensate. -/
def isCorrelatable (declared : List Declared) (message : MessageType) : Bool :=
  declared.any fun (other, stage) => other == message && stage.requiresCorrelation

/-- What is wrong with correlations that follow the `earlier` ones. -/
def correlationFaults (declared : List Declared) (earlier : List MessageType) :
    List MessageType → List Violation
  | [] => []
  | message :: rest =>
    (if message ∈ earlier then [.duplicateCorrelation message]
      else if isCorrelatable declared message then []
      else [.orphanCorrelation message]) ++
    correlationFaults declared (earlier ++ [message]) rest

/-- Every rule that a saga type of this name breaks with these declarations and
correlations. -/
def violations (name : String) (declared : List Declared) (correlated : List MessageType) :
    List Violation :=
  (if Text.trim name.toList = [] then [.emptySagaType] else []) ++
  (if declared.any fun d => d.2 == .start then [] else [.noStartMessage]) ++
  repetitions [] declared ++ missing declared correlated ++
  correlationFaults declared [] correlated

end Sagas.Check
