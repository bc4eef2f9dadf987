import Sagas.Config
import Sagas.Report
import Sagas.Transition

/-!
# Counters and events

What the engine and its observers count, and the events that they log. A counter is the
number of times that its metric was recorded.
-/

namespace Sagas

/-- Something that is counted, with its labels. -/
inductive Metric where
  | messagesHandled
  | steps (sagaType : String) (stage : Stage)
  | stepErrors (sagaType : String) (stage : Stage)
  /-- One measured duration of a step. -/
  | stepDuration (sagaType : String) (stage : Stage)
  | transitions (sagaType : String) (kind : TransitionKind)
  | conflicts (sagaType : String)
  deriving DecidableEq, Repr

namespace Metric

/-- The name of a metric. -/
def name : Metric → String
  | messagesHandled => "saga_messages_handled_total"
  | steps .. => "saga_steps_total"
  | stepErrors .. => "saga_step_errors_total"
  | stepDuration .. => "saga_step_duration_seconds"
  | transitions .. => "saga_transitions_total"
  | conflicts _ => "saga_concurrency_conflicts_total"

/-- The labels of a metric, in the order of their names. -/
def labels : Metric → List (String × String)
  | messagesHandled => []
  | steps sagaType stage | stepErrors sagaType stage | stepDuration sagaType stage =>
    [("saga_type", sagaType), ("stage", stage.text)]
  | transitions sagaType kind => [("saga_type", sagaType), ("transition", kind.text)]
  | conflicts sagaType => [("saga_type", sagaType)]

/-- The name of a metric with its labels in braces. -/
def series (metric : Metric) : String :=
  metric.name ++ "\x7b" ++
    ",".intercalate (metric.labels.map fun (label, value) => label ++ "=" ++ value) ++ "\x7d"

end Metric

/-- An event of the log. -/
inductive TraceEvent where
  | registered (sagaType : String)
  /-- A saga was asked for by name but does not react to the message. -/
  | skipped (sagaType : String) (message : MessageType)
  /-- No saga reacted to the message. -/
  | irrelevant
  | created (key : Key)
  /-- A save was refused as stale and the step is run again. -/
  | reloading (key : Key) (attempt : Nat)
  | stepStarted (key : Key) (message : MessageType) (stage : Stage)
  | stepFinished (key : Key) (stage : Stage) (kind : TransitionKind)
  | stepFailed (key : Key) (stage : Stage) (error : Fault)
  | redelivery (key : Key) (delay : Option Duration)
  | failed (key : Key) (error : Option Fault)
  | compensating (key : Key) (error : Fault)
  | completed (key : Key)
  /-- Another saga than the reported one failed on the same message. -/
  | furtherFailure (key : Key) (error : Fault)
  deriving DecidableEq, Repr

namespace TraceEvent

/-- The severity of an event. -/
def level : TraceEvent → String
  | registered _ | skipped .. | irrelevant | stepStarted .. => "debug"
  | created _ | stepFinished .. | redelivery .. | completed _ => "info"
  | reloading .. | stepFailed .. | failed .. | compensating .. | furtherFailure .. => "warn"

/-- The sentence of an event. -/
def message : TraceEvent → String
  | registered _ => "saga registered"
  | skipped .. => "no handler registered, skipping saga"
  | irrelevant => "message is not saga-relevant"
  | created _ => "saga created"
  | reloading .. => "stale saga state, reloading"
  | stepStarted .. => "saga step started"
  | stepFinished .. => "saga step finished"
  | stepFailed .. => "saga step failed"
  | redelivery .. => "saga step asked for redelivery"
  | failed .. => "saga failed"
  | compensating .. => "saga compensating"
  | completed _ => "saga completed"
  | furtherFailure .. => "further saga failed on the same message"

/-- The fields that name a saga instance. -/
private def keyFields (key : Key) : List (String × Json) :=
  [("saga_type", .string key.sagaType), ("saga_id", .string key.sagaId)]

/-- The fields of an event. -/
def fields : TraceEvent → List (String × Json)
  | registered sagaType => [("saga_type", .string sagaType)]
  | skipped sagaType message =>
    [("saga_type", .string sagaType), ("message_type", .string message.shortName)]
  | irrelevant => []
  | created key | completed key => keyFields key
  | reloading key attempt => keyFields key ++ [("attempt", .int attempt)]
  | stepStarted key message stage =>
    keyFields key ++ [("message_type", .string message.shortName), ("stage", .string stage.text)]
  | stepFinished key stage kind =>
    keyFields key ++ [("stage", .string stage.text), ("transition", .string kind.text)]
  | stepFailed key stage error =>
    keyFields key ++ [("stage", .string stage.text), ("error", .string error.message)]
  | redelivery key delay => keyFields key ++ [("delay", .string (Duration.inspectOption delay))]
  | failed key error => keyFields key ++ [("error", .string (Fault.inspectOption error))]
  | compensating key error | furtherFailure key error =>
    keyFields key ++ [("error", .string error.message)]

end TraceEvent

/-- The one receiver of log events in a process, with the filter it was set up with. -/
structure Subscriber where
  filter : String
  deriving DecidableEq, Repr

/-- Installs a subscriber for a configuration and answers whether it did: one that is
installed stays. -/
def Subscriber.install (config : Config) : Option Subscriber → Subscriber × Bool
  | some installed => (installed, false)
  | none => (⟨config.logLevel⟩, true)

end Sagas
