import Sagas.Json

/-!
# Stages, statuses and kinds of transition

The three small vocabularies that describe how a saga instance lives: what a message does
to it, what is stored about it, and how a step may end.
-/

namespace Sagas

/-- The role that a message type plays for a saga type. -/
inductive Stage where
  /-- Creates a new instance. -/
  | start
  /-- Advances an existing instance. -/
  | step
  /-- Rolls back an existing instance. -/
  | compensate
  deriving DecidableEq, Repr

namespace Stage

/-- The stage as texts show it. -/
def text : Stage → String
  | start => "start"
  | step => "step"
  | compensate => "compensate"

/-- The stage as it is stored. -/
def name : Stage → String
  | start => "Start"
  | step => "Step"
  | compensate => "Compensate"

/-- Whether messages of this stage have to name the instance they belong to. -/
def requiresCorrelation : Stage → Bool
  | start => false
  | step | compensate => true

/-- The stage of a stored name. -/
def ofName? (name : String) : Option Stage :=
  [start, step, compensate].find? fun stage => stage.name == name

end Stage

/-- What is stored about the life of a saga instance. -/
inductive Status where
  /-- It accepts further messages. -/
  | active
  /-- It finished successfully. -/
  | completed
  /-- It gave up. -/
  | failed
  deriving DecidableEq, Repr, Inhabited

namespace Status

/-- The status as texts show it and as it is stored. -/
def name : Status → String
  | active => "Active"
  | completed => "Completed"
  | failed => "Failed"

/-- Whether the instance accepts no further messages. -/
def isTerminal : Status → Bool
  | active => false
  | completed | failed => true

/-- The status of a stored name. -/
def ofName? (name : String) : Option Status :=
  [active, completed, failed].find? fun status => status.name == name

end Status

/-- How a step may end. -/
inductive TransitionKind where
  /-- Keep the state; the saga stays active. -/
  | proceed
  /-- Keep the state; the saga has succeeded. -/
  | complete
  /-- Leave everything as it was and have the message delivered again. -/
  | retry
  /-- Keep the state and roll back; the saga stays active. -/
  | compensate
  /-- Keep the state; the saga has failed. -/
  | fail
  deriving DecidableEq, Repr

namespace TransitionKind

/-- The kind as texts show it. -/
def text : TransitionKind → String
  | proceed => "continue"
  | complete => "complete"
  | retry => "retry"
  | compensate => "compensate"
  | fail => "fail"

/-- Whether the saga ends. -/
def isTerminal : TransitionKind → Bool
  | complete | fail => true
  | proceed | retry | compensate => false

end TransitionKind

/-- The status in which a transition leaves its saga; a retry leaves it alone. -/
def Status.after : TransitionKind → Option Status
  | .proceed | .compensate => some active
  | .complete => some completed
  | .fail => some failed
  | .retry => none

/-- The name by which JSON refers to a constant: a text, or an object whose only field has
that name and the value `null`. -/
def Json.constant? : Json → Option String
  | .string name => some name
  | .object [(name, .null)] => some name
  | _ => none

/-- Reads a stored stage. -/
def Stage.ofJson? (json : Json) : Option Stage := json.constant?.bind ofName?

/-- Reads a stored status. -/
def Status.ofJson? (json : Json) : Option Status := json.constant?.bind ofName?

end Sagas
