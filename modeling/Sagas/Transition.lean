import Sagas.Report

/-!
# Transitions

What a handler may answer: nothing, which keeps the saga going, or a transition that says
how the step ends and what message it sends out.
-/

namespace Sagas

variable {β : Type}

/-- A message that a step sends out, with the saga it comes from and the ids of the
envelope that triggered the step. -/
structure Outgoing (β : Type) where
  message : Message β
  key : Key
  correlation : Option String
  causation : Option String

/-- How a step ends. Each kind carries exactly what it allows. -/
inductive Transition (β : Type) where
  | proceed (outgoing : Option (Outgoing β))
  | complete (outgoing : Option (Outgoing β))
  /-- Without a delay the message is delivered again at once. -/
  | retry (delay : Option Duration) (error : Option Fault)
  /-- Without an error the saga rolls back of its own accord. -/
  | compensate (outgoing : Option (Outgoing β)) (error : Option Fault)
  | fail (outgoing : Option (Outgoing β)) (error : Fault)

namespace Transition

/-- The kind of a transition. -/
def kind : Transition β → TransitionKind
  | .proceed _ => .proceed
  | complete _ => .complete
  | retry .. => .retry
  | compensate .. => .compensate
  | fail .. => .fail

/-- The message that a transition sends out. -/
def outgoing? : Transition β → Option (Outgoing β)
  | .proceed outgoing | complete outgoing | compensate outgoing _ | fail outgoing _ => outgoing
  | retry .. => none

/-- The delay after which a retry wants its message again. -/
def delay? : Transition β → Option Duration
  | retry delay _ => delay
  | _ => none

/-- The error that a transition carries. -/
def error? : Transition β → Option Fault
  | retry _ error | compensate _ error => error
  | fail _ error => some error
  | .proceed _ | complete _ => none

/-- The error of a saga that fails. -/
def failure? : Transition β → Option Fault
  | fail _ error => some error
  | _ => none

end Transition

/-- What a handler, or a wrapper around it, answers. No transition keeps the saga going. -/
abbrev HandlerResult (β : Type) := Except Fault (Option (Transition β))

/-- The kind of transition that a successful answer stands for. -/
def kindOf (transition : Option (Transition β)) : TransitionKind :=
  (transition.map Transition.kind).getD .proceed

end Sagas
