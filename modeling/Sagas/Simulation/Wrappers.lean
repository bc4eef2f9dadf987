import Sagas.Engine.Chain
import Sagas.Simulation.Script

/-!
# Scripted wrappers

Wrappers that a scenario puts around every handler: the two observers, and wrappers that
note, block, replace or cancel. A scripted wrapper may be limited to some steps; around
others it does nothing.
-/

namespace Sagas.Simulation

/-- The steps that a wrapper is limited to; a limit that is not given admits every step. -/
structure StepFilter where
  sagaType : Option String
  sagaId : Option String
  /-- The stage as texts show it. -/
  stage : Option String
  /-- The short name of the message type. -/
  message : Option String
  deriving DecidableEq, Repr

/-- Whether a step is one of those that a wrapper is limited to. -/
def StepFilter.admits (filter : StepFilter) (step : StepInfo) : Bool :=
  filter.sagaType.all (· == step.key.sagaType) && filter.sagaId.all (· == step.key.sagaId) &&
    filter.stage.all (· == step.stage.text) && filter.message.all (· == step.message.shortName)

/-- What a scripted wrapper does around a handler. -/
inductive Behaviour where
  /-- Notes the step and its result. -/
  | record (name : String)
  /-- Answers an error without running the rest. -/
  | block (error : Fault)
  /-- Answers nothing without running the rest. -/
  | skip
  /-- Takes every error for nothing. -/
  | swallow
  /-- Takes every success for nothing. -/
  | drop
  /-- Puts a text in front of every error. -/
  | wrap (text : String)
  /-- Runs the rest and answers an error. -/
  | failAfter (error : Fault)
  /-- Cancels the signal of the innermost send before it runs the rest. -/
  | cancelBefore
  /-- Cancels the signal of the innermost send after it ran the rest. -/
  | cancelAfter
  deriving DecidableEq, Repr

/-- Runs the rest of the chain and changes its result. -/
def changing (change : HandlerResult Body → HandlerResult Body) : Around Scripted :=
  .enclose fun result => return change result

/-- What a behaviour does at one step. -/
def Behaviour.run (step : StepInfo) : Behaviour → Program Scripted (Around Scripted)
  | record name => do
    Program.log (.before name step)
    return .enclose fun result => do
      Program.log (.after name result)
      return result
  | block error => return .halt (.error error)
  | skip => return .halt (.ok none)
  | swallow => return changing fun result => match result with
    | .error _ => .ok none
    | .ok transition => .ok transition
  | drop => return changing fun result => match result with
    | .error fault => .error fault
    | .ok _ => .ok none
  | wrap text => return changing fun result => match result with
    | .error fault => .error (.text (text ++ fault.message))
    | .ok transition => .ok transition
  | failAfter error => return changing fun _ => .error error
  | cancelBefore => do
    cancelInnermost
    return changing id
  | cancelAfter => return .enclose fun result => do
    cancelInnermost
    return result

/-- A wrapper of a scenario. -/
inductive WrapperSpec where
  | tracing
  | metrics
  | scripted (filter : StepFilter) (behaviour : Behaviour)
  deriving DecidableEq, Repr

/-- The wrapper of a description. -/
def WrapperSpec.toWrapper : WrapperSpec → Wrapper Scripted
  | tracing => .tracing
  | metrics => .metrics
  | scripted filter behaviour => .custom fun step =>
    if filter.admits step then behaviour.run step else return changing id

/-- A step without a saga: its handler notes that it ran, and answers an error or nothing. -/
def bareWork (error : Option Fault) : Work Scripted := do
  Work.lift (World.record (.noted .bareHandler))
  return match error with
    | some fault => .error fault
    | none => .ok none

end Sagas.Simulation
