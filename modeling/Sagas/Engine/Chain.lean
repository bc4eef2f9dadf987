import Sagas.Engine.World

/-!
# Chains of wrappers

A handler runs inside a chain of wrappers, the first one outermost. Two kinds of wrapper
only observe: one logs every step, one counts it. The others are programs of the
application: each runs something first, then either answers itself or has the rest of the
chain run and may change its answer. So the handler runs at most once.

* `Chain.run_append`: a chain of two parts is the first part around the second.
-/

namespace Sagas

variable {A : Application}

/-- What a wrapper does once its first part has run. -/
inductive Around (A : Application) where
  /-- Answers without running the rest of the chain. -/
  | halt (result : HandlerResult A.Body)
  /-- Runs the rest of the chain, and then a program on its answer. -/
  | enclose (after : HandlerResult A.Body → Program A (HandlerResult A.Body))

/-- A wrapper around the handlers of steps. -/
inductive Wrapper (A : Application) where
  /-- Logs the start and the end of every step. -/
  | tracing
  /-- Counts every step and every error, and measures durations. -/
  | metrics
  | custom (before : StepInfo → Program A (Around A))

/-- The wrappers around every handler, the outermost first. -/
abbrev Chain (A : Application) := List (Wrapper A)

/-- A handler at work: it answers, and changes the state of its saga on the way. -/
abbrev Work (A : Application) := StateT A.State (Run A) (HandlerResult A.Body)

/-- A computation that leaves the state of the saga alone. -/
def Work.lift {α : Type} (run : Run A α) : StateT A.State (Run A) α := StateT.lift run

/-- The event of a step that came to an end. -/
def endEvent (step : StepInfo) : HandlerResult A.Body → TraceEvent
  | .ok transition => .stepFinished step.key step.stage (kindOf transition)
  | .error fault => .stepFailed step.key step.stage fault

/-- What is counted at the end of a step. -/
def endMetrics (step : StepInfo) : HandlerResult A.Body → List Metric
  | .ok _ => [.stepDuration step.key.sagaType step.stage]
  | .error _ =>
    [.stepDuration step.key.sagaType step.stage, .stepErrors step.key.sagaType step.stage]

/-- The work of a step inside one wrapper. -/
def Wrapper.wrap (send : Request A.Body → Run A Answer) (step : StepInfo) (work : Work A) :
    Wrapper A → Work A
  | tracing => do
    Work.lift (World.emit [.stepStarted step.key step.message step.stage])
    let result ← work
    Work.lift (World.emit [endEvent step result])
    return result
  | metrics => do
    Work.lift (World.count [.steps step.key.sagaType step.stage])
    let result ← work
    Work.lift (World.count (endMetrics step result))
    return result
  | custom before => do
    match ← Work.lift ((before step).run send) with
    | .halt result => return result
    | .enclose after =>
      let result ← work
      Work.lift ((after result).run send)

namespace Chain

/-- The work of a step inside a chain. -/
def run (send : Request A.Body → Run A Answer) (step : StepInfo) (work : Work A)
    (chain : Chain A) : Work A :=
  chain.foldr (fun wrapper inner => wrapper.wrap send step inner) work

/-- The inspected form. -/
def inspect (chain : Chain A) : String :=
  "Pipeline \x7b middlewares: " ++ toString chain.length ++ " \x7d"

theorem run_append (send : Request A.Body → Run A Answer) (step : StepInfo) (work : Work A)
    (outer inner : Chain A) :
    run send step work (outer ++ inner) = run send step (run send step work inner) outer :=
  List.foldr_append

end Chain

end Sagas
