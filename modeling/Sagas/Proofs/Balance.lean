import Mathlib.Algebra.BigOperators.Group.List.Basic
import Mathlib.Algebra.GroupWithZero.Nat
import Mathlib.Algebra.Ring.Int.Defs
import Sagas.Proofs.Compositional
import Sagas.Proofs.Runs
import Sagas.Proofs.Scripts

/-!
# Counters that balance

Steps are counted by a wrapper around the handler, transitions by the engine once the handler has
come back. Where that wrapper stands outermost and is the only one of its kind, what is counted when
a step begins is made up for by what is counted when it ends, however it ends and whatever its
programs send meanwhile.

* `Metric.Conserved`: a weight of metrics under which a whole step weighs nothing.
* `Shifts`: a computation that changes the weight of the counters by so much, with its rule for one
  computation after another.
* `Visit.execute_shifts`: the execution of a step changes nothing.
* `Orchestrator.weight_follow`: nor does a run.
* `Orchestrator.reconciled`: so steps, errors, transitions and durations agree for every saga type.
-/

namespace Sagas

variable {A : Application} {α β : Type}

/-! ## Weights -/

namespace Metric

/-- What some metrics weigh together. -/
def weight (weigh : Metric → Int) (metrics : List Metric) : Int := (metrics.map weigh).sum

variable {weigh : Metric → Int}

theorem weight_append (metrics metrics' : List Metric) :
    weight weigh (metrics ++ metrics') = weight weigh metrics + weight weigh metrics' := by
  unfold weight
  rw [List.map_append, List.sum_append]

theorem weight_singleton (metric : Metric) : weight weigh [metric] = weigh metric := by
  unfold weight
  rw [List.map_singleton, List.sum_singleton]

theorem weight_reverse (metrics : List Metric) :
    weight weigh metrics.reverse = weight weigh metrics := by
  unfold weight
  rw [List.map_reverse, List.sum_reverse]

/-- **A step weighs nothing**: what is counted at its beginning and what is counted at its end make
up for each other. -/
structure Conserved (weigh : Metric → Int) : Prop where
  /-- A step whose handler, or a wrapper in its place, answers a transition. -/
  settled : ∀ sagaType stage kind, weigh (.steps sagaType stage) +
    weigh (.stepDuration sagaType stage) + weigh (.transitions sagaType kind) = 0
  /-- A step that ends in an error. -/
  failed : ∀ sagaType stage, weigh (.steps sagaType stage) +
    weigh (.stepDuration sagaType stage) + weigh (.stepErrors sagaType stage) = 0
  /-- What is counted between the attempts at a step. -/
  conflicts : ∀ sagaType, weigh (.conflicts sagaType) = 0
  /-- What is counted at the beginning of a delivery. -/
  handled : weigh .messagesHandled = 0

end Metric

/-- Changes the weight of what was counted by so much. -/
def Shifts (weigh : Metric → Int) (amount : Int) (run : Run A α) : Prop :=
  ∀ w, Metric.weight weigh (run w).2.metrics = Metric.weight weigh w.metrics + amount

namespace Shifts

variable {weigh : Metric → Int} {amount amount' : Int}

theorem bind {x : Run A α} {f : α → Run A β} (hx : Shifts weigh amount x)
    (hf : ∀ a, Shifts weigh amount' (f a)) : Shifts weigh (amount + amount') (x >>= f) := by
  intro w
  rw [Run.bind_apply, hf, hx, Int.add_assoc]

theorem congr {run : Run A α} (h : Shifts weigh amount run) (heq : amount = amount') :
    Shifts weigh amount' run :=
  heq ▸ h

/-- A computation that counts nothing. -/
theorem quiet {run : Run A α} (h : ∀ w, (run w).2.metrics = w.metrics) : Shifts weigh 0 run := by
  intro w
  rw [h, Int.add_zero]

theorem count (weigh : Metric → Int) (metrics : List Metric) :
    Shifts (A := A) weigh (Metric.weight weigh metrics) (World.count metrics) := by
  intro w
  change Metric.weight weigh (metrics.reverse ++ w.metrics) = _
  rw [Metric.weight_append, Metric.weight_reverse, Int.add_comm]

/-- One computation after another, where neither changes the weight. -/
theorem stepwise (weigh : Metric → Int) : Stepwise (A := A) (Shifts weigh 0) where
  pure _ := .quiet fun _ => rfl
  bind hx hf := hx.bind hf
  read := .quiet fun _ => rfl
  record _ := .quiet fun _ => rfl
  onResources _ := .quiet fun _ => rfl
  beginAttempt := .quiet fun _ => rfl
  emit _ _ := .quiet fun _ => rfl

end Shifts

/-! ## The execution of a step -/

section

variable {weigh : Metric → Int} {send : Request A.Body → Run A Answer}
  (hsend : ∀ request, Shifts weigh 0 (send request))
include hsend

theorem nested_shifts (request : Request A.Body) : Shifts weigh 0 (World.nested (send request)) :=
  fun w => hsend request { w with depth := w.depth + 1 }

/-- A chain that counts no steps changes no more than the work in it. -/
theorem Chain.shifts {chain : Chain A} (hchain : .metrics ∉ chain) (step : StepInfo)
    {work : Work A} (hwork : ∀ state, Shifts weigh 0 (work.run state)) :
    ∀ state, Shifts weigh 0 ((chain.run send step work).run state) := by
  induction chain with
  | nil => exact hwork
  | cons wrapper rest ih =>
    rw [List.mem_cons, not_or] at hchain
    obtain ⟨hwrapper, hrest⟩ := hchain
    intro state
    change Shifts weigh 0 ((wrapper.wrap send step (Chain.run send step work rest)).run state)
    cases wrapper with
    | tracing => exact ((Shifts.stepwise weigh).over default).tracing (ih hrest) state
    | metrics => exact absurd rfl hwrapper
    | custom before =>
      exact ((Shifts.stepwise weigh).over default).custom (nested_shifts hsend) (ih hrest) before
        state

end

/-- The chain counts steps, outermost and only there. -/
def Orchestrator.CountsFirst (orchestrator : Orchestrator A) : Prop :=
  ∃ rest, orchestrator.chain = .metrics :: rest ∧ .metrics ∉ rest

namespace Visit

/-- What the engine does about what came back from the chain. -/
def concluded (visit : Visit A) (step : StepInfo) (left : HandlerResult A.Body × A.State) :
    Attempt A Settled := do
  Attempt.lift (World.record (.returned step left.2 left.1))
  let transition ← Attempt.ofExcept (left.1.mapError (.handler visit.sagaType))
  visit.settle step left.2 (transition.getD (.proceed none))

variable {weigh : Metric → Int} {visit : Visit A} {step : StepInfo} {state : A.State}

theorem execute_eq (visit : Visit A) (stage : Stage) (handler : Handler A) (runner : Instance)
    (key : Key) (state : A.State) : visit.execute stage handler runner key state = (do
      checkSignal visit.request.signal
      let left ← Attempt.lift ((visit.orchestrator.chain.run visit.send (visit.stepOf stage key)
        (visit.work (visit.stepOf stage key) runner handler)).run state)
      visit.concluded (visit.stepOf stage key) left) := rfl

theorem concluded_error (fault : Fault) :
    Shifts weigh 0 (visit.concluded step (.error fault, state)).run :=
  ((Shifts.stepwise weigh).over default).bindLift ((Shifts.stepwise weigh).record _) fun _ =>
    (Shifts.stepwise weigh).pure _

theorem concluded_ok (transition : Option (Transition A.Body)) :
    Shifts weigh (weigh (.transitions step.key.sagaType (kindOf transition)))
      (visit.concluded step (.ok transition, state)).run := by
  have hkind : (transition.getD (.proceed none)).kind = kindOf transition := by
    cases transition <;> rfl
  have hcount := Shifts.count (A := A) weigh
    [.transitions step.key.sagaType (transition.getD (.proceed none)).kind]
  have hact := fun _ : Unit =>
    ((Shifts.stepwise weigh).over visit.orchestrator.gateways).act step state
      (transition.getD (.proceed none))
  have hrecord : Shifts weigh 0 (World.record (A := A) (.returned step state (.ok transition))) :=
    (Shifts.stepwise weigh).record _
  refine (hrecord.bind fun _ => hcount.bind hact).congr ?_
  rw [Metric.weight_singleton, hkind, Int.zero_add, Int.add_zero]

variable (hweigh : Metric.Conserved weigh)
include hweigh

/-- What is counted at the end of a step makes up for what was counted at its beginning. -/
theorem ended_shifts (visit : Visit A) (step : StepInfo) (left : HandlerResult A.Body × A.State) :
    Shifts weigh (-weigh (.steps step.key.sagaType step.stage))
      (World.count (endMetrics step left.1) >>= fun _ => (visit.concluded step left).run) := by
  obtain ⟨result, state⟩ := left
  cases result with
  | ok transition =>
    refine ((Shifts.count weigh _).bind fun _ => concluded_ok transition).congr ?_
    have hsettled := hweigh.settled step.key.sagaType step.stage (kindOf transition)
    rw [endMetrics, Metric.weight_singleton]
    omega
  | error fault =>
    refine ((Shifts.count weigh _).bind fun _ => concluded_error fault).congr ?_
    have hfailed := hweigh.failed step.key.sagaType step.stage
    simp only [endMetrics, Metric.weight, List.map_cons, List.map_nil, List.sum_cons, List.sum_nil]
    omega

/-- **The execution of a step** changes nothing. -/
theorem execute_shifts (hcounts : visit.orchestrator.CountsFirst)
    (hsend : ∀ request, Shifts weigh 0 (visit.send request)) (stage : Stage) (handler : Handler A)
    (runner : Instance) (key : Key) (state : A.State) :
    Shifts weigh 0 (visit.execute stage handler runner key state).run := by
  obtain ⟨rest, hchain, hrest⟩ := hcounts
  have hstep := (Shifts.stepwise (A := A) weigh).over visit.orchestrator.gateways
  have hwork := hstep.work
    (fun context => hstep.program (nested_shifts hsend) (handler runner context))
    (visit.stepOf stage key)
  have hinner := Chain.shifts hsend hrest (visit.stepOf stage key) hwork state
  -- what stands before the rest of the chain, and what comes after it
  have hall := (Shifts.count (A := A) weigh [.steps key.sagaType stage]).bind fun _ =>
    hinner.bind fun left => ended_shifts hweigh visit (visit.stepOf stage key) left
  rw [execute_eq, hchain]
  refine hstep.bindCheck (hall.congr ?_)
  rw [Metric.weight_singleton, Int.zero_add]
  exact Int.add_right_neg _

/-- **The step of one saga** changes nothing. -/
theorem dispatch_shifts (hcounts : visit.orchestrator.CountsFirst)
    (hsend : ∀ request, Shifts weigh 0 (visit.send request)) :
    Shifts weigh 0 visit.dispatch.run := by
  have hstep := (Shifts.stepwise (A := A) weigh).over visit.orchestrator.gateways
  have hprogram : ∀ {γ : Type} (program : Program A γ), Shifts weigh 0 (program.run visit.send) :=
    fun program => hstep.program (nested_shifts hsend) program
  have hresolve : Shifts weigh 0 visit.resolve.run :=
    (Shifts.stepwise weigh).resolve (hprogram _)
  have hexecute := fun stage handler => execute_shifts hweigh hcounts hsend stage handler
  have hconflict : Shifts (A := A) weigh 0 (World.count [.conflicts visit.sagaType]) :=
    (Shifts.count weigh _).congr (by rw [Metric.weight_singleton, hweigh.conflicts])
  refine hstep.dispatch (fun handler _ => ?_) fun stage handler _ key reruns => ?_
  · exact hstep.create hresolve (fun _ => hprogram _) (hexecute .start handler)
  · refine hstep.attempts ?_ hconflict (fun _ => .quiet fun _ => rfl) reruns 0
    exact hstep.advanceOnce hresolve fun runner => hexecute stage handler runner key

end Visit

/-! ## Runs -/

namespace Orchestrator

variable {weigh : Metric → Int} (hweigh : Metric.Conserved weigh) {orchestrator : Orchestrator A}
  (hcounts : orchestrator.CountsFirst)
include hweigh hcounts

theorem handleWith_shifts {send : Request A.Body → Run A Answer}
    (hsend : ∀ request, Shifts weigh 0 (send request)) (request : Request A.Body) :
    Shifts weigh 0 (orchestrator.handleWith send request) := by
  have hhandled : Shifts (A := A) weigh 0 (World.count [.messagesHandled]) :=
    (Shifts.count weigh _).congr (by rw [Metric.weight_singleton, hweigh.handled])
  exact ((Shifts.stepwise weigh).over orchestrator.gateways).handleWith (.quiet fun _ => rfl)
    hhandled (Shifts.stepwise weigh).emit fun _ => Visit.dispatch_shifts hweigh hcounts hsend

/-- By induction on the nesting. -/
theorem below_shifts (nesting : Nat) (request : Request A.Body) :
    Shifts weigh 0 (orchestrator.below nesting request) := by
  induction nesting generalizing request with
  | zero => exact .quiet fun _ => rfl
  | succ nesting ih =>
    change Shifts weigh 0 (orchestrator.deliver nesting request)
    rw [deliver_eq]
    exact handleWith_shifts hweigh hcounts ih request

/-- One move changes nothing. -/
theorem weight_perform (move : Move A) (w : World A) :
    Metric.weight weigh (orchestrator.perform w move).metrics = Metric.weight weigh w.metrics := by
  cases move with
  | deliver nesting request =>
    have hdeliver := below_shifts hweigh hcounts (nesting + 1) request w
    rw [Int.add_zero] at hdeliver
    exact hdeliver
  | prepare | wait | failSaves | failPublishes => rfl

/-- **A run changes nothing**, by induction on its moves. -/
theorem weight_follow (moves : List (Move A)) (w : World A) :
    Metric.weight weigh (orchestrator.follow moves w).metrics = Metric.weight weigh w.metrics := by
  induction moves generalizing w with
  | nil => rfl
  | cons move moves ih => exact (ih _).trans (weight_perform hweigh hcounts move w)

end Orchestrator

/-! ## Totals -/

/-- All stages. -/
def Stage.all : List Stage := [.start, .step, .compensate]

/-- All kinds of transition. -/
def TransitionKind.all : List TransitionKind := [.proceed, .complete, .retry, .compensate, .fail]

namespace Metric

/-- The total of some counters. -/
def total (series metrics : List Metric) : Nat :=
  (series.map fun counter => metrics.count counter).sum

/-- The counters of the steps of a saga type, one for each stage. -/
def stepSeries (name : String) : List Metric := Stage.all.map (.steps name)

/-- The counters of the errors of a saga type, one for each stage. -/
def errorSeries (name : String) : List Metric := Stage.all.map (.stepErrors name)

/-- The measured durations of a saga type, one row of them for each stage. -/
def durationSeries (name : String) : List Metric := Stage.all.map (.stepDuration name)

/-- The counters of the transitions of a saga type, one for each kind. -/
def transitionSeries (name : String) : List Metric := TransitionKind.all.map (.transitions name)

theorem total_cons (series : List Metric) (metric : Metric) (metrics : List Metric) :
    total series (metric :: metrics) = total series metrics + series.count metric := by
  induction series with
  | nil => rfl
  | cons counter series ih =>
    unfold total at ih ⊢
    rw [List.map_cons, List.map_cons, List.sum_cons, List.sum_cons, ih, List.count_cons,
      List.count_cons]
    simp only [beq_iff_eq, eq_comm (a := counter)]
    omega

/-- What a metric adds to the steps of a saga type, less the errors and the transitions. -/
def stepBalance (name : String) (metric : Metric) : Int :=
  (stepSeries name).count metric - (errorSeries name).count metric -
    (transitionSeries name).count metric

/-- What a metric adds to the durations of a saga type, less the steps. -/
def durationBalance (name : String) (metric : Metric) : Int :=
  (durationSeries name).count metric - (stepSeries name).count metric

theorem weight_stepBalance (name : String) (metrics : List Metric) :
    weight (stepBalance name) metrics = total (stepSeries name) metrics -
      total (errorSeries name) metrics - total (transitionSeries name) metrics := by
  induction metrics with
  | nil => rfl
  | cons metric metrics ih =>
    unfold weight at ih ⊢
    rw [List.map_cons, List.sum_cons, ih, total_cons, total_cons, total_cons, stepBalance]
    omega

theorem weight_durationBalance (name : String) (metrics : List Metric) :
    weight (durationBalance name) metrics =
      total (durationSeries name) metrics - total (stepSeries name) metrics := by
  induction metrics with
  | nil => rfl
  | cons metric metrics ih =>
    unfold weight at ih ⊢
    rw [List.map_cons, List.sum_cons, ih, total_cons, total_cons, durationBalance]
    omega

theorem stepBalance_conserved (name : String) : Conserved (stepBalance name) where
  settled sagaType stage kind := by
    cases stage <;> cases kind <;> by_cases h : name = sagaType <;>
      simp [stepBalance, stepSeries, errorSeries, transitionSeries, Stage.all,
        TransitionKind.all, h]
  failed sagaType stage := by
    cases stage <;> by_cases h : name = sagaType <;>
      simp [stepBalance, stepSeries, errorSeries, transitionSeries, Stage.all,
        TransitionKind.all, h]
  conflicts _ := by
    simp [stepBalance, stepSeries, errorSeries, transitionSeries, Stage.all, TransitionKind.all]
  handled := by
    simp [stepBalance, stepSeries, errorSeries, transitionSeries, Stage.all, TransitionKind.all]

theorem durationBalance_conserved (name : String) : Conserved (durationBalance name) where
  settled sagaType stage _ := by
    cases stage <;> by_cases h : name = sagaType <;>
      simp [durationBalance, durationSeries, stepSeries, Stage.all, h]
  failed sagaType stage := by
    cases stage <;> by_cases h : name = sagaType <;>
      simp [durationBalance, durationSeries, stepSeries, Stage.all, h]
  conflicts _ := by simp [durationBalance, durationSeries, stepSeries, Stage.all]
  handled := by simp [durationBalance, durationSeries, stepSeries, Stage.all]

end Metric

/-- **The counters of a saga type agree with each other.** -/
structure World.Reconciled (w : World A) (name : String) : Prop where
  /-- The steps that ended in no error are those that came to a transition. -/
  steps : (Metric.total (Metric.stepSeries name) w.metrics : Int) -
    Metric.total (Metric.errorSeries name) w.metrics =
      Metric.total (Metric.transitionSeries name) w.metrics
  /-- The duration of every step was measured. -/
  durations : Metric.total (Metric.durationSeries name) w.metrics =
    Metric.total (Metric.stepSeries name) w.metrics

/-- **Steps reconcile with transitions**, in every run of an orchestrator whose chain counts steps,
outermost and only there, and for every name of a saga type. -/
theorem Orchestrator.reconciled {orchestrator : Orchestrator A}
    (hcounts : orchestrator.CountsFirst) (resources : Resources A) (moves : List (Move A))
    (name : String) :
    (orchestrator.follow moves (World.ofResources resources)).Reconciled name := by
  have hsteps := orchestrator.weight_follow (Metric.stepBalance_conserved name) hcounts moves
    (World.ofResources resources)
  have hdurations := orchestrator.weight_follow (Metric.durationBalance_conserved name) hcounts
    moves (World.ofResources resources)
  rw [Metric.weight_stepBalance] at hsteps
  rw [Metric.weight_durationBalance] at hdurations
  change _ = 0 at hsteps hdurations
  constructor <;> omega

open Simulation in
/-- Counters with one message that a wrapper turns away. -/
theorem Orchestrator.reconciled_counters :
    let turnsAway := WrapperSpec.scripted ⟨none, none, none, some "Close"⟩ (.block (.text "later"))
    let orchestrator : Orchestrator Scripted :=
      { counters with chain := [.metrics, .tracing, turnsAway.toWrapper] }
    let w := orchestrator.follow counterMoves (World.ofResources emptyBench)
    (orchestrator.CountsFirst ∧ Metric.total (Metric.stepSeries "Counter") w.metrics = 6 ∧
      Metric.total (Metric.errorSeries "Counter") w.metrics = 1) ∧ w.Reconciled "Counter" := by
  intro turnsAway orchestrator w
  have hcounts : orchestrator.CountsFirst := ⟨_, rfl, by simp [turnsAway, WrapperSpec.toWrapper]⟩
  refine ⟨⟨hcounts, ?_, ?_⟩, Orchestrator.reconciled hcounts emptyBench counterMoves "Counter"⟩
  · decide +kernel
  · decide +kernel

end Sagas
