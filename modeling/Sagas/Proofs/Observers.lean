import Sagas.Proofs.Mirrors
import Sagas.Proofs.Scripts

/-!
# Observers change nothing

The wrappers that log and count only watch. A chain with any number of them put in, anywhere, does
what the chain does without them: counters and log are never read.

* `Chain.Observed`: a chain and the same chain with observers put in.
* `Chain.Observed.agree`: both do the same around works that do the same.
* `Orchestrator.Mirrors.follow`: orchestrators whose deliveries do the same do the same along runs.
* `observers_transparent`: so observers do not change any answer of a run, what is kept or
  published, or which handlers and wrappers run.
-/

namespace Sagas

variable {A : Application} {P : List Metric → List Metric → Prop}

/-! ## Chains with observers put in -/

/-- The second chain is the first one, with observers put in. -/
inductive Chain.Observed : Chain A → Chain A → Prop where
  | nil : Observed [] []
  | keep (wrapper : Wrapper A) {chain chain'} : Observed chain chain' →
      Observed (wrapper :: chain) (wrapper :: chain')
  | tracing {chain chain'} : Observed chain chain' → Observed chain (.tracing :: chain')
  | metrics {chain chain'} : Observed chain chain' → Observed chain (.metrics :: chain')

/-- An effect that a world without observers does not miss. -/
def Quiet (P : List Metric → List Metric → Prop) (run : Run A Unit) : Prop :=
  ∀ w w', World.Alike P w w' → World.Alike P w (run w').2

theorem Quiet.emit (events : List TraceEvent) : Quiet (A := A) P (World.emit events) := by
  rintro w _ ⟨metrics, trace, rfl, h⟩
  exact ⟨metrics, events.reverse ++ trace, rfl, h⟩

theorem Quiet.count (hP : ∀ metrics metrics' new, P metrics metrics' → P metrics (new ++ metrics'))
    (metrics : List Metric) : Quiet (A := A) P (World.count metrics) := by
  rintro w _ ⟨others, trace, rfl, h⟩
  exact ⟨metrics.reverse ++ others, trace, rfl, hP _ _ _ h⟩

/-- An observer around the second of two computations that do the same. -/
theorem Agree.observe {α : Type} {run run' : Run A α} (h : Agree P run run') {start : Run A Unit}
    {stop : α → Run A Unit} (hstart : Quiet P start) (hstop : ∀ a, Quiet P (stop a)) :
    Agree P run (do start; let a ← run'; stop a; return a) := by
  intro w w' halike
  obtain ⟨hresult, hafter⟩ := h w _ (hstart w w' halike)
  exact ⟨hresult, hstop _ _ _ hafter⟩

/-- **A chain with observers put in** does the same around works that do the same. -/
theorem Chain.Observed.agree {chain chain' : Chain A} (h : chain.Observed chain')
    (hcounts : Counts P)
    (hmore : ∀ metrics metrics' new, P metrics metrics' → P metrics (new ++ metrics'))
    {send send' : Request A.Body → Run A Answer}
    (hsend : ∀ request, Agree P (send request) (send' request)) (step : StepInfo)
    {work work' : Work A} (hwork : WorksAlike P work work') :
    WorksAlike P (chain.run send step work) (chain'.run send' step work') := by
  induction h with
  | nil => exact hwork
  | keep wrapper _ ih => exact wrapper.agree hcounts hsend step ih
  | @tracing chain chain' _ ih =>
    intro state
    change Agree P _ ((Wrapper.tracing.wrap send' step (chain'.run send' step work')).run state)
    rw [Wrapper.tracing_run]
    exact (ih state).observe (.emit _) fun p => .emit [endEvent step p.1]
  | @metrics chain chain' _ ih =>
    intro state
    change Agree P _ ((Wrapper.metrics.wrap send' step (chain'.run send' step work')).run state)
    rw [Wrapper.metrics_run]
    exact (ih state).observe (.count hmore _) fun p => .count hmore (endMetrics step p.1)

/-! ## Wrappers that note when they run -/

/-- The same wrapper, noting when it is entered and when it is left. -/
def Wrapper.marked (enter leave : StepInfo → A.Note) : Wrapper A → Wrapper A
  | .custom before => .custom fun step => do
    Program.log (enter step)
    match ← before step with
    | .halt result =>
      Program.log (leave step)
      return .halt result
    | .enclose after =>
      return .enclose fun result => do
        let answer ← after result
        Program.log (leave step)
        return answer
  | .tracing => .tracing
  | .metrics => .metrics

/-- The same chain, in which every wrapper but the observers notes when it runs. Wrappers go by
their number among those. -/
def Chain.marked (enter leave : Nat → StepInfo → A.Note) : (number : Nat) → Chain A → Chain A
  | _, [] => []
  | number, .custom before :: rest =>
    (Wrapper.custom before).marked (enter number) (leave number) ::
      Chain.marked enter leave (number + 1) rest
  | number, .tracing :: rest => .tracing :: Chain.marked enter leave number rest
  | number, .metrics :: rest => .metrics :: Chain.marked enter leave number rest

theorem Chain.Observed.marked {chain chain' : Chain A} (h : chain.Observed chain')
    (enter leave : Nat → StepInfo → A.Note) (number : Nat) :
    Chain.Observed (chain.marked enter leave number) (chain'.marked enter leave number) := by
  induction h generalizing number with
  | nil => exact .nil
  | keep wrapper _ ih =>
    cases wrapper with
    | tracing => exact .keep .tracing (ih number)
    | metrics => exact .keep .metrics (ih number)
    | custom before => exact .keep _ (ih (number + 1))
  | tracing _ ih => exact .tracing (ih number)
  | metrics _ ih => exact .metrics (ih number)

/-! ## Runs -/

namespace Orchestrator

/-- What is answered during one move. -/
def heard (orchestrator : Orchestrator A) (w : World A) : Move A → List Answer
  | .deliver nesting request => [(orchestrator.deliver nesting request w).1]
  | .prepare _ | .wait _ | .failSaves _ | .failPublishes _ => []

/-- The answers to the messages of a run, in their order. -/
def answered (orchestrator : Orchestrator A) : List (Move A) → World A → List Answer
  | [], _ => []
  | move :: moves, w =>
    orchestrator.heard w move ++ orchestrator.answered moves (orchestrator.perform w move)

variable {orchestrator : Orchestrator A} {gateways : Gateways A} {chain : Chain A}

namespace Mirrors

variable (h : orchestrator.Mirrors P gateways chain)
include h

theorem perform (move : Move A) {w w' : World A} (halike : World.Alike P w w') :
    (orchestrator.mirror gateways chain).heard w' move = orchestrator.heard w move ∧
      World.Alike P (orchestrator.perform w move)
        ((orchestrator.mirror gateways chain).perform w' move) := by
  cases move with
  | deliver nesting request =>
    obtain ⟨hanswer, hafter⟩ := h.deliver nesting request w w' halike
    exact ⟨congrArg (fun answer => [answer]) hanswer, hafter⟩
  | prepare change | wait now | failSaves failing | failPublishes failing =>
    -- what happens between deliveries does not touch counters and log
    obtain ⟨metrics, trace, rfl, hP⟩ := halike
    exact ⟨rfl, metrics, trace, rfl, hP⟩

/-- **Their runs do the same**, by induction on the moves. -/
theorem follow (moves : List (Move A)) {w w' : World A} (halike : World.Alike P w w') :
    (orchestrator.mirror gateways chain).answered moves w' = orchestrator.answered moves w ∧
      World.Alike P (orchestrator.follow moves w)
        ((orchestrator.mirror gateways chain).follow moves w') := by
  induction moves generalizing w w' with
  | nil => exact ⟨rfl, halike⟩
  | cons move moves ih =>
    obtain ⟨hheard, hafter⟩ := h.perform move halike
    obtain ⟨hanswered, hend⟩ := ih hafter
    refine ⟨?_, hend⟩
    unfold answered
    rw [hheard, hanswered]

end Mirrors

theorem mirrors_observed (h : orchestrator.chain.Observed chain) :
    orchestrator.Mirrors List.Sublist orchestrator.gateways chain where
  counts := fun _ _ new hsub => hsub.append_left new
  chain := fun hsend step _ _ hwork => h.agree (fun _ _ new hsub => hsub.append_left new)
    (fun _ _ new hsub => hsub.trans (List.sublist_append_right new _)) hsend step hwork
  gateways := .refl _

end Orchestrator

/-- **Observers are transparent.** Observers put into the chain change no answer of a run and no
part of the world but counters and log, where they only add. Nor do they change which handlers and
which other wrappers run, and in which order: the journals agree, also when every other wrapper
notes when it is entered and left. -/
theorem observers_transparent (orchestrator : Orchestrator A) {chain : Chain A}
    (h : orchestrator.chain.Observed chain) (moves : List (Move A)) (w : World A) :
    let observed : Orchestrator A := { orchestrator with chain }
    observed.answered moves w = orchestrator.answered moves w ∧
      World.Alike List.Sublist (orchestrator.follow moves w) (observed.follow moves w) ∧
      ∀ enter leave : Nat → StepInfo → A.Note,
        ({ orchestrator with chain := chain.marked enter leave 0 }.follow moves w).journal =
          ({ orchestrator with
              chain := orchestrator.chain.marked enter leave 0 }.follow moves w).journal := by
  intro observed
  have halike : World.Alike List.Sublist w w := ⟨_, _, rfl, List.Sublist.refl _⟩
  obtain ⟨hanswered, hafter⟩ := (Orchestrator.mirrors_observed h).follow moves halike
  refine ⟨hanswered, hafter, fun enter leave => ?_⟩
  -- the chains that note what runs are related as the chains are
  let marked : Orchestrator A :=
    { orchestrator with chain := orchestrator.chain.marked enter leave 0 }
  have hmarked : marked.chain.Observed (chain.marked enter leave 0) := h.marked enter leave 0
  obtain ⟨-, metrics, trace, hworld, -⟩ :=
    (Orchestrator.mirrors_observed hmarked).follow moves halike
  have hjournal := congrArg World.journal hworld
  exact hjournal

open Simulation in
/-- Counters behind a wrapper that rewrites faults, with observers before and after it. -/
theorem observers_transparent_counters :
    let wrapper := (WrapperSpec.scripted ⟨none, none, none, none⟩ (.wrap "late: ")).toWrapper
    let orchestrator := { counters with chain := [wrapper] }
    let observed := { counters with chain := [.metrics, .tracing, wrapper, .metrics] }
    let w := World.ofResources emptyBench
    orchestrator.chain.Observed observed.chain ∧
      observed.answered counterMoves w = orchestrator.answered counterMoves w ∧
      World.Alike List.Sublist (orchestrator.follow counterMoves w)
        (observed.follow counterMoves w) := by
  intro wrapper orchestrator observed w
  have h : orchestrator.chain.Observed observed.chain :=
    .metrics (.tracing (.keep wrapper (.metrics .nil)))
  obtain ⟨hanswered, hafter, -⟩ := observers_transparent orchestrator h counterMoves w
  exact ⟨h, hanswered, hafter⟩

end Sagas
