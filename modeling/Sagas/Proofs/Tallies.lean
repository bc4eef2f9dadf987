import Sagas.Proofs.Compositional
import Sagas.Proofs.Trials

/-!
# What a step counts itself

Counters and log are shared by all the deliveries of a run. To tell what a step counts itself, it
is run with nested messages muted: they are answered as before, but leave counters and log as they
were. Nothing else changes, since nothing reads counters or log.

* `Visit.alone`, `alone_dispatch`: the step with nested messages muted does the same.
* `Smooth`: a computation that counts no conflict and logs no rerun; attempts are such.
* `attempts_tally`: the conflicts that attempts at a step count, and the reruns that they log.
-/

namespace Sagas

variable {A : Application} {α β : Type}

/-- The conflicts that were counted, newest first. -/
def World.conflicts (w : World A) : List String := w.metrics.filterMap Metric.conflict?

/-- The reruns that were logged, newest first. -/
def World.reruns (w : World A) : List (Key × Nat) := w.trace.filterMap TraceEvent.rerun?

/-- Answers messages as `send` does, and leaves counters and log as they were. -/
def muted (send : Request A.Body → Run A Answer) (request : Request A.Body) : Run A Answer :=
  fun w => ((send request w).1,
    { (send request w).2 with metrics := w.metrics, trace := w.trace })

/-! ## Computations without conflicts -/

/-- Counts no conflict and logs no rerun. -/
def Smooth (run : Run A α) : Prop :=
  ∀ w, (run w).2.conflicts = w.conflicts ∧ (run w).2.reruns = w.reruns

namespace Smooth

theorem bind {x : Run A α} {f : α → Run A β} (hx : Smooth x) (hf : ∀ a, Smooth (f a)) :
    Smooth (x >>= f) := by
  intro w
  rw [Run.bind_apply]
  obtain ⟨hconflicts, hreruns⟩ := hf (x w).1 (x w).2
  exact ⟨hconflicts.trans (hx w).1, hreruns.trans (hx w).2⟩

/-- A computation that leaves counters and log alone. -/
theorem quiet {run : Run A α} (hmetrics : ∀ w, (run w).2.metrics = w.metrics)
    (htrace : ∀ w, (run w).2.trace = w.trace) : Smooth run := by
  intro w
  unfold World.conflicts World.reruns
  rw [hmetrics, htrace]
  exact ⟨rfl, rfl⟩

theorem emit {events : List TraceEvent} (h : events.filterMap TraceEvent.rerun? = []) :
    Smooth (A := A) (World.emit events) := by
  refine fun w => ⟨rfl, ?_⟩
  change (events.reverse ++ w.trace).filterMap TraceEvent.rerun? = w.reruns
  rw [List.filterMap_append, List.filterMap_reverse, h]
  rfl

theorem count {metrics : List Metric} (h : metrics.filterMap Metric.conflict? = []) :
    Smooth (A := A) (World.count metrics) := by
  refine fun w => ⟨?_, rfl⟩
  change (metrics.reverse ++ w.metrics).filterMap Metric.conflict? = w.conflicts
  rw [List.filterMap_append, List.filterMap_reverse, h]
  rfl

theorem compositional : Compositional (A := A) Smooth where
  pure _ := .quiet (fun _ => rfl) fun _ => rfl
  bind := bind
  read := .quiet (fun _ => rfl) fun _ => rfl
  record _ := .quiet (fun _ => rfl) fun _ => rfl
  onResources _ := .quiet (fun _ => rfl) fun _ => rfl
  beginAttempt := .quiet (fun _ => rfl) fun _ => rfl
  emit _ := emit
  count _ := count

end Smooth

theorem nested_smooth {send : Request A.Body → Run A Answer}
    (hsend : ∀ request, Smooth (send request)) (request : Request A.Body) :
    Smooth (World.nested (send request)) :=
  fun w => hsend request { w with depth := w.depth + 1 }

theorem muted_smooth (send : Request A.Body → Run A Answer) (request : Request A.Body) :
    Smooth (muted send request) :=
  .quiet (fun _ => rfl) fun _ => rfl

namespace Visit

variable {visit : Visit A} {stage : Stage} {handler : Handler A} {key : Key} {reruns made : Nat}
  {w : World A}

theorem programs_smooth (hsend : ∀ request, Smooth (visit.send request)) (handler : Handler A) :
    visit.Programs Smooth handler :=
  Smooth.compositional.programs (nested_smooth hsend) handler

/-! ## The attempts at a step -/

theorem length_trialsFrom_pos :
    0 < (visit.trialsFrom stage handler key reruns made w).length := by
  cases reruns <;> exact Nat.succ_pos _

theorem conflicts_ended (trial : Trial A) : (visit.ended trial).conflicts =
    List.replicate ([trial].countP Trial.isStale) visit.sagaType ++ trial.after.conflicts := by
  unfold ended
  cases hstale : trial.isStale <;> simp [hstale, World.conflicts, Metric.conflict?]

theorem reruns_ended (trial : Trial A) : (visit.ended trial).reruns = trial.after.reruns := by
  unfold ended
  split <;> rfl

theorem again_tally (visit : Visit A) (key : Key) (number : Nat) (w : World A) :
    (visit.again key number w).conflicts = visit.sagaType :: w.conflicts ∧
      (visit.again key number w).reruns = (key, number) :: w.reruns :=
  ⟨rfl, rfl⟩

/-- **What attempts count and log**: a conflict for each of them that is refused as stale, and a
rerun for each of them but the first one. -/
theorem attempts_tally (hsend : ∀ request, Smooth (visit.send request)) (stage : Stage)
    (handler : Handler A) (key : Key) (reruns made : Nat) (w : World A) :
    let trials := visit.trialsFrom stage handler key reruns made w
    let left := ((visit.attempts stage handler key reruns made).run w).2
    left.conflicts = List.replicate (trials.countP Trial.isStale) visit.sagaType ++ w.conflicts ∧
      left.reruns =
        ((List.range' (made + 1) (trials.length - 1)).map (key, ·)).reverse ++ w.reruns := by
  intro trials left
  -- an attempt itself counts no conflict and logs no rerun
  have hattempt : ∀ w : World A,
      (visit.trial stage handler key w).after.conflicts = w.conflicts ∧
        (visit.trial stage handler key w).after.reruns = w.reruns :=
    Smooth.compositional.advanceOnce (programs_smooth hsend handler) stage key
  induction reruns generalizing made w with
  | zero =>
    simp only [trials, left, attempts_zero_run, trialsFrom, conflicts_ended, reruns_ended,
      hattempt]
    exact ⟨trivial, rfl⟩
  | succ reruns ih =>
    simp only [trials, left, attempts_succ_run, trialsFrom]
    cases hstale : (visit.trial stage handler key w).isStale with
    | false => simp [hstale, hattempt]
    | true =>
      -- the conflict and the rerun that are told between this attempt and the next one
      have hnext := again_tally visit key (made + 1) (visit.trial stage handler key w).after
      rw [(hattempt w).1, (hattempt w).2] at hnext
      obtain ⟨hconflicts, hreruns⟩ :=
        ih (made + 1) (visit.again key (made + 1) (visit.trial stage handler key w).after)
      have hpos : 0 < (visit.trialsFrom stage handler key reruns (made + 1)
        (visit.again key (made + 1) (visit.trial stage handler key w).after)).length :=
        length_trialsFrom_pos
      simp only [if_true, List.countP_cons_of_pos hstale, List.length_cons, Nat.add_sub_cancel]
      constructor
      · rw [hconflicts, hnext.1, List.replicate_succ', List.append_assoc]
        rfl
      · rw [hreruns, hnext.2, ← Nat.sub_add_cancel hpos, List.range'_succ, List.map_cons,
          List.reverse_cons, List.append_assoc]
        rfl

/-! ## Muting nested messages -/

/-- The same visit with nested messages muted. -/
def alone (visit : Visit A) : Visit A := { visit with send := muted visit.send }

/-- What answers nested messages does not depend on counters and log. -/
def Oblivious (send : Request A.Body → Run A Answer) : Prop :=
  ∀ request, Agree (fun _ _ => True) (send request) (send request)

theorem alone_mirrors (hsend : Oblivious visit.send) :
    visit.Mirrors (fun _ _ => True) visit.orchestrator.gateways visit.orchestrator.chain
      (muted visit.send) := by
  have hmuted : ∀ request, Agree (fun _ _ => True) (visit.send request)
      (muted visit.send request) := by
    intro request w w' halike
    obtain ⟨hanswer, metrics, trace, hworld, -⟩ := hsend request w w' halike
    refine ⟨hanswer, w'.metrics, w'.trace, ?_, trivial⟩
    change { (visit.send request w').2 with metrics := w'.metrics, trace := w'.trace } = _
    rw [hworld]
  exact ⟨fun _ _ _ _ => trivial, hmuted,
    fun step _ _ hwork => Chain.agree (fun _ _ _ _ => trivial) hmuted step hwork _,
    Gateways.Mirrors.refl _⟩

/-- **Muting nested messages changes nothing else**: the step does the same. -/
theorem alone_dispatch (hsend : Oblivious visit.send) :
    Agree (fun _ _ => True) visit.dispatch.run visit.alone.dispatch.run :=
  (alone_mirrors hsend).dispatch visit.request.target

/-- Nor does it change how the attempts at a step end. -/
theorem isStale_alone (hsend : Oblivious visit.send) {w' : World A}
    (halike : World.Alike (fun _ _ => True) w w') :
    (visit.alone.trialsFrom stage handler key reruns made w').map Trial.isStale =
      (visit.trialsFrom stage handler key reruns made w).map Trial.isStale := by
  have honce : Agree (fun _ _ => True) (visit.advanceOnce stage handler key).run
      (visit.alone.advanceOnce stage handler key).run :=
    (alone_mirrors hsend).advanceOnce visit.request.target stage handler key
  induction reruns generalizing made w w' with
  | zero =>
    obtain ⟨hresult, -⟩ := honce w w' halike
    simp only [trialsFrom, List.map_cons, List.map_nil, Trial.isStale, trial, hresult]
  | succ reruns ih =>
    obtain ⟨hresult, metrics, trace, hworld, -⟩ := honce w w' halike
    have hstale : (visit.alone.trial stage handler key w').isStale =
        (visit.trial stage handler key w).isStale := by
      simp only [Trial.isStale, trial, hresult]
    have hagain : World.Alike (fun _ _ => True)
        (visit.again key (made + 1) (visit.trial stage handler key w).after)
        (visit.alone.again key (made + 1) (visit.alone.trial stage handler key w').after) := by
      refine ⟨.conflicts visit.sagaType :: metrics, .reloading key (made + 1) :: trace, ?_, trivial⟩
      change visit.alone.again key (made + 1)
        ((visit.alone.advanceOnce stage handler key).run w').2 = _
      rw [hworld]
      rfl
    simp only [trialsFrom, List.map_cons, hstale]
    split
    · rw [ih hagain]
    · rfl

/-- **What the attempts at a step count and log themselves**, nested messages muted. -/
theorem alone_tally (hsend : Oblivious visit.send) (stage : Stage) (handler : Handler A)
    (key : Key) (reruns made : Nat) (w : World A) :
    let trials := visit.trialsFrom stage handler key reruns made w
    let left := ((visit.alone.attempts stage handler key reruns made).run w).2
    left.conflicts = List.replicate (trials.countP Trial.isStale) visit.sagaType ++ w.conflicts ∧
      left.reruns =
        ((List.range' (made + 1) (trials.length - 1)).map (key, ·)).reverse ++ w.reruns := by
  intro trials left
  have hsame : (visit.alone.trialsFrom stage handler key reruns made w).map Trial.isStale =
      trials.map Trial.isStale :=
    isStale_alone hsend ⟨w.metrics, w.trace, rfl, trivial⟩
  have hcount : (visit.alone.trialsFrom stage handler key reruns made w).countP Trial.isStale =
      trials.countP Trial.isStale := by
    have := congrArg (List.countP id) hsame
    simpa only [List.countP_map, Function.id_comp] using this
  have hlength : (visit.alone.trialsFrom stage handler key reruns made w).length =
      trials.length := by
    have := congrArg List.length hsame
    simpa only [List.length_map] using this
  have hsmooth : ∀ request, Smooth (visit.alone.send request) := muted_smooth visit.send
  obtain ⟨hconflicts, hreruns⟩ := attempts_tally hsmooth stage handler key reruns made w
  rw [hcount] at hconflicts
  rw [hlength] at hreruns
  exact ⟨hconflicts, hreruns⟩

end Visit

namespace Orchestrator

/-- Deliveries do not depend on counters and log. -/
theorem below_oblivious (orchestrator : Orchestrator A) (nesting : Nat) :
    Visit.Oblivious (orchestrator.below nesting) :=
  (mirrors_gateways (fun _ _ _ _ => trivial) (Gateways.Mirrors.refl _)).below nesting

end Orchestrator

end Sagas
