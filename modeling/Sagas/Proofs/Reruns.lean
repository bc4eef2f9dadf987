import Sagas.Proofs.Atomicity
import Sagas.Proofs.Scripts
import Sagas.Proofs.Tallies
import Sagas.Proofs.Validity

/-!
# The reruns of a step

The step of a stored instance is run again when its save is refused as stale, up to the number of
reruns in the configuration. An attempt that was refused leaves nothing of its own, and the next one
starts from the record that is stored by then.

* `Advances.handled`: the handler of an attempt starts from the record that the attempt loaded.
* `Visit.Rejected`: what an attempt that was refused leaves.
* `Visit.Retried`, `Visit.Once`: the attempts at the step of a stored instance, and the only attempt
  at the step of a start message.
* `Orchestrator.reruns_exact`: both, for every registration, world and number of reruns.
-/

namespace Sagas

variable {A : Application}

namespace Visit

variable {visit : Visit A} {stage : Stage} {handler : Handler A} {runner : Instance} {key : Key}
  {state : A.State} {step : StepInfo} {context : Context A} {events : List (Event A)}
  {result : Except SagaError Settled} {w : World A} {trial : Trial A}

/-! ## What a handler starts from -/

theorem Executes.handled (h : visit.Executes stage handler runner key state events result)
    {other : Instance} (hmem : .handled step other context ∈ events) :
    step = visit.stepOf stage key ∧ context = visit.context key state := by
  -- only the handler at work leaves such an event
  have hworks : ∀ {entered rest : List (Event A)} {answer left},
      visit.Works (visit.stepOf stage key) runner handler state entered answer left →
      .handled step other context ∈ entered ++ rest → .handled step other context ∉ rest →
      step = visit.stepOf stage key ∧ context = visit.context key state := by
    intro entered rest answer left hworks hmem hrest
    cases hworks with
    | halted => exact absurd hmem hrest
    | entered =>
      rcases List.mem_cons.1 hmem with heq | hmem
      · obtain ⟨rfl, -, rfl⟩ := Event.handled.inj heq
        exact ⟨rfl, rfl⟩
      · exact absurd hmem hrest
  cases h with
  | cancelled => cases hmem
  | raised h => exact hworks h hmem (by simp)
  | settled h hsettles =>
    refine hworks h hmem ?_
    cases hsettles <;> simp

/-- **The handler of an attempt starts from the record that the attempt loaded**, in its stage. -/
theorem Advances.handled (h : visit.Advances stage handler key events result)
    (hmem : .handled step runner context ∈ events) :
    step = visit.stepOf stage key ∧ ∃ record rest,
      events = .loaded key (.ok (some record)) :: rest ∧
        visit.stateOf record = .ok context.state := by
  cases h with
  | cancelled | unloaded | missing | terminated | unreadable | abandoned | unresolved =>
    simp at hmem
  | executed _ hstate _ hexecutes =>
    obtain ⟨rfl, rfl⟩ := hexecutes.handled (by simpa using hmem)
    exact ⟨rfl, _, _, rfl, hstate⟩

theorem loadedIn_inMemory (hmemory : visit.orchestrator.InMemory) :
    visit.loadedIn key w = .ok (w.store.find? key) := by
  obtain ⟨resolve, hresolve⟩ := hmemory
  unfold loadedIn
  rw [hresolve]
  rfl

/-- What an attempt starts from. Unless its signal is cancelled by then, the attempt first asks the
store for the record; a handler that it runs starts from the state of the record that it got. -/
structure StartsAnew (visit : Visit A) (stage : Stage) (key : Key) (trial : Trial A) : Prop where
  load : visit.LoadsFirst key trial.before trial.events
  /-- The store in memory answers what is stored at that moment. -/
  stored : visit.orchestrator.InMemory →
    visit.loadedIn key trial.before = .ok (trial.before.store.find? key)
  state : ∀ step runner context, .handled step runner context ∈ trial.events →
    step = visit.stepOf stage key ∧ ∃ record,
      visit.loadedIn key trial.before = .ok (some record) ∧
        visit.stateOf record = .ok context.state

theorem startsAnew (h : visit.Advances stage handler key trial.events trial.result)
    (hload : visit.LoadsFirst key trial.before trial.events) :
    visit.StartsAnew stage key trial := by
  refine ⟨hload, loadedIn_inMemory, fun step runner context hmem => ?_⟩
  obtain ⟨hstep, record, rest, hevents, hstate⟩ := h.handled hmem
  refine ⟨hstep, record, ?_, hstate⟩
  rw [hevents] at hload
  exact hload.loadedIn_eq

/-- So does every attempt at a step. -/
theorem startsAnew_of_mem (hsend : Sends (fun _ => True) (fun _ _ _ => True) visit.send)
    {reruns made : Nat} (hmem : trial ∈ visit.trialsFrom stage handler key reruns made w) :
    visit.StartsAnew stage key trial := by
  obtain ⟨-, hadvances, hload⟩ :=
    trial_within (Law.trivial _) hsend stage handler key trial.before
  rw [trial_of_mem hmem] at hadvances hload
  exact startsAnew hadvances hload

/-! ## What is left of an attempt that was refused -/

/-- An attempt that was refused saved and published nothing of its own. Over the gateways in memory
store and outbox are therefore what nested deliveries have made of them. -/
structure Rejected (visit : Visit A) (trial : Trial A) : Prop where
  idle : Idle trial.events
  inMemory : visit.orchestrator.InMemory →
    trial.after.store =
        trial.before.store.replay (nestedBelow trial.before.depth trial.entries) ∧
      trial.after.outbox = { trial.before.outbox with
        sent := trial.before.outbox.sent ++
          messages (nestedBelow trial.before.depth trial.entries) }

/-! ## The loop -/

/-- **The attempts at the step of a stored instance.** -/
structure Retried (visit : Visit A) (stage : Stage) (handler : Handler A) (key : Key)
    (w : World A) : Prop where
  /-- Each attempt is one at the step of the same instance. -/
  attempt : ∀ trial ∈ visit.trials stage handler key w,
    visit.trial stage handler key trial.before = trial
  /-- The first one begins at once. -/
  first : ∀ trial later, visit.trials stage handler key w = trial :: later → trial.before = w
  /-- Each other one begins in the world that the one before has left, but for the conflict that is
  counted and the rerun that is logged. -/
  next : ∀ earlier trial next later,
    visit.trials stage handler key w = earlier ++ trial :: next :: later →
      next.before = visit.again key (earlier.length + 1) trial.after
  /-- All but the last one were refused as stale, and there are at most as many of these as reruns
  are allowed. The step ends as the last one does; in a conflict only if no rerun was left. -/
  last : ∃ earlier last, visit.trials stage handler key w = earlier ++ [last] ∧
    Concluded visit.orchestrator.config.concurrencyRetries.toNat earlier last ∧
    visit.dispatch.run w = (last.result.map some, visit.ended last)
  anew : ∀ trial ∈ visit.trials stage handler key w, visit.StartsAnew stage key trial
  rejected : ∀ trial ∈ visit.trials stage handler key w, trial.isStale = true →
    visit.Rejected trial
  /-- Nested messages muted, the step does the same. -/
  alone : AgreeAt (fun _ _ => True) w w visit.dispatch.run visit.alone.dispatch.run
  /-- Then it counts one conflict for each attempt that was refused, and no others. -/
  conflicts : (visit.alone.dispatch.run w).2.conflicts =
    List.replicate ((visit.trials stage handler key w).countP Trial.isStale) visit.sagaType ++
      w.conflicts
  /-- The reruns are numbered from 1 on. -/
  reruns : (visit.alone.dispatch.run w).2.reruns =
    ((List.range' 1 ((visit.trials stage handler key w).length - 1)).map (key, ·)).reverse ++
      w.reruns
  /-- Their numbers have 32 bits. -/
  fits : (visit.trials stage handler key w).length - 1 < UInt32.size

/-- **The only attempt at the step of a start message.** -/
structure Once (visit : Visit A) (handler : Handler A) (w : World A) : Prop where
  /-- A new instance is made once. -/
  course : ∃ result, (visit.turn w).result = result.map some ∧
    visit.Creates handler (visit.turn w).events result
  /-- Whatever the step itself does belongs to one attempt. -/
  attempt : ∀ entry ∈ (visit.turn w).entries, entry.event.isEngine = true →
    entry.depth = w.depth → entry.attempt = w.attempts + 1
  /-- Nested messages muted, the step does the same. -/
  alone : AgreeAt (fun _ _ => True) w w visit.dispatch.run visit.alone.dispatch.run
  /-- Then it counts no conflict and logs no rerun. -/
  tally : (visit.alone.dispatch.run w).2.conflicts = w.conflicts ∧
    (visit.alone.dispatch.run w).2.reruns = w.reruns
  /-- The number of reruns that is allowed does not matter. -/
  config : ∀ retries,
    ({ visit with orchestrator := { visit.orchestrator with
        config := visit.orchestrator.config.withRetries retries } } : Visit A).dispatch =
      visit.dispatch

section

variable (hsends : visit.Nests)
include hsends

theorem rejected {sagaId : String}
    (hstale : (visit.trial stage handler ⟨visit.sagaType, sagaId⟩ w).isStale = true) :
    visit.Rejected (visit.trial stage handler ⟨visit.sagaType, sagaId⟩ w) := by
  obtain ⟨stale, hresult⟩ := Trial.result_of_isStale hstale
  -- a conflict comes before any effect of the attempt
  obtain ⟨-, hadvances, -⟩ := trial_within (Law.trivial _) (hsends _ (Law.trivial _)) stage handler
    ⟨visit.sagaType, sagaId⟩ w
  have hends := (hadvances.concludes .nil rfl).ends
  rw [hresult, List.nil_append] at hends
  have hidle := hends.idle_of_conflict
  refine ⟨hidle, fun hmemory => ?_⟩
  obtain ⟨hwithin, -, -⟩ := trial_within hmemory.law (hsends _ hmemory.law) stage handler
    ⟨visit.sagaType, sagaId⟩ w
  have hplace : ∀ e ∈ (visit.trial stage handler ⟨visit.sagaType, sagaId⟩ w).entries,
      e.event.isEngine = true → w.depth ≤ e.depth := by
    intro e he hengine
    rcases hwithin.place e he hengine with ⟨hdepth, -⟩ | ⟨hdepth, -, -⟩
    · exact Nat.le_of_eq hdepth.symm
    · exact Nat.le_of_lt hdepth
  have hnested := isEffect_of_nested hplace (effectsOf_idle hidle)
  refine ⟨hwithin.law.store.trans (replay_filter hnested w.store).symm,
    hwithin.law.outbox.trans ?_⟩
  rw [← messages_filter hnested]
  rfl

variable (hsend : Oblivious visit.send)
include hsend

/-- **The attempts at the step of a stored instance** are as told. -/
theorem retried {sagaId : String} (hstage : stage ≠ .start)
    (hhandler : visit.registration.handler? visit.request.message.type = some (stage, handler))
    (hid : visit.registration.correlate visit.request.message = .ok sagaId) (w : World A) :
    visit.Retried stage handler ⟨visit.sagaType, sagaId⟩ w := by
  obtain ⟨earlier, last, htrials, hconcluded, hrun⟩ := dispatch_run_of_stage hstage hhandler hid w
  -- nested messages muted, the step comes to the same attempts
  have halone : (visit.alone.dispatch.run w).2 =
      ((visit.alone.attempts stage handler ⟨visit.sagaType, sagaId⟩
        visit.orchestrator.config.concurrencyRetries.toNat 0).run w).2 :=
    congrArg Prod.snd (visit.alone.dispatch_run_attempts hstage hhandler hid w)
  obtain ⟨hconflicts, hreruns⟩ := alone_tally hsend stage handler ⟨visit.sagaType, sagaId⟩
    visit.orchestrator.config.concurrencyRetries.toNat 0 w
  refine ⟨fun trial => trial_of_mem, fun trial later => before_of_head, ?_,
    ⟨earlier, last, htrials, hconcluded, hrun⟩, ?_, ?_,
    alone_dispatch hsend w w ⟨w.metrics, w.trace, rfl, trivial⟩, ?_, ?_, ?_⟩
  · intro earlier trial next later hsplit
    rw [trialsFrom_link hsplit, Nat.zero_add]
  · exact fun trial => startsAnew_of_mem (hsends _ (Law.trivial _))
  · intro trial hmem hstale
    rw [← trial_of_mem hmem] at hstale ⊢
    exact rejected hsends hstale
  · rw [halone]
    exact hconflicts
  · rw [halone]
    exact hreruns
  · have hbound := hconcluded.bound
    have hlt := visit.orchestrator.config.concurrencyRetries.toNat_lt
    rw [htrials, List.length_append, List.length_singleton, Nat.add_sub_cancel]
    exact Nat.lt_of_le_of_lt hbound hlt

/-- **The only attempt at the step of a start message** is as told. -/
theorem once
    (hhandler : visit.registration.handler? visit.request.message.type = some (.start, handler))
    (w : World A) : visit.Once handler w := by
  obtain ⟨es, hwithin, hcreates, -⟩ :=
    create_within (Law.trivial _) (hsends _ (Law.trivial _)) handler w
  have hafter : (visit.turn w).after = ((visit.create handler).run w).2 :=
    congrArg Prod.snd (visit.dispatch_run_of_start hhandler w)
  have hentries : (visit.turn w).entries = es := by
    refine Turn.entries_eq ?_
    rw [hafter]
    exact hwithin.history
  refine ⟨⟨_, congrArg Prod.fst (visit.dispatch_run_of_start hhandler w), ?_⟩, ?_,
    alone_dispatch hsend w w ⟨w.metrics, w.trace, rfl, trivial⟩, ?_, fun retries => ?_⟩
  · change visit.Creates handler (eventsAt w.depth (visit.turn w).entries) _
    rw [hentries]
    exact hcreates
  · intro entry hmem hengine hdepth
    rw [hentries] at hmem
    rcases hwithin.place entry hmem hengine with ⟨-, hattempt⟩ | ⟨hdeeper, -, -⟩
    · exact hattempt
    · exact absurd hdepth (Nat.ne_of_gt hdeeper)
  · rw [visit.alone.dispatch_run_of_start hhandler]
    exact Smooth.compositional.create (programs_smooth (muted_smooth visit.send) handler) w
  · rw [dispatch_of_start hhandler]
    exact dispatch_of_start hhandler

end

end Visit

/-- **The loop of reruns, exactly.** For every registration, message and world, and every number of
reruns in the configuration: a start message is attempted once; for any other message of the saga
the id of its instance is computed once, and then one attempt follows another as `Retried` tells. -/
theorem Orchestrator.reruns_exact (orchestrator : Orchestrator A) (nesting : Nat)
    (registration : Registration A) (request : Request A.Body) (w : World A) :
    let visit : Visit A :=
      { orchestrator, send := orchestrator.below nesting, registration, request }
    (∀ handler, registration.handler? request.message.type = some (.start, handler) →
      visit.Once handler w) ∧
    ∀ stage handler, stage ≠ .start →
      registration.handler? request.message.type = some (stage, handler) →
      (∀ error, registration.correlate request.message = .error error →
        visit.dispatch.run w = (.error error, w)) ∧
      ∀ sagaId, registration.correlate request.message = .ok sagaId →
        visit.Retried stage handler ⟨visit.sagaType, sagaId⟩ w := by
  intro visit
  have hsends : visit.Nests := fun _ hR => orchestrator.below_free hR nesting
  have hsend : Visit.Oblivious visit.send := orchestrator.below_oblivious nesting
  refine ⟨fun handler hhandler => Visit.once hsends hsend hhandler w, ?_⟩
  intro stage handler hstage hhandler
  exact ⟨fun error hid => Visit.dispatch_run_of_uncorrelated hstage hhandler hid w,
    fun sagaId hid => Visit.retried hsends hsend hstage hhandler hid w⟩

open Simulation in
/-- A counter is opened in one attempt. Adding to it takes two: the first one is refused, since its
handler has another message add to the counter. -/
theorem reruns_exact_counters :
    let w := counters.follow (counterMoves.take 1) (World.ofResources emptyBench)
    let visit := fun message : Message Body => ({
      orchestrator := counters
      send := counters.below 2
      registration := .ofSaga counterSpec.toSaga
      request := requestTo message } : Visit Scripted)
    (visit openCounter).Once (counterSpec.handler openCounter.type) (World.ofResources emptyBench) ∧
      ((visit addToCounter).trials .step (counterSpec.handler addToCounter.type)
        ⟨"Counter", "c"⟩ w).map Trial.isStale = [true, false] ∧
      (visit addToCounter).Retried .step (counterSpec.handler addToCounter.type)
        ⟨"Counter", "c"⟩ w :=
  ⟨(counters.reruns_exact 2 _ (requestTo openCounter) _).1 _ rfl, by decide +kernel,
    ((counters.reruns_exact 2 (.ofSaga counterSpec.toSaga) (requestTo addToCounter) _).2 .step _
      (by decide) rfl).2 _ rfl⟩

end Sagas
