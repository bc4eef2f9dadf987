import Mathlib.Data.List.Basic
import Sagas.Proofs.Mirrors
import Sagas.Proofs.Signals

/-!
# The attempts at a step

A step of a stored instance is attempted until an attempt is not refused as stale, or no rerun is
left. Each attempt begins where the one before has ended, and nothing comes in between.

* `Trial`, `Visit.trials`: the attempts, one by one.
* `attempts_run`: the loop of the engine is told by them, and `trialsFrom_link` how they follow each
  other.
* `trial_within`: what one attempt is.
* `trialsFrom_across`, `Orchestrator.turns_across`: attempts, and turns of a delivery, cut the
  passage that they make into passages of their own.
-/

namespace Sagas

variable {A : Application} {C : List (Event A) → Prop}
  {R : World A → List (Entry A) → World A → Prop}

/-- One attempt at the step of a stored instance: the worlds around it, and how it ended. -/
structure Trial (A : Application) where
  before : World A
  result : Except SagaError Settled
  after : World A

namespace Trial

/-- Whether the attempt was refused as stale. -/
def isStale (trial : Trial A) : Bool := match trial.result with
  | .error (.conflict _) => true
  | _ => false

/-- What was added to the history meanwhile, also by nested deliveries. -/
def entries (trial : Trial A) : List (Entry A) :=
  trial.after.history.drop trial.before.history.length

/-- The events that the attempt itself left. -/
def events (trial : Trial A) : List (Event A) := eventsAt trial.before.depth trial.entries

theorem entries_eq {trial : Trial A} {es : List (Entry A)}
    (h : trial.after.history = trial.before.history ++ es) : trial.entries = es := by
  unfold entries
  rw [h, List.drop_left]

theorem result_of_isStale {trial : Trial A} (h : trial.isStale = true) :
    ∃ stale, trial.result = .error (.conflict stale) := by
  unfold isStale at h
  split at h
  · rename_i stale hresult
    exact ⟨stale, hresult⟩
  · cases h

theorem isStale_of_result {trial : Trial A} {stale : Key}
    (h : trial.result = .error (.conflict stale)) : trial.isStale = true := by
  unfold isStale
  rw [h]

end Trial

namespace Visit

variable (visit : Visit A) (stage : Stage) (handler : Handler A) (key : Key)

/-- The attempt at a step that begins in a world. -/
def trial (w : World A) : Trial A where
  before := w
  result := ((visit.advanceOnce stage handler key).run w).1
  after := ((visit.advanceOnce stage handler key).run w).2

/-- The world in which a rerun begins, after an attempt that was refused. -/
def again (number : Nat) (w : World A) : World A :=
  { w with
    metrics := .conflicts visit.sagaType :: w.metrics
    trace := .reloading key number :: w.trace }

/-- The world after the last attempt: a conflict that ends the step is counted, too. -/
def ended (trial : Trial A) : World A :=
  if trial.isStale then
    { trial.after with metrics := .conflicts visit.sagaType :: trial.after.metrics }
  else trial.after

/-- The attempts at a step from a world on, of which `reruns` more are allowed after a conflict and
`made` were made before. -/
def trialsFrom : (reruns made : Nat) → World A → List (Trial A)
  | 0, _, w => [visit.trial stage handler key w]
  | reruns + 1, made, w =>
    let trial := visit.trial stage handler key w
    trial :: if trial.isStale then
      trialsFrom reruns (made + 1) (visit.again key (made + 1) trial.after) else []

/-- The attempts at the step of a message for a stored instance. -/
def trials (w : World A) : List (Trial A) :=
  visit.trialsFrom stage handler key visit.orchestrator.config.concurrencyRetries.toNat 0 w

/-- How attempts come to their end: each but the last one is refused as stale, and so is the last
one only if no rerun is left. -/
structure Concluded (reruns : Nat) (earlier : List (Trial A)) (last : Trial A) : Prop where
  stale : ∀ trial ∈ earlier, trial.isStale = true
  bound : earlier.length ≤ reruns
  full : last.isStale = true → earlier.length = reruns

variable {visit stage handler key} {reruns made : Nat} {w : World A}
  {earlier later : List (Trial A)} {trial next : Trial A}

/-! ## The loop -/

theorem attempts_zero_run (made : Nat) (w : World A) :
    (visit.attempts stage handler key 0 made).run w =
      ((visit.trial stage handler key w).result,
        visit.ended (visit.trial stage handler key w)) := by
  unfold attempts ended trial Trial.isStale
  rw [ExceptT.run_mk, Run.bind_apply]
  generalize (visit.advanceOnce stage handler key).run w = out
  obtain ⟨result, after⟩ := out
  cases result with
  | ok settled => rfl
  | error error => cases error <;> rfl

theorem attempts_succ_run (reruns made : Nat) (w : World A) :
    (visit.attempts stage handler key (reruns + 1) made).run w =
      if (visit.trial stage handler key w).isStale then
        (visit.attempts stage handler key reruns (made + 1)).run
          (visit.again key (made + 1) (visit.trial stage handler key w).after)
      else ((visit.trial stage handler key w).result, (visit.trial stage handler key w).after) := by
  rw [attempts]
  unfold trial Trial.isStale
  rw [ExceptT.run_mk, Run.bind_apply]
  generalize (visit.advanceOnce stage handler key).run w = out
  obtain ⟨result, after⟩ := out
  cases result with
  | ok settled => rfl
  | error error => cases error <;> rfl

/-- **The loop of the engine is told by its attempts**: it answers what the last one did. -/
theorem attempts_run (visit : Visit A) (stage : Stage) (handler : Handler A) (key : Key)
    (reruns made : Nat) (w : World A) :
    ∃ earlier last, visit.trialsFrom stage handler key reruns made w = earlier ++ [last] ∧
      Concluded reruns earlier last ∧
      (visit.attempts stage handler key reruns made).run w = (last.result, visit.ended last) := by
  induction reruns generalizing made w with
  | zero =>
    refine ⟨[], _, rfl, ⟨by simp, Nat.le_refl _, fun _ => rfl⟩, attempts_zero_run made w⟩
  | succ reruns ih =>
    rw [attempts_succ_run, trialsFrom]
    by_cases hstale : (visit.trial stage handler key w).isStale = true
    · obtain ⟨earlier, last, htrials, hconcluded, hrun⟩ :=
        ih (made + 1) (visit.again key (made + 1) (visit.trial stage handler key w).after)
      refine ⟨visit.trial stage handler key w :: earlier, last, ?_, ⟨?_, ?_, ?_⟩, ?_⟩
      · rw [if_pos hstale, htrials]
        rfl
      · exact List.forall_mem_cons.2 ⟨hstale, hconcluded.stale⟩
      · exact Nat.succ_le_succ hconcluded.bound
      · exact fun hlast => congrArg Nat.succ (hconcluded.full hlast)
      · rw [if_pos hstale, hrun]
    · refine ⟨[], _, ?_, ⟨by simp, Nat.zero_le _, fun hlast => absurd hlast hstale⟩, ?_⟩
      · rw [if_neg hstale]
        rfl
      · rw [if_neg hstale, ended, if_neg hstale]

/-- Each attempt is the one that begins in its world. -/
theorem trial_of_mem (hmem : trial ∈ visit.trialsFrom stage handler key reruns made w) :
    visit.trial stage handler key trial.before = trial := by
  induction reruns generalizing made w with
  | zero =>
    rw [List.mem_singleton.1 hmem]
    rfl
  | succ reruns ih =>
    rcases List.mem_cons.1 hmem with rfl | hmem
    · rfl
    · split at hmem
      · exact ih hmem
      · cases hmem

/-- The first attempt begins at once. -/
theorem exists_trialsFrom_eq_cons : ∃ later,
    visit.trialsFrom stage handler key reruns made w = visit.trial stage handler key w :: later := by
  cases reruns <;> exact ⟨_, rfl⟩

theorem before_of_head (h : visit.trialsFrom stage handler key reruns made w = trial :: later) :
    trial.before = w := by
  cases reruns <;> exact (congrArg Trial.before (List.cons.inj h).1).symm

/-- **An attempt that follows another one** begins in the world which that has left, but for the
conflict that was counted and the rerun that was logged. -/
theorem trialsFrom_link
    (h : visit.trialsFrom stage handler key reruns made w = earlier ++ trial :: next :: later) :
    next.before = visit.again key (made + earlier.length + 1) trial.after := by
  induction reruns generalizing made w earlier with
  | zero =>
    have hlength := congrArg List.length h
    simp [trialsFrom] at hlength
    omega
  | succ reruns ih =>
    rw [trialsFrom] at h
    cases earlier with
    | nil =>
      obtain ⟨rfl, hrest⟩ := List.cons.inj h
      split at hrest
      · exact before_of_head hrest
      · cases hrest
    | cons first earlier =>
      obtain ⟨-, hrest⟩ := List.cons.inj h
      split at hrest
      · rw [ih hrest, List.length_cons, Nat.add_right_comm made 1, Nat.add_assoc made]
      · simp at hrest

/-! ## Attempts as passages -/

section

variable (hR : Law visit.orchestrator.gateways R) (hsend : Sends C R visit.send)
include hR hsend

/-- **What one attempt is**: its own entries bear its number, and its events are those of one of
the ways of an attempt, the load of the record first. -/
theorem trial_within (stage : Stage) (handler : Handler A) (key : Key) (w : World A) :
    Within C R (begun w) (visit.trial stage handler key w).entries
        (visit.trial stage handler key w).after ∧
      visit.Advances stage handler key (visit.trial stage handler key w).events
        (visit.trial stage handler key w).result ∧
      visit.LoadsFirst key w (visit.trial stage handler key w).events := by
  obtain ⟨es, hwithin, hadvances, hloads⟩ := advanceOnce_within hR hsend stage handler key w
  have hentries : (visit.trial stage handler key w).entries = es :=
    Trial.entries_eq hwithin.history
  unfold Trial.events
  rw [hentries]
  exact ⟨hwithin, hadvances, hloads⟩

/-- An attempt is a passage from the world in which it begins. -/
theorem trial_across (hC : ∀ es r, visit.Advances stage handler key es r → C es) (w : World A) :
    Across C R w (visit.trial stage handler key w).entries
      (visit.trial stage handler key w).after := by
  obtain ⟨hwithin, hadvances, -⟩ := trial_within hR hsend stage handler key w
  exact across_of_within hR hwithin (hC _ _ hadvances)

omit hsend in
/-- Counters and log are no part of a passage. -/
theorem again_across (number : Nat) (w : World A) : Across C R w [] (visit.again key number w) :=
  .still hR rfl rfl id rfl rfl rfl rfl

omit hsend in
theorem ended_across (trial : Trial A) : Across C R trial.after [] (visit.ended trial) := by
  unfold ended
  split
  · exact .still hR rfl rfl id rfl rfl rfl rfl
  · exact .still hR rfl rfl id rfl rfl rfl rfl

/-- The attempts make one passage. -/
theorem attempts_across (stage : Stage) (handler : Handler A) (key : Key)
    (hC : ∀ es r, visit.Advances stage handler key es r → C es) (reruns made : Nat) (w : World A) :
    Across C R w ((visit.trialsFrom stage handler key reruns made w).flatMap Trial.entries)
      ((visit.attempts stage handler key reruns made).run w).2 := by
  induction reruns generalizing made w with
  | zero =>
    rw [attempts_zero_run, trialsFrom, List.flatMap_singleton]
    have hlast := (trial_across hR hsend hC w).trans hR.trans
      (ended_across hR (visit.trial stage handler key w))
    rwa [List.append_nil] at hlast
  | succ reruns ih =>
    rw [attempts_succ_run, trialsFrom, List.flatMap_cons]
    have hfirst := trial_across hR hsend hC w
    split
    · refine hfirst.trans hR.trans ?_
      exact (again_across hR (made + 1) _).trans hR.trans (ih (made + 1) _)
    · rwa [List.flatMap_nil, List.append_nil]

/-- **Attempts cut their passage** in three: what comes before one of them, its own part, and what
comes after it. -/
theorem trialsFrom_across (hC : ∀ es r, visit.Advances stage handler key es r → C es)
    (h : visit.trialsFrom stage handler key reruns made w = earlier ++ trial :: later) :
    Across C R w (earlier.flatMap Trial.entries) trial.before ∧
      Across C R trial.before trial.entries trial.after ∧
      Across C R trial.after (later.flatMap Trial.entries)
        ((visit.attempts stage handler key reruns made).run w).2 := by
  have hempty : Across C R w [] w := .still hR rfl rfl id rfl rfl rfl rfl
  have hfirst := trial_across hR hsend hC w
  induction reruns generalizing made w earlier with
  | zero =>
    obtain ⟨rfl, hrest⟩ | ⟨earlier', rfl, hrest⟩ := List.cons_eq_append_iff.1 h
    · obtain ⟨rfl, rfl⟩ := List.cons.inj hrest
      rw [attempts_zero_run]
      exact ⟨hempty, hfirst, ended_across hR _⟩
    · simp at hrest
  | succ reruns ih =>
    rw [attempts_succ_run]
    obtain ⟨rfl, hrest⟩ | ⟨earlier', rfl, hrest⟩ := List.cons_eq_append_iff.1 h
    · -- the first attempt; the others come after it
      obtain ⟨rfl, rfl⟩ := List.cons.inj hrest
      refine ⟨hempty, hfirst, ?_⟩
      split
      · exact (again_across hR (made + 1) _).trans hR.trans
          (attempts_across hR hsend _ _ _ hC _ _ _)
      · exact .still hR rfl rfl id rfl rfl rfl rfl
    · -- a later attempt; the first one comes before it
      split at hrest
      · rename_i hstale
        have hnext : Across C R (visit.trial stage handler key w).after []
            (visit.again key (made + 1) (visit.trial stage handler key w).after) :=
          again_across hR (made + 1) _
        obtain ⟨hbefore, hown, hafter⟩ := ih hrest (.still hR rfl rfl id rfl rfl rfl rfl)
          (trial_across hR hsend hC _)
        rw [if_pos hstale]
        exact ⟨hfirst.trans hR.trans (hnext.trans hR.trans hbefore), hown, hafter⟩
      · simp at hrest

/-- An attempt begins after a passage. -/
theorem exists_across_of_mem (hC : ∀ es r, visit.Advances stage handler key es r → C es)
    (hmem : trial ∈ visit.trialsFrom stage handler key reruns made w) :
    ∃ es, Across C R w es trial.before := by
  obtain ⟨earlier, later, h⟩ := List.append_of_mem hmem
  exact ⟨_, (trialsFrom_across hR hsend hC h).1⟩

end

/-! ## The step of one saga -/

/-- The step of a start message is one attempt at making a new instance. -/
theorem dispatch_run_of_start (visit : Visit A)
    (hhandler : visit.registration.handler? visit.request.message.type = some (.start, handler))
    (w : World A) : visit.dispatch.run w =
      (((visit.create handler).run w).1.map some, ((visit.create handler).run w).2) := by
  rw [dispatch_of_start hhandler, Attempt.run_some]

section

variable {sagaId : String} (hstage : stage ≠ .start)
  (hhandler : visit.registration.handler? visit.request.message.type = some (stage, handler))
include hstage hhandler

variable (visit) in
/-- The step of a stored instance is the loop of its attempts. -/
theorem dispatch_run_attempts
    (hid : visit.registration.correlate visit.request.message = .ok sagaId) (w : World A) :
    visit.dispatch.run w =
      (((visit.attempts stage handler ⟨visit.sagaType, sagaId⟩
          visit.orchestrator.config.concurrencyRetries.toNat 0).run w).1.map some,
        ((visit.attempts stage handler ⟨visit.sagaType, sagaId⟩
          visit.orchestrator.config.concurrencyRetries.toNat 0).run w).2) := by
  rw [dispatch_of_stage hstage hhandler, advance, hid]
  exact Attempt.run_some _ w

/-- **The step of a stored instance is told by its attempts.** -/
theorem dispatch_run_of_stage
    (hid : visit.registration.correlate visit.request.message = .ok sagaId) (w : World A) :
    ∃ earlier last,
      visit.trials stage handler ⟨visit.sagaType, sagaId⟩ w = earlier ++ [last] ∧
      Concluded visit.orchestrator.config.concurrencyRetries.toNat earlier last ∧
      visit.dispatch.run w = (last.result.map some, visit.ended last) := by
  obtain ⟨earlier, last, htrials, hconcluded, hrun⟩ :=
    attempts_run visit stage handler ⟨visit.sagaType, sagaId⟩
      visit.orchestrator.config.concurrencyRetries.toNat 0 w
  refine ⟨earlier, last, htrials, hconcluded, ?_⟩
  rw [visit.dispatch_run_attempts hstage hhandler hid, hrun]

/-- **The attempts make the turn**, one window after the other. -/
theorem turn_entries_eq (hid : visit.registration.correlate visit.request.message = .ok sagaId)
    (hsend : Sends (fun _ => True) (fun _ _ _ => True) visit.send) (w : World A) :
    (visit.turn w).entries =
      (visit.trials stage handler ⟨visit.sagaType, sagaId⟩ w).flatMap Trial.entries := by
  have hacross := attempts_across (Law.trivial _) hsend stage handler ⟨visit.sagaType, sagaId⟩
    (fun _ _ _ => trivial) visit.orchestrator.config.concurrencyRetries.toNat 0 w
  have hafter : (visit.turn w).after = _ :=
    congrArg Prod.snd (visit.dispatch_run_attempts hstage hhandler hid w)
  refine Turn.entries_eq ?_
  rw [hafter]
  exact hacross.history

/-- The events of the turn are those of the attempts. -/
theorem turn_events_eq (hid : visit.registration.correlate visit.request.message = .ok sagaId)
    (hsend : Sends (fun _ => True) (fun _ _ _ => True) visit.send) (w : World A) :
    (visit.turn w).events =
      (visit.trials stage handler ⟨visit.sagaType, sagaId⟩ w).flatMap Trial.events := by
  change eventsAt w.depth (visit.turn w).entries = _
  rw [turn_entries_eq hstage hhandler hid hsend w, eventsAt_flatMap]
  refine List.flatMap_congr fun trial hmem => ?_
  obtain ⟨es, hbefore⟩ := exists_across_of_mem (Law.trivial _) hsend (fun _ _ _ => trivial) hmem
  rw [Trial.events, hbefore.depth]

/-- A message that nobody correlates ends its step before anything is done. -/
theorem dispatch_run_of_uncorrelated {error : SagaError}
    (hid : visit.registration.correlate visit.request.message = .error error) (w : World A) :
    visit.dispatch.run w = (.error error, w) := by
  rw [dispatch_of_stage hstage hhandler, advance, hid]
  rfl

end

end Visit

/-! ## Turns as passages -/

/-- What is sent in the visit is delivered inside it, whatever law the gateways keep to. -/
def Visit.Nests (visit : Visit A) : Prop :=
  ∀ R : World A → List (Entry A) → World A → Prop, Law visit.orchestrator.gateways R →
    Sends (fun _ => True) R visit.send

namespace Orchestrator

/-- What answers nested messages makes passages, whatever is asked of their attempts. -/
theorem below_free {orchestrator : Orchestrator A} (hR : Law orchestrator.gateways R)
    (nesting : Nat) : Sends (fun _ => True) R (orchestrator.below nesting) :=
  (below_sends hR nesting).mono fun _ _ => trivial

variable {orchestrator : Orchestrator A} {send : Request A.Body → Run A Answer}
  {request : Request A.Body} {registrations : List (Registration A)} {nesting : Nat}
  {w : World A} {earlier later : List (Turn A)} {turn : Turn A}

section

variable (hR : Law orchestrator.gateways R) (hsend : Sends orchestrator.Course R send)
include hR hsend

/-- A turn is a passage from the world in which it begins. -/
theorem turn_across (request : Request A.Body) {registration : Registration A}
    (hreg : registration ∈ orchestrator.directory.registrations) (hw : w.attempt ≤ w.attempts) :
    Across orchestrator.Course R w
      (Visit.turn { orchestrator, send, registration, request } w).entries
      (Visit.turn { orchestrator, send, registration, request } w).after := by
  let visit : Visit A := { orchestrator, send, registration, request }
  obtain ⟨es, hacross, -⟩ := visit.dispatch_yields hR hsend hreg w hw
  have hentries : (visit.turn w).entries = es := Turn.entries_eq hacross.history
  change Across orchestrator.Course R w (visit.turn w).entries (visit.turn w).after
  rw [hentries]
  exact hacross

/-- The turns make one passage. -/
theorem reached_across
    (hreg : ∀ registration ∈ registrations, registration ∈ orchestrator.directory.registrations)
    (hw : w.attempt ≤ w.attempts) :
    Across orchestrator.Course R w
      ((orchestrator.turnsFrom send request registrations w).flatMap Turn.entries)
      (reached w (orchestrator.turnsFrom send request registrations w)) := by
  induction registrations generalizing w with
  | nil => exact .still hR rfl rfl id rfl rfl rfl rfl
  | cons registration rest ih =>
    have hfirst := turn_across hR hsend request (hreg registration List.mem_cons_self) hw
    rw [turnsFrom_cons, List.flatMap_cons]
    split
    · refine hfirst.trans hR.trans (ih (fun r hr => hreg r (List.mem_cons_of_mem _ hr)) ?_)
      exact hfirst.attempt hw
    · rwa [List.flatMap_nil, List.append_nil]

theorem turnsFrom_across
    (hreg : ∀ registration ∈ registrations, registration ∈ orchestrator.directory.registrations)
    (hw : w.attempt ≤ w.attempts)
    (h : orchestrator.turnsFrom send request registrations w = earlier ++ turn :: later) :
    Across orchestrator.Course R w (earlier.flatMap Turn.entries) turn.before ∧
      Across orchestrator.Course R turn.before turn.entries turn.after ∧
      Across orchestrator.Course R turn.after (later.flatMap Turn.entries)
        (reached w (orchestrator.turnsFrom send request registrations w)) := by
  induction registrations generalizing w earlier with
  | nil => simp [turnsFrom] at h
  | cons registration rest ih =>
    have hrest := fun r hr => hreg r (List.mem_cons_of_mem registration hr)
    have hfirst := turn_across hR hsend request (hreg registration List.mem_cons_self) hw
    rw [turnsFrom_cons] at h ⊢
    obtain ⟨rfl, htail⟩ | ⟨earlier', rfl, htail⟩ := List.cons_eq_append_iff.1 h
    · obtain ⟨rfl, rfl⟩ := List.cons.inj htail
      refine ⟨.still hR rfl rfl id rfl rfl rfl rfl, hfirst, ?_⟩
      split
      · exact reached_across hR hsend hrest (hfirst.attempt hw)
      · exact .still hR rfl rfl id rfl rfl rfl rfl
    · split at htail
      · rename_i hnone
        obtain ⟨hbefore, hown, hafter⟩ := ih hrest (hfirst.attempt hw) htail
        rw [if_pos hnone]
        exact ⟨hfirst.trans hR.trans hbefore, hown, hafter⟩
      · simp at htail

end

/-- **Turns cut the passage of their delivery** in three: what comes before one of them, its own
part, and what comes after it. -/
theorem turns_across (hR : Law orchestrator.gateways R)
    (h : orchestrator.turns nesting request w = earlier ++ turn :: later) :
    Across orchestrator.Course R w (earlier.flatMap Turn.entries) turn.before ∧
      Across orchestrator.Course R turn.before turn.entries turn.after ∧
      Across orchestrator.Course R turn.after (later.flatMap Turn.entries)
        (orchestrator.deliver nesting request w).2 := by
  obtain ⟨trace, htold⟩ := orchestrator.deliver_told nesting request w
  have hbegun : Across orchestrator.Course R w [] (begun w) :=
    .still hR rfl rfl (fun _ => Nat.zero_le _) rfl rfl rfl rfl
  rw [htold]
  unfold turns at h ⊢
  cases hselected : orchestrator.selected request with
  | error error =>
    rw [hselected] at h
    simp at h
  | ok registrations =>
    rw [hselected] at h
    obtain ⟨hbefore, hown, hafter⟩ := turnsFrom_across hR (below_sends hR nesting)
      (mem_of_selected hselected) (Nat.zero_le _) h
    refine ⟨hbegun.trans hR.trans hbefore, hown, ?_⟩
    -- the log is no part of a passage
    have hlogged := hafter.trans hR.trans (show Across orchestrator.Course R _ []
      { reached (begun w) (orchestrator.turnsFrom (orchestrator.below nesting) request
        registrations (begun w)) with trace } from .still hR rfl rfl id rfl rfl rfl rfl)
    rwa [List.append_nil] at hlogged

end Orchestrator

end Sagas
