import Sagas.Proofs.Frozen
import Sagas.Proofs.Reruns
import Sagas.Proofs.Runs
import Sagas.Proofs.Saves

/-!
# What the counter of conflicts counts

The engine counts a conflict where it decides about a rerun, after an attempt at the step of a
stored instance. The history tells every save that the store refused as stale. A new instance whose
save is refused has no reruns, and its conflict is not counted.

* `Tallied`: a part of a run, with the conflicts that were counted and the saves that were refused
  meanwhile. What a nested delivery does is tallied as a whole; of the attempt around it, nothing is
  until it has ended.
* `trial_tallied`, `create_tallied`: one attempt, once it has ended.
* `handleWith_keepsTally`, `follow_tallied`: a delivery, and a run.
* `conflicts_counted`: the counter against the history.
* `conflict_uncounted`: a conflict that is not counted.
-/

namespace Sagas

variable {A : Application} {α β : Type}

/-- The saga type of a record whose save was refused as stale. -/
def Event.stale? : Event A → Option String
  | .saved record (.error (.conflict ..)) => some record.sagaType
  | _ => none

/-- Whether an event enters a creation hook. -/
def Event.isHook : Event A → Bool
  | .hooked .. => true
  | _ => false

/-- Whether an attempt is one at making a new instance. -/
def makesNew (entries : List (Entry A)) (attempt : Nat) : Bool :=
  (eventsOf attempt entries).any Event.isHook

/-- The saves under the name of a saga type that were refused as stale. -/
def refusals (name : String) (entries : List (Entry A)) : List (Entry A) :=
  entries.filter fun e => e.event.stale? == some name

theorem Event.isEngine_of_stale? {event : Event A} {name : String}
    (h : event.stale? = some name) : event.isEngine = true := by
  cases event <;> first | rfl | cases h

theorem Event.isWrite_of_stale? {event : Event A} {name : String}
    (h : event.stale? = some name) : event.isWrite = true := by
  cases event <;> first | rfl | cases h

/-! ## Tallies of a part of a run

Attempts are told apart by a labelling: `new a` says whether the attempt with number `a` is one at
making a new instance. -/

/-- What entries show of their attempts is what these are labelled. -/
def Labelled (new : Nat → Bool) (es : List (Entry A)) : Prop :=
  ∀ e ∈ es, (∀ saga runner, e.event = .hooked saga runner → new e.attempt = true) ∧
    ∀ key result, e.event = .loaded key result → new e.attempt = false

/-- Whether an entry is a refused save that is counted. -/
def Entry.counted (new : Nat → Bool) (name : String) (e : Entry A) : Bool :=
  e.event.stale? == some name && !new e.attempt

theorem Entry.isEngine_of_counted {new : Nat → Bool} {name : String} {e : Entry A}
    (h : e.counted new name = true) : e.event.isEngine = true := by
  unfold counted at h
  rw [Bool.and_eq_true, beq_iff_eq] at h
  exact Event.isEngine_of_stale? h.1

/-- A part of a run, with the conflicts that were counted and the refused saves below a depth. -/
structure Tallied (new : Nat → Bool) (name : String) (offset : Nat) (w : World A)
    (es : List (Entry A)) (w' : World A) : Prop where
  history : w'.history = w.history ++ es
  depth : w'.depth = w.depth
  place : ∀ e ∈ es, w.depth ≤ e.depth
  count : Labelled new es → w'.conflicts.count name = w.conflicts.count name +
    es.countP fun e => decide (w.depth + offset ≤ e.depth) && e.counted new name

/-- A computation that counts the refused saves below a depth as it goes. -/
def KeepsTally (new : Nat → Bool) (name : String) (offset : Nat) (run : Run A α) : Prop :=
  ∀ w, ∃ es, Tallied new name offset w es (run w).2

variable {new : Nat → Bool} {name : String} {offset : Nat} {w w' w'' : World A}
  {es es' : List (Entry A)}

theorem Labelled.left (h : Labelled new (es ++ es')) : Labelled new es :=
  fun e hmem => h e (List.mem_append_left _ hmem)

theorem Labelled.right (h : Labelled new (es ++ es')) : Labelled new es' :=
  fun e hmem => h e (List.mem_append_right _ hmem)

theorem Tallied.quiet (hjournal : w'.journal = w.journal) (hdepth : w'.depth = w.depth)
    (hmetrics : w'.conflicts = w.conflicts) : Tallied new name offset w [] w' := by
  refine ⟨by simp [World.history, hjournal], hdepth, by simp, fun _ => ?_⟩
  rw [hmetrics]
  rfl

theorem Tallied.trans (h : Tallied new name offset w es w')
    (h' : Tallied new name offset w' es' w'') : Tallied new name offset w (es ++ es') w'' := by
  refine ⟨by rw [h'.history, h.history, List.append_assoc], h'.depth.trans h.depth, ?_, ?_⟩
  · intro e hmem
    rcases List.mem_append.1 hmem with hmem | hmem
    · exact h.place e hmem
    · have hplace := h'.place e hmem
      rwa [h.depth] at hplace
  · intro hlabels
    rw [h'.count hlabels.right, h.count hlabels.left, h.depth, List.countP_append, Nat.add_assoc]

namespace KeepsTally

theorem quiet {run : Run A α} (hjournal : ∀ w, (run w).2.journal = w.journal)
    (hdepth : ∀ w, (run w).2.depth = w.depth)
    (hconflicts : ∀ w, (run w).2.conflicts = w.conflicts) : KeepsTally new name offset run :=
  fun w => ⟨[], .quiet (hjournal w) (hdepth w) (hconflicts w)⟩

theorem bind {x : Run A α} {f : α → Run A β} (hx : KeepsTally new name offset x)
    (hf : ∀ a, KeepsTally new name offset (f a)) : KeepsTally new name offset (x >>= f) := by
  intro w
  obtain ⟨es, hes⟩ := hx w
  obtain ⟨es', hes'⟩ := hf (x w).1 (x w).2
  rw [Run.bind_apply]
  exact ⟨es ++ es', hes.trans hes'⟩

theorem joins : Joins (A := A) (KeepsTally new name offset) where
  pure _ := .quiet (fun _ => rfl) (fun _ => rfl) fun _ => rfl
  bind := bind

/-- An entry of the attempt in progress stands at its own depth, where nothing is counted yet. -/
theorem record (event : Event A) : KeepsTally new name 1 (World.record event) := by
  intro w
  refine ⟨[w.entry event], history_logged w event, rfl, fun e hmem => ?_, fun _ => ?_⟩
  · rw [List.mem_singleton.1 hmem]
    exact Nat.le_refl _
  · have hshallow : ¬ w.depth + 1 ≤ (w.entry event).depth := Nat.not_succ_le_self _
    rw [List.countP_singleton, decide_eq_false hshallow]
    rfl

theorem compositional : Compositional (A := A) (KeepsTally new name 1) where
  pure _ := .quiet (fun _ => rfl) (fun _ => rfl) fun _ => rfl
  bind := bind
  read := .quiet (fun _ => rfl) (fun _ => rfl) fun _ => rfl
  record := record
  onResources _ := .quiet (fun _ => rfl) (fun _ => rfl) fun _ => rfl
  beginAttempt := .quiet (fun _ => rfl) (fun _ => rfl) fun _ => rfl
  emit _ _ := .quiet (fun _ => rfl) (fun _ => rfl) fun _ => rfl
  count _ hmetrics := .quiet (fun _ => rfl) (fun _ => rfl) fun w => (Smooth.count hmetrics w).1

end KeepsTally

/-- **A nested delivery** is tallied as a whole: all of its entries stand below. -/
theorem nested_keepsTally {send : Request A.Body → Run A Answer}
    (hsend : ∀ request, KeepsTally new name 0 (send request)) (request : Request A.Body) :
    KeepsTally new name 1 (World.nested (send request)) := by
  intro w
  obtain ⟨es, hes⟩ := hsend request { w with depth := w.depth + 1 }
  have hdeeper : ∀ e ∈ es, w.depth + 1 ≤ e.depth := hes.place
  exact ⟨es, hes.history, rfl, fun e hmem => Nat.le_of_succ_le (hdeeper e hmem), hes.count⟩

/-! ## One attempt -/

/-- The entries of an attempt and of the deliveries nested in it, told apart by their depths. -/
theorem countP_own {depth : Nat} {p : Entry A → Bool} {q : Event A → Bool}
    (hplace : ∀ e ∈ es, depth ≤ e.depth)
    (hengine : ∀ e, p e = true → e.event.isEngine = true)
    (hown : ∀ e ∈ es, e.event.isEngine = true → e.depth = depth → p e = q e.event) :
    es.countP (fun e => decide (depth + 0 ≤ e.depth) && p e) =
      es.countP (fun e => decide (depth + 1 ≤ e.depth) && p e) +
        (eventsAt depth es).countP q := by
  have hall : es.countP (fun e => decide (depth + 0 ≤ e.depth) && p e) = es.countP p := by
    refine List.countP_congr fun e hmem => ?_
    simp [hplace e hmem]
  have hdeeper : es.countP (fun e => decide (depth + 1 ≤ e.depth) && p e) =
      (es.filter fun e => decide (depth + 1 ≤ e.depth)).countP p := by
    rw [List.countP_filter]
    simp only [Bool.and_comm]
  have hmine : (eventsAt depth es).countP q =
      (es.filter fun e => !decide (depth + 1 ≤ e.depth)).countP p := by
    unfold eventsAt
    rw [List.countP_map, List.countP_filter, List.countP_filter]
    refine List.countP_congr fun e hmem => ?_
    have hdepth := hplace e hmem
    rcases Nat.lt_or_ge depth e.depth with hbelow | hlevel
    · have hne : e.depth ≠ depth := Nat.ne_of_gt hbelow
      have hdeep : depth + 1 ≤ e.depth := hbelow
      simp [hne, hdeep]
    · obtain rfl : e.depth = depth := Nat.le_antisymm hlevel hdepth
      cases hp : e.event.isEngine with
      | true => simp [hown e hmem hp rfl]
      | false =>
        have hnot : ¬ p e = true := fun h => by simp [hengine e h] at hp
        simp [hnot]
  rw [hall, hdeeper, hmine]
  exact List.countP_eq_countP_filter_add es p _

namespace Visit

variable {visit : Visit A} {stage : Stage} {handler : Handler A} {runner : Instance} {key : Key}
  {state : A.State} {step : StepInfo} {events : List (Event A)}
  {result : Except SagaError Settled}

/-- Whether a step ended in a conflict. -/
def conflicted : Except SagaError Settled → Bool
  | .error (.conflict _) => true
  | _ => false

theorem isStale_eq (trial : Trial A) : trial.isStale = conflicted trial.result := by
  obtain ⟨before, result, after⟩ := trial
  cases result with
  | ok settled => rfl
  | error error => cases error <;> rfl

theorem Settles.stale {transition : Transition A.Body}
    (h : visit.Settles step state transition events result) :
    events.filterMap Event.stale? = if conflicted result then [step.key.sagaType] else [] := by
  cases h with
  | redelivered | cancelled | unwritable | silent | published | unpublished => rfl
  | refused =>
    rename_i error _ _
    cases error <;> rfl

theorem Executes.stale (h : visit.Executes stage handler runner key state events result) :
    events.filterMap Event.stale? = if conflicted result then [key.sagaType] else [] := by
  -- the handler itself saves nothing
  have hworks : ∀ {entered answer left},
      visit.Works (visit.stepOf stage key) runner handler state entered answer left →
      entered.filterMap Event.stale? = [] := fun h => by cases h <;> rfl
  cases h with
  | cancelled => rfl
  | raised hentered =>
    rw [List.filterMap_append, hworks hentered]
    rfl
  | settled hentered hsettles =>
    rw [List.filterMap_append, hworks hentered]
    exact hsettles.stale

/-- **An attempt ends in a conflict** exactly if its save was refused as stale, where its record
could be loaded. -/
theorem Advances.stale (h : visit.Advances stage handler key events result)
    (hloaded : ∀ error, events ≠ [.loaded key (.error error)]) :
    events.filterMap Event.stale? = if conflicted result then [key.sagaType] else [] := by
  cases h with
  | cancelled | missing | terminated | abandoned => rfl
  | unloaded => exact absurd rfl (hloaded _)
  | unreadable _ herror =>
    obtain ⟨source, rfl⟩ := stateOf_eq_error herror
    rfl
  | unresolved _ _ herror =>
    obtain ⟨source, rfl⟩ := checkInstance_eq_error herror
    rfl
  | executed _ _ _ hexecutes => exact hexecutes.stale

section

variable {C : List (Event A) → Prop} {R : World A → List (Entry A) → World A → Prop}
  (hwithin : Within C R (begun w) es w')
include hwithin

/-- The engine's entries at the depth of an attempt are its own. -/
theorem attempt_of_depth {e : Entry A} (hmem : e ∈ es) (hengine : e.event.isEngine = true)
    (hdepth : e.depth = w.depth) : e.attempt = w.attempts + 1 := by
  rcases hwithin.place e hmem hengine with ⟨-, hattempt⟩ | ⟨hdeeper, -⟩
  · exact hattempt
  · exact absurd hdepth (Nat.ne_of_gt hdeeper)

/-- What the events of an attempt show is what the attempt is labelled. -/
theorem exists_own {event : Event A} (hevent : event ∈ eventsAt w.depth es) :
    ∃ e ∈ es, e.event = event ∧ e.attempt = w.attempts + 1 := by
  obtain ⟨e, hmem, hengine, hdepth, rfl⟩ := mem_eventsAt.1 hevent
  exact ⟨e, hmem, rfl, attempt_of_depth hwithin hmem hengine hdepth⟩

variable (name) in
/-- **What is counted of an attempt** and of the deliveries nested in it, where every attempt that
writes is labelled alike. -/
theorem countP_attempt {label : Bool} (hplace : ∀ e ∈ es, w.depth ≤ e.depth)
    (hlabel : ∀ event ∈ eventsAt w.depth es, event.isWrite = true →
      new (w.attempts + 1) = label) :
    es.countP (fun e => decide (w.depth + 0 ≤ e.depth) && e.counted new name) =
      es.countP (fun e => decide (w.depth + 1 ≤ e.depth) && e.counted new name) +
        if label then 0 else ((eventsAt w.depth es).filterMap Event.stale?).count name := by
  have hown : ∀ e ∈ es, e.event.isEngine = true → e.depth = w.depth →
      e.counted new name = (e.event.stale? == some name && !label) := by
    intro e hmem hengine hdepth
    unfold Entry.counted
    by_cases hstale : e.event.stale? = some name
    · have hevent : e.event ∈ eventsAt w.depth es :=
        mem_eventsAt.2 ⟨e, hmem, hengine, hdepth, rfl⟩
      rw [attempt_of_depth hwithin hmem hengine hdepth,
        hlabel _ hevent (Event.isWrite_of_stale? hstale)]
    · rw [beq_false_of_ne hstale]
      rfl
  rw [countP_own (q := fun event => event.stale? == some name && !label) hplace
    (fun _ => Entry.isEngine_of_counted) hown, List.count_filterMap]
  cases label <;> simp

variable (hlabels : Labelled new es) {event : Event A} (hmem : event ∈ eventsAt w.depth es)
  (hwrite : event.isWrite = true)
include hlabels hmem hwrite

/-- An attempt that writes is labelled by what it has loaded before. -/
theorem Advances.label
    (h : visit.Advances stage handler key (eventsAt w.depth es) result) :
    new (w.attempts + 1) = false := by
  obtain ⟨before, after, hevents⟩ := List.append_of_mem hmem
  obtain ⟨previous, _, _, before', -, -, rfl, -⟩ := h.cut hwrite hevents
  obtain ⟨e, he, hloaded, hattempt⟩ : ∃ e ∈ es, e.event = .loaded key (.ok (some previous)) ∧
      e.attempt = w.attempts + 1 := exists_own hwithin (by simp [hevents])
  rw [← hattempt]
  exact (hlabels e he).2 _ _ hloaded

/-- An attempt at a new instance that writes is labelled by its creation hook. -/
theorem Creates.label (h : visit.Creates handler (eventsAt w.depth es) result) :
    new (w.attempts + 1) = true := by
  obtain ⟨before, after, hevents⟩ := List.append_of_mem hmem
  obtain ⟨runner, _, before', -, -, rfl, -⟩ := h.cut hwrite hevents
  obtain ⟨e, he, hhooked, hattempt⟩ : ∃ e ∈ es, e.event = .hooked visit.saga.type runner ∧
      e.attempt = w.attempts + 1 := exists_own hwithin (by simp [hevents])
  rw [← hattempt]
  exact (hlabels e he).1 _ _ hhooked

end

section

variable (hmemory : visit.orchestrator.InMemory)
  (hsends : Sends (fun _ => True) (fun _ _ _ => True) visit.send)
  (hsend : ∀ request, KeepsTally new name 0 (visit.send request))
include hsends hsend

include hmemory in
/-- **One attempt at the step of a stored instance**: its conflict is counted once it has ended. -/
theorem trial_tallied (stage : Stage) (handler : Handler A) (key : Key)
    (hkey : key.sagaType = visit.sagaType) (w : World A) :
    ∃ es, Tallied new name 0 w es (visit.ended (visit.trial stage handler key w)) := by
  obtain ⟨es, hwithin, hadvances, hloads⟩ :=
    advanceOnce_within (Law.trivial _) hsends stage handler key w
  have hkeeps : KeepsTally new name 1 (visit.advanceOnce stage handler key).run :=
    KeepsTally.compositional.advanceOnce
      (KeepsTally.compositional.programs (nested_keepsTally hsend) handler) stage key
  obtain ⟨es', htallied⟩ := hkeeps w
  obtain rfl : es = es' := List.append_cancel_left (hwithin.history.symm.trans htallied.history)
  have hworld : (visit.ended (visit.trial stage handler key w)).history =
        ((visit.advanceOnce stage handler key).run w).2.history ∧
      (visit.ended (visit.trial stage handler key w)).depth =
        ((visit.advanceOnce stage handler key).run w).2.depth := by
    unfold ended
    split <;> exact ⟨rfl, rfl⟩
  refine ⟨es, hworld.1.trans htallied.history, hworld.2.trans htallied.depth, htallied.place,
    fun hlabels => ?_⟩
  have hloaded : ∀ error, eventsAt w.depth es ≠ [.loaded key (.error error)] := by
    intro error hevents
    rw [hevents] at hloads
    cases (loadedIn_inMemory hmemory).symm.trans hloads.loadedIn_eq
  -- the refused save of the attempt itself is what has made it end in a conflict
  have hown : (eventsAt w.depth es).filterMap Event.stale? =
      List.replicate ([visit.trial stage handler key w].countP Trial.isStale) visit.sagaType := by
    have hstale : (visit.trial stage handler key w).isStale =
        conflicted ((visit.advanceOnce stage handler key).run w).1 := isStale_eq _
    rw [hadvances.stale hloaded, hkey, List.countP_singleton, hstale]
    cases conflicted ((visit.advanceOnce stage handler key).run w).1 <;> rfl
  have hbelow : (visit.trial stage handler key w).after.conflicts.count name = _ :=
    htallied.count hlabels
  have hsplit := countP_attempt name hwithin htallied.place
    fun event hmem hwrite => hadvances.label hwithin hlabels hmem hwrite
  rw [conflicts_ended, List.count_append, ← hown, hbelow, hsplit, if_neg Bool.false_ne_true]
  omega

/-- **An attempt at a new instance**: nothing is counted of itself. -/
theorem create_keepsTally (handler : Handler A) :
    KeepsTally new name 0 (visit.create handler).run := by
  intro w
  obtain ⟨es, hwithin, hcreates, -⟩ := create_within (Law.trivial _) hsends handler w
  have hkeeps : KeepsTally new name 1 (visit.create handler).run :=
    KeepsTally.compositional.create
      (KeepsTally.compositional.programs (nested_keepsTally hsend) handler)
  obtain ⟨es', htallied⟩ := hkeeps w
  obtain rfl : es = es' := List.append_cancel_left (hwithin.history.symm.trans htallied.history)
  refine ⟨es, htallied.history, htallied.depth, htallied.place, fun hlabels => ?_⟩
  have hsplit := countP_attempt name hwithin htallied.place
    fun event hmem hwrite => hcreates.label hwithin hlabels hmem hwrite
  rw [htallied.count hlabels, hsplit]
  rfl

include hmemory

/-- The attempts at the step of a stored instance, by induction on the reruns. -/
theorem attempts_keepsTally (stage : Stage) (handler : Handler A) (key : Key)
    (hkey : key.sagaType = visit.sagaType) (reruns made : Nat) :
    KeepsTally new name 0 (visit.attempts stage handler key reruns made).run := by
  induction reruns generalizing made with
  | zero =>
    intro w
    rw [attempts_zero_run]
    exact trial_tallied hmemory hsends hsend stage handler key hkey w
  | succ reruns ih =>
    intro w
    rw [attempts_succ_run]
    obtain ⟨es, hfirst⟩ : ∃ es, Tallied new name 0 w es
        (visit.ended (visit.trial stage handler key w)) :=
      trial_tallied hmemory hsends hsend stage handler key hkey w
    unfold ended at hfirst
    by_cases hstale : (visit.trial stage handler key w).isStale = true
    · -- the conflict is counted, and the log is no matter
      rw [if_pos hstale] at hfirst ⊢
      have hagain : Tallied new name 0 w es
          (visit.again key (made + 1) (visit.trial stage handler key w).after) :=
        ⟨hfirst.history, hfirst.depth, hfirst.place, hfirst.count⟩
      obtain ⟨es', hrest⟩ :=
        ih (made + 1) (visit.again key (made + 1) (visit.trial stage handler key w).after)
      exact ⟨es ++ es', hagain.trans hrest⟩
    · rw [if_neg hstale] at hfirst ⊢
      exact ⟨es, hfirst⟩

/-- **The step of one saga.** -/
theorem dispatch_keepsTally : KeepsTally new name 0 visit.dispatch.run := by
  cases hcase : visit.registration.handler? visit.request.message.type with
  | none =>
    rw [dispatch_of_none hcase]
    exact .quiet (fun _ => rfl) (fun _ => rfl) fun _ => rfl
  | some found =>
    obtain ⟨stage, handler⟩ := found
    intro w
    by_cases hstage : stage = .start
    · subst hstage
      rw [dispatch_run_of_start visit hcase]
      exact create_keepsTally hsends hsend handler w
    · cases hid : visit.registration.correlate visit.request.message with
      | error error =>
        rw [dispatch_run_of_uncorrelated hstage hcase hid]
        exact ⟨[], .quiet rfl rfl rfl⟩
      | ok sagaId =>
        rw [dispatch_run_attempts visit hstage hcase hid]
        exact attempts_keepsTally hmemory hsends hsend stage handler _ rfl _ 0 w

end

end Visit

/-! ## Deliveries and runs -/

namespace Orchestrator

variable {orchestrator : Orchestrator A} (hmemory : orchestrator.InMemory)
include hmemory

theorem handleWith_keepsTally {send : Request A.Body → Run A Answer}
    (hsends : Sends (fun _ => True) (fun _ _ _ => True) send)
    (hsend : ∀ request, KeepsTally new name 0 (send request)) (request : Request A.Body) :
    KeepsTally new name 0 (orchestrator.handleWith send request) := by
  have hdispatch : ∀ registration, KeepsTally new name 0
      (Visit.dispatch { orchestrator, send, registration, request }).run :=
    fun _ => Visit.dispatch_keepsTally hmemory hsends hsend
  exact KeepsTally.joins.handleWith (.quiet (fun _ => rfl) (fun _ => rfl) fun _ => rfl)
    (.quiet (fun _ => rfl) (fun _ => rfl) fun _ => rfl)
    (fun _ _ => .quiet (fun _ => rfl) (fun _ => rfl) fun _ => rfl) hdispatch

/-- By induction on the nesting. -/
theorem below_keepsTally (nesting : Nat) (request : Request A.Body) :
    KeepsTally new name 0 (orchestrator.below nesting request) := by
  induction nesting generalizing request with
  | zero => exact .quiet (fun _ => rfl) (fun _ => rfl) fun _ => rfl
  | succ nesting ih =>
    change KeepsTally new name 0 (orchestrator.deliver nesting request)
    rw [deliver_eq]
    exact handleWith_keepsTally hmemory (orchestrator.below_free (Law.trivial _) nesting) ih request

theorem perform_tallied (move : Move A) (w : World A) :
    ∃ es, Tallied new name 0 w es (orchestrator.perform w move) := by
  cases move with
  | deliver nesting request => exact below_keepsTally hmemory (nesting + 1) request w
  | prepare | wait | failSaves | failPublishes => exact ⟨[], .quiet rfl rfl rfl⟩

/-- **A run is tallied**, by induction on its moves. -/
theorem follow_tallied (moves : List (Move A)) (w : World A) :
    ∃ es, Tallied new name 0 w es (orchestrator.follow moves w) := by
  induction moves generalizing w with
  | nil => exact ⟨[], .quiet rfl rfl rfl⟩
  | cons move moves ih =>
    obtain ⟨es, hes⟩ : ∃ es, Tallied new name 0 w es (orchestrator.perform w move) :=
      perform_tallied hmemory move w
    obtain ⟨es', hes'⟩ := ih (orchestrator.perform w move)
    exact ⟨es ++ es', hes.trans hes'⟩

end Orchestrator

/-! ## The counter -/

namespace Visit

variable {visit : Visit A} {stage : Stage} {handler : Handler A} {runner : Instance} {key : Key}
  {state : A.State} {saga : SagaType} {events : List (Event A)}
  {result : Except SagaError Settled}

/-- No attempt at the step of a stored instance runs a creation hook. -/
theorem Advances.not_hooked (h : visit.Advances stage handler key events result) :
    .hooked saga runner ∉ events := by
  cases h with
  | executed _ _ _ hexecutes =>
    intro hmem
    rcases List.mem_cons.1 hmem with hloaded | hmem
    · cases hloaded
    · rcases List.mem_cons.1 hmem with hresolved | hmem
      · cases hresolved
      · exact hexecutes.ofStep _ hmem
  | _ => simp

end Visit

/-- **In the history of a run, creation hooks tell which attempts made new instances.** -/
theorem Ran.labelled {orchestrator : Orchestrator A} {start : Resources A}
    (h : Ran orchestrator start w) : Labelled (makesNew w.history) w.history := by
  intro e hmem
  constructor
  · intro saga runner hevent
    have hengine : e.event.isEngine = true := by rw [hevent]; rfl
    refine List.any_eq_true.2 ⟨e.event, mem_eventsOf hmem hengine, ?_⟩
    rw [hevent]
    rfl
  · intro key answer hevent
    have hengine : e.event.isEngine = true := by rw [hevent]; rfl
    have hloaded := mem_eventsOf hmem hengine
    rw [hevent] at hloaded
    refine List.any_eq_false.2 fun event hother hhook => ?_
    -- an attempt that loads a record is none at a new instance
    cases h.course_of_mem hmem hengine with
    | create _ _ _ hcreates => exact hcreates.not_loaded hloaded
    | advance _ _ _ _ _ hadvances =>
      cases event with
      | hooked saga runner => exact hadvances.not_hooked hother
      | _ => cases hhook

theorem count_conflicts (metrics : List Metric) (name : String) :
    (metrics.filterMap Metric.conflict?).count name = metrics.count (.conflicts name) := by
  rw [List.count_filterMap, List.count_eq_countP]
  refine List.countP_congr fun metric _ => ?_
  cases metric <;> simp [Metric.conflict?]

/-- **What the counter of conflicts counts.** In every run over the gateways in memory, and for
every name of a saga type: the saves under that name that were refused as stale, those of new
instances left out. So it counts every refused save exactly if no new instance was refused its
save. -/
theorem Orchestrator.conflicts_counted {orchestrator : Orchestrator A}
    (hmemory : orchestrator.InMemory) (start : Resources A) (moves : List (Move A))
    (name : String) :
    let w := orchestrator.follow moves (World.ofResources start)
    let refused := refusals name w.history
    w.metrics.count (.conflicts name) =
        (refused.filter fun e => !makesNew w.history e.attempt).length ∧
      (w.metrics.count (.conflicts name) = refused.length ↔
        ∀ e ∈ refused, makesNew w.history e.attempt = false) := by
  intro w refused
  have hran := follow_ran hmemory start moves
  obtain ⟨es, htallied⟩ : ∃ es,
      Tallied (makesNew w.history) name 0 (World.ofResources start) es w :=
    follow_tallied hmemory moves (World.ofResources start)
  obtain rfl : w.history = es := htallied.history
  have hcount : w.metrics.count (.conflicts name) =
      (refused.filter fun e => !makesNew w.history e.attempt).length := by
    have htold := htallied.count hran.labelled
    have hnone : (World.ofResources start).conflicts.count name = 0 := rfl
    have hall : ∀ e : Entry A, ((World.ofResources start).depth + 0 ≤ e.depth) :=
      fun e => Nat.zero_le e.depth
    simp only [hnone, hall, decide_true, Bool.true_and, Nat.zero_add] at htold
    change _ = ((w.history.filter _).filter _).length
    rw [← count_conflicts, List.filter_filter, ← List.countP_eq_length_filter]
    refine htold.trans (List.countP_congr fun e _ => ?_)
    rw [Bool.and_comm]
    rfl
  refine ⟨hcount, ?_⟩
  rw [hcount, List.length_filter_eq_length_iff]
  simp

section Counters

open Simulation

/-- A counter is opened, added to, which takes a rerun, and opened once more, which is refused. -/
def reopening : List (Move Scripted) :=
  [openCounter, addToCounter, openCounter].map fun message => .deliver 2 (requestTo message)

theorem Orchestrator.conflicts_counted_counters :
    let w := counters.follow reopening (World.ofResources emptyBench)
    counters.InMemory ∧ (refusals "Counter" w.history).length = 2 ∧
      w.metrics.count (.conflicts "Counter") = 1 ∧
      ¬ ∀ e ∈ refusals "Counter" w.history, makesNew w.history e.attempt = false := by
  intro w
  obtain ⟨hcount, hall⟩ :=
    counters.conflicts_counted counters_inMemory emptyBench reopening "Counter"
  have hrefused : (refusals "Counter" w.history).length = 2 := by decide +kernel
  have hcounted : w.metrics.count (.conflicts "Counter") = 1 :=
    hcount.trans (by decide +kernel)
  refine ⟨counters_inMemory, hrefused, hcounted, fun hnone => ?_⟩
  cases hcounted.symm.trans ((hall.2 hnone).trans hrefused)

/-- A counter that is opened twice: the second save is refused as stale, and nothing is counted. -/
theorem Orchestrator.conflict_uncounted :
    let moves := [openCounter, openCounter].map fun message => .deliver 2 (requestTo message)
    let w := counters.follow moves (World.ofResources emptyBench)
    (refusals "Counter" w.history).length = 1 ∧ w.metrics.count (.conflicts "Counter") = 0 := by
  decide +kernel

end Counters

end Sagas
