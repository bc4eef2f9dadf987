import Sagas.Proofs.Endings
import Sagas.Proofs.Walk

/-!
# The turns of a delivery

A delivery gives each saga that reacts to the message its turn, in the order of registration,
until one of them ends in an error. What a saga that ran before leaves in the world stays there.

* `deliver_told`: a delivery is told by its turns, both its answer and the world after it.
* `deliver_events`: its events are those of its turns, one after the other.
* `turns_visits`, `turns_steps`, `map_registration_turns`: each turn is the step of one saga, in the
  order of registration.
* `answer_of_error`, `answer_of_settled`: an error of a turn is the answer; without one, the
  turns that came to something make the answer.
-/

namespace Sagas

variable {A : Application}

/-- The turn of one saga in a delivery: the worlds around its step, and how the step ended. -/
structure Turn (A : Application) where
  registration : Registration A
  before : World A
  result : Except SagaError (Option Settled)
  after : World A

namespace Turn

/-- What the step came to, if the saga had one and it did not end in an error. -/
def settled? (turn : Turn A) : Option Settled := turn.result.toOption.join

/-- The error that the step ended in, if it ended in one. -/
def error? (turn : Turn A) : Option SagaError := match turn.result with
  | .ok _ => none
  | .error error => some error

/-- The events that the step itself left, and not the deliveries nested in it. -/
def events (turn : Turn A) : List (Event A) :=
  eventsAt turn.before.depth (turn.after.history.drop turn.before.history.length)

theorem events_eq {turn : Turn A} {es : List (Entry A)}
    (h : turn.after.history = turn.before.history ++ es) :
    turn.events = eventsAt turn.before.depth es := by
  unfold events
  rw [h, List.drop_left]

theorem result_eq_ok {turn : Turn A} (h : turn.error? = none) :
    turn.result = .ok turn.settled? := by
  unfold error? at h
  unfold settled?
  split at h
  · rename_i settled hresult
    rw [hresult]
    rfl
  · cases h

theorem result_eq_some {turn : Turn A} {settled : Settled} (h : turn.settled? = some settled) :
    turn.result = .ok (some settled) := by
  unfold settled? at h
  cases hresult : turn.result with
  | ok found =>
    rw [hresult] at h
    exact congrArg Except.ok h
  | error error =>
    rw [hresult] at h
    cases h

theorem result_eq_error {turn : Turn A} {error : SagaError} (h : turn.error? = some error) :
    turn.result = .error error := by
  unfold error? at h
  split at h
  · cases h
  · rename_i hresult
    rw [hresult, Option.some.inj h]

end Turn

/-- The turn of the saga of a visit. -/
def Visit.turn (visit : Visit A) (w : World A) : Turn A where
  registration := visit.registration
  before := w
  result := (visit.dispatch.run w).1
  after := (visit.dispatch.run w).2

/-- The world after some turns. -/
def reached (w : World A) (turns : List (Turn A)) : World A := turns.foldl (fun _ turn => turn.after) w

/-- What some turns came to: the error of the one that ended in one, or else all of them. -/
def gathered (turns : List (Turn A)) : Except SagaError (List Settled) :=
  match turns.findSome? Turn.error? with
  | some error => .error error
  | none => .ok (turns.filterMap Turn.settled?)

namespace Orchestrator

/-- The turns of some registrations from a world on, up to the first one that ends in an error. -/
def turnsFrom (orchestrator : Orchestrator A) (send : Request A.Body → Run A Answer)
    (request : Request A.Body) : List (Registration A) → World A → List (Turn A)
  | [], _ => []
  | registration :: rest, w =>
    let turn := Visit.turn { orchestrator, send, registration, request } w
    turn :: if turn.error? = none then orchestrator.turnsFrom send request rest turn.after else []

/-- The world in which the first turn of a delivery begins. -/
def begun (w : World A) : World A := { w with attempt := 0, metrics := .messagesHandled :: w.metrics }

/-- The turns of a delivery. -/
def turns (orchestrator : Orchestrator A) (nesting : Nat) (request : Request A.Body) (w : World A) :
    List (Turn A) :=
  match orchestrator.selected request with
  | .ok registrations =>
    orchestrator.turnsFrom (orchestrator.below nesting) request registrations (begun w)
  | .error _ => []

variable {orchestrator : Orchestrator A} {send : Request A.Body → Run A Answer}
  {request : Request A.Body} {registrations : List (Registration A)} {w : World A}
  {earlier later : List (Turn A)} {turn : Turn A}

/-! ## The turns make the delivery -/

theorem turnsFrom_cons (registration : Registration A) (rest : List (Registration A))
    (w : World A) :
    orchestrator.turnsFrom send request (registration :: rest) w =
      Visit.turn { orchestrator, send, registration, request } w ::
        if (Visit.turn { orchestrator, send, registration, request } w).error? = none then
          orchestrator.turnsFrom send request rest
            (Visit.turn { orchestrator, send, registration, request } w).after
        else [] := rfl

theorem gathered_cons (turn : Turn A) (turns : List (Turn A)) :
    gathered (turn :: turns) = match turn.result with
      | .error error => .error error
      | .ok settled => (gathered turns).map (settled.toList ++ ·) := by
  obtain ⟨registration, before, result, after⟩ := turn
  cases result with
  | error error => rfl
  | ok settled =>
    unfold gathered
    simp only [List.findSome?_cons, Turn.error?]
    cases turns.findSome? Turn.error? with
    | some error => rfl
    | none => cases settled <;> rfl

theorem exists_error?_of_gathered {turns : List (Turn A)} {error : SagaError}
    (h : gathered turns = .error error) : ∃ turn ∈ turns, turn.error? = some error := by
  unfold gathered at h
  split at h
  · rename_i found hfound
    rw [← Except.error.inj h]
    exact List.exists_of_findSome?_eq_some hfound
  · cases h

theorem reached_split (w : World A) :
    reached w (earlier ++ turn :: later) = reached turn.after later := by
  unfold reached
  rw [List.foldl_append, List.foldl_cons]

theorem dispatchAll_run (registrations : List (Registration A)) (w : World A) :
    (orchestrator.dispatchAll send request registrations).run w =
      (gathered (orchestrator.turnsFrom send request registrations w),
        reached w (orchestrator.turnsFrom send request registrations w)) := by
  induction registrations generalizing w with
  | nil => rfl
  | cons registration rest ih =>
    unfold dispatchAll turnsFrom Visit.turn
    generalize hrun : (Visit.dispatch { orchestrator, send, registration, request }).run w = run
    obtain ⟨result, after⟩ := run
    rw [gathered_cons]
    cases result with
    | error error => exact Attempt.run_bind_error hrun
    | ok settled =>
      rw [Attempt.run_bind_ok hrun, ExceptT.run_bind, Run.bind_apply, ih after]
      cases hrest : gathered (orchestrator.turnsFrom send request rest after) with
      | error error => simp [hrest, reached, Turn.error?]; rfl
      | ok others => simp [hrest, reached, Turn.error?]; rfl

/-- **A delivery is told by its turns**: what it answers, and, but for the log, the world that it
leaves. -/
theorem deliver_told (nesting : Nat) (request : Request A.Body) (w : World A) :
    ∃ trace, orchestrator.deliver nesting request w =
      ((orchestrator.selected request).bind fun _ =>
          (gathered (orchestrator.turns nesting request w)).bind (answerOf request.message.type),
        { reached (begun w) (orchestrator.turns nesting request w) with trace }) := by
  rw [deliver_eq]
  unfold handleWith turns
  cases orchestrator.selected request with
  | error error => exact ⟨w.trace, rfl⟩
  | ok registrations =>
    have hrun : (orchestrator.dispatchAll (orchestrator.below nesting) request registrations).run
      (begun w) = _ := dispatchAll_run registrations (begun w)
    simp only
    generalize orchestrator.turnsFrom (orchestrator.below nesting) request registrations
      (begun w) = turns at hrun
    cases hall : gathered turns with
    | error error =>
      rw [hall] at hrun
      exact ⟨_, Attempt.run_bind_error (f := conclude request.message.type) hrun⟩
    | ok settled =>
      rw [hall] at hrun
      exact ⟨_, Attempt.run_bind_ok (f := conclude request.message.type) hrun⟩

theorem map_registration_turnsFrom :
    (orchestrator.turnsFrom send request registrations w).map (·.registration) <+:
      registrations := by
  induction registrations generalizing w with
  | nil => exact List.nil_prefix
  | cons registration rest ih =>
    rw [turnsFrom_cons, List.map_cons]
    refine List.cons_prefix_cons.2 ⟨rfl, ?_⟩
    split
    · exact ih
    · exact List.nil_prefix

/-- **Turns are taken in the order of registration.** -/
theorem map_registration_turns {nesting : Nat}
    (h : orchestrator.selected request = .ok registrations) :
    (orchestrator.turns nesting request w).map (·.registration) <+: registrations := by
  unfold turns
  rw [h]
  exact map_registration_turnsFrom

/-- Later turns are those of the registrations that are left, unless an error has ended them. -/
theorem turnsFrom_split
    (h : orchestrator.turnsFrom send request registrations w = earlier ++ turn :: later) :
    ∃ rest, registrations = earlier.map (·.registration) ++ turn.registration :: rest ∧
      later = if turn.error? = none then orchestrator.turnsFrom send request rest turn.after
        else [] := by
  induction registrations generalizing w earlier with
  | nil => simp [turnsFrom] at h
  | cons registration rest ih =>
    rw [turnsFrom_cons] at h
    cases earlier with
    | nil =>
      obtain ⟨rfl, hlater⟩ := List.cons.inj h
      exact ⟨rest, rfl, hlater.symm⟩
    | cons first earlier =>
      obtain ⟨rfl, hrest⟩ := List.cons.inj h
      split at hrest
      · obtain ⟨left, rfl, hlater⟩ := ih hrest
        exact ⟨left, rfl, hlater⟩
      · simp at hrest

/-- An error ends the turns. -/
theorem turnsFrom_stop
    (h : orchestrator.turnsFrom send request registrations w = earlier ++ turn :: later)
    (herror : turn.error? ≠ none) : later = [] := by
  obtain ⟨rest, -, hlater⟩ := turnsFrom_split h
  rw [hlater, if_neg herror]

end Orchestrator

/-! ## The events of a turn -/

section

variable {w : World A}

/-- What a turn leaves: the ways of its step, and a world in which the next turn can begin. -/
structure Turn.Leaves (visit : Visit A) (turn : Turn A) (es : List (Entry A)) : Prop where
  history : turn.after.history = turn.before.history ++ es
  depth : turn.after.depth = turn.before.depth
  attempt : turn.after.attempt ≤ turn.after.attempts
  events : turn.events = eventsAt turn.before.depth es
  step : visit.Dispatches turn.events turn.result

theorem Visit.turn_leaves {visit : Visit A}
    (hsend : Sends visit.orchestrator.Course (fun _ _ _ => True) visit.send)
    (hreg : visit.registration ∈ visit.orchestrator.directory.registrations)
    (hw : w.attempt ≤ w.attempts) : ∃ es, (visit.turn w).Leaves visit es := by
  obtain ⟨es, hes, hdispatches⟩ :=
    dispatch_yields (Law.trivial visit.orchestrator.gateways) hsend hreg w hw
  have hhistory : (visit.turn w).after.history = w.history ++ es := hes.history
  have hevents : (visit.turn w).events = eventsAt w.depth es := Turn.events_eq hhistory
  refine ⟨es, hhistory, hes.depth, hes.attempt hw, hevents, ?_⟩
  rw [hevents]
  exact hdispatches

namespace Orchestrator

variable {orchestrator : Orchestrator A} {send : Request A.Body → Run A Answer}
  {request : Request A.Body} {registrations : List (Registration A)}

/-- Each turn is the visit of something registered, to the world in which the turn begins. -/
theorem turnsFrom_visits (hsend : Sends orchestrator.Course (fun _ _ _ => True) send)
    (hreg : ∀ registration ∈ registrations, registration ∈ orchestrator.directory.registrations)
    (hw : w.attempt ≤ w.attempts) :
    ∀ turn ∈ orchestrator.turnsFrom send request registrations w,
      turn.registration ∈ orchestrator.directory.registrations ∧
        turn.before.attempt ≤ turn.before.attempts ∧
        Visit.turn { orchestrator, send, registration := turn.registration, request } turn.before =
          turn := by
  induction registrations generalizing w with
  | nil => simp [turnsFrom]
  | cons registration rest ih =>
    let visit : Visit A := { orchestrator, send, registration, request }
    obtain ⟨es, hleaves⟩ : ∃ es, (visit.turn w).Leaves visit es :=
      visit.turn_leaves hsend (hreg registration List.mem_cons_self) hw
    rw [turnsFrom_cons]
    intro turn hmem
    rcases List.mem_cons.1 hmem with rfl | hmem
    · exact ⟨hreg registration List.mem_cons_self, hw, rfl⟩
    · split at hmem
      · exact ih (fun r hr => hreg r (List.mem_cons_of_mem _ hr)) hleaves.attempt turn hmem
      · cases hmem

/-- Together the turns leave what was added to the history. -/
theorem turnsFrom_events (hsend : Sends orchestrator.Course (fun _ _ _ => True) send)
    (hreg : ∀ registration ∈ registrations, registration ∈ orchestrator.directory.registrations)
    (hw : w.attempt ≤ w.attempts) :
    ∃ es, (reached w (orchestrator.turnsFrom send request registrations w)).history =
        w.history ++ es ∧
      eventsAt w.depth es =
        (orchestrator.turnsFrom send request registrations w).flatMap Turn.events := by
  induction registrations generalizing w with
  | nil => exact ⟨[], (List.append_nil _).symm, rfl⟩
  | cons registration rest ih =>
    let visit : Visit A := { orchestrator, send, registration, request }
    obtain ⟨es, hleaves⟩ : ∃ es, (visit.turn w).Leaves visit es :=
      visit.turn_leaves hsend (hreg registration List.mem_cons_self) hw
    have hevents : eventsAt w.depth es = (visit.turn w).events := hleaves.events.symm
    have hdepth : (visit.turn w).after.depth = w.depth := hleaves.depth
    rw [turnsFrom_cons]
    split
    · -- the next turn begins where this one has ended
      obtain ⟨others, hhistory, hothers⟩ :=
        ih (fun r hr => hreg r (List.mem_cons_of_mem _ hr)) hleaves.attempt
      refine ⟨es ++ others, ?_, ?_⟩
      · rw [← List.append_assoc]
        exact hhistory.trans (congrArg (· ++ others) hleaves.history)
      · rw [hdepth] at hothers
        rw [eventsAt_append, hothers, hevents]
        rfl
    · refine ⟨es, hleaves.history, ?_⟩
      rw [hevents]
      simp [visit]

/-- **The turns of a delivery** are visits of what is registered. -/
theorem turns_visits (nesting : Nat) (request : Request A.Body) (w : World A) :
    ∀ turn ∈ orchestrator.turns nesting request w,
      turn.registration ∈ orchestrator.directory.registrations ∧
        turn.before.attempt ≤ turn.before.attempts ∧
        Visit.turn
          { orchestrator, send := orchestrator.below nesting, registration := turn.registration,
            request } turn.before = turn := by
  unfold turns
  split
  · rename_i registrations hselected
    have hsend := below_sends (Law.trivial orchestrator.gateways) nesting
    exact turnsFrom_visits hsend (mem_of_selected hselected) (Nat.zero_le _)
  · simp

/-- The turns of a delivery are steps of registered sagas that the request is for. -/
theorem turns_steps (nesting : Nat) (request : Request A.Body) (w : World A) :
    ∀ turn ∈ orchestrator.turns nesting request w, Visit.Dispatches
      { orchestrator, send := orchestrator.below nesting, registration := turn.registration,
        request } turn.events turn.result := by
  intro turn hmem
  obtain ⟨hreg, hw, hturn⟩ := turns_visits nesting request w turn hmem
  let visit : Visit A :=
    { orchestrator, send := orchestrator.below nesting, registration := turn.registration, request }
  obtain ⟨es, hleaves⟩ : ∃ es, (visit.turn turn.before).Leaves visit es :=
    visit.turn_leaves (below_sends (Law.trivial orchestrator.gateways) nesting) hreg hw
  rw [show visit.turn turn.before = turn from hturn] at hleaves
  exact hleaves.step

/-- **The events of a delivery** are those of its turns, one after the other. -/
theorem deliver_events (nesting : Nat) (request : Request A.Body) (w : World A) :
    ∃ es, (orchestrator.deliver nesting request w).2.history = w.history ++ es ∧
      eventsAt w.depth es = (orchestrator.turns nesting request w).flatMap Turn.events := by
  obtain ⟨trace, htold⟩ := orchestrator.deliver_told nesting request w
  rw [htold]
  unfold turns
  split
  · rename_i registrations hselected
    have hsend := below_sends (Law.trivial orchestrator.gateways) nesting
    exact turnsFrom_events hsend (mem_of_selected hselected) (Nat.zero_le _)
  · exact ⟨[], (List.append_nil _).symm, rfl⟩

end Orchestrator

end

/-! ## What the turns make of the answer -/

namespace Orchestrator

variable {orchestrator : Orchestrator A} {nesting : Nat} {request : Request A.Body} {w : World A}
  {earlier later : List (Turn A)} {turn : Turn A} {error : SagaError}

/-- Without a selection there are no turns. -/
theorem selected_of_turns_ne_nil (h : orchestrator.turns nesting request w ≠ []) :
    ∃ registrations, orchestrator.selected request = .ok registrations := by
  unfold turns at h
  cases hselected : orchestrator.selected request with
  | ok registrations => exact ⟨registrations, rfl⟩
  | error error => simp [hselected] at h

/-- An error ends the turns of a delivery. -/
theorem turns_stop (h : orchestrator.turns nesting request w = earlier ++ turn :: later)
    (herror : turn.error? ≠ none) : later = [] := by
  unfold turns at h
  split at h
  · exact turnsFrom_stop h herror
  · simp at h

theorem answer_eq (nesting : Nat) (request : Request A.Body) (w : World A) :
    (orchestrator.deliver nesting request w).1 =
      (orchestrator.selected request).bind fun _ =>
        (gathered (orchestrator.turns nesting request w)).bind
          (answerOf request.message.type) := by
  obtain ⟨trace, htold⟩ := orchestrator.deliver_told nesting request w
  rw [htold]

theorem findSome?_error? (h : orchestrator.turns nesting request w = earlier ++ turn :: later)
    (herror : turn.error? = some error) :
    (orchestrator.turns nesting request w).findSome? Turn.error? = some error := by
  -- no error came before, since an error ends the turns
  have hnone : earlier.findSome? Turn.error? = none := by
    refine List.findSome?_eq_none_iff.2 fun other hmem => ?_
    obtain ⟨front, back, rfl⟩ := List.append_of_mem hmem
    cases hother : other.error? with
    | none => rfl
    | some _ =>
      rw [List.append_assoc, List.cons_append] at h
      have hback : back ++ turn :: later = [] := turns_stop h (by simp [hother])
      simp at hback
  rw [h, List.findSome?_append, hnone, Option.none_or, List.findSome?_cons, herror]

/-- **The error of a turn is the answer of the delivery.** -/
theorem answer_of_error (hmem : turn ∈ orchestrator.turns nesting request w)
    (herror : turn.error? = some error) :
    (orchestrator.deliver nesting request w).1 = .error error := by
  obtain ⟨earlier, later, hturns⟩ := List.append_of_mem hmem
  obtain ⟨registrations, hselected⟩ := selected_of_turns_ne_nil (List.ne_nil_of_mem hmem)
  rw [answer_eq, hselected, gathered, findSome?_error? hturns herror]
  rfl

/-- **Without an error of a turn** the answer is that of what the turns came to. -/
theorem answer_of_settled (hne : orchestrator.turns nesting request w ≠ [])
    (hnone : ∀ turn ∈ orchestrator.turns nesting request w, turn.error? = none) :
    (orchestrator.deliver nesting request w).1 =
      answerOf request.message.type
        ((orchestrator.turns nesting request w).filterMap Turn.settled?) := by
  obtain ⟨registrations, hselected⟩ := selected_of_turns_ne_nil hne
  rw [answer_eq, hselected, gathered, List.findSome?_eq_none_iff.2 hnone]
  rfl

end Orchestrator

end Sagas
