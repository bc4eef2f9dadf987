import Sagas.Proofs.Course

/-!
# What stands before a save

The events of an attempt up to one of its writes: what the step was made from, and what its
handler left. An attempt saves at most once, so nothing else of its own has been written by
then.

* `Course.cut`: an attempt that writes is a start step, whose creation hook has left an id, or the
  step of a loaded record that was not terminal.
* `Course.saved`: the same for an accepted save, with what was saved.
-/

namespace Sagas

variable {A : Application}

/-- Whether an event is an attempt to save or to publish. -/
def Event.isWrite : Event A → Bool
  | .saved .. | .published .. => true
  | _ => false

/-- The first event of a list that is cut at another event stands before the cut. -/
theorem cut_of_cons {α : Type} {first event : α} {rest before after : List α}
    (h : first :: rest = before ++ event :: after) (hne : first ≠ event) :
    ∃ before', before = first :: before' ∧ rest = before' ++ event :: after := by
  cases before with
  | nil => exact absurd (List.cons.inj h).1 hne
  | cons head before' =>
    obtain ⟨rfl, hrest⟩ := List.cons.inj h
    exact ⟨before', rfl, hrest⟩

/-- What is no write itself stands before the first one. -/
theorem cut_at_write {first event : Event A} {rest before after : List (Event A)}
    (h : first :: rest = before ++ event :: after) (hfirst : first.isWrite = false)
    (hevent : event.isWrite = true) :
    ∃ before', before = first :: before' ∧ rest = before' ++ event :: after := by
  refine cut_of_cons h ?_
  rintro rfl
  rw [hevent] at hfirst
  cases hfirst

namespace Visit

variable {visit : Visit A} {stage : Stage} {handler : Handler A} {runner : Instance} {key : Key}
  {state : A.State} {step : StepInfo} {transition : Transition A.Body} {record : Record}
  {token : Token} {event : Event A} {events before after : List (Event A)}
  {result : Except SagaError Settled}

/-! ## Writes -/

/-- What the handler leaves in the history is no write. -/
theorem Works.cut {left : A.State} {answer : HandlerResult A.Body}
    {entered rest : List (Event A)}
    (h : visit.Works step runner handler state entered answer left)
    (hevent : event.isWrite = true) (hs : entered ++ rest = before ++ event :: after) :
    ∃ before', before = entered ++ before' ∧ rest = before' ++ event :: after := by
  cases h with
  | halted => exact ⟨before, rfl, hs⟩
  | entered => exact cut_at_write hs rfl hevent

theorem Creates.cut (h : visit.Creates handler events result) (hevent : event.isWrite = true)
    (hs : events = before ++ event :: after) :
    ∃ runner left before', (visit.hook runner).CanEnd (left, .ok ()) ∧ visit.saga.idOf left ≠ "" ∧
      before = .resolved visit.saga.type (.ok runner) :: .hooked visit.saga.type runner :: before' ∧
      visit.Executes .start handler runner ⟨visit.sagaType, visit.saga.idOf left⟩ left
        (before' ++ event :: after) result := by
  cases h with
  | cancelled => simp at hs
  | unresolved =>
    obtain ⟨before', rfl, hrest⟩ := cut_at_write hs rfl hevent
    simp at hrest
  | raised | nameless =>
    obtain ⟨before', rfl, hrest⟩ := cut_at_write hs rfl hevent
    obtain ⟨before'', rfl, hnil⟩ := cut_at_write hrest rfl hevent
    simp at hnil
  | executed htype hhook hid hexec =>
    obtain ⟨before', rfl, hrest⟩ := cut_at_write hs rfl hevent
    obtain ⟨before'', rfl, rfl⟩ := cut_at_write hrest rfl hevent
    exact ⟨_, _, before'', hhook, hid, rfl, hexec⟩

theorem Advances.cut (h : visit.Advances stage handler key events result)
    (hevent : event.isWrite = true) (hs : events = before ++ event :: after) :
    ∃ previous state runner before', previous.status.isTerminal = false ∧
      visit.stateOf previous = .ok state ∧
      before = .loaded key (.ok (some previous)) ::
        .resolved visit.saga.type (.ok runner) :: before' ∧
      visit.Executes stage handler runner key state (before' ++ event :: after) result := by
  cases h with
  | cancelled => simp at hs
  | unloaded | missing | terminated | unreadable | abandoned =>
    obtain ⟨before', rfl, hrest⟩ := cut_at_write hs rfl hevent
    simp at hrest
  | unresolved =>
    obtain ⟨before', rfl, hrest⟩ := cut_at_write hs rfl hevent
    obtain ⟨before'', rfl, hnil⟩ := cut_at_write hrest rfl hevent
    simp at hnil
  | executed hactive hstate htype hexec =>
    obtain ⟨before', rfl, hrest⟩ := cut_at_write hs rfl hevent
    obtain ⟨before'', rfl, rfl⟩ := cut_at_write hrest rfl hevent
    exact ⟨_, _, _, before'', hactive, hstate, rfl, hexec⟩

end Visit

/-- **An attempt that writes**: what it is a step of, and what it left before. -/
theorem Orchestrator.Course.cut {orchestrator : Orchestrator A} {event : Event A}
    {before after : List (Event A)} (hevent : event.isWrite = true)
    (h : orchestrator.Course (before ++ event :: after)) :
    ∃ (visit : Visit A) (stage : Stage) (handler : Handler A) (runner : Instance) (key : Key)
      (state : A.State) (before' : List (Event A)) (result : Except SagaError Settled),
      visit.orchestrator = orchestrator ∧
      visit.registration ∈ orchestrator.directory.registrations ∧
      visit.registration.handler? visit.request.message.type = some (stage, handler) ∧
      key.sagaType = visit.sagaType ∧
      visit.Executes stage handler runner key state (before' ++ event :: after) result ∧
      ((stage = .start ∧ (visit.hook runner).CanEnd (state, .ok ()) ∧
          key.sagaId = visit.saga.idOf state ∧ key.sagaId ≠ "" ∧
          before = .resolved visit.saga.type (.ok runner) ::
            .hooked visit.saga.type runner :: before') ∨
        (stage ≠ .start ∧ ∃ previous, previous.status.isTerminal = false ∧
          visit.stateOf previous = .ok state ∧
          before = .loaded key (.ok (some previous)) ::
            .resolved visit.saga.type (.ok runner) :: before')) := by
  generalize hs : before ++ event :: after = events at h
  cases h with
  | create hvisit hreg hhandler hcreates =>
    obtain ⟨runner, left, before', hhook, hid, hbefore, hexec⟩ := hcreates.cut hevent hs.symm
    exact ⟨_, .start, _, runner, _, left, before', _, hvisit, hreg, hhandler, rfl, hexec,
      .inl ⟨rfl, hhook, rfl, hid, hbefore⟩⟩
  | advance hvisit hreg hstage hhandler _ hadvances =>
    obtain ⟨previous, state, runner, before', hactive, hstate, hbefore, hexec⟩ :=
      hadvances.cut hevent hs.symm
    exact ⟨_, _, _, runner, _, state, before', _, hvisit, hreg, hhandler, rfl, hexec,
      .inr ⟨hstage, previous, hactive, hstate, hbefore⟩⟩

/-! ## Accepted saves -/

namespace Visit

variable {visit : Visit A} {stage : Stage} {handler : Handler A} {runner : Instance} {key : Key}
  {state : A.State} {step : StepInfo} {transition : Transition A.Body} {record : Record}
  {token : Token} {events before after : List (Event A)} {result : Except SagaError Settled}

/-- A record that a step saves, with what the step has left in the history by then: its
handler or a wrapper answered, and what was left is encoded. -/
inductive Saves (visit : Visit A) (stage : Stage) (handler : Handler A) (runner : Instance)
    (key : Key) (state : A.State) : List (Event A) → Record → Prop where
  | intro {entered transition left status json now} :
      visit.Works (visit.stepOf stage key) runner handler state entered (.ok transition) left →
      Status.after (transition.getD (.proceed none)).kind = some status →
      visit.saga.encode left = .ok json →
      Saves visit stage handler runner key state
        (entered ++ [.returned (visit.stepOf stage key) left (.ok transition)])
        (visit.recordOf key status left json now)

theorem Saves.toKey (h : visit.Saves stage handler runner key state before record) :
    record.toKey = key := by
  cases h
  rfl

theorem Settles.saved (h : visit.Settles step state transition events result)
    (hs : events = before ++ .saved record (.ok token) :: after) :
    before = [] ∧ ∃ status json now, Status.after transition.kind = some status ∧
      visit.saga.encode state = .ok json ∧
      record = visit.recordOf step.key status state json now := by
  cases h with
  | redelivered | cancelled | unwritable => simp at hs
  | refused hstatus hjson =>
    obtain ⟨before', rfl, hrest⟩ := cut_of_cons hs (by simp)
    simp at hrest
  | silent hstatus hjson =>
    cases before with
    | nil =>
      obtain ⟨hrecord, -⟩ := Event.saved.inj (List.cons.inj hs).1
      exact ⟨rfl, _, _, _, hstatus, hjson, hrecord.symm⟩
    | cons head before' => simp at hs
  | published hstatus hjson | unpublished hstatus hjson =>
    cases before with
    | nil =>
      obtain ⟨hrecord, -⟩ := Event.saved.inj (List.cons.inj hs).1
      exact ⟨rfl, _, _, _, hstatus, hjson, hrecord.symm⟩
    | cons head before' =>
      -- a publish comes last
      obtain ⟨-, hrest⟩ := List.cons.inj hs
      obtain ⟨before'', rfl, hnil⟩ := cut_of_cons hrest (by simp)
      simp at hnil

theorem Executes.saved (h : visit.Executes stage handler runner key state events result)
    (hs : events = before ++ .saved record (.ok token) :: after) :
    visit.Saves stage handler runner key state before record := by
  cases h with
  | cancelled => simp at hs
  | raised hworks =>
    obtain ⟨before', rfl, hrest⟩ := hworks.cut rfl hs
    obtain ⟨before'', rfl, hnil⟩ := cut_at_write hrest rfl rfl
    simp at hnil
  | settled hworks hsettles =>
    obtain ⟨before', rfl, hrest⟩ := hworks.cut rfl hs
    obtain ⟨before'', rfl, hsaved⟩ := cut_at_write hrest rfl rfl
    obtain ⟨rfl, status, json, now, hstatus, hjson, rfl⟩ := hsettles.saved hsaved
    exact .intro hworks hstatus hjson

end Visit

/-- **An attempt that saves**: what it is a step of, and what it left before. -/
theorem Orchestrator.Course.saved {orchestrator : Orchestrator A} {record : Record} {token : Token}
    {before after : List (Event A)}
    (h : orchestrator.Course (before ++ .saved record (.ok token) :: after)) :
    ∃ (visit : Visit A) (stage : Stage) (handler : Handler A) (runner : Instance)
      (state : A.State) (before' : List (Event A)),
      visit.registration ∈ orchestrator.directory.registrations ∧
      visit.registration.handler? visit.request.message.type = some (stage, handler) ∧
      record.sagaType = visit.sagaType ∧
      visit.Saves stage handler runner record.toKey state before' record ∧
      ((stage = .start ∧ (visit.hook runner).CanEnd (state, .ok ()) ∧
          record.sagaId = visit.saga.idOf state ∧ record.sagaId ≠ "" ∧
          before = .resolved visit.saga.type (.ok runner) ::
            .hooked visit.saga.type runner :: before') ∨
        (stage ≠ .start ∧ ∃ previous, previous.status.isTerminal = false ∧
          visit.stateOf previous = .ok state ∧
          before = .loaded record.toKey (.ok (some previous)) ::
            .resolved visit.saga.type (.ok runner) :: before')) := by
  obtain ⟨visit, stage, handler, runner, key, state, before', result, -, hreg, hhandler, hsaga,
    hexec, hkind⟩ := h.cut rfl
  have hsaves := hexec.saved rfl
  obtain rfl := hsaves.toKey
  exact ⟨visit, stage, handler, runner, state, before', hreg, hhandler, hsaga, hsaves, hkind⟩

end Sagas
