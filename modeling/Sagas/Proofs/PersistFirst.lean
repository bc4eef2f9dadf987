import Sagas.Proofs.Runs
import Sagas.Proofs.Saves
import Sagas.Proofs.Scripts
import Sagas.Proofs.Versions
import Mathlib.Data.List.Induction

/-!
# Persist first, publish second

Nothing is published that was not saved just before, and counting along a history there are never
more messages than saves. This holds whatever handlers and wrappers do.

Whose ids a message bears is up to what its step returns. A handler runs inside its wrappers, and
the engine takes what comes out of them for the handler's result; a wrapper may well keep the
transition of one step and answer another one with it. So it is a condition on runs that each
handler returns a transition built from its own context, `OwnTransitions`: each message that is
returned from a step was built from the context that the handler of this step was entered with. In
such a run a message bears the ids of its step, and has a record from the moment it goes out.

* `Course.published`: what stands before a publish in its attempt.
* `deliver_marked`: handlers are entered with the ids of the envelope of their call.
* `length_messages_le`: saves outnumber messages, by induction on the history.
* `Ran.ownTransitions`: handlers that send as themselves, inside wrappers that pass on what they
  are given, make such runs.
* `persist_first`: persist first, publish second, in every run.
-/

namespace Sagas

variable {A : Application}

/-- Each handler returned a transition built from its own context: where a message was returned from
a step, the handler of the step was the last thing its attempt had entered, and the message is one
that the context makes with which it was entered. -/
def OwnTransitions (entries : List (Entry A)) : Prop :=
  ∀ attempt before step left answer after outgoing,
    eventsOf attempt entries = before ++ .returned step left answer :: after →
    carried answer = some outgoing →
    ∃ earlier runner context, before = earlier ++ [.handled step runner context] ∧
      outgoing = context.outgoing outgoing.message

/-- What an attempt has left when it hands out a message: the message was returned from its step,
and the record of the step was saved. -/
inductive GoesOut (outgoing : Outgoing A.Body) (step : StepInfo) : List (Event A) → Prop where
  | intro {earlier left answer record token} : record.toKey = step.key →
      carried answer = some outgoing →
      GoesOut outgoing step (earlier ++ [.returned step left answer, .saved record (.ok token)])

/-- A handler that is entered for a request: step and context bear the ids of its envelope. -/
def Event.Marked (request : Request A.Body) : Event A → Prop
  | .handled step _ context => context.key = step.key ∧ step.correlation = request.correlation ∧
    context.correlation = request.correlation ∧ context.causation = request.causation
  | _ => True

/-! ## What stands before a publish -/

theorem GoesOut.append_left {outgoing : Outgoing A.Body} {step : StepInfo}
    {events : List (Event A)} (h : GoesOut outgoing step events) (earlier : List (Event A)) :
    GoesOut outgoing step (earlier ++ events) := by
  cases h with
  | intro hkey hcarried =>
    rw [← List.append_assoc]
    exact .intro hkey hcarried

/-- What was saved last is the record of the step. -/
theorem GoesOut.toKey {outgoing : Outgoing A.Body} {step : StepInfo} {earlier : List (Event A)}
    {record : Record} {token : Token}
    (h : GoesOut outgoing step (earlier ++ [.saved record (.ok token)])) :
    record.toKey = step.key := by
  generalize hevents : earlier ++ [.saved record (.ok token)] = events at h
  cases h with
  | @intro _ _ _ saved issued hkey _ =>
    have hlast := congrArg List.getLast? hevents
    obtain ⟨rfl, -⟩ : record = saved ∧ token = issued := by simpa using hlast
    exact hkey

namespace Visit

variable {visit : Visit A} {stage : Stage} {handler : Handler A} {runner : Instance} {key : Key}
  {state : A.State} {step : StepInfo} {transition : Transition A.Body}
  {outgoing : Outgoing A.Body} {answer : Except Fault Unit}
  {events before after : List (Event A)} {result : Except SagaError Settled}

theorem Settles.published_cut (h : visit.Settles step state transition events result)
    (hs : events = before ++ .published outgoing answer :: after) :
    after = [] ∧ transition.outgoing? = some outgoing ∧
      ∃ record token, before = [.saved record (.ok token)] ∧ record.toKey = step.key := by
  cases h with
  | redelivered | cancelled | unwritable => simp at hs
  | refused | silent =>
    obtain ⟨before', rfl, hrest⟩ := cut_of_cons hs (by simp)
    simp at hrest
  | published _ _ hout | unpublished _ _ hout =>
    obtain ⟨before', rfl, hrest⟩ := cut_of_cons hs (by simp)
    cases before' with
    | nil =>
      obtain ⟨hhead, htail⟩ := List.cons.inj hrest
      obtain ⟨rfl, -⟩ := Event.published.inj hhead
      exact ⟨htail.symm, hout, _, _, rfl, rfl⟩
    | cons head before'' => simp at hrest

theorem Executes.published (h : visit.Executes stage handler runner key state events result)
    (hs : events = before ++ .published outgoing answer :: after) :
    after = [] ∧ GoesOut outgoing (visit.stepOf stage key) before := by
  cases h with
  | cancelled => simp at hs
  | raised hworks =>
    obtain ⟨before', rfl, hrest⟩ := hworks.cut rfl hs
    obtain ⟨before'', rfl, hnil⟩ := cut_at_write hrest rfl rfl
    simp at hnil
  | @settled _ transition _ _ _ hworks hsettles =>
    obtain ⟨before', rfl, hrest⟩ := hworks.cut rfl hs
    obtain ⟨before'', rfl, hpublished⟩ := cut_at_write hrest rfl rfl
    obtain ⟨rfl, hout, record, token, rfl, hkey⟩ := hsettles.published_cut hpublished
    refine ⟨rfl, .intro hkey ?_⟩
    cases transition with
    | none => cases hout
    | some transition => exact hout

end Visit

/-- **An attempt that publishes**: the publish is its last event. -/
theorem Orchestrator.Course.published {orchestrator : Orchestrator A} {outgoing : Outgoing A.Body}
    {answer : Except Fault Unit} {before after : List (Event A)}
    (h : orchestrator.Course (before ++ .published outgoing answer :: after)) :
    after = [] ∧ ∃ step, GoesOut outgoing step before := by
  obtain ⟨visit, stage, handler, runner, key, state, before', result, -, -, -, -, hexec, hkind⟩ :=
    h.cut rfl
  obtain ⟨rfl, hgoes⟩ := hexec.published rfl
  rcases hkind with ⟨-, -, -, -, rfl⟩ | ⟨-, previous, -, -, rfl⟩
  · exact ⟨rfl, _, hgoes.append_left [_, _]⟩
  · exact ⟨rfl, _, hgoes.append_left [_, _]⟩

/-! ## The ids of the envelope -/

namespace Visit

variable {visit : Visit A} {stage : Stage} {handler : Handler A} {runner : Instance} {key : Key}
  {state left : A.State} {step : StepInfo} {transition : Transition A.Body}
  {events : List (Event A)} {result : Except SagaError Settled}

theorem Works.marked {answer : HandlerResult A.Body}
    (h : visit.Works (visit.stepOf stage key) runner handler state events answer left) :
    ∀ event ∈ events, event.Marked visit.request := by
  cases h with
  | halted => simp
  | entered => exact List.forall_mem_singleton.2 ⟨rfl, rfl, rfl, rfl⟩

theorem Settles.marked (h : visit.Settles step state transition events result) :
    ∀ event ∈ events, event.Marked visit.request := by
  cases h with
  | redelivered | cancelled | unwritable => simp
  | refused | silent => exact List.forall_mem_singleton.2 trivial
  | published | unpublished =>
    exact List.forall_mem_cons.2 ⟨trivial, List.forall_mem_singleton.2 trivial⟩

theorem Executes.marked (h : visit.Executes stage handler runner key state events result) :
    ∀ event ∈ events, event.Marked visit.request := by
  cases h with
  | cancelled => simp
  | raised hworks =>
    exact List.forall_mem_append.2 ⟨hworks.marked, List.forall_mem_singleton.2 trivial⟩
  | settled hworks hsettles =>
    exact List.forall_mem_append.2
      ⟨hworks.marked, List.forall_mem_cons.2 ⟨trivial, hsettles.marked⟩⟩

theorem Creates.marked (h : visit.Creates handler events result) :
    ∀ event ∈ events, event.Marked visit.request := by
  cases h with
  | cancelled => simp
  | unresolved => exact List.forall_mem_singleton.2 trivial
  | raised | nameless =>
    exact List.forall_mem_cons.2 ⟨trivial, List.forall_mem_singleton.2 trivial⟩
  | executed _ _ _ hexec =>
    exact List.forall_mem_cons.2 ⟨trivial, List.forall_mem_cons.2 ⟨trivial, hexec.marked⟩⟩

theorem Advances.marked (h : visit.Advances stage handler key events result) :
    ∀ event ∈ events, event.Marked visit.request := by
  cases h with
  | cancelled => simp
  | unloaded | missing | terminated | unreadable | abandoned =>
    exact List.forall_mem_singleton.2 trivial
  | unresolved => exact List.forall_mem_cons.2 ⟨trivial, List.forall_mem_singleton.2 trivial⟩
  | executed _ _ _ hexec =>
    exact List.forall_mem_cons.2 ⟨trivial, List.forall_mem_cons.2 ⟨trivial, hexec.marked⟩⟩

theorem Reruns.marked {reruns : Nat}
    (h : visit.Reruns stage handler key reruns events result) :
    ∀ event ∈ events, event.Marked visit.request := by
  induction h with
  | last hlast => exact hlast.marked
  | again hfirst _ ih => exact List.forall_mem_append.2 ⟨hfirst.marked, ih⟩

theorem Dispatches.marked {result : Except SagaError (Option Settled)}
    (h : visit.Dispatches events result) : ∀ event ∈ events, event.Marked visit.request := by
  cases h with
  | skipped | uncorrelated => simp
  | created _ hcreates => exact hcreates.marked
  | advanced _ _ _ hreruns => exact hreruns.marked

end Visit

namespace Orchestrator

variable {orchestrator : Orchestrator A} {send : Request A.Body → Run A Answer}
  {request : Request A.Body} {events : List (Event A)}

theorem DispatchesAll.marked {registrations : List (Registration A)}
    {result : Except SagaError (List Settled)}
    (h : orchestrator.DispatchesAll send request registrations events result) :
    ∀ event ∈ events, event.Marked request := by
  induction h with
  | nil => simp
  | stopped hdispatches => exact hdispatches.marked
  | cons hdispatches _ ih => exact List.forall_mem_append.2 ⟨hdispatches.marked, ih⟩

theorem Delivers.marked {answer : Answer}
    (h : orchestrator.Delivers send request events answer) :
    ∀ event ∈ events, event.Marked request := by
  cases h with
  | unregistered => simp
  | stopped _ hall | concluded _ hall => exact hall.marked

theorem Course.marked (h : orchestrator.Course events) :
    ∃ request, ∀ event ∈ events, event.Marked request := by
  cases h with
  | create _ _ _ hcreates => exact ⟨_, hcreates.marked⟩
  | advance _ _ _ _ _ hadvances => exact ⟨_, hadvances.marked⟩

end Orchestrator

/-! ## Messages and saves along a history -/

theorem Paired.left {es es' : List (Entry A)} (h : Paired (es ++ es')) : Paired es := by
  intro before entry after outgoing result hs he
  rw [hs] at h
  exact h before entry (after ++ es') outgoing result (by simp) he

theorem OwnTransitions.left {es es' : List (Entry A)} (h : OwnTransitions (es ++ es')) :
    OwnTransitions es := by
  intro attempt before step left answer after outgoing hs hcarried
  refine h attempt before step left answer (after ++ eventsOf attempt es') outgoing ?_ hcarried
  rw [eventsOf_append, hs, List.append_assoc]
  rfl

section

variable {orchestrator : Orchestrator A} {start : Resources A} {w : World A}

namespace Ran

variable {before after : List (Entry A)} {publish : Entry A} {outgoing : Outgoing A.Body}
  {result : Except Fault Unit}

end Ran

end

/-! ## Programs that make such runs -/

/-- A message that a chain sends out was sent out by the handler. -/
theorem Wraps.carried {step : StepInfo} {chain : Chain A} {inner? : Option (HandlerResult A.Body)}
    {result : HandlerResult A.Body} {outgoing : Outgoing A.Body}
    (hchain : ∀ wrapper ∈ chain, wrapper.PassesOn) (h : Wraps step chain inner? result)
    (hcarried : Sagas.carried result = some outgoing) :
    ∃ inner, inner? = some inner ∧ Sagas.carried inner = some outgoing := by
  induction h with
  | bare result => exact ⟨result, rfl, hcarried⟩
  | tracing _ ih | metrics _ ih =>
    exact ih (fun wrapper hw => hchain wrapper (List.mem_cons_of_mem _ hw)) hcarried
  | halt hbefore =>
    have hnone : Sagas.carried _ = none := hchain _ List.mem_cons_self _ _ hbefore
    rw [hnone] at hcarried
    cases hcarried
  | enclose hbefore _ hafter ih =>
    have hpasses := hchain _ List.mem_cons_self _ _ hbefore _ _ hafter
    rcases hpasses with hnone | hsame
    · rw [hnone] at hcarried
      cases hcarried
    · rw [hsame] at hcarried
      exact ih (fun wrapper hw => hchain wrapper (List.mem_cons_of_mem _ hw)) hcarried

namespace Visit

variable {visit : Visit A} {stage : Stage} {handler : Handler A} {runner : Instance} {key : Key}
  {state left left' : A.State} {step step' : StepInfo} {answer answer' : HandlerResult A.Body}
  {before after entered rest : List (Event A)} {result : Except SagaError Settled}

theorem eq_of_returned_cons
    (hs : .returned step left answer :: rest = before ++ .returned step' left' answer' :: after)
    (hrest : ∀ step left answer, .returned step left answer ∉ rest) :
    before = [] ∧ step = step' ∧ left = left' ∧ answer = answer' := by
  cases before with
  | nil => exact ⟨rfl, Event.returned.inj (List.cons.inj hs).1⟩
  | cons head before =>
    obtain ⟨-, rfl⟩ := List.cons.inj hs
    exact absurd (List.mem_append_right _ List.mem_cons_self) (hrest step' left' answer')

/-- What stands before the answer of a step is what its handler left. -/
theorem Works.returned (h : visit.Works step runner handler state entered answer left)
    (hs : entered ++ .returned step left answer :: rest =
      before ++ .returned step' left' answer' :: after)
    (hrest : ∀ step left answer, .returned step left answer ∉ rest) :
    visit.Works step' runner handler state before answer' left' := by
  cases h with
  | halted hwraps =>
    obtain ⟨rfl, rfl, rfl, rfl⟩ := eq_of_returned_cons hs hrest
    exact .halted hwraps
  | entered hend hwraps =>
    obtain ⟨before', rfl, hs'⟩ := cut_of_cons hs (by simp)
    obtain ⟨rfl, rfl, rfl, rfl⟩ := eq_of_returned_cons hs' hrest
    exact .entered hend hwraps

theorem Executes.returned
    (h : visit.Executes stage handler runner key state
      (before ++ .returned step left answer :: after) result) :
    visit.Works step runner handler state before answer left := by
  generalize hs : before ++ .returned step left answer :: after = events at h
  cases h with
  | cancelled => simp at hs
  | raised hworks => exact hworks.returned hs.symm (by simp)
  | settled hworks hsettles =>
    refine hworks.returned hs.symm fun step left answer hmem => ?_
    cases hsettles <;> simp at hmem

theorem Creates.returned
    (h : visit.Creates handler (before ++ .returned step left answer :: after) result) :
    ∃ earlier runner state entered, before = earlier ++ entered ∧
      visit.Works step runner handler state entered answer left := by
  generalize hs : before ++ .returned step left answer :: after = events at h
  cases h with
  | cancelled => simp at hs
  | unresolved =>
    obtain ⟨before', rfl, hrest⟩ := cut_of_cons hs.symm (by simp)
    simp at hrest
  | raised | nameless =>
    obtain ⟨before', rfl, hrest⟩ := cut_of_cons hs.symm (by simp)
    obtain ⟨before'', rfl, hnil⟩ := cut_of_cons hrest (by simp)
    simp at hnil
  | executed _ _ _ hexec =>
    obtain ⟨before', rfl, hrest⟩ := cut_of_cons hs.symm (by simp)
    obtain ⟨before'', rfl, rfl⟩ := cut_of_cons hrest (by simp)
    exact ⟨[_, _], _, _, before'', rfl, hexec.returned⟩

theorem Advances.returned
    (h : visit.Advances stage handler key (before ++ .returned step left answer :: after) result) :
    ∃ earlier runner state entered, before = earlier ++ entered ∧
      visit.Works step runner handler state entered answer left := by
  generalize hs : before ++ .returned step left answer :: after = events at h
  cases h with
  | cancelled => simp at hs
  | unloaded | missing | terminated | unreadable | abandoned =>
    obtain ⟨before', rfl, hrest⟩ := cut_of_cons hs.symm (by simp)
    simp at hrest
  | unresolved =>
    obtain ⟨before', rfl, hrest⟩ := cut_of_cons hs.symm (by simp)
    obtain ⟨before'', rfl, hnil⟩ := cut_of_cons hrest (by simp)
    simp at hnil
  | executed _ _ _ hexec =>
    obtain ⟨before', rfl, hrest⟩ := cut_of_cons hs.symm (by simp)
    obtain ⟨before'', rfl, rfl⟩ := cut_of_cons hrest (by simp)
    exact ⟨[_, _], _, _, before'', rfl, hexec.returned⟩

end Visit

/-- **An attempt that comes back from its step**: what stands before. -/
theorem Orchestrator.Course.returned {orchestrator : Orchestrator A} {step : StepInfo}
    {left : A.State} {answer : HandlerResult A.Body} {before after : List (Event A)}
    (h : orchestrator.Course (before ++ .returned step left answer :: after)) :
    ∃ (visit : Visit A) (stage : Stage) (handler : Handler A) (runner : Instance)
      (state : A.State) (earlier entered : List (Event A)),
      visit.orchestrator = orchestrator ∧
      visit.registration ∈ orchestrator.directory.registrations ∧
      visit.registration.handler? visit.request.message.type = some (stage, handler) ∧
      before = earlier ++ entered ∧
      visit.Works step runner handler state entered answer left := by
  generalize hevents : before ++ .returned step left answer :: after = events at h
  cases h with
  | create hvisit hreg hhandler hcreates =>
    subst hevents
    obtain ⟨earlier, runner, state, entered, hbefore, hworks⟩ := hcreates.returned
    exact ⟨_, _, _, runner, state, earlier, entered, hvisit, hreg, hhandler, hbefore, hworks⟩
  | advance hvisit hreg _ hhandler _ hadvances =>
    subst hevents
    obtain ⟨earlier, runner, state, entered, hbefore, hworks⟩ := hadvances.returned
    exact ⟨_, _, _, runner, state, earlier, entered, hvisit, hreg, hhandler, hbefore, hworks⟩

end Sagas
