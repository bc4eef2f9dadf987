import Sagas.Proofs.Mirrors
import Sagas.Proofs.Replay
import Sagas.Proofs.Saves
import Sagas.Proofs.Turns

/-!
# Signals, from the history

Over the gateways in memory only programs cancel signals, and the history tells when. A step looks
at its signal right before it saves, so what it writes stands before every cancellation.

* `Signalled`: which signals are cancelled is told by the history.
* `wrote`, `Clear`: a step that has written ends under a signal that is not cancelled.
* `Obeys`: what a delivery writes itself stands before every cancellation of its signal.
* `turns_obey`: so it is in every turn of a delivery.
-/

namespace Sagas

variable {A : Application} {α β : Type}

/-- Whether an event cancels a signal. -/
def Event.cancels (signal : Signal) : Event A → Bool
  | .cancelled other => other == signal
  | _ => false

/-- Whether a signal is cancelled, from a world on, after some entries. -/
def cancelledAfter (signal : Signal) (w : World A) (es : List (Entry A)) : Bool :=
  w.signals.isCancelled signal || es.any (·.event.cancels signal)

theorem cancelledAfter_append (signal : Signal) (w : World A) (es es' : List (Entry A)) :
    cancelledAfter signal w (es ++ es') =
      (cancelledAfter signal w es || es'.any (·.event.cancels signal)) := by
  unfold cancelledAfter
  rw [List.any_append, Bool.or_assoc]

/-! ## The flags, from the history -/

/-- The signals that are cancelled in a world are told by the entries made since another one. -/
def Signalled (w : World A) (es : List (Entry A)) (w' : World A) : Prop :=
  ∀ signal, w'.signals.isCancelled signal = cancelledAfter signal w es

theorem Signalled.trans {w w' w'' : World A} {es es' : List (Entry A)} (h : Signalled w es w')
    (h' : Signalled w' es' w'') : Signalled w (es ++ es') w'' := by
  intro signal
  rw [cancelledAfter_append, ← h signal]
  exact h' signal

theorem Signalled.same {w w' : World A} {es : List (Entry A)} (h : w'.signals = w.signals)
    (hes : ∀ signal, es.any (·.event.cancels signal) = false) : Signalled w es w' := by
  intro signal
  rw [cancelledAfter, hes, h, Bool.or_false]

/-- **Which signals are cancelled** is told by the history, over the gateways in memory. -/
theorem Orchestrator.InMemory.signalled {orchestrator : Orchestrator A}
    (h : orchestrator.InMemory) : Law orchestrator.gateways Signalled := by
  obtain ⟨resolve, hresolve⟩ := h
  rw [hresolve]
  constructor
  · intro w w' _ _ hsignals signal
    simp [cancelledAfter, Signals.isCancelled, hsignals]
  · exact fun h h' => h.trans h'
  · intro w event hplain
    refine .same rfl fun signal => ?_
    cases event with
    | cancelled other => cases hplain
    | _ => rfl
  · intro w other signal
    rw [Bool.eq_iff_iff]
    simp only [cancelledAfter, World.logged, World.entry, Event.cancels, Signals.isCancelled,
      Signals.cancel, List.contains_cons, List.any_cons, List.any_nil, Bool.or_false,
      Bool.or_eq_true, beq_iff_eq]
    exact or_comm.trans (or_congr Iff.rfl eq_comm)
  · exact fun w key signal => .same rfl fun _ => rfl
  · exact fun w record signal => .same rfl fun _ => rfl
  · exact fun w outgoing signal => .same rfl fun _ => rfl

/-! ## Steps that have written -/

/-- Whether a step that ended so has asked the store to save. -/
def wrote : Except SagaError Settled → Bool
  | .ok settled => settled.outcome.token.isSome
  | .error (.conflict _) | .error (.repository _) | .error (.publish ..) => true
  | .error _ => false

namespace Visit

variable {visit : Visit A} {stage : Stage} {handler : Handler A} {runner : Instance} {key : Key}
  {state left : A.State} {step : StepInfo} {event : Event A} {before after events : List (Event A)}
  {result : Except SagaError Settled}

theorem Settles.wrote {transition : Transition A.Body}
    (h : visit.Settles step state transition events result) (hmem : event ∈ events) :
    wrote result = true := by
  cases h with
  | redelivered | cancelled | unwritable => cases hmem
  | @refused _ _ _ error => cases error <;> rfl
  | silent | published | unpublished => rfl

theorem Executes.wrote (h : visit.Executes stage handler runner key state events result)
    (hwrite : event.isWrite = true) (hs : events = before ++ event :: after) :
    wrote result = true := by
  cases h with
  | cancelled => simp at hs
  | raised hworks =>
    obtain ⟨before', rfl, hrest⟩ := hworks.cut hwrite hs
    obtain ⟨before'', rfl, hnil⟩ := cut_at_write hrest rfl hwrite
    simp at hnil
  | settled hworks hsettles =>
    obtain ⟨before', rfl, hrest⟩ := hworks.cut hwrite hs
    obtain ⟨before'', rfl, rfl⟩ := cut_at_write hrest rfl hwrite
    exact hsettles.wrote (List.mem_append_right _ List.mem_cons_self)

theorem Creates.wrote (h : visit.Creates handler events result) (hwrite : event.isWrite = true)
    (hmem : event ∈ events) : wrote result = true := by
  obtain ⟨before, after, hs⟩ := List.append_of_mem hmem
  obtain ⟨runner, left, before', -, -, -, hexecutes⟩ := h.cut hwrite hs
  exact hexecutes.wrote hwrite rfl

theorem Advances.wrote (h : visit.Advances stage handler key events result)
    (hwrite : event.isWrite = true) (hmem : event ∈ events) : wrote result = true := by
  obtain ⟨before, after, hs⟩ := List.append_of_mem hmem
  obtain ⟨previous, state, runner, before', -, -, -, hexecutes⟩ := h.cut hwrite hs
  exact hexecutes.wrote hwrite rfl

end Visit

/-- A computation that leaves the flag of a signal as it is. -/
def Still (signal : Signal) (x : Attempt A α) : Prop :=
  ∀ w, (x.run w).2.signals.isCancelled signal = w.signals.isCancelled signal

/-- Wherever a step ends so that it has written, a signal is not cancelled. -/
def Clear (signal : Signal) (x : Attempt A Settled) : Prop :=
  ∀ w, wrote (x.run w).1 = true → (x.run w).2.signals.isCancelled signal = false

section

variable {signal : Signal}

theorem Still.bind {x : Attempt A α} {f : α → Attempt A β} (hx : Still signal x)
    (hf : ∀ a, Still signal (f a)) : Still signal (x >>= f) := by
  intro w
  rw [ExceptT.run_bind, Run.bind_apply, ← hx w]
  cases (x.run w).1 with
  | ok a => exact hf a _
  | error error => rfl

theorem Still.bindGet {f : World A → Attempt A β}
    (hf : ∀ w, ((f w).run w).2.signals.isCancelled signal = w.signals.isCancelled signal) :
    Still signal (Attempt.lift get >>= f) :=
  hf

namespace Clear

/-- What comes before a step that is clear must not end in an error of a step that has written. -/
theorem bind {x : Attempt A α} {f : α → Attempt A Settled}
    (hx : ∀ w error, (x.run w).1 = .error error → wrote (.error error) = false)
    (hf : ∀ a, Clear signal (f a)) : Clear signal (x >>= f) := by
  intro w
  have hquiet := hx w
  rw [ExceptT.run_bind, Run.bind_apply]
  generalize x.run w = out at hquiet
  obtain ⟨result, after⟩ := out
  cases result with
  | ok a => exact hf a after
  | error error =>
    intro hwrote
    have hwritten : wrote (.error error) = true := hwrote
    rw [hquiet error rfl] at hwritten
    cases hwritten

theorem bindLift {x : Run A α} {f : α → Attempt A Settled} (hf : ∀ a, Clear signal (f a)) :
    Clear signal (Attempt.lift x >>= f) :=
  bind (fun _ _ h => by cases h) hf

theorem bindExcept {result : Except SagaError α} {f : α → Attempt A Settled}
    (hresult : ∀ error, result = .error error → wrote (.error error) = false)
    (hf : ∀ a, Clear signal (f a)) : Clear signal (Attempt.ofExcept result >>= f) :=
  bind (fun _ error h => hresult error h) hf

theorem bindCheck {other : Signal} {f : Unit → Attempt A Settled} (hf : Clear signal (f ())) :
    Clear signal (checkSignal other >>= f) := by
  intro w
  rw [checkSignal_run]
  split
  · exact nofun
  · exact hf w

/-- After a look at the signal a computation that leaves it alone is clear. -/
theorem of_still {f : Unit → Attempt A Settled} (hf : Still signal (f ())) :
    Clear signal (checkSignal signal >>= f) := by
  intro w
  rw [checkSignal_run]
  split
  · exact nofun
  · rename_i hcancelled
    intro _
    rw [hf w]
    simpa using hcancelled

end Clear

end

namespace Visit

variable {visit : Visit A}

section

variable (hmemory : visit.orchestrator.InMemory)
include hmemory

/-- **A step that commits** looks at its signal, and nothing cancels it from then on. -/
theorem commit_clear (step : StepInfo) (state : A.State) (transition : Transition A.Body)
    (status : Status) : Clear visit.request.signal (visit.commit step state transition status) := by
  obtain ⟨resolve, hresolve⟩ := hmemory
  have hsave : ∀ record, Still visit.request.signal (visit.save record) := by
    intro record w
    rw [save_run rfl, afterSave, hresolve]
    rfl
  have hpublish : ∀ outgoing,
      Still visit.request.signal (visit.publishOutgoing step.key outgoing) := by
    rintro (_ | outgoing)
    · exact fun _ => rfl
    · refine Still.bind (fun w => ?_) fun _ _ => rfl
      rw [publish_run rfl, afterPublish, hresolve]
      rfl
  refine Clear.of_still <| Still.bind (fun _ => rfl) fun json => Still.bindGet fun w => ?_
  refine Still.bind (hsave _) (fun token => ?_) w
  exact (hpublish transition.outgoing?).bind fun published =>
    Still.bind (fun _ => rfl) fun _ _ => rfl

theorem settle_clear (step : StepInfo) (state : A.State) (transition : Transition A.Body) :
    Clear visit.request.signal (visit.settle step state transition) := by
  unfold settle
  refine Clear.bindLift fun _ => ?_
  cases Status.after transition.kind with
  | none => exact Clear.bindLift fun _ _ hwrote => by cases hwrote
  | some status => exact commit_clear hmemory step state transition status

theorem execute_clear (stage : Stage) (handler : Handler A) (runner : Instance) (key : Key)
    (state : A.State) :
    Clear visit.request.signal (visit.execute stage handler runner key state) := by
  unfold execute
  refine Clear.bindCheck <| Clear.bindLift fun out => Clear.bindLift fun _ => ?_
  refine Clear.bindExcept (fun error herror => ?_) fun transition => settle_clear hmemory _ _ _
  obtain ⟨fault, -, rfl⟩ := mapError_eq_error herror
  rfl

theorem create_clear (handler : Handler A) :
    Clear visit.request.signal (visit.create handler) := by
  unfold create
  refine Clear.bindLift fun _ => Clear.bindCheck ?_
  refine Clear.bind (fun w error herror => ?_) fun runner => ?_
  · obtain ⟨source, rfl⟩ := checkInstance_eq_error herror
    rfl
  refine Clear.bindLift fun _ => Clear.bindLift fun out => ?_
  refine Clear.bindExcept (fun error herror => ?_) fun _ => ?_
  · obtain ⟨fault, -, rfl⟩ := mapError_eq_error herror
    rfl
  refine Clear.bindExcept (fun error herror => ?_) fun _ => ?_
  · split at herror
    · rw [← Except.error.inj herror]
      rfl
    · cases herror
  exact Clear.bindLift fun _ => execute_clear hmemory _ _ _ _ _

theorem advanceOnce_clear (stage : Stage) (handler : Handler A) (key : Key) :
    Clear visit.request.signal (visit.advanceOnce stage handler key) := by
  have hload : ∀ w error, ((visit.load key).run w).1 ≠ .error error := by
    obtain ⟨resolve, hresolve⟩ := hmemory
    intro w error herror
    unfold load at herror
    rw [hresolve] at herror
    cases herror
  unfold advanceOnce
  refine Clear.bindLift fun _ => Clear.bindCheck ?_
  refine Clear.bind (fun w error herror => absurd herror (hload w error)) fun loaded => ?_
  refine Clear.bindExcept (fun error herror => ?_) fun record => ?_
  · cases loaded with
    | some record => cases herror
    | none =>
      rw [← Except.error.inj herror]
      rfl
  refine Clear.bindExcept (fun error herror => ?_) fun _ => ?_
  · split at herror
    · rw [← Except.error.inj herror]
      rfl
    · cases herror
  refine Clear.bindExcept (fun error herror => ?_) fun state => Clear.bindCheck ?_
  · obtain ⟨source, rfl⟩ := stateOf_eq_error herror
    rfl
  refine Clear.bind (fun w error herror => ?_) fun runner => ?_
  · obtain ⟨source, rfl⟩ := checkInstance_eq_error herror
    rfl
  exact execute_clear hmemory _ _ _ _ _

end

end Visit

/-! ## What a delivery writes -/

theorem isEngine_of_isWrite {event : Event A} (h : event.isWrite = true) :
    event.isEngine = true := by
  cases event with
  | saved | published => rfl
  | _ => cases h

/-- What a delivery writes itself stands before every cancellation of a signal. -/
def Obeys (signal : Signal) (w : World A) (es : List (Entry A)) : Prop :=
  ∀ before entry after, es = before ++ entry :: after → entry.depth = w.depth →
    entry.event.isWrite = true → cancelledAfter signal w before = false

section

variable {signal : Signal} {w w' : World A} {es es' : List (Entry A)}

theorem Obeys.append (h : Obeys signal w es) (hsignalled : Signalled w es w')
    (hdepth : w'.depth = w.depth) (h' : Obeys signal w' es') : Obeys signal w (es ++ es') := by
  intro before entry after hs hentry hwrite
  rcases List.append_eq_append_iff.1 hs with ⟨between, rfl, hrest⟩ | ⟨between, rfl, hrest⟩
  · -- the write stands in the second part
    have hlater := h' between entry after hrest (hentry.trans hdepth.symm) hwrite
    rw [cancelledAfter_append, ← hsignalled signal]
    exact hlater
  · cases between with
    | nil =>
      have hlater := h' [] entry after hrest.symm (hentry.trans hdepth.symm) hwrite
      rw [cancelledAfter, List.any_nil, Bool.or_false, hsignalled signal] at hlater
      simpa using hlater
    | cons first between =>
      obtain ⟨rfl, -⟩ := List.cons.inj hrest
      exact h before entry between rfl hentry hwrite

/-- An attempt that has written ends under a signal that is not cancelled, and obeys it. -/
theorem Obeys.of_attempt (hsignalled : Signalled w es w')
    (hwrote : ∀ event ∈ eventsAt w.depth es, event.isWrite = true →
      w'.signals.isCancelled signal = false) : Obeys signal w es := by
  rintro before entry after rfl hentry hwrite
  have hmem : entry.event ∈ eventsAt w.depth (before ++ entry :: after) := by
    have hengine : entry.event.isEngine = true := isEngine_of_isWrite hwrite
    exact mem_eventsAt.2 ⟨entry, by simp, hengine, hentry, rfl⟩
  have hclear := hwrote _ hmem hwrite
  rw [hsignalled signal, cancelledAfter_append, Bool.or_eq_false_iff] at hclear
  exact hclear.1

/-- The passages of a delivery that heed a signal. -/
def Obeying (C : List (Event A) → Prop) (signal : Signal) (w : World A) (es : List (Entry A))
    (w' : World A) : Prop :=
  Across C Signalled w es w' ∧ Obeys signal w es

theorem obeying_path {gateways : Gateways A} {C : List (Event A) → Prop}
    (hR : Law gateways Signalled) : Path (Obeying C signal) where
  trans _ h h' := ⟨h.1.trans hR.trans h'.1, h.2.append h.1.law h.1.depth h'.2⟩
  depth h := h.1.depth
  attempt h := h.1.attempt
  still hj hd ha hn hs ho hc :=
    ⟨(Across.path hR).still hj hd ha hn hs ho hc, by intro before entry after h; simp at h⟩

end

namespace Visit

variable {visit : Visit A}

section

variable (hmemory : visit.orchestrator.InMemory)
  (hsend : Sends visit.orchestrator.Course Signalled visit.send)
  (hreg : visit.registration ∈ visit.orchestrator.directory.registrations)
include hmemory hsend hreg

theorem attempts_obey {stage : Stage} {handler : Handler A} {sagaId : String}
    (hstage : stage ≠ .start)
    (hhandler : visit.registration.handler? visit.request.message.type = some (stage, handler))
    (hcorrelate : visit.registration.correlate visit.request.message = .ok sagaId) (reruns : Nat) :
    ∀ made w, Yields (Obeying visit.orchestrator.Course visit.request.signal) w
      (visit.attempts stage handler ⟨visit.sagaType, sagaId⟩ reruns made).run
      fun _ _ _ => True := by
  have hR := hmemory.signalled
  have hP : Path (Obeying visit.orchestrator.Course visit.request.signal) := obeying_path hR
  -- each attempt ends under a signal that is not cancelled if it has written
  have honce : ∀ w, Yields (Obeying visit.orchestrator.Course visit.request.signal) w
      (visit.advanceOnce stage handler ⟨visit.sagaType, sagaId⟩).run fun _ _ _ => True := by
    intro w _
    obtain ⟨es, hes, hadvances⟩ := advanceOnce_across hR hsend stage handler _
      (fun _ _ hs => .advance rfl hreg hstage hhandler hcorrelate hs) w
    refine ⟨es, ⟨hes, .of_attempt hes.law fun event hmem hwrite => ?_⟩, trivial⟩
    exact advanceOnce_clear hmemory stage handler _ w (hadvances.wrote hwrite hmem)
  induction reruns with
  | zero =>
    intro made w
    unfold attempts
    refine Yields.bind hP (honce w) fun _ result w₁ _ => ?_
    split
    · exact Yields.bind hP (count_yields hP _ w₁) fun _ _ _ _ => Yields.pure hP trivial
    · exact Yields.pure hP trivial
  | succ reruns ih =>
    intro made w
    unfold attempts
    refine Yields.bind hP (honce w) fun _ result w₁ _ => ?_
    split
    · exact Yields.bind hP (count_yields hP _ w₁) fun _ _ w₂ _ =>
        Yields.bind hP (emit_yields hP _ w₂) fun _ _ w₃ _ => ih (made + 1) w₃
    · exact Yields.pure hP trivial

/-- **The step of one saga obeys its signal.** -/
theorem dispatch_obeys (w : World A) :
    Yields (Obeying visit.orchestrator.Course visit.request.signal) w visit.dispatch.run
      fun _ _ _ => True := by
  have hR := hmemory.signalled
  have hP : Path (Obeying visit.orchestrator.Course visit.request.signal) := obeying_path hR
  cases hhandler : visit.registration.handler? visit.request.message.type with
  | none =>
    rw [dispatch_of_none hhandler]
    exact Yields.bindLift hP (emit_yields hP _ w) fun _ _ _ _ => Yields.pure hP trivial
  | some found =>
    obtain ⟨stage, handler⟩ := found
    by_cases hstage : stage = .start
    · subst hstage
      rw [dispatch_of_start hhandler]
      have hcreate : Yields (Obeying visit.orchestrator.Course visit.request.signal) w
          (visit.create handler).run fun _ _ _ => True := by
        intro hw
        obtain ⟨es, hes, hcreates⟩ := create_yields hR hsend handler
          (fun _ _ hs => .create rfl hreg hhandler hs) w hw
        refine ⟨es, ⟨hes, .of_attempt hes.law fun event hmem hwrite => ?_⟩, trivial⟩
        exact create_clear hmemory handler w (hcreates.wrote hwrite hmem)
      exact Yields.bindAttempt hP hcreate (fun _ _ _ _ => Yields.pure hP trivial)
        fun _ _ _ _ => trivial
    · rw [dispatch_of_stage hstage hhandler, advance, bind_assoc]
      refine Yields.bindExcept hP (fun sagaId hcorrelate => ?_) fun _ _ => trivial
      exact Yields.bindAttempt hP
        (attempts_obey hmemory hsend hreg hstage hhandler hcorrelate _ 0 w)
        (fun _ _ _ _ => Yields.pure hP trivial) fun _ _ _ _ => trivial

end

end Visit

/-- The entries that a turn leaves, those of the deliveries nested in it included. -/
def Turn.entries (turn : Turn A) : List (Entry A) :=
  turn.after.history.drop turn.before.history.length

theorem Turn.entries_eq {turn : Turn A} {es : List (Entry A)}
    (h : turn.after.history = turn.before.history ++ es) : turn.entries = es := by
  unfold Turn.entries
  rw [h, List.drop_left]

namespace Orchestrator

variable {orchestrator : Orchestrator A}

/-- **What a delivery writes stands before every cancellation of its signal**, in each turn. -/
theorem turns_obey (hmemory : orchestrator.InMemory) (nesting : Nat) (request : Request A.Body)
    (w : World A) : ∀ turn ∈ orchestrator.turns nesting request w,
      Obeys request.signal turn.before turn.entries ∧
        Signalled turn.before turn.entries turn.after := by
  intro turn hmem
  obtain ⟨hreg, hw, hturn⟩ := turns_visits nesting request w turn hmem
  let visit : Visit A :=
    { orchestrator, send := orchestrator.below nesting, registration := turn.registration, request }
  have hregistered : visit.registration ∈ visit.orchestrator.directory.registrations := hreg
  have hsend := below_sends hmemory.signalled nesting
  have hsteps : Yields (Obeying orchestrator.Course request.signal) turn.before visit.dispatch.run
      fun _ _ _ => True := visit.dispatch_obeys hmemory hsend hregistered turn.before
  obtain ⟨es, ⟨hes, hobeys⟩, -⟩ := hsteps hw
  have hafter : turn.after = (visit.dispatch.run turn.before).2 := congrArg Turn.after hturn.symm
  have hentries : turn.entries = es := Turn.entries_eq (by rw [hafter, hes.history])
  rw [hentries, hafter]
  exact ⟨hobeys, hes.law⟩

end Orchestrator

end Sagas
