import Sagas.Proofs.Acceptance
import Sagas.Proofs.Answers
import Sagas.Proofs.Signals
import Sagas.Simulation.Wrappers

/-!
# Cancellation

A cancelled signal lets no write through and undoes none. Whoever cancels the signal of a call
before a step has saved stops that step, and all that the call would have done after it. Whoever
cancels it after the save changes nothing about the step.

* `dispatch_run_of_cancelled`, `turnsFrom_of_cancelled`: what begins under a cancelled signal does
  nothing.
* `UpToSignals`, `dispatch_amid`: what others do to the signals after a save makes no difference.
* `CancelsSafely`, `cancels_safely`: all of it, for one call.
-/

namespace Sagas

variable {A : Application} {α β : Type}

/-- Nothing was done from one world to another: no program ran, and no gateway was asked. -/
structure World.Untouched (w w' : World A) : Prop where
  resources : w'.toResources = w.toResources
  journal : w'.journal = w.journal

namespace World.Untouched

theorem refl (w : World A) : w.Untouched w := ⟨rfl, rfl⟩

theorem trans {w w' w'' : World A} (h : w.Untouched w') (h' : w'.Untouched w'') :
    w.Untouched w'' :=
  ⟨h'.resources.trans h.resources, h'.journal.trans h.journal⟩

theorem isCancelled {w w' : World A} (h : w.Untouched w') (signal : Signal) :
    w'.signals.isCancelled signal = w.signals.isCancelled signal :=
  congrArg (·.signals.isCancelled signal) h.resources

end World.Untouched

/-- No other attempt at a step follows a result but a conflict. -/
def Conclusive (result : Except SagaError α) : Prop := ∀ stale, result ≠ .error (.conflict stale)

/-- An error stays one whatever the step would have come to. -/
theorem Conclusive.error {error : SagaError} (h : Conclusive (.error error : Except SagaError α)) :
    Conclusive (.error error : Except SagaError β) :=
  fun stale hstale => h stale (congrArg _ (Except.error.inj hstale))

/-! ## Under a cancelled signal -/

namespace Visit

variable {visit : Visit A} {stage : Stage} {handler : Handler A} {w : World A}

/-- Only a conflict makes a step run again. -/
theorem attempts_run_of_conclusive {key : Key}
    (h : Conclusive ((visit.advanceOnce stage handler key).run w).1) (reruns made : Nat) :
    (visit.attempts stage handler key reruns made).run w =
      (visit.advanceOnce stage handler key).run w := by
  generalize hrun : (visit.advanceOnce stage handler key).run w = out at h
  obtain ⟨result, after⟩ := out
  cases reruns
  all_goals
    unfold attempts
    rw [ExceptT.run_mk, Run.bind_apply, hrun]
    dsimp only at h ⊢
    split
    · exact absurd rfl (h _)
    · rfl

section

variable (hcancelled : w.signals.isCancelled visit.request.signal = true)
include hcancelled

theorem create_run_of_cancelled (handler : Handler A) :
    (visit.create handler).run w = (.error .cancelled, begun w) := by
  unfold create
  change (checkSignal visit.request.signal >>= _).run (begun w) = _
  rw [checkSignal_run]
  exact if_pos hcancelled

theorem advanceOnce_run_of_cancelled (stage : Stage) (handler : Handler A) (key : Key) :
    (visit.advanceOnce stage handler key).run w = (.error .cancelled, begun w) := by
  unfold advanceOnce
  change (checkSignal visit.request.signal >>= _).run (begun w) = _
  rw [checkSignal_run]
  exact if_pos hcancelled

/-- **A step that begins under a cancelled signal** ends there. -/
theorem dispatch_run_of_cancelled (hcorrelates : visit.registration.Correlates)
    (hhandler : (visit.registration.handler? visit.request.message.type).isSome = true) :
    visit.dispatch.run w = (.error .cancelled, begun w) := by
  obtain ⟨⟨stage, handler⟩, hhandler⟩ := Option.isSome_iff_exists.1 hhandler
  by_cases hstage : stage = .start
  · subst hstage
    rw [dispatch_of_start hhandler]
    exact Attempt.run_bind_error (create_run_of_cancelled hcancelled handler)
  · obtain ⟨sagaId, hok⟩ := hcorrelates _ _ _ hhandler hstage
    have honce := advanceOnce_run_of_cancelled hcancelled stage handler ⟨visit.sagaType, sagaId⟩
    rw [dispatch_of_stage hstage hhandler, advance, hok]
    refine Attempt.run_bind_error ((attempts_run_of_conclusive ?_ _ _).trans honce)
    rw [honce]
    intro stale hstale
    cases hstale

/-- A turn that begins under a cancelled signal does nothing. -/
theorem turn_of_cancelled (hcorrelates : visit.registration.Correlates) :
    w.Untouched (visit.turn w).after ∧ (visit.turn w).result =
      if (visit.registration.handler? visit.request.message.type).isSome then .error .cancelled
      else .ok none := by
  unfold turn
  cases hhandler : visit.registration.handler? visit.request.message.type with
  | none =>
    rw [dispatch_of_none hhandler]
    exact ⟨⟨rfl, rfl⟩, rfl⟩
  | some found =>
    have hsome : (visit.registration.handler? visit.request.message.type).isSome = true := by
      rw [hhandler]
      rfl
    rw [dispatch_run_of_cancelled hcancelled hcorrelates hsome]
    exact ⟨⟨rfl, rfl⟩, rfl⟩

end

end Visit

namespace Orchestrator

variable {orchestrator : Orchestrator A} {send : Request A.Body → Run A Answer}
  {request : Request A.Body} {registrations : List (Registration A)} {w : World A}
  {log : List (Directory.Logged A)} {nesting : Nat}

/-- **Turns that begin under a cancelled signal** do nothing, and come to an error if one of their
sagas handles the message. -/
theorem turnsFrom_of_cancelled
    (hcorrelates : ∀ registration ∈ registrations, registration.Correlates)
    (hcancelled : w.signals.isCancelled request.signal = true) :
    let turns := orchestrator.turnsFrom send request registrations w
    w.Untouched (reached w turns) ∧ gathered turns =
      if registrations.any fun registration =>
          (registration.handler? request.message.type).isSome then .error .cancelled
      else .ok [] := by
  induction registrations generalizing w with
  | nil => exact ⟨.refl w, rfl⟩
  | cons registration rest ih =>
    let visit : Visit A := { orchestrator, send, registration, request }
    obtain ⟨hhead, hrest⟩ := List.forall_mem_cons.1 hcorrelates
    obtain ⟨huntouched, hresult⟩ : w.Untouched (visit.turn w).after ∧ (visit.turn w).result =
        if (registration.handler? request.message.type).isSome then .error .cancelled
        else .ok none := visit.turn_of_cancelled hcancelled hhead
    intro turns
    have hturns : turns = visit.turn w :: if (visit.turn w).error? = none then
        orchestrator.turnsFrom send request rest (visit.turn w).after else [] := turnsFrom_cons ..
    rw [hturns, gathered_cons, hresult, List.any_cons]
    cases hhandler : (registration.handler? request.message.type).isSome with
    | true =>
      -- the turns end here
      rw [hhandler] at hresult
      have herror : (visit.turn w).error? = some .cancelled := by
        unfold Turn.error?
        rw [hresult]
        rfl
      rw [herror, if_neg nofun]
      exact ⟨huntouched, rfl⟩
    | false =>
      rw [hhandler] at hresult
      have hnone : (visit.turn w).error? = none := by
        unfold Turn.error?
        rw [hresult]
        rfl
      have hstill := huntouched.isCancelled request.signal
      obtain ⟨hothers, hgathered⟩ := ih hrest (hstill.trans hcancelled)
      rw [if_pos hnone]
      refine ⟨huntouched.trans hothers, ?_⟩
      simp only [hgathered, Bool.false_or, Bool.false_eq_true, if_false]
      split <;> rfl

section

variable {earlier later : List (Turn A)} {turn : Turn A}

/-- Each of several sagas that a request is for handles the message. -/
theorem handles_of_selected (hreached : orchestrator.directory.Reached log)
    (hselected : orchestrator.selected request = .ok registrations)
    (hmany : 1 < registrations.length) :
    ∀ registration ∈ registrations, (registration.handler? request.message.type).isSome = true := by
  unfold selected at hselected
  split at hselected
  · obtain rfl := Except.ok.inj hselected
    exact fun _ hmem => hreached.handles hmem
  · split at hselected
    · obtain rfl := Except.ok.inj hselected
      exact absurd hmany (Nat.lt_irrefl 1)
    · cases hselected

/-- What follows a turn that leaves the signal cancelled. -/
theorem later_of_cancelled (hreached : orchestrator.directory.Reached log)
    (hselected : orchestrator.selected request = .ok registrations)
    (hturns : orchestrator.turnsFrom send request registrations w = earlier ++ turn :: later)
    (hcancelled : turn.after.signals.isCancelled request.signal = true) :
    turn.after.Untouched (reached turn.after later) ∧
      (turn.error? = none → earlier.length + 1 < registrations.length →
        gathered later = .error .cancelled) := by
  obtain ⟨rest, rfl, hlater⟩ := turnsFrom_split hturns
  have hcorrelates : ∀ registration ∈ rest, registration.Correlates := fun registration hmem =>
    correlates_of_selected hreached hselected registration (by simp [hmem])
  cases herror : turn.error? with
  | some error =>
    rw [hlater, if_neg (by simp [herror])]
    exact ⟨.refl _, nofun⟩
  | none =>
    rw [hlater, if_pos herror]
    obtain ⟨huntouched, hgathered⟩ : turn.after.Untouched
        (reached turn.after (orchestrator.turnsFrom send request rest turn.after)) ∧ _ :=
      turnsFrom_of_cancelled hcorrelates hcancelled
    refine ⟨huntouched, fun _ hmore => hgathered.trans (if_pos ?_)⟩
    -- one of the sagas that are left handles the message
    have hhandles := handles_of_selected hreached hselected (by omega)
    cases rest with
    | nil => simp at hmore
    | cons next rest =>
      have hnext := hhandles next (by simp)
      rw [List.any_cons, hnext, Bool.true_or]

/-- **Once its signal is cancelled** nothing more is done in a delivery, and it ends in an error if
a saga has not had its turn. -/
theorem untouched_of_cancelled (hreached : orchestrator.directory.Reached log)
    (hturns : orchestrator.turns nesting request w = earlier ++ turn :: later)
    (hcancelled : turn.after.signals.isCancelled request.signal = true) :
    let call := orchestrator.deliver nesting request w
    turn.after.Untouched call.2 ∧
      ∀ registrations, orchestrator.selected request = .ok registrations →
        earlier.length + 1 < registrations.length →
        call.1 = .error (turn.error?.getD .cancelled) := by
  intro call
  have hmem : turn ∈ orchestrator.turns nesting request w := by simp [hturns]
  obtain ⟨registrations, hselected⟩ := selected_of_turns_ne_nil (List.ne_nil_of_mem hmem)
  have hfrom : orchestrator.turnsFrom (orchestrator.below nesting) request registrations (begun w) =
      earlier ++ turn :: later := by
    rw [← hturns]
    unfold turns
    rw [hselected]
  obtain ⟨huntouched, hgathered⟩ := later_of_cancelled hreached hselected hfrom hcancelled
  obtain ⟨trace, htold⟩ := orchestrator.deliver_told nesting request w
  rw [hturns, reached_split] at htold
  refine ⟨?_, fun others hothers hmore => ?_⟩
  · have hworld : call.2 = { reached turn.after later with trace } := congrArg Prod.snd htold
    rw [hworld]
    exact ⟨huntouched.resources, huntouched.journal⟩
  · obtain rfl : registrations = others := Except.ok.inj (hselected.symm.trans hothers)
    cases herror : turn.error? with
    | some error => exact answer_of_error hmem herror
    | none =>
      obtain ⟨next, hnext, hcancelled⟩ := exists_error?_of_gathered (hgathered herror hmore)
      refine answer_of_error ?_ hcancelled
      rw [hturns]
      exact List.mem_append_right _ (List.mem_cons_of_mem _ hnext)

/-- **A delivery that begins under a cancelled signal** does nothing. -/
theorem deliver_of_cancelled (hreached : orchestrator.directory.Reached log)
    (hcancelled : w.signals.isCancelled request.signal = true) :
    let call := orchestrator.deliver nesting request w
    w.Untouched call.2 ∧ call.1 = (orchestrator.selected request).bind fun registrations =>
      if registrations.any fun registration =>
          (registration.handler? request.message.type).isSome then .error .cancelled
      else .ok { messageType := request.message.type, outcomes := [] } := by
  intro call
  obtain ⟨trace, htold⟩ := orchestrator.deliver_told nesting request w
  have hworld : call.2 = _ := congrArg Prod.snd htold
  have hanswer : call.1 = _ := congrArg Prod.fst htold
  unfold turns at hworld hanswer
  cases hselected : orchestrator.selected request with
  | error error =>
    rw [hselected] at hworld hanswer
    exact ⟨hworld ▸ ⟨rfl, rfl⟩, hanswer⟩
  | ok registrations =>
    rw [hselected] at hworld hanswer
    have hbegun : (begun w).signals.isCancelled request.signal = true := hcancelled
    have hcorrelates := correlates_of_selected hreached hselected
    obtain ⟨huntouched, hgathered⟩ : (begun w).Untouched (reached (begun w) (orchestrator.turnsFrom
        (orchestrator.below nesting) request registrations (begun w))) ∧ _ :=
      turnsFrom_of_cancelled hcorrelates hbegun
    refine ⟨?_, ?_⟩
    · rw [hworld]
      exact ⟨huntouched.resources, huntouched.journal⟩
    · rw [hanswer]
      simp only [hgathered]
      change Except.bind _ _ = ite _ _ _
      split <;> rfl

end

end Orchestrator

/-! ## After an accepted save -/

/-- The same gateways while others act: they change the signals when a record has been saved, and
again when a message has been published. -/
def Gateways.amid (others : Resources A → Signals) (gateways : Gateways A) : Gateways A :=
  { gateways with
    save := fun record signal resources =>
      let (result, resources) := gateways.save record signal resources
      (result, match result with
        | .ok _ => { resources with signals := others resources }
        | .error _ => resources)
    publish := fun outgoing signal resources =>
      let (result, resources) := gateways.publish outgoing signal resources
      (result, { resources with signals := others resources }) }

/-- The same visit while others act. -/
def Visit.amid (others : Resources A → Signals) (visit : Visit A) : Visit A :=
  { visit with
    orchestrator :=
      { visit.orchestrator with gateways := visit.orchestrator.gateways.amid others } }

/-- Two attempts do the same, but that the signals may differ in the end. They do not differ after a
conflict, since then the step may run again. -/
def UpToSignals (x x' : Attempt A α) : Prop :=
  ∀ w, x'.run w = x.run w ∨
    Conclusive (x.run w).1 ∧ ∃ signals, x'.run w = ((x.run w).1, { (x.run w).2 with signals })

namespace UpToSignals

theorem refl (x : Attempt A α) : UpToSignals x x := fun _ => .inl rfl

theorem bind {x : Attempt A α} {f f' : α → Attempt A β} (hf : ∀ a, UpToSignals (f a) (f' a)) :
    UpToSignals (x >>= f) (x >>= f') := by
  intro w
  rw [ExceptT.run_bind, ExceptT.run_bind, Run.bind_apply, Run.bind_apply]
  cases (x.run w).1 with
  | ok a => exact hf a _
  | error error => exact .inl rfl

theorem map {x x' : Attempt A α} (h : UpToSignals x x') (g : α → β) :
    UpToSignals (do return g (← x)) (do return g (← x')) := by
  intro w
  rw [ExceptT.run_bind, ExceptT.run_bind, Run.bind_apply, Run.bind_apply]
  rcases h w with heq | ⟨hconclusive, signals, heq⟩
  · exact .inl (by rw [heq])
  · rw [heq]
    refine .inr ?_
    generalize x.run w = out at hconclusive
    obtain ⟨result, after⟩ := out
    cases result with
    | ok a => exact ⟨nofun, signals, rfl⟩
    | error error => exact ⟨hconclusive.error, signals, rfl⟩

/-- Another run of a step follows a conflict only. -/
theorem rerun {x x' : Attempt A α} {k k' : Except SagaError α → Run A (Except SagaError α)}
    (h : UpToSignals x x')
    (hreturn : ∀ result, Conclusive result → k result = pure result ∧ k' result = pure result)
    (hagain : ∀ stale, UpToSignals (ExceptT.mk (k (.error (.conflict stale))))
      (ExceptT.mk (k' (.error (.conflict stale))))) :
    UpToSignals (ExceptT.mk (x.run >>= k)) (ExceptT.mk (x'.run >>= k')) := by
  intro w
  rw [ExceptT.run_mk, ExceptT.run_mk, Run.bind_apply, Run.bind_apply]
  rcases h w with heq | ⟨hconclusive, signals, heq⟩
  · rw [heq]
    by_cases hconflict : ∃ stale, (x.run w).1 = .error (.conflict stale)
    · obtain ⟨stale, hstale⟩ := hconflict
      rw [hstale]
      exact hagain stale _
    · obtain ⟨hk, hk'⟩ := hreturn _ fun stale hstale => hconflict ⟨stale, hstale⟩
      rw [hk, hk']
      exact .inl rfl
  · obtain ⟨hk, hk'⟩ := hreturn _ hconclusive
    rw [heq, hk, hk']
    exact .inr ⟨hconclusive, signals, rfl⟩

end UpToSignals

namespace Visit

variable {visit : Visit A} (hmemory : visit.orchestrator.InMemory) (others : Resources A → Signals)

/-- Others are heard of once a record has been saved, and not before. -/
theorem save_amid (record : Record) (w : World A) :
    ((visit.amid others).save record).run w = (visit.save record).run w ∧
        (∃ error, ((visit.save record).run w).1 = .error error) ∨
      ∃ token signals, ((visit.save record).run w).1 = .ok token ∧
        ((visit.amid others).save record).run w =
          (.ok token, { ((visit.save record).run w).2 with signals }) := by
  rw [save_run rfl, save_run rfl]
  unfold afterSave World.called Visit.amid Gateways.amid
  dsimp only
  generalize visit.orchestrator.gateways.save record visit.request.signal w.toResources = out
  obtain ⟨result, resources⟩ := out
  cases result with
  | ok token => exact .inr ⟨token, others resources, rfl, rfl⟩
  | error error => exact .inl ⟨rfl, _, rfl⟩

/-- A refused message is no conflict. -/
theorem publishOutgoing_conclusive (key : Key) (outgoing : Option (Outgoing A.Body))
    (w : World A) : Conclusive ((visit.publishOutgoing key outgoing).run w).1 := by
  cases outgoing with
  | none => exact nofun
  | some outgoing =>
    cases hpublish : (visit.orchestrator.gateways.publish outgoing visit.request.signal
        w.toResources).1 with
    | ok published =>
      rw [publishOutgoing_run_ok hpublish]
      exact nofun
    | error fault =>
      rw [publishOutgoing_run_error hpublish]
      exact nofun

section

include hmemory

/-- What comes after an accepted save does not depend on the signals. -/
theorem publishOutgoing_amid (key : Key) (outgoing : Option (Outgoing A.Body)) (w : World A)
    (signals : Signals) : ∃ signals',
    ((visit.amid others).publishOutgoing key outgoing).run { w with signals } =
      (((visit.publishOutgoing key outgoing).run w).1,
        { ((visit.publishOutgoing key outgoing).run w).2 with signals := signals' }) := by
  obtain ⟨resolve, hresolve⟩ := hmemory
  have hamid : (visit.amid others).orchestrator.gateways =
      (Gateways.inMemory resolve).amid others := congrArg (Gateways.amid others) hresolve
  cases outgoing with
  | none => exact ⟨signals, rfl⟩
  | some outgoing =>
    have hworld : ∃ signals', (visit.amid others).afterPublish outgoing { w with signals } =
        { visit.afterPublish outgoing w with signals := signals' } := by
      unfold afterPublish
      rw [hamid, hresolve]
      exact ⟨_, rfl⟩
    obtain ⟨signals', hworld⟩ := hworld
    refine ⟨signals', ?_⟩
    cases hpublish : (w.outbox.publish outgoing).1 with
    | ok published =>
      rw [publishOutgoing_run_ok (w := w) (by rw [hresolve]; exact hpublish),
        publishOutgoing_run_ok (by rw [hamid]; exact hpublish), hworld]
    | error fault =>
      rw [publishOutgoing_run_error (w := w) (by rw [hresolve]; exact hpublish),
        publishOutgoing_run_error (by rw [hamid]; exact hpublish), hworld]

/-- **A step that commits** does not depend on what others do to the signals after its save. -/
theorem commit_amid (step : StepInfo) (state : A.State) (transition : Transition A.Body)
    (status : Status) : UpToSignals (visit.commit step state transition status)
      ((visit.amid others).commit step state transition status) := by
  unfold commit
  refine .bind fun _ => .bind fun json => .bind fun now => ?_
  intro w
  generalize hrecord : visit.recordOf step.key status state json now.clock = record
  have hsame : (visit.amid others).recordOf step.key status state json now.clock = record := hrecord
  rw [hsame, ExceptT.run_bind, ExceptT.run_bind, Run.bind_apply, Run.bind_apply]
  rcases save_amid others record w with ⟨hsave, error, herror⟩ | ⟨token, signals, hok, hsave⟩
  · rw [hsave, herror]
    exact .inl rfl
  · -- the step has saved, and ends in no conflict
    obtain ⟨signals', hpublished⟩ := publishOutgoing_amid hmemory others step.key
      transition.outgoing? ((visit.save record).run w).2 signals
    have hconclusive : Conclusive ((visit.publishOutgoing step.key transition.outgoing?).run
        ((visit.save record).run w).2).1 :=
      publishOutgoing_conclusive step.key transition.outgoing? _
    rw [hsave, hok]
    dsimp only
    rw [ExceptT.run_bind, ExceptT.run_bind, Run.bind_apply, Run.bind_apply, hpublished]
    generalize (visit.publishOutgoing step.key transition.outgoing?).run
      ((visit.save record).run w).2 = out at hconclusive
    obtain ⟨result, after⟩ := out
    cases result with
    | ok published => exact .inr ⟨nofun, signals', rfl⟩
    | error error => exact .inr ⟨hconclusive.error, signals', rfl⟩

theorem settle_amid (step : StepInfo) (state : A.State) (transition : Transition A.Body) :
    UpToSignals (visit.settle step state transition)
      ((visit.amid others).settle step state transition) := by
  unfold settle
  refine .bind fun _ => ?_
  cases Status.after transition.kind with
  | none => exact .refl _
  | some status => exact commit_amid hmemory others step state transition status

theorem execute_amid (stage : Stage) (handler : Handler A) (runner : Instance) (key : Key)
    (state : A.State) : UpToSignals (visit.execute stage handler runner key state)
      ((visit.amid others).execute stage handler runner key state) := by
  unfold execute
  exact .bind fun _ => .bind fun _ => .bind fun _ => .bind fun _ =>
    settle_amid hmemory others _ _ _

theorem create_amid (handler : Handler A) :
    UpToSignals (visit.create handler) ((visit.amid others).create handler) := by
  unfold create
  exact .bind fun _ => .bind fun _ => .bind fun _ => .bind fun _ => .bind fun _ => .bind fun _ =>
    .bind fun _ => .bind fun _ => execute_amid hmemory others _ _ _ _ _

theorem advanceOnce_amid (stage : Stage) (handler : Handler A) (key : Key) :
    UpToSignals (visit.advanceOnce stage handler key)
      ((visit.amid others).advanceOnce stage handler key) := by
  unfold advanceOnce
  exact .bind fun _ => .bind fun _ => .bind fun _ => .bind fun _ => .bind fun _ => .bind fun _ =>
    .bind fun _ => .bind fun _ => execute_amid hmemory others _ _ _ _ _

theorem attempts_amid (stage : Stage) (handler : Handler A) (key : Key) (reruns made : Nat) :
    UpToSignals (visit.attempts stage handler key reruns made)
      ((visit.amid others).attempts stage handler key reruns made) := by
  have honce := advanceOnce_amid hmemory others stage handler key
  induction reruns generalizing made with
  | zero =>
    unfold attempts
    refine .rerun honce (fun result hconclusive => ?_) fun stale => .refl _
    constructor
    all_goals
      split
      · exact absurd rfl (hconclusive _)
      · rfl
  | succ reruns ih =>
    unfold attempts
    refine .rerun honce (fun result hconclusive => ?_) fun stale w => ih (made + 1) _
    constructor
    all_goals
      split
      · exact absurd rfl (hconclusive _)
      · rfl

/-- **What others do to the signals after the save of a step** makes no difference to it. -/
theorem dispatch_amid : UpToSignals visit.dispatch (visit.amid others).dispatch := by
  generalize hlate : visit.amid others = late
  have hhandler : late.registration.handler? late.request.message.type =
      visit.registration.handler? visit.request.message.type := by rw [← hlate]; rfl
  cases hcase : visit.registration.handler? visit.request.message.type with
  | none =>
    rw [dispatch_of_none hcase, dispatch_of_none (hhandler.trans hcase), ← hlate]
    exact .refl _
  | some found =>
    obtain ⟨stage, handler⟩ := found
    by_cases hstage : stage = .start
    · subst hstage
      rw [dispatch_of_start hcase, dispatch_of_start (hhandler.trans hcase), ← hlate]
      exact (create_amid hmemory others handler).map some
    · rw [dispatch_of_stage hstage hcase, dispatch_of_stage hstage (hhandler.trans hcase), ← hlate]
      exact UpToSignals.map (.bind fun _ => attempts_amid hmemory others stage handler _ _ 0) some

theorem turn_amid (w : World A) :
    ((visit.amid others).turn w).result = (visit.turn w).result ∧
      ∃ signals, ((visit.amid others).turn w).after = { (visit.turn w).after with signals } := by
  unfold turn
  rcases dispatch_amid hmemory others w with hsame | ⟨-, signals, hsame⟩
  · rw [hsame]
    exact ⟨rfl, _, rfl⟩
  · rw [hsame]
    exact ⟨rfl, signals, rfl⟩

end

end Visit

/-! ## Deliveries and cancellation -/

namespace Orchestrator

/-- How a delivery and the cancellation of its signal get along. -/
structure CancelsSafely (orchestrator : Orchestrator A) (nesting : Nat) (request : Request A.Body)
    (w : World A) : Prop where
  /-- Once the signal is cancelled, before a turn or in it, the step of the turn makes no save and no
  publish of its own; the history tells when it is cancelled. -/
  unwritten : ∀ turn ∈ orchestrator.turns nesting request w,
    Obeys request.signal turn.before turn.entries ∧
      Signalled turn.before turn.entries turn.after
  /-- Whatever the gateways are, and whoever cancels the signal while they are at work: none is
  asked for a load or a save under a cancelled signal, so what it would do then does not matter. -/
  unasked : ∀ gateways gateways' : Gateways A, gateways.Mirrors gateways' →
    let call := (orchestrator.mirror gateways orchestrator.chain).deliver nesting request w
    let call' := (orchestrator.mirror gateways' orchestrator.chain).deliver nesting request w
    call'.1 = call.1 ∧ call'.2.toResources = call.2.toResources ∧ call'.2.journal = call.2.journal
  /-- After a turn that leaves the signal cancelled nothing more is done, and the answer is an error
  if there are sagas that have not had their turn. -/
  stopped : ∀ earlier turn later, orchestrator.turns nesting request w = earlier ++ turn :: later →
    turn.after.signals.isCancelled request.signal = true →
    let call := orchestrator.deliver nesting request w
    turn.after.Untouched call.2 ∧
      ∀ registrations, orchestrator.selected request = .ok registrations →
        earlier.length + 1 < registrations.length →
        call.1 = .error (turn.error?.getD .cancelled)
  /-- Whatever others do to the signals after the save of a step, the step publishes the same and
  comes out the same. -/
  kept : ∀ turn ∈ orchestrator.turns nesting request w, ∀ others : Resources A → Signals,
    let late := ((orchestrator.visitOf nesting request turn).amid others).turn turn.before
    late.result = turn.result ∧ ∃ signals, late.after = { turn.after with signals }
  /-- A delivery that begins under a cancelled signal does nothing. -/
  entered : w.signals.isCancelled request.signal = true →
    w.Untouched (orchestrator.deliver nesting request w).2
  /-- Begun under a cancelled signal, a delivery to an unknown saga type says so. -/
  unknown : w.signals.isCancelled request.signal = true →
    ∀ saga, request.target = some saga → orchestrator.directory.find? saga = none →
      (orchestrator.deliver nesting request w).1 = .error (.notRegistered saga.name)
  /-- Begun under a cancelled signal, a delivery is cancelled if a saga that it is for handles the
  message. -/
  cancelled : w.signals.isCancelled request.signal = true →
    ∀ registrations, orchestrator.selected request = .ok registrations →
      (∃ registration ∈ registrations,
        (registration.handler? request.message.type).isSome = true) →
      (orchestrator.deliver nesting request w).1 = .error .cancelled
  /-- Begun under a cancelled signal, a delivery for sagas that do not handle the message has an
  empty report. -/
  irrelevant : w.signals.isCancelled request.signal = true →
    ∀ registrations, orchestrator.selected request = .ok registrations →
      (∀ registration ∈ registrations, registration.handler? request.message.type = none) →
      (orchestrator.deliver nesting request w).1 =
        .ok { messageType := request.message.type, outcomes := [] }

/-- **Cancellation lets no write through and undoes none**, whenever the signal of a delivery over
the gateways in memory is cancelled. -/
theorem cancels_safely (orchestrator : Orchestrator A) (hmemory : orchestrator.InMemory)
    {log : List (Directory.Logged A)} (hreached : orchestrator.directory.Reached log)
    (nesting : Nat) (request : Request A.Body) (w : World A) :
    orchestrator.CancelsSafely nesting request w where
  unwritten := turns_obey hmemory nesting request w
  unasked gateways gateways' hgateways := by
    -- the worlds may differ in counters and log, but they start out the same
    have hmirrors : Mirrors (fun _ _ => True) (orchestrator.mirror gateways orchestrator.chain)
        gateways' orchestrator.chain :=
      mirrors_gateways (fun _ _ _ _ => trivial) hgateways
    obtain ⟨hanswer, metrics, trace, hafter, -⟩ :=
      hmirrors.deliver nesting request w w ⟨w.metrics, w.trace, rfl, trivial⟩
    have hresources := congrArg World.toResources hafter
    have hjournal := congrArg World.journal hafter
    exact ⟨hanswer, hresources, hjournal⟩
  stopped _ _ _ hturns hcancelled := untouched_of_cancelled hreached hturns hcancelled
  kept turn hmem others := by
    have hvisit : (orchestrator.visitOf nesting request turn).orchestrator.InMemory := hmemory
    have hlate := Visit.turn_amid hvisit others turn.before
    obtain ⟨-, -, hturn⟩ := turns_visits nesting request w turn hmem
    rw [hturn] at hlate
    exact hlate
  entered hcancelled := (deliver_of_cancelled hreached hcancelled).1
  unknown hcancelled saga htarget hunknown := by
    have hselected : orchestrator.selected request = .error (.notRegistered saga.name) := by
      unfold selected
      simp only [htarget, hunknown]
    rw [(deliver_of_cancelled hreached hcancelled).2, hselected]
    rfl
  cancelled hcancelled registrations hselected hhandles := by
    rw [(deliver_of_cancelled hreached hcancelled).2, hselected]
    exact if_pos (List.any_eq_true.2 hhandles)
  irrelevant hcancelled registrations hselected hnone := by
    rw [(deliver_of_cancelled hreached hcancelled).2, hselected]
    refine if_neg fun hany => ?_
    obtain ⟨registration, hmem, hhandles⟩ := List.any_eq_true.1 hany
    rw [hnone registration hmem] at hhandles
    cases hhandles

open Simulation in
/-- A pair of sagas whose handlers are wrapped so that the signal is cancelled behind them. -/
def cancelling : Orchestrator Scripted :=
  { pair "Second" with
    chain := [(WrapperSpec.scripted ⟨none, none, none, none⟩ .cancelAfter).toWrapper] }

open Simulation in
/-- The first saga asks for a redelivery while the signal is cancelled: it has come out already, and
the second one is cancelled. -/
theorem cancels_safely_pair :
    let request := requestFor none askThenFail
    let bench := { Bench.empty with sending := [request.signal] }
    let w := World.ofResources { emptyBench with env := bench }
    let turns := cancelling.turns 2 request w
    turns.map Turn.error? = [none, some .cancelled] ∧
      turns.map (·.after.signals.isCancelled request.signal) = [true, true] ∧
      cancelling.CancelsSafely 2 request w :=
  have hreached :=
    (Directory.Reached.empty.register firstSpec.toSaga).register (secondSpec "Second").toSaga
  ⟨by decide +kernel, by decide +kernel, cancels_safely cancelling ⟨_, rfl⟩ hreached 2 _ _⟩

end Orchestrator

end Sagas
