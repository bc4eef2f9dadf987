import Sagas.Proofs.Course
import Sagas.Proofs.Passage

/-!
# The engine makes the passages told of it

One theorem for each function of the engine: it makes a passage, and its events and its result
are those of the relation that follows it.

* `Program.yields`: a program leaves no event of the engine itself, at any depth of nesting.
* `advanceOnce_within`, `create_within`: what is done inside one attempt.
* `advanceOnce_yields`, `create_yields`: one attempt is a whole course.
* `deliver_yields`: a delivery, whatever its programs send, to any depth.
-/

namespace Sagas

variable {A : Application} {α β : Type} {C : List (Event A) → Prop}
  {R : World A → List (Entry A) → World A → Prop} {gateways : Gateways A} {w : World A}

/-- Whoever answers nested messages makes passages of whole attempts. -/
def Sends (C : List (Event A) → Prop) (R : World A → List (Entry A) → World A → Prop)
    (send : Request A.Body → Run A Answer) : Prop :=
  ∀ request w, ∃ es, Across C R w es (send request w).2

theorem Sends.mono {C' : List (Event A) → Prop} {send : Request A.Body → Run A Answer}
    (hC : ∀ events, C events → C' events) (h : Sends C R send) : Sends C' R send := by
  intro request w
  obtain ⟨es, hes⟩ := h request w
  exact ⟨es, hes.mono hC id⟩

/-! ## Single effects -/

/-- An entry of the attempt in progress, other than a publish. -/
theorem Within.single {w w' : World A} {event : Event A}
    (hh : w'.history = w.history ++ [w.entry event]) (hd : w'.depth = w.depth)
    (ha : w'.attempt = w.attempt) (hn : w'.attempts = w.attempts)
    (hp : event.isPublish = false) (hl : R w [w.entry event] w') :
    Within C R w [w.entry event] w' := by
  refine ⟨hh, hd, ha, Nat.le_of_eq hn.symm, ?_, ?_, Paired.singleton hp, hl⟩
  · intro e he _
    rw [List.mem_singleton.1 he]
    exact .inl ⟨rfl, rfl⟩
  · intro a hlt hle
    omega

theorem Within.logged (hR : Law gateways R) {event : Event A} (h : event.isPlain = true) :
    Within C R w [w.entry event] (w.logged event) := by
  refine .single (history_logged w event) rfl rfl rfl ?_ (hR.plain w event h)
  cases event <;> first | rfl | simp [Event.isPlain] at h

/-- A nested delivery, seen from the attempt that sent its message. -/
theorem Within.nested (hR : Law gateways R) {w' : World A} {es : List (Entry A)}
    (h : Across C R { w with depth := w.depth + 1 } es w') :
    Within C R w es { w' with depth := w.depth, attempt := w.attempt } := by
  refine ⟨h.history, rfl, rfl, h.attempts, ?_, h.courses, h.paired, ?_⟩
  · intro e he hc
    obtain ⟨hd, hl, hu⟩ := h.place e he hc
    exact .inr ⟨hd, hl, hu⟩
  · -- going down and coming back leave nothing behind
    have h₁ : R w [] { w with depth := w.depth + 1 } := hR.still rfl rfl rfl
    have h₂ : R w' [] { w' with depth := w.depth, attempt := w.attempt } := hR.still rfl rfl rfl
    have h₃ := hR.trans (hR.trans h₁ h.law) h₂
    rwa [List.nil_append, List.append_nil] at h₃

/-- Nothing of the engine's own stands in a nested delivery. -/
theorem Across.eventsAt_nested {w' : World A} {es : List (Entry A)}
    (h : Across C R { w with depth := w.depth + 1 } es w') : eventsAt w.depth es = [] := by
  apply eventsAt_eq_nil
  intro e he hc
  have := (h.place e he hc).1
  simp only at this
  omega

/-! ## Programs -/

theorem Program.yields_nothing (hR : Law gateways R) {send : Request A.Body → Run A Answer}
    (hsend : Sends C R send) (program : Program A α) :
    ∀ w, Yields (Within C R) w (program.run send) fun es _ _ => es = [] := by
  have hP := Within.path (C := C) hR
  induction program with
  | done value => exact fun w => Yields.pure hP rfl
  | update change next ih =>
    intro w
    have h : Within C R w [] { w with env := change w.env } := .still hR rfl rfl rfl rfl rfl rfl rfl
    exact Yields.step hP h rfl (ih (change w.env) _)
  | note entry next ih =>
    intro w
    have h : Within C R w _ (w.logged (.noted entry)) := .logged hR rfl
    refine Yields.step hP h rfl ?_
    rw [eventsAt_entry_of_program rfl]
    exact ih _
  | newSignal next ih =>
    intro w
    have h : Within C R w [] { w with signals := w.signals.issue } :=
      .still hR rfl rfl rfl rfl rfl rfl rfl
    exact Yields.step hP h rfl (ih w.signals.fresh _)
  | cancel signal next ih =>
    intro w
    have h : Within C R w [w.entry (.cancelled signal)]
        (World.logged { w with signals := w.signals.cancel signal } (.cancelled signal)) :=
      .single (history_logged _ _) rfl rfl rfl rfl (hR.cancel w signal)
    refine Yields.step hP h rfl ?_
    rw [eventsAt_entry_of_program rfl]
    exact ih _
  | isCancelled signal next ih => exact fun w => ih (w.signals.isCancelled signal) w
  | newInstance next ih =>
    intro w
    have h : Within C R w [] { w with instances := w.instances + 1 } :=
      .still hR rfl rfl rfl rfl rfl rfl rfl
    exact Yields.step hP h rfl (ih w.instances _)
  | send request next ih =>
    intro w
    obtain ⟨es, hes⟩ := hsend request { w with depth := w.depth + 1 }
    refine Yields.step hP (Within.nested hR hes) rfl ?_
    rw [hes.eventsAt_nested]
    exact ih _ _

/-- **A program leaves no event of the engine**, and ends in one of its values. -/
theorem Program.yields (hR : Law gateways R) {send : Request A.Body → Run A Answer}
    (hsend : Sends C R send) (program : Program A α) (w : World A) :
    Yields (Within C R) w (program.run send) fun es a _ => es = [] ∧ program.CanEnd a := by
  intro hw
  obtain ⟨es, hp, hs⟩ := program.yields_nothing hR hsend w hw
  exact ⟨es, hp, hs, send, w, rfl⟩

/-! ## The chain and the handler -/

theorem Wrapper.tracing_run (send : Request A.Body → Run A Answer) (step : StepInfo) (work : Work A)
    (state : A.State) : (Wrapper.tracing.wrap send step work).run state = (do
      World.emit [.stepStarted step.key step.message step.stage]
      let p ← work.run state
      World.emit [endEvent step p.1]
      return p) := rfl

theorem Wrapper.metrics_run (send : Request A.Body → Run A Answer) (step : StepInfo) (work : Work A)
    (state : A.State) : (Wrapper.metrics.wrap send step work).run state = (do
      World.count [.steps step.key.sagaType step.stage]
      let p ← work.run state
      World.count (endMetrics step p.1)
      return p) := rfl

theorem Wrapper.custom_run (send : Request A.Body → Run A Answer) (step : StepInfo) (work : Work A)
    (state : A.State) (before : StepInfo → Program A (Around A)) :
    ((Wrapper.custom before).wrap send step work).run state =
      (before step).run send >>= fun around => match around with
        | .halt result => pure (result, state)
        | .enclose after => do
          let p ← work.run state
          let answer ← (after p.1).run send
          return (answer, p.2) := by
  simp only [Wrapper.wrap, Work.lift, StateT.run_bind, StateT.run_lift, bind_assoc, pure_bind]
  congr 1
  funext around
  cases around <;> rfl

theorem emit_yields {P : World A → List (Entry A) → World A → Prop} (hP : Path P)
    (events : List TraceEvent) (w : World A) :
    Yields P w (World.emit events) fun es _ _ => es = [] :=
  fun _ => ⟨[], hP.still rfl rfl rfl rfl rfl rfl rfl, rfl⟩

theorem count_yields {P : World A → List (Entry A) → World A → Prop} (hP : Path P)
    (metrics : List Metric) (w : World A) :
    Yields P w (World.count metrics) fun es _ _ => es = [] :=
  fun _ => ⟨[], hP.still rfl rfl rfl rfl rfl rfl rfl, rfl⟩

/-- An observer around some work adds nothing to it. -/
theorem observed_yields (hR : Law gateways R) {start : Run A Unit}
    {stop : HandlerResult A.Body → Run A Unit} {work : Run A (HandlerResult A.Body × A.State)}
    {S : List (Event A) → HandlerResult A.Body × A.State → Prop}
    (hstart : ∀ w, Yields (Within C R) w start fun es _ _ => es = [])
    (hstop : ∀ result w, Yields (Within C R) w (stop result) fun es _ _ => es = [])
    (hwork : ∀ w, Yields (Within C R) w work fun es p _ => S es p) (w : World A) :
    Yields (Within C R) w (do start; let p ← work; stop p.1; return p) fun es p _ => S es p := by
  have hP := Within.path (C := C) hR
  refine Yields.bind hP (hstart w) ?_
  rintro _ _ w₁ rfl
  refine Yields.bind hP (hwork w₁) ?_
  intro es p w₂ hs
  refine Yields.bind hP (hstop p.1 w₂) ?_
  rintro _ _ w₃ rfl
  refine Yields.pure hP ?_
  simpa using hs

/-- **The chain**: it lets the handler run at most once, and answers as its wrappers do. -/
theorem Chain.yields (hR : Law gateways R) {send : Request A.Body → Run A Answer}
    (hsend : Sends C R send) {step : StepInfo} {work : Work A} {state : A.State}
    (W : List (Event A) → HandlerResult A.Body → A.State → Prop)
    (hwork : ∀ w, Yields (Within C R) w (work.run state) fun es p _ => W es p.1 p.2)
    (chain : Chain A) :
    ∀ w, Yields (Within C R) w ((chain.run send step work).run state) fun es p _ =>
      (es = [] ∧ p.2 = state ∧ Wraps step chain none p.1) ∨
        ∃ inner, W es inner p.2 ∧ Wraps step chain (some inner) p.1 := by
  have hP := Within.path (C := C) hR
  induction chain with
  | nil =>
    intro w
    refine (hwork w).mono ?_
    intro es p _ hs
    exact .inr ⟨p.1, hs, .bare _⟩
  | cons wrapper rest ih =>
    intro w
    change Yields _ w ((wrapper.wrap send step (Chain.run send step work rest)).run state) _
    cases wrapper with
    | tracing =>
      rw [Wrapper.tracing_run]
      refine (observed_yields hR (emit_yields hP _)
        (fun result => emit_yields hP [endEvent step result]) ih w).mono ?_
      rintro es p _ (⟨he, hp, h⟩ | ⟨inner, hw, h⟩)
      · exact .inl ⟨he, hp, .tracing h⟩
      · exact .inr ⟨inner, hw, .tracing h⟩
    | metrics =>
      rw [Wrapper.metrics_run]
      refine (observed_yields hR (count_yields hP _)
        (fun result => count_yields hP (endMetrics step result)) ih w).mono ?_
      rintro es p _ (⟨he, hp, h⟩ | ⟨inner, hw, h⟩)
      · exact .inl ⟨he, hp, .metrics h⟩
      · exact .inr ⟨inner, hw, .metrics h⟩
    | custom before =>
      rw [Wrapper.custom_run]
      refine Yields.bind hP ((before step).yields hR hsend w) ?_
      rintro _ around w₁ ⟨rfl, hbefore⟩
      cases around with
      | halt result =>
        -- the rest of the chain does not run
        exact Yields.pure hP (.inl ⟨rfl, rfl, .halt hbefore⟩)
      | enclose after =>
        refine Yields.bind hP (ih w₁) ?_
        intro es p w₂ hs
        refine Yields.bind hP ((after p.1).yields hR hsend w₂) ?_
        rintro _ answer w₃ ⟨rfl, hafter⟩
        refine Yields.pure hP ?_
        simp only [List.nil_append, List.append_nil]
        rcases hs with ⟨he, hp, h⟩ | ⟨inner, hw, h⟩
        · exact .inl ⟨he, hp, .enclose hbefore h hafter⟩
        · exact .inr ⟨inner, hw, .enclose hbefore h hafter⟩

namespace Visit

variable {visit : Visit A}

theorem work_run (visit : Visit A) (step : StepInfo) (runner : Instance) (handler : Handler A)
    (state : A.State) : (visit.work step runner handler).run state = (do
      World.record (.handled step runner (visit.context step.key state))
      let p ← (handler runner (visit.context step.key state)).run visit.send
      return (p.2, p.1)) := rfl

/-- An event without effects, written by the attempt in progress. -/
theorem record_yields (hR : Law gateways R) {event : Event A} (hp : event.isPlain = true)
    (he : event.isEngine = true) (w : World A) :
    Yields (Within C R) w (World.record event) fun es _ _ => es = [event] :=
  fun _ => ⟨_, .logged hR hp, eventsAt_entry he⟩

theorem works_yields (hR : Law gateways R) (hsend : Sends C R visit.send) (step : StepInfo)
    (runner : Instance) (handler : Handler A) (state : A.State) (w : World A) :
    Yields (Within C R) w
      ((visit.orchestrator.chain.run visit.send step (visit.work step runner handler)).run state)
      fun es p _ => visit.Works step runner handler state es p.1 p.2 := by
  have hP := Within.path (C := C) hR
  refine (Chain.yields hR hsend (fun es inner left =>
    es = [.handled step runner (visit.context step.key state)] ∧
      (handler runner (visit.context step.key state)).CanEnd (left, inner)) ?_ _ w).mono ?_
  · intro w
    rw [work_run]
    refine Yields.bind hP (record_yields hR rfl rfl w) ?_
    rintro _ _ w₁ rfl
    refine Yields.bind hP (Program.yields hR hsend _ w₁) ?_
    rintro _ p w₂ ⟨rfl, hp⟩
    exact Yields.pure hP ⟨rfl, hp⟩
  · rintro es ⟨result, left⟩ _ (⟨rfl, rfl, h⟩ | ⟨inner, ⟨rfl, hend⟩, h⟩)
    · exact .halted h
    · exact .entered hend h

/-! ## Gateways -/

/-- What the store answers to a load in a world. -/
def loadedIn (visit : Visit A) (key : Key) (w : World A) : Except StoreError (Option Record) :=
  (visit.orchestrator.gateways.load key visit.request.signal w.toResources).1

theorem load_yields (hR : Law visit.orchestrator.gateways R) (key : Key) (w : World A) :
    Yields (Within C R) w (visit.load key).run fun es r _ =>
      es = [.loaded key (visit.loadedIn key w)] ∧ r = (visit.loadedIn key w).mapError .ofStore :=
  fun _ => ⟨_, .single (history_called _ _ _) rfl rfl rfl rfl (hR.load w key _),
    eventsAt_entry rfl, rfl⟩

theorem checkInstance_eq_ok {saga : SagaType} {answer : Except Fault Instance} {runner : Instance}
    (h : checkInstance saga answer = .ok runner) : answer = .ok runner ∧ runner.type = saga.id := by
  unfold checkInstance at h
  split at h
  · simp at h
  · split at h
    · rename_i ht
      simp only [Except.ok.injEq] at h
      subst h
      exact ⟨rfl, ht⟩
    · simp at h

theorem resolve_yields (hR : Law gateways R) (hsend : Sends C R visit.send) (w : World A) :
    Yields (Within C R) w visit.resolve.run fun es r _ =>
      ∃ answer, es = [.resolved visit.saga.type answer] ∧
        r = checkInstance visit.saga.type answer := by
  have hP := Within.path (C := C) hR
  unfold resolve
  refine Yields.bindLift hP (Program.yields hR hsend _ w) ?_
  rintro _ answer w₁ ⟨rfl, -⟩
  refine Yields.bindLift hP (record_yields hR rfl rfl w₁) ?_
  rintro _ _ w₂ rfl
  exact Yields.ofExcept hP ⟨answer, rfl, rfl⟩

/-! ## Acting on a transition -/

theorem mapError_eq_ok {ε ε' : Type} {f : ε → ε'} {r : Except ε α} {a : α}
    (h : r.mapError f = .ok a) : r = .ok a := by
  cases r with
  | ok b =>
    have hok : (Except.ok b : Except ε' α) = .ok a := h
    rw [Except.ok.inj hok]
  | error e => cases h

theorem mapError_eq_error {ε ε' : Type} {f : ε → ε'} {r : Except ε α} {e' : ε'}
    (h : r.mapError f = .error e') : ∃ e, r = .error e ∧ e' = f e := by
  cases r with
  | ok b => cases h
  | error e =>
    have herror : (Except.error (f e) : Except ε' α) = .error e' := h
    exact ⟨e, rfl, (Except.error.inj herror).symm⟩

/-- The world after a save. -/
def afterSave (visit : Visit A) (record : Record) (w : World A) : World A :=
  w.called (visit.orchestrator.gateways.save record visit.request.signal) (.saved record)

/-- The world after a publish. -/
def afterPublish (visit : Visit A) (outgoing : Outgoing A.Body) (w : World A) : World A :=
  w.called (visit.orchestrator.gateways.publish outgoing visit.request.signal) (.published outgoing)

theorem save_run {record : Record} {result : Except StoreError Token}
    (h : (visit.orchestrator.gateways.save record visit.request.signal w.toResources).1 = result) :
    (visit.save record).run w = (result.mapError .ofStore, visit.afterSave record w) := by
  rw [← h]; rfl

theorem publish_run {key : Key} {outgoing : Outgoing A.Body} {result : Except Fault Unit}
    (h : (visit.orchestrator.gateways.publish outgoing visit.request.signal w.toResources).1 =
      result) :
    (visit.publish key outgoing).run w =
      (result.mapError (.publish key), visit.afterPublish outgoing w) := by
  rw [← h]; rfl

theorem save_within (hR : Law visit.orchestrator.gateways R) {record : Record}
    {result : Except StoreError Token}
    (h : (visit.orchestrator.gateways.save record visit.request.signal w.toResources).1 = result) :
    Within C R w [w.entry (.saved record result)] (visit.afterSave record w) := by
  have hsave := hR.save w record visit.request.signal
  rw [h] at hsave
  refine .single ?_ rfl rfl rfl rfl hsave
  rw [afterSave, history_called, h]

/-- A publish is no passage on its own, but it is one together with the save before it. -/
theorem keep_within (hR : Law visit.orchestrator.gateways R) {record : Record} {token : Token}
    {outgoing : Outgoing A.Body} {result : Except Fault Unit}
    (hs : (visit.orchestrator.gateways.save record visit.request.signal w.toResources).1 =
      .ok token)
    (hp : (visit.orchestrator.gateways.publish outgoing visit.request.signal
      (visit.afterSave record w).toResources).1 = result) :
    Within C R w [w.entry (.saved record (.ok token)), w.entry (.published outgoing result)]
      (visit.afterPublish outgoing (visit.afterSave record w)) := by
  have hsave := (save_within (C := C) hR hs).law
  have hpublish := hR.publish (visit.afterSave record w) outgoing visit.request.signal
  rw [hp] at hpublish
  refine ⟨?_, rfl, rfl, Nat.le_refl _, ?_, ?_, Paired.pair, hR.trans hsave hpublish⟩
  · rw [afterPublish, history_called, hp, afterSave, history_called, hs, List.append_assoc]
    rfl
  · intro e he _
    simp only [List.mem_cons, List.not_mem_nil, or_false] at he
    rcases he with rfl | rfl <;> exact .inl ⟨rfl, rfl⟩
  · intro a hlt hle
    have hn : (visit.afterPublish outgoing (visit.afterSave record w)).attempts = w.attempts := rfl
    omega

theorem eventsAt_keep {record : Record} {token : Token} {outgoing : Outgoing A.Body}
    {result : Except Fault Unit} :
    eventsAt w.depth
        [w.entry (.saved record (.ok token)), w.entry (.published outgoing result)] =
      [.saved record (.ok token), .published outgoing result] := by
  simp [eventsAt, World.entry, Event.isEngine]

theorem publishOutgoing_run_ok {key : Key} {outgoing : Outgoing A.Body}
    (h : (visit.orchestrator.gateways.publish outgoing visit.request.signal w.toResources).1 =
      .ok ()) :
    (visit.publishOutgoing key (some outgoing)).run w =
      (.ok true, visit.afterPublish outgoing w) :=
  Attempt.run_bind_ok (publish_run h)

theorem publishOutgoing_run_error {key : Key} {outgoing : Outgoing A.Body} {fault : Fault}
    (h : (visit.orchestrator.gateways.publish outgoing visit.request.signal w.toResources).1 =
      .error fault) :
    (visit.publishOutgoing key (some outgoing)).run w =
      (.error (.publish key fault), visit.afterPublish outgoing w) :=
  Attempt.run_bind_error (publish_run h)

/-- The last part of a step: a save, a publish if there is something to publish, and the
events that tell how the saga was left. -/
theorem keep_yields (hR : Law visit.orchestrator.gateways R) {step : StepInfo} {state : A.State}
    {transition : Transition A.Body} {status : Status} {json : Json} {now : Instant}
    (hstatus : Status.after transition.kind = some status)
    (hjson : visit.saga.encode state = .ok json) (w : World A) :
    Yields (Within C R) w (do
      let token ← visit.save (visit.recordOf step.key status state json now)
      let published ← visit.publishOutgoing step.key transition.outgoing?
      Attempt.lift (World.emit (endEvents step.key status transition))
      return kept step transition published token : Attempt A Settled).run
      fun es r _ => visit.Settles step state transition es r := by
  have hP := Within.path (C := C) hR
  generalize hrecord : visit.recordOf step.key status state json now = record
  -- the events at the end are no part of the passage
  have hend : ∀ {es published token w'},
      visit.Settles step state transition es (.ok (kept step transition published token)) →
      Yields (Within C R) w' (do
        Attempt.lift (World.emit (endEvents step.key status transition))
        return kept step transition published token : Attempt A Settled).run
        fun es' r _ => visit.Settles step state transition (es ++ es') r := by
    intro es published token w' h
    refine Yields.bindLift hP (emit_yields hP _ _) ?_
    rintro _ _ w'' rfl
    refine Yields.pure hP ?_
    simpa using h
  cases hsave : (visit.orchestrator.gateways.save record visit.request.signal w.toResources).1 with
  | error error =>
    -- a refused save is the last event
    refine Yields.ends (save_within hR hsave) (Attempt.run_bind_error (save_run hsave)) ?_
    rw [eventsAt_entry rfl, ← hrecord]
    exact .refused hstatus hjson
  | ok token =>
    cases hout : transition.outgoing? with
    | none =>
      refine Yields.step hP (save_within hR hsave) (Attempt.run_bind_ok (save_run hsave)) ?_
      rw [eventsAt_entry rfl, ← hrecord]
      exact hend (.silent hstatus hjson hout)
    | some outgoing =>
      -- save and publish make one passage
      cases hpub : (visit.orchestrator.gateways.publish outgoing visit.request.signal
          (visit.afterSave record w).toResources).1 with
      | error fault =>
        refine Yields.ends (keep_within hR hsave hpub)
          ((Attempt.run_bind_ok (save_run hsave)).trans
            (Attempt.run_bind_error (publishOutgoing_run_error hpub))) ?_
        rw [eventsAt_keep, ← hrecord]
        exact .unpublished hstatus hjson hout
      | ok _ =>
        refine Yields.step hP (keep_within hR hsave hpub)
          ((Attempt.run_bind_ok (save_run hsave)).trans
            (Attempt.run_bind_ok (publishOutgoing_run_ok hpub))) ?_
        rw [eventsAt_keep, ← hrecord]
        exact hend (.published hstatus hjson hout)

theorem settle_yields (hR : Law visit.orchestrator.gateways R) (step : StepInfo) (state : A.State)
    (transition : Transition A.Body) (w : World A) :
    Yields (Within C R) w (visit.settle step state transition).run
      fun es r _ => visit.Settles step state transition es r := by
  have hP := Within.path (C := C) hR
  unfold settle
  refine Yields.bindLift hP (count_yields hP _ w) ?_
  rintro _ _ w₁ rfl
  simp only [List.nil_append]
  cases hstatus : Status.after transition.kind with
  | none =>
    simp only [redeliver]
    refine Yields.bindLift hP (emit_yields hP _ w₁) ?_
    rintro _ _ w₂ rfl
    exact Yields.pure hP (.redelivered hstatus)
  | some status =>
    simp only [commit]
    refine Yields.bindCheck hP (fun _ => ?_) (fun _ => .cancelled hstatus)
    refine Yields.bindExcept hP ?_ ?_
    · intro json hjson
      exact Yields.congr rfl (keep_yields hR hstatus (mapError_eq_ok hjson) w₁)
    · intro e he
      obtain ⟨reason, hreason, rfl⟩ := mapError_eq_error he
      exact .unwritable hstatus hreason

/-- **Running a handler**: every exit of `execute` is one of `Executes`. -/
theorem execute_yields (hR : Law visit.orchestrator.gateways R) (hsend : Sends C R visit.send)
    (stage : Stage) (handler : Handler A) (runner : Instance) (key : Key) (state : A.State)
    (w : World A) :
    Yields (Within C R) w (visit.execute stage handler runner key state).run
      fun es r _ => visit.Executes stage handler runner key state es r := by
  have hP := Within.path (C := C) hR
  unfold execute
  refine Yields.bindCheck hP (fun _ => ?_) (fun _ => .cancelled)
  refine Yields.bindLift hP (works_yields hR hsend _ runner handler state w) ?_
  rintro entered ⟨result, left⟩ w₁ hworks
  refine Yields.bindLift hP (record_yields hR rfl rfl w₁) ?_
  rintro _ _ w₂ rfl
  refine Yields.bindExcept hP ?_ ?_
  · intro transition hr
    obtain rfl := mapError_eq_ok hr
    refine (settle_yields hR _ left _ w₂).mono ?_
    intro es r _ hs
    exact .settled hworks hs
  · intro e he
    obtain ⟨fault, rfl, rfl⟩ := mapError_eq_error he
    exact .raised hworks

/-! ## Attempts -/

/-- The world in which a new attempt is in progress. -/
def begun (w : World A) : World A :=
  { w with attempts := w.attempts + 1, attempt := w.attempts + 1 }

/-- The attempt's own events are those at its depth. -/
theorem eventsOf_begun {w' : World A} {es : List (Entry A)} (h : Within C R (begun w) es w') :
    eventsOf (w.attempts + 1) es = eventsAt w.depth es := by
  apply eventsOf_eq_eventsAt
  intro e he hc
  have hplace : (e.depth = w.depth ∧ e.attempt = w.attempts + 1) ∨
      (w.depth < e.depth ∧ w.attempts + 1 < e.attempt ∧ e.attempt ≤ w'.attempts) := h.place e he hc
  omega

/-- **One attempt is a passage of its own**: what is done inside it is its course. -/
theorem across_of_within (hR : Law gateways R) {w' : World A} {es : List (Entry A)}
    (h : Within C R (begun w) es w') (hC : C (eventsAt w.depth es)) : Across C R w es w' := by
  have hn : w.attempts + 1 ≤ w'.attempts := h.attempts
  have ha : w'.attempt = w.attempts + 1 := h.attempt
  have hplace : ∀ e ∈ es, e.event.isEngine = true →
      (e.depth = w.depth ∧ e.attempt = w.attempts + 1) ∨
        (w.depth < e.depth ∧ w.attempts + 1 < e.attempt ∧ e.attempt ≤ w'.attempts) := h.place
  refine ⟨h.history, h.depth, fun _ => by omega, by omega, ?_, ?_, h.paired, ?_⟩
  · intro e he hc
    have := hplace e he hc
    omega
  · intro a hl hu
    rcases Nat.lt_or_ge (w.attempts + 1) a with hlt | hge
    · exact h.courses a hlt hu
    · obtain rfl : a = w.attempts + 1 := by omega
      rw [eventsOf_begun h]
      exact hC
  · have hstill : R w [] (begun w) := hR.still rfl rfl rfl
    exact hR.trans hstill h.law

/-- An attempt begins its passage itself, so nothing is asked of the world before it. -/
theorem begin_within {f : Unit → Attempt A α}
    {T : List (Event A) → Except SagaError α → World A → Prop}
    (hf : Yields (Within C R) (begun w) (f ()).run T) :
    ∃ es, Within C R (begun w) es ((Attempt.lift World.beginAttempt >>= f).run w).2 ∧
      T (eventsAt w.depth es) ((Attempt.lift World.beginAttempt >>= f).run w).1
        ((Attempt.lift World.beginAttempt >>= f).run w).2 :=
  hf (Nat.le_refl _)

/-- **Making a new instance**: every exit of `create` is one of `Creates`. The resolver is asked
first, unless the signal is cancelled by then. -/
theorem create_within (hR : Law visit.orchestrator.gateways R) (hsend : Sends C R visit.send)
    (handler : Handler A) (w : World A) :
    ∃ es, Within C R (begun w) es ((visit.create handler).run w).2 ∧
      visit.Creates handler (eventsAt w.depth es) ((visit.create handler).run w).1 ∧
      (w.signals.isCancelled visit.request.signal = false →
        ∃ answer rest, eventsAt w.depth es = .resolved visit.saga.type answer :: rest) := by
  have hP := Within.path (C := C) hR
  unfold create
  refine begin_within (T := fun es r _ => visit.Creates handler es r ∧
    (w.signals.isCancelled visit.request.signal = false →
      ∃ answer rest, es = .resolved visit.saga.type answer :: rest)) ?_
  refine Yields.bindCheck hP (fun _ => ?_) fun hsignal =>
    ⟨.cancelled, fun h => absurd (h.symm.trans hsignal) Bool.false_ne_true⟩
  refine Yields.bindAttempt hP (resolve_yields hR hsend _) ?_ ?_
  · rintro _ runner w₁ ⟨answer, rfl, hanswer⟩
    obtain ⟨rfl, htype⟩ := checkInstance_eq_ok hanswer.symm
    -- what is resolved first stays the first event
    refine Yields.mono (S := fun es r _ => visit.Creates handler
      (.resolved visit.saga.type (.ok runner) :: es) r) ?_ fun _ _ _ hs => ⟨hs, fun _ => ⟨_, _, rfl⟩⟩
    refine Yields.bindLift hP (record_yields hR rfl rfl w₁) ?_
    rintro _ _ w₂ rfl
    refine Yields.bindLift hP (Program.yields hR hsend _ w₂) ?_
    rintro _ ⟨left, result⟩ w₃ ⟨rfl, hhook⟩
    refine Yields.bindExcept hP ?_ ?_
    · intro _ hr
      obtain rfl := mapError_eq_ok hr
      refine Yields.bindExcept hP ?_ ?_
      · intro _ hid
        refine Yields.bindLift hP (emit_yields hP _ w₃) ?_
        rintro _ _ w₄ rfl
        refine (execute_yields hR hsend .start handler runner _ left w₄).mono ?_
        intro es r _ hs
        refine .executed htype hhook ?_ hs
        intro hempty
        simp [hempty] at hid
      · -- the hook has left an instance without an id
        intro e hid
        cases hempty : visit.saga.idOf left == "" with
        | false => simp [hempty] at hid
        | true =>
          simp only [hempty, if_true, Except.error.injEq] at hid
          subst hid
          exact .nameless htype hhook (by simpa using hempty)
    · intro e hr
      obtain ⟨fault, rfl, rfl⟩ := mapError_eq_error hr
      exact .raised htype hhook
  · rintro _ e w₁ ⟨answer, rfl, hanswer⟩
    exact ⟨.unresolved hanswer.symm, fun _ => ⟨_, _, rfl⟩⟩

theorem create_yields (hR : Law visit.orchestrator.gateways R) (hsend : Sends C R visit.send)
    (handler : Handler A) (hC : ∀ es r, visit.Creates handler es r → C es) (w : World A) :
    Yields (Across C R) w (visit.create handler).run
      fun es r _ => visit.Creates handler es r := by
  intro _
  obtain ⟨es, hwithin, hcreates, -⟩ := create_within hR hsend handler w
  exact ⟨es, across_of_within hR hwithin (hC _ _ hcreates), hcreates⟩

theorem found_eq_ok {key : Key} {loaded : Option Record} {record : Record}
    (h : found key loaded = .ok record) : loaded = some record := by
  cases loaded with
  | none => simp [found] at h
  | some r => simpa [found] using h

/-- What an attempt does first: it asks the store for the record, unless its signal is cancelled
by then. -/
def LoadsFirst (visit : Visit A) (key : Key) (w : World A) (events : List (Event A)) : Prop :=
  if w.signals.isCancelled visit.request.signal then events = []
  else ∃ rest, events = .loaded key (visit.loadedIn key w) :: rest

theorem LoadsFirst.cancelled {key : Key}
    (h : w.signals.isCancelled visit.request.signal = true) : visit.LoadsFirst key w [] := by
  unfold LoadsFirst
  rw [if_pos h]

theorem LoadsFirst.loaded {key : Key} {rest : List (Event A)}
    (h : w.signals.isCancelled visit.request.signal = false) :
    visit.LoadsFirst key w (.loaded key (visit.loadedIn key w) :: rest) := by
  unfold LoadsFirst
  rw [h]
  exact ⟨rest, rfl⟩

/-- What an attempt has loaded is what the store answered. -/
theorem LoadsFirst.loadedIn_eq {key : Key} {answer : Except StoreError (Option Record)}
    {rest : List (Event A)} (h : visit.LoadsFirst key w (.loaded key answer :: rest)) :
    visit.loadedIn key w = answer := by
  unfold LoadsFirst at h
  split at h
  · cases h
  · obtain ⟨rest', hrest⟩ := h
    exact (Event.loaded.inj (List.cons.inj hrest).1).2.symm

/-- **One attempt at a step**: every exit of `advanceOnce` is one of `Advances`. -/
theorem advanceOnce_within (hR : Law visit.orchestrator.gateways R) (hsend : Sends C R visit.send)
    (stage : Stage) (handler : Handler A) (key : Key) (w : World A) :
    ∃ es, Within C R (begun w) es ((visit.advanceOnce stage handler key).run w).2 ∧
      visit.Advances stage handler key (eventsAt w.depth es)
        ((visit.advanceOnce stage handler key).run w).1 ∧
      visit.LoadsFirst key w (eventsAt w.depth es) := by
  have hP := Within.path (C := C) hR
  unfold advanceOnce
  refine begin_within
    (T := fun es r _ => visit.Advances stage handler key es r ∧ visit.LoadsFirst key w es) ?_
  refine Yields.bindCheck hP (fun hsignal => ?_) fun hsignal => ⟨.cancelled, .cancelled hsignal⟩
  refine Yields.bindAttempt hP (load_yields hR key _) ?_ ?_
  · rintro _ loaded w₁ ⟨rfl, hresult⟩
    -- what is loaded first stays the first event
    refine Yields.mono (S := fun es r _ => visit.Advances stage handler key
      (.loaded key (visit.loadedIn key w) :: es) r) ?_ fun _ _ _ hs => ⟨hs, .loaded hsignal⟩
    have hloaded : visit.loadedIn key w = .ok loaded := mapError_eq_ok hresult.symm
    rw [hloaded]
    refine Yields.bindExcept hP ?_ ?_
    · intro record hfound
      obtain rfl := found_eq_ok hfound
      refine Yields.bindExcept hP ?_ ?_
      · intro _ hactive
        replace hactive : record.status.isTerminal = false := by
          cases ht : record.status.isTerminal with
          | false => rfl
          | true => simp [ht] at hactive
        refine Yields.bindExcept hP ?_ ?_
        · intro state hstate
          refine Yields.bindCheck hP (fun _ => ?_) (fun _ => .abandoned hactive hstate)
          refine Yields.bindAttempt hP (resolve_yields hR hsend _) ?_ ?_
          · rintro _ runner w₂ ⟨answer, rfl, hanswer⟩
            obtain ⟨rfl, htype⟩ := checkInstance_eq_ok hanswer.symm
            refine (execute_yields hR hsend stage handler runner key state w₂).mono ?_
            intro es r _ hs
            exact .executed hactive hstate htype hs
          · rintro _ e w₂ ⟨answer, rfl, hanswer⟩
            exact .unresolved hactive hstate hanswer.symm
        · intro e hstate
          exact .unreadable hactive hstate
      · -- the record is there, but its saga has ended
        intro e hterminal
        cases ht : record.status.isTerminal with
        | false => simp [ht] at hterminal
        | true =>
          simp only [ht, if_true, Except.error.injEq] at hterminal
          subst hterminal
          exact .terminated ht
    · -- nothing is stored under the key
      intro e hfound
      cases loaded with
      | some record => simp [found] at hfound
      | none =>
        simp only [found, Except.error.injEq] at hfound
        subst hfound
        exact .missing
  · rintro _ e w₁ ⟨rfl, hresult⟩
    obtain ⟨error, hloaded, rfl⟩ := mapError_eq_error hresult.symm
    refine ⟨?_, .loaded hsignal⟩
    rw [hloaded]
    exact .unloaded

theorem advanceOnce_across (hR : Law visit.orchestrator.gateways R) (hsend : Sends C R visit.send)
    (stage : Stage) (handler : Handler A) (key : Key)
    (hC : ∀ es r, visit.Advances stage handler key es r → C es) (w : World A) :
    ∃ es, Across C R w es ((visit.advanceOnce stage handler key).run w).2 ∧
      visit.Advances stage handler key (eventsAt w.depth es)
        ((visit.advanceOnce stage handler key).run w).1 := by
  obtain ⟨es, hwithin, hadvances, -⟩ := advanceOnce_within hR hsend stage handler key w
  exact ⟨es, across_of_within hR hwithin (hC _ _ hadvances), hadvances⟩

theorem advanceOnce_yields (hR : Law visit.orchestrator.gateways R) (hsend : Sends C R visit.send)
    (stage : Stage) (handler : Handler A) (key : Key)
    (hC : ∀ es r, visit.Advances stage handler key es r → C es) (w : World A) :
    Yields (Across C R) w (visit.advanceOnce stage handler key).run
      fun es r _ => visit.Advances stage handler key es r :=
  fun _ => advanceOnce_across hR hsend stage handler key hC w

theorem attempts_yields (hR : Law visit.orchestrator.gateways R) (hsend : Sends C R visit.send)
    (stage : Stage) (handler : Handler A) (key : Key)
    (hC : ∀ es r, visit.Advances stage handler key es r → C es) (reruns : Nat) :
    ∀ made w, Yields (Across C R) w (visit.attempts stage handler key reruns made).run
      fun es r _ => visit.Reruns stage handler key reruns es r := by
  have hP := Across.path (C := C) hR
  induction reruns with
  | zero =>
    intro made w
    unfold attempts
    refine Yields.bind hP (advanceOnce_yields hR hsend stage handler key hC w) ?_
    intro es r w₁ hs
    -- no reruns are left: whatever the attempt ends in is the result
    have hlast : visit.Reruns stage handler key 0 (es ++ []) r := by
      rw [List.append_nil]
      exact .last hs fun _ _ => rfl
    split
    · refine Yields.bind hP (count_yields hP _ w₁) ?_
      rintro _ _ w₂ rfl
      exact Yields.pure hP hlast
    · exact Yields.pure hP hlast
  | succ reruns ih =>
    intro made w
    unfold attempts
    refine Yields.bind hP (advanceOnce_yields hR hsend stage handler key hC w) ?_
    intro es r w₁ hs
    split
    · -- a conflict
      refine Yields.bind hP (count_yields hP _ w₁) ?_
      rintro _ _ w₂ rfl
      refine Yields.bind hP (emit_yields hP _ w₂) ?_
      rintro _ _ w₃ rfl
      refine (ih (made + 1) w₃).mono ?_
      intro others result _ hothers
      exact .again hs hothers
    · rename_i hr
      refine Yields.pure hP ?_
      rw [List.append_nil]
      exact .last hs fun stale hstale => absurd hstale (hr stale)

/-! ## The step of one saga -/

theorem dispatch_yields (hR : Law visit.orchestrator.gateways R)
    (hsend : Sends visit.orchestrator.Course R visit.send)
    (hreg : visit.registration ∈ visit.orchestrator.directory.registrations) (w : World A) :
    Yields (Across visit.orchestrator.Course R) w visit.dispatch.run
      fun es r _ => visit.Dispatches es r := by
  have hP := Across.path (C := visit.orchestrator.Course) hR
  unfold dispatch
  split
  · -- the saga does not handle the message
    rename_i hnone
    refine Yields.bindLift hP (emit_yields hP _ w) ?_
    rintro _ _ w₁ rfl
    exact Yields.pure hP (.skipped hnone)
  · rename_i handler hstart
    refine Yields.bindAttempt hP (create_yields hR hsend handler ?_ w) ?_ ?_
    · intro es r hs
      exact .create rfl hreg hstart hs
    · intro es settled w₁ hs
      refine Yields.pure hP ?_
      rw [List.append_nil]
      exact .created hstart hs
    · intro es e w₁ hs
      exact .created hstart hs
  · rename_i stage handler hne hstage
    have hstart : stage ≠ .start := hne
    unfold advance
    rw [bind_assoc]
    refine Yields.bindExcept hP ?_ ?_
    · intro sagaId hid
      refine Yields.bindAttempt hP (attempts_yields hR hsend stage handler _ ?_ _ 0 w) ?_ ?_
      · intro es r hs
        exact .advance rfl hreg hstart hstage hid hs
      · intro es settled w₁ hs
        refine Yields.pure hP ?_
        rw [List.append_nil]
        exact .advanced hstart hstage hid hs
      · intro es e w₁ hs
        exact .advanced hstart hstage hid hs
    · intro e hid
      exact .uncorrelated hstart hstage hid

end Visit

/-! ## Deliveries -/

namespace Orchestrator

variable {orchestrator : Orchestrator A} {send : Request A.Body → Run A Answer}

/-- Only what is registered is selected. -/
theorem mem_of_selected {request : Request A.Body} {registrations : List (Registration A)}
    (h : orchestrator.selected request = .ok registrations) :
    ∀ registration ∈ registrations, registration ∈ orchestrator.directory.registrations := by
  intro registration hmem
  unfold selected at h
  split at h
  · obtain rfl := Except.ok.inj h
    obtain ⟨position, -, hat⟩ := List.mem_filterMap.1 hmem
    exact List.mem_of_getElem? hat
  · split at h
    · rename_i found hfound
      obtain rfl := Except.ok.inj h
      obtain rfl := List.mem_singleton.1 hmem
      obtain ⟨position, -, hat⟩ := Option.bind_eq_some_iff.1 hfound
      exact List.mem_of_getElem? hat
    · cases h

/-- Only a saga type that is asked for and not registered cannot be selected. -/
theorem exists_target_of_selected {error : SagaError}
    (h : orchestrator.selected request = .error error) :
    ∃ saga, request.target = some saga ∧ error = .notRegistered saga.name := by
  unfold selected at h
  split at h
  · cases h
  · rename_i saga htarget
    split at h
    · cases h
    · exact ⟨saga, htarget, (Except.error.inj h).symm⟩

theorem selected_eq_error {error : SagaError} (h : orchestrator.selected request = .error error) :
    ∃ name, error = .notRegistered name := by
  obtain ⟨saga, -, herror⟩ := exists_target_of_selected h
  exact ⟨saga.name, herror⟩

theorem dispatchAll_yields (hR : Law orchestrator.gateways R)
    (hsend : Sends orchestrator.Course R send) (request : Request A.Body)
    (registrations : List (Registration A))
    (hreg : ∀ registration ∈ registrations, registration ∈ orchestrator.directory.registrations) :
    ∀ w, Yields (Across orchestrator.Course R) w
      (orchestrator.dispatchAll send request registrations).run
      fun es r _ => orchestrator.DispatchesAll send request registrations es r := by
  have hP := Across.path (C := orchestrator.Course) hR
  induction registrations with
  | nil => exact fun w => Yields.pure hP .nil
  | cons registration rest ih =>
    intro w
    unfold dispatchAll
    let visit : Visit A := { orchestrator, send, registration, request }
    have hhead : visit.registration ∈ orchestrator.directory.registrations :=
      hreg registration List.mem_cons_self
    have hfirst : Yields (Across orchestrator.Course R) w visit.dispatch.run
        fun es r _ => visit.Dispatches es r := Visit.dispatch_yields hR hsend hhead w
    refine Yields.bindAttempt hP hfirst ?_ ?_
    · intro es settled w₁ hs
      have hrest := ih (fun r hr => hreg r (List.mem_cons_of_mem _ hr)) w₁
      refine Yields.bindAttempt hP hrest ?_ ?_
      · intro others more w₂ hothers
        refine Yields.pure hP ?_
        rw [List.append_nil]
        exact .cons hs hothers
      · intro others e w₂ hothers
        exact .cons hs hothers
    · intro es e w₁ hs
      exact .stopped hs

/-- **A delivery**: it is made of whole attempts, and every exit of it is one of `Delivers`. -/
theorem handleWith_yields (hR : Law orchestrator.gateways R)
    (hsend : Sends orchestrator.Course R send) (request : Request A.Body) (w : World A) :
    ∃ es, Across orchestrator.Course R w es (orchestrator.handleWith send request w).2 ∧
      orchestrator.Delivers send request (eventsAt w.depth es)
        (orchestrator.handleWith send request w).1 := by
  have hP := Across.path (C := orchestrator.Course) hR
  -- no attempt is in progress once the delivery has begun
  let fresh : World A := { w with attempt := 0 }
  have hfresh : Across orchestrator.Course R w [] fresh :=
    .still hR rfl rfl (fun _ => Nat.zero_le _) rfl rfl rfl rfl
  have hrest : Yields (Across orchestrator.Course R) fresh (do
      Attempt.lift (World.count [.messagesHandled])
      let registrations ← Attempt.ofExcept (orchestrator.selected request)
      let settled ← orchestrator.dispatchAll send request registrations
      conclude request.message.type settled : Attempt A Report).run
      fun es r _ => orchestrator.Delivers send request es r := by
    refine Yields.bindLift hP (count_yields hP _ fresh) ?_
    rintro _ _ w₁ rfl
    refine Yields.bindExcept hP ?_ ?_
    · intro registrations hsel
      have hreg := mem_of_selected hsel
      refine Yields.bindAttempt hP (dispatchAll_yields hR hsend request _ hreg w₁) ?_ ?_
      · intro es settled w₂ hs
        refine Yields.bindLift hP (emit_yields hP _ w₂) ?_
        rintro _ _ w₃ rfl
        refine Yields.ends (hP.still rfl rfl rfl rfl rfl rfl rfl) rfl ?_
        simpa using Delivers.concluded hsel hs
      · intro es e w₂ hs
        exact .stopped hsel hs
    · intro e hsel
      exact .unregistered hsel
  obtain ⟨es, hes, hs⟩ := hrest (Nat.zero_le _)
  exact ⟨es, hfresh.trans hR.trans hes, hs⟩

theorem cutShort_sends (hR : Law gateways R) : Sends C R (cutShort (A := A)) :=
  fun _ _ => ⟨[], .still hR rfl rfl (fun h => h) rfl rfl rfl rfl⟩

/-- What answers the messages that the programs of a delivery send. -/
def below (orchestrator : Orchestrator A) : (nesting : Nat) → Request A.Body → Run A Answer
  | 0 => cutShort
  | nesting + 1 => orchestrator.deliver nesting

theorem deliver_eq (nesting : Nat) :
    orchestrator.deliver nesting = orchestrator.handleWith (orchestrator.below nesting) := by
  cases nesting <;> rfl

/-- By induction on the nesting: messages sent from below are deliveries of their own. -/
theorem below_sends (hR : Law orchestrator.gateways R) (nesting : Nat) :
    Sends orchestrator.Course R (orchestrator.below nesting) := by
  induction nesting with
  | zero => exact cutShort_sends hR
  | succ nesting ih =>
    intro request w
    obtain ⟨es, hes, -⟩ := handleWith_yields hR ih request w
    rw [← deliver_eq] at hes
    exact ⟨es, hes⟩

/-- **A delivery, whatever its programs send, to any depth.** -/
theorem deliver_yields (hR : Law orchestrator.gateways R) (nesting : Nat)
    (request : Request A.Body) (w : World A) :
    ∃ es, Across orchestrator.Course R w es (orchestrator.deliver nesting request w).2 ∧
      orchestrator.Delivers (orchestrator.below nesting) request (eventsAt w.depth es)
        (orchestrator.deliver nesting request w).1 := by
  rw [deliver_eq]
  exact handleWith_yields hR (below_sends hR nesting) request w

end Orchestrator

end Sagas
