import Sagas.Proofs.Walk

/-!
# Runs that mirror each other

Counters and log are written and never read, so two runs that differ in them only do the same. They
may also differ in what gateways do when they are asked under a cancelled signal, since they never
are: a load or a save comes right after a look at the signal.

* `World.Alike`, `Agree`: worlds that differ in counters and log, and computations that do the same
  in such worlds. `Agree.bind` and `Agree.bindAttempt` follow two computations step by step.
* `Visit.Mirrors`: what two visits may differ in.
* `Visit.Mirrors.dispatch`, `Orchestrator.Mirrors.deliver`: their steps and deliveries agree.
-/

namespace Sagas

variable {A : Application} {α β : Type} {P : List Metric → List Metric → Prop}

/-- A world that differs in counters and log only; how the counters differ is told by `P`. -/
def World.Alike (P : List Metric → List Metric → Prop) (w w' : World A) : Prop :=
  ∃ metrics trace, w' = { w with metrics, trace } ∧ P w.metrics metrics

/-- Two computations do the same in two worlds. -/
def AgreeAt (P : List Metric → List Metric → Prop) (w w' : World A) (run run' : Run A α) : Prop :=
  (run' w').1 = (run w).1 ∧ World.Alike P (run w).2 (run' w').2

/-- Two computations do the same in worlds that differ in counters and log only. -/
def Agree (P : List Metric → List Metric → Prop) (run run' : Run A α) : Prop :=
  ∀ w w', World.Alike P w w' → AgreeAt P w w' run run'

/-- A relation between counters that stays when both count the same. -/
def Counts (P : List Metric → List Metric → Prop) : Prop :=
  ∀ metrics metrics' new, P metrics metrics' → P (new ++ metrics) (new ++ metrics')

/-! ## Computations step by step -/

/-- A look at the signal, and what follows it. -/
theorem checkSignal_run (signal : Signal) (f : Unit → Attempt A β) (w : World A) :
    (checkSignal signal >>= f).run w =
      if w.signals.isCancelled signal then (.error .cancelled, w) else (f ()).run w := by
  cases hcancelled : w.signals.isCancelled signal with
  | true =>
    refine Attempt.run_bind_error ?_
    change (if w.signals.isCancelled signal then _ else _, w) = _
    rw [hcancelled]
    rfl
  | false =>
    refine Attempt.run_bind_ok (a := ()) ?_
    change (if w.signals.isCancelled signal then _ else _, w) = _
    rw [hcancelled]
    rfl

section

variable {w w' : World A}

theorem AgreeAt.bind {x x' : Run A α} {f f' : α → Run A β} (hx : AgreeAt P w w' x x')
    (hf : ∀ a, Agree P (f a) (f' a)) : AgreeAt P w w' (x >>= f) (x' >>= f') := by
  obtain ⟨hresult, halike⟩ := hx
  unfold AgreeAt
  rw [Run.bind_apply, Run.bind_apply, hresult]
  exact hf _ _ _ halike

theorem AgreeAt.bindLift {x x' : Run A α} {f f' : α → Attempt A β} (hx : AgreeAt P w w' x x')
    (hf : ∀ a, Agree P (f a).run (f' a).run) :
    AgreeAt P w w' (Attempt.lift x >>= f).run (Attempt.lift x' >>= f').run :=
  hx.bind hf

theorem AgreeAt.bindAttempt {x x' : Attempt A α} {f f' : α → Attempt A β}
    (hx : AgreeAt P w w' x.run x'.run) (hf : ∀ a, Agree P (f a).run (f' a).run) :
    AgreeAt P w w' (x >>= f).run (x' >>= f').run := by
  rw [ExceptT.run_bind, ExceptT.run_bind]
  refine hx.bind fun result => ?_
  cases result with
  | ok a => exact hf a
  | error error => exact fun _ _ h => ⟨rfl, h⟩

theorem AgreeAt.bindGet {f f' : World A → Attempt A β} (hf : AgreeAt P w w' (f w).run (f' w').run) :
    AgreeAt P w w' (Attempt.lift get >>= f).run (Attempt.lift get >>= f').run :=
  hf

theorem AgreeAt.bindExcept {result : Except SagaError α} {f f' : α → Attempt A β}
    (h : World.Alike P w w') (hf : ∀ a, AgreeAt P w w' (f a).run (f' a).run) :
    AgreeAt P w w' (Attempt.ofExcept result >>= f).run (Attempt.ofExcept result >>= f').run := by
  cases result with
  | ok a => exact hf a
  | error error => exact ⟨rfl, h⟩

end

namespace Agree

theorem pure (a : α) : Agree P (Pure.pure a : Run A α) (Pure.pure a) := fun _ _ h => ⟨rfl, h⟩

theorem bind {x x' : Run A α} {f f' : α → Run A β} (hx : Agree P x x')
    (hf : ∀ a, Agree P (f a) (f' a)) : Agree P (x >>= f) (x' >>= f') :=
  fun w w' h => (hx w w' h).bind hf

theorem bindAttempt {x x' : Attempt A α} {f f' : α → Attempt A β} (hx : Agree P x.run x'.run)
    (hf : ∀ a, Agree P (f a).run (f' a).run) : Agree P (x >>= f).run (x' >>= f').run :=
  fun w w' h => (hx w w' h).bindAttempt hf

theorem bindLift {x x' : Run A α} {f f' : α → Attempt A β} (hx : Agree P x x')
    (hf : ∀ a, Agree P (f a).run (f' a).run) :
    Agree P (Attempt.lift x >>= f).run (Attempt.lift x' >>= f').run :=
  hx.bind hf

theorem bindExcept {result : Except SagaError α} {f f' : α → Attempt A β}
    (hf : ∀ a, Agree P (f a).run (f' a).run) :
    Agree P (Attempt.ofExcept result >>= f).run (Attempt.ofExcept result >>= f').run :=
  fun w w' h => .bindExcept h fun a => hf a w w' h

/-- After a look at the signal it is known not to be cancelled. -/
theorem bindCheck {signal : Signal} {f f' : Unit → Attempt A β}
    (hf : ∀ w w', World.Alike P w w' → w.signals.isCancelled signal = false →
      AgreeAt P w w' (f ()).run (f' ()).run) :
    Agree P (checkSignal signal >>= f).run (checkSignal signal >>= f').run := by
  rintro w _ ⟨metrics, trace, rfl, h⟩
  unfold AgreeAt
  rw [checkSignal_run, checkSignal_run]
  cases hcancelled : w.signals.isCancelled signal with
  | true => exact ⟨rfl, metrics, trace, rfl, h⟩
  | false => exact hf w _ ⟨metrics, trace, rfl, h⟩ hcancelled

/-! ### Single effects -/

theorem record (event : Event A) : Agree P (World.record event) (World.record event) := by
  rintro w _ ⟨metrics, trace, rfl, h⟩
  exact ⟨rfl, metrics, trace, rfl, h⟩

theorem emit (events : List TraceEvent) :
    Agree (A := A) P (World.emit events) (World.emit events) := by
  rintro w _ ⟨metrics, trace, rfl, h⟩
  exact ⟨rfl, metrics, events.reverse ++ trace, rfl, h⟩

theorem count (hP : Counts P) (metrics : List Metric) :
    Agree (A := A) P (World.count metrics) (World.count metrics) := by
  rintro w _ ⟨others, trace, rfl, h⟩
  exact ⟨rfl, metrics.reverse ++ others, trace, rfl, hP _ _ _ h⟩

theorem beginAttempt : Agree (A := A) P World.beginAttempt World.beginAttempt := by
  rintro w _ ⟨metrics, trace, rfl, h⟩
  exact ⟨rfl, metrics, trace, rfl, h⟩

theorem beginDelivery : Agree (A := A) P World.beginDelivery World.beginDelivery := by
  rintro w _ ⟨metrics, trace, rfl, h⟩
  exact ⟨rfl, metrics, trace, rfl, h⟩

theorem nested {delivery delivery' : Run A α} (h : Agree P delivery delivery') :
    Agree P (World.nested delivery) (World.nested delivery') := by
  rintro w _ ⟨metrics, trace, rfl, hP⟩
  obtain ⟨hresult, metrics', trace', halike, hP'⟩ :=
    h { w with depth := w.depth + 1 } _ ⟨metrics, trace, rfl, hP⟩
  have hback := congrArg
    (fun after : World A => { after with depth := w.depth, attempt := w.attempt }) halike
  exact ⟨hresult, metrics', trace', hback, hP'⟩

end Agree

/-- Two calls that do the same with the resources of a world. -/
theorem AgreeAt.onResources {call call' : StateM (Resources A) α} {w w' : World A}
    (hcall : call' w.toResources = call w.toResources) (h : World.Alike P w w') :
    AgreeAt P w w' (World.onResources call) (World.onResources call') := by
  obtain ⟨metrics, trace, rfl, hP⟩ := h
  have hresult : (call' w.toResources).1 = (call w.toResources).1 := by rw [hcall]
  have hresources := congrArg
    (fun out => ({ w with toResources := out.2, metrics, trace } : World A)) hcall
  exact ⟨hresult, metrics, trace, hresources, hP⟩

/-! ## Programs and chains -/

variable {send send' : Request A.Body → Run A Answer}

/-- **A program does the same** if what answers its messages does. -/
theorem Program.agree (hsend : ∀ request, Agree P (send request) (send' request))
    (program : Program A α) : Agree P (program.run send) (program.run send') := by
  induction program with
  | done value => exact .pure value
  | update change next ih =>
    rintro w _ ⟨metrics, trace, rfl, h⟩
    exact ih (change w.env) _ _ ⟨metrics, trace, rfl, h⟩
  | note entry next ih =>
    rintro w _ ⟨metrics, trace, rfl, h⟩
    exact ih _ _ ⟨metrics, trace, rfl, h⟩
  | newSignal next ih =>
    rintro w _ ⟨metrics, trace, rfl, h⟩
    exact ih w.signals.fresh _ _ ⟨metrics, trace, rfl, h⟩
  | cancel signal next ih =>
    rintro w _ ⟨metrics, trace, rfl, h⟩
    exact ih _ _ ⟨metrics, trace, rfl, h⟩
  | isCancelled signal next ih =>
    rintro w _ ⟨metrics, trace, rfl, h⟩
    exact ih (w.signals.isCancelled signal) _ _ ⟨metrics, trace, rfl, h⟩
  | newInstance next ih =>
    rintro w _ ⟨metrics, trace, rfl, h⟩
    exact ih w.instances _ _ ⟨metrics, trace, rfl, h⟩
  | send request next ih => exact (hsend request).nested.bind ih

/-- Two works on the state of a saga do the same. -/
def WorksAlike (P : List Metric → List Metric → Prop) (work work' : Work A) : Prop :=
  ∀ state, Agree P (work.run state) (work'.run state)

theorem Wrapper.agree (hP : Counts P) (hsend : ∀ request, Agree P (send request) (send' request))
    (step : StepInfo) {work work' : Work A} (hwork : WorksAlike P work work')
    (wrapper : Wrapper A) :
    WorksAlike P (wrapper.wrap send step work) (wrapper.wrap send' step work') := by
  intro state
  cases wrapper with
  | tracing =>
    rw [Wrapper.tracing_run, Wrapper.tracing_run]
    exact (Agree.emit _).bind fun _ => (hwork state).bind fun _ =>
      (Agree.emit _).bind fun _ => .pure _
  | metrics =>
    rw [Wrapper.metrics_run, Wrapper.metrics_run]
    exact (Agree.count hP _).bind fun _ => (hwork state).bind fun _ =>
      (Agree.count hP _).bind fun _ => .pure _
  | custom before =>
    rw [Wrapper.custom_run, Wrapper.custom_run]
    refine ((before step).agree hsend).bind fun around => ?_
    cases around with
    | halt result => exact .pure _
    | enclose after =>
      exact (hwork state).bind fun p => ((after p.1).agree hsend).bind fun _ => .pure _

/-- **A chain does the same** around works that do the same. -/
theorem Chain.agree (hP : Counts P) (hsend : ∀ request, Agree P (send request) (send' request))
    (step : StepInfo) {work work' : Work A} (hwork : WorksAlike P work work') (chain : Chain A) :
    WorksAlike P (chain.run send step work) (chain.run send' step work') := by
  induction chain with
  | nil => exact hwork
  | cons wrapper rest ih => exact wrapper.agree hP hsend step ih

/-! ## Steps -/

namespace Visit

/-- The same visit over other gateways, inside another chain, with another answerer of nested
messages, and for a request with another target. -/
def mirror (visit : Visit A) (gateways : Gateways A) (chain : Chain A)
    (send : Request A.Body → Run A Answer) (target : Option SagaType) : Visit A :=
  { visit with
    orchestrator := { visit.orchestrator with gateways, chain }
    send
    request := { visit.request with target } }

end Visit

/-- Gateways that do the same, unless they are asked for a load or a save under a cancelled
signal. -/
structure Gateways.Mirrors (gateways gateways' : Gateways A) : Prop where
  load : ∀ key signal resources, resources.signals.isCancelled signal = false →
    gateways'.load key signal resources = gateways.load key signal resources
  save : ∀ record signal resources, resources.signals.isCancelled signal = false →
    gateways'.save record signal resources = gateways.save record signal resources
  publish : gateways'.publish = gateways.publish
  resolve : gateways'.resolve = gateways.resolve

theorem Gateways.Mirrors.refl (gateways : Gateways A) : gateways.Mirrors gateways :=
  ⟨fun _ _ _ _ => rfl, fun _ _ _ _ => rfl, rfl, rfl⟩

namespace Visit

/-- What two visits that do the same may differ in. -/
structure Mirrors (P : List Metric → List Metric → Prop) (visit : Visit A) (gateways' : Gateways A)
    (chain' : Chain A) (send' : Request A.Body → Run A Answer) : Prop where
  counts : Counts P
  send : ∀ request, Agree P (visit.send request) (send' request)
  chain : ∀ step {work work' : Work A}, WorksAlike P work work' →
    WorksAlike P (visit.orchestrator.chain.run visit.send step work) (chain'.run send' step work')
  gateways : visit.orchestrator.gateways.Mirrors gateways'

variable {visit : Visit A} {gateways : Gateways A} {chain : Chain A}

theorem dispatch_of_none (h : visit.registration.handler? visit.request.message.type = none) :
    visit.dispatch = (do
      Attempt.lift (World.emit [.skipped visit.sagaType visit.request.message.type])
      return none) := by
  unfold dispatch
  rw [h]

theorem dispatch_of_start {handler : Handler A}
    (h : visit.registration.handler? visit.request.message.type = some (.start, handler)) :
    visit.dispatch = (do return some (← visit.create handler)) := by
  unfold dispatch
  rw [h]

theorem dispatch_of_stage {stage : Stage} {handler : Handler A} (hstage : stage ≠ .start)
    (h : visit.registration.handler? visit.request.message.type = some (stage, handler)) :
    visit.dispatch = (do return some (← visit.advance stage handler)) := by
  unfold dispatch
  rw [h]
  cases stage with
  | start => exact absurd rfl hstage
  | step | compensate => rfl

namespace Mirrors

variable (h : visit.Mirrors P gateways chain send) (target : Option SagaType)
include h

theorem load (key : Key) {w w' : World A} (halike : World.Alike P w w')
    (hsignal : w.signals.isCancelled visit.request.signal = false) :
    AgreeAt P w w' (visit.load key).run ((visit.mirror gateways chain send target).load key).run :=
  AgreeAt.bindLift (.onResources (h.gateways.load key _ _ hsignal) halike) fun result =>
    Agree.bindLift (.record (.loaded key result)) fun _ => .pure _

theorem save (record : Record) {w w' : World A} (halike : World.Alike P w w')
    (hsignal : w.signals.isCancelled visit.request.signal = false) :
    AgreeAt P w w' (visit.save record).run
      ((visit.mirror gateways chain send target).save record).run :=
  AgreeAt.bindLift (.onResources (h.gateways.save record _ _ hsignal) halike) fun result =>
    Agree.bindLift (.record (.saved record result)) fun _ => .pure _

theorem publish (key : Key) (outgoing : Outgoing A.Body) :
    Agree P (visit.publish key outgoing).run
      ((visit.mirror gateways chain send target).publish key outgoing).run := by
  intro w w' halike
  have hcall : gateways.publish outgoing visit.request.signal w.toResources =
      visit.orchestrator.gateways.publish outgoing visit.request.signal w.toResources := by
    rw [h.gateways.publish]
  exact AgreeAt.bindLift (.onResources hcall halike) fun result =>
    Agree.bindLift (.record (.published outgoing result)) fun _ => .pure _

theorem resolve :
    Agree P visit.resolve.run (visit.mirror gateways chain send target).resolve.run := by
  have hprogram := Program.agree h.send (visit.orchestrator.gateways.resolve visit.saga.type)
  have hresolve : (visit.mirror gateways chain send target).orchestrator.gateways.resolve =
      visit.orchestrator.gateways.resolve := h.gateways.resolve
  unfold Visit.resolve
  rw [hresolve]
  exact Agree.bindLift hprogram fun result =>
    Agree.bindLift (.record (.resolved visit.saga.type result)) fun _ => .pure _

theorem publishOutgoing (key : Key) (outgoing : Option (Outgoing A.Body)) :
    Agree P (visit.publishOutgoing key outgoing).run
      ((visit.mirror gateways chain send target).publishOutgoing key outgoing).run := by
  cases outgoing with
  | none => exact .pure _
  | some outgoing => exact (h.publish target key outgoing).bindAttempt fun _ => .pure _

theorem commit (step : StepInfo) (state : A.State) (transition : Transition A.Body)
    (status : Status) : Agree P (visit.commit step state transition status).run
      ((visit.mirror gateways chain send target).commit step state transition status).run := by
  unfold Visit.commit
  refine Agree.bindCheck fun w w' halike hsignal => .bindExcept halike fun json => ?_
  -- the save comes right after the look at the signal, at the time that both worlds show
  obtain ⟨metrics, trace, rfl, hcounts⟩ := halike
  refine .bindGet <| AgreeAt.bindAttempt
    (h.save target (visit.recordOf step.key status state json w.clock)
      ⟨metrics, trace, rfl, hcounts⟩ hsignal) fun token => ?_
  exact (h.publishOutgoing target step.key transition.outgoing?).bindAttempt fun published =>
    Agree.bindLift (.emit _) fun _ => .pure _

theorem settle (step : StepInfo) (state : A.State) (transition : Transition A.Body) :
    Agree P (visit.settle step state transition).run
      ((visit.mirror gateways chain send target).settle step state transition).run := by
  unfold Visit.settle
  refine Agree.bindLift (.count h.counts _) fun _ => ?_
  cases Status.after transition.kind with
  | none => exact Agree.bindLift (.emit _) fun _ => .pure _
  | some status => exact h.commit target step state transition status

theorem work (step : StepInfo) (runner : Instance) (handler : Handler A) :
    WorksAlike P (visit.work step runner handler)
      ((visit.mirror gateways chain send target).work step runner handler) := by
  intro state
  rw [work_run, work_run]
  exact (Agree.record _).bind fun _ => (Program.agree h.send _).bind fun _ => .pure _

theorem execute (stage : Stage) (handler : Handler A) (runner : Instance) (key : Key)
    (state : A.State) : Agree P (visit.execute stage handler runner key state).run
      ((visit.mirror gateways chain send target).execute stage handler runner key state).run := by
  have hchain := h.chain (visit.stepOf stage key)
    (h.work target (visit.stepOf stage key) runner handler) state
  unfold Visit.execute
  refine Agree.bindCheck fun w w' halike _ => ?_
  refine Agree.bindLift hchain (fun p => ?_) w w' halike
  obtain ⟨result, left⟩ := p
  refine Agree.bindLift (.record (.returned (visit.stepOf stage key) left result)) fun _ => ?_
  exact Agree.bindExcept fun transition =>
    h.settle target (visit.stepOf stage key) left (transition.getD (.proceed none))

theorem create (handler : Handler A) :
    Agree P (visit.create handler).run
      ((visit.mirror gateways chain send target).create handler).run := by
  unfold Visit.create
  refine Agree.bindLift .beginAttempt fun _ => ?_
  refine Agree.bindCheck fun w w' halike _ => ?_
  refine (h.resolve target).bindAttempt (fun runner => ?_) w w' halike
  refine Agree.bindLift (.record (.hooked visit.saga.type runner)) fun _ => ?_
  refine Agree.bindLift (Program.agree h.send _) fun p => ?_
  obtain ⟨left, result⟩ := p
  refine Agree.bindExcept fun _ => Agree.bindExcept fun _ => ?_
  exact Agree.bindLift (.emit _) fun _ => h.execute target .start handler runner _ left

theorem advanceOnce (stage : Stage) (handler : Handler A) (key : Key) :
    Agree P (visit.advanceOnce stage handler key).run
      ((visit.mirror gateways chain send target).advanceOnce stage handler key).run := by
  unfold Visit.advanceOnce
  refine Agree.bindLift .beginAttempt fun _ => ?_
  refine Agree.bindCheck fun w w' halike hsignal => ?_
  refine AgreeAt.bindAttempt (h.load target key halike hsignal) fun loaded => ?_
  refine Agree.bindExcept fun record => Agree.bindExcept fun _ => Agree.bindExcept fun state => ?_
  refine Agree.bindCheck fun w w' halike _ => ?_
  exact (h.resolve target).bindAttempt
    (fun runner => h.execute target stage handler runner key state) w w' halike

theorem attempts (stage : Stage) (handler : Handler A) (key : Key) (reruns made : Nat) :
    Agree P (visit.attempts stage handler key reruns made).run
      ((visit.mirror gateways chain send target).attempts stage handler key reruns made).run := by
  induction reruns generalizing made with
  | zero =>
    unfold Visit.attempts
    refine (h.advanceOnce target stage handler key).bind fun result => ?_
    split
    · exact (Agree.count h.counts _).bind fun _ => .pure _
    · exact .pure _
  | succ reruns ih =>
    unfold Visit.attempts
    refine (h.advanceOnce target stage handler key).bind fun result => ?_
    split
    · exact (Agree.count h.counts _).bind fun _ => (Agree.emit _).bind fun _ => ih (made + 1)
    · exact .pure _

/-- **The steps of two such visits** do the same. -/
theorem dispatch :
    Agree P visit.dispatch.run (visit.mirror gateways chain send target).dispatch.run := by
  generalize hmirror : visit.mirror gateways chain send target = visit'
  have hhandler : visit'.registration.handler? visit'.request.message.type =
      visit.registration.handler? visit.request.message.type := by rw [← hmirror]; rfl
  cases hcase : visit.registration.handler? visit.request.message.type with
  | none =>
    rw [dispatch_of_none hcase, dispatch_of_none (hhandler.trans hcase), ← hmirror]
    exact Agree.bindLift (.emit _) fun _ => .pure _
  | some found =>
    obtain ⟨stage, handler⟩ := found
    by_cases hstage : stage = .start
    · subst hstage
      rw [dispatch_of_start hcase, dispatch_of_start (hhandler.trans hcase), ← hmirror]
      exact (h.create target handler).bindAttempt fun _ => .pure _
    · rw [dispatch_of_stage hstage hcase, dispatch_of_stage hstage (hhandler.trans hcase),
        ← hmirror]
      refine Agree.bindAttempt ?_ fun _ => .pure _
      exact Agree.bindExcept fun sagaId => h.attempts target stage handler _ _ 0

end Mirrors

end Visit

/-! ## Deliveries -/

namespace Orchestrator

variable {orchestrator : Orchestrator A} {gateways : Gateways A} {chain : Chain A}

/-- What two orchestrators that do the same may differ in. -/
structure Mirrors (P : List Metric → List Metric → Prop) (orchestrator : Orchestrator A)
    (gateways' : Gateways A) (chain' : Chain A) : Prop where
  counts : Counts P
  chain : ∀ {send send' : Request A.Body → Run A Answer},
    (∀ request, Agree P (send request) (send' request)) →
    ∀ step {work work' : Work A}, WorksAlike P work work' →
      WorksAlike P (orchestrator.chain.run send step work) (chain'.run send' step work')
  gateways : orchestrator.gateways.Mirrors gateways'

/-- The same orchestrator over other gateways, with another chain. -/
def mirror (orchestrator : Orchestrator A) (gateways : Gateways A) (chain : Chain A) :
    Orchestrator A :=
  { orchestrator with gateways, chain }

/-- Gateways may do something else when they are asked under a cancelled signal. -/
theorem mirrors_gateways (hP : Counts P) (h : orchestrator.gateways.Mirrors gateways) :
    orchestrator.Mirrors P gateways orchestrator.chain :=
  ⟨hP, fun hsend step _ _ hwork => Chain.agree hP hsend step hwork orchestrator.chain, h⟩

namespace Mirrors

variable (h : orchestrator.Mirrors P gateways chain)
include h

theorem visit (hsend : ∀ request, Agree P (send request) (send' request))
    (registration : Registration A) (request : Request A.Body) :
    Visit.Mirrors P { orchestrator, send, registration, request } gateways chain send' :=
  ⟨h.counts, hsend, h.chain hsend, h.gateways⟩

theorem dispatchAll (hsend : ∀ request, Agree P (send request) (send' request))
    (request : Request A.Body) (registrations : List (Registration A)) :
    Agree P (orchestrator.dispatchAll send request registrations).run
      ((orchestrator.mirror gateways chain).dispatchAll send' request registrations).run := by
  induction registrations with
  | nil => exact .pure _
  | cons registration rest ih =>
    unfold Orchestrator.dispatchAll
    exact ((h.visit hsend registration request).dispatch request.target).bindAttempt fun _ =>
      ih.bindAttempt fun _ => .pure _

theorem handleWith (hsend : ∀ request, Agree P (send request) (send' request))
    (request : Request A.Body) : Agree P (orchestrator.handleWith send request)
      ((orchestrator.mirror gateways chain).handleWith send' request) := by
  unfold Orchestrator.handleWith
  refine Agree.bindLift .beginDelivery fun _ => ?_
  refine Agree.bindLift (.count h.counts _) fun _ => Agree.bindExcept fun registrations => ?_
  refine (h.dispatchAll hsend request registrations).bindAttempt fun settled => ?_
  exact Agree.bindLift (.emit _) fun _ => .pure _

/-- Nor do they differ in what answers nested messages. -/
theorem below (nesting : Nat) (request : Request A.Body) :
    Agree P (orchestrator.below nesting request)
      ((orchestrator.mirror gateways chain).below nesting request) := by
  induction nesting generalizing request with
  | zero =>
    rintro w _ ⟨metrics, trace, rfl, hcounts⟩
    exact ⟨rfl, metrics, trace, rfl, hcounts⟩
  | succ nesting ih =>
    change Agree P (orchestrator.deliver nesting request)
      ((orchestrator.mirror gateways chain).deliver nesting request)
    rw [deliver_eq, deliver_eq]
    exact h.handleWith ih request

/-- **Their deliveries do the same**, to any depth. -/
theorem deliver (nesting : Nat) (request : Request A.Body) :
    Agree P (orchestrator.deliver nesting request)
      ((orchestrator.mirror gateways chain).deliver nesting request) := by
  rw [deliver_eq, deliver_eq]
  exact h.handleWith (h.below nesting) request

end Mirrors

end Orchestrator

end Sagas
