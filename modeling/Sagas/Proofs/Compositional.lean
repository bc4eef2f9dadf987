import Sagas.Proofs.Mirrors

/-!
# Properties that a step has if its programs have them

A property of computations may hold of every single effect of the engine and join up along a
computation. Then it holds of whatever the engine does for one saga, as long as it holds of the
programs that run meanwhile.

* `Joins`: a property that joins up, whichever effects have it. `Joins.handleWith`: it holds of a
  delivery, if it holds of the steps of its sagas.
* `StepwiseOver`: one that single effects have as well, with the rules that follow a computation
  step by step. Of the calls on the resources of the world, those count that are made over some
  gateways. What is counted, the reruns that are logged and the answers of the resolver are left to
  whoever uses it; `Stepwise` leaves only counters and reruns to him, over all gateways.
* `StepwiseOver.program`: it holds of a program, if it holds of the messages that the program sends.
* `StepwiseOver.create`, `StepwiseOver.advanceOnce`: it holds of every attempt, if it holds of the
  execution of a step; `StepwiseOver.attempts`, `StepwiseOver.dispatch`: and so of the step of one
  saga.
* `Compositional`: a stepwise property for which counters are no matter, but for conflicts.
* `Visit.Programs`: it holds of the programs of a step; `Compositional.programs`: if it holds of the
  messages that they send.
* `Compositional.create`, `Compositional.advanceOnce`: so it holds of every attempt.
-/

namespace Sagas

variable {A : Application} {α β : Type}

/-- The saga type whose conflict a metric counts. -/
def Metric.conflict? : Metric → Option String
  | .conflicts sagaType => some sagaType
  | _ => none

/-- The rerun that an event logs, with its number. -/
def TraceEvent.rerun? : TraceEvent → Option (Key × Nat)
  | .reloading key number => some (key, number)
  | _ => none

variable {K : ∀ {α : Type}, Run A α → Prop}

/-- A property of computations that single effects have and that joins up. Counting is left out, and
so is the logging of reruns. -/
structure Stepwise (K : ∀ {α : Type}, Run A α → Prop) : Prop where
  pure : ∀ {α : Type} (a : α), K (Pure.pure a : Run A α)
  bind : ∀ {α β : Type} {x : Run A α} {f : α → Run A β}, K x → (∀ a, K (f a)) → K (x >>= f)
  read : K (get : Run A (World A))
  record : ∀ event, K (World.record event)
  onResources : ∀ {α : Type} (call : StateM (Resources A) α), K (World.onResources call)
  beginAttempt : K World.beginAttempt
  emit : ∀ events, events.filterMap TraceEvent.rerun? = [] → K (World.emit events)

/-- Gateways in memory that resolve nothing. -/
instance : Inhabited (Gateways A) :=
  ⟨.inMemory fun saga => return .error (.text s!"no instances of {saga.name}")⟩

/-- The calls on the resources of the world that are made over some gateways: those of programs,
and those of the engine. -/
inductive ResourceCall (gateways : Gateways A) : {α : Type} → StateM (Resources A) α → Prop where
  | update (change : A.Env → A.Env) : ResourceCall gateways fun resources =>
      ((), { resources with env := change resources.env })
  | issue : ResourceCall gateways fun resources =>
      (resources.signals.fresh, { resources with signals := resources.signals.issue })
  | cancel (signal : Signal) : ResourceCall gateways fun resources =>
      ((), { resources with signals := resources.signals.cancel signal })
  | draw : ResourceCall gateways fun resources =>
      (resources.instances, { resources with instances := resources.instances + 1 })
  | load (key : Key) (signal : Signal) : ResourceCall gateways (gateways.load key signal)
  | save (record : Record) (signal : Signal) : ResourceCall gateways (gateways.save record signal)
  | publish (outgoing : Outgoing A.Body) (signal : Signal) :
      ResourceCall gateways (gateways.publish outgoing signal)

/-- Whether an event is an answer of the resolver. -/
def Event.isResolution : Event A → Bool
  | .resolved .. => true
  | _ => false

/-- A property of computations that joins up. -/
structure Joins (K : ∀ {α : Type}, Run A α → Prop) : Prop where
  pure : ∀ {α : Type} (a : α), K (Pure.pure a : Run A α)
  bind : ∀ {α β : Type} {x : Run A α} {f : α → Run A β}, K x → (∀ a, K (f a)) → K (x >>= f)

/-- A property of computations that single effects over some gateways have and that joins up.
Counting is left out, and so are the logging of reruns and the answers of the resolver. -/
structure StepwiseOver (gateways : Gateways A) (K : ∀ {α : Type}, Run A α → Prop) : Prop
    extends Joins K where
  read : K (get : Run A (World A))
  record : ∀ event, event.isResolution = false → K (World.record event)
  onResources : ∀ {α : Type} {call : StateM (Resources A) α}, ResourceCall gateways call →
    K (World.onResources call)
  beginAttempt : K World.beginAttempt
  emit : ∀ events, events.filterMap TraceEvent.rerun? = [] → K (World.emit events)

/-- What holds of the calls of all gateways holds of those of some. -/
theorem Stepwise.over (h : Stepwise K) (gateways : Gateways A) : StepwiseOver gateways K :=
  ⟨⟨h.pure, h.bind⟩, h.read, fun event _ => h.record event, fun {_ call} _ => h.onResources call,
    h.beginAttempt, h.emit⟩

/-! ## Computations step by step -/

namespace Joins

variable (h : Joins K)
include h

theorem bindLift {x : Run A α} {f : α → Attempt A β} (hx : K x) (hf : ∀ a, K (f a).run) :
    K (Attempt.lift x >>= f).run :=
  h.bind hx hf

theorem bindAttempt {x : Attempt A α} {f : α → Attempt A β} (hx : K x.run)
    (hf : ∀ a, K (f a).run) : K (x >>= f).run := by
  rw [ExceptT.run_bind]
  refine h.bind hx fun result => ?_
  cases result with
  | ok a => exact hf a
  | error error => exact h.pure _

theorem bindExcept {result : Except SagaError α} {f : α → Attempt A β} (hf : ∀ a, K (f a).run) :
    K (Attempt.ofExcept result >>= f).run :=
  h.bindAttempt (h.pure _) hf

/-- **A delivery** has the property if the steps of its sagas have, and what is counted at its
beginning and logged at its end. -/
theorem handleWith {orchestrator : Orchestrator A} {send : Request A.Body → Run A Answer}
    {request : Request A.Body} (hbegin : K World.beginDelivery)
    (hcount : K (World.count [.messagesHandled]))
    (hemit : ∀ events, events.filterMap TraceEvent.rerun? = [] → K (World.emit events))
    (hdispatch : ∀ registration,
      K (Visit.dispatch { orchestrator, send, registration, request }).run) :
    K (orchestrator.handleWith send request) := by
  have hconcluding : ∀ settled,
      (Orchestrator.concludingEvents settled).filterMap TraceEvent.rerun? = [] := fun settled => by
    have hfurther : TraceEvent.rerun? ∘ (fun (p : Key × Fault) => .furtherFailure p.1 p.2) =
        fun _ => none := rfl
    simp only [Orchestrator.concludingEvents, List.filterMap_append, List.filterMap_map, hfurther]
    split <;> simp [TraceEvent.rerun?]
  have hall : ∀ registrations,
      K (orchestrator.dispatchAll send request registrations).run := by
    intro registrations
    induction registrations with
    | nil => exact h.pure _
    | cons registration rest ih =>
      exact h.bindAttempt (hdispatch registration) fun _ => h.bindAttempt ih fun _ => h.pure _
  refine h.bindLift hbegin fun _ => h.bindLift hcount fun _ => ?_
  refine h.bindExcept fun registrations => h.bindAttempt (hall registrations) fun settled => ?_
  exact h.bindLift (hemit _ (hconcluding settled)) fun _ => h.pure _

end Joins

namespace StepwiseOver

section

variable {gateways : Gateways A} (h : StepwiseOver gateways K)
include h

theorem bindCheck {signal : Signal} {f : Unit → Attempt A β} (hf : K (f ()).run) :
    K (checkSignal signal >>= f).run :=
  h.bindAttempt (h.bindLift h.read fun _ => h.pure _) fun _ => hf

/-! ## Programs and wrappers -/

section

variable {send : Request A.Body → Run A Answer} {step : StepInfo} {work : Work A}

/-- **A program** has the property if the messages that it sends have. -/
theorem program (hsend : ∀ request, K (World.nested (send request))) (program : Program A α) :
    K (program.run send) := by
  induction program with
  | done value => exact h.pure value
  | update change next ih =>
    exact h.bind (h.onResources (.update change)) fun _ => h.bind h.read fun w => ih w.env
  | note entry next ih => exact h.bind (h.record _ rfl) fun _ => ih
  | newSignal next ih =>
    change K (World.onResources (fun resources =>
      (resources.signals.fresh, { resources with signals := resources.signals.issue })) >>=
        fun signal => (next signal).run send)
    exact h.bind (h.onResources .issue) ih
  | cancel signal next ih =>
    exact h.bind (h.record _ rfl) fun _ => h.bind (h.onResources (.cancel signal)) fun _ => ih
  | isCancelled signal next ih => exact h.bind h.read fun w => ih (w.signals.isCancelled signal)
  | newInstance next ih =>
    change K (World.onResources (fun resources =>
      (resources.instances, { resources with instances := resources.instances + 1 })) >>=
        fun serial => (next serial).run send)
    exact h.bind (h.onResources .draw) ih
  | send request next ih => exact h.bind (hsend request) ih

theorem tracing (hwork : ∀ state, K (work.run state)) (state : A.State) :
    K ((Wrapper.tracing.wrap send step work).run state) := by
  have hend : ∀ result : HandlerResult A.Body,
      [endEvent step result].filterMap TraceEvent.rerun? = [] := fun result => by
    cases result <;> rfl
  rw [Wrapper.tracing_run]
  exact h.bind (h.emit _ rfl) fun _ => h.bind (hwork state) fun p =>
    h.bind (h.emit _ (hend p.1)) fun _ => h.pure _

theorem metrics (hcount : ∀ metrics, metrics.filterMap Metric.conflict? = [] →
    K (World.count metrics)) (hwork : ∀ state, K (work.run state)) (state : A.State) :
    K ((Wrapper.metrics.wrap send step work).run state) := by
  have hend : ∀ result : HandlerResult A.Body,
      (endMetrics step result).filterMap Metric.conflict? = [] := fun result => by
    cases result <;> rfl
  rw [Wrapper.metrics_run]
  exact h.bind (hcount _ rfl) fun _ => h.bind (hwork state) fun p =>
    h.bind (hcount _ (hend p.1)) fun _ => h.pure _

theorem custom (hsend : ∀ request, K (World.nested (send request)))
    (hwork : ∀ state, K (work.run state)) (before : StepInfo → Program A (Around A))
    (state : A.State) : K (((Wrapper.custom before).wrap send step work).run state) := by
  rw [Wrapper.custom_run]
  refine h.bind (h.program hsend _) fun around => ?_
  cases around with
  | halt result => exact h.pure _
  | enclose after =>
    exact h.bind (hwork state) fun p => h.bind (h.program hsend _) fun _ => h.pure _

/-- **A chain** has the property if the messages of its wrappers have, and the work in it. -/
theorem chain (hcount : ∀ metrics, metrics.filterMap Metric.conflict? = [] →
    K (World.count metrics)) (hsend : ∀ request, K (World.nested (send request)))
    (hwork : ∀ state, K (work.run state)) (chain : Chain A) :
    ∀ state, K ((chain.run send step work).run state) := by
  induction chain with
  | nil => exact hwork
  | cons wrapper rest ih =>
    intro state
    change K ((wrapper.wrap send step (Chain.run send step work rest)).run state)
    cases wrapper with
    | tracing => exact h.tracing ih state
    | metrics => exact h.metrics hcount ih state
    | custom before => exact h.custom hsend ih before state

end

end

/-! ## Steps -/

section

variable {visit : Visit A} (h : StepwiseOver visit.orchestrator.gateways K) {stage : Stage}
  {handler : Handler A} {runner : Instance} {key : Key}
include h

omit h in
theorem rerun?_endEvents {status : Status} {transition : Transition A.Body} :
    (Visit.endEvents key status transition).filterMap TraceEvent.rerun? = [] := by
  have hcompleted : (if status.isTerminal then [TraceEvent.completed key] else []).filterMap
      TraceEvent.rerun? = [] := by
    split <;> rfl
  cases transition with
  | fail => rfl
  | compensate outgoing error | retry delay error => cases error <;> exact hcompleted
  | _ => exact hcompleted

theorem publishOutgoing (outgoing : Option (Outgoing A.Body)) :
    K (visit.publishOutgoing key outgoing).run := by
  cases outgoing with
  | none => exact h.pure _
  | some outgoing =>
    have hpublish : K (visit.publish key outgoing).run :=
      h.bindLift (h.onResources (.publish _ _)) fun _ =>
        h.bindLift (h.record _ rfl) fun _ => h.pure _
    exact h.bindAttempt hpublish fun _ => h.pure _

/-- What is done about a transition once it is counted. -/
theorem act (step : StepInfo) (state : A.State) (transition : Transition A.Body) :
    K (match Status.after transition.kind with
      | none => visit.redeliver step transition
      | some status => visit.commit step state transition status).run := by
  have hsave : ∀ record, K (visit.save record).run := fun record =>
    h.bindLift (h.onResources (.save _ _)) fun _ =>
      h.bindLift (h.record _ rfl) fun _ => h.pure _
  cases Status.after transition.kind with
  | none => exact h.bindLift (h.emit _ rfl) fun _ => h.pure _
  | some status =>
    refine h.bindCheck <| h.bindExcept fun json => h.bindLift h.read fun w => ?_
    refine h.bindAttempt (hsave _) fun token => h.bindAttempt (h.publishOutgoing _) fun _ => ?_
    exact h.bindLift (h.emit _ rerun?_endEvents) fun _ => h.pure _

theorem work (hhandler : ∀ context, K ((handler runner context).run visit.send))
    (step : StepInfo) (state : A.State) : K ((visit.work step runner handler).run state) := by
  rw [Visit.work_run]
  exact h.bind (h.record _ rfl) fun _ => h.bind (hhandler _) fun _ => h.pure _

/-- **The execution of a step** has the property if its chain and its programs have. -/
theorem execute (hcount : ∀ metrics, metrics.filterMap Metric.conflict? = [] →
    K (World.count metrics)) (hhandler : ∀ context, K ((handler runner context).run visit.send))
    (hchain : ∀ step (work : Work A), (∀ state, K (work.run state)) →
      ∀ state, K ((visit.orchestrator.chain.run visit.send step work).run state))
    (stage : Stage) (key : Key) (state : A.State) :
    K (visit.execute stage handler runner key state).run := by
  have hwork := h.work hhandler (visit.stepOf stage key)
  unfold Visit.execute
  refine h.bindCheck <| h.bindLift (hchain _ _ hwork state) fun p => ?_
  refine h.bindLift (h.record _ rfl) fun _ => h.bindExcept fun _ => ?_
  exact h.bindLift (hcount _ rfl) fun _ => h.act _ _ _

section

variable (hresolve : K visit.resolve.run)
include hresolve

/-- **Making a new instance** has the property if the execution of its step has. -/
theorem create (hhook : ∀ runner, K ((visit.hook runner).run visit.send))
    (hexecute : ∀ runner key state, K (visit.execute .start handler runner key state).run) :
    K (visit.create handler).run := by
  unfold Visit.create
  refine h.bindLift h.beginAttempt fun _ => h.bindCheck ?_
  refine h.bindAttempt hresolve fun runner => h.bindLift (h.record _ rfl) fun _ => ?_
  refine h.bindLift (hhook runner) fun p => h.bindExcept fun _ => h.bindExcept fun _ => ?_
  exact h.bindLift (h.emit _ rfl) fun _ => hexecute _ _ _

/-- **One attempt at a step** has the property if the execution of the step has. -/
theorem advanceOnce
    (hexecute : ∀ runner state, K (visit.execute stage handler runner key state).run) :
    K (visit.advanceOnce stage handler key).run := by
  have hload : K (visit.load key).run :=
    h.bindLift (h.onResources (.load _ _)) fun _ =>
      h.bindLift (h.record _ rfl) fun _ => h.pure _
  unfold Visit.advanceOnce
  refine h.bindLift h.beginAttempt fun _ => h.bindCheck ?_
  refine h.bindAttempt hload fun loaded => h.bindExcept fun record => h.bindExcept fun _ => ?_
  refine h.bindExcept fun state => h.bindCheck ?_
  exact h.bindAttempt hresolve fun runner => hexecute _ _

end

/-- **The attempts at a step** have the property if each one has, and what is counted and logged
between them. -/
theorem attempts (honce : K (visit.advanceOnce stage handler key).run)
    (hconflict : K (World.count [.conflicts visit.sagaType]))
    (hrerun : ∀ number, K (World.emit [.reloading key number])) (reruns made : Nat) :
    K (visit.attempts stage handler key reruns made).run := by
  induction reruns generalizing made with
  | zero =>
    unfold Visit.attempts
    refine h.bind honce fun result => ?_
    split
    · exact h.bind hconflict fun _ => h.pure _
    · exact h.pure _
  | succ reruns ih =>
    unfold Visit.attempts
    refine h.bind honce fun result => ?_
    split
    · exact h.bind hconflict fun _ => h.bind (hrerun _) fun _ => ih (made + 1)
    · exact h.pure _

/-- **The step of one saga** has the property if making an instance and the attempts have. -/
theorem dispatch
    (hcreate : ∀ handler, visit.registration.handler? visit.request.message.type =
      some (.start, handler) → K (visit.create handler).run)
    (hattempts : ∀ stage handler, visit.registration.handler? visit.request.message.type =
      some (stage, handler) → ∀ key reruns, K (visit.attempts stage handler key reruns 0).run) :
    K visit.dispatch.run := by
  cases hcase : visit.registration.handler? visit.request.message.type with
  | none =>
    rw [Visit.dispatch_of_none hcase]
    exact h.bindLift (h.emit _ rfl) fun _ => h.pure _
  | some found =>
    obtain ⟨stage, handler⟩ := found
    by_cases hstage : stage = .start
    · subst hstage
      rw [Visit.dispatch_of_start hcase]
      exact h.bindAttempt (hcreate handler hcase) fun _ => h.pure _
    · rw [Visit.dispatch_of_stage hstage hcase]
      refine h.bindAttempt ?_ fun _ => h.pure _
      exact h.bindExcept fun sagaId => hattempts stage handler hcase _ _

end

end StepwiseOver

/-- What is resolved has a property of all calls and events if the resolver has. -/
theorem Stepwise.resolve (h : Stepwise K) {visit : Visit A}
    (hresolver : K ((visit.orchestrator.gateways.resolve visit.saga.type).run visit.send)) :
    K visit.resolve.run :=
  (h.over default).bindLift hresolver fun _ =>
    (h.over default).bindLift (h.record _) fun _ => h.pure _

/-! ## Counters of no matter -/

/-- A property of computations that single effects have and that joins up. Counting a conflict and
logging a rerun are left out, since they come between attempts and not in them. -/
structure Compositional (K : ∀ {α : Type}, Run A α → Prop) : Prop where
  pure : ∀ {α : Type} (a : α), K (Pure.pure a : Run A α)
  bind : ∀ {α β : Type} {x : Run A α} {f : α → Run A β}, K x → (∀ a, K (f a)) → K (x >>= f)
  read : K (get : Run A (World A))
  record : ∀ event, K (World.record event)
  onResources : ∀ {α : Type} (call : StateM (Resources A) α), K (World.onResources call)
  beginAttempt : K World.beginAttempt
  emit : ∀ events, events.filterMap TraceEvent.rerun? = [] → K (World.emit events)
  count : ∀ metrics, metrics.filterMap Metric.conflict? = [] → K (World.count metrics)

/-- The programs of a step have a property. -/
structure Visit.Programs (K : ∀ {α : Type}, Run A α → Prop) (visit : Visit A)
    (handler : Handler A) : Prop where
  resolver : K ((visit.orchestrator.gateways.resolve visit.saga.type).run visit.send)
  hook : ∀ runner, K ((visit.hook runner).run visit.send)
  handler : ∀ runner context, K ((handler runner context).run visit.send)
  chain : ∀ step (work : Work A), (∀ state, K (work.run state)) →
    ∀ state, K ((visit.orchestrator.chain.run visit.send step work).run state)

namespace Compositional

variable (h : Compositional K)
include h

theorem stepwise : Stepwise K :=
  ⟨h.pure, h.bind, h.read, h.record, h.onResources, h.beginAttempt, h.emit⟩

theorem metrics {send : Request A.Body → Run A Answer} {step : StepInfo} {work : Work A}
    (hwork : ∀ state, K (work.run state)) (state : A.State) :
    K ((Wrapper.metrics.wrap send step work).run state) :=
  (h.stepwise.over default).metrics h.count hwork state

/-- The programs of a step have the property if the messages that they send have. -/
theorem programs {visit : Visit A} (hsend : ∀ request, K (World.nested (visit.send request)))
    (handler : Handler A) : visit.Programs K handler where
  resolver := (h.stepwise.over default).program hsend _
  hook _ := (h.stepwise.over default).program hsend _
  handler _ _ := (h.stepwise.over default).program hsend _
  chain _ _ hwork := (h.stepwise.over default).chain h.count hsend hwork _

variable {visit : Visit A} {handler : Handler A} (hprograms : visit.Programs K handler)
include hprograms

theorem execute (stage : Stage) (runner : Instance) (key : Key) (state : A.State) :
    K (visit.execute stage handler runner key state).run :=
  (h.stepwise.over _).execute h.count (hprograms.handler runner) hprograms.chain stage key state

/-- **Making a new instance** has the property. -/
theorem create : K (visit.create handler).run :=
  (h.stepwise.over _).create (h.stepwise.resolve hprograms.resolver) hprograms.hook
    (h.execute hprograms .start)

/-- **One attempt at a step** has the property. -/
theorem advanceOnce (stage : Stage) (key : Key) : K (visit.advanceOnce stage handler key).run :=
  (h.stepwise.over _).advanceOnce (h.stepwise.resolve hprograms.resolver) fun runner =>
    h.execute hprograms stage runner key

end Compositional

end Sagas
