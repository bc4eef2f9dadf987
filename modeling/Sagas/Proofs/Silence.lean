import Mathlib.Data.List.Basic
import Sagas.Proofs.Compositional
import Sagas.Proofs.Conduct
import Sagas.Proofs.Replay
import Sagas.Proofs.Scripts
import Sagas.Proofs.Signals

/-!
# Deliveries in which nothing is sent

Where no program sends messages no delivery is nested in another one, so everything that a turn
writes into the journal is its own. Over the gateways in memory the events of a turn then tell
everything that it did to the store and the outbox.

* `Program.SendsNothing`, `Orchestrator.Silent`: programs that send no messages, and orchestrators
  that run no others; `Program.Steady` programs cancel nothing either.
* `Level`: a computation whose entries all stand at its own depth.
* `dispatch_level`: the step of one saga is one, where nothing is sent.
* `turn_effects`: what such a turn did to the store and the outbox.
* `Simulation.steady_of_spec`: simulated sagas by their acts.
-/

namespace Sagas

variable {A : Application} {α β : Type}

/-! ## Programs that send nothing -/

/-- Sends no messages, whatever its effects answer. -/
def Program.SendsNothing : Program A α → Prop
  | done _ => True
  | update _ next => ∀ env, (next env).SendsNothing
  | note _ next => next.SendsNothing
  | newSignal next => ∀ signal, (next signal).SendsNothing
  | cancel _ next => next.SendsNothing
  | isCancelled _ next => ∀ flag, (next flag).SendsNothing
  | newInstance next => ∀ serial, (next serial).SendsNothing
  | send _ _ => False

theorem Program.SendsNothing.bind {program : Program A α} {f : α → Program A β}
    (h : program.SendsNothing) (hf : ∀ a, (f a).SendsNothing) : (program >>= f).SendsNothing := by
  change (program.bind f).SendsNothing
  induction program with
  | done value => exact hf value
  | update change next ih => exact fun env => ih env (h env)
  | note entry next ih => exact ih h
  | newSignal next ih => exact fun signal => ih signal (h signal)
  | cancel signal next ih => exact ih h
  | isCancelled signal next ih => exact fun flag => ih flag (h flag)
  | newInstance next ih => exact fun serial => ih serial (h serial)
  | send request next ih => exact h.elim

/-- Sends no messages and cancels no signals, whatever its effects answer. -/
def Program.Steady : Program A α → Prop
  | done _ => True
  | update _ next => ∀ env, (next env).Steady
  | note _ next => next.Steady
  | newSignal next => ∀ signal, (next signal).Steady
  | cancel _ _ => False
  | isCancelled _ next => ∀ flag, (next flag).Steady
  | newInstance next => ∀ serial, (next serial).Steady
  | send _ _ => False

theorem Program.Steady.bind {program : Program A α} {f : α → Program A β}
    (h : program.Steady) (hf : ∀ a, (f a).Steady) : (program >>= f).Steady := by
  change (program.bind f).Steady
  induction program with
  | done value => exact hf value
  | update change next ih => exact fun env => ih env (h env)
  | note entry next ih => exact ih h
  | newSignal next ih => exact fun signal => ih signal (h signal)
  | cancel signal next ih => exact h.elim
  | isCancelled signal next ih => exact fun flag => ih flag (h flag)
  | newInstance next ih => exact fun serial => ih serial (h serial)
  | send request next ih => exact h.elim

theorem Program.Steady.sendsNothing {program : Program A α} (h : program.Steady) :
    program.SendsNothing := by
  induction program with
  | done value => trivial
  | update change next ih => exact fun env => ih env (h env)
  | note entry next ih => exact ih h
  | newSignal next ih => exact fun signal => ih signal (h signal)
  | cancel signal next ih => exact h.elim
  | isCancelled signal next ih => exact fun flag => ih flag (h flag)
  | newInstance next ih => exact fun serial => ih serial (h serial)
  | send request next ih => exact h.elim

/-- What a wrapper does once its first part has run sends nothing. -/
def Around.SendsNothing : Around A → Prop
  | .halt _ => True
  | .enclose after => ∀ result, (after result).SendsNothing

/-- Neither part of a wrapper sends anything. -/
def Wrapper.SendsNothing : Wrapper A → Prop
  | .tracing | .metrics => True
  | .custom before => ∀ step, (before step).SendsNothing ∧
    ∀ around, (before step).CanEnd around → around.SendsNothing

/-- No program that an orchestrator runs sends messages: neither the hooks and handlers of its sagas
nor its wrappers and the resolver. -/
structure Orchestrator.Silent (orchestrator : Orchestrator A) : Prop where
  hooks : ∀ registration ∈ orchestrator.directory.registrations, ∀ runner context,
    (registration.saga.onCreated runner context).SendsNothing
  handlers : ∀ registration ∈ orchestrator.directory.registrations, ∀ message stage handler,
    registration.handler? message = some (stage, handler) →
      ∀ runner context, (handler runner context).SendsNothing
  wrappers : ∀ wrapper ∈ orchestrator.chain, wrapper.SendsNothing
  resolver : ∀ saga, (orchestrator.gateways.resolve saga).SendsNothing

/-! ## Computations at one depth -/

/-- Whatever a computation writes into the journal stands at the depth at which it runs. -/
def Level (run : Run A α) : Prop :=
  ∀ w, ∃ es, (run w).2.history = w.history ++ es ∧ (run w).2.depth = w.depth ∧
    ∀ e ∈ es, e.depth = w.depth

namespace Level

/-- What comes second may rely on what the first computation can answer. -/
theorem bindResult {x : Run A α} {f : α → Run A β} (hx : Level x)
    (hf : ∀ w, Level (f (x w).1)) : Level (x >>= f) := by
  intro w
  obtain ⟨es, hhistory, hdepth, hes⟩ := hx w
  obtain ⟨es', hhistory', hdepth', hes'⟩ := hf w (x w).2
  rw [Run.bind_apply]
  refine ⟨es ++ es', by rw [hhistory', hhistory, List.append_assoc], hdepth'.trans hdepth, ?_⟩
  intro e hmem
  rcases List.mem_append.1 hmem with hmem | hmem
  · exact hes e hmem
  · exact (hes' e hmem).trans hdepth

theorem bind {x : Run A α} {f : α → Run A β} (hx : Level x) (hf : ∀ a, Level (f a)) :
    Level (x >>= f) :=
  hx.bindResult fun w => hf (x w).1

/-- A computation that leaves the journal alone. -/
theorem quiet {run : Run A α} (hjournal : ∀ w, (run w).2.journal = w.journal)
    (hdepth : ∀ w, (run w).2.depth = w.depth) : Level run :=
  fun w => ⟨[], by simp [World.history, hjournal w], hdepth w, by simp⟩

theorem pure (a : α) : Level (Pure.pure a : Run A α) := .quiet (fun _ => rfl) fun _ => rfl

theorem record (event : Event A) : Level (World.record event) := by
  intro w
  refine ⟨[w.entry event], history_logged w event, rfl, fun e hmem => ?_⟩
  rw [List.mem_singleton.1 hmem]
  rfl

theorem emit (events : List TraceEvent) : Level (A := A) (World.emit events) :=
  .quiet (fun _ => rfl) fun _ => rfl

theorem count (metrics : List Metric) : Level (A := A) (World.count metrics) :=
  .quiet (fun _ => rfl) fun _ => rfl

theorem compositional : Compositional (A := A) Level where
  pure := pure
  bind := bind
  read := .quiet (fun _ => rfl) fun _ => rfl
  record := record
  onResources _ := .quiet (fun _ => rfl) fun _ => rfl
  beginAttempt := .quiet (fun _ => rfl) fun _ => rfl
  emit events _ := emit events
  count metrics _ := count metrics

end Level

variable {send : Request A.Body → Run A Answer}

/-- **A program that sends nothing** stays at its depth. -/
theorem Program.SendsNothing.level {program : Program A α} (h : program.SendsNothing) :
    Level (program.run send) := by
  induction program with
  | done value => exact .pure value
  | update change next ih =>
    have halter : Level (A := A) (World.alter fun w => { w with env := change w.env }) :=
      .quiet (fun _ => rfl) fun _ => rfl
    exact halter.bind fun _ w => ih w.env (h w.env) w
  | note entry next ih => exact (Level.record _).bind fun _ => ih h
  | newSignal next ih =>
    intro w
    exact ih w.signals.fresh (h w.signals.fresh) { w with signals := w.signals.issue }
  | cancel signal next ih =>
    have halter : Level (A := A)
        (World.alter fun w => { w with signals := w.signals.cancel signal }) :=
      .quiet (fun _ => rfl) fun _ => rfl
    exact (Level.record _).bind fun _ => halter.bind fun _ => ih h
  | isCancelled signal next ih =>
    intro w
    exact ih (w.signals.isCancelled signal) (h (w.signals.isCancelled signal)) w
  | newInstance next ih =>
    intro w
    exact ih w.instances (h w.instances) { w with instances := w.instances + 1 }
  | send request next ih => exact h.elim

theorem Wrapper.SendsNothing.level {wrapper : Wrapper A} (h : wrapper.SendsNothing)
    {step : StepInfo} {work : Work A} (hwork : ∀ state, Level (work.run state)) (state : A.State) :
    Level ((wrapper.wrap send step work).run state) := by
  cases wrapper with
  | tracing => exact (Level.compositional.stepwise.over default).tracing hwork state
  | metrics => exact Level.compositional.metrics hwork state
  | custom before =>
    rw [Wrapper.custom_run]
    obtain ⟨hbefore, haround⟩ := h step
    refine hbefore.level.bindResult fun w => ?_
    have hsilent := haround _ ⟨send, w, rfl⟩
    generalize ((before step).run send w).1 = around at hsilent
    cases around with
    | halt result => exact .pure _
    | enclose after =>
      exact (hwork state).bind fun p => (hsilent p.1).level.bind fun _ => .pure _

theorem Chain.level {chain : Chain A} (h : ∀ wrapper ∈ chain, wrapper.SendsNothing)
    {step : StepInfo} {work : Work A} (hwork : ∀ state, Level (work.run state)) :
    ∀ state, Level ((chain.run send step work).run state) := by
  induction chain with
  | nil => exact hwork
  | cons wrapper rest ih =>
    have hrest := ih fun other hmem => h other (List.mem_cons_of_mem _ hmem)
    exact fun state => (h wrapper List.mem_cons_self).level hrest state

/-! ## Steps -/

namespace Visit

variable {visit : Visit A} (hsilent : visit.orchestrator.Silent)
  (hreg : visit.registration ∈ visit.orchestrator.directory.registrations)

include hsilent hreg

theorem programs_level {handler : Handler A}
    (hhandler : ∀ runner context, (handler runner context).SendsNothing) :
    visit.Programs Level handler where
  resolver := (hsilent.resolver _).level
  hook runner := (hsilent.hooks visit.registration hreg runner _).level
  handler runner context := (hhandler runner context).level
  chain _ _ hwork := Chain.level hsilent.wrappers hwork

theorem attempts_level {handler : Handler A}
    (hhandler : ∀ runner context, (handler runner context).SendsNothing) (stage : Stage)
    (key : Key) (reruns made : Nat) :
    Level (visit.attempts stage handler key reruns made).run :=
  (Level.compositional.stepwise.over _).attempts
    (Level.compositional.advanceOnce (programs_level hsilent hreg hhandler) stage key)
    (.count _) (fun _ => .emit _) reruns made

/-- **The step of one saga stays at its depth**, where nothing is sent. -/
theorem dispatch_level : Level visit.dispatch.run := by
  have hhandlers := hsilent.handlers visit.registration hreg visit.request.message.type
  refine (Level.compositional.stepwise.over _).dispatch (fun handler hcase => ?_)
    fun stage handler hcase key reruns => ?_
  · exact Level.compositional.create (programs_level hsilent hreg (hhandlers _ _ hcase))
  · exact attempts_level hsilent hreg (hhandlers _ _ hcase) stage key reruns 0

end Visit

/-! ## The effects of a turn -/

/-- The token that an accepted save answers. -/
def Event.token? : Event A → Option Token
  | .saved _ (.ok token) => some token
  | _ => none

/-- What the engine's events at the only depth of some entries tell, the entries tell. -/
theorem filterMap_eventsAt {es : List (Entry A)} {depth : Nat} (f : Event A → Option β)
    (hf : ∀ event, event.isEngine = false → f event = none) (h : ∀ e ∈ es, e.depth = depth) :
    (eventsAt depth es).filterMap f = es.filterMap fun e => f e.event := by
  unfold eventsAt
  rw [List.filterMap_map, List.filterMap_filter]
  refine List.filterMap_congr fun e hmem => ?_
  cases hengine : e.event.isEngine with
  | true => simp [h e hmem]
  | false => simp [hf e.event hengine]

namespace Store

theorem replay_eq_foldl (store : Store) (es : List (Entry A)) :
    store.replay es = (es.filterMap fun e => e.event.accepted?).foldl Store.put store := by
  induction es generalizing store with
  | nil => rfl
  | cons entry es ih =>
    obtain ⟨depth, attempt, event⟩ := entry
    rw [replay_cons, ih]
    cases event with
    | saved record result => cases result <;> rfl
    | _ => rfl

/-- Accepted saves answer the tokens that the store issues, one after the other. -/
theorem Bears.tokens {store : Store} {es : List (Entry A)} (h : store.Bears es) :
    es.filterMap (fun e => e.event.token?) =
      (List.range' (store.saves + 1) (es.filterMap fun e => e.event.accepted?).length).map
        store.mint := by
  induction es generalizing store with
  | nil => rfl
  | cons entry es ih =>
    obtain ⟨depth, attempt, event⟩ := entry
    obtain ⟨hanswer, hrest⟩ := h
    have htokens := ih hrest
    cases event with
    | saved record result =>
      cases result with
      | ok token =>
        obtain ⟨-, rfl⟩ := hanswer
        exact congrArg (store.mint (store.saves + 1) :: ·) htokens
      | error error => exact htokens
    | _ => exact htokens

end Store

/-- What a turn did to the store and the outbox, told by its events. -/
structure Turn.Effects (turn : Turn A) : Prop where
  store : turn.after.store = (Sagas.accepted turn.events).foldl Store.put turn.before.store
  sent : turn.after.outbox.sent = turn.before.outbox.sent ++ turn.events.filterMap Event.message?
  tokens : turn.events.filterMap Event.token? =
    (List.range' (turn.before.store.saves + 1) (Sagas.accepted turn.events).length).map
      turn.before.store.mint

namespace Orchestrator

variable {orchestrator : Orchestrator A} {nesting : Nat} {request : Request A.Body} {w : World A}
  {turn : Turn A}

/-- **The effects of a turn** are those of its own events, where nothing is sent. -/
theorem turn_effects (hmemory : orchestrator.InMemory) (hsilent : orchestrator.Silent)
    (hmem : turn ∈ orchestrator.turns nesting request w) : turn.Effects := by
  obtain ⟨hreg, hw, hturn⟩ := turns_visits nesting request w turn hmem
  let visit : Visit A :=
    { orchestrator, send := orchestrator.below nesting, registration := turn.registration, request }
  have hregistered : visit.registration ∈ visit.orchestrator.directory.registrations := hreg
  have hafter : turn.after = (visit.dispatch.run turn.before).2 := congrArg Turn.after hturn.symm
  obtain ⟨es, hes, -⟩ := @Visit.dispatch_yields _ _ visit hmemory.law
    (below_sends hmemory.law nesting) hregistered turn.before hw
  obtain ⟨es', hhistory, -, hlevel⟩ :=
    @Visit.dispatch_level _ visit hsilent hregistered turn.before
  obtain rfl : es = es' := List.append_cancel_left (hes.history.symm.trans hhistory)
  have hevents : turn.events = eventsAt turn.before.depth es :=
    Turn.events_eq (by rw [hafter, hes.history])
  -- notes and cancelled signals are no effects
  have haccepted : Sagas.accepted turn.events = es.filterMap fun e => e.event.accepted? := by
    rw [hevents]
    refine filterMap_eventsAt Event.accepted? (fun event hevent => ?_) hlevel
    cases event <;> first | rfl | cases hevent
  have hkept := hes.law
  rw [← hafter] at hkept
  refine ⟨?_, ?_, ?_⟩
  · rw [haccepted, hkept.store, Store.replay_eq_foldl]
  · rw [hkept.outbox, hevents, filterMap_eventsAt Event.message? (fun event hevent => ?_) hlevel]
    · rfl
    · cases event <;> first | rfl | cases hevent
  · rw [haccepted, hevents, filterMap_eventsAt Event.token? (fun event hevent => ?_) hlevel]
    · exact hkept.bears.tokens
    · cases event <;> first | rfl | cases hevent

end Orchestrator

/-! ## Simulated sagas -/

theorem Factories.resolve_steady (factories : Factories) (saga : SagaType) :
    (factories.resolve (A := A) saga).Steady := by
  unfold resolve
  split
  · trivial
  · exact fun _ => trivial
  · trivial

namespace Simulation

/-- Whether an act neither sends nor cancels anything. -/
def Act.isSteady : Act → Bool
  | .send _ | .sendOrFail _ | .cancel => false
  | .first _ act => act.isSteady
  | _ => true

/-- Whether all acts of a saga are such acts. -/
def SagaSpec.isSteady (spec : SagaSpec) : Bool :=
  (spec.created.getD []).all Act.isSteady &&
    spec.scripts.all fun (_, script) => script.acts.all Act.isSteady

theorem Act.perform_steady (setting : Setting) (act : Act) (h : act.isSteady = true)
    (state : State) : ((act.perform setting).run.run state).Steady := by
  induction act with
  | setToken name => exact fun env => trivial
  | first count act ih =>
    unfold perform
    split
    · exact ih h
    · trivial
  | idFrom source => cases source <;> trivial
  | check =>
    intro flag
    cases flag <;> trivial
  | observe => exact fun env flag => trivial
  | send | sendOrFail | cancel => cases h
  | _ => trivial

theorem performAll_steady (setting : Setting) {acts : List Act}
    (h : acts.all Act.isSteady = true) : (performAll setting acts).Steady := by
  -- by induction on the acts, up to the first error
  have hacts : ∀ acts : List Act, acts.all Act.isSteady = true → ∀ state : State,
      ((acts.forM (Act.perform setting)).run.run state).Steady := by
    intro acts h
    induction acts with
    | nil => exact fun state => trivial
    | cons act acts ih =>
      simp only [List.all_cons, Bool.and_eq_true] at h
      intro state
      refine (act.perform_steady setting h.1 state).bind fun p => ?_
      obtain ⟨result, left⟩ := p
      cases result with
      | ok value => exact ih h.2 left
      | error fault => trivial
  exact (hacts acts h _).bind fun _ => trivial

variable {spec : SagaSpec} {registration : Registration Scripted}

/-- **A simulated saga is steady** if all of its acts are. -/
theorem steady_of_spec (hspec : spec.isSteady = true)
    (h : Registration.build spec.toSaga = .ok registration) :
    (∀ runner context, (registration.saga.onCreated runner context).Steady) ∧
      ∀ message stage handler, registration.handler? message = some (stage, handler) →
        ∀ runner context, (handler runner context).Steady := by
  obtain ⟨hsaga, -⟩ := Registration.build_eq_ok h
  simp only [SagaSpec.isSteady, Bool.and_eq_true] at hspec
  refine ⟨?_, ?_⟩
  · rw [hsaga]
    have hcreated : (spec.created.getD [.idFrom .id]).all Act.isSteady = true := by
      cases hsome : spec.created with
      | none => rfl
      | some acts => simpa [hsome] using hspec.1
    exact fun runner context => performAll_steady _ hcreated
  · intro message stage handler hhandler runner context
    have hacts : ((Table.find? message spec.scripts).getD ⟨[], []⟩).acts.all Act.isSteady =
        true := by
      cases hscript : Table.find? message spec.scripts with
      | none => rfl
      | some script => exact List.all_eq_true.1 hspec.2 _ (Table.mem_of_find? hscript)
    obtain ⟨-, rfl⟩ := declared_of_handler h hhandler
    -- the run is counted and noted, and then the acts are performed
    refine fun env _ => (performAll_steady _ hacts).bind fun p => ?_
    obtain ⟨left, result⟩ := p
    cases result <;> trivial

theorem pair_registered {name : String}
    (h : registration ∈ (pair name).directory.registrations) :
    Registration.build firstSpec.toSaga = .ok registration ∨
      Registration.build (secondSpec name).toSaga = .ok registration := by
  rcases Directory.mem_register h with hbefore | hbuilt
  · rcases Directory.mem_register hbefore with hnone | hbuilt
    · cases hnone
    · exact .inl hbuilt
  · exact .inr hbuilt

theorem pair_steady {name : String}
    (h : registration ∈ (pair name).directory.registrations) :
    (∀ runner context, (registration.saga.onCreated runner context).Steady) ∧
      ∀ message stage handler, registration.handler? message = some (stage, handler) →
        ∀ runner context, (handler runner context).Steady := by
  rcases pair_registered h with hbuilt | hbuilt
  · exact steady_of_spec rfl hbuilt
  · exact steady_of_spec rfl hbuilt

theorem pair_silent (name : String) : (pair name).Silent where
  hooks _ hmem runner context := ((pair_steady hmem).1 runner context).sendsNothing
  handlers _ hmem message stage handler hhandler runner context :=
    ((pair_steady hmem).2 message stage handler hhandler runner context).sendsNothing
  wrappers _ hmem := by cases hmem
  resolver saga := (Factories.resolve_steady _ saga).sendsNothing

end Simulation

end Sagas
