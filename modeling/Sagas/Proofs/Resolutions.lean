import Sagas.Proofs.Compositional
import Sagas.Proofs.Errors
import Sagas.Proofs.Provision
import Sagas.Proofs.Reruns

/-!
# Instances from a table of factories

What the engine gets when its resolver is a table of factories. The table is asked in every attempt
that comes so far, also in those of nested deliveries, and every answer is what the registrations
make it.

* `Provided`: a part of a run whose resolutions the table has answered. Where no gateway takes
  instances back, those that were built for it have increasing serial numbers.
* `Visit.dispatch_provides`, `Orchestrator.below_provides`: a step, and by induction on the nesting
  every delivery, is provided for.
* `Trial.ResolvesOnce`: one attempt asks the table at most once, and what runs in it is the answer.
* `Visit.Supplied`: what follows for the step of a saga and its reruns.
* `Factories.right_instance`: the table and the engine together.
-/

namespace Sagas

variable {A : Application} {α β : Type} {supplies : List Supply} {gateways : Gateways A}

/-- Whether an event resolves nothing, and enters a handler only in the instance that was
answered. -/
def Event.RunsIn (answer : Except Fault Instance) : Event A → Prop
  | .resolved .. => False
  | .handled _ runner _ => answer = .ok runner
  | _ => True

/-- The serial number of an instance that was built for the event. -/
def Event.built? (supplies : List Supply) : Event A → Option Nat
  | .resolved saga (.ok runner) =>
    match lastFor? saga supplies with
    | some (.fresh _) => some runner.serial
    | _ => none
  | _ => none

/-- The serial numbers of the instances that were built meanwhile. -/
def builtIn (supplies : List Supply) (entries : List (Entry A)) : List Nat :=
  entries.filterMap fun entry => entry.event.built? supplies

/-- The resolver is the table after some registrations. -/
def Orchestrator.ResolvesBy (orchestrator : Orchestrator A) (supplies : List Supply) : Prop :=
  orchestrator.gateways.resolve = (Factories.after supplies).resolve

/-- No call of a gateway takes back that an instance was made. -/
structure Gateways.KeepInstances (gateways : Gateways A) : Prop where
  load : ∀ key signal resources,
    resources.instances ≤ (gateways.load key signal resources).2.instances
  save : ∀ record signal resources,
    resources.instances ≤ (gateways.save record signal resources).2.instances
  publish : ∀ outgoing signal resources,
    resources.instances ≤ (gateways.publish outgoing signal resources).2.instances

theorem Gateways.keepInstances_inMemory (resolve : SagaType → Program A (Except Fault Instance)) :
    (Gateways.inMemory resolve).KeepInstances :=
  ⟨fun _ _ _ => Nat.le_refl _, fun _ _ _ => Nat.le_refl _, fun _ _ _ => Nat.le_refl _⟩

/-! ## Parts of a run -/

/-- The instances that were built meanwhile are new, each later one after the earlier ones. -/
structure BuildsAnew (supplies : List Supply) (w : World A) (es : List (Entry A)) (w' : World A) :
    Prop where
  instances : w.instances ≤ w'.instances
  increasing : (builtIn supplies es).Pairwise (· < ·)
  range : ∀ serial ∈ builtIn supplies es, w.instances ≤ serial ∧ serial < w'.instances

/-- **A part of a run whose resolutions were answered by the table.** -/
structure Provided (gateways : Gateways A) (supplies : List Supply) (w : World A)
    (es : List (Entry A)) (w' : World A) : Prop where
  history : w'.history = w.history ++ es
  answers : ∀ e ∈ es, ∀ saga answer, e.event = .resolved saga answer →
    ∃ next last, HandsOut supplies saga next answer last
  anew : gateways.KeepInstances → BuildsAnew supplies w es w'

/-- A computation whose resolutions are answered by the table. -/
def Provides (gateways : Gateways A) (supplies : List Supply) (run : Run A α) : Prop :=
  ∀ w, ∃ es, Provided gateways supplies w es (run w).2

variable {w w' w'' : World A} {es es' : List (Entry A)}

theorem BuildsAnew.trans (h : BuildsAnew supplies w es w') (h' : BuildsAnew supplies w' es' w'') :
    BuildsAnew supplies w (es ++ es') w'' := by
  have hsplit : builtIn supplies (es ++ es') = builtIn supplies es ++ builtIn supplies es' :=
    List.filterMap_append
  have hfirst := h.instances
  have hsecond := h'.instances
  refine ⟨by omega, ?_, fun serial hmem => ?_⟩
  · rw [hsplit, List.pairwise_append]
    refine ⟨h.increasing, h'.increasing, fun serial hmem serial' hmem' => ?_⟩
    have hlt := (h.range serial hmem).2
    have hle := (h'.range serial' hmem').1
    omega
  · rw [hsplit, List.mem_append] at hmem
    rcases hmem with hmem | hmem
    · have hrange := h.range serial hmem
      omega
    · have hrange := h'.range serial hmem
      omega

namespace Provided

theorem quiet (hjournal : w'.journal = w.journal)
    (hinstances : gateways.KeepInstances → w.instances ≤ w'.instances) :
    Provided gateways supplies w [] w' := by
  refine ⟨by simp [World.history, hjournal], by simp, fun hkeep => ?_⟩
  exact ⟨hinstances hkeep, .nil, by simp [builtIn]⟩

theorem trans (h : Provided gateways supplies w es w')
    (h' : Provided gateways supplies w' es' w'') :
    Provided gateways supplies w (es ++ es') w'' := by
  refine ⟨by rw [h'.history, h.history, List.append_assoc], fun e hmem => ?_,
    fun hkeep => (h.anew hkeep).trans (h'.anew hkeep)⟩
  rcases List.mem_append.1 hmem with hmem | hmem
  · exact h.answers e hmem
  · exact h'.answers e hmem

/-- An entry that is no answer of the resolver. -/
theorem record (w : World A) {event : Event A} (hevent : event.isResolution = false) :
    Provided gateways supplies w [w.entry event] (w.logged event) := by
  refine ⟨history_logged w event, ?_, fun _ => ?_⟩
  · intro e hmem saga answer hanswer
    rw [List.mem_singleton.1 hmem] at hanswer
    have heq : event = .resolved saga answer := hanswer
    rw [heq] at hevent
    cases hevent
  · have hnone : builtIn supplies [w.entry event] = [] := by
      cases event with
      | resolved => cases hevent
      | _ => rfl
    exact ⟨Nat.le_refl _, by rw [hnone]; exact .nil, by simp [hnone]⟩

/-- **An answer of the table**, in the world that it has left. -/
theorem resolved {saga : SagaType} {answer : Except Fault Instance} {last : Nat}
    (h : HandsOut supplies saga w.instances answer last) :
    Provided gateways supplies w [World.entry { w with instances := last } (.resolved saga answer)]
      (World.logged { w with instances := last } (.resolved saga answer)) := by
  refine ⟨history_logged { w with instances := last } _, ?_, fun _ => ?_⟩
  · intro e hmem other answer' hevent
    rw [List.mem_singleton.1 hmem] at hevent
    obtain ⟨rfl, rfl⟩ := Event.resolved.inj hevent
    exact ⟨_, _, h⟩
  · have hbuilt : builtIn supplies
          [World.entry { w with instances := last } (.resolved saga answer)] = [] ∨
        builtIn supplies [World.entry { w with instances := last } (.resolved saga answer)] =
          [w.instances] ∧ last = w.instances + 1 := by
      cases h with
      | missing => exact .inl rfl
      | built hlast => exact .inr ⟨by simp [builtIn, Event.built?, World.entry, hlast], rfl⟩
      | shared hlast => exact .inl (by simp [builtIn, Event.built?, World.entry, hlast])
    rcases hbuilt with hnone | ⟨hone, hlast⟩
    · exact ⟨h.le, by rw [hnone]; exact .nil, by simp [hnone]⟩
    · refine ⟨h.le, by rw [hone]; exact List.pairwise_singleton _ _, fun serial hmem => ?_⟩
      rw [hone, List.mem_singleton] at hmem
      change w.instances ≤ serial ∧ serial < last
      omega

end Provided

namespace Provides

theorem quiet {run : Run A α} (hjournal : ∀ w, (run w).2.journal = w.journal)
    (hinstances : gateways.KeepInstances → ∀ w, w.instances ≤ (run w).2.instances) :
    Provides gateways supplies run :=
  fun w => ⟨[], .quiet (hjournal w) fun hkeep => hinstances hkeep w⟩

/-- What touches neither the history nor the resources. -/
theorem still {run : Run A α} (hjournal : ∀ w, (run w).2.journal = w.journal)
    (hinstances : ∀ w, (run w).2.instances = w.instances) : Provides gateways supplies run :=
  quiet hjournal fun _ w => Nat.le_of_eq (hinstances w).symm

theorem bind {x : Run A α} {f : α → Run A β} (hx : Provides gateways supplies x)
    (hf : ∀ a, Provides gateways supplies (f a)) : Provides gateways supplies (x >>= f) := by
  intro w
  obtain ⟨es, hes⟩ := hx w
  obtain ⟨es', hes'⟩ := hf (x w).1 (x w).2
  rw [Run.bind_apply]
  exact ⟨es ++ es', hes.trans hes'⟩

/-- A call on the resources leaves the history alone and takes no instance back. -/
theorem onResources {call : StateM (Resources A) α} (hcall : ResourceCall gateways call) :
    Provides gateways supplies (World.onResources call) := by
  refine quiet (fun _ => rfl) fun hkeep w => ?_
  cases hcall with
  | update | issue | cancel => exact Nat.le_refl _
  | draw => exact Nat.le_succ _
  | load key signal => exact hkeep.load key signal w.toResources
  | save record signal => exact hkeep.save record signal w.toResources
  | publish outgoing signal => exact hkeep.publish outgoing signal w.toResources

theorem stepwise : StepwiseOver gateways (Provides (A := A) gateways supplies) where
  pure _ := .still (fun _ => rfl) fun _ => rfl
  bind := bind
  read := .still (fun _ => rfl) fun _ => rfl
  record _ hevent w := ⟨_, .record w hevent⟩
  onResources := onResources
  beginAttempt := .still (fun _ => rfl) fun _ => rfl
  emit _ _ := .still (fun _ => rfl) fun _ => rfl

theorem count (metrics : List Metric) :
    Provides gateways supplies (World.count (A := A) metrics) :=
  .still (fun _ => rfl) fun _ => rfl

theorem nested {send : Request A.Body → Run A Answer}
    (hsend : ∀ request, Provides gateways supplies (send request)) (request : Request A.Body) :
    Provides gateways supplies (World.nested (send request)) := by
  intro w
  obtain ⟨es, hes⟩ := hsend request { w with depth := w.depth + 1 }
  exact ⟨es, hes.history, hes.answers, fun hkeep => ⟨(hes.anew hkeep).instances,
    (hes.anew hkeep).increasing, (hes.anew hkeep).range⟩⟩

end Provides

/-! ## The engine -/

namespace Visit

variable {visit : Visit A} (hresolver : visit.orchestrator.ResolvesBy supplies)
include hresolver

/-- **An instance for a step** comes from the table. -/
theorem resolve_provides :
    Provides visit.orchestrator.gateways supplies visit.resolve.run := by
  intro w
  obtain ⟨answer, last, hrun, hhands⟩ :=
    Factories.resolve_handsOut visit.send supplies visit.saga.type w
  rw [← hresolver] at hrun
  have hresolve : (visit.resolve.run w).2 =
      World.logged { w with instances := last } (.resolved visit.saga.type answer) := by
    change World.logged ((visit.orchestrator.gateways.resolve visit.saga.type).run visit.send w).2
      (.resolved visit.saga.type _) = _
    rw [hrun]
  rw [hresolve]
  exact ⟨_, .resolved hhands⟩

variable (hsend : ∀ request,
  Provides visit.orchestrator.gateways supplies (visit.send request))
include hsend

omit hresolver in
theorem execute_provides (stage : Stage) (handler : Handler A) (runner : Instance) (key : Key)
    (state : A.State) : Provides visit.orchestrator.gateways supplies
      (visit.execute stage handler runner key state).run :=
  Provides.stepwise.execute (fun metrics _ => .count metrics)
    (fun _ => Provides.stepwise.program (.nested hsend) _)
    (fun _ _ hwork => Provides.stepwise.chain (fun metrics _ => .count metrics) (.nested hsend)
      hwork _) stage key state

theorem attempts_provides (stage : Stage) (handler : Handler A) (key : Key) (reruns made : Nat) :
    Provides visit.orchestrator.gateways supplies
      (visit.attempts stage handler key reruns made).run :=
  Provides.stepwise.attempts
    (Provides.stepwise.advanceOnce (resolve_provides hresolver) fun _ _ =>
      execute_provides hsend _ _ _ _ _)
    (.count _) (fun _ => .still (fun _ => rfl) fun _ => rfl) reruns made

theorem create_provides (handler : Handler A) :
    Provides visit.orchestrator.gateways supplies (visit.create handler).run :=
  Provides.stepwise.create (resolve_provides hresolver)
    (fun _ => Provides.stepwise.program (.nested hsend) _) fun _ _ _ =>
      execute_provides hsend _ _ _ _ _

/-- **The step of one saga** is provided for. -/
theorem dispatch_provides :
    Provides visit.orchestrator.gateways supplies visit.dispatch.run :=
  Provides.stepwise.dispatch (fun handler _ => create_provides hresolver hsend handler)
    fun stage handler _ key reruns => attempts_provides hresolver hsend stage handler key reruns 0

end Visit

/-- **Every delivery** is provided for, by induction on the nesting. -/
theorem Orchestrator.below_provides {orchestrator : Orchestrator A}
    (hresolver : orchestrator.ResolvesBy supplies) (nesting : Nat) (request : Request A.Body) :
    Provides orchestrator.gateways supplies (orchestrator.below nesting request) := by
  induction nesting generalizing request with
  | zero => exact .still (fun _ => rfl) fun _ => rfl
  | succ nesting ih =>
    change Provides orchestrator.gateways supplies (orchestrator.deliver nesting request)
    rw [deliver_eq]
    refine Provides.stepwise.handleWith (.still (fun _ => rfl) fun _ => rfl) (.count _)
      (fun _ _ => .still (fun _ => rfl) fun _ => rfl) ?_
    intro registration
    let visit : Visit A :=
      { orchestrator, send := orchestrator.below nesting, registration, request }
    have hdispatch : Provides visit.orchestrator.gateways supplies visit.dispatch.run :=
      Visit.dispatch_provides hresolver ih
    exact hdispatch

/-! ## Errors -/

/-- With an answer of the table, it never matters that an instance could be one of another type. -/
theorem HandsOut.checkInstance {saga : SagaType} {next last : Nat}
    {answer : Except Fault Instance} (h : HandsOut supplies saga next answer last) :
    Visit.checkInstance saga answer = answer.mapError (.resolution saga.name) := by
  cases answer with
  | error fault => rfl
  | ok runner => exact if_pos h.type_eq

/-- An error of resolution tells that nothing was registered. -/
theorem HandsOut.missing_of_error {saga : SagaType} {next last : Nat} {name : String}
    {source : Fault} {answer : Except Fault Instance} (h : HandsOut supplies saga next answer last)
    (herror : Visit.checkInstance saga answer = .error (.resolution name source)) :
    (∀ supply ∈ supplies, supply.saga.id ≠ saga.id) ∧ name = saga.name ∧
      source = missingFactory saga := by
  rw [h.checkInstance] at herror
  cases answer with
  | ok runner => cases herror
  | error fault =>
    obtain ⟨rfl, rfl⟩ := SagaError.resolution.inj (Except.error.inj herror)
    exact ⟨h.error_iff.1 ⟨_, rfl⟩, rfl, h.eq_missing⟩

namespace Visit

variable {visit : Visit A} {stage : Stage} {handler : Handler A} {runner : Instance} {key : Key}
  {state : A.State} {step : StepInfo} {events : List (Event A)} {error : SagaError}
  {name : String} {source : Fault}

theorem Settles.ne_resolution {transition : Transition A.Body}
    (h : visit.Settles step state transition events (.error error)) :
    error ≠ .resolution name source := by
  cases h with
  | cancelled | unwritable | unpublished => simp
  | refused =>
    rename_i error _ _
    cases error <;> simp [SagaError.ofStore]

theorem Executes.ne_resolution
    (h : visit.Executes stage handler runner key state events (.error error)) :
    error ≠ .resolution name source := by
  cases h with
  | cancelled | raised => simp
  | settled _ hsettles => exact hsettles.ne_resolution

/-- **An error of resolution** comes from what the resolver has answered to the step itself. -/
theorem Creates.answer_of_resolution
    (h : visit.Creates handler events (.error (.resolution name source))) :
    ∃ answer, .resolved visit.saga.type answer ∈ events ∧
      checkInstance visit.saga.type answer = .error (.resolution name source) := by
  generalize herror : SagaError.resolution name source = error at h
  cases h with
  | unresolved hanswer => exact ⟨_, List.mem_cons_self, hanswer⟩
  | executed _ _ _ hexecutes => exact absurd herror.symm hexecutes.ne_resolution
  | cancelled | raised | nameless => cases herror

theorem Advances.answer_of_resolution
    (h : visit.Advances stage handler key events (.error (.resolution name source))) :
    ∃ answer, .resolved visit.saga.type answer ∈ events ∧
      checkInstance visit.saga.type answer = .error (.resolution name source) := by
  generalize herror : SagaError.resolution name source = error at h
  cases h with
  | unresolved _ _ hanswer => exact ⟨_, List.mem_cons_of_mem _ List.mem_cons_self, hanswer⟩
  | executed _ _ _ hexecutes => exact absurd herror.symm hexecutes.ne_resolution
  | unreadable _ hstate =>
    obtain ⟨_, rfl⟩ := stateOf_eq_error hstate
    cases herror
  | unloaded =>
    rename_i error
    cases error <;> cases herror
  | cancelled | missing | terminated | abandoned => cases herror

end Visit

/-! ## Attempts -/

/-- **An attempt resolves anew.** Either it ends before it needs an instance, or it asks the
resolver once, right after its record was loaded, and the handler runs in that very instance. -/
inductive Visit.ResolvesOnce (visit : Visit A) (key : Key) : List (Event A) → Prop where
  | idle : ResolvesOnce visit key []
  | loaded {loaded} : ResolvesOnce visit key [.loaded key loaded]
  | resolved {record answer events} : (∀ event ∈ events, event.RunsIn answer) →
      ResolvesOnce visit key
        (.loaded key (.ok (some record)) :: .resolved visit.saga.type answer :: events)

namespace Visit

variable {visit : Visit A} {stage : Stage} {handler : Handler A} {runner : Instance} {key : Key}
  {state left : A.State} {step : StepInfo} {events : List (Event A)}
  {result : Except SagaError Settled}

theorem Works.runsIn {answer : HandlerResult A.Body}
    (h : visit.Works step runner handler state events answer left) :
    ∀ event ∈ events, event.RunsIn (.ok runner) := by
  cases h with
  | halted => simp
  | entered => exact List.forall_mem_singleton.2 rfl

theorem Settles.runsIn {transition : Transition A.Body} {answer : Except Fault Instance}
    (h : visit.Settles step state transition events result) :
    ∀ event ∈ events, event.RunsIn answer := by
  cases h with
  | redelivered | cancelled | unwritable => simp
  | refused | silent => exact List.forall_mem_singleton.2 trivial
  | published | unpublished =>
    exact List.forall_mem_cons.2 ⟨trivial, List.forall_mem_singleton.2 trivial⟩

theorem Executes.runsIn (h : visit.Executes stage handler runner key state events result) :
    ∀ event ∈ events, event.RunsIn (.ok runner) := by
  cases h with
  | cancelled => simp
  | raised hworks =>
    exact List.forall_mem_append.2 ⟨hworks.runsIn, List.forall_mem_singleton.2 trivial⟩
  | settled hworks hsettles =>
    exact List.forall_mem_append.2
      ⟨hworks.runsIn, List.forall_mem_cons.2 ⟨trivial, hsettles.runsIn⟩⟩

theorem Advances.resolvesOnce (h : visit.Advances stage handler key events result) :
    visit.ResolvesOnce key events := by
  cases h with
  | cancelled => exact .idle
  | unloaded | missing | terminated | unreadable | abandoned => exact .loaded
  | unresolved => exact .resolved (by simp)
  | executed _ _ _ hexecutes => exact .resolved hexecutes.runsIn

/-- **How a step comes by its instances**, with a resolver that is a table of factories. -/
structure Supplied (visit : Visit A) (supplies : List Supply) (w : World A) : Prop where
  /-- It ends in an error of resolution only if nothing was registered for its saga type. -/
  resolution : ∀ name source, (visit.turn w).result = .error (.resolution name source) →
    (∀ supply ∈ supplies, supply.saga.id ≠ visit.saga.type.id) ∧
      name = visit.sagaType ∧ source = missingFactory visit.saga.type
  /-- Whatever is resolved meanwhile, also for nested messages, is what the registrations make it,
  and never an instance of another type. -/
  answers : ∀ entry ∈ (visit.turn w).entries, ∀ saga answer, entry.event = .resolved saga answer →
    (∃ next last, HandsOut supplies saga next answer last) ∧
      checkInstance saga answer = answer.mapError (.resolution saga.name)
  /-- Every instance that is built meanwhile is a new one. -/
  anew : visit.orchestrator.gateways.KeepInstances →
    BuildsAnew supplies w (visit.turn w).entries (visit.turn w).after
  /-- Every attempt at a step, be it a rerun or not, resolves anew. -/
  attempts : ∀ stage handler key, ∀ trial ∈ visit.trials stage handler key w,
    visit.ResolvesOnce key trial.events
  /-- If new instances are built, a later attempt runs in another one. -/
  renewed : visit.orchestrator.gateways.KeepInstances →
    ∀ other, lastFor? visit.saga.type supplies = some (.fresh other) → ∀ stage handler key,
      (visit.trials stage handler key w).Pairwise fun trial next => ∀ runner runner',
        .resolved visit.saga.type (.ok runner) ∈ trial.events →
        .resolved visit.saga.type (.ok runner') ∈ next.events → runner.serial < runner'.serial
  /-- If an instance is shared, all attempts run in it. -/
  reused : ∀ other serial, lastFor? visit.saga.type supplies = some (.shared other serial) →
    ∀ stage handler key, ∀ trial ∈ visit.trials stage handler key w, ∀ answer,
      .resolved visit.saga.type answer ∈ trial.events →
        answer = .ok ⟨visit.saga.type.id, serial⟩

section

variable (hresolver : visit.orchestrator.ResolvesBy supplies)
  (hsends : Sends (fun _ => True) (fun _ _ _ => True) visit.send)
  (hsend : ∀ request, Provides visit.orchestrator.gateways supplies (visit.send request))
include hresolver hsends hsend

/-- The attempts, one after the other, are provided for. -/
theorem trials_provided (stage : Stage) (handler : Handler A) (key : Key) (w : World A) :
    ∃ w', Provided visit.orchestrator.gateways supplies w
      ((visit.trials stage handler key w).flatMap Trial.entries) w' := by
  obtain ⟨es, hes⟩ := attempts_provides hresolver hsend stage handler key
    visit.orchestrator.config.concurrencyRetries.toNat 0 w
  have hacross := attempts_across (Law.trivial _) hsends stage handler key (fun _ _ _ => trivial)
    visit.orchestrator.config.concurrencyRetries.toNat 0 w
  obtain rfl : es = _ := List.append_cancel_left (hes.history.symm.trans hacross.history)
  exact ⟨_, hes⟩

/-- What is resolved in an attempt is what the registrations make it. -/
theorem trial_handsOut {trial : Trial A} (hmem : trial ∈ visit.trials stage handler key w)
    {saga : SagaType} {answer : Except Fault Instance}
    (hevent : .resolved saga answer ∈ trial.events) :
    ∃ next last, HandsOut supplies saga next answer last := by
  obtain ⟨w', hprovided⟩ := trials_provided hresolver hsends hsend stage handler key w
  obtain ⟨entry, hentry, -, -, hresolved⟩ := mem_eventsAt.1 hevent
  exact hprovided.answers entry (List.mem_flatMap.2 ⟨trial, hmem, hentry⟩) saga answer hresolved

/-- The step of a new instance ends in an error of resolution only if nothing was registered. -/
theorem create_resolution {name : String} {source : Fault}
    (h : ((visit.create handler).run w).1 = .error (.resolution name source)) :
    (∀ supply ∈ supplies, supply.saga.id ≠ visit.saga.type.id) ∧
      name = visit.sagaType ∧ source = missingFactory visit.saga.type := by
  obtain ⟨es, hwithin, hcreates, -⟩ := create_within (Law.trivial _) hsends handler w
  obtain ⟨es', hprovided⟩ := create_provides hresolver hsend handler w
  obtain rfl : es = es' := List.append_cancel_left (hwithin.history.symm.trans hprovided.history)
  rw [h] at hcreates
  obtain ⟨answer, hmem, herror⟩ := hcreates.answer_of_resolution
  obtain ⟨entry, hentry, -, -, hresolved⟩ := mem_eventsAt.1 hmem
  obtain ⟨_, _, hhands⟩ := hprovided.answers entry hentry _ _ hresolved
  exact hhands.missing_of_error herror

/-- So does an attempt at the step of a stored one. -/
theorem trial_resolution {trial : Trial A} (hmem : trial ∈ visit.trials stage handler key w)
    {name : String} {source : Fault} (h : trial.result = .error (.resolution name source)) :
    (∀ supply ∈ supplies, supply.saga.id ≠ visit.saga.type.id) ∧
      name = visit.sagaType ∧ source = missingFactory visit.saga.type := by
  obtain ⟨-, hadvances, -⟩ := trial_within (Law.trivial _) hsends stage handler key trial.before
  rw [trial_of_mem hmem, h] at hadvances
  obtain ⟨answer, hanswer, herror⟩ := hadvances.answer_of_resolution
  obtain ⟨_, _, hhands⟩ := trial_handsOut hresolver hsends hsend hmem hanswer
  exact hhands.missing_of_error herror

theorem turn_resolution {name : String} {source : Fault}
    (h : (visit.turn w).result = .error (.resolution name source)) :
    (∀ supply ∈ supplies, supply.saga.id ≠ visit.saga.type.id) ∧
      name = visit.sagaType ∧ source = missingFactory visit.saga.type := by
  change (visit.dispatch.run w).1 = _ at h
  cases hcase : visit.registration.handler? visit.request.message.type with
  | none =>
    rw [dispatch_of_none hcase] at h
    cases h
  | some found =>
    obtain ⟨stage, handler⟩ := found
    by_cases hstage : stage = .start
    · subst hstage
      rw [dispatch_run_of_start visit hcase] at h
      have hcreated : Except.error (SagaError.resolution name source) = _ := map_some_inj h.symm
      exact create_resolution hresolver hsends hsend hcreated.symm
    · cases hid : visit.registration.correlate visit.request.message with
      | error error =>
        rw [dispatch_run_of_uncorrelated hstage hcase hid] at h
        unfold Registration.correlate at hid
        split at hid
        · cases hid
        · rw [← Except.error.inj hid] at h
          cases h
      | ok sagaId =>
        obtain ⟨earlier, last, htrials, -, hrun⟩ := dispatch_run_of_stage hstage hcase hid w
        rw [hrun] at h
        have hended : Except.error (SagaError.resolution name source) = last.result :=
          map_some_inj h.symm
        have hlast : last ∈ visit.trials stage handler ⟨visit.sagaType, sagaId⟩ w := by
          rw [htrials]
          exact List.mem_append_right _ (List.mem_singleton_self _)
        exact trial_resolution hresolver hsends hsend hlast hended.symm

/-- **The step of a saga** comes by its instances as told. -/
theorem supplied (w : World A) : visit.Supplied supplies w := by
  obtain ⟨es, hes⟩ := dispatch_provides hresolver hsend w
  have hentries : (visit.turn w).entries = es := Turn.entries_eq hes.history
  refine ⟨fun name source => turn_resolution hresolver hsends hsend, ?_, ?_, ?_, ?_, ?_⟩
  · intro entry hmem saga answer hevent
    obtain ⟨next, last, hhands⟩ := hes.answers entry (hentries ▸ hmem) saga answer hevent
    exact ⟨⟨next, last, hhands⟩, hhands.checkInstance⟩
  · intro hkeep
    rw [hentries]
    exact hes.anew hkeep
  · intro stage handler key trial hmem
    obtain ⟨-, hadvances, -⟩ := trial_within (Law.trivial _) hsends stage handler key trial.before
    rw [trial_of_mem hmem] at hadvances
    exact hadvances.resolvesOnce
  · intro hkeep other hlast stage handler key
    obtain ⟨w', hprovided⟩ := trials_provided hresolver hsends hsend stage handler key w
    have hincreasing := (hprovided.anew hkeep).increasing
    rw [builtIn, List.filterMap_flatMap, List.pairwise_flatMap] at hincreasing
    have hbuilt : ∀ {trial : Trial A} {runner : Instance},
        .resolved visit.saga.type (.ok runner) ∈ trial.events →
        runner.serial ∈ builtIn supplies trial.entries := by
      intro trial runner hmem
      obtain ⟨entry, hentry, -, -, hevent⟩ := mem_eventsAt.1 hmem
      exact List.mem_filterMap.2 ⟨entry, hentry, by simp [hevent, Event.built?, hlast]⟩
    refine hincreasing.2.imp fun hlt runner runner' hmem hmem' => ?_
    exact hlt runner.serial (hbuilt hmem) runner'.serial (hbuilt hmem')
  · intro other serial hlast stage handler key trial hmem answer hevent
    obtain ⟨next, last, hhands⟩ := trial_handsOut hresolver hsends hsend hmem hevent
    cases hhands with
    | missing hnone =>
      rw [hlast] at hnone
      cases hnone
    | built hfresh =>
      rw [hlast] at hfresh
      cases hfresh
    | shared hshared =>
      rw [hlast] at hshared
      rw [(Supply.shared.inj (Option.some.inj hshared)).2]

end

end Visit

/-! ## The table and the engine -/

/-- **What a table of factories answers**, used from empty on. -/
structure Factories.Answers (send : Request A.Body → Run A Answer) (uses : List Use) (w : World A)
    (answers : List (Except Fault Instance)) (last : Nat) : Prop where
  /-- Resolutions change nothing but the number of instances made. -/
  run : (Factories.serve uses []).run send w = (answers, { w with instances := last })
  /-- They are answered one after the other, each from the registrations before it. -/
  serves : Serves [] w.instances uses answers last
  /-- Each one answers what the last registration for its saga type makes it: the instance that is
  shared, or one with the number that comes next. It fails exactly if there is no registration. -/
  each : ∀ earlier saga later, uses = earlier ++ .resolve saga :: later →
    ∃ before answer after middle middle', answers = before ++ answer :: after ∧
      Serves [] w.instances earlier before middle ∧
      HandsOut (earlier.filterMap Use.supply?) saga middle answer middle' ∧
      ((∃ fault, answer = .error fault) ↔
        ∀ supply ∈ earlier.filterMap Use.supply?, supply.saga.id ≠ saga.id)
  /-- Registrations for other saga types are no matter. -/
  others : ∀ supplies saga, ((Factories.after supplies).resolve saga :
    Program A (Except Fault Instance)) =
      (Factories.after (supplies.filter fun supply => supply.saga.id = saga.id)).resolve saga

/-- **The table hands out the right instance**, for all registrations and resolutions in any order;
and so every step of an engine with such a table comes by its instances as told, for all messages,
programs, gateways and worlds. -/
theorem Factories.right_instance (A : Application) :
    (∀ (send : Request A.Body → Run A Answer) (uses : List Use) (w : World A),
      ∃ answers last, Factories.Answers send uses w answers last) ∧
    ∀ (supplies : List Supply) (orchestrator : Orchestrator A), orchestrator.ResolvesBy supplies →
      ∀ nesting registration request w,
        Visit.Supplied { orchestrator, send := orchestrator.below nesting, registration, request }
          supplies w := by
  constructor
  · intro send uses w
    obtain ⟨answers, last, hrun, hserves⟩ := Factories.serve_serves send uses [] w
    refine ⟨answers, last, hrun, hserves, ?_, fun supplies saga =>
      (Factories.resolve_filter supplies saga).symm⟩
    rintro earlier saga later rfl
    obtain ⟨before, answer, after, middle, middle', hanswers, hbefore, hhands, -⟩ := hserves.cut
    rw [List.nil_append] at hhands
    exact ⟨before, answer, after, middle, middle', hanswers, hbefore, hhands, hhands.error_iff⟩
  · intro supplies orchestrator hresolver nesting registration request w
    exact Visit.supplied hresolver (orchestrator.below_free (Law.trivial _) nesting)
      (orchestrator.below_provides hresolver nesting) w

open Simulation in
/-- A table whose registrations change between its resolutions; and a counter that is added to in
two attempts, each in an instance of its own. -/
theorem Factories.right_instance_counters :
    let counter := counterSpec.type
    let uses : List Use := [.resolve counter, .supply (.fresh counter), .resolve counter,
      .resolve counter, .supply (.fresh ⟨9, "Other"⟩), .supply (.shared counter 7),
      .resolve counter, .resolve counter]
    let w := counters.follow (counterMoves.take 1) (World.ofResources emptyBench)
    let visit : Visit Scripted := {
      orchestrator := counters
      send := counters.below 2
      registration := .ofSaga counterSpec.toSaga
      request := requestTo addToCounter }
    (∃ answers last, Factories.Answers (counters.below 2) uses w answers last ∧
      answers = [.error (missingFactory counter), .ok ⟨1, 1⟩, .ok ⟨1, 2⟩, .ok ⟨1, 7⟩,
        .ok ⟨1, 7⟩]) ∧
    counters.ResolvesBy [.fresh counter] ∧ counters.gateways.KeepInstances ∧
      lastFor? visit.saga.type [.fresh counter] = some (.fresh counter) ∧
      (visit.trials .step (counterSpec.handler addToCounter.type) ⟨"Counter", "c"⟩ w).map
        (fun trial => trial.events.filterMap (Event.built? [.fresh counter])) = [[1], [3]] ∧
      visit.Supplied [.fresh counter] w := by
  intro counter uses w visit
  have hright := Factories.right_instance Scripted
  have hresolver : counters.ResolvesBy [.fresh counter] := rfl
  obtain ⟨answers, last, hanswers⟩ := hright.1 (counters.below 2) uses w
  refine ⟨⟨answers, last, hanswers, ?_⟩, hresolver, Gateways.keepInstances_inMemory _, rfl,
    by decide +kernel, hright.2 _ counters hresolver 2 _ _ w⟩
  exact (congrArg Prod.fst hanswers.run).symm.trans (by decide +kernel)

end Sagas
