import Sagas.Proofs.Silence

/-!
# Programs that are functions

What a program answers may depend on everything that it finds in its world. The programs here
depend on nothing but what they get to see: a handler or a creation hook on its context, a wrapper
on the step and on the result that it wraps. Tokens are for the engine only; such programs neither
read nor set them.

* `Program.EndsUnder`, `Program.AlwaysEnds`: programs that end in one value.
* `Registration.Functional`, `Wrapper.Functional`, `Orchestrator.Functional`: programs that are
  functions, and have nothing to do with tokens.
* `Registration.Touches`, `Orchestrator.Touches`: the instances that a message is for.
* `Simulation.functional_of_spec`, `Simulation.pair_disjoint`: simulated sagas whose handlers only
  reply.
-/

namespace Sagas

variable {A : Application} {α : Type}

/-! ## Programs that are functions -/

/-- Ends in a value wherever a signal is not cancelled. -/
def Program.EndsUnder (signal : Signal) (program : Program A α) (value : α) : Prop :=
  ∀ send w, w.signals.isCancelled signal = false → (program.run send w).1 = value

/-- Ends in a value wherever it runs. -/
def Program.AlwaysEnds (program : Program A α) (value : α) : Prop :=
  ∀ send w, (program.run send w).1 = value

namespace Saga

/-- A function of contexts that neither sets the token of a state nor reads it. -/
structure TokenFree (saga : Saga A) (f : Context A → A.State × α) : Prop where
  sets : ∀ context, saga.tokenOf (f context).1 = saga.tokenOf context.state
  reads : ∀ context token,
    f { context with state := saga.withToken token context.state } =
      (saga.withToken token (f context).1, (f context).2)

/-- A program of contexts that sends nothing, cancels nothing, and is a function of its context
that has nothing to do with tokens. -/
structure Functional (saga : Saga A)
    (program : Instance → Context A → Program A (A.State × α)) : Prop where
  steady : ∀ runner context, (program runner context).Steady
  ends : ∃ f, saga.TokenFree f ∧
    ∀ runner context, (program runner context).EndsUnder context.signal (f context)

/-- States that keep their token to themselves: a new one has none, one that is loaded keeps the
token that it is given, or drops any, and none is stored. -/
structure TokensApart (saga : Saga A) : Prop where
  initial : saga.tokenOf saga.initial = none
  given : ∀ json state, saga.decode json = .ok state →
    (∀ token, saga.tokenOf (saga.withToken token state) = token) ∨
      ∀ token, saga.tokenOf (saga.withToken token state) = none
  stored : ∀ token state, saga.encode (saga.withToken token state) = saga.encode state

end Saga

/-- The programs of a saga are functions. -/
structure Registration.Functional (registration : Registration A) : Prop where
  tokens : registration.saga.TokensApart
  hook : registration.saga.Functional registration.saga.onCreated
  handlers : ∀ message stage handler, registration.handler? message = some (stage, handler) →
    registration.saga.Functional handler

/-- What a wrapper does once its first part has run is a function of the result. -/
def Around.Functional : Around A → Prop
  | .halt _ => True
  | .enclose after => ∀ result, (after result).Steady ∧ ∃ answer, (after result).AlwaysEnds answer

/-- A wrapper is a function of the step and of the result that it wraps. -/
def Wrapper.Functional : Wrapper A → Prop
  | .tracing | .metrics => True
  | .custom before => ∀ step, (before step).Steady ∧
    ∃ around, (before step).AlwaysEnds around ∧ around.Functional

/-- The gateways are those in memory, with a table of factories. -/
def Gateways.FromFactories (gateways : Gateways A) : Prop :=
  ∃ factories, gateways = .inMemory (Factories.resolve factories)

/-- All programs that an orchestrator runs are functions. -/
structure Orchestrator.Functional (orchestrator : Orchestrator A) : Prop where
  sagas : ∀ registration ∈ orchestrator.directory.registrations, registration.Functional
  wrappers : ∀ wrapper ∈ orchestrator.chain, wrapper.Functional
  gateways : orchestrator.gateways.FromFactories

/-! ## What a message touches -/

/-- What the creation hook of a saga gets to see. -/
def Registration.opening (registration : Registration A) (request : Request A.Body) :
    Context A where
  key := ⟨registration.saga.type.name, ""⟩
  state := registration.saga.initial
  message := request.message
  correlation := request.correlation
  causation := request.causation
  signal := request.signal

/-- The instance of a saga that a message is for: the one that the creation hook names, or the one
that the message belongs to. -/
inductive Registration.Touches (registration : Registration A) (request : Request A.Body) :
    Key → Prop where
  | created {handler : Handler A} {runner : Instance} {left : A.State} :
      registration.handler? request.message.type = some (.start, handler) →
      (registration.saga.onCreated runner (registration.opening request)).EndsUnder request.signal
        (left, .ok ()) →
      registration.saga.idOf left ≠ "" →
      Touches registration request ⟨registration.saga.type.name, registration.saga.idOf left⟩
  | correlated {stage : Stage} {handler : Handler A} {sagaId : String} :
      registration.handler? request.message.type = some (stage, handler) → stage ≠ .start →
      registration.correlate request.message = .ok sagaId →
      Touches registration request ⟨registration.saga.type.name, sagaId⟩

/-- The instances that a message is for. -/
def Orchestrator.Touches (orchestrator : Orchestrator A) (request : Request A.Body)
    (key : Key) : Prop :=
  ∃ registrations, orchestrator.selected request = .ok registrations ∧
    ∃ registration ∈ registrations, registration.Touches request key

/-! ## Simulated sagas -/

namespace Simulation

variable {spec : SagaSpec} {registration : Registration Scripted}

/-- Whether a saga takes its ids from its messages, and each of its handlers does nothing but
reply, always the same. -/
def SagaSpec.isPlain (spec : SagaSpec) : Bool :=
  spec.created.isNone && spec.scripts.all fun (_, script) =>
    script.acts.isEmpty && script.replies.length ≤ 1

theorem tokensApart_toSaga (spec : SagaSpec) : spec.toSaga.TokensApart where
  initial := rfl
  given json state hdecode := by
    have hnone : state.token = none := State.token_of_decode hdecode
    change (∀ token, (if spec.forgetsToken then state else { state with token }).token = token) ∨
      ∀ token, (if spec.forgetsToken then state else { state with token }).token = none
    cases spec.forgetsToken with
    | true => exact .inr fun _ => hnone
    | false => exact .inl fun _ => rfl
  stored token state := by
    change State.encode (if spec.forgetsToken then state else { state with token }) =
      State.encode state
    cases spec.forgetsToken <;> rfl

/-- A hook that takes the id from the message. -/
theorem tokenFree_idFrom (spec : SagaSpec) : spec.toSaga.TokenFree fun context =>
    ({ context.state with id := context.message.body.id }, (Except.ok () : Except Fault Unit)) where
  sets _ := rfl
  reads context token := by
    cases hforgets : spec.forgetsToken <;> simp [SagaSpec.toSaga, hforgets]

/-- A handler that only replies. -/
theorem tokenFree_reply (spec : SagaSpec) (reply : Reply) : spec.toSaga.TokenFree fun context =>
    (context.state, (Except.ok (reply.transition context) : HandlerResult Body)) where
  sets _ := rfl
  reads context token := by cases reply <;> rfl

theorem Script.reply_eq {script : Script} (h : script.replies.length ≤ 1) (n : Nat) :
    script.reply n = script.reply 0 := by
  unfold reply
  rw [Nat.sub_eq_zero_of_le h, Nat.min_zero, Nat.min_zero]

theorem SagaSpec.handler_run {message : MessageType} {script : Script}
    (hscript : (Table.find? message spec.scripts).getD ⟨[], []⟩ = script)
    (hacts : script.acts = []) (hreplies : script.replies.length ≤ 1) (runner : Instance)
    (context : Context Scripted) (send : Request Body → Run Scripted Answer)
    (w : World Scripted) : ((spec.handler message runner context).run send w).1 =
      (context.state, .ok ((script.reply 0).transition context)) := by
  unfold handler
  rw [hscript]
  simp only [hacts]
  change (context.state, Except.ok ((script.reply _).transition context)) = _
  rw [Script.reply_eq hreplies]

/-- **The programs of a plain saga are functions.** -/
theorem functional_of_spec (hplain : spec.isPlain = true) (hsteady : spec.isSteady = true)
    (h : Registration.build spec.toSaga = .ok registration) : registration.Functional := by
  obtain ⟨hhook, hhandlers⟩ := steady_of_spec hsteady h
  obtain ⟨hsaga, -⟩ := Registration.build_eq_ok h
  simp only [SagaSpec.isPlain, Bool.and_eq_true, Option.isNone_iff_eq_none] at hplain
  obtain ⟨hcreated, hscripts⟩ := hplain
  refine ⟨?_, ⟨hhook, ?_⟩, fun message stage handler hhandler =>
    ⟨hhandlers message stage handler hhandler, ?_⟩⟩
  · rw [hsaga]
    exact tokensApart_toSaga spec
  · rw [hsaga]
    refine ⟨_, tokenFree_idFrom spec, fun runner context send w _ => ?_⟩
    change ((spec.onCreated runner context).run send w).1 = _
    unfold SagaSpec.onCreated
    rw [hcreated]
    rfl
  · rw [hsaga]
    obtain ⟨script, hscript⟩ : ∃ script,
        (Table.find? message spec.scripts).getD ⟨[], []⟩ = script := ⟨_, rfl⟩
    have hplain : script.acts = [] ∧ script.replies.length ≤ 1 := by
      cases hfound : Table.find? message spec.scripts with
      | none =>
        rw [← hscript, hfound]
        exact ⟨rfl, Nat.zero_le 1⟩
      | some found =>
        have hall := List.all_eq_true.1 hscripts _ (Table.mem_of_find? hfound)
        rw [← hscript, hfound]
        simpa using hall
    refine ⟨_, tokenFree_reply spec (script.reply 0), fun runner context send w _ => ?_⟩
    obtain ⟨-, rfl⟩ := declared_of_handler h hhandler
    exact spec.handler_run hscript hplain.1 hplain.2 runner context send w

theorem pair_functional (name : String) : (pair name).Functional where
  sagas _ hmem := by
    rcases pair_registered hmem with hbuilt | hbuilt
    · exact functional_of_spec rfl rfl hbuilt
    · exact functional_of_spec rfl rfl hbuilt
  wrappers _ hmem := by cases hmem
  gateways := ⟨_, rfl⟩

/-- A message that only starts sagas touches the instances that it names. -/
theorem sagaId_of_touches {spec : SagaSpec} {registration : Registration Scripted}
    (hbuild : Registration.build spec.toSaga = .ok registration) (hcreated : spec.created = none)
    {request : Request Body} (hstarts : ∀ declared ∈ spec.declarations,
      declared.2 = request.message.type → declared.1 = .start) {key : Key}
    (h : registration.Touches request key) : key.sagaId = request.message.body.id := by
  obtain ⟨hsaga, -⟩ := Registration.build_eq_ok hbuild
  cases h with
  | @created handler runner left _ hends _ =>
    -- the hook ends like this in any world
    have hend := hends (fun _ => pure (.error .cancelled)) (World.ofResources emptyBench) rfl
    rw [hsaga] at hend ⊢
    change ((spec.onCreated runner _).run _ _).1 = _ at hend
    unfold SagaSpec.onCreated at hend
    rw [hcreated] at hend
    rw [← (Prod.mk.inj hend).1]
    rfl
  | @correlated stage handler sagaId hhandler hstage =>
    exact absurd (hstarts _ (declared_of_handler hbuild hhandler).1 rfl) hstage

/-- Whether a message only starts sagas of a pair. -/
def opensPair (message : MessageType) : Bool :=
  (firstSpec.declarations ++ (secondSpec "Second").declarations).all fun declared =>
    declared.2 != message || declared.1 = .start

theorem pair_sagaId {request : Request Body} {key : Key}
    (hopens : opensPair request.message.type = true)
    (h : (pair "Second").Touches request key) : key.sagaId = request.message.body.id := by
  have hstarts : ∀ declared ∈ firstSpec.declarations ++ (secondSpec "Second").declarations,
      declared.2 = request.message.type → declared.1 = .start := by
    intro declared hmem htype
    have hdeclared := List.all_eq_true.1 hopens declared hmem
    simpa [htype] using hdeclared
  obtain ⟨registrations, hselected, registration, hmem, htouches⟩ := h
  rcases pair_registered (Orchestrator.mem_of_selected hselected _ hmem) with hbuilt | hbuilt
  · exact sagaId_of_touches hbuilt rfl
      (fun declared hin => hstarts declared (List.mem_append_left _ hin)) htouches
  · exact sagaId_of_touches hbuilt rfl
      (fun declared hin => hstarts declared (List.mem_append_right _ hin)) htouches

/-- Messages that open a pair under two ids touch nothing in common. -/
theorem pair_disjoint {first second : Request Body}
    (hfirst : opensPair first.message.type = true) (hsecond : opensPair second.message.type = true)
    (hne : first.message.body.id ≠ second.message.body.id) (key : Key)
    (htouches : (pair "Second").Touches first key) : ¬ (pair "Second").Touches second key := by
  intro htouches'
  exact hne ((pair_sagaId hfirst htouches).symm.trans (pair_sagaId hsecond htouches'))

end Simulation

end Sagas
