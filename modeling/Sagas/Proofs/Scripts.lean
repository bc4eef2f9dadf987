import Mathlib.Order.Defs.Unbundled
import Sagas.Proofs.Conduct
import Sagas.Proofs.Registry
import Sagas.Proofs.Runs
import Sagas.Proofs.Versions
import Sagas.Simulation.Scenario

/-!
# The conduct of simulated sagas

Simulated sagas, whatever their scripts do, build their messages from their contexts, and
scripted wrappers pass messages on; a simulated saga none of whose acts sets a token leaves the
tokens of its states alone. So the theorems about runs hold of scenarios.

* `performAll_keeps`: what every act keeps a script keeps.
* `leavesTokens_of_spec`, `carriesToken_of_spec`, `keepsIds_of_spec`, `sendsAsItself_of_spec`:
  sagas.
* `passesOn_toWrapper`: wrappers.
-/

namespace Sagas.Simulation

/-! ## What scripts keep -/

/-- Whether an act gives its state a token. -/
def Act.setsToken : Act → Bool
  | setToken _ => true
  | first _ act => act.setsToken
  | _ => false

/-- Whether any act of a saga gives its state a token. -/
def SagaSpec.setsToken (spec : SagaSpec) : Bool :=
  (spec.created.getD []).any Act.setsToken ||
    spec.scripts.any fun (_, script) => script.acts.any Act.setsToken

/-- Whether an act gives its state an id. -/
def Act.setsId : Act → Bool
  | setId _ | idFrom _ => true
  | first _ act => act.setsId
  | _ => false

/-- Whether any handler of a saga gives its state an id; its creation hook may. -/
def SagaSpec.setsId (spec : SagaSpec) : Bool :=
  spec.scripts.any fun (_, script) => script.acts.any Act.setsId

/-- Wherever some acts end, the state that they leave is related to the one from before. -/
def ScriptM.Keeps {α : Type} (R : State → State → Prop) (acts : ScriptM α) : Prop :=
  ∀ state result left, (acts.run.run state).CanEnd (result, left) → R state left

namespace ScriptM.Keeps

variable {α β : Type} {R : State → State → Prop} [IsPreorder State R]

theorem pure (a : α) : Keeps R (Pure.pure a : ScriptM α) := by
  intro state result left h
  rw [← (Prod.mk.inj h.of_pure).2]
  exact refl_of R state

theorem throw (fault : Fault) : Keeps R (throw fault : ScriptM α) := by
  intro state result left h
  rw [← (Prod.mk.inj (Program.CanEnd.of_pure h)).2]
  exact refl_of R state

theorem bind {acts : ScriptM α} {next : α → ScriptM β} (h : Keeps R acts)
    (hnext : ∀ a, Keeps R (next a)) : Keeps R (acts >>= next) := by
  intro state result left hend
  obtain ⟨⟨middle, state'⟩, hfirst, hrest⟩ := Program.CanEnd.of_bind hend
  have hbefore := h state middle state' hfirst
  cases middle with
  | error fault =>
    rw [← (Prod.mk.inj (Program.CanEnd.of_pure hrest)).2]
    exact hbefore
  | ok a => exact trans_of R hbefore (hnext a state' result left hrest)

theorem lift (program : Program Scripted α) : Keeps R (ScriptM.lift program) := by
  intro state result left h
  obtain ⟨⟨a, state'⟩, hfirst, hrest⟩ := Program.CanEnd.of_bind h
  obtain ⟨a', -, hpair⟩ := Program.CanEnd.of_bind hfirst
  have hstate := (Prod.mk.inj (Program.CanEnd.of_pure hpair)).2
  rw [← (Prod.mk.inj (Program.CanEnd.of_pure hrest)).2, ← hstate]
  exact refl_of R state

theorem get : Keeps R (get : ScriptM State) := by
  intro state result left h
  obtain ⟨⟨a, state'⟩, hfirst, hrest⟩ := Program.CanEnd.of_bind h
  have hstate := (Prod.mk.inj (Program.CanEnd.of_pure hfirst)).2
  rw [← (Prod.mk.inj (Program.CanEnd.of_pure hrest)).2, ← hstate]
  exact refl_of R state

omit [IsPreorder State R] in
theorem modify {change : State → State} (h : ∀ state, R state (change state)) :
    Keeps R (modify change : ScriptM Unit) := by
  intro state result left hend
  obtain ⟨⟨a, state'⟩, hfirst, hrest⟩ := Program.CanEnd.of_bind hend
  have hstate := (Prod.mk.inj (Program.CanEnd.of_pure hfirst)).2
  rw [← (Prod.mk.inj (Program.CanEnd.of_pure hrest)).2, ← hstate]
  exact h state

end ScriptM.Keeps

/-- How an act may change a state. The acts that are not named leave it as it is. -/
inductive Act.Changes : Act → State → State → Prop where
  | setId {id state} : Changes (.setId id) state { state with id }
  | idFrom {source id state} : Changes (.idFrom source) state { state with id }
  | add {amount state} :
      Changes (.add amount) state { state with counter := addWords state.counter amount }
  | addAmount {amount state} :
      Changes .addAmount state { state with counter := addWords state.counter amount }
  | setData {field value data state} : Changes (.setData field value) state { state with data }
  | setToken {name token state} : Changes (.setToken name) state { state with token }
  | poison {state} : Changes .poison state { state with poisoned := true }
  | first {count act state left} : Changes act state left → Changes (.first count act) state left

section

variable {R : State → State → Prop} [IsPreorder State R]

open ScriptM.Keeps in
theorem Act.perform_keeps (setting : Setting) (act : Act)
    (h : ∀ state left, act.Changes state left → R state left) :
    ScriptM.Keeps R (act.perform setting) := by
  induction act with
  | first count act ih =>
    unfold perform
    split
    · exact ih fun state left hchange => h state left (.first hchange)
    · exact .pure ()
  | setId => exact .modify fun state => h _ _ .setId
  | idFrom source => cases source <;> exact .modify fun state => h _ _ .idFrom
  | add => exact .modify fun state => h _ _ .add
  | addAmount => exact .modify fun state => h _ _ .addAmount
  | setData => exact .modify fun state => h _ _ .setData
  | setToken =>
    refine .bind (.lift _) fun bench => .modify fun state => ?_
    split
    · exact refl_of R state
    · exact h _ _ .setToken
  | poison => exact .modify fun state => h _ _ .poison
  | cancel | note => exact .lift _
  | check =>
    refine .bind (.lift _) fun cancelled => ?_
    split
    · exact .throw _
    · exact .pure ()
  | raise fault => exact .throw fault
  | observe => exact .bind .get fun state => .bind (.lift _) fun observation => .lift _
  | send sending => exact .bind (.lift _) fun answer => .pure ()
  | sendOrFail sending =>
    refine .bind (.lift _) fun answer => ?_
    split
    · exact .pure ()
    · exact .throw _

/-- **What every act keeps the script keeps**, up to the first error too. -/
theorem performAll_keeps {setting : Setting} {acts : List Act}
    (h : ∀ act ∈ acts, ∀ state left, act.Changes state left → R state left) {left : State}
    {result : Except Fault Unit} (hend : (performAll setting acts).CanEnd (left, result)) :
    R setting.context.state left := by
  have hacts : ScriptM.Keeps R (acts.forM (Act.perform setting)) := by
    clear hend
    induction acts with
    | nil => exact .pure ()
    | cons act acts ih =>
      obtain ⟨hact, hrest⟩ := List.forall_mem_cons.1 h
      exact .bind (act.perform_keeps setting hact) fun _ => ih hrest
  obtain ⟨⟨result', state'⟩, hrun, hpair⟩ := hend.of_bind
  have hstate := (Prod.mk.inj (Program.CanEnd.of_pure hpair)).1
  rw [← hstate]
  exact hacts _ _ _ hrun

end

/-! ### What acts keep -/

section

instance {α : Type} (f : State → α) : IsPreorder State fun state left => f left = f state where
  refl _ := rfl
  trans _ _ _ h h' := h'.trans h

instance (P : State → Prop) : IsPreorder State fun state left => P state → P left where
  refl _ := id
  trans _ _ _ h h' := h' ∘ h

/-- Only `setToken` changes the token, also behind `first`. -/
theorem Act.Changes.token {act : Act} {state left : State} (h : act.Changes state left)
    (hact : act.setsToken = false) : left.token = state.token := by
  induction h with
  | setToken => cases hact
  | first _ ih => exact ih hact
  | _ => rfl

/-- Only `setId` and `idFrom` change the id. -/
theorem Act.Changes.id {act : Act} {state left : State} (h : act.Changes state left)
    (hact : act.setsId = false) : left.id = state.id := by
  induction h with
  | setId | idFrom => cases hact
  | first _ ih => exact ih hact
  | _ => rfl

/-- Counters stay words: sums wrap around. -/
theorem Act.Changes.isWord {act : Act} {state left : State} (h : act.Changes state left)
    (hstate : Simulation.isWord state.counter = true) :
    Simulation.isWord left.counter = true := by
  induction h with
  | add | addAmount =>
    rw [Simulation.isWord, addWords, Int.bmod_bmod]
    exact beq_self_eq_true _
  | first _ ih => exact ih hstate
  | _ => exact hstate

variable {setting : Setting} {acts : List Act} {left : State} {result : Except Fault Unit}

theorem performAll_token (h : acts.any Act.setsToken = false)
    (hend : (performAll setting acts).CanEnd (left, result)) :
    left.token = setting.context.state.token :=
  performAll_keeps (R := fun state left => left.token = state.token)
    (fun act hmem _ _ hchange => hchange.token (by simpa using List.any_eq_false.1 h act hmem)) hend

theorem performAll_id (h : acts.any Act.setsId = false)
    (hend : (performAll setting acts).CanEnd (left, result)) :
    left.id = setting.context.state.id :=
  performAll_keeps (R := fun state left => left.id = state.id)
    (fun act hmem _ _ hchange => hchange.id (by simpa using List.any_eq_false.1 h act hmem)) hend

theorem performAll_isWord (hend : (performAll setting acts).CanEnd (left, result)) :
    isWord setting.context.state.counter = true → isWord left.counter = true :=
  performAll_keeps
    (R := fun state left => isWord state.counter = true → isWord left.counter = true)
    (fun _ _ _ _ hchange => hchange.isWord) hend

end

/-! ## Simulated sagas -/

variable {spec : SagaSpec} {message : MessageType} {runner : Instance}
  {context : Context Scripted} {left : State}

/-- A handler does what its script does, and gives one of the replies of the script. -/
theorem SagaSpec.handler_ends {result : HandlerResult Body}
    (h : (spec.handler message runner context).CanEnd (left, result)) :
    ∃ runs answer, (performAll { spec, context, runner, runs }
        ((Table.find? message spec.scripts).getD ⟨[], []⟩).acts).CanEnd (left, answer) ∧
      ∀ transition, result = .ok transition →
        ∃ reply : Reply, transition = reply.transition context := by
  -- a count of the runs so far and a note come first, then the acts
  obtain ⟨runs, -, h⟩ := h.of_bind
  obtain ⟨-, -, h⟩ := h.of_bind
  obtain ⟨⟨state, answer⟩, hacts, h⟩ := h.of_bind
  cases answer with
  | error fault =>
    obtain ⟨rfl, rfl⟩ := Prod.mk.inj (Program.CanEnd.of_pure h)
    exact ⟨runs, _, hacts, fun transition hresult => by cases hresult⟩
  | ok _ =>
    obtain ⟨rfl, rfl⟩ := Prod.mk.inj (Program.CanEnd.of_pure h)
    exact ⟨runs, _, hacts, fun transition hresult => ⟨_, (Except.ok.inj hresult).symm⟩⟩

theorem any_acts_of_any_scripts {p : Act → Bool}
    (h : (spec.scripts.any fun (_, script) => script.acts.any p) = false) :
    ((Table.find? message spec.scripts).getD ⟨[], []⟩).acts.any p = false := by
  cases hscript : Table.find? message spec.scripts with
  | none => rfl
  | some script =>
    have hacts := List.any_eq_false.1 h _ (Table.mem_of_find? hscript)
    simpa using hacts

/-- A simulated saga handles what it declares, as it describes. -/
theorem declared_of_handler {registration : Registration Scripted} {stage : Stage}
    {handler : Handler Scripted} (h : Registration.build spec.toSaga = .ok registration)
    (hhandler : registration.handler? message = some (stage, handler)) :
    (stage, message) ∈ spec.declarations ∧ handler = spec.handler message := by
  obtain ⟨-, hhandlers⟩ := Registration.build_eq_ok h
  unfold Registration.handler? at hhandler
  rw [hhandlers] at hhandler
  obtain ⟨⟨declaredStage, declaredMessage⟩, hmem, hdeclared⟩ :=
    List.mem_map.1 (Registration.declared_of_handlerTable hhandler)
  obtain ⟨rfl, rfl, rfl⟩ := Declaration.mk.inj hdeclared
  exact ⟨hmem, rfl⟩

/-- A state that is read from the store comes without a token. -/
theorem State.token_of_decode {json : Json} {state : State} (h : decode json = .ok state) :
    state.token = none := by
  unfold decode at h
  simp only [throw, throwThe, MonadExceptOf.throw, bind, Except.bind, pure, Except.pure] at h
  repeat' split at h
  all_goals cases h <;> rfl

/-- A handler none of whose acts sets a token leaves the one that it was given. -/
theorem token_of_handler (hspec : spec.setsToken = false) {registration : Registration Scripted}
    (h : Registration.build spec.toSaga = .ok registration) {stage : Stage}
    {handler : Handler Scripted} {result : HandlerResult Body}
    (hhandler : registration.handler? message = some (stage, handler))
    (hend : (handler runner context).CanEnd (left, result)) : left.token = context.state.token := by
  obtain ⟨-, rfl⟩ := declared_of_handler h hhandler
  obtain ⟨runs, answer, hacts, -⟩ := SagaSpec.handler_ends hend
  simp only [SagaSpec.setsToken, Bool.or_eq_false_iff] at hspec
  exact performAll_token (any_acts_of_any_scripts hspec.2) hacts

/-- **A simulated saga leaves tokens alone**, unless one of its acts sets a token. -/
theorem leavesTokens_of_spec (hspec : spec.setsToken = false) {registration : Registration Scripted}
    (h : Registration.build spec.toSaga = .ok registration) : registration.LeavesTokens := by
  obtain ⟨hsaga, -⟩ := Registration.build_eq_ok h
  obtain ⟨saga, capabilities, handlers, correlations⟩ := registration
  simp only at hsaga
  subst hsaga
  refine ⟨rfl, ?_, ?_, ?_⟩
  · intro runner context left result hend
    obtain ⟨-, -, hacts⟩ := Program.CanEnd.of_bind hend
    have hcreated : (spec.created.getD [.idFrom .id]).any Act.setsToken = false := by
      simp only [SagaSpec.setsToken, Bool.or_eq_false_iff] at hspec
      cases hsome : spec.created with
      | none => rfl
      | some acts => simpa [hsome] using hspec.1
    exact .inl (performAll_token hcreated hacts)
  · intro message stage handler runner context left result hfound hend
    exact .inl (token_of_handler hspec h hfound hend)
  · intro json state token hdecode
    change (if spec.forgetsToken then state else { state with token }).token = token ∨
      (if spec.forgetsToken then state else { state with token }).token = none
    split
    · exact .inr (State.token_of_decode hdecode)
    · exact .inl rfl

/-- **A simulated saga carries its token along**, if it does not forget it and no act sets one. -/
theorem carriesToken_of_spec (hspec : spec.setsToken = false) (hkeeps : spec.forgetsToken = false)
    {registration : Registration Scripted}
    (h : Registration.build spec.toSaga = .ok registration) :
    registration.CarriesToken message := by
  obtain ⟨hsaga, -⟩ := Registration.build_eq_ok h
  constructor
  · intro json state token _
    rw [hsaga]
    change (if spec.forgetsToken then state else { state with token }).token = token
    rw [hkeeps]
    rfl
  · intro stage handler runner context left result hhandler hend
    rw [hsaga]
    exact token_of_handler hspec h hhandler hend

/-- A state whose counter is a word is read back as it was stored, without its token. -/
theorem State.decode_encode {state : State} {json : Json} (hword : isWord state.counter = true)
    (h : encode state = .ok json) : decode json = .ok { state with token := none } := by
  obtain ⟨id, counter, data, token, poisoned⟩ := state
  unfold encode at h
  split at h
  · cases h
  · rename_i hpoisoned
    obtain rfl := Except.ok.inj h
    simp only [Bool.not_eq_true] at hpoisoned
    subst hpoisoned
    replace hword : isWord counter = true := hword
    simp [decode, Json.field?, Json.int?, Json.int, hword]
    rfl

/-- **A simulated saga keeps its ids**, if it does not forget its token and no handler gives its
state an id. -/
theorem keepsIds_of_spec (hspec : spec.setsId = false) (hkeeps : spec.forgetsToken = false)
    {registration : Registration Scripted}
    (h : Registration.build spec.toSaga = .ok registration) :
    registration.KeepsIds fun state => isWord state.counter = true := by
  obtain ⟨hsaga, -⟩ := Registration.build_eq_ok h
  have hwith : ∀ token state, registration.saga.withToken token state = { state with token } := by
    intro token state
    rw [hsaga]
    change (if spec.forgetsToken then state else { state with token }) = _
    rw [hkeeps]
    rfl
  constructor
  case initial =>
    rw [hsaga]
    rfl
  case hook =>
    intro runner context left result hword hend
    rw [hsaga] at hend
    obtain ⟨-, -, hacts⟩ := Program.CanEnd.of_bind hend
    exact performAll_isWord hacts hword
  case handler =>
    intro message stage handler runner context left result hhandler hword hend
    rw [hsaga]
    obtain ⟨-, rfl⟩ := declared_of_handler h hhandler
    obtain ⟨runs, answer, hacts, -⟩ := SagaSpec.handler_ends hend
    exact ⟨performAll_isWord hacts hword, performAll_id (any_acts_of_any_scripts hspec) hacts⟩
  case token =>
    intro token state hword
    rw [hwith, hsaga]
    exact ⟨hword, rfl⟩
  case roundTrips =>
    intro state json hword hencode
    refine ⟨{ state with token := none }, ?_, .inr ⟨none, (hwith none state).symm⟩⟩
    rw [hsaga] at hencode ⊢
    exact State.decode_encode hword hencode

theorem tokenName_injective {m n : Nat} (h : tokenName m = tokenName n) : m = n := by
  have hchars : Nat.toDigits 10 m = Nat.toDigits 10 n := by
    have hlist := congrArg String.toList h
    simpa [tokenName] using hlist
  -- the digits of a number are read back
  rw [← Nat.ofDigitChars_ten_toDigits (n := m), hchars, Nat.ofDigitChars_ten_toDigits]

/-- No two saves of a scenario issue the same token. -/
theorem mint_injective {m n : Nat} (h : mint m = mint n) : m = n := by
  have hlist := congrArg String.toList h
  exact tokenName_injective (String.toList_injective (by simpa [mint] using hlist))

/-! ## Scripted wrappers -/

/-- A message to the counter `c`. -/
def messageTo (id : Nat) (name : String) : Message Body := ⟨⟨id, name⟩, ⟨"c", "", 2⟩⟩

/-- The messages of counters. -/
def openCounter : Message Body := messageTo 1 "Open"

def addToCounter : Message Body := messageTo 2 "Add"

def closeCounter : Message Body := messageTo 3 "Close"

/-- The saga type of counters. -/
def counterSpec : SagaSpec where
  type := ⟨1, "Counter"⟩
  declarations :=
    [(.start, openCounter.type), (.step, addToCounter.type), (.step, closeCounter.type)]
  correlations := [(addToCounter.type, .id), (closeCounter.type, .id)]
  scripts := [
    (openCounter.type, ⟨[.addAmount], [.proceed none]⟩),
    (addToCounter.type,
      ⟨[.first 1 (.send ⟨addToCounter, none, none, none, none, false⟩), .addAmount],
        [.proceed (some ⟨⟨4, "Added"⟩, none⟩)]⟩),
    (closeCounter.type, ⟨[], [.fail none (.text "closed")]⟩)]
  created := none
  forgetsToken := false

/-- An orchestrator of counters, over the gateways in memory, with one rerun after a conflict. -/
def counters : Orchestrator Scripted where
  directory := (Directory.empty.register counterSpec.toSaga).1
  gateways := .inMemory (Factories.resolve (Factories.register counterSpec.type .fresh []))
  chain := [WrapperSpec.tracing, .metrics].map WrapperSpec.toWrapper
  config := Config.default.withRetries 1

/-- What counters start from. -/
def emptyBench : Resources Scripted where
  env := .empty
  signals := .empty
  instances := 0
  store := .empty mint
  outbox := .empty
  clock := .epoch

/-- A message for counters only. -/
def requestTo (message : Message Body) : Request Body where
  message
  correlation := some "correlation"
  causation := none
  signal := Signals.empty.fresh
  target := some counterSpec.type

/-- A counter is opened, added to, and closed, and then added to once more. -/
def counterMoves : List (Move Scripted) :=
  [openCounter, addToCounter, closeCounter, addToCounter].map fun message =>
    .deliver 2 (requestTo message)

/-- The error that a call ends in, if it ends in one. -/
def error? {ε α : Type} : Except ε α → Option ε
  | .error error => some error
  | .ok _ => none

theorem eq_error_of_error? {ε α : Type} {result : Except ε α} {error : ε}
    (h : error? result = some error) : result = .error error := by
  cases result with
  | ok value => cases h
  | error other => rw [Option.some.inj h]

theorem counters_inMemory : counters.InMemory := ⟨_, rfl⟩

theorem counters_registered {registration : Registration Scripted}
    (h : registration ∈ counters.directory.registrations) :
    Registration.build counterSpec.toSaga = .ok registration := by
  rcases Directory.mem_register h with hbefore | hbuilt
  · cases hbefore
  · exact hbuilt

theorem counters_leaveTokens :
    ∀ r ∈ counters.directory.registrations, r.LeavesTokens :=
  fun _ h => leavesTokens_of_spec (by decide) (counters_registered h)

theorem emptyBench_issuesOnce : emptyBench.store.IssuesOnce :=
  fun _ _ h => Nat.succ.inj (mint_injective h)

/-! ## Pairs

Two saga types that start on the same messages, to try the theorems on what the sagas of one
message do to each other. The name of the second one is left open. -/

/-- The first saga asks for a redelivery, the second one fails. -/
def askThenFail : Message Body := messageTo 5 "AskThenFail"

/-- Both sagas go on. -/
def keepBoth : Message Body := messageTo 6 "KeepBoth"

/-- The message that both sagas go on with, to another instance. -/
def keepOthers : Message Body := { keepBoth with body := { keepBoth.body with id := "d" } }

/-- The first saga fails and tells others so, the second one goes on. -/
def failFirst : Message Body := messageTo 7 "FailFirst"

/-- A step of the second saga. -/
def touchSecond : Message Body := messageTo 8 "TouchSecond"

/-- The first saga type of a pair. -/
def firstSpec : SagaSpec where
  type := ⟨2, "First"⟩
  declarations := [(.start, askThenFail.type), (.start, keepBoth.type), (.start, failFirst.type)]
  correlations := []
  scripts := [
    (askThenFail.type, ⟨[], [.retry none none]⟩),
    (keepBoth.type, ⟨[], [.proceed none]⟩),
    (failFirst.type, ⟨[], [.fail (some ⟨⟨9, "FirstFailed"⟩, none⟩) (.text "first")]⟩)]
  created := none
  forgetsToken := false

/-- The second saga type of a pair. -/
def secondSpec (name : String) : SagaSpec where
  type := ⟨3, name⟩
  declarations :=
    [(.start, askThenFail.type), (.start, keepBoth.type), (.start, failFirst.type),
      (.step, touchSecond.type)]
  correlations := [(touchSecond.type, .id)]
  scripts := [
    (askThenFail.type, ⟨[], [.fail none (.text "second")]⟩),
    (keepBoth.type, ⟨[], [.proceed none]⟩),
    (failFirst.type, ⟨[], [.proceed none]⟩),
    (touchSecond.type, ⟨[], [.proceed none]⟩)]
  created := none
  forgetsToken := false

/-- An orchestrator of both saga types, over the gateways in memory. -/
def pair (name : String) : Orchestrator Scripted where
  directory :=
    ((Directory.empty.register firstSpec.toSaga).1.register (secondSpec name).toSaga).1
  gateways := .inMemory (Factories.resolve
    (Factories.register (secondSpec name).type .fresh (Factories.register firstSpec.type .fresh [])))
  chain := []
  config := .default

/-- A message for one saga type, or for every one that reacts to it. -/
def requestFor (target : Option SagaType) (message : Message Body) : Request Body where
  message
  correlation := none
  causation := none
  signal := Signals.empty.fresh
  target

end Sagas.Simulation
