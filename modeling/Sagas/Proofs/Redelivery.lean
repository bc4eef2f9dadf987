import Sagas.Proofs.Errors
import Sagas.Proofs.Reruns
import Sagas.Proofs.Routing

/-!
# Redeliveries

A saga that asks for a redelivery names itself in the request, so that a transport can deliver the
message to this saga alone. Deliver it again, and the same registration runs in the same stage. The
step that asked has left nothing, so as long as nobody saves the record, the redelivered step starts
from the same state.

* `Turn.Asks`: the turn of a delivery in which a redelivery was asked for.
* `Orchestrator.Reaches`: what is delivered again reaches the saga that asked, and no other.
* `Gateways.Remembers`, `Remembers.law`: what is stored under a key changes by accepted saves only.
* `Visit.StartsFrom`: the record and the state that an attempt starts from.
* `Orchestrator.redelivery_exact`: all of this, for every redelivery that a report asks for.
-/

namespace Sagas

variable {A : Application}

/-! ## What is stored -/

/-- A store that keeps records: a load answers what is stored under its key, and only an accepted
save under a key changes that. An outage loses nothing. -/
structure Gateways.Remembers (gateways : Gateways A) (stored : Store → Key → Option Record) :
    Prop where
  load : ∀ key signal resources found,
    (gateways.load key signal resources).1 = .ok found → found = stored resources.store key
  loading : ∀ key signal resources,
    stored (gateways.load key signal resources).2.store = stored resources.store
  saving : ∀ record signal resources key,
    (∀ token, (gateways.save record signal resources).1 = .ok token → record.toKey ≠ key) →
    stored (gateways.save record signal resources).2.store key = stored resources.store key
  publishing : ∀ outgoing signal resources,
    stored (gateways.publish outgoing signal resources).2.store = stored resources.store
  outage : ∀ store failing, stored (store.flag failing) = stored store

/-- What is stored under a key is as before, unless a version was saved under it. -/
def Untouched (stored : Store → Key → Option Record) (key : Key) (w : World A)
    (es : List (Entry A)) (w' : World A) : Prop :=
  versions key es = [] → stored w'.store key = stored w.store key

namespace Gateways.Remembers

theorem inMemory (resolve : SagaType → Program A (Except Fault Instance)) :
    (Gateways.inMemory resolve).Remembers Store.find? where
  load key signal resources found h := (Except.ok.inj h).symm
  loading _ _ _ := rfl
  saving record signal resources key hrefused := by
    change ((resources.store.save record).2).find? key = _
    change ∀ token, (resources.store.save record).1 = .ok token → _ at hrefused
    rcases resources.store.save_cases record with ⟨-, -, hsave⟩ | ⟨-, error, hsave⟩
    · rw [hsave] at hrefused ⊢
      rw [Store.find?_put, if_neg (hrefused _ rfl)]
    · rw [hsave]
  publishing outgoing signal resources := rfl
  outage _ _ := rfl

variable {gateways : Gateways A} {stored : Store → Key → Option Record}

/-- **What is stored under a key changes by accepted saves only**, along every run. -/
theorem law (h : gateways.Remembers stored) (key : Key) : Law gateways (Untouched stored key) where
  still hs _ _ _ := by rw [hs]
  trans h h' hnone := by
    rw [versions_append, List.append_eq_nil_iff] at hnone
    exact (h' hnone.2).trans (h hnone.1)
  plain w event _ _ := rfl
  cancel w signal _ := rfl
  load w other signal _ := congrFun (h.loading other signal w.toResources) key
  save w record signal hnone := by
    refine h.saving record signal w.toResources key fun token htoken hkey => ?_
    rw [htoken, versions_cons] at hnone
    simp [World.entry, Event.version?, hkey] at hnone
  publish w outgoing signal _ := congrFun (h.publishing outgoing signal w.toResources) key

/-- What happens between deliveries touches nothing that is stored. -/
theorem outside (h : gateways.Remembers stored) (key : Key) {w w' : World A}
    (hsame : Undisturbed w w') : Untouched stored key w [] w' := by
  intro _
  obtain ⟨⟨failing, hstore⟩, -⟩ := hsame
  rw [hstore, h.outage]

end Gateways.Remembers

/-! ## The turn that asked -/

/-- A redelivery was asked for in a turn: the step came to it, in its stage and for its key, and the
saga that it names is the one of the turn. -/
structure Turn.Asks (turn : Turn A) (message : MessageType) (asked : RetryRequest) (stage : Stage)
    (handler : Handler A) : Prop where
  result : ∃ settled, turn.result = .ok (some settled) ∧ settled.outcome.retry = some asked ∧
    settled.outcome.stage = stage ∧ settled.outcome.key = ⟨asked.saga.name, asked.sagaId⟩
  saga : turn.registration.saga.type = asked.saga
  handler : turn.registration.handler? message = some (stage, handler)

namespace Visit

variable {visit : Visit A} {stage : Stage} {handler : Handler A} {runner : Instance} {key : Key}
  {state : A.State} {step : StepInfo} {events : List (Event A)} {settled : Settled}
  {result : Except SagaError Settled} {w : World A} {trial : Trial A}

/-- What a step came to tells of the stage and the key of the step, and a redelivery that it asks
for is one to its own saga. -/
structure Tells (visit : Visit A) (stage : Stage) (key : Key) (settled : Settled) : Prop where
  stage : settled.outcome.stage = stage
  key : settled.outcome.key = key
  retry : ∀ asked, settled.outcome.retry = some asked →
    asked.saga = visit.saga.type ∧ asked.sagaId = settled.outcome.key.sagaId

theorem Settles.tells {left : A.State} {transition : Transition A.Body}
    (h : visit.Settles (visit.stepOf stage key) left transition events (.ok settled)) :
    visit.Tells stage key settled := by
  cases h with
  | redelivered =>
    refine ⟨rfl, rfl, fun asked hasked => ?_⟩
    rw [← Option.some.inj hasked]
    exact ⟨rfl, rfl⟩
  | silent | published => exact ⟨rfl, rfl, fun asked hasked => by cases hasked⟩

theorem Executes.tells (h : visit.Executes stage handler runner key state events (.ok settled)) :
    visit.Tells stage key settled := by
  cases h with
  | settled _ hsettles => exact hsettles.tells

theorem Creates.tells (h : visit.Creates handler events (.ok settled)) :
    ∃ sagaId, visit.Tells .start ⟨visit.sagaType, sagaId⟩ settled := by
  cases h with
  | executed _ _ _ hexecutes => exact ⟨_, hexecutes.tells⟩

/-- An attempt that came to something has started from a record. -/
theorem Advances.loaded (h : visit.Advances stage handler key events (.ok settled)) :
    visit.Tells stage key settled ∧ ∃ record rest state,
      events = .loaded key (.ok (some record)) :: rest ∧ visit.stateOf record = .ok state := by
  cases h with
  | executed _ hstate _ hexecutes => exact ⟨hexecutes.tells, _, _, _, rfl, hstate⟩

theorem Reruns.tells {reruns : Nat} (h : visit.Reruns stage handler key reruns events result)
    (hresult : result = .ok settled) : visit.Tells stage key settled := by
  induction h with
  | last hadvances =>
    subst hresult
    exact hadvances.loaded.1
  | again _ _ ih => exact ih hresult

theorem Dispatches.tells (h : visit.Dispatches events (.ok (some settled))) :
    ∃ stage handler sagaId, visit.Tells stage ⟨visit.sagaType, sagaId⟩ settled ∧
      visit.registration.handler? visit.request.message.type = some (stage, handler) ∧
      (stage ≠ .start → visit.registration.correlate visit.request.message = .ok sagaId) := by
  generalize hresult : Except.ok (some settled) = result at h
  cases h with
  | skipped => cases hresult
  | uncorrelated => cases hresult
  | created hhandler hcreates =>
    obtain rfl : Except.ok settled = _ := map_some_inj hresult
    obtain ⟨sagaId, htells⟩ := hcreates.tells
    exact ⟨.start, _, sagaId, htells, hhandler, fun hne => absurd rfl hne⟩
  | advanced _ hhandler hid hreruns =>
    have hcame : Except.ok settled = _ := map_some_inj hresult
    exact ⟨_, _, _, hreruns.tells hcame.symm, hhandler, fun _ => hid⟩

/-! ## What an attempt starts from -/

/-- An attempt starts from a record, if the store answers it at all: that is what it loads, and a
handler that it runs starts from the state of that record. -/
structure StartsFrom (visit : Visit A) (key : Key) (record : Record) (state : A.State)
    (trial : Trial A) : Prop where
  loaded : ∀ found, visit.loadedIn key trial.before = .ok found → found = some record
  state : ∀ step runner context, .handled step runner context ∈ trial.events →
    context.state = state

theorem startsFrom (hanew : visit.StartsAnew stage key trial) {record : Record}
    (hstate : visit.stateOf record = .ok state)
    (hloaded : ∀ found, visit.loadedIn key trial.before = .ok found → found = some record) :
    visit.StartsFrom key record state trial := by
  refine ⟨hloaded, fun step runner context hmem => ?_⟩
  obtain ⟨-, other, hother, hcontext⟩ := hanew.state step runner context hmem
  rw [← Option.some.inj (hloaded _ hother), hcontext] at hstate
  exact Except.ok.inj hstate

/-- The attempt in which a step came to something, with the record and the state that it started
from. -/
structure CameFrom (visit : Visit A) (stage : Stage) (handler : Handler A) (key : Key)
    (turn : Turn A) (last : Trial A) (record : Record) (state : A.State) : Prop where
  /-- It is the last attempt of the turn. -/
  attempt : ∃ earlier, visit.trials stage handler key turn.before = earlier ++ [last]
  result : turn.result = last.result.map some
  /-- It has loaded the record. -/
  load : ∃ rest, last.events = .loaded key (.ok (some record)) :: rest
  decoded : visit.stateOf record = .ok state
  starts : visit.StartsFrom key record state last
  /-- The record is what the store answered. -/
  answered : visit.loadedIn key last.before = .ok (some record)

theorem CameFrom.mem {turn : Turn A} {last : Trial A} {record : Record}
    (h : visit.CameFrom stage handler key turn last record state) :
    last ∈ visit.trials stage handler key turn.before := by
  obtain ⟨earlier, htrials⟩ := h.attempt
  rw [htrials]
  exact List.mem_append_right _ List.mem_cons_self

theorem exists_cameFrom (hsend : Sends (fun _ => True) (fun _ _ _ => True) visit.send)
    {sagaId : String} (hstage : stage ≠ .start)
    (hhandler : visit.registration.handler? visit.request.message.type = some (stage, handler))
    (hid : visit.registration.correlate visit.request.message = .ok sagaId)
    (hresult : (visit.turn w).result = .ok (some settled)) :
    ∃ last record state,
      visit.CameFrom stage handler ⟨visit.sagaType, sagaId⟩ (visit.turn w) last record state := by
  obtain ⟨earlier, last, htrials, -, hrun⟩ := dispatch_run_of_stage hstage hhandler hid w
  have hended : (visit.turn w).result = last.result.map some := congrArg Prod.fst hrun
  have hmem : last ∈ visit.trials stage handler ⟨visit.sagaType, sagaId⟩ w := by
    rw [htrials]
    exact List.mem_append_right _ List.mem_cons_self
  have hanew := startsAnew_of_mem hsend hmem
  obtain ⟨-, hadvances, -⟩ := trial_within (Law.trivial _) hsend stage handler
    ⟨visit.sagaType, sagaId⟩ last.before
  have hcame : last.result = .ok settled := map_some_inj (hended.symm.trans hresult)
  rw [trial_of_mem hmem, hcame] at hadvances
  obtain ⟨-, record, rest, state, hevents, hstate⟩ := hadvances.loaded
  have hloaded : visit.loadedIn ⟨visit.sagaType, sagaId⟩ last.before = .ok (some record) := by
    have hload := hanew.load
    rw [hevents] at hload
    exact hload.loadedIn_eq
  refine ⟨last, record, state, ⟨earlier, htrials⟩, hended, ⟨rest, hevents⟩, hstate,
    startsFrom hanew hstate fun found hfound => ?_, hloaded⟩
  exact Except.ok.inj (hfound.symm.trans hloaded)

/-! ## The first event of a step -/

/-- A step that has the resolver or the store asked first, and runs its handler in one stage. -/
structure Approaches (visit : Visit A) (stage : Stage) (key : Key) (events : List (Event A)) :
    Prop where
  /-- A start message makes a new instance of the saga type. -/
  start : stage = .start → ∃ answer rest, events = .resolved visit.saga.type answer :: rest
  /-- Any other message loads the record of the instance. -/
  load : stage ≠ .start → ∃ answer rest, events = .loaded key answer :: rest
  handled : ∀ step runner context, .handled step runner context ∈ events →
    step.stage = stage ∧ (stage ≠ .start → step.key = key)

theorem Creates.handled {runner : Instance} {context : Context A}
    (h : visit.Creates handler events result) (hmem : .handled step runner context ∈ events) :
    step.stage = .start := by
  cases h with
  | cancelled | unresolved | raised | nameless => simp at hmem
  | executed _ _ _ hexecutes =>
    obtain ⟨rfl, -⟩ := hexecutes.handled (by simpa using hmem)
    rfl

section

variable (hsend : Sends (fun _ => True) (fun _ _ _ => True) visit.send)
  (huncancelled : w.signals.isCancelled visit.request.signal = false)
include hsend huncancelled

theorem approaches_of_start
    (hhandler : visit.registration.handler? visit.request.message.type = some (.start, handler)) :
    visit.Approaches .start key (visit.turn w).events := by
  obtain ⟨es, hwithin, hcreates, hfirst⟩ := create_within (Law.trivial _) hsend handler w
  have hafter : (visit.turn w).after = _ :=
    congrArg Prod.snd (visit.dispatch_run_of_start hhandler w)
  have hevents : (visit.turn w).events = eventsAt w.depth es := by
    refine Turn.events_eq ?_
    rw [hafter]
    exact hwithin.history
  rw [hevents]
  exact ⟨fun _ => hfirst huncancelled, fun hne => absurd rfl hne,
    fun step runner context hmem => ⟨hcreates.handled hmem, fun hne => absurd rfl hne⟩⟩

theorem approaches_of_stage {sagaId : String} (hstage : stage ≠ .start)
    (hhandler : visit.registration.handler? visit.request.message.type = some (stage, handler))
    (hid : visit.registration.correlate visit.request.message = .ok sagaId) :
    visit.Approaches stage ⟨visit.sagaType, sagaId⟩ (visit.turn w).events := by
  rw [turn_events_eq hstage hhandler hid hsend w]
  refine ⟨fun hstart => absurd hstart hstage, fun _ => ?_, fun step runner context hmem => ?_⟩
  · -- the first attempt begins at once, and loads the record
    obtain ⟨later, htrials⟩ : ∃ later, visit.trials stage handler ⟨visit.sagaType, sagaId⟩ w =
        visit.trial stage handler ⟨visit.sagaType, sagaId⟩ w :: later := exists_trialsFrom_eq_cons
    obtain ⟨-, -, hload⟩ := trial_within (Law.trivial _) hsend stage handler
      ⟨visit.sagaType, sagaId⟩ w
    unfold LoadsFirst at hload
    rw [huncancelled] at hload
    obtain ⟨rest, hrest⟩ := hload
    rw [htrials, List.flatMap_cons, hrest]
    exact ⟨_, _, rfl⟩
  · obtain ⟨trial, htrial, hmem⟩ := List.mem_flatMap.1 hmem
    obtain ⟨-, hadvances, -⟩ := trial_within (Law.trivial _) hsend stage handler
      ⟨visit.sagaType, sagaId⟩ trial.before
    rw [trial_of_mem htrial] at hadvances
    obtain ⟨rfl, -⟩ := hadvances.handled hmem
    exact ⟨rfl, fun _ => rfl⟩

end

end Visit

namespace Orchestrator

variable {orchestrator : Orchestrator A} {log : List (Directory.Logged A)} {nesting : Nat}
  {request again : Request A.Body} {w : World A} {turn : Turn A} {asked : RetryRequest}
  {stage : Stage} {handler : Handler A} {registration : Registration A}

/-! ## From the report to the turn -/

/-- **A redelivery in a report was asked for in a turn.** -/
theorem exists_asks
    (hasked : asked ∈ redeliveries (orchestrator.deliver nesting request w).1) :
    ∃ turn ∈ orchestrator.turns nesting request w, ∃ stage handler,
      turn.Asks request.message.type asked stage handler ∧
        (stage ≠ .start → turn.registration.correlate request.message = .ok asked.sagaId) := by
  -- a report tells of turns that ended without an error
  have hquiet : ∀ turn ∈ orchestrator.turns nesting request w,
      turn.error? = none ∧ ¬ turn.Failed := by
    by_contra hloud
    obtain ⟨error, herror⟩ := exists_error_of_loud hloud
    rw [herror] at hasked
    cases hasked
  rw [redeliveries_eq hquiet] at hasked
  obtain ⟨turn, hmem, hasked⟩ := List.mem_flatMap.1 hasked
  rw [asked_eq hmem (hquiet turn hmem).1, Option.mem_toList] at hasked
  obtain ⟨settled, hsettled, hretry⟩ := Option.bind_eq_some_iff.1 hasked
  have hresult := Turn.result_eq_some hsettled
  have hstep := turns_steps nesting request w turn hmem
  rw [hresult] at hstep
  obtain ⟨stage, handler, sagaId, htells, hhandler, hid⟩ := hstep.tells
  obtain ⟨hsaga, hsagaId⟩ := htells.retry asked hretry
  rw [htells.key] at hsagaId
  refine ⟨turn, hmem, stage, handler, ⟨⟨settled, hresult, hretry, htells.stage, ?_⟩, hsaga.symm,
    hhandler⟩, ?_⟩
  · rw [htells.key, hsaga, hsagaId]
    rfl
  · rw [hsagaId]
    exact hid

/-! ## From the turn back to its saga -/

/-- The turn of a registration in the delivery of a request that is for it alone. -/
def turnOf (orchestrator : Orchestrator A) (nesting : Nat) (request : Request A.Body)
    (registration : Registration A) (w : World A) : Turn A :=
  Visit.turn { orchestrator, send := orchestrator.below nesting, registration, request } (begun w)

/-- What is delivered again reaches one saga, and no other. -/
structure Reaches (orchestrator : Orchestrator A) (nesting : Nat) (request : Request A.Body)
    (w : World A) (registration : Registration A) (stage : Stage) (key : Key) : Prop where
  registered : ∀ name, (orchestrator.deliver nesting request w).1 ≠ .error (.notRegistered name)
  /-- The delivery has one turn, and this is the one of the registration. -/
  alone : orchestrator.turns nesting request w =
    [orchestrator.turnOf nesting request registration w]
  approaches :
    Visit.Approaches { orchestrator, send := orchestrator.below nesting, registration, request }
      stage key (orchestrator.turnOf nesting request registration w).events

theorem selected_of_mem (hreached : orchestrator.directory.Reached log)
    (hmem : registration ∈ orchestrator.directory.registrations)
    (htarget : request.target = some registration.saga.type) :
    orchestrator.selected request = .ok [registration] := by
  unfold selected
  rw [htarget]
  simp only [hreached.find?_of_mem hmem]

theorem turns_of_target (hreached : orchestrator.directory.Reached log)
    (hmem : registration ∈ orchestrator.directory.registrations)
    (htarget : request.target = some registration.saga.type) :
    orchestrator.turns nesting request w =
      [orchestrator.turnOf nesting request registration w] := by
  unfold turns
  rw [selected_of_mem hreached hmem htarget]
  simp only [turnsFrom, turnOf, ite_self]

/-- No step finds that its saga type is not registered. -/
theorem ne_notRegistered {visit : Visit A} {events : List (Event A)} {error : SagaError}
    (h : visit.Fails events error) (name : String) : error ≠ .notRegistered name := by
  cases h with
  | @unloaded _ error | @refused _ error => cases error <;> exact SagaError.noConfusion
  | uncorrelated _ _ herror =>
    unfold Registration.correlate at herror
    split at herror
    · cases herror
    · rw [← Except.error.inj herror]
      exact SagaError.noConfusion
  | _ => exact SagaError.noConfusion

/-- **A request for one registered saga type reaches it**, and nothing else. -/
theorem reaches (hreached : orchestrator.directory.Reached log)
    (hmem : registration ∈ orchestrator.directory.registrations)
    (hhandler : registration.handler? request.message.type = some (stage, handler))
    {sagaId : String} (hid : stage ≠ .start → registration.correlate request.message = .ok sagaId)
    (htarget : request.target = some registration.saga.type)
    (huncancelled : w.signals.isCancelled request.signal = false) :
    orchestrator.Reaches nesting request w registration stage
      ⟨registration.saga.type.name, sagaId⟩ := by
  have hsend := orchestrator.below_free (Law.trivial _) nesting
  refine ⟨fun name hanswer => ?_, turns_of_target hreached hmem htarget, ?_⟩
  · rw [answer_eq, selected_of_mem hreached hmem htarget] at hanswer
    rcases gathered_eq_error hanswer with hfound | ⟨-, key, fault, -, hfailed⟩
    · obtain ⟨turn, hturn, herror⟩ := List.exists_of_findSome?_eq_some hfound
      exact ne_notRegistered (turn_fails hturn herror) name rfl
    · cases hfailed
  · by_cases hstart : stage = .start
    · subst hstart
      exact Visit.approaches_of_start (w := begun w) hsend huncancelled hhandler
    · exact Visit.approaches_of_stage (w := begun w) hsend huncancelled hstart hhandler (hid hstart)

/-! ## The record that the step had loaded -/

/-- From an attempt on, up to whatever comes after its delivery, a run is one passage. -/
theorem exists_across_of_attempt {R : World A → List (Entry A) → World A → Prop}
    (hR : Law orchestrator.gateways R)
    (houtside : ∀ {w w' : World A}, Undisturbed w w' → R w [] w')
    (hmem : turn ∈ orchestrator.turns nesting request w) (hstage : stage ≠ .start)
    (hhandler : turn.registration.handler? request.message.type = some (stage, handler))
    {sagaId : String} (hid : turn.registration.correlate request.message = .ok sagaId)
    {trial : Trial A}
    (htrial : trial ∈ (orchestrator.visitOf nesting request turn).trials stage handler
      ⟨turn.registration.saga.type.name, sagaId⟩ turn.before) (moves : List (Move A)) :
    ∃ es, Across (fun _ => True) R trial.before es
      (orchestrator.follow moves (orchestrator.deliver nesting request w).2) := by
  let visit := orchestrator.visitOf nesting request turn
  obtain ⟨-, -, hturn⟩ := turns_visits nesting request w turn hmem
  obtain ⟨earlier, later, hturns⟩ := List.append_of_mem hmem
  obtain ⟨front, back, htrials⟩ := List.append_of_mem htrial
  -- the rest of the turn, the rest of the delivery, and the moves after it
  have hsend : Sends (fun _ => True) R visit.send := orchestrator.below_free hR nesting
  obtain ⟨-, hown, hrest⟩ := Visit.trialsFrom_across hR hsend (fun _ _ _ => trivial) htrials
  obtain ⟨-, -, hothers⟩ := turns_across hR hturns
  obtain ⟨es, hmoves⟩ :=
    follow_across hR houtside moves (orchestrator.deliver nesting request w).2
  have hafter : turn.after = ((visit.attempts stage handler
      ⟨turn.registration.saga.type.name, sagaId⟩
      orchestrator.config.concurrencyRetries.toNat 0).run turn.before).2 := by
    rw [← hturn]
    exact congrArg Prod.snd (visit.dispatch_run_attempts hstage hhandler hid _)
  rw [← hafter] at hrest
  have hdelivery := (hown.trans hR.trans hrest).trans hR.trans
    (hothers.mono (fun _ _ => trivial) id)
  exact ⟨_, hdelivery.trans hR.trans (hmoves.mono (fun _ _ => trivial) id)⟩

/-- **A redelivered step starts from what the attempt that asked had started from**, as long as no
version of the record was saved since. -/
theorem startsFrom_again {stored : Store → Key → Option Record}
    (hremembers : orchestrator.gateways.Remembers stored)
    (hmem : turn ∈ orchestrator.turns nesting request w) (hstage : stage ≠ .start)
    (hhandler : turn.registration.handler? request.message.type = some (stage, handler))
    {sagaId : String} (hid : turn.registration.correlate request.message = .ok sagaId)
    {last : Trial A} {record : Record} {state : A.State}
    (hfrom : (orchestrator.visitOf nesting request turn).CameFrom stage handler
      ⟨turn.registration.saga.type.name, sagaId⟩ turn last record state)
    {moves : List (Move A)} {w' : World A}
    (hw' : w' = orchestrator.follow moves (orchestrator.deliver nesting request w).2)
    (hnone : versions ⟨turn.registration.saga.type.name, sagaId⟩
      (w'.history.drop last.before.history.length) = [])
    {nesting' : Nat} {first : Trial A} {later : List (Trial A)}
    (hfirst : (orchestrator.visitOf nesting' again turn).trials stage handler
      ⟨turn.registration.saga.type.name, sagaId⟩ (begun w') = first :: later) :
    (orchestrator.visitOf nesting' again turn).StartsFrom
      ⟨turn.registration.saga.type.name, sagaId⟩ record state first := by
  -- what was stored when the attempt began is still stored
  obtain ⟨es, hacross⟩ := exists_across_of_attempt
    (hremembers.law ⟨turn.registration.saga.type.name, sagaId⟩) (hremembers.outside _) hmem hstage
    hhandler hid hfrom.mem moves
  rw [← hw'] at hacross
  rw [hacross.history, List.drop_left] at hnone
  have hstill := hacross.law hnone
  have hmine : first ∈ (orchestrator.visitOf nesting' again turn).trials stage handler
      ⟨turn.registration.saga.type.name, sagaId⟩ (begun w') := by
    rw [hfirst]
    exact List.mem_cons_self
  have hanew := Visit.startsAnew_of_mem (orchestrator.below_free (Law.trivial _) nesting') hmine
  refine Visit.startsFrom hanew hfrom.decoded fun found hfound => ?_
  rw [hremembers.load _ _ _ _ hfound, hremembers.load _ _ _ _ hfrom.answered, ← hstill,
    Visit.before_of_head hfirst]
  rfl

/-- **Redeliveries are exact.** For every redelivery that the report of a delivery asks for: the
saga that asked is found again, it runs in the same stage and for the same instance, and it runs
alone. If the store remembers what it is given, and no version of the record was saved since the
attempt that asked had loaded it, the redelivered step starts from the same record and the same
state. -/
theorem redelivery_exact (orchestrator : Orchestrator A) {log : List (Directory.Logged A)}
    (hreached : orchestrator.directory.Reached log) (nesting : Nat) (request : Request A.Body)
    (w : World A) (asked : RetryRequest)
    (hasked : asked ∈ redeliveries (orchestrator.deliver nesting request w).1) :
    ∃ turn ∈ orchestrator.turns nesting request w, ∃ stage handler,
      turn.Asks request.message.type asked stage handler ∧
      (∀ nesting' again w', again.message = request.message → again.target = some asked.saga →
        w'.signals.isCancelled again.signal = false →
        orchestrator.Reaches nesting' again w' turn.registration stage
          ⟨asked.saga.name, asked.sagaId⟩) ∧
      (stage ≠ .start → ∃ last record state,
        (orchestrator.visitOf nesting request turn).CameFrom stage handler
          ⟨asked.saga.name, asked.sagaId⟩ turn last record state ∧
        ∀ stored, orchestrator.gateways.Remembers stored → ∀ moves nesting' again,
          let w' := orchestrator.follow moves (orchestrator.deliver nesting request w).2
          versions ⟨asked.saga.name, asked.sagaId⟩
            (w'.history.drop last.before.history.length) = [] →
          ∀ first later, (orchestrator.visitOf nesting' again turn).trials stage handler
              ⟨asked.saga.name, asked.sagaId⟩ (begun w') = first :: later →
            (orchestrator.visitOf nesting' again turn).StartsFrom
              ⟨asked.saga.name, asked.sagaId⟩ record state first) := by
  obtain ⟨turn, hmem, stage, handler, hasks, hid⟩ := exists_asks hasked
  obtain ⟨hreg, -, hturn⟩ := turns_visits nesting request w turn hmem
  refine ⟨turn, hmem, stage, handler, hasks, ?_, fun hstage => ?_⟩
  · intro nesting' again w' hmessage htarget huncancelled
    rw [← hasks.saga] at htarget ⊢
    exact reaches hreached hreg (hmessage ▸ hasks.handler) (hmessage ▸ hid) htarget huncancelled
  · rw [← hasks.saga]
    obtain ⟨settled, hresult, -⟩ := hasks.result
    have hsend : Sends (fun _ => True) (fun _ _ _ => True)
        (orchestrator.visitOf nesting request turn).send :=
      orchestrator.below_free (Law.trivial _) nesting
    obtain ⟨last, record, state, hfrom⟩ := Visit.exists_cameFrom hsend hstage hasks.handler
      (hid hstage) ((congrArg Turn.result hturn).trans hresult)
    rw [hturn] at hfrom
    refine ⟨last, record, state, hfrom, ?_⟩
    intro stored hremembers moves nesting' again w' hnone first later hfirst
    exact startsFrom_again hremembers hmem hstage hasks.handler (hid hstage) hfrom rfl hnone hfirst

/-! ### Patients

Two saga types of one name. Both change their state and then ask for a redelivery, the first time
that they are asked. -/

section

open Simulation

/-- The message that patients want again. -/
def askAgain : Message Body := messageTo 10 "AskAgain"

/-- A saga type of patients. -/
def patientSpec (id : Nat) : SagaSpec where
  type := ⟨id, "Patient"⟩
  declarations := [(.start, openCounter.type), (.step, askAgain.type)]
  correlations := [(askAgain.type, .id)]
  scripts := [
    (openCounter.type, ⟨[.addAmount], [.proceed none]⟩),
    (askAgain.type, ⟨[.addAmount], [.retry none none, .proceed none]⟩)]
  created := none
  forgetsToken := false

/-- An orchestrator of two saga types of patients, over the gateways in memory. -/
def patients : Orchestrator Scripted where
  directory :=
    ((Directory.empty.register (patientSpec 4).toSaga).1.register (patientSpec 5).toSaga).1
  gateways := .inMemory (Factories.resolve
    (Factories.register (patientSpec 5).type .fresh
      (Factories.register (patientSpec 4).type .fresh [])))
  chain := []
  config := .default

/-- One patient is there. -/
def onePatient : World Scripted :=
  patients.follow [.deliver 2 (requestFor (some (patientSpec 4).type) openCounter)]
    (World.ofResources emptyBench)

/-- Both saga types ask for a redelivery, and the one that the second type asked for reaches the
second type only. It starts from what the second type had started from. -/
theorem redelivery_exact_patients :
    let request := requestFor none askAgain
    let asked : RetryRequest := ⟨(patientSpec 5).type, "c", none, none⟩
    let again := requestFor (some (patientSpec 5).type) askAgain
    let w' := (patients.deliver 2 request onePatient).2
    ∃ turn ∈ patients.turns 2 request onePatient, ∃ handler,
      turn.Asks askAgain.type asked .step handler ∧
      patients.Reaches 2 again w' turn.registration .step ⟨"Patient", "c"⟩ ∧
      ∃ last record state,
        (patients.visitOf 2 request turn).CameFrom .step handler ⟨"Patient", "c"⟩ turn last record
          state ∧
        ∀ first later, (patients.visitOf 2 again turn).trials .step handler ⟨"Patient", "c"⟩
            (begun w') = first :: later →
          (patients.visitOf 2 again turn).StartsFrom ⟨"Patient", "c"⟩ record state first := by
  intro request asked again w'
  obtain ⟨turn, hmem, stage, handler, hasks, hreaches, hresumes⟩ :=
    patients.redelivery_exact (.register (.register .empty _) _) 2 request onePatient asked
      (by decide +kernel)
  have hstage : ∀ turn ∈ patients.turns 2 request onePatient,
      (turn.registration.handler? askAgain.type).map (·.1) = some .step := by decide +kernel
  have hsaved : ∀ turn ∈ patients.turns 2 request onePatient,
      ∀ pair ∈ turn.registration.handler? askAgain.type,
      ∀ last ∈ (patients.visitOf 2 request turn).trials pair.1 pair.2 ⟨"Patient", "c"⟩ turn.before,
        (versions ⟨"Patient", "c"⟩ (w'.history.drop last.before.history.length)).length = 0 := by
    decide +kernel
  have hhandler : turn.registration.handler? askAgain.type = some (stage, handler) := hasks.handler
  have hstep := hstage turn hmem
  rw [hhandler] at hstep
  obtain rfl : stage = .step := Option.some.inj hstep
  obtain ⟨last, record, state, hfrom, hagain⟩ := hresumes (by decide)
  refine ⟨turn, hmem, handler, hasks, hreaches 2 again w' rfl rfl (by decide +kernel), last, record,
    state, hfrom, hagain _ (by exact .inMemory _) [] 2 again ?_⟩
  exact List.eq_nil_of_length_eq_zero (hsaved turn hmem _ hhandler last hfrom.mem)

end

end Orchestrator

end Sagas
