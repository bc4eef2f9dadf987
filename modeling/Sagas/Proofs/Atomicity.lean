import Sagas.Proofs.Endings
import Sagas.Proofs.Scripts

/-!
# The effects of a step that ends in an error

The result of a step tells which of its own effects took place. Up to the save there is none,
however many reruns there were; after it the only errors are that the message could not be
published and that the saga failed.

* `Dispatches.effects`: the effects of a step, by its result.
* `call_atomic`: the effects of a call for one saga type that ends in an error.
-/

namespace Sagas

variable {A : Application}

/-- Whether an event changed the store or the outbox. -/
def Event.isEffect : Event A → Bool
  | .saved _ (.ok _) | .published _ (.ok _) => true
  | _ => false

/-- The events that changed the store or the outbox. -/
def effectsOf (events : List (Event A)) : List (Event A) := events.filter Event.isEffect

/-- The effects of a step, by its result. -/
inductive StepEffects : Except SagaError Settled → List (Event A) → Prop where
  | nothing {error} : error.isAfterSave = false → StepEffects (.error error) []
  | redelivered {settled} : settled.failure = none → StepEffects (.ok settled) []
  | silent {settled record token} : record.toKey = settled.outcome.key →
      (settled.failure ≠ none → record.status = .failed) →
      StepEffects (.ok settled) [.saved record (.ok token)]
  | published {settled record token outgoing} : record.toKey = settled.outcome.key →
      (settled.failure ≠ none → record.status = .failed) →
      StepEffects (.ok settled) [.saved record (.ok token), .published outgoing (.ok ())]
  | unpublished {record token source} :
      StepEffects (.error (.publish record.toKey source)) [.saved record (.ok token)]

/-- The effects of a call for one saga type, by its error. -/
inductive CallEffects : SagaError → List (Event A) → Prop where
  | failed {record token source} : record.status = .failed →
      CallEffects (.failed record.toKey source) [.saved record (.ok token)]
  | failedPublished {record token source outgoing} : record.status = .failed →
      CallEffects (.failed record.toKey source)
        [.saved record (.ok token), .published outgoing (.ok ())]
  | unpublished {record token source} :
      CallEffects (.publish record.toKey source) [.saved record (.ok token)]
  | nothing {error} : error.isAfterSave = false → CallEffects error []

theorem effectsOf_append (events events' : List (Event A)) :
    effectsOf (events ++ events') = effectsOf events ++ effectsOf events' :=
  List.filter_append events events'

theorem effectsOf_idle {events : List (Event A)} (h : Idle events) : effectsOf events = [] := by
  refine List.filter_eq_nil_iff.2 fun event hmem => ?_
  have hidle := h event hmem
  unfold Event.isEffect
  split <;> simp [Event.isIdle] at hidle ⊢

/-- Up to the end of its handler a step has no effects. -/
theorem effectsOf_returned {before after : List (Event A)} {step : StepInfo} {left : A.State}
    {result : HandlerResult A.Body} (hbefore : Idle before) :
    effectsOf (before ++ .returned step left result :: after) = effectsOf after := by
  rw [effectsOf_append, effectsOf_idle hbefore]
  rfl

/-! ## Steps -/

namespace Visit

variable {visit : Visit A} {events : List (Event A)}

/-- **The step of one saga**: a step without a result had no effects, and was no error. -/
theorem Dispatches.effects {result : Except SagaError (Option Settled)}
    (h : visit.Dispatches events result) :
    (result = .ok none ∧ effectsOf events = []) ∨
      ∃ result', result = result'.map some ∧ StepEffects result' (effectsOf events) := by
  cases h.ends with
  | skipped => exact .inl ⟨rfl, rfl⟩
  | stopped hidle hquiet =>
    rw [effectsOf_idle hidle]
    exact .inr ⟨.error _, rfl, .nothing hquiet⟩
  | redelivered hbefore =>
    rw [effectsOf_returned hbefore]
    exact .inr ⟨.ok _, rfl, .redelivered rfl⟩
  | silent hbefore hsaving =>
    rw [effectsOf_returned hbefore]
    exact .inr ⟨.ok _, rfl, .silent hsaving.key (status_of_failure? hsaving.status)⟩
  | published hbefore hsaving =>
    rw [effectsOf_returned hbefore]
    exact .inr ⟨.ok _, rfl, .published hsaving.key (status_of_failure? hsaving.status)⟩
  | unpublished hbefore hsaving =>
    rw [effectsOf_returned hbefore, ← hsaving.key]
    exact .inr ⟨.error _, rfl, .unpublished⟩

end Visit

/-! ## Calls for one saga type -/

namespace Orchestrator

variable {orchestrator : Orchestrator A} {send : Request A.Body → Run A Answer}
  {request : Request A.Body} {registration : Registration A} {events : List (Event A)}

theorem effects_of_error {visit : Visit A} {error : SagaError}
    (h : visit.Dispatches events (.error error)) : CallEffects error (effectsOf events) := by
  rcases h.effects with ⟨hok, -⟩ | ⟨result, hresult, heffects⟩
  · cases hok
  · cases result with
    | ok settled => cases hresult
    | error error' =>
      obtain rfl := Except.error.inj hresult
      generalize effectsOf events = effects at heffects
      cases heffects with
      | nothing hquiet => exact .nothing hquiet
      | unpublished => exact .unpublished

theorem effects_of_failure {visit : Visit A} {settled : Settled} {fault : Fault}
    (h : visit.Dispatches events (.ok (some settled))) (hfailure : settled.failure = some fault) :
    CallEffects (.failed settled.outcome.key fault) (effectsOf events) := by
  have hsome : settled.failure ≠ none := by rw [hfailure]; simp
  rcases h.effects with ⟨hok, -⟩ | ⟨result, hresult, heffects⟩
  · cases hok
  · cases result with
    | error error => cases hresult
    | ok settled' =>
      obtain rfl := Option.some.inj (Except.ok.inj hresult)
      generalize effectsOf events = effects at heffects
      cases heffects with
      | redelivered hnone => exact absurd hnone hsome
      | silent hkey hstatus => rw [← hkey]; exact .failed (hstatus hsome)
      | published hkey hstatus => rw [← hkey]; exact .failedPublished (hstatus hsome)

/-- A call for one saga type has the steps of one registration. -/
theorem selected_of_target {saga : SagaType} {registrations : List (Registration A)}
    (htarget : request.target = some saga)
    (h : orchestrator.selected request = .ok registrations) :
    ∃ registration, registrations = [registration] := by
  unfold selected at h
  rw [htarget] at h
  simp only at h
  split at h
  · exact ⟨_, (Except.ok.inj h).symm⟩
  · cases h

theorem isAfterSave_selected {error : SagaError}
    (h : orchestrator.selected request = .error error) : error.isAfterSave = false := by
  obtain ⟨name, rfl⟩ := selected_eq_error h
  rfl

theorem Delivers.effects {saga : SagaType} {error : SagaError}
    (htarget : request.target = some saga)
    (h : orchestrator.Delivers send request events (.error error)) :
    CallEffects error (effectsOf events) := by
  generalize hanswer : Except.error error = answer at h
  cases h with
  | unregistered hselected =>
    obtain rfl := Except.error.inj hanswer
    exact .nothing (isAfterSave_selected hselected)
  | stopped hselected hall =>
    obtain rfl := Except.error.inj hanswer
    obtain ⟨registration, rfl⟩ := selected_of_target htarget hselected
    generalize hresult : Except.error error = result at hall
    cases hall with
    | stopped hdispatches =>
      obtain rfl := Except.error.inj hresult
      exact effects_of_error hdispatches
    | cons hdispatches hrest =>
      -- nothing is left after the only registration
      cases hrest
      cases hresult
  | concluded hselected hall =>
    obtain ⟨registration, rfl⟩ := selected_of_target htarget hselected
    generalize hresult : Except.ok _ = result at hall
    cases hall with
    | stopped => cases hresult
    | cons hdispatches hrest =>
      cases hrest with
      | nil =>
        obtain rfl := Except.ok.inj hresult
        rw [List.append_nil]
        rename_i settled
        cases settled with
        | none => cases hanswer
        | some settled =>
          cases hfailure : settled.failure with
          | none => simp [answerOf, failures, hfailure] at hanswer
          | some fault =>
            have herror : error = .failed settled.outcome.key fault := by
              simpa [answerOf, failures, hfailure] using hanswer
            rw [herror]
            exact effects_of_failure hdispatches hfailure

end Orchestrator

/-! ## What nested deliveries leave -/

theorem Store.apply_of_not_effect {store : Store} {entry : Entry A}
    (h : entry.event.isEffect = false) : store.apply entry = store := by
  unfold apply
  split
  · rename_i he
    rw [he] at h
    cases h
  · rfl

/-- Entries without effects play no part in a replay. -/
theorem replay_filter {p : Entry A → Bool} {entries : List (Entry A)}
    (h : ∀ e ∈ entries, p e = false → e.event.isEffect = false) (store : Store) :
    store.replay (entries.filter p) = store.replay entries := by
  induction entries generalizing store with
  | nil => rfl
  | cons entry entries ih =>
    have hrest := ih (fun e he => h e (List.mem_cons_of_mem _ he))
    cases hp : p entry with
    | true => rw [List.filter_cons_of_pos hp, Store.replay_cons, hrest, Store.replay_cons]
    | false =>
      have hnone : ¬ p entry = true := by simp [hp]
      have hquiet := h entry List.mem_cons_self hp
      rw [List.filter_cons_of_neg hnone, hrest, Store.replay_cons, Store.apply_of_not_effect hquiet]

theorem messages_filter {p : Entry A → Bool} {entries : List (Entry A)}
    (h : ∀ e ∈ entries, p e = false → e.event.isEffect = false) :
    messages (entries.filter p) = messages entries := by
  induction entries with
  | nil => rfl
  | cons entry entries ih =>
    have hrest := ih (fun e he => h e (List.mem_cons_of_mem _ he))
    cases hp : p entry with
    | true => rw [List.filter_cons_of_pos hp, messages_cons, hrest, messages_cons]
    | false =>
      have hnone : ¬ p entry = true := by simp [hp]
      have hquiet : entry.event.message? = none := by
        have heffect := h entry List.mem_cons_self hp
        unfold Event.message?
        split
        · rename_i he
          rw [he] at heffect
          cases heffect
        · rfl
      rw [List.filter_cons_of_neg hnone, hrest, messages_cons, hquiet]
      rfl

/-- The entries of deliveries that were nested into one at this depth. -/
def nestedBelow (depth : Nat) (entries : List (Entry A)) : List (Entry A) :=
  entries.filter fun entry => depth < entry.depth

/-- Without effects of its own a delivery has the effects of the nested ones. -/
theorem isEffect_of_nested {depth : Nat} {entries : List (Entry A)}
    (hplace : ∀ e ∈ entries, e.event.isEngine = true → depth ≤ e.depth)
    (hnone : effectsOf (eventsAt depth entries) = []) :
    ∀ e ∈ entries, decide (depth < e.depth) = false → e.event.isEffect = false := by
  intro entry hmem hdepth
  cases heffect : entry.event.isEffect with
  | false => rfl
  | true =>
    -- not nested, so at the depth of the delivery, and one of its own effects
    have hengine : entry.event.isEngine = true := by
      cases hevent : entry.event <;> first | rfl | (rw [hevent] at heffect; cases heffect)
    have hle := hplace entry hmem hengine
    have hlt : ¬ depth < entry.depth := by simpa using hdepth
    have hat : entry.depth = depth := by omega
    have hevent : entry.event ∈ effectsOf (eventsAt depth entries) := by
      refine List.mem_filter.2 ⟨List.mem_map.2 ⟨entry, ?_, rfl⟩, heffect⟩
      exact List.mem_filter.2 ⟨hmem, by simp [hengine, hat]⟩
    rw [hnone] at hevent
    cases hevent

/-- What a call for one saga type that ends in an error has left between two worlds. -/
structure LeftBy (error : SagaError) (w : World A) (entries : List (Entry A)) (w' : World A) :
    Prop where
  history : w'.history = w.history ++ entries
  store : w'.store = w.store.replay entries
  outbox : w'.outbox = { w.outbox with sent := w.outbox.sent ++ messages entries }
  /-- The call's own effects: a save and perhaps a publish, only a save, or none. -/
  effects : CallEffects error (effectsOf (eventsAt w.depth entries))
  /-- With none, what store and outbox gained was left by nested deliveries. -/
  nested : error.isAfterSave = false →
    w'.store = w.store.replay (nestedBelow w.depth entries) ∧
      w'.outbox =
        { w.outbox with sent := w.outbox.sent ++ messages (nestedBelow w.depth entries) }

/-- **A call for one saga type that ends in an error.** If the saga failed, the call made one
accepted save, with the status failed, and published at most one message after it. If a message
could not be published, it made one accepted save. With any other error it made neither. -/
theorem call_atomic (orchestrator : Orchestrator A) (hmemory : orchestrator.InMemory)
    (nesting : Nat) (request : Request A.Body) (saga : SagaType)
    (htarget : request.target = some saga) (w : World A) (error : SagaError)
    (herror : (orchestrator.deliver nesting request w).1 = .error error) :
    ∃ entries, LeftBy error w entries (orchestrator.deliver nesting request w).2 := by
  obtain ⟨entries, hacross, hdelivers⟩ :=
    Orchestrator.deliver_yields hmemory.law nesting request w
  rw [herror] at hdelivers
  have heffects := hdelivers.effects htarget
  refine ⟨entries, hacross.history, hacross.law.store, hacross.law.outbox, heffects, ?_⟩
  intro hquiet
  -- an error from before the save leaves no effects of its own
  have hnone : effectsOf (eventsAt w.depth entries) = [] := by
    generalize effectsOf (eventsAt w.depth entries) = effects at heffects
    cases heffects with
    | nothing => rfl
    | _ => cases hquiet
  have hnested := isEffect_of_nested (fun e he hc => (hacross.place e he hc).1) hnone
  constructor
  · rw [nestedBelow, replay_filter hnested]
    exact hacross.law.store
  · rw [nestedBelow, messages_filter hnested]
    exact hacross.law.outbox

open Simulation in
/-- Closing a counter fails it, after a save. -/
theorem call_atomic_counters :
    let w := counters.follow (counterMoves.take 2) (World.ofResources emptyBench)
    ∃ entries, LeftBy (.failed ⟨"Counter", "c"⟩ (.text "closed")) w entries
      (counters.deliver 2 (requestTo closeCounter) w).2 :=
  call_atomic counters counters_inMemory 2 (requestTo closeCounter) counterSpec.type rfl _ _
    (eq_error_of_error? (by decide +kernel))

end Sagas
