import Sagas.Proofs.Acceptance
import Sagas.Proofs.Answers
import Sagas.Proofs.Mirrors

/-!
# A delivery as calls in a row

To deliver a message to every saga that reacts to it comes to the same as to deliver it to one saga
type after the other, in the order of registration, up to a call that ends in another error than
that of a failed saga.

* `deliverEach`, `joined`: the calls, and what their answers make together.
* `deliver_turn`: the call for one saga type does what its turn does.
* `deliver_composed`: the delivery and the calls.
-/

namespace Sagas

variable {A : Application}

/-- The answer to a call for the saga of a turn only. -/
def Turn.answer (turn : Turn A) (messageType : MessageType) : Answer :=
  turn.result.bind fun settled => Orchestrator.answerOf messageType settled.toList

namespace Orchestrator

/-! ## The calls -/

/-- An error after which no other call is made: any but that of a failed saga. -/
def stopping? : Answer → Option SagaError
  | .ok _ | .error (.failed ..) => none
  | .error error => some error

/-- Delivers a message to one saga type. -/
def deliverTo (orchestrator : Orchestrator A) (nesting : Nat) (request : Request A.Body)
    (registration : Registration A) : Run A Answer :=
  orchestrator.deliver nesting { request with target := some registration.saga.type }

/-- Delivers a message to some registrations, by a call for each of them. -/
def deliverEach (orchestrator : Orchestrator A) (nesting : Nat) (request : Request A.Body) :
    List (Registration A) → Run A (List Answer)
  | [] => return []
  | registration :: rest => do
    let answer ← orchestrator.deliverTo nesting request registration
    match stopping? answer with
    | some _ => return [answer]
    | none => return answer :: (← orchestrator.deliverEach nesting request rest)

/-- The error of an answer. -/
def failing? : Answer → Option SagaError
  | .ok _ => none
  | .error error => some error

/-- The outcomes in an answer. -/
def outcomes : Answer → List Outcome
  | .ok report => report.outcomes
  | .error _ => []

/-- What the answers of several calls make together: the error that no other call was made after,
or else the first error, or else all outcomes. -/
def joined (messageType : MessageType) (answers : List Answer) : Answer :=
  match answers.findSome? stopping? with
  | some error => .error error
  | none => match answers.findSome? failing? with
    | some error => .error error
    | none => .ok { messageType, outcomes := answers.flatMap outcomes }

/-- How the world after some calls for one message differs from that after a single one. -/
structure Apart (calls : Nat) (w w' : World A) : Prop where
  resources : w'.toResources = w.toResources
  journal : w'.journal = w.journal
  attempts : w'.attempts = w.attempts
  depth : w'.depth = w.depth
  truncated : w'.truncated = w.truncated
  /-- What is counted, but for the messages. -/
  counters : w'.metrics.filter (· ≠ .messagesHandled) = w.metrics.filter (· ≠ .messagesHandled)
  handled : w'.metrics.count .messagesHandled + 1 = w.metrics.count .messagesHandled + calls

/-! ## The answers of turns -/

section

variable {messageType : MessageType} {turn : Turn A} {turns : List (Turn A)}

/-- The error of an answer to settled steps is that of the first one that failed. -/
theorem failing?_answerOf (settled : List Settled) :
    failing? (answerOf messageType settled) =
      (failures settled).head?.map fun (key, error) => .failed key error := by
  unfold answerOf
  cases failures settled with
  | nil => rfl
  | cons failure rest => rfl

theorem stopping?_answerOf (settled : List Settled) :
    stopping? (answerOf messageType settled) = none := by
  unfold answerOf
  cases failures settled with
  | nil => rfl
  | cons failure rest => rfl

theorem outcomes_answerOf {settled : List Settled} (h : failures settled = []) :
    outcomes (answerOf messageType settled) = settled.map (·.outcome) := by
  unfold answerOf
  rw [h]
  rfl

/-- A turn stops the calls exactly if it ends in an error. -/
theorem stopping?_answer (h : ∀ key fault, turn.error? ≠ some (.failed key fault)) :
    stopping? (turn.answer messageType) = turn.error? := by
  obtain ⟨registration, before, result, after⟩ := turn
  cases result with
  | ok settled => exact stopping?_answerOf settled.toList
  | error error =>
    cases error with
    | failed key fault => exact absurd rfl (h key fault)
    | _ => rfl

theorem findSome?_stopping?_answer
    (h : ∀ turn ∈ turns, ∀ key fault, turn.error? ≠ some (.failed key fault)) :
    (turns.map (·.answer messageType)).findSome? stopping? = turns.findSome? Turn.error? := by
  induction turns with
  | nil => rfl
  | cons turn turns ih =>
    obtain ⟨hturn, hturns⟩ := List.forall_mem_cons.1 h
    rw [List.map_cons, List.findSome?_cons, List.findSome?_cons, stopping?_answer hturn, ih hturns]

theorem answer_of_error?_eq_none (h : turn.error? = none) :
    turn.answer messageType = answerOf messageType turn.settled?.toList := by
  unfold Turn.answer
  rw [Turn.result_eq_ok h]
  rfl

theorem filterMap_settled?_cons (turn : Turn A) (turns : List (Turn A)) :
    (turn :: turns).filterMap Turn.settled? =
      turn.settled?.toList ++ turns.filterMap Turn.settled? := by
  rw [List.filterMap_cons]
  cases turn.settled? <;> rfl

/-- Of turns without errors, the first error among the answers is the first failure. -/
theorem findSome?_failing?_answer (h : ∀ turn ∈ turns, turn.error? = none) :
    (turns.map (·.answer messageType)).findSome? failing? =
      (failures (turns.filterMap Turn.settled?)).head?.map fun (key, error) =>
        .failed key error := by
  induction turns with
  | nil => rfl
  | cons turn turns ih =>
    obtain ⟨hturn, hturns⟩ := List.forall_mem_cons.1 h
    rw [filterMap_settled?_cons, failures_append, List.head?_append, List.map_cons,
      List.findSome?_cons, answer_of_error?_eq_none hturn, failing?_answerOf, ih hturns]
    cases (failures turn.settled?.toList).head? <;> rfl

/-- Of turns without errors or failures, the answers have all outcomes. -/
theorem flatMap_outcomes_answer (h : ∀ turn ∈ turns, turn.error? = none)
    (hnone : failures (turns.filterMap Turn.settled?) = []) :
    (turns.map (·.answer messageType)).flatMap outcomes =
      (turns.filterMap Turn.settled?).map (·.outcome) := by
  induction turns with
  | nil => rfl
  | cons turn turns ih =>
    obtain ⟨hturn, hturns⟩ := List.forall_mem_cons.1 h
    rw [filterMap_settled?_cons, failures_append, List.append_eq_nil_iff] at hnone
    rw [filterMap_settled?_cons, List.map_append, List.map_cons, List.flatMap_cons,
      ih hturns hnone.2, answer_of_error?_eq_none hturn, outcomes_answerOf hnone.1]

/-- **The answers of turns make the answer of their delivery.** -/
theorem joined_answers (h : ∀ turn ∈ turns, ∀ key fault, turn.error? ≠ some (.failed key fault)) :
    joined messageType (turns.map (·.answer messageType)) =
      (gathered turns).bind (answerOf messageType) := by
  unfold joined gathered
  rw [findSome?_stopping?_answer h]
  cases hall : turns.findSome? Turn.error? with
  | some error => rfl
  | none =>
    have hnone := List.findSome?_eq_none_iff.1 hall
    simp only [findSome?_failing?_answer hnone]
    change _ = answerOf messageType _
    unfold answerOf
    cases hfailures : failures (turns.filterMap Turn.settled?) with
    | nil => simp [flatMap_outcomes_answer hnone hfailures]
    | cons failure rest => rfl

end

end Orchestrator

/-- A single turn makes the answer of its delivery alone. -/
theorem gathered_singleton (turn : Turn A) (messageType : MessageType) :
    (gathered [turn]).bind (Orchestrator.answerOf messageType) = turn.answer messageType := by
  rw [Orchestrator.gathered_cons]
  unfold Turn.answer
  cases turn.result with
  | error error => rfl
  | ok settled =>
    change Orchestrator.answerOf messageType (settled.toList ++ []) = _
    rw [List.append_nil]
    rfl

/-! ## One call and one turn -/

theorem Attempt.run_bind_congr {α β : Type} {x : Attempt A α} {f : α → Attempt A β} {w w' : World A}
    (h : x.run w' = x.run w) : (x >>= f).run w' = (x >>= f).run w := by
  rw [ExceptT.run_bind, Run.bind_apply, Run.bind_apply, h]

namespace Visit

variable {visit : Visit A} {handler : Handler A} {stage : Stage}

/-- The failure of a saga comes with an outcome, not with an error of its step. -/
theorem Ends.ne_failed {events : List (Event A)} {error : SagaError}
    (h : visit.Ends events (.error error)) (key : Key) (fault : Fault) :
    error ≠ .failed key fault := by
  rintro rfl
  cases h with
  | stopped _ hquiet => cases hquiet

theorem attempts_run_attempt (key : Key) (reruns made attempt : Nat) (w : World A) :
    (visit.attempts stage handler key reruns made).run { w with attempt } =
      (visit.attempts stage handler key reruns made).run w := by
  cases reruns <;> unfold attempts <;> rfl

/-- A step begins with an attempt of its own, so it does not matter which one came before. -/
theorem dispatch_run_attempt
    (hhandler : (visit.registration.handler? visit.request.message.type).isSome = true)
    (hcorrelates : visit.registration.Correlates) (attempt : Nat) (w : World A) :
    visit.dispatch.run { w with attempt } = visit.dispatch.run w := by
  obtain ⟨⟨stage, handler⟩, hhandler⟩ := Option.isSome_iff_exists.1 hhandler
  by_cases hstage : stage = .start
  · subst hstage
    rw [dispatch_of_start hhandler]
    rfl
  · obtain ⟨sagaId, hok⟩ := hcorrelates _ _ _ hhandler hstage
    rw [dispatch_of_stage hstage hhandler, advance, hok]
    exact Attempt.run_bind_congr (attempts_run_attempt _ _ 0 attempt w)

end Visit

namespace Orchestrator

/-- How the counters differ after some calls for one message. -/
def Offset (calls : Nat) (metrics metrics' : List Metric) : Prop :=
  metrics'.filter (· ≠ .messagesHandled) = metrics.filter (· ≠ .messagesHandled) ∧
    metrics'.count .messagesHandled + 1 = metrics.count .messagesHandled + calls

theorem counts_offset (calls : Nat) : Counts (Offset calls) := by
  rintro metrics metrics' new ⟨hcounters, hhandled⟩
  refine ⟨?_, ?_⟩
  · rw [List.filter_append, List.filter_append, hcounters]
  · rw [List.count_append, List.count_append]
    omega

/-- One more call, which counts the message once more. -/
theorem Offset.succ {calls : Nat} {metrics metrics' : List Metric}
    (h : Offset calls metrics metrics') :
    Offset (calls + 1) metrics (.messagesHandled :: metrics') := by
  obtain ⟨hcounters, hhandled⟩ := h
  refine ⟨by simpa using hcounters, ?_⟩
  rw [List.count_cons_self]
  omega

/-- Both descriptions of the difference say the same. -/
theorem apart_iff {calls : Nat} {w w' : World A} : Apart calls w w' ↔
    ∃ metrics trace attempt, w' = { w with metrics, trace, attempt } ∧
      Offset calls w.metrics metrics := by
  constructor
  · rintro ⟨hresources, hjournal, hattempts, hdepth, htruncated, hcounters, hhandled⟩
    refine ⟨w'.metrics, w'.trace, w'.attempt, ?_, hcounters, hhandled⟩
    rw [← hresources, ← hjournal, ← hattempts, ← hdepth, ← htruncated]
  · rintro ⟨metrics, trace, attempt, rfl, hcounters, hhandled⟩
    exact ⟨rfl, rfl, rfl, rfl, rfl, hcounters, hhandled⟩

variable {orchestrator : Orchestrator A} {log : List (Directory.Logged A)} {nesting calls : Nat}
  {request : Request A.Body} {registration : Registration A} {w w' : World A}

/-- **The call for one saga type** does what its turn in a delivery does. -/
theorem deliver_turn (hreached : orchestrator.directory.Reached log)
    (hmem : registration ∈ orchestrator.directory.registrations)
    (hhandler : (registration.handler? request.message.type).isSome = true)
    (hapart : Apart calls w w') {turn : Turn A}
    (hturn : turn = Visit.turn
      { orchestrator, send := orchestrator.below nesting, registration, request } w) :
    let call := orchestrator.deliverTo nesting request registration w'
    call.1 = turn.answer request.message.type ∧ Apart (calls + 1) turn.after call.2 := by
  intro call
  let visit : Visit A := { orchestrator, send := orchestrator.below nesting, registration, request }
  have hselected : orchestrator.selected
      { request with target := some registration.saga.type } = .ok [registration] := by
    unfold selected
    simp only [hreached.find?_of_mem hmem]
  obtain ⟨metrics, trace, attempt, hw, hoffset⟩ := apart_iff.1 hapart
  -- the call has one turn, the step of a visit that differs in the target of its request
  let mirror := visit.mirror orchestrator.gateways orchestrator.chain (orchestrator.below nesting)
    (some registration.saga.type)
  have hturns :
      orchestrator.turns nesting { request with target := some registration.saga.type } w' =
        [mirror.turn (begun w')] := by
    unfold turns
    rw [hselected]
    simp only [turnsFrom, ite_self]
    rfl
  have halike : World.Alike (Offset (calls + 1)) { w with attempt := 0 } (begun w') := by
    subst hw
    exact ⟨.messagesHandled :: metrics, trace, rfl, hoffset.succ⟩
  have hmirrors := mirrors_gateways (counts_offset (calls + 1)) (.refl orchestrator.gateways)
  have hagree : AgreeAt (Offset (calls + 1)) { w with attempt := 0 } (begun w')
      visit.dispatch.run mirror.dispatch.run :=
    (hmirrors.visit (hmirrors.below nesting) registration request).dispatch _ _ _ halike
  have hrun : visit.dispatch.run { w with attempt := 0 } = visit.dispatch.run w :=
    Visit.dispatch_run_attempt hhandler (hreached.tabled hmem).correlated 0 w
  unfold AgreeAt at hagree
  rw [hrun] at hagree
  obtain ⟨hresult, metrics', trace', hafter, hoffset'⟩ := hagree
  obtain ⟨trace'', htold⟩ := orchestrator.deliver_told nesting
    { request with target := some registration.saga.type } w'
  rw [hselected, hturns] at htold
  subst hturn
  have hcall : call = _ := htold
  have hanswer : call.1 = (mirror.turn (begun w')).answer request.message.type := by
    rw [hcall]
    exact gathered_singleton _ _
  have hworld : call.2 = { (visit.turn w).after with metrics := metrics', trace := trace'' } := by
    rw [hcall]
    exact congrArg (fun after : World A => { after with trace := trace'' }) hafter
  refine ⟨hanswer.trans ?_, apart_iff.2 ⟨metrics', trace'', _, hworld, hoffset'⟩⟩
  exact congrArg (Except.bind · _) hresult

theorem deliverEach_cons_of_stopping {rest : List (Registration A)} {error : SagaError}
    (h : stopping? (orchestrator.deliverTo nesting request registration w).1 = some error) :
    orchestrator.deliverEach nesting request (registration :: rest) w =
      let call := orchestrator.deliverTo nesting request registration w
      ([call.1], call.2) := by
  unfold deliverEach
  rw [Run.bind_apply, h]
  rfl

theorem deliverEach_cons_of_not_stopping {rest : List (Registration A)}
    (h : stopping? (orchestrator.deliverTo nesting request registration w).1 = none) :
    orchestrator.deliverEach nesting request (registration :: rest) w =
      let call := orchestrator.deliverTo nesting request registration w
      let others := orchestrator.deliverEach nesting request rest call.2
      (call.1 :: others.1, others.2) := by
  conv_lhs => unfold deliverEach
  rw [Run.bind_apply, h]
  rfl

/-- **The calls for some registrations** do what their turns do. -/
theorem deliverEach_turns (hreached : orchestrator.directory.Reached log)
    {registrations : List (Registration A)}
    (hregistered : ∀ registration ∈ registrations,
      registration ∈ orchestrator.directory.registrations ∧
        (registration.handler? request.message.type).isSome = true)
    (hfailed : ∀ turn ∈ orchestrator.turnsFrom (orchestrator.below nesting) request registrations w,
      ∀ key fault, turn.error? ≠ some (.failed key fault))
    (hapart : Apart calls w w') :
    let turns := orchestrator.turnsFrom (orchestrator.below nesting) request registrations w
    let each := orchestrator.deliverEach nesting request registrations w'
    each.1 = turns.map (·.answer request.message.type) ∧
      Apart (calls + each.1.length) (reached w turns) each.2 := by
  induction registrations generalizing w w' calls with
  | nil => exact ⟨rfl, hapart⟩
  | cons registration rest ih =>
    obtain ⟨⟨hmem, hhandler⟩, hrest⟩ := List.forall_mem_cons.1 hregistered
    rw [turnsFrom_cons] at hfailed ⊢
    generalize hturn : Visit.turn
      { orchestrator, send := orchestrator.below nesting, registration, request } w = turn
      at hfailed ⊢
    obtain ⟨hnever, hothers⟩ := List.forall_mem_cons.1 hfailed
    obtain ⟨hanswer, hafter⟩ := deliver_turn hreached hmem hhandler hapart hturn.symm
    have hstops : stopping? (turn.answer request.message.type) = turn.error? :=
      stopping?_answer hnever
    rw [← hanswer] at hstops
    cases herror : turn.error? with
    | some error =>
      -- the turns end here, and so do the calls
      rw [herror] at hstops
      rw [deliverEach_cons_of_stopping hstops, if_neg nofun]
      exact ⟨congrArg (fun answer => [answer]) hanswer, hafter⟩
    | none =>
      rw [herror] at hstops
      rw [if_pos herror] at hothers
      obtain ⟨hanswers, hend⟩ := ih hrest hothers hafter
      rw [deliverEach_cons_of_not_stopping hstops, if_pos rfl]
      refine ⟨congrArg₂ List.cons hanswer hanswers, ?_⟩
      simp only [List.length_cons]
      rw [Nat.add_comm _ 1, ← Nat.add_assoc]
      exact hend

/-- The registrations that no call is made for do not matter. -/
theorem deliverEach_take (registrations : List (Registration A)) (w : World A) :
    orchestrator.deliverEach nesting request
        (registrations.take (orchestrator.deliverEach nesting request registrations w).1.length) w =
      orchestrator.deliverEach nesting request registrations w := by
  induction registrations generalizing w with
  | nil => rfl
  | cons registration rest ih =>
    cases hstops : stopping? (orchestrator.deliverTo nesting request registration w).1 with
    | some error =>
      rw [deliverEach_cons_of_stopping hstops]
      exact deliverEach_cons_of_stopping hstops
    | none =>
      rw [deliverEach_cons_of_not_stopping hstops]
      simp only [List.length_cons, List.take_succ_cons]
      rw [deliverEach_cons_of_not_stopping hstops]
      dsimp only
      rw [ih]

/-! ## The delivery -/

/-- The failure of a saga is no error of its turn. -/
theorem error?_ne_failed {turn : Turn A} (hmem : turn ∈ orchestrator.turns nesting request w)
    (key : Key) (fault : Fault) : turn.error? ≠ some (.failed key fault) := by
  intro herror
  have hends := turn_ends hmem
  rw [Turn.result_eq_error herror] at hends
  exact hends.ne_failed key fault rfl

/-- **A delivery is made of calls for one saga type each**, in the order of registration: it has
their effects, and its answer is made of theirs. Only the log, and how often the message is counted,
tell them apart. What is registered after a call that stopped the others is left alone. -/
theorem deliver_composed (orchestrator : Orchestrator A) {log : List (Directory.Logged A)}
    (hreached : orchestrator.directory.Reached log) (nesting : Nat) (request : Request A.Body)
    (htarget : request.target = none) (w : World A) :
    let registrations := orchestrator.directory.registrations.filter
      (·.capabilities.reactsTo request.message.type)
    let one := orchestrator.deliver nesting request w
    let each := orchestrator.deliverEach nesting request registrations w
    one.1 = joined request.message.type each.1 ∧ Apart each.1.length one.2 each.2 ∧
      orchestrator.deliverEach nesting request (registrations.take each.1.length) w = each := by
  intro registrations one each
  have hselected : orchestrator.selected request = .ok registrations := by
    unfold selected
    rw [htarget]
    exact congrArg Except.ok (hreached.indexed.matching_eq request.message.type)
  have hturns : orchestrator.turns nesting request w =
      orchestrator.turnsFrom (orchestrator.below nesting) request registrations (begun w) := by
    unfold turns
    rw [hselected]
  have hregistered : ∀ registration ∈ registrations,
      registration ∈ orchestrator.directory.registrations ∧
        (registration.handler? request.message.type).isSome = true := by
    intro registration hmem
    have hmatching : registration ∈ orchestrator.directory.matching request.message.type := by
      rw [hreached.indexed.matching_eq]
      exact hmem
    exact ⟨(List.mem_filter.1 hmem).1, hreached.handles hmatching⟩
  have hfailed : ∀ turn ∈ orchestrator.turns nesting request w,
      ∀ key fault, turn.error? ≠ some (.failed key fault) := fun _ => error?_ne_failed
  have hapart : Apart 0 (begun w) w :=
    apart_iff.2 ⟨w.metrics, w.trace, w.attempt, rfl, by simp [begun], by simp [begun]⟩
  obtain ⟨hanswers, hworlds⟩ := deliverEach_turns hreached hregistered (hturns ▸ hfailed) hapart
  obtain ⟨trace, htold⟩ := orchestrator.deliver_told nesting request w
  rw [← hturns] at hanswers hworlds
  rw [hselected] at htold
  have hone : one = _ := htold
  refine ⟨?_, ?_, deliverEach_take registrations w⟩
  · rw [hone, show each.1 = _ from hanswers, joined_answers hfailed]
    rfl
  · rw [Nat.zero_add] at hworlds
    rw [hone]
    exact ⟨hworlds.resources, hworlds.journal, hworlds.attempts, hworlds.depth, hworlds.truncated,
      hworlds.counters, hworlds.handled⟩

open Simulation in
/-- The first saga of a pair asks for a redelivery, and the second one fails: two calls, and the
answer is the failure. -/
theorem deliver_composed_pair :
    let request := requestFor none askThenFail
    let registrations := (pair "Second").directory.registrations.filter
      (·.capabilities.reactsTo request.message.type)
    let one := (pair "Second").deliver 2 request (World.ofResources emptyBench)
    let each := (pair "Second").deliverEach 2 request registrations (World.ofResources emptyBench)
    each.1.map failing? = [none, some (.failed ⟨"Second", "c"⟩ (.text "second"))] ∧
      one.1 = joined request.message.type each.1 ∧ Apart each.1.length one.2 each.2 ∧
      (pair "Second").deliverEach 2 request (registrations.take each.1.length)
        (World.ofResources emptyBench) = each :=
  have hreached :=
    (Directory.Reached.empty.register firstSpec.toSaga).register (secondSpec "Second").toSaga
  ⟨by decide +kernel, deliver_composed (pair "Second") hreached 2 _ rfl _⟩

end Orchestrator

end Sagas
