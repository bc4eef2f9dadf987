import Mathlib.Data.List.Basic
import Sagas.Proofs.Endings
import Sagas.Proofs.Scripts
import Sagas.Proofs.Turns

/-!
# What the caller of a delivery learns

The answer to a message is one for all the sagas that react to it. A report tells everything that
the steps came to. An error tells of one step only: the redeliveries that other sagas asked for are
not in it, and sagas that ran before that step keep what they saved.

* `redeliveries_told_iff`: when the caller learns of every redelivery.
* `retryable_unsaved_iff`: when no saga has saved its step before a retryable error.
* `failure_told`: the error of a call in which a saga failed.
-/

namespace Sagas

variable {A : Application}

/-- The redeliveries that the caller of a delivery learns of. -/
def redeliveries : Answer → List RetryRequest
  | .ok report => report.retryRequests
  | .error _ => []

namespace Turn

/-- The redeliveries that the step of a turn asked for. -/
def asked (turn : Turn A) : List RetryRequest :=
  Sagas.asked turn.registration.saga.type turn.events

/-- The records that the store accepted from the step of a turn. -/
def accepted (turn : Turn A) : List Record := Sagas.accepted turn.events

/-- The step of a turn saved the status failed. -/
def Failed (turn : Turn A) : Prop := ∃ record ∈ turn.accepted, record.status = .failed

instance (turn : Turn A) : Decidable turn.Failed :=
  inferInstanceAs (Decidable (∃ record ∈ turn.accepted, record.status = .failed))

end Turn

namespace Orchestrator

variable {orchestrator : Orchestrator A} {nesting : Nat} {request : Request A.Body} {w : World A}
  {turn : Turn A}

/-- The visit of a turn. -/
abbrev visitOf (orchestrator : Orchestrator A) (nesting : Nat) (request : Request A.Body)
    (turn : Turn A) : Visit A where
  orchestrator
  send := orchestrator.below nesting
  registration := turn.registration
  request

theorem turn_ends (hmem : turn ∈ orchestrator.turns nesting request w) :
    (orchestrator.visitOf nesting request turn).Ends turn.events turn.result :=
  (turns_steps nesting request w turn hmem).ends

/-- What a turn without an error asked for is what it came to. -/
theorem asked_eq (hmem : turn ∈ orchestrator.turns nesting request w) (hnone : turn.error? = none) :
    turn.asked = (turn.settled?.bind (·.outcome.retry)).toList := by
  have hends := turn_ends hmem
  rw [Turn.result_eq_ok hnone] at hends
  exact hends.asked_eq

/-- A turn without an error that saved no failure comes to none. -/
theorem failure_eq_none (hmem : turn ∈ orchestrator.turns nesting request w)
    (hnone : turn.error? = none) (hfailed : ¬ turn.Failed) {settled : Settled}
    (hsettled : turn.settled? = some settled) : settled.failure = none := by
  have hends := turn_ends hmem
  rw [Turn.result_eq_ok hnone, hsettled] at hends
  exact hends.failure_eq_none fun record hrecord hstatus => hfailed ⟨record, hrecord, hstatus⟩

/-- A turn that saved a failure came to that failure, unless it ended in the error of a message
that could not be published. -/
theorem exists_of_failed (hmem : turn ∈ orchestrator.turns nesting request w)
    (hfailed : turn.Failed) :
    ∃ record fault, FailsWith turn.events record fault ∧
      record.sagaType = turn.registration.saga.type.name ∧
      ((turn.error? = none ∧ ∃ settled, turn.settled? = some settled ∧
          settled.outcome.key = record.toKey ∧ settled.failure = some fault) ∨
        ∃ source, turn.error? = some (.publish record.toKey source)) := by
  obtain ⟨record, fault, hfails, hsaga, hresult⟩ := (turn_ends hmem).of_failed hfailed
  refine ⟨record, fault, hfails, hsaga, ?_⟩
  unfold Turn.error? Turn.settled?
  rcases hresult with ⟨settled, hsettled, hkey, hfailure⟩ | ⟨source, herror⟩
  · rw [hsettled]
    exact .inl ⟨rfl, settled, rfl, hkey, hfailure⟩
  · rw [herror]
    exact .inr ⟨source, rfl⟩

/-! ## Answers -/

theorem failures_append (settled settled' : List Settled) :
    failures (settled ++ settled') = failures settled ++ failures settled' :=
  List.filterMap_append

theorem failures_eq_nil {settled : List Settled} (h : ∀ step ∈ settled, step.failure = none) :
    failures settled = [] := by
  refine List.filterMap_eq_nil_iff.2 fun step hmem => ?_
  rw [h step hmem]
  rfl

/-- The first of the steps that failed makes the answer. -/
theorem answerOf_of_failure {messageType : MessageType} {earlier later : List Settled}
    {step : Settled} {fault : Fault} (hearlier : ∀ step ∈ earlier, step.failure = none)
    (hfailure : step.failure = some fault) :
    answerOf messageType (earlier ++ step :: later) = .error (.failed step.outcome.key fault) := by
  have hfirst : failures (earlier ++ step :: later) =
      (step.outcome.key, fault) :: failures later := by
    rw [failures_append, failures_eq_nil hearlier, List.nil_append]
    unfold failures
    rw [List.filterMap_cons, hfailure]
    rfl
  unfold answerOf
  rw [hfirst]

/-- Without a failure the answer tells everything. -/
theorem answerOf_of_no_failure {messageType : MessageType} {settled : List Settled}
    (h : ∀ step ∈ settled, step.failure = none) :
    answerOf messageType settled = .ok { messageType, outcomes := settled.map (·.outcome) } := by
  unfold answerOf
  rw [failures_eq_nil h]

/-- **The first failure of turns without errors is the answer.** -/
theorem answer_of_failed {earlier later : List (Turn A)}
    (hturns : orchestrator.turns nesting request w = earlier ++ turn :: later)
    (hnone : ∀ turn ∈ orchestrator.turns nesting request w, turn.error? = none)
    (hearlier : ∀ turn ∈ earlier, ¬ turn.Failed) {settled : Settled} {fault : Fault}
    (hsettled : turn.settled? = some settled) (hfailure : settled.failure = some fault) :
    (orchestrator.deliver nesting request w).1 = .error (.failed settled.outcome.key fault) := by
  have hne : orchestrator.turns nesting request w ≠ [] := by simp [hturns]
  have hquiet : ∀ step ∈ earlier.filterMap Turn.settled?, step.failure = none := by
    intro step hstep
    obtain ⟨other, hother, hstep⟩ := List.mem_filterMap.1 hstep
    have hmem : other ∈ orchestrator.turns nesting request w := by
      rw [hturns]
      exact List.mem_append_left _ hother
    exact failure_eq_none hmem (hnone other hmem) (hearlier other hother) hstep
  rw [answer_of_settled hne hnone, hturns, List.filterMap_append, List.filterMap_cons, hsettled]
  exact answerOf_of_failure hquiet hfailure

/-! ## Redeliveries -/

theorem redeliveries_of_no_turns (h : orchestrator.turns nesting request w = []) :
    redeliveries (orchestrator.deliver nesting request w).1 = [] := by
  rw [answer_eq, h]
  cases orchestrator.selected request <;> rfl

/-- **Without an error or a failure the caller learns of every redelivery.** -/
theorem redeliveries_eq
    (h : ∀ turn ∈ orchestrator.turns nesting request w, turn.error? = none ∧ ¬ turn.Failed) :
    redeliveries (orchestrator.deliver nesting request w).1 =
      (orchestrator.turns nesting request w).flatMap Turn.asked := by
  by_cases hne : orchestrator.turns nesting request w = []
  · rw [redeliveries_of_no_turns hne, hne]
    rfl
  have hquiet : ∀ step ∈ (orchestrator.turns nesting request w).filterMap Turn.settled?,
      step.failure = none := by
    intro step hstep
    obtain ⟨turn, hmem, hsettled⟩ := List.mem_filterMap.1 hstep
    exact failure_eq_none hmem (h turn hmem).1 (h turn hmem).2 hsettled
  rw [answer_of_settled hne fun turn hmem => (h turn hmem).1, answerOf_of_no_failure hquiet]
  simp only [redeliveries, Report.retryRequests]
  rw [List.filterMap_map, List.filterMap_filterMap, List.filterMap_eq_flatMap_toList]
  -- turn by turn
  refine List.flatMap_congr fun turn hmem => ?_
  rw [asked_eq hmem (h turn hmem).1]
  rfl

/-- The first of some turns that saved a failure. -/
theorem exists_first_failed {turns : List (Turn A)} (h : ∃ turn ∈ turns, turn.Failed) :
    ∃ earlier turn later, turns = earlier ++ turn :: later ∧ turn.Failed ∧
      ∀ other ∈ earlier, ¬ other.Failed := by
  have hsome : (turns.find? (decide <| Turn.Failed ·)).isSome := by
    simpa [List.find?_isSome] using h
  obtain ⟨turn, hfirst⟩ := Option.isSome_iff_exists.1 hsome
  obtain ⟨hfailed, earlier, later, hturns, hearlier⟩ := List.find?_eq_some_iff_append.1 hfirst
  refine ⟨earlier, turn, later, hturns, by simpa using hfailed, fun other hother => ?_⟩
  simpa using hearlier other hother

/-- With an error or a failure the answer is an error. -/
theorem exists_error_of_loud
    (h : ¬ ∀ turn ∈ orchestrator.turns nesting request w, turn.error? = none ∧ ¬ turn.Failed) :
    ∃ error, (orchestrator.deliver nesting request w).1 = .error error := by
  by_cases hnone : ∀ turn ∈ orchestrator.turns nesting request w, turn.error? = none
  · have hfailed : ∃ turn ∈ orchestrator.turns nesting request w, turn.Failed := by
      by_contra hnot
      exact h fun turn hmem => ⟨hnone turn hmem, fun hfailed => hnot ⟨turn, hmem, hfailed⟩⟩
    -- the first failure makes the answer
    obtain ⟨earlier, turn, later, hturns, hfailed, hearlier⟩ := exists_first_failed hfailed
    have hmem : turn ∈ orchestrator.turns nesting request w := by simp [hturns]
    obtain ⟨record, fault, -, -, hresult⟩ := exists_of_failed hmem hfailed
    rcases hresult with ⟨-, settled, hsettled, -, hfailure⟩ | ⟨source, herror⟩
    · exact ⟨_, answer_of_failed hturns hnone hearlier hsettled hfailure⟩
    · exact ⟨_, answer_of_error hmem herror⟩
  · obtain ⟨turn, hmem, hsome⟩ := by simpa using hnone
    obtain ⟨error, herror⟩ := Option.ne_none_iff_exists'.1 hsome
    exact ⟨error, answer_of_error hmem herror⟩

/-- **A redelivery is told or lost.** The caller learns of every redelivery that the sagas asked
for if none of their steps ended in an error or failed its saga, and then of no other; otherwise
it learns of none, so that every redelivery is lost. -/
theorem redeliveries_told_iff (orchestrator : Orchestrator A) (nesting : Nat)
    (request : Request A.Body) (w : World A) :
    let turns := orchestrator.turns nesting request w
    let told := redeliveries (orchestrator.deliver nesting request w).1
    ((∀ asked ∈ turns.flatMap Turn.asked, asked ∈ told) ↔
        turns.flatMap Turn.asked = [] ∨
          ∀ turn ∈ turns, turn.error? = none ∧ ¬ turn.Failed) ∧
      ((∀ turn ∈ turns, turn.error? = none ∧ ¬ turn.Failed) →
        told = turns.flatMap Turn.asked) := by
  intro turns told
  refine ⟨⟨fun htold => ?_, ?_⟩, redeliveries_eq⟩
  · by_cases hquiet : ∀ turn ∈ turns, turn.error? = none ∧ ¬ turn.Failed
    · exact .inr hquiet
    · -- the answer is an error, which tells of no redelivery
      obtain ⟨error, herror⟩ := exists_error_of_loud hquiet
      have hnothing : told = [] := by
        change redeliveries _ = _
        rw [herror]
        rfl
      rw [hnothing] at htold
      refine .inl (List.eq_nil_iff_forall_not_mem.2 fun asked hasked => ?_)
      simpa using htold asked hasked
  · rintro (hnil | hquiet) asked hasked
    · rw [hnil] at hasked
      cases hasked
    · change asked ∈ redeliveries _
      rw [redeliveries_eq hquiet]
      exact hasked

open Simulation in
/-- The first saga of a pair asks for a redelivery. The second one fails, and the caller hears of
that only. -/
theorem redelivery_lost_behind_failure :
    let w := World.ofResources emptyBench
    let request := requestFor none askThenFail
    ¬ ∀ asked ∈ ((pair "Second").turns 2 request w).flatMap Turn.asked,
      asked ∈ redeliveries ((pair "Second").deliver 2 request w).1 := by
  decide +kernel

/-! ## Errors that invite to deliver the message again -/

/-- An error that no saga type and no failed saga accounts for is the one of the last turn. -/
theorem exists_turn_of_error {error : SagaError}
    (hanswer : (orchestrator.deliver nesting request w).1 = .error error)
    (hregistered : ∀ name, error ≠ .notRegistered name)
    (hother : ∀ key fault, error ≠ .failed key fault) :
    ∃ earlier last, orchestrator.turns nesting request w = earlier ++ [last] ∧
      last.error? = some error ∧ ∀ turn ∈ earlier, turn.error? = none := by
  obtain ⟨registrations, hselected⟩ : ∃ registrations,
      orchestrator.selected request = .ok registrations := by
    cases hselected : orchestrator.selected request with
    | ok registrations => exact ⟨registrations, rfl⟩
    | error missing =>
      obtain ⟨name, rfl⟩ := selected_eq_error hselected
      rw [answer_eq, hselected] at hanswer
      exact absurd (Except.error.inj hanswer).symm (hregistered name)
  rw [answer_eq, hselected] at hanswer
  change (gathered _).bind _ = _ at hanswer
  unfold gathered at hanswer
  split at hanswer
  · rename_i found hfound
    obtain rfl : found = error := Except.error.inj hanswer
    obtain ⟨earlier, last, later, hturns, herror, hearlier⟩ := List.findSome?_eq_some_iff.1 hfound
    obtain rfl : later = [] := turns_stop hturns (by simp [herror])
    exact ⟨earlier, last, hturns, herror, hearlier⟩
  · -- all steps together make no other error than that of a failed saga
    change answerOf _ _ = _ at hanswer
    unfold answerOf at hanswer
    split at hanswer
    · cases hanswer
    · exact absurd (Except.error.inj hanswer).symm (hother _ _)

/-- A turn without an error saves, unless its saga does not handle the message or asks for a
redelivery. -/
theorem accepted_eq_nil_iff (hmem : turn ∈ orchestrator.turns nesting request w)
    (hnone : turn.error? = none) :
    turn.accepted = [] ↔
      turn.asked ≠ [] ∨ turn.registration.handler? request.message.type = none := by
  have hstep := turns_steps nesting request w turn hmem
  rw [Turn.result_eq_ok hnone] at hstep
  exact hstep.ends.accepted_eq_nil_iff.trans (or_congr_right hstep.eq_none_iff)

/-- **Before a retryable error sagas may have saved.** A retryable error is the one of the last
step, which saved nothing; the sagas before it keep what they saved. So no saga has saved its step
if and only if each of those asked for a redelivery, or did not handle the message. -/
theorem retryable_unsaved_iff (orchestrator : Orchestrator A) (nesting : Nat)
    (request : Request A.Body) (w : World A) (error : SagaError)
    (hanswer : (orchestrator.deliver nesting request w).1 = .error error)
    (hretry : error.isRetryable = true) :
    ∃ earlier last, orchestrator.turns nesting request w = earlier ++ [last] ∧
      last.error? = some error ∧ last.accepted = [] ∧
      ((∀ turn ∈ orchestrator.turns nesting request w, turn.accepted = []) ↔
        ∀ turn ∈ earlier, turn.asked ≠ [] ∨
          turn.registration.handler? request.message.type = none) := by
  obtain ⟨key, rfl⟩ : ∃ key, error = .conflict key := by
    cases error <;> first | exact ⟨_, rfl⟩ | cases hretry
  obtain ⟨earlier, last, hturns, herror, hearlier⟩ :=
    exists_turn_of_error hanswer (by simp) (by simp)
  have hmem : ∀ turn, turn ∈ orchestrator.turns nesting request w ↔
      turn ∈ earlier ∨ turn = last := by
    simp [hturns]
  have hlast : last.accepted = [] := by
    have hends := turn_ends ((hmem last).2 (.inr rfl))
    rw [Turn.result_eq_error herror] at hends
    exact hends.accepted_of_error rfl
  refine ⟨earlier, last, hturns, herror, hlast, ?_⟩
  constructor
  · intro hunsaved turn hturn
    have hturns := (hmem turn).2 (.inl hturn)
    exact (accepted_eq_nil_iff hturns (hearlier turn hturn)).1 (hunsaved turn hturns)
  · intro h turn hturn
    rcases (hmem turn).1 hturn with hturn' | rfl
    · exact (accepted_eq_nil_iff hturn (hearlier turn hturn')).2 (h turn hturn')
    · exact hlast

open Simulation in
/-- The second saga of a pair is there already when a message starts both. -/
def startedTwice : World Scripted :=
  (pair "Second").follow
    [.deliver 2 (requestFor (some (secondSpec "Second").type) keepBoth)]
    (World.ofResources emptyBench)

open Simulation in
theorem retryable_unsaved_iff_pair :
    ∃ earlier last, (pair "Second").turns 2 (requestFor none keepBoth) startedTwice =
        earlier ++ [last] ∧
      last.error? = some (.conflict ⟨"Second", "c"⟩) ∧ last.accepted = [] ∧
      ((∀ turn ∈ (pair "Second").turns 2 (requestFor none keepBoth) startedTwice,
          turn.accepted = []) ↔
        ∀ turn ∈ earlier, turn.asked ≠ [] ∨
          turn.registration.handler? keepBoth.type = none) :=
  retryable_unsaved_iff (pair "Second") 2 (requestFor none keepBoth) startedTwice _
    (eq_error_of_error? (by decide +kernel)) rfl

open Simulation in
/-- The first saga of a pair has saved its step when that of the second one is refused as stale. -/
theorem saved_before_conflict :
    let answer := ((pair "Second").deliver 2 (requestFor none keepBoth) startedTwice).1
    error? answer = some (.conflict ⟨"Second", "c"⟩) ∧
      (SagaError.conflict ⟨"Second", "c"⟩).isRetryable = true ∧
      ¬ ∀ turn ∈ (pair "Second").turns 2 (requestFor none keepBoth) startedTwice,
        turn.accepted = [] := by
  decide +kernel

/-! ## Failures that were saved -/

/-- **The first failure that was saved** is the error of the call, with the error of its fail
transition, if no step of the message ended in an error. If the message of that transition is
refused, this is the error of the call. -/
theorem failure_told (orchestrator : Orchestrator A) (nesting : Nat) (request : Request A.Body)
    (w : World A) (hfailed : ∃ turn ∈ orchestrator.turns nesting request w, turn.Failed) :
    ∃ earlier turn later record fault,
      orchestrator.turns nesting request w = earlier ++ turn :: later ∧
      (∀ other ∈ earlier, ¬ other.Failed) ∧ FailsWith turn.events record fault ∧
      record.sagaType = turn.registration.saga.type.name ∧
      ((∀ turn ∈ orchestrator.turns nesting request w, turn.error? = none) →
        (orchestrator.deliver nesting request w).1 = .error (.failed record.toKey fault)) ∧
      ∀ outgoing source, .published outgoing (.error source) ∈ turn.events →
        (orchestrator.deliver nesting request w).1 = .error (.publish record.toKey source) := by
  obtain ⟨earlier, turn, later, hturns, hfailed, hearlier⟩ := exists_first_failed hfailed
  have hmem : turn ∈ orchestrator.turns nesting request w := by simp [hturns]
  obtain ⟨record, fault, hfails, hsaga, hresult⟩ := exists_of_failed hmem hfailed
  refine ⟨earlier, turn, later, record, fault, hturns, hearlier, hfails, hsaga, ?_, ?_⟩
  · intro hall
    rcases hresult with ⟨-, settled, hsettled, hkey, hfailure⟩ | ⟨source, herror⟩
    · rw [answer_of_failed hturns hall hearlier hsettled hfailure, hkey]
    · rw [hall turn hmem] at herror
      cases herror
  · intro outgoing source hrefused
    have herror := (turn_ends hmem).error_of_refused hrefused hfails.mem_accepted
    refine answer_of_error hmem ?_
    unfold Turn.error?
    rw [herror]

open Simulation in
theorem failure_told_pair :
    let turns := (pair "Second").turns 2 (requestFor none failFirst) (World.ofResources emptyBench)
    let answer :=
      ((pair "Second").deliver 2 (requestFor none failFirst) (World.ofResources emptyBench)).1
    ∃ earlier turn later record fault, turns = earlier ++ turn :: later ∧
      (∀ other ∈ earlier, ¬ other.Failed) ∧ FailsWith turn.events record fault ∧
      record.sagaType = turn.registration.saga.type.name ∧
      ((∀ turn ∈ turns, turn.error? = none) → answer = .error (.failed record.toKey fault)) ∧
      ∀ outgoing source, .published outgoing (.error source) ∈ turn.events →
        answer = .error (.publish record.toKey source) :=
  failure_told (pair "Second") 2 (requestFor none failFirst) (World.ofResources emptyBench)
    (by decide +kernel)

open Simulation in
/-- The first saga of a pair has saved its failure, but could not tell others so: the caller hears
of the message only. -/
theorem failure_behind_publish :
    let w := (pair "Second").follow [.failPublishes true] (World.ofResources emptyBench)
    (∃ turn ∈ (pair "Second").turns 2 (requestFor none failFirst) w, turn.Failed) ∧
      error? ((pair "Second").deliver 2 (requestFor none failFirst) w).1 =
        some (.publish ⟨"First", "c"⟩ (.text "message broker unavailable")) := by
  decide +kernel

end Orchestrator

end Sagas
