import Sagas.Proofs.Errors
import Sagas.Proofs.Routing

/-!
# Accepted saga types at work

The look-ups of a delivery are total: a registration that a directory accepted has a handler for
each message that it is selected for, and a correlation for each step. So the rules for
declarations are broken when saga types are registered, and never later on.

* `SagaError.IsLate`: the errors that break no rule for declarations.
* `Fails.isLate`: those are the errors of a saga whose messages name their instances.
* `Orchestrator.isLate_of_answer`: those are the errors of deliveries over a directory.
* `acceptance_total`: which saga types are accepted, and what deliveries rely on.
-/

namespace Sagas

variable {A : Application}

/-- A registration names the instance of each message that it handles in a later stage. -/
def Registration.Correlates (registration : Registration A) : Prop :=
  ∀ (message : Message A.Body) stage handler,
    registration.handler? message.type = some (stage, handler) → stage ≠ .start →
    ∃ sagaId, registration.correlate message = .ok sagaId

theorem Registration.Tabled.correlated {registration : Registration A} (h : registration.Tabled) :
    registration.Correlates := by
  intro message stage handler hhandler hstage
  obtain ⟨correlation, -, -, hok⟩ :=
    h.correlates message stage ((h.stages message.type stage).1 ⟨handler, hhandler⟩) hstage
  exact ⟨_, hok⟩

/-! ## What a step may break -/

/-- The only rule that is broken at run time: a creation hook has to give an id. -/
def SagaError.IsLate (error : SagaError) : Prop := error.violations ⊆ [.emptySagaId]

namespace Visit

variable {visit : Visit A} {events : List (Event A)} {error : SagaError}

/-- **The step of a saga that is correlated** breaks no rule for its declarations. -/
theorem Fails.isLate (hcorrelates : visit.registration.Correlates)
    (h : visit.Fails events error) : error.IsLate := by
  have hstore : ∀ error : StoreError, (SagaError.ofStore error).IsLate := by
    intro error
    cases error <;> exact List.nil_subset _
  cases h with
  | uncorrelated hstage hhandler herror =>
    obtain ⟨sagaId, hok⟩ := hcorrelates _ _ _ hhandler hstage
    rw [hok] at herror
    cases herror
  | unloaded | refused => exact hstore _
  | nameless => exact List.Subset.refl _
  | _ => exact List.nil_subset _

end Visit

/-! ## What a delivery may break -/

theorem Directory.Reached.tabled {directory : Directory A} {log : List (Directory.Logged A)}
    (h : directory.Reached log) {registration : Registration A}
    (hmem : registration ∈ directory.registrations) : registration.Tabled := by
  obtain ⟨hvalid, heq⟩ := h.wellFormed hmem
  exact Registration.tabled_of_build (Registration.build_eq_ok_iff.2 ⟨hvalid, heq⟩)

/-- Whatever is selected for a message handles it. -/
theorem Directory.Reached.handles {directory : Directory A} {log : List (Directory.Logged A)}
    (h : directory.Reached log) {message : MessageType} {registration : Registration A}
    (hmem : registration ∈ directory.matching message) :
    (registration.handler? message).isSome = true := by
  rw [h.indexed.matching_eq, List.mem_filter] at hmem
  -- it reacts to the message, so the message is listed, so it is handled
  exact ((h.tabled hmem.1).listed.2 message).1 (Capabilities.mem_messageTypes_iff.2 hmem.2)

namespace Orchestrator

variable {orchestrator : Orchestrator A} {log : List (Directory.Logged A)} {nesting : Nat}
  {request : Request A.Body} {w : World A} {error : SagaError}

/-- Whatever a request is for is correlated. -/
theorem correlates_of_selected (hreached : orchestrator.directory.Reached log)
    {registrations : List (Registration A)}
    (hselected : orchestrator.selected request = .ok registrations) :
    ∀ registration ∈ registrations, registration.Correlates :=
  fun _ hmem => (hreached.tabled (mem_of_selected hselected _ hmem)).correlated

/-- **A delivery over a directory breaks no rule for declarations.** -/
theorem isLate_of_answer (hreached : orchestrator.directory.Reached log)
    (h : (orchestrator.deliver nesting request w).1 = .error error) : error.IsLate := by
  rw [answer_eq] at h
  cases hselected : orchestrator.selected request with
  | error missing =>
    obtain ⟨name, rfl⟩ := selected_eq_error hselected
    rw [hselected] at h
    rw [← Except.error.inj h]
    exact List.nil_subset _
  | ok registrations =>
    rw [hselected] at h
    cases hgathered : gathered (orchestrator.turns nesting request w) with
    | error found =>
      -- the error of a turn, which is the step of something registered
      rw [hgathered] at h
      rw [← Except.error.inj h]
      obtain ⟨turn, hturn, herror⟩ := exists_error?_of_gathered hgathered
      have hmem : turn.registration ∈ registrations :=
        (map_registration_turns hselected).subset (List.mem_map_of_mem hturn)
      exact (turn_fails hturn herror).isLate (correlates_of_selected hreached hselected _ hmem)
    | ok settled =>
      rw [hgathered] at h
      change answerOf _ _ = _ at h
      unfold answerOf at h
      split at h
      · cases h
      · rw [← Except.error.inj h]
        exact List.nil_subset _

end Orchestrator

/-- **Acceptance.** The well-formed saga types are accepted and no others, the tables of an accepted
one hold what it declares, and deliveries find what they look up in them: whatever is selected for
a message handles it, and no message of a later stage misses its correlation. -/
theorem acceptance_total (orchestrator : Orchestrator A) {log : List (Directory.Logged A)}
    (hreached : orchestrator.directory.Reached log) :
    (∀ saga : Saga A, (∃ registration, Registration.build saga = .ok registration) ↔
      saga.WellFormed) ∧
    (∀ (saga : Saga A) registration, Registration.build saga = .ok registration →
      registration.saga = saga ∧ registration.Tabled) ∧
    (∀ message, ∀ registration ∈ orchestrator.directory.matching message,
      (registration.handler? message).isSome = true) ∧
    ∀ nesting request w error, (orchestrator.deliver nesting request w).1 = .error error →
      ∀ message stage, .missingCorrelation message stage ∉ error.violations := by
  refine ⟨fun _ => Registration.exists_build_iff,
    fun _ _ h => ⟨(Registration.build_eq_ok h).1, Registration.tabled_of_build h⟩,
    fun _ _ hmem => hreached.handles hmem, ?_⟩
  intro nesting request w error h message stage hmem
  cases List.mem_singleton.1 (Orchestrator.isLate_of_answer hreached h hmem)

open Simulation in
/-- Counters break no rule, but without their correlations they break two. -/
theorem acceptance_total_counters :
    Registration.violations counterSpec.toSaga = [] ∧
      Registration.violations { counterSpec with correlations := [] }.toSaga =
        [.missingCorrelation addToCounter.type .step, .missingCorrelation closeCounter.type .step] ∧
      (counters.directory.matching addToCounter.type).length = 1 ∧
      (∀ saga : Saga Scripted, (∃ registration, Registration.build saga = .ok registration) ↔
        saga.WellFormed) ∧
      (∀ (saga : Saga Scripted) registration, Registration.build saga = .ok registration →
        registration.saga = saga ∧ registration.Tabled) ∧
      (∀ message, ∀ registration ∈ counters.directory.matching message,
        (registration.handler? message).isSome = true) ∧
      ∀ nesting request w error, (counters.deliver nesting request w).1 = .error error →
        ∀ message stage, .missingCorrelation message stage ∉ error.violations :=
  ⟨by decide, by decide, by decide,
    acceptance_total counters (Directory.Reached.empty.register counterSpec.toSaga)⟩

end Sagas
