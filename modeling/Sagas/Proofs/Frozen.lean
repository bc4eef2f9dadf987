import Sagas.Proofs.Lineage

/-!
# Sagas that have ended

The record of a saga that has completed or failed never changes again, not even through a step
that loaded it before and saves only now: such a step would have to follow a version that is
terminal. An attempt that loads a terminal record ends with that load, and so does its call.

* `Ran.frozen`: nothing is saved under a key once its record is terminal.
* `Course.ended`: the attempt that loads a terminal record does nothing else.
* `terminal_frozen`: both, over whole runs, and what the calls answer.
-/

namespace Sagas

variable {A : Application} {α : Type}

/-- Wherever a computation itself loads the record of a saga that has ended, it answers so. -/
def Heeds (run : Run A (Except SagaError α)) : Prop :=
  ∀ w, ∃ es, (run w).2.history = w.history ++ es ∧ ∀ key record,
    .loaded key (.ok (some record)) ∈ eventsAt w.depth es → record.status.isTerminal = true →
    (run w).1 = .error (.terminated key record.status)

/-! ## Loads of terminal records -/

namespace Visit

variable {visit : Visit A} {stage : Stage} {handler : Handler A} {runner : Instance}
  {key other : Key}
  {state : A.State} {record : Record} {events : List (Event A)}
  {found : Except StoreError (Option Record)}

/-- The engine loads a record before it runs a handler, and not again. -/
theorem Executes.not_loaded {result : Except SagaError Settled}
    (h : visit.Executes stage handler runner key state events result) :
    .loaded other found ∉ events :=
  fun hmem => h.ofStep _ hmem

theorem Creates.not_loaded {result : Except SagaError Settled}
    (h : visit.Creates handler events result) : .loaded other found ∉ events := by
  cases h with
  | executed _ _ _ hexec =>
    intro hmem
    rcases List.mem_cons.1 hmem with hmem | hmem
    · cases hmem
    · rcases List.mem_cons.1 hmem with hmem | hmem
      · cases hmem
      · exact hexec.not_loaded hmem
  | _ => simp

/-- **An attempt that loads a terminal record** ends there, and answers that the saga has. -/
theorem Advances.ended {result : Except SagaError Settled}
    (h : visit.Advances stage handler key events result)
    (hmem : .loaded other (.ok (some record)) ∈ events)
    (hterminal : record.status.isTerminal = true) :
    events = [.loaded other (.ok (some record))] ∧
      result = .error (.terminated other record.status) := by
  -- a record that a step goes on from is not terminal
  have hactive : ∀ {loaded : Record}, loaded.status.isTerminal = false → record ≠ loaded := by
    rintro loaded hloaded rfl
    rw [hterminal] at hloaded
    cases hloaded
  cases h with
  | cancelled | unloaded | missing => simp at hmem
  | terminated =>
    obtain ⟨rfl, rfl⟩ : other = key ∧ _ = _ := by simpa using hmem
    exact ⟨rfl, rfl⟩
  | unreadable hloaded | abandoned hloaded | unresolved hloaded =>
    exact absurd (by simpa using hmem : other = key ∧ record = _).2 (hactive hloaded)
  | executed hloaded _ _ hexec =>
    rcases List.mem_cons.1 hmem with hmem | hmem
    · exact absurd (by simpa using hmem : other = key ∧ record = _).2 (hactive hloaded)
    · rcases List.mem_cons.1 hmem with hmem | hmem
      · cases hmem
      · exact absurd hmem hexec.not_loaded

/-- A rerun does not go on after a terminal record: only a conflict is followed by another
attempt. -/
theorem Reruns.ended {reruns : Nat} {result : Except SagaError Settled}
    (h : visit.Reruns stage handler key reruns events result)
    (hmem : .loaded other (.ok (some record)) ∈ events)
    (hterminal : record.status.isTerminal = true) :
    result = .error (.terminated other record.status) := by
  induction h with
  | last hadvances => exact (hadvances.ended hmem hterminal).2
  | again hadvances _ ih =>
    rcases List.mem_append.1 hmem with hmem | hmem
    · cases (hadvances.ended hmem hterminal).2
    · exact ih hmem

theorem Dispatches.ended {result : Except SagaError (Option Settled)}
    (h : visit.Dispatches events result) (hmem : .loaded other (.ok (some record)) ∈ events)
    (hterminal : record.status.isTerminal = true) :
    result = .error (.terminated other record.status) := by
  cases h with
  | skipped | uncorrelated => simp at hmem
  | created _ hcreates => exact absurd hmem hcreates.not_loaded
  | advanced _ _ _ hreruns => rw [hreruns.ended hmem hterminal]; rfl

end Visit

namespace Orchestrator

variable {orchestrator : Orchestrator A} {send : Request A.Body → Run A Answer}
  {request : Request A.Body} {key : Key} {record : Record} {events : List (Event A)}

theorem DispatchesAll.ended {registrations : List (Registration A)}
    {result : Except SagaError (List Settled)}
    (h : orchestrator.DispatchesAll send request registrations events result)
    (hmem : .loaded key (.ok (some record)) ∈ events)
    (hterminal : record.status.isTerminal = true) :
    result = .error (.terminated key record.status) := by
  induction h with
  | nil => simp at hmem
  | stopped hdispatches =>
    have hended := hdispatches.ended hmem hterminal
    rw [Except.error.inj hended]
  | cons hdispatches _ ih =>
    rcases List.mem_append.1 hmem with hmem | hmem
    · cases hdispatches.ended hmem hterminal
    · rw [ih hmem]; rfl

theorem Delivers.ended {answer : Answer} (h : orchestrator.Delivers send request events answer)
    (hmem : .loaded key (.ok (some record)) ∈ events)
    (hterminal : record.status.isTerminal = true) :
    answer = .error (.terminated key record.status) := by
  cases h with
  | unregistered => simp at hmem
  | stopped _ hall =>
    have hended := hall.ended hmem hterminal
    rw [Except.error.inj hended]
  | concluded _ hall => cases hall.ended hmem hterminal

theorem Course.ended (h : orchestrator.Course events)
    (hmem : .loaded key (.ok (some record)) ∈ events)
    (hterminal : record.status.isTerminal = true) :
    events = [.loaded key (.ok (some record))] := by
  cases h with
  | create _ _ _ hcreates => exact absurd hmem hcreates.not_loaded
  | advance _ _ _ _ _ hadvances => exact (hadvances.ended hmem hterminal).1

/-- A call that loads a terminal record itself answers that its saga has ended. -/
theorem deliver_heeds (nesting : Nat) (request : Request A.Body) :
    Heeds (orchestrator.deliver nesting request) := by
  intro w
  obtain ⟨es, hes, hdelivers⟩ :=
    deliver_yields (Law.trivial orchestrator.gateways) nesting request w
  exact ⟨es, hes.history, fun key record hmem hterminal => hdelivers.ended hmem hterminal⟩

/-- So does each attempt at a step, be it the first one or a rerun. -/
theorem advanceOnce_heeds {visit : Visit A} (nesting : Nat)
    (hsend : visit.send = visit.orchestrator.below nesting) (stage : Stage) (handler : Handler A)
    (key : Key) : Heeds (visit.advanceOnce stage handler key).run := by
  intro w
  have hR := Law.trivial visit.orchestrator.gateways
  have hsends : Sends (fun _ => True) (fun _ _ _ => True) visit.send := by
    intro request w
    obtain ⟨es, hes⟩ := below_sends hR nesting request w
    rw [hsend]
    exact ⟨es, hes.mono (fun _ _ => trivial) id⟩
  obtain ⟨es, hes, hadvances⟩ :=
    Visit.advanceOnce_across hR hsends stage handler key (fun _ _ _ => trivial) w
  exact ⟨es, hes.history, fun key record hmem hterminal => (hadvances.ended hmem hterminal).2⟩

end Orchestrator

/-! ## Terminal records in a run -/

section

variable {orchestrator : Orchestrator A} {start : Resources A} {w : World A}

/-- **Nothing is saved under a key once its record is terminal.** The first save after that
would follow a version that is not terminal, but the last version is. -/
theorem Ran.frozen (h : Ran orchestrator start w)
    (htokens : ∀ r ∈ orchestrator.directory.registrations, r.LeavesTokens)
    (hempty : start.store.records = []) (honce : start.store.IssuesOnce)
    {before after : List (Entry A)} (hs : w.history = before ++ after) {key : Key}
    {record : Record} (hlast : (versions key before).getLast? = some record)
    (hterminal : record.status.isTerminal = true) : versions key after = [] := by
  cases hnone : versions key after with
  | nil => rfl
  | cons version rest =>
    -- the first save under the key since then
    obtain ⟨between, save, later, rfl, hskip, hversion, -⟩ := List.filterMap_eq_cons_iff.1 hnone
    obtain ⟨saved, token, he, rfl, -⟩ := Event.saved_of_version? hversion
    have hbetween : versions saved.toKey between = [] := List.filterMap_eq_nil_iff.2 hskip
    have hs' : w.history = (before ++ between) ++ save :: later := by
      rw [hs, List.append_assoc]
    have horigin := h.origin htokens hempty honce hs' he
    rcases horigin with hfounds | ⟨previous, hprevious, hfollows⟩
    · have hfirst := hfounds.first
      rw [versions_append, hbetween, List.append_nil] at hfirst
      rw [hfirst] at hlast
      cases hlast
    · rw [versions_append, hbetween, List.append_nil, hlast] at hprevious
      obtain rfl := Option.some.inj hprevious
      have hactive := hfollows.active
      rw [hterminal] at hactive
      cases hactive

end

/-- Sagas that have ended are frozen in a run that has come from a start to a world. -/
structure Frozen (orchestrator : Orchestrator A) (start : Resources A) (w : World A) : Prop where
  /-- A record that is terminal at some moment is the stored one at every later moment. -/
  stays : ∀ before between after key record, w.history = before ++ between ++ after →
    (start.store.replay before).find? key = some record → record.status.isTerminal = true →
    (start.store.replay (before ++ between)).find? key = some record
  /-- The history tells the store. -/
  store : ∃ failing, w.store = (start.store.replay w.history).flag failing
  /-- An attempt that loads a terminal record does nothing else, and runs no handler. -/
  loads : ∀ load ∈ w.history, ∀ key record, load.event = .loaded key (.ok (some record)) →
    record.status.isTerminal = true → eventsOf load.attempt w.history = [load.event]
  /-- Its call answers that the saga has ended. -/
  calls : ∀ nesting request, Heeds (orchestrator.deliver nesting request)
  /-- So does the attempt, be it the first one or a rerun. -/
  attempts : ∀ (visit : Visit A) nesting stage handler key, visit.orchestrator = orchestrator →
    visit.send = orchestrator.below nesting → Heeds (visit.advanceOnce stage handler key).run

/-- **Sagas that have ended are frozen**, in every run over a store that was empty at first. -/
theorem terminal_frozen (orchestrator : Orchestrator A) (hmemory : orchestrator.InMemory)
    (htokens : ∀ r ∈ orchestrator.directory.registrations, r.LeavesTokens)
    (start : Resources A) (hempty : start.store.records = []) (honce : start.store.IssuesOnce)
    (moves : List (Move A)) :
    Frozen orchestrator start (orchestrator.follow moves (World.ofResources start)) := by
  generalize hw : orchestrator.follow moves (World.ofResources start) = w
  have hran : Ran orchestrator start w := hw ▸ follow_ran hmemory start moves
  refine ⟨?_, hran.store, ?_, Orchestrator.deliver_heeds, ?_⟩
  · -- a terminal record is the last version, and stays it
    intro before between after key record hs hstored hterminal
    rw [List.append_assoc] at hs
    rw [hran.find?_replay hempty hs] at hstored
    have hfrozen := hran.frozen htokens hempty honce hs hstored hterminal
    rw [versions_append, List.append_eq_nil_iff] at hfrozen
    rw [← List.append_assoc] at hs
    rw [hran.find?_replay hempty hs, versions_append, hfrozen.1, List.append_nil]
    exact hstored
  · intro load hmem key record he hterminal
    have hengine : load.event.isEngine = true := by rw [he]; rfl
    have hevent := mem_eventsOf hmem hengine
    rw [he] at hevent ⊢
    exact (hran.course_of_mem hmem hengine).ended hevent hterminal
  · rintro visit nesting stage handler key rfl hsend
    exact Orchestrator.advanceOnce_heeds nesting hsend stage handler key

open Simulation in
/-- A counter that was closed takes nothing more. -/
theorem terminal_frozen_counters :
    let w := counters.follow counterMoves (World.ofResources emptyBench)
    (w.store.find? ⟨"Counter", "c"⟩).map (·.status) = some .failed ∧ Frozen counters emptyBench w :=
  ⟨by decide +kernel, terminal_frozen counters counters_inMemory counters_leaveTokens emptyBench rfl
    emptyBench_issuesOnce counterMoves⟩

end Sagas
