import Sagas.Proofs.Runs
import Sagas.Proofs.Saves
import Sagas.Proofs.Scripts
import Sagas.Proofs.Versions

/-!
# The lineage of a record

No update is lost. Over a store that was empty at first and is written by deliveries only, the
versions of a record form one line: the first one was made by a start step, and each later one
by a step that had loaded the version right before it. This holds across nested messages,
reruns, and starts that come twice, as long as programs leave the tokens of their states alone.

* `Ran.origin`: where an accepted save comes from.
* `versions_linear`: the lineage, over whole runs.
-/

namespace Sagas

variable {A : Application}

/-- The last events of a step before its save: the handler was entered with a state and came
back, or a wrapper answered in its place. -/
inductive Stepped (step : StepInfo) (state : A.State) : List (Event A) → Prop where
  | handled {runner context left result} : context.key = step.key → context.state = state →
      Stepped step state [.handled step runner context, .returned step left result]
  | skipped {result} : Stepped step state [.returned step state result]

/-- The step is one that a registration declares, in the stage that it is declared for. -/
structure Registration.Declares (registration : Registration A) (step : StepInfo) : Prop where
  saga : step.key.sagaType = registration.saga.type.name
  handler : ∃ handler, registration.handler? step.message = some (step.stage, handler)

/-- A save made the first version under its key, and was made by a start step. -/
structure Founds (orchestrator : Orchestrator A) (before : List (Entry A)) (save : Entry A)
    (key : Key) : Prop where
  first : versions key before = []
  step : ∃ registration ∈ orchestrator.directory.registrations, ∃ runner step state rest,
    eventsOf save.attempt before = .resolved registration.saga.type (.ok runner) ::
        .hooked registration.saga.type runner :: rest ∧
      registration.Declares step ∧ step.stage = .start ∧ step.key = key ∧ Stepped step state rest

/-- A save made the next version after `previous`: its attempt is one at a step or a
compensation, it had loaded the very version `previous` as the last one under its key, nothing
was saved under the key since, and its handler started from the decoded state. -/
structure Follows (orchestrator : Orchestrator A) (previous : Record) (before : List (Entry A))
    (save : Entry A) (key : Key) : Prop where
  active : previous.status.isTerminal = false
  load : ∃ earlier load between, before = earlier ++ load :: between ∧
    load.attempt = save.attempt ∧ load.event = .loaded key (.ok (some previous)) ∧
      (versions key earlier).getLast? = some previous ∧ versions key between = []
  step : ∃ registration ∈ orchestrator.directory.registrations, ∃ runner step state rest,
    eventsOf save.attempt before = .loaded key (.ok (some previous)) ::
        .resolved registration.saga.type (.ok runner) :: rest ∧
      registration.Declares step ∧ step.stage ≠ .start ∧ step.key = key ∧
      registration.saga.decode previous.state = .ok state ∧
      Stepped step (registration.saga.withToken previous.token state) rest

/-- Every accepted save in a history founds the line of its key or follows the last version in
it. -/
def Linear (orchestrator : Orchestrator A) (history : List (Entry A)) : Prop :=
  ∀ before save after record token, history = before ++ save :: after →
    save.event = .saved record (.ok token) →
    (versions record.toKey before = [] → Founds orchestrator before save record.toKey) ∧
      ∀ previous, (versions record.toKey before).getLast? = some previous →
        Follows orchestrator previous before save record.toKey

/-! ## Tokens on their way through a step -/

namespace Visit

variable {visit : Visit A} {stage : Stage} {handler : Handler A} {runner : Instance} {key : Key}
  {state : A.State} {record previous : Record} {before : List (Event A)}

theorem Saves.stepped (h : visit.Saves stage handler runner key state before record) :
    Stepped (visit.stepOf stage key) state before := by
  cases h with
  | intro hworks hstatus hjson =>
    cases hworks with
    | halted => exact .skipped
    | entered => exact .handled rfl rfl

/-- A record is saved with the token of the state that its step started from, or with none. -/
theorem Saves.token (htokens : visit.registration.LeavesTokens) {message : MessageType}
    (hhandler : visit.registration.handler? message = some (stage, handler))
    (h : visit.Saves stage handler runner key state before record) :
    record.token = visit.saga.tokenOf state ∨ record.token = none := by
  cases h with
  | intro hworks hstatus hjson =>
    cases hworks with
    | halted => exact .inl rfl
    | entered hend => exact htokens.handler _ _ _ _ _ _ _ hhandler hend

/-- A new instance has no token once its hook has run. -/
theorem tokenOf_hook (htokens : visit.registration.LeavesTokens) {result : Except Fault Unit}
    (hhook : (visit.hook runner).CanEnd (state, result)) : visit.saga.tokenOf state = none := by
  rcases htokens.hook _ _ _ _ hhook with hsame | hnone
  · exact hsame.trans htokens.initial
  · exact hnone

/-- A loaded state has the token of its version, or none. -/
theorem tokenOf_stateOf (htokens : visit.registration.LeavesTokens)
    (h : visit.stateOf previous = .ok state) :
    visit.saga.tokenOf state = previous.token ∨ visit.saga.tokenOf state = none := by
  unfold stateOf at h
  split at h
  · rename_i decoded hdecoded
    obtain rfl := Except.ok.inj h
    exact htokens.keepsOrDrops _ _ _ hdecoded
  · cases h

theorem stateOf_eq_ok (h : visit.stateOf previous = .ok state) :
    ∃ decoded, visit.saga.decode previous.state = .ok decoded ∧
      state = visit.saga.withToken previous.token decoded := by
  unfold stateOf at h
  split at h
  · rename_i decoded hdecoded
    exact ⟨decoded, hdecoded, (Except.ok.inj h).symm⟩
  · cases h

end Visit

/-- A save is up to date in two ways: nothing is stored and nothing expected, or the stored
version has the expected token. -/
theorem Store.accepts_cases {store : Store} {key : Key} {expected : Option Token}
    (h : store.accepts key expected = true) :
    (store.find? key = none ∧ expected = none) ∨
      ∃ stored, store.find? key = some stored ∧ stored.token = expected ∧ expected ≠ none := by
  unfold accepts at h
  split at h
  · rename_i hnone
    exact .inl ⟨hnone, by simpa using h⟩
  · rename_i stored hstored
    simp only [Bool.and_eq_true, beq_iff_eq] at h
    obtain ⟨hsome, htoken⟩ := h
    refine .inr ⟨stored, hstored, htoken, ?_⟩
    rw [← htoken]
    exact Option.isSome_iff_ne_none.1 hsome

/-! ## Where a version comes from -/

section

variable {orchestrator : Orchestrator A} {start : Resources A} {w : World A}

/-- The last version of a moment is what the store of that moment holds. -/
theorem Ran.find?_replay (h : Ran orchestrator start w) (hempty : start.store.records = [])
    {before after : List (Entry A)} (hs : w.history = before ++ after) (key : Key) :
    (start.store.replay before).find? key = (versions key before).getLast? := by
  have hbears := h.bears
  rw [hs] at hbears
  exact find?_replay_of_empty hempty hbears.left

/-- An attempt that has loaded a record has loaded the last version of that moment. -/
theorem Ran.loaded (h : Ran orchestrator start w) (hempty : start.store.records = [])
    {before after : List (Entry A)} {save : Entry A} (hs : w.history = before ++ save :: after)
    {key : Key} {previous : Record} {rest : List (Event A)}
    (hown : eventsOf save.attempt before = .loaded key (.ok (some previous)) :: rest) :
    ∃ earlier load between, before = earlier ++ load :: between ∧
      load.attempt = save.attempt ∧ load.event = .loaded key (.ok (some previous)) ∧
      (versions key earlier).getLast? = some previous ∧
      versions key (load :: between) = versions key between := by
  obtain ⟨earlier, load, between, rfl, hattempt, hload, -, -⟩ :=
    exists_entry_of_eventsOf (show _ = [] ++ _ :: _ from hown)
  rw [List.append_assoc] at hs
  have hloaded := h.answers hs
  rw [hload] at hloaded
  refine ⟨earlier, load, between, rfl, hattempt, hload, ?_, ?_⟩
  · rw [← h.find?_replay hempty hs]
    exact (Except.ok.inj hloaded).symm
  · rw [versions_cons, hload]
    rfl

/-- A save that bears the token of an earlier version, or none, is accepted only if no other version
came in between: the token is still stored, and a record that was there does not go away. -/
theorem Ran.versions_eq_nil_of_accepts (h : Ran orchestrator start w)
    (hempty : start.store.records = []) (honce : start.store.IssuesOnce)
    {earlier between after : List (Entry A)} (hs : w.history = earlier ++ between ++ after)
    {key : Key} {previous : Record} {expected : Option Token}
    (hprevious : (versions key earlier).getLast? = some previous)
    (haccepts : (start.store.replay (earlier ++ between)).accepts key expected = true)
    (htoken : expected = previous.token ∨ expected = none) : versions key between = [] := by
  have hearlier := h.find?_replay hempty (hs.trans (List.append_assoc ..)) key
  rw [hprevious] at hearlier
  rcases Store.accepts_cases haccepts with ⟨hnone, -⟩ | ⟨current, hcurrent, hsame, hsome⟩
  · rw [h.find?_replay hempty hs, versions_append, List.getLast?_append, hprevious] at hnone
    simp at hnone
  · have hbears := h.bears
    rw [hs] at hbears
    refine versions_eq_nil_of_token_eq hempty honce hbears.left hearlier hcurrent ?_
    rw [hsame]
    exact htoken.resolve_right hsome

/-- **Where an accepted save comes from.** The token that it carries was stored when its attempt
loaded the record, and is still stored: so no version came in between. -/
theorem Ran.origin (h : Ran orchestrator start w)
    (htokens : ∀ r ∈ orchestrator.directory.registrations, r.LeavesTokens)
    (hempty : start.store.records = []) (honce : start.store.IssuesOnce)
    {before after : List (Entry A)} {save : Entry A} {record : Record} {token : Token}
    (hs : w.history = before ++ save :: after) (he : save.event = .saved record (.ok token)) :
    Founds orchestrator before save record.toKey ∨ ∃ previous,
      (versions record.toKey before).getLast? = some previous ∧
        Follows orchestrator previous before save record.toKey := by
  have hcourse := h.course hs (by rw [he]; rfl)
  have haccepts := h.answers hs
  rw [he] at hcourse haccepts
  obtain ⟨haccepts, -⟩ := haccepts
  obtain ⟨visit, stage, handler, runner, state, rest, hreg, hhandler, hsaga, hsaves, hkind⟩ :=
    hcourse.saved
  let step := visit.stepOf stage record.toKey
  have hdeclares : visit.registration.Declares step := ⟨hsaga, handler, hhandler⟩
  have htoken := hsaves.token (htokens _ hreg) hhandler
  rcases hkind with ⟨hstage, hhook, -, -, hown⟩ | ⟨hstage, previous, hactive, hstate, hown⟩
  · -- a new instance expects that nothing is stored
    left
    rw [Visit.tokenOf_hook (htokens _ hreg) hhook, or_self] at htoken
    rcases Store.accepts_cases haccepts with ⟨hnone, -⟩ | ⟨-, -, -, hsome⟩
    · rw [h.find?_replay hempty hs, List.getLast?_eq_none_iff] at hnone
      exact ⟨hnone, visit.registration, hreg, runner, step, state, rest, hown, hdeclares, hstage,
        rfl, hsaves.stepped⟩
    · exact absurd htoken hsome
  · right
    obtain ⟨earlier, load, between, rfl, hattempt, hload, hprevious, hskip⟩ :=
      h.loaded hempty hs hown
    have hbetween : versions record.toKey between = [] := by
      rw [← hskip]
      refine h.versions_eq_nil_of_accepts hempty honce hs hprevious haccepts ?_
      rcases htoken with hleft | hlost
      · rw [hleft]
        exact Visit.tokenOf_stateOf (htokens _ hreg) hstate
      · exact .inr hlost
    obtain ⟨decoded, hdecoded, rfl⟩ := Visit.stateOf_eq_ok hstate
    have hfollows : Follows orchestrator previous (earlier ++ load :: between) save record.toKey :=
      ⟨hactive, ⟨earlier, load, between, rfl, hattempt, hload, hprevious, hbetween⟩,
        visit.registration, hreg, runner, step, decoded, rest, hown, hdeclares, hstage, rfl,
        hdecoded, hsaves.stepped⟩
    refine ⟨previous, ?_, hfollows⟩
    rw [versions_append, hskip, hbetween, List.append_nil]
    exact hprevious

end

/-- **No lost update.** In every run over a store that was empty at first, what is stored under
a key is the last of its versions, and the versions of every key form one line. -/
theorem versions_linear (orchestrator : Orchestrator A) (hmemory : orchestrator.InMemory)
    (htokens : ∀ r ∈ orchestrator.directory.registrations, r.LeavesTokens)
    (start : Resources A) (hempty : start.store.records = []) (honce : start.store.IssuesOnce)
    (moves : List (Move A)) :
    let w := orchestrator.follow moves (World.ofResources start)
    (∀ key, w.store.find? key = (versions key w.history).getLast?) ∧
      Linear orchestrator w.history := by
  intro w
  have hran : Ran orchestrator start w := follow_ran hmemory start moves
  constructor
  · intro key
    rw [hran.find?]
    exact hran.find?_replay hempty (List.append_nil _).symm key
  · intro before save after record token hs he
    have horigin := hran.origin htokens hempty honce hs he
    constructor
    · intro hfirst
      rcases horigin with hfounds | ⟨previous, hlast, -⟩
      · exact hfounds
      · rw [hfirst] at hlast
        cases hlast
    · intro previous hprevious
      rcases horigin with hfounds | ⟨other, hlast, hfollows⟩
      · rw [hfounds.first] at hprevious
        cases hprevious
      · rw [hprevious] at hlast
        obtain rfl := Option.some.inj hlast
        exact hfollows

open Simulation in
/-- The line of a counter, one of whose saves was refused and rerun. -/
theorem versions_linear_counters :
    let w := counters.follow counterMoves (World.ofResources emptyBench)
    (versions ⟨"Counter", "c"⟩ w.history).map (·.status) = [.active, .active, .active, .failed] ∧
      (∀ key, w.store.find? key = (versions key w.history).getLast?) ∧
      Linear counters w.history :=
  ⟨by decide +kernel, versions_linear counters counters_inMemory counters_leaveTokens emptyBench rfl
    emptyBench_issuesOnce counterMoves⟩

end Sagas
