import Mathlib.Data.List.Nodup
import Sagas.Proofs.Registry

/-!
# Well-formed saga types

The checks of the declarations compare each one with the first earlier one of its message type
only, and each correlation with the earlier ones. They find nothing exactly if the declarations are
well formed; then the tables that are built from them hold what was declared.

* `Registration.violations_eq_nil_iff`: the checks find nothing in well-formed saga types only.
* `Registration.exists_build_iff`: exactly these are accepted.
* `Registration.tabled_of_build`: what the tables of an accepted saga type hold.
-/

namespace Sagas

variable {A : Application}

/-- The rules for the declarations of a saga type. -/
structure Saga.WellFormed (saga : Saga A) : Prop where
  /-- The name is not blank. -/
  named : Text.trim saga.type.name.toList ≠ []
  starts : ∃ declaration ∈ saga.declarations, declaration.stage = .start
  /-- No message type is declared twice, be it in one stage or in two. -/
  handlers : (saga.declarations.map (·.message)).Nodup
  correlations : (saga.correlations.map (·.message)).Nodup
  /-- The messages of steps and compensations are correlated, and no others. -/
  correlated : ∀ message, message ∈ saga.correlations.map (·.message) ↔
    ∃ declaration ∈ saga.declarations, declaration.message = message ∧ declaration.stage ≠ .start

/-- Whether a saga type declares to react to a message type. -/
def Saga.declares (saga : Saga A) (message : MessageType) : Bool :=
  saga.declarations.any (·.message == message)

theorem requiresCorrelation_iff {stage : Stage} :
    stage.requiresCorrelation = true ↔ stage ≠ .start := by
  cases stage <;> decide

/-! ## The checks -/

namespace Check

variable {declared earlier : List Declared} {correlated messages : List MessageType}

theorem againstEarlier_eq_nil_iff {declaration : Declared} :
    againstEarlier earlier declaration = [] ↔ declaration.1 ∉ earlier.map (·.1) := by
  unfold againstEarlier
  cases hfind : earlier.find? fun other => other.1 == declaration.1 with
  | none =>
    have hnone := List.find?_eq_none.1 hfind
    refine ⟨fun _ hmem => ?_, fun _ => rfl⟩
    obtain ⟨other, hother, hsame⟩ := List.mem_map.1 hmem
    exact hnone other hother (by simp [hsame])
  | some other =>
    -- the first earlier declaration of the same message type makes a violation
    have hsame : other.1 = declaration.1 := by simpa using List.find?_some hfind
    have hmem : declaration.1 ∈ earlier.map (·.1) :=
      List.mem_map.2 ⟨other, List.mem_of_find?_eq_some hfind, hsame⟩
    refine ⟨fun h => ?_, fun h => absurd hmem h⟩
    dsimp only at h
    split at h <;> cases h

theorem repetitions_eq_nil_iff :
    repetitions earlier declared = [] ↔
      (declared.map (·.1)).Nodup ∧ ∀ message ∈ declared.map (·.1), message ∉ earlier.map (·.1) := by
  induction declared generalizing earlier with
  | nil => simp [repetitions]
  | cons declaration rest ih =>
    rw [repetitions, List.append_eq_nil_iff, againstEarlier_eq_nil_iff, ih]
    simp only [List.map_append, List.map_cons, List.map_nil, List.nodup_cons, List.mem_append,
      List.mem_singleton, List.forall_mem_cons, not_or]
    constructor
    · rintro ⟨hhead, hnodup, hrest⟩
      exact ⟨⟨fun hmem => (hrest _ hmem).2 rfl, hnodup⟩, hhead, fun m hm => (hrest m hm).1⟩
    · rintro ⟨⟨hhead, hnodup⟩, hearlier, hrest⟩
      refine ⟨hearlier, hnodup, fun m hm => ⟨hrest m hm, ?_⟩⟩
      rintro rfl
      exact hhead hm

theorem missing_eq_nil_iff :
    missing declared correlated = [] ↔
      ∀ declaration ∈ declared, declaration.2 ≠ .start → declaration.1 ∈ correlated := by
  have heraseDups : ∀ violations : List Violation,
      violations.eraseDups = [] ↔ violations = [] := by
    intro violations
    rw [List.eq_nil_iff_forall_not_mem, List.eq_nil_iff_forall_not_mem]
    exact forall_congr' fun violation => by rw [List.mem_eraseDups]
  rw [missing, heraseDups, List.filterMap_eq_nil_iff]
  refine forall₂_congr fun ⟨message, stage⟩ _ => ?_
  simp only [requiresCorrelation_iff]
  by_cases hmissing : stage ≠ .start ∧ message ∉ correlated
  · rw [if_pos hmissing]
    exact ⟨nofun, fun hall => absurd (hall hmissing.1) hmissing.2⟩
  · rw [if_neg hmissing]
    refine ⟨fun _ hstage => ?_, fun _ => rfl⟩
    by_contra hmem
    exact hmissing ⟨hstage, hmem⟩

theorem isCorrelatable_iff {message : MessageType} :
    isCorrelatable declared message = true ↔
      ∃ declaration ∈ declared, declaration.1 = message ∧ declaration.2 ≠ .start := by
  simp [isCorrelatable, requiresCorrelation_iff]

theorem correlationFaults_eq_nil_iff :
    correlationFaults declared messages correlated = [] ↔
      correlated.Nodup ∧ (∀ message ∈ correlated, message ∉ messages) ∧
        ∀ message ∈ correlated, isCorrelatable declared message = true := by
  induction correlated generalizing messages with
  | nil => simp [correlationFaults]
  | cons message rest ih =>
    -- the first correlation is neither a repetition nor an orphan
    have hhead : (if message ∈ messages then [Violation.duplicateCorrelation message]
        else if isCorrelatable declared message then [] else [.orphanCorrelation message]) = [] ↔
          message ∉ messages ∧ isCorrelatable declared message = true := by
      split
      · rename_i h
        simp [h]
      · rename_i h
        split
        · rename_i hcorrelatable
          simp [h, hcorrelatable]
        · rename_i hcorrelatable
          simp [hcorrelatable]
    rw [correlationFaults, List.append_eq_nil_iff, hhead, ih]
    simp only [List.nodup_cons, List.mem_append, List.mem_singleton, List.forall_mem_cons, not_or]
    constructor
    · rintro ⟨⟨hfresh, hcorrelatable⟩, hnodup, hrest, hall⟩
      exact ⟨⟨fun hmem => (hrest _ hmem).2 rfl, hnodup⟩, ⟨hfresh, fun m hm => (hrest m hm).1⟩,
        hcorrelatable, hall⟩
    · rintro ⟨⟨hnew, hnodup⟩, ⟨hfresh, hrest⟩, hcorrelatable, hall⟩
      refine ⟨⟨hfresh, hcorrelatable⟩, hnodup, fun m hm => ⟨hrest m hm, ?_⟩, hall⟩
      rintro rfl
      exact hnew hm

end Check

namespace Registration

variable {saga : Saga A} {registration : Registration A}

theorem map_fst_declared : (declared saga).map (·.1) = saga.declarations.map (·.message) := by
  simp [declared]

theorem exists_mem_declared_iff {message : MessageType} {p : Stage → Prop} :
    (∃ declaration ∈ declared saga, declaration.1 = message ∧ p declaration.2) ↔
      ∃ declaration ∈ saga.declarations, declaration.message = message ∧ p declaration.stage := by
  simp [declared]

/-- **The checks find nothing in a well-formed saga type, and only there.** -/
theorem violations_eq_nil_iff : violations saga = [] ↔ saga.WellFormed := by
  have hstart : ((declared saga).any fun d => d.2 == .start) = true ↔
      ∃ declaration ∈ saga.declarations, declaration.stage = .start := by
    simp [declared]
  have hmissing : (∀ declaration ∈ declared saga, declaration.2 ≠ .start →
      declaration.1 ∈ saga.correlations.map (·.message)) ↔
        ∀ message, (∃ declaration ∈ saga.declarations, declaration.message = message ∧
          declaration.stage ≠ .start) → message ∈ saga.correlations.map (·.message) := by
    simp only [← exists_mem_declared_iff (p := (· ≠ .start))]
    constructor
    · rintro h _ ⟨declaration, hmem, rfl, hstage⟩
      exact h declaration hmem hstage
    · exact fun h declaration hmem hstage => h _ ⟨declaration, hmem, rfl, hstage⟩
  unfold violations Check.violations
  rw [List.append_eq_nil_iff, List.append_eq_nil_iff, List.append_eq_nil_iff,
    List.append_eq_nil_iff, Check.repetitions_eq_nil_iff, Check.missing_eq_nil_iff,
    Check.correlationFaults_eq_nil_iff, hmissing, map_fst_declared]
  simp only [Check.isCorrelatable_iff, exists_mem_declared_iff (p := (· ≠ .start)), ite_eq_left_iff,
    ite_eq_right_iff, hstart]
  constructor
  · rintro ⟨⟨⟨⟨hname, hstarts⟩, hhandlers, -⟩, hmissing⟩, hcorrelations, -, horphans⟩
    refine ⟨fun h => ?_, ?_, hhandlers, hcorrelations, fun message =>
      ⟨horphans message, hmissing message⟩⟩
    · cases hname h
    · by_contra h
      cases hstarts h
  · rintro ⟨hname, hstarts, hhandlers, hcorrelations, hcorrelated⟩
    refine ⟨⟨⟨⟨fun h => absurd h hname, fun h => absurd hstarts h⟩, hhandlers, by simp⟩,
      fun message => (hcorrelated message).2⟩, hcorrelations, by simp,
      fun message => (hcorrelated message).1⟩

/-- What a saga type without violations is registered as. -/
def ofSaga (saga : Saga A) : Registration A where
  saga
  capabilities := .ofDeclared saga.type (declared saga)
  handlers := handlerTable saga
  correlations := correlationTable saga

theorem build_eq_ok_iff :
    build saga = .ok registration ↔ saga.WellFormed ∧ registration = ofSaga saga := by
  unfold build
  rw [← violations_eq_nil_iff]
  split
  · rename_i h
    simp only [h, true_and]
    exact ⟨fun hok => (Except.ok.inj hok).symm, fun heq => heq ▸ rfl⟩
  · rename_i h
    exact ⟨nofun, fun hvalid => absurd hvalid.1 h⟩

/-- **The saga types that are accepted** are the well-formed ones. -/
theorem exists_build_iff : (∃ registration, build saga = .ok registration) ↔ saga.WellFormed := by
  simp [build_eq_ok_iff]

end Registration

/-! ## The tables of a registration -/

/-- Every element once. -/
theorem nodup_eraseDups {α : Type} [DecidableEq α] (xs : List α) : xs.eraseDups.Nodup := by
  cases xs with
  | nil => exact List.nodup_nil
  | cons x xs =>
    rw [List.eraseDups_cons, List.nodup_cons]
    exact ⟨by simp [List.mem_eraseDups], nodup_eraseDups _⟩
termination_by xs.length
decreasing_by exact Nat.lt_succ_of_le (List.length_filter_le _ _)

namespace Capabilities

variable {capabilities : Capabilities} {message : MessageType} {stage : Stage}
  {declared : List Check.Declared}

theorem mem_messageTypes_iff :
    message ∈ capabilities.messageTypes ↔ capabilities.reactsTo message = true := by
  unfold messageTypes reactsTo stageOf?
  rw [List.mem_eraseDups, List.mem_append, List.mem_append]
  by_cases hstart : message ∈ capabilities.starts
  · simp [hstart]
  · by_cases hstep : message ∈ capabilities.steps <;> simp [hstart, hstep]

theorem mem_of_stage_iff :
    (message ∈ declared.filterMap fun (message, other) =>
      if other = stage then some message else none) ↔
      (message, stage) ∈ declared := by
  rw [List.mem_filterMap]
  constructor
  · rintro ⟨⟨other, _⟩, hmem, hsome⟩
    dsimp only at hsome
    split at hsome
    · rename_i hstage
      rw [← Option.some.inj hsome, ← hstage]
      exact hmem
    · cases hsome
  · exact fun hmem => ⟨_, hmem, if_pos rfl⟩

/-- A saga type reacts to what it declares. -/
theorem reactsTo_ofDeclared_iff {saga : SagaType} :
    (ofDeclared saga declared).reactsTo message = true ↔ message ∈ declared.map (·.1) := by
  rw [← mem_messageTypes_iff, messageTypes, List.mem_eraseDups, List.mem_append, List.mem_append]
  simp only [ofDeclared, mem_of_stage_iff]
  constructor
  · rintro ((h | h) | h) <;> exact List.mem_map.2 ⟨_, h, rfl⟩
  · intro h
    obtain ⟨⟨_, stage⟩, hmem, rfl⟩ := List.mem_map.1 h
    cases stage with
    | start => exact .inl (.inl hmem)
    | step => exact .inl (.inr hmem)
    | compensate => exact .inr hmem

/-- If no message type is declared twice, each has the stage of its declaration. -/
theorem stageOf?_ofDeclared_iff {saga : SagaType} (hnodup : (declared.map (·.1)).Nodup) :
    (ofDeclared saga declared).stageOf? message = some stage ↔ (message, stage) ∈ declared := by
  have hunique : ∀ {stage other}, (message, stage) ∈ declared → (message, other) ∈ declared →
      stage = other :=
    fun h h' => (Prod.mk.inj (List.inj_on_of_nodup_map hnodup h h' rfl)).2
  unfold stageOf?
  simp only [ofDeclared, mem_of_stage_iff]
  constructor
  · intro h
    split at h
    · rename_i hmem
      exact Option.some.inj h ▸ hmem
    · split at h
      · rename_i hmem
        exact Option.some.inj h ▸ hmem
      · split at h
        · rename_i hmem
          exact Option.some.inj h ▸ hmem
        · cases h
  · intro h
    have hother : ∀ other, stage ≠ other → (message, other) ∉ declared :=
      fun other hne h' => hne (hunique h h')
    cases stage with
    | start => rw [if_pos h]
    | step => rw [if_neg (hother .start nofun), if_pos h]
    | compensate => rw [if_neg (hother .start nofun), if_neg (hother .step nofun), if_pos h]

end Capabilities

/-- The tables of a registration hold what its saga type declares. -/
structure Registration.Tabled (registration : Registration A) : Prop where
  handlers : ∀ message stage handler, registration.handler? message = some (stage, handler) ↔
    ⟨message, stage, handler⟩ ∈ registration.saga.declarations
  /-- A message type is handled in the stage that it has. -/
  stages : ∀ message stage, (∃ handler, registration.handler? message = some (stage, handler)) ↔
    registration.capabilities.stageOf? message = some stage
  /-- Every message type that is handled is listed, once. -/
  listed : registration.capabilities.messageTypes.Nodup ∧
    ∀ message, message ∈ registration.capabilities.messageTypes ↔
      (registration.handler? message).isSome = true
  /-- Messages of steps and compensations name their instance as they are declared to. -/
  correlates : ∀ (message : Message A.Body) stage,
    registration.capabilities.stageOf? message.type = some stage → stage ≠ .start →
    ∃ correlation ∈ registration.saga.correlations, correlation.message = message.type ∧
      registration.correlate message = .ok (correlation.sagaId message.body)

namespace Registration

variable {saga : Saga A} {registration : Registration A} {message : MessageType} {stage : Stage}
  {handler : Handler A}

theorem handler?_ofSaga_iff (h : saga.WellFormed) :
    (ofSaga saga).handler? message = some (stage, handler) ↔
      ⟨message, stage, handler⟩ ∈ saga.declarations :=
  ⟨declared_of_handlerTable, fun hmem => Table.find?_foldl_of_mem h.handlers hmem⟩

theorem reactsTo_ofSaga : (ofSaga saga).capabilities.reactsTo message = saga.declares message := by
  rw [Bool.eq_iff_iff]
  refine Capabilities.reactsTo_ofDeclared_iff.trans ?_
  simp [map_fst_declared, Saga.declares]

theorem stageOf?_ofSaga_iff (h : saga.WellFormed) :
    (ofSaga saga).capabilities.stageOf? message = some stage ↔
      ∃ handler, ⟨message, stage, handler⟩ ∈ saga.declarations := by
  have hnodup : ((declared saga).map (·.1)).Nodup := by
    rw [map_fst_declared]
    exact h.handlers
  refine (Capabilities.stageOf?_ofDeclared_iff hnodup).trans ?_
  constructor
  · intro hmem
    obtain ⟨⟨_, _, handler⟩, hdeclaration, hsame⟩ := List.mem_map.1 hmem
    obtain ⟨rfl, rfl⟩ := Prod.mk.inj hsame
    exact ⟨handler, hdeclaration⟩
  · rintro ⟨handler, hmem⟩
    exact List.mem_map.2 ⟨_, hmem, rfl⟩

theorem correlate_ofSaga {correlation : Correlation A} {message : Message A.Body}
    (h : saga.WellFormed) (hmem : correlation ∈ saga.correlations)
    (htype : correlation.message = message.type) :
    (ofSaga saga).correlate message = .ok (correlation.sagaId message.body) := by
  have hfind : Table.find? message.type (correlationTable saga) = some correlation.sagaId := by
    rw [← htype]
    exact Table.find?_foldl_of_mem h.correlations hmem
  unfold correlate
  simp only [ofSaga, hfind]

/-- **What the tables of an accepted saga type hold.** -/
theorem tabled_of_build (h : build saga = .ok registration) : registration.Tabled := by
  obtain ⟨hvalid, rfl⟩ := build_eq_ok_iff.1 h
  have hstages : ∀ message stage,
      (∃ handler, (ofSaga saga).handler? message = some (stage, handler)) ↔
        (ofSaga saga).capabilities.stageOf? message = some stage := by
    intro message stage
    rw [stageOf?_ofSaga_iff hvalid]
    exact exists_congr fun handler => handler?_ofSaga_iff hvalid
  refine ⟨fun _ _ _ => handler?_ofSaga_iff hvalid, hstages, ⟨nodup_eraseDups _, ?_⟩, ?_⟩
  · intro message
    rw [Capabilities.mem_messageTypes_iff, Capabilities.reactsTo, Option.isSome_iff_exists,
      Option.isSome_iff_exists]
    constructor
    · rintro ⟨stage, hstage⟩
      obtain ⟨handler, hhandler⟩ := (hstages message stage).2 hstage
      exact ⟨_, hhandler⟩
    · rintro ⟨⟨stage, handler⟩, hhandler⟩
      exact ⟨stage, (hstages message stage).1 ⟨handler, hhandler⟩⟩
  · intro message stage hstage hne
    obtain ⟨handler, hmem⟩ := (stageOf?_ofSaga_iff hvalid).1 hstage
    obtain ⟨correlation, hcorrelation, htype⟩ :=
      List.mem_map.1 ((hvalid.correlated message.type).2 ⟨_, hmem, rfl, hne⟩)
    exact ⟨correlation, hcorrelation, htype, correlate_ofSaga hvalid hcorrelation htype⟩

end Registration

end Sagas
