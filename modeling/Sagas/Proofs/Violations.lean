import Mathlib.Data.List.Count
import Sagas.Proofs.Scripts
import Sagas.Proofs.Validity

/-!
# What is told of broken rules

The error of a saga type that is refused lists the rules that it breaks. Each declaration is
compared with the first earlier one of its message type only, so a conflict between two stages can
hide a repetition: a message type that is declared twice in another stage than at first is told to
be in conflict twice, and not to be repeated. Nothing else is missed.

* `Check.Breaks`: the rules that are told to be broken.
* `Check.mem_along_iff`: what is found by a check that goes along a list.
* `Check.mem_violations_iff`: the checks find what is told to be broken, and nothing else.
* `violations_listed`: what the error of a refused saga type lists, and when it lists every rule
  that is broken.
* `repetition_unlisted`: a saga type that breaks a rule which its error leaves out.
-/

namespace Sagas

variable {A : Application}

theorem two_le_count_iff {α : Type} [BEq α] [LawfulBEq α] {a : α} {xs : List α} :
    2 ≤ xs.count a ↔ ∃ earlier later, xs = earlier ++ a :: later ∧ a ∈ earlier := by
  constructor
  · intro h
    -- cut behind the first occurrence, and again at the second one
    obtain ⟨before, rest, rfl, hbefore⟩ :=
      List.eq_append_cons_of_mem (List.count_pos_iff.1 (Nat.lt_of_lt_of_le Nat.zero_lt_two h))
    rw [List.count_append, List.count_eq_zero_of_not_mem hbefore, List.count_cons_self] at h
    have hrest : 0 < rest.count a := by omega
    obtain ⟨between, later, rfl⟩ := List.append_of_mem (List.count_pos_iff.1 hrest)
    exact ⟨before ++ a :: between, later, by simp, by simp⟩
  · rintro ⟨earlier, later, rfl, hmem⟩
    have hpos := List.count_pos_iff.2 hmem
    rw [List.count_append, List.count_cons_self]
    omega

namespace Check

variable {name : String} {declared earlier : List Declared} {correlated : List MessageType}
  {message : MessageType} {stage first second : Stage} {violation : Violation}

/-! ## Checks along a list -/

/-- What a check finds that looks at each item of a list and the ones before it. -/
def along {α : Type} (check : List α → α → List Violation) (earlier : List α) :
    List α → List Violation
  | [] => []
  | item :: rest => check earlier item ++ along check (earlier ++ [item]) rest

theorem mem_along_iff {α : Type} {check : List α → α → List Violation} {earlier items : List α} :
    violation ∈ along check earlier items ↔ ∃ before item after,
      items = before ++ item :: after ∧ violation ∈ check (earlier ++ before) item := by
  induction items generalizing earlier with
  | nil => simp [along]
  | cons item rest ih =>
    rw [along, List.mem_append, ih]
    constructor
    · rintro (hhere | ⟨before, other, after, rfl, hmem⟩)
      · exact ⟨[], item, rest, rfl, by rwa [List.append_nil]⟩
      · exact ⟨item :: before, other, after, rfl, by rwa [List.append_assoc] at hmem⟩
    · rintro ⟨before, other, after, hsplit, hmem⟩
      cases before with
      | nil =>
        obtain ⟨rfl, rfl⟩ := List.cons.inj hsplit
        rw [List.append_nil] at hmem
        exact .inl hmem
      | cons head before =>
        obtain ⟨rfl, rfl⟩ := List.cons.inj hsplit
        exact .inr ⟨before, other, after, rfl, by rwa [List.append_assoc]⟩

theorem repetitions_eq_along :
    repetitions earlier declared = along againstEarlier earlier declared := by
  induction declared generalizing earlier with
  | nil => rfl
  | cons declaration rest ih => rw [repetitions, along, ih]

/-- What is wrong with one correlation after the `earlier` ones. -/
def againstCorrelated (declared : List Declared) (earlier : List MessageType)
    (message : MessageType) : List Violation :=
  if message ∈ earlier then [.duplicateCorrelation message]
  else if isCorrelatable declared message then []
  else [.orphanCorrelation message]

theorem correlationFaults_eq_along {earlier : List MessageType} :
    correlationFaults declared earlier correlated =
      along (againstCorrelated declared) earlier correlated := by
  induction correlated generalizing earlier with
  | nil => rfl
  | cons message rest ih => rw [correlationFaults, along, ih]; rfl

/-! ## Declarations -/

/-- The stage in which a message type is declared first. -/
def firstStage? (declared : List Declared) (message : MessageType) : Option Stage :=
  (declared.find? fun other => other.1 == message).map (·.2)

/-- What is told of a message type that is declared in one stage after it was in another one, or in
the same. -/
def clash (message : MessageType) (first second : Stage) : Violation :=
  if first = second then .duplicateHandler message second
  else .conflictingStages message first second

theorem mem_againstEarlier_iff : violation ∈ againstEarlier earlier (message, stage) ↔
    ∃ first, firstStage? earlier message = some first ∧ violation = clash message first stage := by
  unfold againstEarlier firstStage?
  cases earlier.find? fun other => other.1 == message with
  | none => simp
  | some other =>
    obtain ⟨_, first⟩ := other
    simp only [Option.map_some, Option.some.injEq, exists_eq_left', clash]
    split <;> exact List.mem_singleton

/-- Where a message type is declared first, and what follows. -/
theorem firstStage?_eq_some_iff : firstStage? declared message = some first ↔
    ∃ before after, declared = before ++ (message, first) :: after ∧
      message ∉ before.map (·.1) := by
  have hnone : ∀ before : List Declared, message ∉ before.map (·.1) ↔
      ∀ other ∈ before, (!other.1 == message) = true := by
    intro before
    simp only [List.mem_map, not_exists, not_and, Bool.not_eq_true', beq_eq_false_iff_ne, ne_eq]
  unfold firstStage?
  rw [Option.map_eq_some_iff]
  simp only [List.find?_eq_some_iff_append, beq_iff_eq, hnone]
  constructor
  · rintro ⟨⟨_, _⟩, ⟨rfl, before, after, hsplit, hbefore⟩, rfl⟩
    exact ⟨before, after, hsplit, hbefore⟩
  · rintro ⟨before, after, hsplit, hbefore⟩
    exact ⟨(message, first), ⟨rfl, before, after, hsplit, hbefore⟩, rfl⟩

theorem firstStage?_append_of_some {later : List Declared}
    (h : firstStage? declared message = some first) :
    firstStage? (declared ++ later) message = some first := by
  obtain ⟨before, after, rfl, hbefore⟩ := firstStage?_eq_some_iff.1 h
  exact firstStage?_eq_some_iff.2 ⟨before, after ++ later, by simp, hbefore⟩

theorem mem_of_firstStage? (h : firstStage? declared message = some first) :
    (message, first) ∈ declared := by
  obtain ⟨before, after, rfl, -⟩ := firstStage?_eq_some_iff.1 h
  simp

theorem exists_firstStage? (h : (message, stage) ∈ declared) :
    ∃ first, firstStage? declared message = some first := by
  have hfind : (declared.find? fun other => other.1 == message).isSome :=
    List.find?_isSome.2 ⟨_, h, by simp⟩
  obtain ⟨declaration, hdeclaration⟩ := Option.isSome_iff_exists.1 hfind
  exact ⟨declaration.2, by rw [firstStage?, hdeclaration]; rfl⟩

/-- A declaration after the first one of its message type. -/
theorem exists_later_iff : (∃ before after, declared = before ++ (message, stage) :: after ∧
      firstStage? before message = some first) ↔
    firstStage? declared message = some first ∧ (message, stage) ∈ declared ∧
      (stage = first → 2 ≤ declared.count (message, first)) := by
  constructor
  · rintro ⟨before, after, rfl, hfirst⟩
    refine ⟨firstStage?_append_of_some hfirst, by simp, ?_⟩
    rintro rfl
    exact two_le_count_iff.2 ⟨before, after, rfl, mem_of_firstStage? hfirst⟩
  · rintro ⟨hfirst, hmem, hcount⟩
    obtain ⟨before, rest, rfl, hbefore⟩ := firstStage?_eq_some_iff.1 hfirst
    have hnot : ∀ other, (message, other) ∉ before :=
      fun other h => hbefore (List.mem_map_of_mem h)
    -- the declaration stands in what follows the first one of its message type
    have hrest : (message, stage) ∈ rest := by
      by_cases hstage : stage = first
      · subst hstage
        have htwo := hcount rfl
        rw [List.count_append, List.count_eq_zero_of_not_mem (hnot stage),
          List.count_cons_self] at htwo
        exact List.count_pos_iff.1 (by omega)
      · rcases List.mem_append.1 hmem with h | h
        · exact absurd h (hnot stage)
        · rcases List.mem_cons.1 h with h | h
          · exact absurd (Prod.mk.inj h).2 hstage
          · exact h
    obtain ⟨between, after, rfl⟩ := List.append_of_mem hrest
    exact ⟨before ++ (message, first) :: between, after, by simp,
      firstStage?_eq_some_iff.2 ⟨before, between, rfl, hbefore⟩⟩

/-- **What is found for declarations**: each one that is not the first of its message type clashes
with the first one. -/
theorem mem_repetitions_iff : violation ∈ repetitions [] declared ↔ ∃ message first second,
    firstStage? declared message = some first ∧ (message, second) ∈ declared ∧
      (second = first → 2 ≤ declared.count (message, first)) ∧
      violation = clash message first second := by
  rw [repetitions_eq_along, mem_along_iff]
  constructor
  · rintro ⟨before, ⟨message, second⟩, after, hsplit, hmem⟩
    obtain ⟨first, hfirst, hclash⟩ := mem_againstEarlier_iff.1 hmem
    obtain ⟨hstage, hmem, hcount⟩ := exists_later_iff.1 ⟨before, after, hsplit, hfirst⟩
    exact ⟨message, first, second, hstage, hmem, hcount, hclash⟩
  · rintro ⟨message, first, second, hstage, hmem, hcount, hclash⟩
    obtain ⟨before, after, hsplit, hfirst⟩ := exists_later_iff.2 ⟨hstage, hmem, hcount⟩
    exact ⟨before, _, after, hsplit, mem_againstEarlier_iff.2 ⟨first, hfirst, hclash⟩⟩

/-! ## Correlations -/

theorem mem_missing_iff : violation ∈ missing declared correlated ↔
    ∃ message stage, violation = .missingCorrelation message stage ∧
      (message, stage) ∈ declared ∧ stage ≠ .start ∧ message ∉ correlated := by
  rw [missing, List.mem_eraseDups, List.mem_filterMap]
  simp only [requiresCorrelation_iff]
  constructor
  · rintro ⟨⟨message, stage⟩, hmem, hsome⟩
    dsimp only at hsome
    split at hsome
    · rename_i h
      exact ⟨message, stage, (Option.some.inj hsome).symm, hmem, h⟩
    · cases hsome
  · rintro ⟨message, stage, rfl, hmem, h⟩
    exact ⟨(message, stage), hmem, if_pos h⟩

theorem isCorrelatable_eq_false_iff : isCorrelatable declared message = false ↔
    (message, .step) ∉ declared ∧ (message, .compensate) ∉ declared := by
  rw [← Bool.not_eq_true, isCorrelatable_iff]
  constructor
  · intro h
    exact ⟨fun hmem => h ⟨_, hmem, rfl, nofun⟩, fun hmem => h ⟨_, hmem, rfl, nofun⟩⟩
  · rintro ⟨hstep, hcompensate⟩ ⟨⟨_, stage⟩, hmem, rfl, hstage⟩
    cases stage with
    | start => exact hstage rfl
    | step => exact hstep hmem
    | compensate => exact hcompensate hmem

/-- **What is found for correlations**: the repeated ones, and the first one of each message type
that is declared neither as step nor as compensate. -/
theorem mem_correlationFaults_iff : violation ∈ correlationFaults declared [] correlated ↔
    (∃ message, violation = .duplicateCorrelation message ∧ 2 ≤ correlated.count message) ∨
      ∃ message, violation = .orphanCorrelation message ∧ message ∈ correlated ∧
        isCorrelatable declared message = false := by
  rw [correlationFaults_eq_along, mem_along_iff]
  constructor
  · rintro ⟨before, message, after, rfl, hmem⟩
    rw [List.nil_append, againstCorrelated] at hmem
    split at hmem
    · rename_i hbefore
      exact .inl ⟨message, List.mem_singleton.1 hmem,
        two_le_count_iff.2 ⟨before, after, rfl, hbefore⟩⟩
    · split at hmem
      · cases hmem
      · rename_i horphan
        exact .inr ⟨message, List.mem_singleton.1 hmem, by simp, by simpa using horphan⟩
  · rintro (⟨message, rfl, hcount⟩ | ⟨message, rfl, hmem, horphan⟩)
    · obtain ⟨before, after, rfl, hbefore⟩ := two_le_count_iff.1 hcount
      exact ⟨before, message, after, rfl, by simp [againstCorrelated, hbefore]⟩
    · obtain ⟨before, after, rfl, hbefore⟩ := List.eq_append_cons_of_mem hmem
      exact ⟨before, message, after, rfl, by simp [againstCorrelated, hbefore, horphan]⟩

/-! ## All checks -/

/-- The rules that are told to be broken. A repetition counts only in the stage in which its message
type is declared first. -/
inductive Breaks (name : String) (declared : List Declared) (correlated : List MessageType) :
    Violation → Prop where
  | unnamed : (∀ c ∈ name.toList, Text.isBlank c = true) →
      Breaks name declared correlated .emptySagaType
  | unstarted : (∀ message, (message, .start) ∉ declared) →
      Breaks name declared correlated .noStartMessage
  | repeated {message : MessageType} {stage : Stage} : 2 ≤ declared.count (message, stage) →
      firstStage? declared message = some stage →
      Breaks name declared correlated (.duplicateHandler message stage)
  | conflicting {message : MessageType} {first second : Stage} :
      firstStage? declared message = some first →
      (message, second) ∈ declared → second ≠ first →
      Breaks name declared correlated (.conflictingStages message first second)
  | uncorrelated {message : MessageType} {stage : Stage} : (message, stage) ∈ declared →
      stage ≠ .start → message ∉ correlated →
      Breaks name declared correlated (.missingCorrelation message stage)
  | orphaned {message : MessageType} : message ∈ correlated →
      (message, .step) ∉ declared → (message, .compensate) ∉ declared →
      Breaks name declared correlated (.orphanCorrelation message)
  | correlatedTwice {message : MessageType} : 2 ≤ correlated.count message →
      Breaks name declared correlated (.duplicateCorrelation message)

/-- **What the checks find.** -/
theorem mem_violations_iff : violation ∈ violations name declared correlated ↔
    Breaks name declared correlated violation := by
  have hname : violation ∈ (if Text.trim name.toList = [] then [Violation.emptySagaType] else []) ↔
      violation = .emptySagaType ∧ ∀ c ∈ name.toList, Text.isBlank c = true := by
    rw [← Text.trim_eq_nil_iff]
    split <;> simp_all
  have hstart : violation ∈ (if declared.any fun d => d.2 == .start then []
      else [Violation.noStartMessage]) ↔
        violation = .noStartMessage ∧ ∀ message, (message, .start) ∉ declared := by
    split
    · rename_i h
      obtain ⟨⟨message, _⟩, hmem, hstage⟩ := List.any_eq_true.1 h
      obtain rfl := beq_iff_eq.1 hstage
      exact ⟨nofun, fun hall => absurd hmem (hall.2 message)⟩
    · rename_i h
      refine List.mem_singleton.trans ⟨fun hv => ⟨hv, fun message hmem => h ?_⟩, And.left⟩
      exact List.any_eq_true.2 ⟨_, hmem, beq_self_eq_true _⟩
  simp only [violations, List.mem_append, hname, hstart, mem_repetitions_iff, mem_missing_iff,
    mem_correlationFaults_iff, isCorrelatable_eq_false_iff]
  constructor
  · rintro ((((⟨rfl, h⟩ | ⟨rfl, h⟩) | ⟨message, first, second, hfirst, hmem, hcount, rfl⟩) |
      ⟨message, stage, rfl, hmem, hstage, h⟩) | ⟨message, rfl, h⟩ | ⟨message, rfl, hmem, h⟩)
    · exact .unnamed h
    · exact .unstarted h
    · unfold clash
      split
      · rename_i hsame
        subst hsame
        exact .repeated (hcount rfl) hfirst
      · rename_i hother
        exact .conflicting hfirst hmem (Ne.symm hother)
    · exact .uncorrelated hmem hstage h
    · exact .correlatedTwice h
    · exact .orphaned hmem h.1 h.2
  · intro h
    cases h with
    | unnamed h => exact .inl (.inl (.inl (.inl ⟨rfl, h⟩)))
    | unstarted h => exact .inl (.inl (.inl (.inr ⟨rfl, h⟩)))
    | @repeated message stage hcount hfirst =>
      exact .inl (.inl (.inr ⟨message, stage, stage, hfirst, mem_of_firstStage? hfirst,
        fun _ => hcount, (if_pos rfl).symm⟩))
    | @conflicting message first second hfirst hmem hother =>
      exact .inl (.inl (.inr ⟨message, first, second, hfirst, hmem, fun h => absurd h hother,
        (if_neg (Ne.symm hother)).symm⟩))
    | uncorrelated hmem hstage h => exact .inl (.inr ⟨_, _, rfl, hmem, hstage, h⟩)
    | orphaned hmem hstep hcompensate => exact .inr (.inr ⟨_, rfl, hmem, hstep, hcompensate⟩)
    | correlatedTwice h => exact .inr (.inl ⟨_, rfl, h⟩)

/-- Some violations list the broken rules. Which message types count as repeated in a stage is left
open. -/
structure Lists (repeated : MessageType → Stage → Prop) (name : String) (declared : List Declared)
    (correlated : List MessageType) (found : List Violation) : Prop where
  unnamed : .emptySagaType ∈ found ↔ ∀ c ∈ name.toList, Text.isBlank c = true
  unstarted : .noStartMessage ∈ found ↔ ∀ message, (message, .start) ∉ declared
  repeated : ∀ message stage, .duplicateHandler message stage ∈ found ↔ repeated message stage
  /-- An entry for a message type that is declared in two different stages. -/
  conflicting : ∀ message, (∃ first second, .conflictingStages message first second ∈ found) ↔
    ∃ first second, (message, first) ∈ declared ∧ (message, second) ∈ declared ∧ first ≠ second
  uncorrelated : ∀ message stage, .missingCorrelation message stage ∈ found ↔
    (message, stage) ∈ declared ∧ stage ≠ .start ∧ message ∉ correlated
  orphaned : ∀ message, .orphanCorrelation message ∈ found ↔
    message ∈ correlated ∧ (message, .step) ∉ declared ∧ (message, .compensate) ∉ declared
  correlatedTwice : ∀ message,
    .duplicateCorrelation message ∈ found ↔ 2 ≤ correlated.count message

/-- A message type that is declared in two stages is told to be in conflict. -/
theorem exists_conflicting_iff :
    (∃ first second, Breaks name declared correlated (.conflictingStages message first second)) ↔
      ∃ first second, (message, first) ∈ declared ∧ (message, second) ∈ declared ∧
        first ≠ second := by
  constructor
  · rintro ⟨first, second, h⟩
    cases h with
    | conflicting hfirst hmem hother =>
      exact ⟨first, second, mem_of_firstStage? hfirst, hmem, Ne.symm hother⟩
  · rintro ⟨left, right, hleft, hright, hne⟩
    -- one of the two is not the stage in which the message type is declared first
    obtain ⟨first, hfirst⟩ := exists_firstStage? hleft
    by_cases h : left = first
    · subst h
      exact ⟨left, right, .conflicting hfirst hright (Ne.symm hne)⟩
    · exact ⟨first, left, .conflicting hfirst hleft h⟩

theorem lists_violations (name : String) (declared : List Declared)
    (correlated : List MessageType) :
    Lists (fun message stage => 2 ≤ declared.count (message, stage) ∧
      firstStage? declared message = some stage) name declared correlated
      (violations name declared correlated) := by
  refine ⟨?_, ?_, fun message stage => ?_, fun message => ?_, fun message stage => ?_,
    fun message => ?_, fun message => ?_⟩
  · rw [mem_violations_iff]
    exact ⟨fun | .unnamed h => h, .unnamed⟩
  · rw [mem_violations_iff]
    exact ⟨fun | .unstarted h => h, .unstarted⟩
  · rw [mem_violations_iff]
    exact ⟨fun | .repeated hcount hfirst => ⟨hcount, hfirst⟩, fun h => .repeated h.1 h.2⟩
  · simp only [mem_violations_iff]
    exact exists_conflicting_iff
  · rw [mem_violations_iff]
    exact ⟨fun | .uncorrelated hmem hstage h => ⟨hmem, hstage, h⟩,
      fun h => .uncorrelated h.1 h.2.1 h.2.2⟩
  · rw [mem_violations_iff]
    exact ⟨fun | .orphaned hmem hstep h => ⟨hmem, hstep, h⟩, fun h => .orphaned h.1 h.2.1 h.2.2⟩
  · rw [mem_violations_iff]
    exact ⟨fun | .correlatedTwice h => h, .correlatedTwice⟩

end Check

/-! ## Refused saga types -/

namespace Registration

/-- The violations that the error of a refused saga type lists. -/
def refusal (saga : Saga A) : List Violation :=
  match build saga with
  | .ok _ => []
  | .error error => error.violations

theorem refusal_eq (saga : Saga A) : refusal saga = violations saga := by
  unfold refusal build
  by_cases h : violations saga = []
  · rw [if_pos h, h]
  · rw [if_neg h]
    rfl

end Registration

open Registration in
/-- **What the error of a refused saga type lists.** Every rule that it breaks, but of the
repetitions those only that are in the stage in which their message type is declared first. So it
lists every broken rule exactly if no message type is declared twice in another stage than that. -/
theorem violations_listed (saga : Saga A) :
    let lists := fun repeated => Check.Lists repeated saga.type.name (declared saga)
      (saga.correlations.map (·.message)) (refusal saga)
    let twice := fun message stage => 2 ≤ (declared saga).count (message, stage)
    let first := fun message stage => Check.firstStage? (declared saga) message = some stage
    lists (fun message stage => twice message stage ∧ first message stage) ∧
      (lists twice ↔ ∀ message stage, twice message stage → first message stage) := by
  intro lists twice first
  have hlists : lists fun message stage => twice message stage ∧ first message stage := by
    change Check.Lists _ _ _ _ (refusal saga)
    rw [refusal_eq]
    exact Check.lists_violations _ _ _
  refine ⟨hlists, fun h message stage htwice => ?_, fun h => ?_⟩
  · exact ((hlists.repeated message stage).1 ((h.repeated message stage).2 htwice)).2
  · refine { hlists with repeated := fun message stage => ?_ }
    exact (hlists.repeated message stage).trans (and_iff_left_of_imp (h message stage))

open Simulation in
/-- Counters that are opened by the message of a step, which is declared twice: the error tells of
the conflict between the two stages, twice, and not of the repetition. -/
theorem repetition_unlisted :
    let saga := { counterSpec with
      declarations := [(.start, addToCounter.type), (.step, addToCounter.type),
        (.step, addToCounter.type)]
      correlations := [(addToCounter.type, .id)] }.toSaga
    2 ≤ (Registration.declared saga).count (addToCounter.type, .step) ∧
      .duplicateHandler addToCounter.type .step ∉ Registration.refusal saga ∧
      Registration.refusal saga = [.conflictingStages addToCounter.type .start .step,
        .conflictingStages addToCounter.type .start .step] := by
  decide

end Sagas
