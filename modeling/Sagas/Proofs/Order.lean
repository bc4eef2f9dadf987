import Sagas.Proofs.Scripts
import Sagas.Proofs.Validity

/-!
# The order of message types

An accepted saga type keeps the message types that it declared in three lists, one for each stage,
and its listing joins the three. So the listing goes by stages first, and the order of declaration
counts among the messages of one stage only.

* `messageTypes_by_stage`: the listing, and when it is in the order of declaration.
* `interleaved_listing`: a step that is declared before the start message is listed after it.
-/

namespace Sagas

variable {A : Application}

/-- Where the messages of a stage stand in a listing. -/
def Stage.place : Stage → Nat
  | start => 0
  | step => 1
  | compensate => 2

/-- The declarations of one stage, in their order. -/
def declaredIn (stage : Stage) (declarations : List (Declaration A)) : List (Declaration A) :=
  declarations.filter fun declaration => declaration.stage = stage

/-- Declarations sorted by their stages. -/
def byStage (declarations : List (Declaration A)) : List (Declaration A) :=
  declaredIn .start declarations ++ declaredIn .step declarations ++
    declaredIn .compensate declarations

/-- No declaration of a stage comes after one of a later stage. -/
def StageWise (declarations : List (Declaration A)) : Prop :=
  declarations.Pairwise fun first second => first.stage.place ≤ second.stage.place

section Sorting

variable {declarations : List (Declaration A)} {declaration : Declaration A} {stage : Stage}

theorem mem_declaredIn_iff :
    declaration ∈ declaredIn stage declarations ↔
      declaration ∈ declarations ∧ declaration.stage = stage := by
  simp [declaredIn]

theorem declaredIn_cons :
    declaredIn stage (declaration :: declarations) =
      if declaration.stage = stage then declaration :: declaredIn stage declarations
      else declaredIn stage declarations := by
  simp [declaredIn, List.filter_cons]

theorem declaredIn_eq_nil (h : ∀ d ∈ declarations, stage.place < d.stage.place) :
    declaredIn stage declarations = [] := by
  rw [List.eq_nil_iff_forall_not_mem]
  intro d hd
  obtain ⟨hmem, rfl⟩ := mem_declaredIn_iff.1 hd
  exact Nat.lt_irrefl _ (h d hmem)

/-- Sorting keeps every declaration, once. -/
theorem byStage_perm : (byStage declarations).Perm declarations := by
  induction declarations with
  | nil => exact .nil
  | cons declaration rest ih =>
    refine .trans ?_ (ih.cons declaration)
    simp only [byStage, declaredIn_cons]
    cases declaration.stage with
    | start => exact .refl _
    | step => exact List.perm_middle.append_right _
    | compensate => exact List.perm_middle

theorem stageWise_byStage : StageWise (byStage declarations) := by
  have hgroup : ∀ stage, StageWise (declaredIn stage declarations) := fun stage =>
    List.pairwise_of_forall_mem_list fun first hfirst second hsecond => by
      have hsame : first.stage = second.stage :=
        (mem_declaredIn_iff.1 hfirst).2.trans (mem_declaredIn_iff.1 hsecond).2.symm
      exact Nat.le_of_eq (congrArg Stage.place hsame)
  rw [StageWise, byStage, List.pairwise_append, List.pairwise_append]
  refine ⟨⟨hgroup _, hgroup _, fun first hfirst second _ => ?_⟩, hgroup _,
    fun first _ second hsecond => ?_⟩
  · rw [(mem_declaredIn_iff.1 hfirst).2]
    exact Nat.zero_le _
  · rw [(mem_declaredIn_iff.1 hsecond).2]
    cases first.stage <;> decide

/-- Sorting changes nothing where the declarations go by stages already. -/
theorem byStage_eq_self_iff : byStage declarations = declarations ↔ StageWise declarations := by
  refine ⟨fun h => h ▸ stageWise_byStage, fun h => ?_⟩
  induction declarations with
  | nil => rfl
  | cons declaration rest ih =>
    obtain ⟨hhead, hrest⟩ := List.pairwise_cons.1 h
    have hsorted := ih hrest
    -- the stages before that of the first declaration are empty
    have hempty : ∀ stage : Stage, stage.place < declaration.stage.place →
        declaredIn stage rest = [] := fun stage hstage =>
      declaredIn_eq_nil fun d hd => Nat.lt_of_lt_of_le hstage (hhead d hd)
    unfold byStage at hsorted ⊢
    simp only [declaredIn_cons]
    cases hstage : declaration.stage with
    | start => simp [hsorted]
    | step =>
      have hstart := hempty .start (by rw [hstage]; decide)
      simp_all
    | compensate =>
      have hstart := hempty .start (by rw [hstage]; decide)
      have hstep := hempty .step (by rw [hstage]; decide)
      simp_all

/-- If no message type is declared twice, the messages tell the order of the declarations. -/
theorem map_byStage_eq_iff (h : (declarations.map (·.message)).Nodup) :
    (byStage declarations).map (·.message) = declarations.map (·.message) ↔
      StageWise declarations := by
  rw [← byStage_eq_self_iff]
  refine ⟨fun hmessages => ?_, congrArg _⟩
  refine List.ext_getElem byStage_perm.length_eq fun i hi hi' => ?_
  have hmessage : (byStage declarations)[i].message = declarations[i].message := by
    have hmapped : i < ((byStage declarations).map (·.message)).length := by simpa using hi
    simpa only [List.getElem_map] using List.getElem_of_eq hmessages hmapped
  exact List.inj_on_of_nodup_map h (byStage_perm.mem_iff.1 (List.getElem_mem hi))
    (List.getElem_mem hi') hmessage

end Sorting

/-! ## The listing of a registration -/

/-- Nothing is dropped from a list without repetitions. -/
theorem eraseDups_eq_self {α : Type} [DecidableEq α] {xs : List α} (h : xs.Nodup) :
    xs.eraseDups = xs := by
  induction xs with
  | nil => rfl
  | cons x xs ih =>
    obtain ⟨hx, hxs⟩ := List.nodup_cons.1 h
    have hkept : xs.filter (fun y => !y == x) = xs := by
      refine List.filter_eq_self.2 fun y hy => ?_
      have hne : y ≠ x := fun heq => hx (heq ▸ hy)
      simpa using hne
    rw [List.eraseDups_cons, hkept, ih hxs]

namespace Registration

variable {saga : Saga A} {registration : Registration A}

theorem filterMap_declared (stage : Stage) :
    ((declared saga).filterMap fun (message, other) =>
      if other = stage then some message else none) =
      (declaredIn stage saga.declarations).map (·.message) := by
  unfold declared
  induction saga.declarations with
  | nil => rfl
  | cons declaration rest ih =>
    rw [declaredIn_cons, List.map_cons, List.filterMap_cons]
    by_cases hstage : declaration.stage = stage
    · simp only [if_pos hstage, List.map_cons, ih]
    · simp only [if_neg hstage, ih]

theorem messageTypes_ofSaga (h : (saga.declarations.map (·.message)).Nodup) :
    (ofSaga saga).capabilities.messageTypes = (byStage saga.declarations).map (·.message) := by
  have hnodup : ((byStage saga.declarations).map (·.message)).Nodup :=
    (byStage_perm.map _).nodup_iff.2 h
  unfold Capabilities.messageTypes
  simp only [ofSaga, Capabilities.ofDeclared, filterMap_declared]
  rw [← List.map_append, ← List.map_append]
  exact eraseDups_eq_self hnodup

/-- **The order of message types.** An accepted saga type lists exactly the message types that it
declares, each once: those of start messages first, then those of steps, then those of
compensations, and within a stage in the order of declaration. So the listing is in the order of
declaration exactly if the declarations go by stages. -/
theorem messageTypes_by_stage (h : build saga = .ok registration) :
    registration.capabilities.messageTypes =
        (declaredIn .start saga.declarations ++ declaredIn .step saga.declarations ++
          declaredIn .compensate saga.declarations).map (·.message) ∧
      registration.capabilities.messageTypes.Perm (saga.declarations.map (·.message)) ∧
      (registration.capabilities.messageTypes = saga.declarations.map (·.message) ↔
        StageWise saga.declarations) := by
  obtain ⟨hvalid, rfl⟩ := build_eq_ok_iff.1 h
  rw [messageTypes_ofSaga hvalid.handlers]
  exact ⟨rfl, byStage_perm.map _, map_byStage_eq_iff hvalid.handlers⟩

section Interleaved

open Simulation

/-- Counters whose step is declared before their start message. -/
def interleaved : SagaSpec := { counterSpec with
  declarations := [(.step, addToCounter.type), (.start, openCounter.type)]
  correlations := [(addToCounter.type, .id)] }

theorem build_interleaved : build interleaved.toSaga = .ok (ofSaga interleaved.toSaga) :=
  build_eq_ok_iff.2 ⟨violations_eq_nil_iff.1 (by decide), rfl⟩

theorem messageTypes_by_stage_interleaved :
    build interleaved.toSaga = .ok (ofSaga interleaved.toSaga) ∧
      (ofSaga interleaved.toSaga).capabilities.messageTypes =
        [openCounter.type, addToCounter.type] ∧
      ¬ StageWise interleaved.toSaga.declarations := by
  obtain ⟨hlisting, -, hordered⟩ := messageTypes_by_stage build_interleaved
  have hlist : (ofSaga interleaved.toSaga).capabilities.messageTypes =
      [openCounter.type, addToCounter.type] := hlisting
  refine ⟨build_interleaved, hlist, fun hstages => ?_⟩
  have hdeclared := hlist.symm.trans (hordered.2 hstages)
  revert hdeclared
  decide

/-- A step that is declared before the start message is listed after it. -/
theorem interleaved_listing :
    ∃ registration, build interleaved.toSaga = .ok registration ∧
      registration.capabilities.messageTypes ≠
        interleaved.toSaga.declarations.map (·.message) := by
  refine ⟨_, build_interleaved, ?_⟩
  decide

end Interleaved

end Registration

end Sagas
