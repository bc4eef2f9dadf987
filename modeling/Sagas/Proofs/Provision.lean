import Mathlib.Data.List.Induction
import Sagas.Factories
import Sagas.Proofs.Conduct
import Sagas.Proofs.Passage

/-!
# What a table of factories hands out

A table of factories is filled by registrations: for a saga type, either new instances are to be
built or one is to be shared. Which instance a resolution answers depends on the last registration
for its saga type only.

* `Supply`: a registration, whose instances are of the saga type that it is for.
* `find?_after`: what the table holds after some registrations.
* `HandsOut`: the answer to a resolution, with the number of instances made before and after it;
  `resolve_handsOut`: the table answers so.
* `Serves`: the answers to the resolutions among registrations and resolutions in any order, and
  `serve_serves`, by induction on these; `Serves.cut`: what is answered in the middle of them.
-/

namespace Sagas

variable {A : Application}

/-- A registration of the factory of a saga type. Its instances are of that type. -/
inductive Supply where
  /-- A new instance is built every time. -/
  | fresh (saga : SagaType)
  /-- The instance with a serial number is shared. -/
  | shared (saga : SagaType) (serial : Nat)
  deriving DecidableEq, Repr

namespace Supply

/-- The saga type that a registration is for. -/
def saga : Supply → SagaType
  | fresh saga | shared saga _ => saga

/-- The factory that is registered. -/
def factory : Supply → Factory
  | fresh _ => .fresh
  | shared saga serial => .shared ⟨saga.id, serial⟩

end Supply

/-- The last registration for a saga type. -/
def lastFor? (saga : SagaType) (supplies : List Supply) : Option Supply :=
  supplies.reverse.find? fun supply => supply.saga.id = saga.id

section

variable {saga : SagaType} {supplies : List Supply} {supply : Supply}

theorem lastFor?_eq_none_iff :
    lastFor? saga supplies = none ↔ ∀ supply ∈ supplies, supply.saga.id ≠ saga.id := by
  simp [lastFor?]

/-- After the last registration for a saga type there are only some for other types. -/
theorem lastFor?_eq_some_iff : lastFor? saga supplies = some supply ↔
    supply.saga.id = saga.id ∧ ∃ earlier later, supplies = earlier ++ supply :: later ∧
      ∀ other ∈ later, other.saga.id ≠ saga.id := by
  unfold lastFor?
  rw [List.find?_eq_some_iff_append]
  simp only [decide_eq_true_eq, Bool.not_eq_true', decide_eq_false_iff_not]
  refine and_congr_right fun _ => ⟨?_, ?_⟩
  · rintro ⟨later, earlier, hsplit, hother⟩
    refine ⟨earlier.reverse, later.reverse, ?_, fun other hmem => ?_⟩
    · rw [← List.reverse_reverse supplies, hsplit]
      simp
    · exact hother other (List.mem_reverse.1 hmem)
  · rintro ⟨earlier, later, rfl, hother⟩
    refine ⟨later.reverse, earlier.reverse, by simp, fun other hmem => ?_⟩
    exact hother other (List.mem_reverse.1 hmem)

theorem lastFor?_concat : lastFor? saga (supplies ++ [supply]) =
    if supply.saga.id = saga.id then some supply else lastFor? saga supplies := by
  unfold lastFor?
  rw [List.reverse_append, List.reverse_singleton, List.singleton_append, List.find?_cons]
  by_cases hid : supply.saga.id = saga.id <;> simp [hid]

/-- Registrations for other saga types are no matter. -/
theorem lastFor?_filter : lastFor? saga (supplies.filter fun supply => supply.saga.id = saga.id) =
    lastFor? saga supplies := by
  unfold lastFor?
  rw [← List.filter_reverse, List.find?_filter]
  simp

end

namespace Factories

/-- The table after one more registration. -/
def supply (factories : Factories) (supply : Supply) : Factories :=
  factories.register supply.saga supply.factory

/-- The table after some registrations. -/
def after (supplies : List Supply) : Factories := supplies.foldl supply []

theorem after_concat (supplies : List Supply) (one : Supply) :
    after (supplies ++ [one]) = (after supplies).supply one := by
  unfold after
  rw [List.foldl_append]
  rfl

/-- **The last registration counts**, by induction from the end of the registrations. -/
theorem find?_after (saga : SagaType) (supplies : List Supply) :
    Table.find? saga.id (after supplies) = (lastFor? saga supplies).map Supply.factory := by
  induction supplies using List.reverseRecOn with
  | nil => rfl
  | append_singleton supplies supply ih =>
    rw [after_concat, lastFor?_concat]
    change Table.find? saga.id (Table.insert supply.saga.id supply.factory (after supplies)) = _
    rw [Table.find?_insert, ih]
    by_cases hid : supply.saga.id = saga.id
    · rw [if_pos hid.symm, if_pos hid]
      rfl
    · rw [if_neg (Ne.symm hid), if_neg hid]

theorem contains_after (saga : SagaType) (supplies : List Supply) :
    (after supplies).contains saga = true ↔ ∃ supply ∈ supplies, supply.saga.id = saga.id := by
  unfold contains Table.contains
  rw [find?_after, Option.isSome_map, Option.isSome_iff_ne_none, Ne, lastFor?_eq_none_iff]
  simp

end Factories

/-! ## One resolution -/

/-- What says that nothing was registered for a saga type. -/
def missingFactory (saga : SagaType) : Fault := .text s!"no factory registered for saga {saga.name}"

/-- **The answer to a resolution** after some registrations, with the numbers of the instances that
were made before it and until after it. -/
inductive HandsOut (supplies : List Supply) (saga : SagaType) (next : Nat) :
    Except Fault Instance → Nat → Prop where
  | missing : lastFor? saga supplies = none →
      HandsOut supplies saga next (.error (missingFactory saga)) next
  | built {other} : lastFor? saga supplies = some (.fresh other) →
      HandsOut supplies saga next (.ok ⟨saga.id, next⟩) (next + 1)
  | shared {other serial} : lastFor? saga supplies = some (.shared other serial) →
      HandsOut supplies saga next (.ok ⟨saga.id, serial⟩) next

namespace HandsOut

variable {supplies : List Supply} {saga : SagaType} {next last : Nat}
  {answer : Except Fault Instance}

/-- **A resolution fails** exactly if nothing was registered for its saga type. -/
theorem error_iff (h : HandsOut supplies saga next answer last) :
    (∃ fault, answer = .error fault) ↔ ∀ supply ∈ supplies, supply.saga.id ≠ saga.id := by
  rw [← lastFor?_eq_none_iff]
  cases h with
  | missing hlast => exact ⟨fun _ => hlast, fun _ => ⟨_, rfl⟩⟩
  | built hlast | shared hlast =>
    rw [hlast]
    simp

theorem eq_missing {fault : Fault} (h : HandsOut supplies saga next (.error fault) last) :
    fault = missingFactory saga := by
  cases h
  rfl

/-- An instance is always one of the saga type asked for. -/
theorem type_eq {runner : Instance} (h : HandsOut supplies saga next (.ok runner) last) :
    runner.type = saga.id := by
  cases h <;> rfl

theorem le (h : HandsOut supplies saga next answer last) : next ≤ last := by
  cases h with
  | missing | shared => exact Nat.le_refl _
  | built => exact Nat.le_succ _

end HandsOut

section

variable (send : Request A.Body → Run A Answer)

/-- **The table answers as told**, in every world, and changes nothing but the number of instances
made. -/
theorem Factories.resolve_handsOut (supplies : List Supply) (saga : SagaType) (w : World A) :
    ∃ answer next, ((Factories.after supplies).resolve saga).run send w =
        (answer, { w with instances := next }) ∧
      HandsOut supplies saga w.instances answer next := by
  have hfind := Factories.find?_after saga supplies
  unfold Factories.resolve
  cases hlast : lastFor? saga supplies with
  | none =>
    rw [hlast] at hfind
    rw [hfind]
    exact ⟨_, _, rfl, .missing hlast⟩
  | some supply =>
    have hid := (lastFor?_eq_some_iff.1 hlast).1
    rw [hlast] at hfind
    cases supply with
    | fresh other =>
      rw [hfind]
      exact ⟨_, _, rfl, .built hlast⟩
    | shared other serial =>
      have hid : other.id = saga.id := hid
      rw [hfind, Option.map_some, Supply.factory, hid]
      exact ⟨_, _, rfl, .shared hlast⟩

theorem Factories.resolve_filter (supplies : List Supply) (saga : SagaType) :
    ((Factories.after (supplies.filter fun supply => supply.saga.id = saga.id)).resolve saga :
      Program A (Except Fault Instance)) = (Factories.after supplies).resolve saga := by
  unfold Factories.resolve
  rw [Factories.find?_after, Factories.find?_after, lastFor?_filter]

end

/-! ## Registrations and resolutions in any order -/

/-- A use of a table of factories. -/
inductive Use where
  | supply (supply : Supply)
  | resolve (saga : SagaType)
  deriving DecidableEq, Repr

/-- The registration that a use makes. -/
def Use.supply? : Use → Option Supply
  | .supply one => some one
  | .resolve _ => none

/-- Uses a table, and answers what its resolutions did. -/
def Factories.serve : List Use → Factories → Program A (List (Except Fault Instance))
  | [], _ => return []
  | .supply supply :: uses, factories => serve uses (factories.supply supply)
  | .resolve saga :: uses, factories => do
    let answer ← factories.resolve saga
    let answers ← serve uses factories
    return answer :: answers

/-- **The answers to the resolutions among some uses** of a table, after some registrations. -/
inductive Serves : List Supply → Nat → List Use → List (Except Fault Instance) → Nat → Prop where
  | nil {supplies next} : Serves supplies next [] [] next
  | supply {supplies next supply uses answers last} :
      Serves (supplies ++ [supply]) next uses answers last →
      Serves supplies next (.supply supply :: uses) answers last
  | resolve {supplies next saga answer middle uses answers last} :
      HandsOut supplies saga next answer middle → Serves supplies middle uses answers last →
      Serves supplies next (.resolve saga :: uses) (answer :: answers) last

namespace Serves

variable {supplies : List Supply} {saga : SagaType} {uses earlier later : List Use}
  {next last : Nat} {answers : List (Except Fault Instance)}

theorem le (h : Serves supplies next uses answers last) : next ≤ last := by
  induction h with
  | nil => exact Nat.le_refl _
  | supply _ ih => exact ih
  | resolve hanswer _ ih => exact Nat.le_trans hanswer.le ih

/-- Uses come one after the other, by induction on the earlier ones. -/
theorem append (h : Serves supplies next (earlier ++ later) answers last) :
    ∃ before after middle, answers = before ++ after ∧ Serves supplies next earlier before middle ∧
      Serves (supplies ++ earlier.filterMap Use.supply?) middle later after last := by
  induction earlier generalizing supplies next answers with
  | nil => exact ⟨[], answers, next, rfl, .nil, by simpa using h⟩
  | cons use earlier ih =>
    cases h with
    | supply h =>
      obtain ⟨before, after, middle, rfl, hbefore, hafter⟩ := ih h
      rw [List.append_assoc] at hafter
      exact ⟨before, after, middle, rfl, .supply hbefore, hafter⟩
    | resolve hanswer h =>
      obtain ⟨before, after, middle, rfl, hbefore, hafter⟩ := ih h
      exact ⟨_ :: before, after, middle, rfl, .resolve hanswer hbefore, hafter⟩

/-- **A resolution in the middle** answers what the registrations before it make it answer. -/
theorem cut (h : Serves supplies next (earlier ++ .resolve saga :: later) answers last) :
    ∃ before answer after middle middle', answers = before ++ answer :: after ∧
      Serves supplies next earlier before middle ∧
      HandsOut (supplies ++ earlier.filterMap Use.supply?) saga middle answer middle' ∧
      Serves (supplies ++ earlier.filterMap Use.supply?) middle' later after last := by
  obtain ⟨before, after, middle, rfl, hbefore, hafter⟩ := h.append
  cases hafter with
  | resolve hanswer hafter => exact ⟨before, _, _, middle, _, rfl, hbefore, hanswer, hafter⟩

end Serves

/-- **All uses of a table are served as told**, by induction on them. -/
theorem Factories.serve_serves (send : Request A.Body → Run A Answer) (uses : List Use)
    (supplies : List Supply) (w : World A) :
    ∃ answers last, (Factories.serve uses (Factories.after supplies)).run send w =
        (answers, { w with instances := last }) ∧
      Serves supplies w.instances uses answers last := by
  induction uses generalizing supplies w with
  | nil => exact ⟨[], _, rfl, .nil⟩
  | cons use uses ih =>
    cases use with
    | supply supply =>
      obtain ⟨answers, last, hrun, hserves⟩ := ih (supplies ++ [supply]) w
      rw [Factories.after_concat] at hrun
      exact ⟨answers, last, hrun, .supply hserves⟩
    | resolve saga =>
      obtain ⟨answer, next, hanswer, hhands⟩ := resolve_handsOut send supplies saga w
      obtain ⟨answers, last, hrun, hserves⟩ := ih supplies { w with instances := next }
      refine ⟨answer :: answers, last, ?_, .resolve hhands hserves⟩
      rw [Factories.serve, Program.run_bind, Run.bind_apply, hanswer, Program.run_bind,
        Run.bind_apply, hrun]
      rfl

end Sagas
