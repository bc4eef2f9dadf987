import Mathlib.Data.List.Induction
import Mathlib.Logic.Relation
import Sagas.Signal

/-!
# Families of handles

Handles that were cloned from each other stand for one signal, over chains of clones of any length
and whichever of them was made first. Handles that were issued apart stand for different signals.

* `Cloned`, `Cancelled`: what was done with handles, read off the steps alone.
* `Family`: handles that clones join.
* `handles_eq_iff`: two handles stand for one signal exactly if they are of one family.
* `isCancelled_iff`: a signal is cancelled exactly if a handle on it was.
* `watch_ended`: a wait has ended exactly if it had before or the signal is cancelled at last.
* `clone_families`: what a holder of handles is told of each of them.
-/

namespace Sagas.Handles

variable {held : Handles} {steps later before : List Step} {step : Step} {i j k : Nat}
  {signal : Signal}

/-! ## What the steps say -/

/-- How many handles there are after one more step. -/
def madeBy (n : Nat) : Step → Nat
  | .new => n + 1
  | .clone i => if i < n then n + 1 else n
  | .cancel _ => n

/-- How many handles there are after some steps of somebody who began without any. They are numbered
from 0, oldest first. -/
def made (steps : List Step) : Nat := steps.foldl madeBy 0

/-- Handle `j` was made by cloning handle `i`. -/
def Cloned (steps : List Step) (i j : Nat) : Prop :=
  ∃ before, before ++ [.clone i] <+: steps ∧ i < made before ∧ j = made before

/-- Handle `k` was cancelled. -/
def Cancelled (steps : List Step) (k : Nat) : Prop :=
  ∃ before, before ++ [.cancel k] <+: steps ∧ k < made before

/-- **A family**: handles that clones join, in either direction and over any chain. -/
def Family (steps : List Step) : Nat → Nat → Prop := Relation.EqvGen (Cloned steps)

theorem Cloned.append (h : Cloned steps i j) (later : List Step) :
    Cloned (steps ++ later) i j := by
  obtain ⟨before, hbefore, hi, hj⟩ := h
  exact ⟨before, hbefore.trans (List.prefix_append steps later), hi, hj⟩

theorem Family.append (h : Family steps i j) (later : List Step) : Family (steps ++ later) i j :=
  Relation.EqvGen.mono (fun _ _ hcloned => Cloned.append hcloned later) _ _ h

theorem cancelled_concat :
    Cancelled (steps ++ [step]) k ↔ Cancelled steps k ∨ step = .cancel k ∧ k < made steps := by
  constructor
  · rintro ⟨before, hbefore, hk⟩
    rcases List.prefix_concat_iff.1 hbefore with hlast | hearlier
    · obtain ⟨rfl, rfl⟩ : before = steps ∧ Step.cancel k = step := by simpa using hlast
      exact .inr ⟨rfl, hk⟩
    · exact .inl ⟨before, hearlier, hk⟩
  · rintro (⟨before, hbefore, hk⟩ | ⟨rfl, hk⟩)
    · exact ⟨before, hbefore.trans (List.prefix_append steps [step]), hk⟩
    · exact ⟨steps, List.prefix_rfl, hk⟩

/-! ## What one step does -/

/-- What is held after some steps of somebody who began without any handle. -/
def after (steps : List Step) : Handles := run ⟨.empty, []⟩ steps

theorem after_append (steps later : List Step) : after (steps ++ later) = (after steps).run later :=
  List.foldl_append

theorem after_concat (steps : List Step) (step : Step) :
    after (steps ++ [step]) = (after steps).step step := after_append steps [step]

/-- **A step** issues a signal, clones a handle or cancels one that is there, or does nothing. -/
theorem step_cases (held : Handles) (step : Step) :
    (step = .new ∧ held.step step = ⟨held.signals.issue, held.handles ++ [held.signals.fresh]⟩) ∨
    (∃ i signal, step = .clone i ∧ held.handles[i]? = some signal ∧
      held.step step = ⟨held.signals, held.handles ++ [signal]⟩) ∨
    (∃ k signal, step = .cancel k ∧ held.handles[k]? = some signal ∧
      held.step step = ⟨held.signals.cancel signal, held.handles⟩) ∨
    (∃ i, (step = .clone i ∨ step = .cancel i) ∧ held.handles[i]? = none ∧
      held.step step = held) := by
  cases step with
  | new => exact .inl ⟨rfl, rfl⟩
  | clone i =>
    cases hi : held.handles[i]? with
    | some signal => exact .inr (.inl ⟨i, signal, rfl, hi, by simp only [Handles.step, hi]⟩)
    | none => exact .inr (.inr (.inr ⟨i, .inl rfl, hi, by simp only [Handles.step, hi]⟩))
  | cancel k =>
    cases hk : held.handles[k]? with
    | some signal => exact .inr (.inr (.inl ⟨k, signal, rfl, hk, by simp only [Handles.step, hk]⟩))
    | none => exact .inr (.inr (.inr ⟨k, .inr rfl, hk, by simp only [Handles.step, hk]⟩))

theorem handles_step (held : Handles) (step : Step) :
    held.handles <+: (held.step step).handles := by
  rcases step_cases held step with ⟨-, h⟩ | ⟨_, _, -, -, h⟩ | ⟨_, _, -, -, h⟩ | ⟨_, -, -, h⟩
  · simp only [h, List.prefix_append]
  · simp only [h, List.prefix_append]
  · simp only [h, List.prefix_rfl]
  · simp only [h, List.prefix_rfl]

theorem length_handles_step (held : Handles) (step : Step) :
    (held.step step).handles.length = madeBy held.handles.length step := by
  rcases step_cases held step with ⟨rfl, h⟩ | ⟨i, _, rfl, hi, h⟩ | ⟨_, _, rfl, -, h⟩ |
      ⟨i, rfl | rfl, hi, h⟩
  · rw [h, List.length_append]
    rfl
  · have hlt : i < held.handles.length := (List.getElem?_eq_some_iff.1 hi).1
    rw [h, List.length_append, madeBy, if_pos hlt]
    rfl
  · rw [h]
    rfl
  · have hle : held.handles.length ≤ i := List.getElem?_eq_none_iff.1 hi
    rw [h, madeBy, if_neg (by omega)]
  · rw [h]
    rfl

/-- **A step cancels a signal** if it cancels a handle on it. -/
theorem isCancelled_step_iff (held : Handles) (step : Step) :
    (held.step step).signals.isCancelled signal = true ↔
      held.signals.isCancelled signal = true ∨
        ∃ k, step = .cancel k ∧ held.handles[k]? = some signal := by
  rcases step_cases held step with ⟨rfl, h⟩ | ⟨_, _, rfl, -, h⟩ | ⟨k, other, rfl, hk, h⟩ |
      ⟨k, rfl | rfl, hk, h⟩
  · rw [h]
    simp [Signals.isCancelled, Signals.issue]
  · rw [h]
    simp
  · have hcancel : (held.signals.cancel other).isCancelled signal = true ↔
        signal = other ∨ held.signals.isCancelled signal = true := by
      simp [Signals.isCancelled, Signals.cancel]
    rw [h, hcancel, or_comm]
    refine or_congr_right ⟨?_, ?_⟩
    · rintro rfl
      exact ⟨k, rfl, hk⟩
    · rintro ⟨_, hstep, hsignal⟩
      obtain rfl := Step.cancel.inj hstep
      exact Option.some.inj (hsignal.symm.trans hk)
  · rw [h]
    simp
  · rw [h]
    simp [hk]

/-! ## What a run does -/

theorem handles_run (held : Handles) (steps : List Step) :
    held.handles <+: (held.run steps).handles := by
  induction steps generalizing held with
  | nil => exact List.prefix_rfl
  | cons step steps ih => exact (handles_step held step).trans (ih (held.step step))

/-- **A cancelled signal** stays cancelled. -/
theorem isCancelled_run (h : held.signals.isCancelled signal = true) (steps : List Step) :
    (held.run steps).signals.isCancelled signal = true := by
  induction steps generalizing held with
  | nil => exact h
  | cons step steps ih => exact ih ((isCancelled_step_iff held step).2 (.inl h))

theorem length_handles (steps : List Step) : (after steps).handles.length = made steps := by
  induction steps using List.reverseRecOn with
  | nil => rfl
  | append_singleton steps step ih =>
    rw [after_concat, length_handles_step, ih, made, made, List.foldl_append]
    rfl

/-- A handle stands for its signal ever after. -/
theorem handle_lasts (h : (after steps).handles[i]? = some signal) (later : List Step) :
    (after (steps ++ later)).handles[i]? = some signal := by
  obtain ⟨hi, rfl⟩ := List.getElem?_eq_some_iff.1 h
  rw [after_append]
  exact List.prefix_iff_getElem?.1 (handles_run _ later) i hi

theorem exists_handle (h : i < made steps) : ∃ signal, (after steps).handles[i]? = some signal := by
  rw [← length_handles] at h
  exact ⟨_, List.getElem?_eq_getElem h⟩

theorem lt_made (h : (after steps).handles[i]? = some signal) : i < made steps := by
  rw [← length_handles]
  exact (List.getElem?_eq_some_iff.1 h).1

/-- The signals of the handles have been issued. -/
theorem id_lt_issued (h : signal ∈ (after steps).handles) :
    signal.id < (after steps).signals.issued := by
  induction steps using List.reverseRecOn generalizing signal with
  | nil => cases h
  | append_singleton steps step ih =>
    rw [after_concat] at h ⊢
    rcases step_cases (after steps) step with ⟨-, hs⟩ | ⟨_, other, -, hk, hs⟩ | ⟨_, _, -, -, hs⟩ |
        ⟨_, -, -, hs⟩
    · rw [hs] at h ⊢
      rcases List.mem_append.1 h with hold | hnew
      · exact Nat.lt_succ_of_lt (ih hold)
      · rw [List.mem_singleton.1 hnew]
        exact Nat.lt_succ_self _
    · rw [hs] at h ⊢
      rcases List.mem_append.1 h with hold | hnew
      · exact ih hold
      · rw [List.mem_singleton.1 hnew]
        exact ih (List.mem_of_getElem? hk)
    · rw [hs] at h ⊢
      exact ih h
    · rw [hs] at h ⊢
      exact ih h

/-- A handle is one of those that there were, or the one that was added. -/
theorem getElem?_concat {handles : List Signal} {one : Signal}
    (h : (handles ++ [one])[i]? = some signal) :
    handles[i]? = some signal ∨ i = handles.length ∧ signal = one := by
  rcases Nat.lt_or_ge i handles.length with hlt | hge
  · rw [List.getElem?_append_left hlt] at h
    exact .inl h
  · rw [List.getElem?_append_right hge, List.getElem?_singleton] at h
    split at h
    · exact .inr ⟨by omega, (Option.some.inj h).symm⟩
    · cases h

/-! ## One family, one signal -/

theorem Cloned.handle_eq (h : Cloned steps i j) :
    (after steps).handles[i]? = (after steps).handles[j]? := by
  obtain ⟨before, ⟨later, rfl⟩, hi, rfl⟩ := h
  obtain ⟨signal, hsignal⟩ := exists_handle hi
  have hstep : after (before ++ [.clone i]) =
      ⟨(after before).signals, (after before).handles ++ [signal]⟩ := by
    rw [after_concat]
    simp only [step, hsignal]
  have hclone : (after (before ++ [.clone i])).handles[made before]? = some signal := by
    rw [hstep, ← length_handles]
    exact List.getElem?_concat_length
  rw [handle_lasts hclone later, List.append_assoc]
  exact handle_lasts hsignal _

/-- The handles of a family stand for one signal, by induction on the clones that join them. -/
theorem Family.handle_eq (h : Family steps i j) :
    (after steps).handles[i]? = (after steps).handles[j]? := by
  induction h with
  | rel i j hcloned => exact hcloned.handle_eq
  | refl i => rfl
  | symm i j _ ih => exact ih.symm
  | trans i j k _ _ hij hjk => exact hij.trans hjk

/-- Handles on one signal are of one family, by induction from the end of the steps. The last one
has added a handle on a signal that no other handle stands for, or a clone of a handle. -/
theorem family_of_handle_eq (hi : (after steps).handles[i]? = some signal)
    (hj : (after steps).handles[j]? = some signal) : Family steps i j := by
  induction steps using List.reverseRecOn generalizing i j signal with
  | nil => cases hi
  | append_singleton steps step ih =>
    have hearlier : ∀ {i j signal}, (after steps).handles[i]? = some signal →
        (after steps).handles[j]? = some signal → Family (steps ++ [step]) i j :=
      fun hi hj => (ih hi hj).append [step]
    rw [after_concat] at hi hj
    rcases step_cases (after steps) step with ⟨-, hs⟩ | ⟨k, other, hstep, hk, hs⟩ |
        ⟨_, _, -, -, hs⟩ | ⟨_, -, -, hs⟩
    · rw [hs] at hi hj
      -- nothing that was held before is on the signal that was just issued
      have hfresh : ∀ {i}, (after steps).handles[i]? ≠ some (after steps).signals.fresh :=
        fun hold => Nat.lt_irrefl _ (id_lt_issued (List.mem_of_getElem? hold))
      rcases getElem?_concat hi with hold | ⟨rfl, rfl⟩
      · rcases getElem?_concat hj with hother | ⟨-, rfl⟩
        · exact hearlier hold hother
        · exact absurd hold hfresh
      · rcases getElem?_concat hj with hother | ⟨rfl, -⟩
        · exact absurd hother hfresh
        · exact .refl _
    · have hclone : Family (steps ++ [step]) k (after steps).handles.length := by
        rw [hstep, length_handles]
        exact .rel _ _ ⟨steps, List.prefix_rfl, lt_made hk, rfl⟩
      rw [hs] at hi hj
      -- the clone is reached from any other handle through the one that it was made from
      rcases getElem?_concat hi with hold | ⟨rfl, rfl⟩
      · rcases getElem?_concat hj with hother | ⟨rfl, rfl⟩
        · exact hearlier hold hother
        · exact (hearlier hold hk).trans _ _ _ hclone
      · rcases getElem?_concat hj with hother | ⟨rfl, -⟩
        · exact (hclone.symm _ _).trans _ _ _ (hearlier hk hother)
        · exact .refl _
    · rw [hs] at hi hj
      exact hearlier hi hj
    · rw [hs] at hi hj
      exact hearlier hi hj

/-- **One family, one signal**: two handles stand for the same signal exactly if clones join
them. -/
theorem handles_eq_iff (h : i < made steps) :
    (after steps).handles[i]? = (after steps).handles[j]? ↔ Family steps i j := by
  refine ⟨fun heq => ?_, fun hfamily => hfamily.handle_eq⟩
  obtain ⟨signal, hsignal⟩ := exists_handle h
  exact family_of_handle_eq hsignal (heq ▸ hsignal)

/-! ## What cancels a signal -/

theorem Cancelled.lt_made (h : Cancelled steps k) : k < made steps := by
  obtain ⟨before, ⟨later, rfl⟩, hk⟩ := h
  obtain ⟨signal, hsignal⟩ := exists_handle hk
  have hlast := handle_lasts hsignal ([.cancel k] ++ later)
  rw [← List.append_assoc] at hlast
  exact lt_made hlast

theorem handle_append_iff (h : k < made steps) (later : List Step) :
    (after (steps ++ later)).handles[k]? = some signal ↔
      (after steps).handles[k]? = some signal := by
  obtain ⟨other, hother⟩ := exists_handle h
  rw [handle_lasts hother later, hother]

/-- The handles on a signal that are cancelled by the end of one more step. -/
theorem exists_cancelled_concat :
    (∃ k, Cancelled (steps ++ [step]) k ∧ (after (steps ++ [step])).handles[k]? = some signal) ↔
      (∃ k, Cancelled steps k ∧ (after steps).handles[k]? = some signal) ∨
        ∃ k, step = .cancel k ∧ (after steps).handles[k]? = some signal := by
  constructor
  · rintro ⟨k, hcancelled, hk⟩
    rcases cancelled_concat.1 hcancelled with hearlier | ⟨hstep, hlt⟩
    · exact .inl ⟨k, hearlier, (handle_append_iff hearlier.lt_made [step]).1 hk⟩
    · exact .inr ⟨k, hstep, (handle_append_iff hlt [step]).1 hk⟩
  · rintro (⟨k, hearlier, hk⟩ | ⟨k, hstep, hk⟩)
    · exact ⟨k, cancelled_concat.2 (.inl hearlier), handle_lasts hk [step]⟩
    · exact ⟨k, cancelled_concat.2 (.inr ⟨hstep, lt_made hk⟩), handle_lasts hk [step]⟩

/-- **A signal is cancelled** exactly if a handle on it was, by induction from the end of the
steps. -/
theorem isCancelled_iff : (after steps).signals.isCancelled signal = true ↔
    ∃ k, Cancelled steps k ∧ (after steps).handles[k]? = some signal := by
  induction steps using List.reverseRecOn with
  | nil =>
    constructor
    · intro h
      cases h
    · rintro ⟨_, -, hk⟩
      cases hk
  | append_singleton steps step ih =>
    rw [exists_cancelled_concat, after_concat, isCancelled_step_iff, ih]

/-! ## Waits -/

/-- **A wait has ended** if it had before, or if its signal is cancelled after the steps. That it
was cancelled at an earlier look is no other case, since it stays so. -/
theorem watch_ended (held : Handles) (wait : Wait) (steps : List Step) :
    (held.watch wait steps).ended =
      (wait.ended || (held.run steps).signals.isCancelled wait.signal) := by
  induction steps generalizing held wait with
  | nil => rfl
  | cons step steps ih =>
    have hrest := ih (held.step step) (wait.look held.signals)
    -- what the look before the step finds, the look at the end finds too
    have hstays : held.signals.isCancelled wait.signal = true →
        (held.run (step :: steps)).signals.isCancelled wait.signal = true :=
      fun hnow => isCancelled_run hnow (step :: steps)
    change ((held.step step).watch (wait.look held.signals) steps).ended = _
    rw [hrest]
    change (wait.ended || held.signals.isCancelled wait.signal ||
      (held.run (step :: steps)).signals.isCancelled wait.signal) = _
    cases hnow : held.signals.isCancelled wait.signal with
    | true => simp [hstays hnow]
    | false => simp

/-! ## What a holder is told -/

section

variable (h : (after steps).handles[i]? = some signal)

include h

theorem flags_eq : (after steps).flags[i]? = some ((after steps).signals.isCancelled signal) := by
  unfold flags
  rw [List.getElem?_map, h]
  rfl

/-- A wait for the signal of a handle tells at the end whether it is cancelled then. -/
theorem waits_eq (later : List Step) : ((after steps).waits later)[i]? =
    some ((after (steps ++ later)).signals.isCancelled signal) := by
  unfold waits
  rw [List.getElem?_map, h, Option.map_some, watch_ended, after_append]
  rfl

end

/-- What a holder, having begun without any handle, is told of each of them after some steps. -/
structure ToldByFamily (steps : List Step) : Prop where
  /-- There is a flag for every handle that was made. -/
  listed : (after steps).flags.length = made steps
  /-- A signal is cancelled exactly if a handle of its family was, on whichever side of the clones
  that join the two and before or after these were made. -/
  flagged : ∀ i < made steps, (after steps).flags[i]? = some true ↔
    ∃ k, Cancelled steps k ∧ Family steps i k
  /-- A check refuses under the signals that are cancelled, and lets pass under the others. -/
  checked : ∀ i : Nat,
    ((after steps).checks[i]? = some (Except.error SagaError.cancelled) ↔
      (after steps).flags[i]? = some true) ∧
    ((after steps).checks[i]? = some (Except.ok ()) ↔ (after steps).flags[i]? = some false)
  /-- A wait, whenever it began, has ended for the signals that are cancelled. -/
  waited : ∀ before later, steps = before ++ later → ∀ i < made before,
    ((after before).waits later)[i]? = (after steps).flags[i]?
  /-- To cancel a handle is nothing to the handles of other families. -/
  apart : ∀ i < made steps, ∀ k, ¬ Family steps i k →
    (after (steps ++ [.cancel k])).flags[i]? = (after steps).flags[i]?
  /-- A cancelled signal stays cancelled, whatever is done next. -/
  lasting : ∀ i : Nat, (after steps).flags[i]? = some true →
    ∀ later, (after (steps ++ later)).flags[i]? = some true

/-- The signal of a handle is cancelled exactly if a handle of its family was. -/
theorem isCancelled_iff_family (h : (after steps).handles[i]? = some signal) :
    (after steps).signals.isCancelled signal = true ↔
      ∃ k, Cancelled steps k ∧ Family steps i k := by
  rw [isCancelled_iff]
  constructor
  · rintro ⟨k, hcancelled, hk⟩
    exact ⟨k, hcancelled, family_of_handle_eq h hk⟩
  · rintro ⟨k, hcancelled, hfamily⟩
    exact ⟨k, hcancelled, hfamily.handle_eq ▸ h⟩

/-- A handle that is cancelled leaves the flags of signals that it does not stand for. -/
theorem isCancelled_cancel_of_not_family (h : (after steps).handles[i]? = some signal)
    (hapart : ¬ Family steps i k) :
    (after (steps ++ [.cancel k])).signals.isCancelled signal =
      (after steps).signals.isCancelled signal := by
  rw [Bool.eq_iff_iff, after_concat, isCancelled_step_iff, or_iff_left_iff_imp]
  rintro ⟨_, hstep, hk⟩
  obtain rfl := Step.cancel.inj hstep
  exact absurd (family_of_handle_eq h hk) hapart

theorem exists_handle_of_flag {flag : Bool} (h : (after steps).flags[i]? = some flag) :
    ∃ signal, (after steps).handles[i]? = some signal ∧
      (after steps).signals.isCancelled signal = flag := by
  unfold flags at h
  rw [List.getElem?_map] at h
  exact Option.map_eq_some_iff.1 h

/-- **Families of clones.** After any steps, each handle tells what was done with the handles of its
family, and nothing of the others. -/
theorem clone_families (steps : List Step) : ToldByFamily steps where
  listed := by
    unfold flags
    rw [List.length_map, length_handles]
  flagged i hi := by
    obtain ⟨signal, h⟩ := exists_handle hi
    rw [flags_eq h, Option.some_inj]
    exact isCancelled_iff_family h
  checked i := by
    have hcheck : (after steps).checks[i]? = (after steps).flags[i]?.map fun flag =>
        if flag then .error .cancelled else .ok () := by
      unfold checks flags
      rw [List.getElem?_map, List.getElem?_map, Option.map_map]
      rfl
    rw [hcheck]
    rcases (after steps).flags[i]? with _ | flag
    · simp
    · cases flag <;> simp
  waited := by
    rintro before later rfl i hi
    obtain ⟨signal, h⟩ := exists_handle hi
    rw [waits_eq h, flags_eq (handle_lasts h later)]
  apart i hi k hapart := by
    obtain ⟨signal, h⟩ := exists_handle hi
    rw [flags_eq (handle_lasts h [.cancel k]), flags_eq h,
      isCancelled_cancel_of_not_family h hapart]
  lasting i hflag later := by
    obtain ⟨signal, h, hcancelled⟩ := exists_handle_of_flag hflag
    rw [flags_eq (handle_lasts h later), after_append, isCancelled_run hcancelled later]

-- a clone made before the signal was cancelled, one made after it, and a signal of its own
example : (after [.new, .clone 0, .new, .cancel 1, .clone 0]).flags = [true, true, false, true] :=
  by decide

end Sagas.Handles
