/-!
# Cutting a text

Cutting a text at the last place where a mark stands in it.

* `cutLast_eq_append`: nothing but the mark is lost.
-/

namespace Sagas.Text

/-- What follows a mark that the text starts with. -/
def after? : List Char → List Char → Option (List Char)
  | [], cs => some cs
  | _ :: _, [] => none
  | m :: mark, c :: cs => if m = c then after? mark cs else none

/-- What stands before and after the last occurrence of a mark. -/
def cutLast? (mark : List Char) : List Char → Option (List Char × List Char)
  | [] => none
  | c :: rest =>
    match cutLast? mark rest with
    | some (before, tail) => some (c :: before, tail)
    | none => (after? mark (c :: rest)).map ([], ·)

theorem eq_append_of_after {mark cs rest : List Char} (h : after? mark cs = some rest) :
    cs = mark ++ rest := by
  fun_induction after? mark cs with
  | case1 cs => simpa using h
  | case2 => simp at h
  | case3 mark c cs ih => rw [ih h, List.cons_append]
  | case4 => simp at h

theorem cutLast_eq_append {mark cs before tail : List Char}
    (h : cutLast? mark cs = some (before, tail)) : cs = before ++ mark ++ tail := by
  induction cs generalizing before with
  | nil => simp [cutLast?] at h
  | cons c rest ih =>
    rw [cutLast?] at h
    split at h
    · next _ _ cut =>
      obtain ⟨rfl, rfl⟩ : _ ∧ _ := by simpa using h
      rw [ih cut, List.cons_append, List.cons_append]
    · obtain ⟨found, rfl⟩ : after? mark (c :: rest) = some tail ∧ before = [] := by
        simpa using h
      exact eq_append_of_after found

end Sagas.Text
