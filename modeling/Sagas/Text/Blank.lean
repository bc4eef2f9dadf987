/-!
# White space

The characters with the Unicode property White_Space, and the text that is left
when they are cut from both ends.

* `isBlank_of_isWhitespace`: every character of the ASCII class is in the set.
* `trim_eq_nil_iff`: nothing is left exactly when every character is blank.
* `trim_eq_iff`: what is left is the one part with white space around it and none at its ends.
-/

namespace Sagas.Text

/-- Whether a character has the property White_Space. The zero-width space
U+200B and the Mongolian separator U+180E do not. -/
def isBlank (c : Char) : Bool :=
  let n := c.toNat
  (0x09 ≤ n && n ≤ 0x0D) || n == 0x20 || n == 0x85 || n == 0xA0 || n == 0x1680 ||
    (0x2000 ≤ n && n ≤ 0x200A) || n == 0x2028 || n == 0x2029 || n == 0x202F ||
    n == 0x205F || n == 0x3000

/-- The text without the white space at its two ends. -/
def trim (cs : List Char) : List Char :=
  ((cs.dropWhile isBlank).reverse.dropWhile isBlank).reverse

theorem isBlank_of_isWhitespace {c : Char} (h : c.isWhitespace = true) : isBlank c = true := by
  simp only [Char.isWhitespace, Bool.or_eq_true, decide_eq_true_eq] at h
  rcases h with ((rfl | rfl) | rfl) | rfl <;> rfl

theorem takeWhile_append_of_stops {p : Char → Bool} {body rest : List Char}
    (hbody : ∀ c ∈ body, p c = true)
    (hstops : ∀ c ∈ rest.head?, p c = false) : (body ++ rest).takeWhile p = body := by
  rw [List.takeWhile_append_of_pos hbody]
  cases rest with
  | nil => simp
  | cons c rest => simp [hstops c rfl]

theorem dropWhile_append_of_stops {p : Char → Bool} {body rest : List Char}
    (hbody : ∀ c ∈ body, p c = true)
    (hstops : ∀ c ∈ rest.head?, p c = false) : (body ++ rest).dropWhile p = rest := by
  rw [List.dropWhile_append_of_pos hbody]
  cases rest with
  | nil => rfl
  | cons c rest => simp [hstops c rfl]

theorem dropWhile_eq_nil_iff {p : Char → Bool} {cs : List Char} :
    cs.dropWhile p = [] ↔ ∀ c ∈ cs, p c = true := by
  induction cs with
  | nil => simp
  | cons c cs ih =>
    by_cases h : p c = true <;> simp [h, ih]

theorem trim_eq_nil_iff {cs : List Char} : trim cs = [] ↔ ∀ c ∈ cs, isBlank c = true := by
  simp only [trim, List.reverse_eq_nil_iff, dropWhile_eq_nil_iff, List.mem_reverse]
  constructor
  · intro h
    rw [← dropWhile_eq_nil_iff]
    cases hd : cs.dropWhile isBlank with
    | nil => rfl
    | cons c r =>
      have hc : isBlank c = true := h c (by simp [hd])
      have hn : isBlank c ≠ true := by
        have := List.head?_dropWhile_not isBlank cs
        simp [hd] at this
        simp [this]
      exact absurd hc hn
  · intro h c hc
    exact h c ((List.dropWhile_sublist isBlank).mem hc)

/-- A text with the white space around it taken away. -/
structure Trimmed (cs core : List Char) : Prop where
  around : ∃ before after, cs = before ++ core ++ after ∧
    (∀ c ∈ before, isBlank c = true) ∧ ∀ c ∈ after, isBlank c = true
  first : ∀ c ∈ core.head?, isBlank c = false
  last : ∀ c ∈ core.getLast?, isBlank c = false

theorem trimmed_trim (cs : List Char) : Trimmed cs (trim cs) := by
  have hstop : ∀ cs : List Char, ∀ c ∈ (cs.dropWhile isBlank).head?, isBlank c = false := by
    intro cs c hc
    have hnot := List.head?_dropWhile_not isBlank cs
    rw [Option.mem_def.1 hc] at hnot
    simpa using hnot
  have hblank : ∀ cs : List Char, ∀ c ∈ cs.takeWhile isBlank, isBlank c = true :=
    fun cs => List.all_eq_true.1 List.all_takeWhile
  -- `rest` is the text without the white space in front of it
  obtain ⟨rest, hrest⟩ : ∃ rest, cs.dropWhile isBlank = rest := ⟨_, rfl⟩
  have hsplit : rest = trim cs ++ (rest.reverse.takeWhile isBlank).reverse := by
    have hback := congrArg List.reverse (List.takeWhile_append_dropWhile (p := isBlank)
      (l := rest.reverse))
    rw [List.reverse_append, List.reverse_reverse] at hback
    rw [trim, hrest, hback]
  refine ⟨⟨cs.takeWhile isBlank, (rest.reverse.takeWhile isBlank).reverse, ?_, hblank cs,
    fun c hc => hblank _ c (List.mem_reverse.1 hc)⟩, ?_, ?_⟩
  · rw [List.append_assoc, ← hsplit, ← hrest, List.takeWhile_append_dropWhile]
  · intro c hc
    refine hstop cs c ?_
    rw [hrest, hsplit, List.head?_append, Option.mem_def.1 hc]
    rfl
  · intro c hc
    rw [trim, List.getLast?_reverse] at hc
    exact hstop _ c hc

theorem Trimmed.eq_trim {cs core : List Char} (h : Trimmed cs core) : trim cs = core := by
  obtain ⟨⟨before, after, rfl, hbefore, hafter⟩, hfirst, hlast⟩ := h
  rcases core with _ | ⟨c, core⟩
  · rw [trim_eq_nil_iff]
    intro c hc
    rcases List.mem_append.1 hc with hc | hc
    · exact hbefore c (by simpa using hc)
    · exact hafter c hc
  · have hfront : (before ++ c :: core ++ after).dropWhile isBlank = c :: core ++ after := by
      rw [List.append_assoc]
      exact dropWhile_append_of_stops hbefore hfirst
    have hback : (c :: core ++ after).reverse.dropWhile isBlank = (c :: core).reverse := by
      rw [List.reverse_append]
      refine dropWhile_append_of_stops (fun c hc => hafter c (List.mem_reverse.1 hc)) ?_
      rw [List.head?_reverse]
      exact hlast
    rw [trim, hfront, hback, List.reverse_reverse]

theorem trim_eq_iff {cs core : List Char} : trim cs = core ↔ Trimmed cs core :=
  ⟨fun h => h ▸ trimmed_trim cs, Trimmed.eq_trim⟩

end Sagas.Text
