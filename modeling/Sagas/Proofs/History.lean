import Sagas.Engine.Delivery

/-!
# The history of a run

The journal read from the oldest entry on. An entry is the engine's own, or it was left by a
program (a note, a cancelled signal). The engine's events are picked out in two ways: by
attempt (`eventsOf`), for what one attempt did, and by depth (`eventsAt`), for what one
delivery did itself and not through the messages that its programs sent.

* `eventsOf_split`: an event of an attempt has the attempt's other events on its two sides.
* `Paired.append`: publishing right after a save is a property that histories join up.
-/

namespace Sagas

variable {A : Application} {α : Type}

/-- The entries of a run, oldest first. -/
def World.history (w : World A) : List (Entry A) := w.journal.reverse

/-- The entry that an event makes now. -/
def World.entry (w : World A) (event : Event A) : Entry A := ⟨w.depth, w.attempt, event⟩

/-- The world after an event was written into the journal. -/
def World.logged (w : World A) (event : Event A) : World A :=
  { w with journal := w.entry event :: w.journal }

/-- The world after the call of a gateway that left an event. -/
def World.called (w : World A) (call : StateM (Resources A) α) (event : α → Event A) : World A :=
  World.logged { w with toResources := (call w.toResources).2 } (event (call w.toResources).1)

theorem history_logged (w : World A) (event : Event A) :
    (w.logged event).history = w.history ++ [w.entry event] := by
  simp [World.history, World.logged]

theorem history_called (w : World A) (call : StateM (Resources A) α) (event : α → Event A) :
    (w.called call event).history = w.history ++ [w.entry (event (call w.toResources).1)] :=
  history_logged _ _

/-- Whether the engine itself leaves such an event. -/
def Event.isEngine : Event A → Bool
  | .cancelled _ | .noted _ => false
  | _ => true

/-- The engine's events of one attempt. -/
def eventsOf (attempt : Nat) (entries : List (Entry A)) : List (Event A) :=
  (entries.filter fun e => e.event.isEngine && e.attempt == attempt).map (·.event)

/-- The engine's events at one depth of nesting. -/
def eventsAt (depth : Nat) (entries : List (Entry A)) : List (Event A) :=
  (entries.filter fun e => e.event.isEngine && e.depth == depth).map (·.event)

theorem eventsOf_append (a : Nat) (es es' : List (Entry A)) :
    eventsOf a (es ++ es') = eventsOf a es ++ eventsOf a es' := by
  simp [eventsOf]

theorem eventsAt_append (d : Nat) (es es' : List (Entry A)) :
    eventsAt d (es ++ es') = eventsAt d es ++ eventsAt d es' := by
  simp [eventsAt]

theorem eventsAt_flatMap (d : Nat) (items : List α) (entries : α → List (Entry A)) :
    eventsAt d (items.flatMap entries) = items.flatMap fun item => eventsAt d (entries item) := by
  simp [eventsAt, List.filter_flatMap, List.map_flatMap]

@[simp] theorem eventsAt_nil (d : Nat) : eventsAt d ([] : List (Entry A)) = [] := rfl

theorem eventsAt_entry {w : World A} {event : Event A} (h : event.isEngine = true) :
    eventsAt w.depth [w.entry event] = [event] := by
  simp [eventsAt, World.entry, h]

theorem eventsAt_entry_of_program {d : Nat} {w : World A} {event : Event A}
    (h : event.isEngine = false) : eventsAt d [w.entry event] = [] := by
  simp [eventsAt, World.entry, h]

theorem mem_eventsAt {d : Nat} {es : List (Entry A)} {event : Event A} :
    event ∈ eventsAt d es ↔
      ∃ e ∈ es, e.event.isEngine = true ∧ e.depth = d ∧ e.event = event := by
  simp [eventsAt, and_assoc]

theorem eventsOf_eq_nil {a : Nat} {es : List (Entry A)}
    (h : ∀ e ∈ es, e.event.isEngine = true → e.attempt ≠ a) : eventsOf a es = [] := by
  unfold eventsOf
  rw [List.map_eq_nil_iff, List.filter_eq_nil_iff]
  intro e he hc
  simp only [Bool.and_eq_true, beq_iff_eq] at hc
  exact h e he hc.1 hc.2

theorem eventsAt_eq_nil {d : Nat} {es : List (Entry A)}
    (h : ∀ e ∈ es, e.event.isEngine = true → e.depth ≠ d) : eventsAt d es = [] := by
  unfold eventsAt
  rw [List.map_eq_nil_iff, List.filter_eq_nil_iff]
  intro e he hc
  simp only [Bool.and_eq_true, beq_iff_eq] at hc
  exact h e he hc.1 hc.2

/-- The attempt at a depth is told by its number if all other engine entries are elsewhere. -/
theorem eventsOf_eq_eventsAt {a d : Nat} {es : List (Entry A)}
    (h : ∀ e ∈ es, e.event.isEngine = true → (e.attempt = a ↔ e.depth = d)) :
    eventsOf a es = eventsAt d es := by
  unfold eventsOf eventsAt
  congr 1
  apply List.filter_congr
  intro e he
  cases hc : e.event.isEngine with
  | false => rfl
  | true => simp only [Bool.true_and]; rw [Bool.eq_iff_iff, beq_iff_eq, beq_iff_eq]; exact h e he hc

theorem eventsOf_split {before after : List (Entry A)} {entry : Entry A}
    (h : entry.event.isEngine = true) :
    eventsOf entry.attempt (before ++ entry :: after) =
      eventsOf entry.attempt before ++ entry.event :: eventsOf entry.attempt after := by
  rw [eventsOf_append]
  simp [eventsOf, h]

theorem mem_eventsOf {es : List (Entry A)} {entry : Entry A} (hmem : entry ∈ es)
    (h : entry.event.isEngine = true) : entry.event ∈ eventsOf entry.attempt es := by
  obtain ⟨before, after, rfl⟩ := List.append_of_mem hmem
  rw [eventsOf_split h]
  exact List.mem_append_right _ List.mem_cons_self

/-- An event of an attempt stands somewhere in the history. -/
theorem exists_entry_of_eventsOf {a : Nat} {es : List (Entry A)} {earlier later : List (Event A)}
    {event : Event A} (h : eventsOf a es = earlier ++ event :: later) :
    ∃ before entry after, es = before ++ entry :: after ∧ entry.attempt = a ∧
      entry.event = event ∧ eventsOf a before = earlier ∧ eventsOf a after = later := by
  unfold eventsOf at h
  obtain ⟨left, right, hsplit, hleft, hright⟩ := List.map_eq_append_iff.1 h
  obtain ⟨entry, rest, rfl, he, hrest⟩ := List.map_eq_cons_iff.1 hright
  obtain ⟨before, after', rfl, hb, ha⟩ := List.filter_eq_append_iff.1 hsplit
  obtain ⟨skipped, after, rfl, hskip, hentry, hafter⟩ := List.filter_eq_cons_iff.1 ha
  simp only [Bool.and_eq_true, beq_iff_eq] at hentry
  refine ⟨before ++ skipped, entry, after, by simp, hentry.2, he, ?_, ?_⟩
  · rw [eventsOf_append]
    -- what was skipped right before the entry is of other attempts
    have hnil : eventsOf a skipped = [] := by
      unfold eventsOf
      rw [List.map_eq_nil_iff, List.filter_eq_nil_iff]
      exact hskip
    rw [hnil, List.append_nil]
    unfold eventsOf; rw [hb, hleft]
  · unfold eventsOf; rw [hafter, hrest]

/-! ## Saves and publishes side by side -/

/-- Every attempt to publish comes directly after an accepted save of the same attempt. -/
def Paired (es : List (Entry A)) : Prop :=
  ∀ before entry after outgoing result, es = before ++ entry :: after →
    entry.event = .published outgoing result →
    ∃ earlier save record token, before = earlier ++ [save] ∧ save.attempt = entry.attempt ∧
      save.depth = entry.depth ∧ save.event = .saved record (.ok token)

/-- Whether an event hands a message to the outbox. -/
def Event.isPublish : Event A → Bool
  | .published .. => true
  | _ => false

theorem Paired.nil : Paired ([] : List (Entry A)) := by
  intro before entry after _ _ h
  simp at h

theorem Paired.singleton {entry : Entry A} (h : entry.event.isPublish = false) :
    Paired [entry] := by
  intro before other after outgoing result hs he
  obtain ⟨-, rfl, -⟩ : before = [] ∧ entry = other ∧ after = [] := by
    cases before <;> simp_all
  rw [he] at h; simp [Event.isPublish] at h

theorem Paired.append {es es' : List (Entry A)} (h : Paired es) (h' : Paired es') :
    Paired (es ++ es') := by
  intro before entry after outgoing result hs he
  rcases List.append_eq_append_iff.1 hs with ⟨mid, rfl, hmid⟩ | ⟨mid, rfl, hmid⟩
  · obtain ⟨earlier, save, record, token, rfl, hrest⟩ := h' mid entry after outgoing result hmid he
    exact ⟨es ++ earlier, save, record, token, by simp, hrest⟩
  · cases mid with
    | nil =>
      -- the second part cannot begin with a publish
      obtain ⟨earlier, save, record, token, hc, -⟩ :=
        h' [] entry after outgoing result (by simpa using hmid.symm) he
      simp at hc
    | cons first mid =>
      simp only [List.cons_append, List.cons.injEq] at hmid
      obtain ⟨rfl, rfl⟩ := hmid
      exact h before entry mid outgoing result rfl he

/-- A save and the publish that follows it. -/
theorem Paired.pair {w : World A} {record : Record} {token : Token} {event : Event A} :
    Paired [w.entry (.saved record (.ok token)), w.entry event] := by
  intro before entry after outgoing result hs he
  rcases before with _ | ⟨first, _ | ⟨second, rest⟩⟩
  · simp only [List.nil_append, List.cons.injEq] at hs
    rw [← hs.1] at he; simp [World.entry] at he
  · simp only [List.cons_append, List.nil_append, List.cons.injEq] at hs
    obtain ⟨rfl, rfl, -⟩ := hs
    exact ⟨[], _, record, token, rfl, rfl, rfl, rfl⟩
  · simp at hs

end Sagas
