import Sagas.Proofs.Passage

/-!
# The store in memory, from the history

Over the gateways in memory the history tells everything about the store and the outbox: the
store is the accepted saves put one after the other, and every answer that it gave is the one
that the store of that moment gives.

* `Store.replay`: the store after the saves of some entries.
* `Store.Bears`: the answers in some entries are those of the store replayed so far.
* `law_inMemory`: every effect of a run keeps store and outbox in step with the history.
-/

namespace Sagas

variable {A : Application}

/-! ## Replaying saves -/

/-- The store after one entry: an accepted save puts its record. -/
def Store.apply (store : Store) (entry : Entry A) : Store :=
  match entry.event with
  | .saved record (.ok _) => store.put record
  | _ => store

/-- The store after some entries. -/
def Store.replay (store : Store) (entries : List (Entry A)) : Store := entries.foldl Store.apply store

/-- The message that an event published. -/
def Event.message? : Event A → Option (Outgoing A.Body)
  | .published outgoing (.ok _) => some outgoing
  | _ => none

/-- The messages that were published. -/
def messages (entries : List (Entry A)) : List (Outgoing A.Body) :=
  entries.filterMap fun entry => entry.event.message?

/-- What an answer in the history says about the store that gave it. Whether the outbox and
the resolver answered as they should is left open. -/
def Store.Answers (store : Store) : Event A → Prop
  | .loaded key result => result = .ok (store.find? key)
  | .saved record (.ok token) =>
    store.accepts record.toKey record.token = true ∧ token = store.mint (store.saves + 1)
  | .saved record (.error error) =>
    error = .backend (.text "saga store unavailable") ∨
      store.accepts record.toKey record.token = false ∧
        error = .conflict record.toKey record.token ((store.find? record.toKey).bind (·.token))
  | _ => True

/-- The answers in some entries are those of the store, replayed up to each of them. -/
def Store.Bears (store : Store) : List (Entry A) → Prop
  | [] => True
  | entry :: entries => store.Answers entry.event ∧ (store.apply entry).Bears entries

namespace Store

variable {store : Store} {entry : Entry A} {es es' : List (Entry A)}

@[simp] theorem replay_nil : store.replay ([] : List (Entry A)) = store := rfl

@[simp] theorem replay_cons : store.replay (entry :: es) = (store.apply entry).replay es := rfl

theorem replay_append : store.replay (es ++ es') = (store.replay es).replay es' :=
  List.foldl_append

theorem Bears.append (h : store.Bears es) (h' : (store.replay es).Bears es') :
    store.Bears (es ++ es') := by
  induction es generalizing store with
  | nil => exact h'
  | cons entry es ih => exact ⟨h.1, ih h.2 h'⟩

theorem Bears.left (h : store.Bears (es ++ es')) : store.Bears es := by
  induction es generalizing store with
  | nil => trivial
  | cons entry es ih => exact ⟨h.1, ih h.2⟩

theorem Bears.right (h : store.Bears (es ++ es')) : (store.replay es).Bears es' := by
  induction es generalizing store with
  | nil => exact h
  | cons entry es ih => exact ih h.2

theorem Bears.answers (h : store.Bears (es ++ entry :: es')) :
    (store.replay es).Answers entry.event :=
  h.right.1

/-! ### The flag of the store -/

/-- The store with its flag set or lowered. -/
def flag (failing : Bool) (store : Store) : Store := { store with failing }

theorem apply_flag (failing : Bool) : (store.flag failing).apply entry =
    (store.apply entry).flag failing := by
  unfold apply
  split <;> rfl

theorem replay_flag (failing : Bool) : (store.flag failing).replay es =
    (store.replay es).flag failing := by
  induction es generalizing store with
  | nil => rfl
  | cons entry es ih => rw [replay_cons, apply_flag, ih, replay_cons]

theorem answers_flag (failing : Bool) (event : Event A) :
    (store.flag failing).Answers event ↔ store.Answers event := by
  unfold Answers
  split <;> rfl

/-- Whether a history is borne out does not depend on when the store was failing. -/
theorem bears_flag (failing : Bool) : (store.flag failing).Bears es ↔ store.Bears es := by
  induction es generalizing store with
  | nil => rfl
  | cons entry es ih => unfold Bears; rw [answers_flag, apply_flag, ih]

end Store

theorem messages_append (es es' : List (Entry A)) :
    messages (es ++ es') = messages es ++ messages es' :=
  List.filterMap_append

theorem messages_cons (entry : Entry A) (es : List (Entry A)) :
    messages (entry :: es) = entry.event.message?.toList ++ messages es := by
  unfold messages
  rw [List.filterMap_cons]
  cases entry.event.message? <;> rfl

/-! ## Store and outbox along a passage -/

/-- Store and outbox are in step with the entries made between two worlds. -/
structure Kept (w : World A) (es : List (Entry A)) (w' : World A) : Prop where
  store : w'.store = w.store.replay es
  outbox : w'.outbox = { w.outbox with sent := w.outbox.sent ++ messages es }
  bears : w.store.Bears es

theorem Kept.trans {w w' w'' : World A} {es es' : List (Entry A)} (h : Kept w es w')
    (h' : Kept w' es' w'') : Kept w (es ++ es') w'' := by
  refine ⟨?_, ?_, ?_⟩
  · rw [h'.store, h.store, Store.replay_append]
  · rw [h'.outbox, h.outbox, messages_append, List.append_assoc]
  · have := h'.bears
    rw [h.store] at this
    exact h.bears.append this

theorem Kept.same {w w' : World A} {entry : Entry A} (hs : w'.store = w.store)
    (ho : w'.outbox = w.outbox) (hputs : w.store.apply entry = w.store)
    (hsends : messages [entry] = []) (h : w.store.Answers entry.event) : Kept w [entry] w' := by
  refine ⟨?_, ?_, h, trivial⟩
  · rw [hs, Store.replay_cons, hputs, Store.replay_nil]
  · rw [ho, hsends, List.append_nil]

theorem Kept.save (w : World A) (record : Record) :
    Kept w [w.entry (.saved record (w.store.save record).1)]
      (World.logged { w with store := (w.store.save record).2 }
        (.saved record (w.store.save record).1)) := by
  unfold Store.save
  split
  · exact .same rfl rfl rfl rfl (.inl rfl)
  · split
    · -- accepted: the record is put, with the next token
      rename_i hok
      refine ⟨rfl, ?_, ⟨hok, rfl⟩, trivial⟩
      simp [messages, World.logged, World.entry, Event.message?]
    · rename_i hstale
      exact .same rfl rfl rfl rfl (.inr ⟨by simpa using hstale, rfl⟩)

theorem Kept.publish (w : World A) (outgoing : Outgoing A.Body) :
    Kept w [w.entry (.published outgoing (w.outbox.publish outgoing).1)]
      (World.logged { w with outbox := (w.outbox.publish outgoing).2 }
        (.published outgoing (w.outbox.publish outgoing).1)) := by
  unfold Outbox.publish
  split
  · exact .same rfl rfl rfl rfl trivial
  · exact ⟨rfl, rfl, trivial, trivial⟩

/-- **The gateways in memory keep store and outbox in step with the history.** -/
theorem law_inMemory (resolve : SagaType → Program A (Except Fault Instance)) :
    Law (Gateways.inMemory resolve) Kept where
  still hs ho _ := ⟨hs, by rw [ho]; simp [messages], trivial⟩
  trans h h' := h.trans h'
  plain w event h := by
    cases event with
    | loaded | saved | published | cancelled => simp [Event.isPlain] at h
    | resolved | hooked | handled | returned | noted => exact .same rfl rfl rfl rfl trivial
  cancel w signal := .same rfl rfl rfl rfl trivial
  load w key signal := .same rfl rfl rfl rfl rfl
  save w record signal := Kept.save w record
  publish w outgoing signal := Kept.publish w outgoing

/-- Store and outbox of an orchestrator are those in memory. -/
def Orchestrator.InMemory (orchestrator : Orchestrator A) : Prop :=
  ∃ resolve, orchestrator.gateways = Gateways.inMemory resolve

theorem Orchestrator.InMemory.law {orchestrator : Orchestrator A} (h : orchestrator.InMemory) :
    Law orchestrator.gateways Kept := by
  obtain ⟨resolve, hresolve⟩ := h
  rw [hresolve]
  exact law_inMemory resolve

end Sagas
