import Sagas.Proofs.History

/-!
# Passages of a run

What a part of a run does to the world, told by the entries that it adds to the history.
A passage is either inside one attempt (`Within`) or made of whole attempts (`Across`).

* `Law`: a relation between two worlds and the entries made between them that holds of every
  single effect and joins up. Passages carry such a relation along, so that a fact about the
  gateways (what the store in memory does, say) is proved for single calls only.
* `Yields`: a computation makes a passage, and its events and its answer are as told.
  `Yields.bind` and `Yields.bindAttempt` follow a computation step by step.
-/

namespace Sagas

variable {A : Application} {α β : Type}

/-- Whether an event comes with no change of the store, the outbox and the signals. -/
def Event.isPlain : Event A → Bool
  | .loaded .. | .saved .. | .published .. | .cancelled _ => false
  | _ => true

/-- A relation that every single effect satisfies and that joins up along a run. -/
structure Law (gateways : Gateways A) (R : World A → List (Entry A) → World A → Prop) : Prop where
  still : ∀ {w w'}, w'.store = w.store → w'.outbox = w.outbox →
    w'.signals.cancelled = w.signals.cancelled → R w [] w'
  trans : ∀ {w es w' es' w''}, R w es w' → R w' es' w'' → R w (es ++ es') w''
  plain : ∀ w event, event.isPlain = true → R w [w.entry event] (w.logged event)
  cancel : ∀ w signal, R w [w.entry (.cancelled signal)]
    (World.logged { w with signals := w.signals.cancel signal } (.cancelled signal))
  load : ∀ w key signal, R w [w.entry (.loaded key (gateways.load key signal w.toResources).1)]
    (w.called (gateways.load key signal) (.loaded key))
  save : ∀ w record signal,
    R w [w.entry (.saved record (gateways.save record signal w.toResources).1)]
      (w.called (gateways.save record signal) (.saved record))
  publish : ∀ w outgoing signal,
    R w [w.entry (.published outgoing (gateways.publish outgoing signal w.toResources).1)]
      (w.called (gateways.publish outgoing signal) (.published outgoing))

/-- The law that says nothing. -/
theorem Law.trivial (gateways : Gateways A) : Law gateways fun _ _ _ => True :=
  ⟨fun _ _ _ => ⟨⟩, fun _ _ => ⟨⟩, fun _ _ _ => ⟨⟩, fun _ _ => ⟨⟩, fun _ _ _ => ⟨⟩,
    fun _ _ _ => ⟨⟩, fun _ _ _ => ⟨⟩⟩

section

variable (C : List (Event A) → Prop) (R : World A → List (Entry A) → World A → Prop)

/-- A passage inside one attempt. Its own entries stand at the depth of the attempt and bear
its number; the others come from nested deliveries, whose attempts are new and complete. -/
structure Within (w : World A) (es : List (Entry A)) (w' : World A) : Prop where
  history : w'.history = w.history ++ es
  depth : w'.depth = w.depth
  attempt : w'.attempt = w.attempt
  attempts : w.attempts ≤ w'.attempts
  place : ∀ e ∈ es, e.event.isEngine = true → (e.depth = w.depth ∧ e.attempt = w.attempt) ∨
    (w.depth < e.depth ∧ w.attempts < e.attempt ∧ e.attempt ≤ w'.attempts)
  courses : ∀ a, w.attempts < a → a ≤ w'.attempts → C (eventsOf a es)
  paired : Paired es
  law : R w es w'

/-- A passage made of whole attempts, all of them new and complete. -/
structure Across (w : World A) (es : List (Entry A)) (w' : World A) : Prop where
  history : w'.history = w.history ++ es
  depth : w'.depth = w.depth
  attempt : w.attempt ≤ w.attempts → w'.attempt ≤ w'.attempts
  attempts : w.attempts ≤ w'.attempts
  place : ∀ e ∈ es, e.event.isEngine = true →
    w.depth ≤ e.depth ∧ w.attempts < e.attempt ∧ e.attempt ≤ w'.attempts
  courses : ∀ a, w.attempts < a → a ≤ w'.attempts → C (eventsOf a es)
  paired : Paired es
  law : R w es w'

end

variable {C : List (Event A) → Prop} {R : World A → List (Entry A) → World A → Prop}
  {gateways : Gateways A}

/-- The courses of two passages in a row: an attempt that began in one of them has no event in
the other. -/
theorem courses_append {first middle last : Nat} {es es' : List (Entry A)}
    (hleft : ∀ e ∈ es, e.event.isEngine = true → e.attempt ≤ middle)
    (hright : ∀ e ∈ es', e.event.isEngine = true → e.attempt ≤ first ∨ middle < e.attempt)
    (h : ∀ a, first < a → a ≤ middle → C (eventsOf a es))
    (h' : ∀ a, middle < a → a ≤ last → C (eventsOf a es')) :
    ∀ a, first < a → a ≤ last → C (eventsOf a (es ++ es')) := by
  intro a hl hu
  rw [eventsOf_append]
  rcases Nat.lt_or_ge middle a with ha | ha
  · -- the attempt began in the second part
    have hnil : eventsOf a es = [] := by
      apply eventsOf_eq_nil
      intro e he hc
      have := hleft e he hc
      omega
    rw [hnil, List.nil_append]
    exact h' a ha hu
  · -- it began in the first part
    have hnil : eventsOf a es' = [] := by
      apply eventsOf_eq_nil
      intro e he hc
      have := hright e he hc
      omega
    rw [hnil, List.append_nil]
    exact h a hl ha

theorem Within.trans (hR : Law gateways R) {w w' w'' : World A} {es es' : List (Entry A)}
    (hw : w.attempt ≤ w.attempts) (h : Within C R w es w') (h' : Within C R w' es' w'') :
    Within C R w (es ++ es') w'' := by
  have hle := h.attempts
  have hle' := h'.attempts
  refine ⟨by rw [h'.history, h.history, List.append_assoc], h'.depth.trans h.depth,
    h'.attempt.trans h.attempt, Nat.le_trans hle hle', ?_, ?_, h.paired.append h'.paired,
    hR.trans h.law h'.law⟩
  · intro e he hc
    rcases List.mem_append.1 he with he | he
    · rcases h.place e he hc with hp | ⟨hd, hl, hu⟩
      · exact .inl hp
      · exact .inr ⟨hd, hl, by omega⟩
    · have hp := h'.place e he hc
      rw [h.depth, h.attempt] at hp
      rcases hp with hp | ⟨hd, hl, hu⟩
      · exact .inl hp
      · exact .inr ⟨hd, by omega, hu⟩
  · refine courses_append ?_ ?_ h.courses h'.courses
    · intro e he hc
      rcases h.place e he hc with ⟨-, hp⟩ | ⟨-, -, hp⟩ <;> omega
    · intro e he hc
      have hattempt := h.attempt
      rcases h'.place e he hc with ⟨-, hp⟩ | ⟨-, hp, -⟩ <;> omega

/-- Only that the relation joins up is needed of it. -/
theorem Across.trans
    (hR : ∀ {w es w' es' w''}, R w es w' → R w' es' w'' → R w (es ++ es') w'')
    {w w' w'' : World A} {es es' : List (Entry A)}
    (h : Across C R w es w') (h' : Across C R w' es' w'') : Across C R w (es ++ es') w'' := by
  have hle := h.attempts
  have hle' := h'.attempts
  refine ⟨by rw [h'.history, h.history, List.append_assoc], h'.depth.trans h.depth,
    fun hw => h'.attempt (h.attempt hw), Nat.le_trans hle hle', ?_, ?_, h.paired.append h'.paired,
    hR h.law h'.law⟩
  · intro e he hc
    rcases List.mem_append.1 he with he | he
    · obtain ⟨hd, hl, hu⟩ := h.place e he hc
      exact ⟨hd, hl, by omega⟩
    · obtain ⟨hd, hl, hu⟩ := h'.place e he hc
      rw [h.depth] at hd
      exact ⟨hd, by omega, hu⟩
  · refine courses_append ?_ ?_ h.courses h'.courses
    · intro e he hc
      have := h.place e he hc
      omega
    · intro e he hc
      have := h'.place e he hc
      omega

/-! ## Passages that join up -/

/-- A kind of passage: two in a row are one, and none changes the depth or takes the attempt in
progress beyond the attempts begun. -/
structure Path (P : World A → List (Entry A) → World A → Prop) : Prop where
  trans : ∀ {w es w' es' w''}, w.attempt ≤ w.attempts → P w es w' → P w' es' w'' →
    P w (es ++ es') w''
  depth : ∀ {w es w'}, P w es w' → w'.depth = w.depth
  attempt : ∀ {w es w'}, P w es w' → w.attempt ≤ w.attempts → w'.attempt ≤ w'.attempts
  /-- Nothing that passages are told by has changed. -/
  still : ∀ {w w'}, w'.journal = w.journal → w'.depth = w.depth → w'.attempt = w.attempt →
    w'.attempts = w.attempts → w'.store = w.store → w'.outbox = w.outbox →
    w'.signals.cancelled = w.signals.cancelled → P w [] w'

theorem Within.still (hR : Law gateways R) {w w' : World A} (hj : w'.journal = w.journal)
    (hd : w'.depth = w.depth) (ha : w'.attempt = w.attempt) (hn : w'.attempts = w.attempts)
    (hs : w'.store = w.store) (ho : w'.outbox = w.outbox)
    (hc : w'.signals.cancelled = w.signals.cancelled) : Within C R w [] w' := by
  refine ⟨by simp [World.history, hj], hd, ha, Nat.le_of_eq hn.symm, by simp, ?_, Paired.nil,
    hR.still hs ho hc⟩
  intro a hl hu
  omega

theorem Across.quiet {w w' : World A} (hj : w'.journal = w.journal) (hd : w'.depth = w.depth)
    (ha : w.attempt ≤ w.attempts → w'.attempt ≤ w.attempts) (hn : w'.attempts = w.attempts)
    (hl : R w [] w') : Across C R w [] w' := by
  refine ⟨by simp [World.history, hj], hd, by rwa [hn], Nat.le_of_eq hn.symm, by simp, ?_,
    Paired.nil, hl⟩
  intro a hl hu
  omega

theorem Across.still (hR : Law gateways R) {w w' : World A} (hj : w'.journal = w.journal)
    (hd : w'.depth = w.depth) (ha : w.attempt ≤ w.attempts → w'.attempt ≤ w.attempts)
    (hn : w'.attempts = w.attempts) (hs : w'.store = w.store) (ho : w'.outbox = w.outbox)
    (hc : w'.signals.cancelled = w.signals.cancelled) : Across C R w [] w' :=
  .quiet hj hd ha hn (hR.still hs ho hc)

theorem Across.mono {C' : List (Event A) → Prop} {R' : World A → List (Entry A) → World A → Prop}
    {w w' : World A} {es : List (Entry A)} (hC : ∀ events, C events → C' events)
    (hR : R w es w' → R' w es w') (h : Across C R w es w') : Across C' R' w es w' :=
  { h with courses := fun a hl hu => hC _ (h.courses a hl hu), law := hR h.law }

theorem Within.path (hR : Law gateways R) : Path (Within C R) where
  trans hw h h' := h.trans hR hw h'
  depth h := h.depth
  attempt h hw := by rw [h.attempt]; exact Nat.le_trans hw h.attempts
  still hj hd ha hn hs ho hc := .still hR hj hd ha hn hs ho hc

theorem Across.path (hR : Law gateways R) : Path (Across C R) where
  trans _ h h' := h.trans hR.trans h'
  depth h := h.depth
  attempt h := h.attempt
  still hj hd ha hn hs ho hc := .still hR hj hd (by rw [ha]; exact id) hn hs ho hc

/-! ## Computations step by step -/

/-- A computation makes a passage from a world, and its own events, its answer and the world
that it leaves are as told. -/
def Yields (P : World A → List (Entry A) → World A → Prop) (w : World A) (run : Run A α)
    (S : List (Event A) → α → World A → Prop) : Prop :=
  w.attempt ≤ w.attempts →
    ∃ es, P w es (run w).2 ∧ S (eventsAt w.depth es) (run w).1 (run w).2

variable {P : World A → List (Entry A) → World A → Prop} {w : World A}

theorem Yields.mono {run : Run A α} {S T : List (Event A) → α → World A → Prop}
    (h : Yields P w run S) (hST : ∀ es a w', S es a w' → T es a w') : Yields P w run T := by
  intro hw
  obtain ⟨es, hp, hs⟩ := h hw
  exact ⟨es, hp, hST _ _ _ hs⟩

/-- A computation that ends with a passage. -/
theorem Yields.ends {run : Run A α} {a : α} {w' : World A} {es : List (Entry A)}
    {T : List (Event A) → α → World A → Prop} (h : P w es w') (hrun : run w = (a, w'))
    (ht : T (eventsAt w.depth es) a w') : Yields P w run T := by
  intro _
  rw [hrun]
  exact ⟨es, h, ht⟩

/-- A computation whose first effects make a passage of their own. -/
theorem Yields.step (hP : Path P) {run rest : Run A α} {w' : World A} {es : List (Entry A)}
    {T : List (Event A) → α → World A → Prop} (h : P w es w') (hrun : run w = rest w')
    (hrest : Yields P w' rest fun es' a w'' => T (eventsAt w.depth es ++ es') a w'') :
    Yields P w run T := by
  intro hw
  obtain ⟨es', hp', ht⟩ := hrest (hP.attempt h hw)
  rw [hP.depth h, ← hrun] at ht
  rw [← hrun] at hp'
  refine ⟨es ++ es', hP.trans hw h hp', ?_⟩
  rw [eventsAt_append]
  exact ht

theorem Yields.congr {run run' : Run A α} {T : List (Event A) → α → World A → Prop}
    (h : run w = run' w) (hrun : Yields P w run' T) : Yields P w run T := by
  intro hw
  rw [h]
  exact hrun hw

theorem Run.bind_apply (x : Run A α) (f : α → Run A β) (w : World A) :
    (x >>= f) w = f (x w).1 (x w).2 := rfl

/-- One computation after another. -/
theorem Yields.bind (hP : Path P) {x : Run A α} {f : α → Run A β}
    {S : List (Event A) → α → World A → Prop} {T : List (Event A) → β → World A → Prop}
    (hx : Yields P w x S)
    (hf : ∀ es a w', S es a w' → Yields P w' (f a) fun es' b w'' => T (es ++ es') b w'') :
    Yields P w (x >>= f) T := by
  intro hw
  obtain ⟨es, hp, hs⟩ := hx hw
  exact Yields.step hP hp (Run.bind_apply x f w) (hf _ _ _ hs) hw

theorem Yields.pure (hP : Path P) {a : α} {T : List (Event A) → α → World A → Prop}
    (h : T [] a w) : Yields P w (Pure.pure a) T :=
  fun _ => ⟨[], hP.still rfl rfl rfl rfl rfl rfl rfl, h⟩

/-! ### Attempts -/

theorem Attempt.run_bind_ok {x : Attempt A α} {f : α → Attempt A β} {w w' : World A} {a : α}
    (h : x.run w = (.ok a, w')) : (x >>= f).run w = (f a).run w' := by
  rw [ExceptT.run_bind, Run.bind_apply, h]

theorem Attempt.run_bind_error {x : Attempt A α} {f : α → Attempt A β} {w w' : World A}
    {e : SagaError} (h : x.run w = (.error e, w')) : (x >>= f).run w = (.error e, w') := by
  rw [ExceptT.run_bind, Run.bind_apply, h]
  rfl

/-- What is made of an attempt that hands on what it came to. -/
theorem Attempt.run_some (x : Attempt A α) (w : World A) :
    (do return some (← x) : Attempt A (Option α)).run w =
      ((x.run w).1.map some, (x.run w).2) := by
  generalize hrun : x.run w = out
  obtain ⟨result, after⟩ := out
  cases result with
  | ok a => exact run_bind_ok hrun
  | error e => exact run_bind_error hrun

theorem Yields.bindAttempt (hP : Path P) {x : Attempt A α} {f : α → Attempt A β}
    {S : List (Event A) → Except SagaError α → World A → Prop}
    {T : List (Event A) → Except SagaError β → World A → Prop} (hx : Yields P w x.run S)
    (ok : ∀ es a w', S es (.ok a) w' →
      Yields P w' (f a).run fun es' r w'' => T (es ++ es') r w'')
    (error : ∀ es e w', S es (.error e) w' → T es (.error e) w') :
    Yields P w (x >>= f).run T := by
  rw [ExceptT.run_bind]
  refine Yields.bind hP hx ?_
  intro es r w' hs
  cases r with
  | ok a => exact ok es a w' hs
  | error e =>
    refine Yields.pure hP ?_
    rw [List.append_nil]
    exact error es e w' hs

theorem Yields.bindLift (hP : Path P) {x : Run A α} {f : α → Attempt A β}
    {S : List (Event A) → α → World A → Prop}
    {T : List (Event A) → Except SagaError β → World A → Prop} (hx : Yields P w x S)
    (ok : ∀ es a w', S es a w' → Yields P w' (f a).run fun es' r w'' => T (es ++ es') r w'') :
    Yields P w (Attempt.lift x >>= f).run T := by
  intro hw
  obtain ⟨es, hp, hs⟩ := hx hw
  have hrun : (Attempt.lift x >>= f).run w = (f (x w).1).run (x w).2 := rfl
  exact Yields.step hP hp hrun (ok _ _ _ hs) hw

theorem Yields.ofExcept (hP : Path P) {r : Except SagaError α}
    {T : List (Event A) → Except SagaError α → World A → Prop} (h : T [] r w) :
    Yields P w (Attempt.ofExcept r).run T :=
  Yields.pure hP h

theorem Yields.bindExcept {r : Except SagaError α} {f : α → Attempt A β}
    {T : List (Event A) → Except SagaError β → World A → Prop} (hP : Path P)
    (ok : ∀ a, r = .ok a → Yields P w (f a).run T)
    (error : ∀ e, r = .error e → T [] (.error e) w) :
    Yields P w (Attempt.ofExcept r >>= f).run T := by
  cases r with
  | ok a => exact ok a rfl
  | error e => exact Yields.pure hP (error e rfl)

theorem Yields.bindCheck (hP : Path P) {signal : Signal} {f : Unit → Attempt A β}
    {T : List (Event A) → Except SagaError β → World A → Prop}
    (ok : w.signals.isCancelled signal = false → Yields P w (f ()).run T)
    (cancelled : w.signals.isCancelled signal = true → T [] (.error .cancelled) w) :
    Yields P w (checkSignal signal >>= f).run T := by
  have hx : Yields P w (checkSignal signal).run fun es r w' => es = [] ∧ w' = w ∧
      r = if w.signals.isCancelled signal then .error .cancelled else .ok () :=
    fun _ => ⟨[], hP.still rfl rfl rfl rfl rfl rfl rfl, rfl, rfl, rfl⟩
  refine Yields.bindAttempt hP hx ?_ ?_
  · rintro es a w' ⟨rfl, rfl, hr⟩
    apply ok
    cases hc : w'.signals.isCancelled signal with
    | false => rfl
    | true => simp [hc] at hr
  · rintro es e w' ⟨rfl, rfl, hr⟩
    cases hc : w'.signals.isCancelled signal with
    | false => simp [hc] at hr
    | true => simp only [hc, if_true, Except.error.injEq] at hr; rw [hr]; exact cancelled hc

end Sagas
