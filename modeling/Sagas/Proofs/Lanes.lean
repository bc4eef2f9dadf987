import Sagas.Proofs.Functional

/-!
# Two runs in their lanes

Programs that are functions of what they get to see, that send nothing and cancel nothing, do the
same in two worlds that show them the same. The worlds may differ in the tokens of the records that
a step works on, in all other records, in what was published before, and in the time. What the step
does in one world is what it does in the other one, under other tokens. The time is seen by no
program and told by no answer: it only goes into `updatedAt`, which the engine never reads.

* `Record.Counterpart`, `Report.rename`: the same things under other tokens.
* `Lanes.Abreast`, `Lanes.Couples`: worlds on the way of two runs, and computations that keep them
  abreast of each other.
* `dispatch_couples`, `deliver_couples`: the step of one saga, and a whole delivery.
-/

namespace Sagas

variable {A : Application} {α α' β β' : Type}

/-! ## Other tokens -/

section

variable (σ : Token → Token)

/-- The same record under another token, whenever each of the two was saved. -/
structure Record.Counterpart (record record' : Record) : Prop where
  key : record'.toKey = record.toKey
  status : record'.status = record.status
  state : record'.state = record.state
  token : record'.token = record.token.map σ

def Outcome.rename (outcome : Outcome) : Outcome :=
  { outcome with token := outcome.token.map σ }

def Settled.rename (settled : Settled) : Settled :=
  { settled with outcome := settled.outcome.rename σ }

/-- The same report under other tokens. -/
def Report.rename (report : Report) : Report :=
  { report with outcomes := report.outcomes.map (Outcome.rename σ) }

end

/-! ## Worlds abreast of each other -/

/-- Two runs to hold against each other: the worlds in which they begin, the instances that they
work on, and the tokens of the second run by those of the first one. -/
structure Lanes (A : Application) where
  first : World A
  second : World A
  own : Key → Prop
  rename : Token → Token

/-- How far a run has come: it may have changed records of its own instances, and what was
published. -/
structure Onward (own : Key → Prop) (start w : World A) : Prop where
  cancelled : w.signals.cancelled = start.signals.cancelled
  saving : w.store.failing = start.store.failing
  mint : w.store.mint = start.store.mint
  publishing : w.outbox.failing = start.outbox.failing
  others : ∀ key, ¬ own key → w.store.find? key = start.store.find? key

namespace Lanes

/-- The runs begin in worlds that show the same, but for tokens, which the stores issue side by
side, and for the time. -/
structure Aligned (lanes : Lanes A) : Prop where
  cancelled : lanes.second.signals.cancelled = lanes.first.signals.cancelled
  saving : lanes.second.store.failing = lanes.first.store.failing
  publishing : lanes.second.outbox.failing = lanes.first.outbox.failing
  injective : Function.Injective lanes.rename
  supply : ∀ n, lanes.second.store.mint (lanes.second.store.saves + n + 1) =
    lanes.rename (lanes.first.store.mint (lanes.first.store.saves + n + 1))
  records : ∀ key, lanes.own key → Option.Rel (Record.Counterpart lanes.rename)
    (lanes.first.store.find? key) (lanes.second.store.find? key)

/-- The runs have come equally far. -/
structure Abreast (lanes : Lanes A) (w w' : World A) : Prop where
  left : Onward lanes.own lanes.first w
  right : Onward lanes.own lanes.second w'
  records : ∀ key, lanes.own key →
    Option.Rel (Record.Counterpart lanes.rename) (w.store.find? key) (w'.store.find? key)
  saves : ∃ n, w.store.saves = lanes.first.store.saves + n ∧
    w'.store.saves = lanes.second.store.saves + n
  sent : ∃ messages, w.outbox.sent = lanes.first.outbox.sent ++ messages ∧
    w'.outbox.sent = lanes.second.outbox.sent ++ messages

/-- Two computations stay abreast, and end in results that belong together. -/
def Couples (lanes : Lanes A) (S : α → β → Prop) (x : Run A α) (y : Run A β) : Prop :=
  ∀ w w', lanes.Abreast w w' → S (x w).1 (y w').1 ∧ lanes.Abreast (x w).2 (y w').2

end Lanes

/-- Two results are the same error, or values that belong together. -/
inductive Matches (S : α → β → Prop) : Except SagaError α → Except SagaError β → Prop where
  | ok {a : α} {b : β} : S a b → Matches S (.ok a) (.ok b)
  | error (error : SagaError) : Matches S (.error error) (.error error)

/-- A computation that leaves alone what other runs see of a world. -/
def Inert (run : Run A α) : Prop :=
  ∀ w, (run w).2.store = w.store ∧ (run w).2.outbox = w.outbox ∧
    (run w).2.signals.cancelled = w.signals.cancelled

theorem Onward.refl (own : Key → Prop) (w : World A) : Onward own w w :=
  ⟨rfl, rfl, rfl, rfl, fun _ _ => rfl⟩

theorem Onward.congr {own : Key → Prop} {start w v : World A} (h : Onward own start w)
    (hstore : v.store = w.store) (houtbox : v.outbox = w.outbox)
    (hcancelled : v.signals.cancelled = w.signals.cancelled) : Onward own start v := by
  obtain ⟨hcancelled', hsaving, hmint, hpublishing, hothers⟩ := h
  refine ⟨hcancelled.trans hcancelled', ?_, ?_, ?_, ?_⟩
  · rw [hstore, hsaving]
  · rw [hstore, hmint]
  · rw [houtbox, hpublishing]
  · rw [hstore]
    exact hothers

/-- The same world at another time. -/
def World.wait (w : World A) (now : Instant) : World A := { w with clock := now }

/-- How far a run has come does not depend on the time. -/
theorem Onward.wait {own : Key → Prop} {start w : World A} (h : Onward own start w)
    (early late : Instant) : Onward own (start.wait early) (w.wait late) := { h with }

namespace Lanes

variable {lanes : Lanes A}

theorem Aligned.abreast (h : lanes.Aligned) : lanes.Abreast lanes.first lanes.second :=
  ⟨.refl _ _, .refl _ _, h.records, ⟨0, rfl, rfl⟩, ⟨[], by simp⟩⟩

/-- No signal tells the lanes apart. -/
theorem Abreast.isCancelled {w w' : World A} (h : lanes.Abreast w w') (signal : Signal) :
    w.signals.isCancelled signal = lanes.first.signals.isCancelled signal := by
  unfold Signals.isCancelled
  rw [h.left.cancelled]

theorem Abreast.isCancelled_right {w w' : World A} (haligned : lanes.Aligned)
    (h : lanes.Abreast w w') (signal : Signal) :
    w'.signals.isCancelled signal = lanes.first.signals.isCancelled signal := by
  unfold Signals.isCancelled
  rw [h.right.cancelled, haligned.cancelled]

/-! ### Computations step by step -/

namespace Couples

variable {S : α → α' → Prop} {T : β → β' → Prop}

theorem mono {S' : α → α' → Prop} {x : Run A α} {x' : Run A α'} (hx : lanes.Couples S x x')
    (h : ∀ a a', S a a' → S' a a') : lanes.Couples S' x x' := by
  intro w w' habreast
  obtain ⟨hresult, hafter⟩ := hx w w' habreast
  exact ⟨h _ _ hresult, hafter⟩

theorem pure {a : α} {a' : α'} (h : S a a') : lanes.Couples S (Pure.pure a) (Pure.pure a') :=
  fun _ _ habreast => ⟨h, habreast⟩

theorem bind {x : Run A α} {x' : Run A α'} {f : α → Run A β} {f' : α' → Run A β'}
    (hx : lanes.Couples S x x') (hf : ∀ a a', S a a' → lanes.Couples T (f a) (f' a')) :
    lanes.Couples T (x >>= f) (x' >>= f') := by
  intro w w' h
  obtain ⟨hresult, hafter⟩ := hx w w' h
  exact hf _ _ hresult _ _ hafter

theorem bindLift {x : Run A α} {x' : Run A α'} {f : α → Attempt A β} {f' : α' → Attempt A β'}
    (hx : lanes.Couples S x x')
    (hf : ∀ a a', S a a' → lanes.Couples (Matches T) (f a).run (f' a').run) :
    lanes.Couples (Matches T) (Attempt.lift x >>= f).run (Attempt.lift x' >>= f').run :=
  hx.bind hf

theorem bindAttempt {x : Attempt A α} {x' : Attempt A α'} {f : α → Attempt A β}
    {f' : α' → Attempt A β'} (hx : lanes.Couples (Matches S) x.run x'.run)
    (hf : ∀ a a', S a a' → lanes.Couples (Matches T) (f a).run (f' a').run) :
    lanes.Couples (Matches T) (x >>= f).run (x' >>= f').run := by
  rw [ExceptT.run_bind, ExceptT.run_bind]
  refine hx.bind fun result result' hmatches => ?_
  cases hmatches with
  | ok hs => exact hf _ _ hs
  | error error => exact .pure (.error error)

/-- What comes after a result that is the same in both lanes. -/
theorem bindExcept {result : Except SagaError α} {f : α → Attempt A β} {f' : α → Attempt A β'}
    (hf : ∀ a, result = .ok a → lanes.Couples (Matches T) (f a).run (f' a).run) :
    lanes.Couples (Matches T) (Attempt.ofExcept result >>= f).run
      (Attempt.ofExcept result >>= f').run := by
  cases result with
  | ok a => exact hf a rfl
  | error error => exact .pure (.error error)

/-- What comes after results that match. -/
theorem bindMatches {result : Except SagaError α} {result' : Except SagaError α'}
    {f : α → Attempt A β} {f' : α' → Attempt A β'} (h : Matches S result result')
    (hf : ∀ a a', S a a' → lanes.Couples (Matches T) (f a).run (f' a').run) :
    lanes.Couples (Matches T) (Attempt.ofExcept result >>= f).run
      (Attempt.ofExcept result' >>= f').run := by
  cases h with
  | ok hs => exact hf _ _ hs
  | error error => exact .pure (.error error)

/-- A look at the signal ends both runs or none. -/
theorem bindCheck (haligned : lanes.Aligned) {signal : Signal} {f : Unit → Attempt A β}
    {f' : Unit → Attempt A β'}
    (hf : lanes.first.signals.isCancelled signal = false →
      lanes.Couples (Matches T) (f ()).run (f' ()).run) :
    lanes.Couples (Matches T) (checkSignal signal >>= f).run (checkSignal signal >>= f').run := by
  intro w w' h
  rw [checkSignal_run, checkSignal_run, h.isCancelled, h.isCancelled_right haligned]
  split
  · exact ⟨.error _, h⟩
  · rename_i hclear
    exact hf (by simpa using hclear) w w' h

theorem inert {x : Run A α} {x' : Run A α'} (hx : Inert x) (hx' : Inert x')
    (h : ∀ w w', lanes.Abreast w w' → S (x w).1 (x' w').1) : lanes.Couples S x x' := by
  intro w w' habreast
  obtain ⟨hstore, houtbox, hcancelled⟩ := hx w
  obtain ⟨hstore', houtbox', hcancelled'⟩ := hx' w'
  refine ⟨h w w' habreast, habreast.left.congr hstore houtbox hcancelled,
    habreast.right.congr hstore' houtbox' hcancelled', ?_, ?_, ?_⟩
  · rw [hstore, hstore']
    exact habreast.records
  · rw [hstore, hstore']
    exact habreast.saves
  · rw [houtbox, houtbox']
    exact habreast.sent

end Couples

end Lanes

/-! ## Programs and chains -/

theorem World.record_inert (event : Event A) : Inert (World.record event) :=
  fun _ => ⟨rfl, rfl, rfl⟩

theorem World.emit_inert (events : List TraceEvent) : Inert (A := A) (World.emit events) :=
  fun _ => ⟨rfl, rfl, rfl⟩

theorem World.count_inert (metrics : List Metric) : Inert (A := A) (World.count metrics) :=
  fun _ => ⟨rfl, rfl, rfl⟩

/-- **A steady program is inert**, by induction on the program. -/
theorem Program.Steady.inert {program : Program A α} (h : program.Steady)
    (send : Request A.Body → Run A Answer) : Inert (program.run send) := by
  induction program with
  | done value => exact fun w => ⟨rfl, rfl, rfl⟩
  | update change next ih =>
    exact fun w => ih (change w.env) (h _) { w with env := change w.env }
  | note entry next ih => exact fun w => ih h (w.logged (.noted entry))
  | newSignal next ih =>
    exact fun w => ih w.signals.fresh (h _) { w with signals := w.signals.issue }
  | cancel signal next ih => exact h.elim
  | isCancelled signal next ih => exact fun w => ih (w.signals.isCancelled signal) (h _) w
  | newInstance next ih =>
    exact fun w => ih w.instances (h _) { w with instances := w.instances + 1 }
  | send request next ih => exact h.elim

section

variable {lanes : Lanes A} {send : Request A.Body → Run A Answer}

theorem Lanes.Couples.record (event event' : Event A) :
    lanes.Couples (fun _ _ => True) (World.record event) (World.record event') :=
  .inert (World.record_inert event) (World.record_inert event') fun _ _ _ => trivial

theorem Lanes.Couples.emit (events events' : List TraceEvent) :
    lanes.Couples (fun _ _ => True) (World.emit events) (World.emit events') :=
  .inert (World.emit_inert events) (World.emit_inert events') fun _ _ _ => trivial

theorem Lanes.Couples.count (metrics : List Metric) :
    lanes.Couples (fun _ _ => True) (World.count metrics) (World.count metrics) :=
  .inert (World.count_inert metrics) (World.count_inert metrics) fun _ _ _ => trivial

theorem Lanes.Couples.beginAttempt :
    lanes.Couples (fun _ _ => True) World.beginAttempt World.beginAttempt :=
  .inert (fun _ => ⟨rfl, rfl, rfl⟩) (fun _ => ⟨rfl, rfl, rfl⟩) fun _ _ _ => trivial

theorem Lanes.Couples.beginDelivery :
    lanes.Couples (fun _ _ => True) World.beginDelivery World.beginDelivery :=
  .inert (fun _ => ⟨rfl, rfl, rfl⟩) (fun _ => ⟨rfl, rfl, rfl⟩) fun _ _ _ => trivial

/-- A program that ends in one value does so in both lanes. -/
theorem Program.AlwaysEnds.couples {program : Program A α} {value : α}
    (h : program.AlwaysEnds value) (hsteady : program.Steady) :
    lanes.Couples (fun a a' => value = a ∧ value = a') (program.run send) (program.run send) :=
  .inert (hsteady.inert send) (hsteady.inert send) fun w w' _ => ⟨(h send w).symm, (h send w').symm⟩

/-- Programs that end in two values under a signal do so while it is not cancelled. -/
theorem Program.EndsUnder.couples {program program' : Program A α} {value value' : α}
    {signal : Signal} (h : program.EndsUnder signal value) (h' : program'.EndsUnder signal value')
    (hsteady : program.Steady) (hsteady' : program'.Steady) (haligned : lanes.Aligned)
    (hclear : lanes.first.signals.isCancelled signal = false) :
    lanes.Couples (fun a a' => value = a ∧ value' = a') (program.run send) (program'.run send) :=
  .inert (hsteady.inert send) (hsteady'.inert send) fun w w' habreast =>
    ⟨(h send w (by rw [habreast.isCancelled, hclear])).symm,
      (h' send w' (by rw [habreast.isCancelled_right haligned, hclear])).symm⟩

/-- Two works on states that belong together have the same answer, and leave such states. -/
def WorksTogether (lanes : Lanes A) (P : A.State → A.State → Prop) (work work' : Work A) : Prop :=
  ∀ state state', P state state' → lanes.Couples (fun p p' => p'.1 = p.1 ∧ P p.2 p'.2)
    (work.run state) (work'.run state')

variable {P : A.State → A.State → Prop} {step : StepInfo} {work work' : Work A}

theorem Wrapper.Functional.couples {wrapper : Wrapper A} (h : wrapper.Functional)
    (hwork : WorksTogether lanes P work work') :
    WorksTogether lanes P (wrapper.wrap send step work) (wrapper.wrap send step work') := by
  intro state state' hstate
  cases wrapper with
  | tracing =>
    rw [Wrapper.tracing_run, Wrapper.tracing_run]
    refine (Lanes.Couples.emit _ _).bind fun _ _ _ => (hwork _ _ hstate).bind ?_
    rintro ⟨_, left⟩ ⟨result, left'⟩ ⟨rfl, hleft⟩
    exact (Lanes.Couples.emit _ _).bind fun _ _ _ => .pure ⟨rfl, hleft⟩
  | metrics =>
    rw [Wrapper.metrics_run, Wrapper.metrics_run]
    refine (Lanes.Couples.count _).bind fun _ _ _ => (hwork _ _ hstate).bind ?_
    rintro ⟨_, left⟩ ⟨result, left'⟩ ⟨rfl, hleft⟩
    exact (Lanes.Couples.count _).bind fun _ _ _ => .pure ⟨rfl, hleft⟩
  | custom before =>
    obtain ⟨hsteady, around, hends, haround⟩ := h step
    rw [Wrapper.custom_run, Wrapper.custom_run]
    refine (hends.couples hsteady).bind ?_
    rintro _ _ ⟨rfl, rfl⟩
    cases around with
    | halt result => exact .pure ⟨rfl, hstate⟩
    | enclose after =>
      refine (hwork _ _ hstate).bind ?_
      rintro ⟨_, left⟩ ⟨result, left'⟩ ⟨rfl, hleft⟩
      obtain ⟨hafter, answer, hanswer⟩ := haround result
      refine (hanswer.couples hafter).bind ?_
      rintro _ _ ⟨rfl, rfl⟩
      exact .pure ⟨rfl, hleft⟩

theorem Chain.couples (send : Request A.Body → Run A Answer) (step : StepInfo) {chain : Chain A}
    (h : ∀ wrapper ∈ chain, wrapper.Functional)
    (hwork : WorksTogether lanes P work work') :
    WorksTogether lanes P (chain.run send step work) (chain.run send step work') := by
  induction chain with
  | nil => exact hwork
  | cons wrapper rest ih =>
    have hrest := ih fun other hmem => h other (List.mem_cons_of_mem _ hmem)
    exact (h wrapper List.mem_cons_self).couples hrest

end

/-! ## Steps -/

/-- The same state under tokens that belong together, or a state without a token. -/
inductive Saga.Twins (saga : Saga A) (σ : Token → Token) : A.State → A.State → Prop where
  | fresh {state : A.State} : saga.tokenOf state = none → Twins saga σ state state
  | loaded (token : Option Token) (state : A.State) :
      saga.tokenOf (saga.withToken (token.map σ) state) =
        (saga.tokenOf (saga.withToken token state)).map σ →
      Twins saga σ (saga.withToken token state) (saga.withToken (token.map σ) state)

namespace Saga.Twins

variable {saga : Saga A} {σ : Token → Token} {state state' : A.State}

theorem encode_eq (h : saga.Twins σ state state') (htokens : saga.TokensApart) :
    saga.encode state' = saga.encode state := by
  cases h with
  | fresh => rfl
  | loaded token state => rw [htokens.stored, htokens.stored]

theorem tokenOf_eq (h : saga.Twins σ state state') :
    saga.tokenOf state' = (saga.tokenOf state).map σ := by
  cases h with
  | fresh hnone => rw [hnone, Option.map_none]
  | loaded token state htoken => exact htoken

/-- A state that is loaded under two tokens. -/
theorem of_decode {json : Json} (htokens : saga.TokensApart) (h : saga.decode json = .ok state)
    (token : Option Token) :
    saga.Twins σ (saga.withToken token state) (saga.withToken (token.map σ) state) := by
  refine .loaded token state ?_
  rcases htokens.given json state h with hkept | hdropped
  · rw [hkept, hkept]
  · rw [hdropped, hdropped, Option.map_none]

/-- A function that has nothing to do with tokens takes twins to twins. -/
theorem map {f : Context A → A.State × α} (h : saga.Twins σ state state') (hf : saga.TokenFree f)
    (context : Context A) :
    (f { context with state := state' }).2 = (f { context with state }).2 ∧
      saga.Twins σ (f { context with state }).1 (f { context with state := state' }).1 := by
  cases h with
  | fresh hnone => exact ⟨rfl, .fresh ((hf.sets _).trans hnone)⟩
  | loaded token state htoken =>
    have hreads := hf.reads { context with state }
    have hset := hf.sets { context with state := saga.withToken token state }
    have hset' := hf.sets { context with state := saga.withToken (token.map σ) state }
    rw [hreads token] at hset ⊢
    rw [hreads (token.map σ)] at hset' ⊢
    refine ⟨rfl, .loaded token _ ?_⟩
    rw [hset, hset', htoken]

end Saga.Twins

/-! ### The store and the outbox -/

section

variable {lanes : Lanes A} {w w' : World A} {record record' : Record}

/-- Both stores accept a save, or none does. -/
theorem Lanes.Abreast.accepts_eq (haligned : lanes.Aligned) (h : lanes.Abreast w w')
    (hown : lanes.own record.toKey) (hrecord : record.Counterpart lanes.rename record') :
    w'.store.accepts record'.toKey record'.token =
      w.store.accepts record.toKey record.token := by
  have hstored := h.records _ hown
  rw [hrecord.key, hrecord.token]
  unfold Store.accepts
  generalize w.store.find? record.toKey = found at hstored
  generalize w'.store.find? record.toKey = found' at hstored
  cases hstored with
  | none => cases record.token <;> rfl
  | @some stored stored' hstored =>
    have hsame : (stored.token.map lanes.rename == record.token.map lanes.rename) =
        (stored.token == record.token) :=
      (Option.map_injective haligned.injective).beq_eq
    have hsome : (stored.token.map lanes.rename).isSome = stored.token.isSome :=
      Option.isSome_map ..
    simp only [hstored.token, hsame, hsome]

/-- Accepted saves issue tokens that belong together. -/
theorem Lanes.Abreast.mint_eq (haligned : lanes.Aligned) (h : lanes.Abreast w w') :
    w'.store.mint (w'.store.saves + 1) = lanes.rename (w.store.mint (w.store.saves + 1)) := by
  obtain ⟨n, hsaves, hsaves'⟩ := h.saves
  rw [h.left.mint, h.right.mint, hsaves, hsaves']
  exact haligned.supply n

theorem Onward.put {own : Key → Prop} {start : World A} (h : Onward own start w)
    (hown : own record.toKey) : Onward own start { w with store := w.store.put record } := by
  refine { h with others := fun key hkey => ?_ }
  have hne : record.toKey ≠ key := by
    rintro rfl
    exact hkey hown
  exact (Store.find?_put record).trans (by rw [if_neg hne, h.others key hkey])

theorem Lanes.Abreast.put (haligned : lanes.Aligned) (h : lanes.Abreast w w')
    (hown : lanes.own record.toKey) (hrecord : record.Counterpart lanes.rename record') :
    lanes.Abreast { w with store := w.store.put record }
      { w' with store := w'.store.put record' } := by
  have hown' : lanes.own record'.toKey := hrecord.key ▸ hown
  refine ⟨h.left.put hown, h.right.put hown', ?_, ?_, h.sent⟩
  · intro key hkey
    change Option.Rel _ ((w.store.put record).find? key) ((w'.store.put record').find? key)
    rw [Store.find?_put, Store.find?_put, h.mint_eq haligned, hrecord.key]
    by_cases hsame : record.toKey = key
    · rw [if_pos hsame, if_pos hsame]
      exact .some ⟨rfl, hrecord.status, hrecord.state, rfl⟩
    · rw [if_neg hsame, if_neg hsame]
      exact h.records key hkey
  · obtain ⟨n, hsaves, hsaves'⟩ := h.saves
    exact ⟨n + 1, congrArg (· + 1) hsaves, congrArg (· + 1) hsaves'⟩

theorem Lanes.Abreast.save (haligned : lanes.Aligned) (h : lanes.Abreast w w')
    (hown : lanes.own record.toKey) (hrecord : record.Counterpart lanes.rename record') :
    Matches (fun token token' => token' = lanes.rename token)
        ((w.store.save record).1.mapError .ofStore)
        ((w'.store.save record').1.mapError .ofStore) ∧
      lanes.Abreast { w with store := (w.store.save record).2 }
        { w' with store := (w'.store.save record').2 } := by
  have hsaving : w'.store.failing = w.store.failing := by
    rw [h.right.saving, haligned.saving, h.left.saving]
  unfold Store.save
  rw [hsaving, h.accepts_eq haligned hown hrecord]
  cases w.store.failing with
  | true => exact ⟨.error _, h⟩
  | false =>
    cases w.store.accepts record.toKey record.token with
    | true => exact ⟨.ok (h.mint_eq haligned), h.put haligned hown hrecord⟩
    | false =>
      rw [hrecord.key]
      exact ⟨.error (.conflict record.toKey), h⟩

theorem Lanes.Abreast.publish (haligned : lanes.Aligned) (h : lanes.Abreast w w')
    (outgoing : Outgoing A.Body) :
    (w'.outbox.publish outgoing).1 = (w.outbox.publish outgoing).1 ∧
      lanes.Abreast { w with outbox := (w.outbox.publish outgoing).2 }
        { w' with outbox := (w'.outbox.publish outgoing).2 } := by
  have hfailing : w'.outbox.failing = w.outbox.failing := by
    rw [h.right.publishing, haligned.publishing, h.left.publishing]
  unfold Outbox.publish
  rw [hfailing]
  split
  · exact ⟨rfl, h⟩
  · obtain ⟨messages, hsent, hsent'⟩ := h.sent
    have hright : w.outbox.failing = lanes.second.outbox.failing := by
      rw [← hfailing, h.right.publishing]
    refine ⟨rfl, { h.left with }, { h.right with publishing := hright }, h.records, h.saves,
      messages ++ [outgoing], ?_, ?_⟩
    · rw [hsent, List.append_assoc]
    · rw [hsent', List.append_assoc]

end

namespace Visit

variable {visit : Visit A} {lanes : Lanes A}

section

variable (hgateways : visit.orchestrator.gateways.FromFactories) (haligned : lanes.Aligned)
include hgateways

theorem load_couples {key : Key} (hown : lanes.own key) :
    lanes.Couples (Matches (Option.Rel (Record.Counterpart lanes.rename))) (visit.load key).run
      (visit.load key).run := by
  obtain ⟨factories, hinMemory⟩ := hgateways
  intro w w' h
  have hrecord := h.records key hown
  unfold load
  rw [hinMemory]
  refine ⟨?_, (Lanes.Couples.record _ _ w w' h).2⟩
  change Matches _ (.ok (w.store.find? key)) (.ok (w'.store.find? key))
  exact .ok hrecord

include haligned

theorem save_couples {record record' : Record} (hown : lanes.own record.toKey)
    (hrecord : record.Counterpart lanes.rename record') :
    lanes.Couples (Matches fun token token' => token' = lanes.rename token)
      (visit.save record).run (visit.save record').run := by
  obtain ⟨factories, hinMemory⟩ := hgateways
  unfold save
  rw [hinMemory]
  have hcall : lanes.Couples
      (fun result result' => Matches (fun token token' => token' = lanes.rename token)
        (result.mapError .ofStore) (result'.mapError .ofStore))
      (World.onResources ((Gateways.inMemory (Factories.resolve factories)).save record
        visit.request.signal))
      (World.onResources ((Gateways.inMemory (Factories.resolve factories)).save record'
        visit.request.signal)) :=
    fun w w' h => h.save haligned hown hrecord
  exact .bindLift hcall fun _ _ hresults => .bindLift (.record _ _) fun _ _ _ => .pure hresults

theorem publish_couples (key : Key) (outgoing : Outgoing A.Body) :
    lanes.Couples (Matches fun _ _ => True) (visit.publish key outgoing).run
      (visit.publish key outgoing).run := by
  obtain ⟨factories, hinMemory⟩ := hgateways
  unfold publish
  rw [hinMemory]
  have hcall : lanes.Couples (fun result result' => result' = result)
      (World.onResources ((Gateways.inMemory (Factories.resolve factories)).publish outgoing
        visit.request.signal))
      (World.onResources ((Gateways.inMemory (Factories.resolve factories)).publish outgoing
        visit.request.signal)) :=
    fun w w' h => h.publish haligned outgoing
  refine .bindLift hcall ?_
  rintro _ result rfl
  refine .bindLift (.record _ _) fun _ _ _ => .pure ?_
  cases result with
  | ok value => exact .ok trivial
  | error fault => exact .error (.publish key fault)

theorem publishOutgoing_couples (key : Key) (outgoing : Option (Outgoing A.Body)) :
    lanes.Couples (Matches fun published published' => published' = published)
      (visit.publishOutgoing key outgoing).run (visit.publishOutgoing key outgoing).run := by
  cases outgoing with
  | none => exact .pure (.ok rfl)
  | some outgoing =>
    exact (publish_couples hgateways haligned key outgoing).bindAttempt fun _ _ _ => .pure (.ok rfl)

theorem commit_couples (htokens : visit.saga.TokensApart) {step : StepInfo}
    (hown : lanes.own step.key) {state state' : A.State}
    (htwins : visit.saga.Twins lanes.rename state state') (transition : Transition A.Body)
    (status : Status) :
    lanes.Couples (Matches fun settled settled' => settled' = settled.rename lanes.rename)
      (visit.commit step state transition status).run
      (visit.commit step state' transition status).run := by
  unfold commit
  refine .bindCheck haligned fun _ => ?_
  rw [htwins.encode_eq htokens]
  refine .bindExcept fun json _ => ?_
  have hworlds : lanes.Couples lanes.Abreast get get := fun w w' h => ⟨h, h⟩
  refine .bindLift hworlds fun w w' _ => ?_
  -- the clocks may show different times
  have hrecord : (visit.recordOf step.key status state json w.clock).Counterpart lanes.rename
      (visit.recordOf step.key status state' json w'.clock) :=
    ⟨rfl, rfl, rfl, htwins.tokenOf_eq⟩
  refine (save_couples hgateways haligned hown hrecord).bindAttempt ?_
  rintro token _ rfl
  refine (publishOutgoing_couples hgateways haligned _ _).bindAttempt ?_
  rintro published _ rfl
  exact .bindLift (.emit _ _) fun _ _ _ => .pure (.ok rfl)

theorem settle_couples (htokens : visit.saga.TokensApart) {step : StepInfo}
    (hown : lanes.own step.key) {state state' : A.State}
    (htwins : visit.saga.Twins lanes.rename state state') (transition : Transition A.Body) :
    lanes.Couples (Matches fun settled settled' => settled' = settled.rename lanes.rename)
      (visit.settle step state transition).run (visit.settle step state' transition).run := by
  unfold settle
  refine .bindLift (.count _) fun _ _ _ => ?_
  cases Status.after transition.kind with
  | none => exact .bindLift (.emit _ _) fun _ _ _ => .pure (.ok rfl)
  | some status => exact commit_couples hgateways haligned htokens hown htwins transition status

omit haligned in
/-- Instances may be others, but both lanes get one, or none does. -/
theorem resolve_couples :
    lanes.Couples (Matches fun _ _ => True) visit.resolve.run visit.resolve.run := by
  obtain ⟨factories, hinMemory⟩ := hgateways
  unfold resolve
  rw [hinMemory]
  have hinert := (Factories.resolve_steady (A := A) factories visit.saga.type).inert visit.send
  have hcall : lanes.Couples
      (fun result result' => Matches (fun _ _ => True) (checkInstance visit.saga.type result)
        (checkInstance visit.saga.type result'))
      ((Factories.resolve factories visit.saga.type).run visit.send)
      ((Factories.resolve factories visit.saga.type).run visit.send) := by
    refine .inert hinert hinert fun w w' _ => ?_
    unfold Factories.resolve
    cases Table.find? visit.saga.type.id factories with
    | none => exact .error _
    | some factory =>
      cases factory with
      | fresh =>
        -- instances are told apart by their serial numbers
        have hfresh : ∀ serial, checkInstance visit.saga.type (.ok ⟨visit.saga.type.id, serial⟩) =
            .ok ⟨visit.saga.type.id, serial⟩ := fun serial => if_pos rfl
        change Matches _ (checkInstance _ (.ok ⟨_, w.instances⟩))
          (checkInstance _ (.ok ⟨_, w'.instances⟩))
        rw [hfresh, hfresh]
        exact .ok trivial
      | shared one =>
        change Matches _ (checkInstance _ (.ok one)) (checkInstance _ (.ok one))
        cases checkInstance visit.saga.type (.ok one) with
        | ok runner => exact .ok trivial
        | error error => exact .error error
  refine .bindLift hcall fun _ _ hresults => .bindLift (.record _ _) fun _ _ _ => .pure hresults

omit hgateways in
/-- The handler of a step, from states that are twins. -/
theorem work_together {handler : Handler A} (hhandler : visit.saga.Functional handler)
    (hclear : lanes.first.signals.isCancelled visit.request.signal = false) (step : StepInfo)
    (runner runner' : Instance) :
    WorksTogether lanes (visit.saga.Twins lanes.rename) (visit.work step runner handler)
      (visit.work step runner' handler) := by
  obtain ⟨hsteady, f, hfree, hends⟩ := hhandler
  intro state state' htwins
  rw [work_run, work_run]
  refine (Lanes.Couples.record _ _).bind fun _ _ _ => ?_
  have hend := hends runner (visit.context step.key state)
  have hend' := hends runner' (visit.context step.key state')
  refine (hend.couples hend' (hsteady _ _) (hsteady _ _) haligned hclear).bind ?_
  rintro _ _ ⟨rfl, rfl⟩
  obtain ⟨hresult, hleft⟩ := htwins.map hfree (visit.context step.key state)
  exact .pure ⟨hresult, hleft⟩

theorem execute_couples (htokens : visit.saga.TokensApart)
    (hwrappers : ∀ wrapper ∈ visit.orchestrator.chain, wrapper.Functional)
    {handler : Handler A} (hhandler : visit.saga.Functional handler) (stage : Stage)
    (runner runner' : Instance) {key : Key} (hown : lanes.own key) {state state' : A.State}
    (htwins : visit.saga.Twins lanes.rename state state') :
    lanes.Couples (Matches fun settled settled' => settled' = settled.rename lanes.rename)
      (visit.execute stage handler runner key state).run
      (visit.execute stage handler runner' key state').run := by
  unfold execute
  refine .bindCheck haligned fun hclear => ?_
  have hwork := work_together haligned hhandler hclear (visit.stepOf stage key) runner runner'
  have hchain := Chain.couples visit.send (visit.stepOf stage key) hwrappers hwork
  refine .bindLift (hchain state state' htwins) ?_
  rintro ⟨_, left⟩ ⟨result, left'⟩ ⟨rfl, hleft⟩
  refine .bindLift (.record _ _) fun _ _ _ => .bindExcept fun transition _ => ?_
  exact settle_couples hgateways haligned htokens hown hleft _

end

/-- What a visit needs to be the same in both lanes. -/
structure Runs (visit : Visit A) (lanes : Lanes A) : Prop where
  aligned : lanes.Aligned
  gateways : visit.orchestrator.gateways.FromFactories
  wrappers : ∀ wrapper ∈ visit.orchestrator.chain, wrapper.Functional
  registration : visit.registration.Functional
  own : ∀ key, visit.registration.Touches visit.request key → lanes.own key

namespace Runs

variable (h : visit.Runs lanes)
include h

theorem create_couples {handler : Handler A}
    (hhandler : visit.registration.handler? visit.request.message.type = some (.start, handler)) :
    lanes.Couples (Matches fun settled settled' => settled' = settled.rename lanes.rename)
      (visit.create handler).run (visit.create handler).run := by
  obtain ⟨hsteady, f, hfree, hends⟩ := h.registration.hook
  let opening := visit.registration.opening visit.request
  unfold create
  refine .bindLift .beginAttempt fun _ _ _ => .bindCheck h.aligned fun hclear => ?_
  refine (resolve_couples h.gateways).bindAttempt fun runner runner' _ => ?_
  refine .bindLift (.record _ _) fun _ _ _ => ?_
  have hhook : lanes.Couples (fun p p' => f opening = p ∧ f opening = p')
      ((visit.saga.onCreated runner opening).run visit.send)
      ((visit.saga.onCreated runner' opening).run visit.send) :=
    (hends runner opening).couples (hends runner' opening) (hsteady _ _) (hsteady _ _) h.aligned
      hclear
  refine .bindLift hhook ?_
  rintro _ _ ⟨rfl, rfl⟩
  have hend := hends runner opening
  have hnone : visit.saga.tokenOf (f opening).1 = none :=
    (hfree.sets opening).trans h.registration.tokens.initial
  generalize f opening = left at hend hnone
  obtain ⟨left, result⟩ := left
  refine .bindExcept fun _ hok => ?_
  obtain rfl : result = .ok () := mapError_eq_ok hok
  refine .bindExcept fun _ hnamed => ?_
  have hown : lanes.own ⟨visit.sagaType, visit.saga.idOf left⟩ := by
    refine h.own _ (.created hhandler hend fun hempty => ?_)
    rw [show visit.saga.idOf left = "" from hempty] at hnamed
    cases hnamed
  refine .bindLift (.emit _ _) fun _ _ _ => ?_
  exact execute_couples h.gateways h.aligned h.registration.tokens h.wrappers
    (h.registration.handlers _ _ _ hhandler) .start runner runner' hown (.fresh hnone)

theorem advanceOnce_couples {stage : Stage} {handler : Handler A}
    (hhandler : visit.registration.handler? visit.request.message.type = some (stage, handler))
    {key : Key} (hown : lanes.own key) :
    lanes.Couples (Matches fun settled settled' => settled' = settled.rename lanes.rename)
      (visit.advanceOnce stage handler key).run (visit.advanceOnce stage handler key).run := by
  unfold advanceOnce
  refine .bindLift .beginAttempt fun _ _ _ => .bindCheck h.aligned fun _ => ?_
  refine (load_couples h.gateways hown).bindAttempt fun loaded loaded' hloaded => ?_
  have hfound : Matches (Record.Counterpart lanes.rename) (found key loaded)
      (found key loaded') := by
    cases hloaded with
    | none => exact .error (.notFound key)
    | some hrecord => exact .ok hrecord
  refine .bindMatches hfound fun record record' hrecord => ?_
  have hstates : Matches (visit.saga.Twins lanes.rename) (visit.stateOf record)
      (visit.stateOf record') := by
    unfold stateOf
    rw [hrecord.state, hrecord.token]
    cases hdecode : visit.saga.decode record.state with
    | ok state => exact .ok (.of_decode h.registration.tokens hdecode record.token)
    | error reason => exact .error _
  rw [hrecord.status]
  refine .bindExcept fun _ _ => .bindMatches hstates fun state state' htwins => ?_
  refine .bindCheck h.aligned fun _ => ?_
  refine (resolve_couples h.gateways).bindAttempt fun runner runner' _ => ?_
  exact execute_couples h.gateways h.aligned h.registration.tokens h.wrappers
    (h.registration.handlers _ _ _ hhandler) stage runner runner' hown htwins

theorem attempts_couples {stage : Stage} {handler : Handler A}
    (hhandler : visit.registration.handler? visit.request.message.type = some (stage, handler))
    {key : Key} (hown : lanes.own key) (reruns made : Nat) :
    lanes.Couples (Matches fun settled settled' => settled' = settled.rename lanes.rename)
      (visit.attempts stage handler key reruns made).run
      (visit.attempts stage handler key reruns made).run := by
  have honce := h.advanceOnce_couples hhandler hown
  -- by induction on the reruns that are left; a conflict in one lane is one in the other
  induction reruns generalizing made with
  | zero =>
    unfold attempts
    refine honce.bind fun _ _ hmatches => ?_
    cases hmatches with
    | ok hsettled => exact .pure (.ok hsettled)
    | error error =>
      cases error with
      | conflict stale => exact (Lanes.Couples.count _).bind fun _ _ _ => .pure (.error _)
      | _ => exact .pure (.error _)
  | succ reruns ih =>
    unfold attempts
    refine honce.bind fun _ _ hmatches => ?_
    cases hmatches with
    | ok hsettled => exact .pure (.ok hsettled)
    | error error =>
      cases error with
      | conflict stale =>
        exact (Lanes.Couples.count _).bind fun _ _ _ =>
          (Lanes.Couples.emit _ _).bind fun _ _ _ => ih (made + 1)
      | _ => exact .pure (.error _)

/-- **The step of one saga is the same in both lanes.** -/
theorem dispatch_couples :
    lanes.Couples
      (Matches fun settled settled' => settled' = settled.map (Settled.rename lanes.rename))
      visit.dispatch.run visit.dispatch.run := by
  cases hcase : visit.registration.handler? visit.request.message.type with
  | none =>
    rw [dispatch_of_none hcase]
    exact .bindLift (.emit _ _) fun _ _ _ => .pure (.ok rfl)
  | some found =>
    obtain ⟨stage, handler⟩ := found
    by_cases hstage : stage = .start
    · subst hstage
      rw [dispatch_of_start hcase]
      refine (h.create_couples hcase).bindAttempt ?_
      rintro settled _ rfl
      exact .pure (.ok rfl)
    · rw [dispatch_of_stage hstage hcase]
      have hadvance : lanes.Couples
          (Matches fun settled settled' => settled' = settled.rename lanes.rename)
          (visit.advance stage handler).run (visit.advance stage handler).run :=
        .bindExcept fun sagaId hcorrelate =>
          h.attempts_couples hcase (h.own _ (.correlated hcase hstage hcorrelate)) _ 0
      refine hadvance.bindAttempt ?_
      rintro settled _ rfl
      exact .pure (.ok rfl)

end Runs

end Visit

/-! ## Deliveries -/

namespace Orchestrator

variable {orchestrator : Orchestrator A} {lanes : Lanes A} {request : Request A.Body}

theorem dispatchAll_couples {send : Request A.Body → Run A Answer}
    {registrations : List (Registration A)}
    (h : ∀ registration ∈ registrations,
      Visit.Runs { orchestrator, send, registration, request } lanes) :
    lanes.Couples
      (Matches fun settled settled' => settled' = settled.map (Settled.rename lanes.rename))
      (orchestrator.dispatchAll send request registrations).run
      (orchestrator.dispatchAll send request registrations).run := by
  induction registrations with
  | nil => exact .pure (.ok rfl)
  | cons registration rest ih =>
    unfold dispatchAll
    refine (h registration List.mem_cons_self).dispatch_couples.bindAttempt ?_
    rintro settled _ rfl
    refine (ih fun other hmem => h other (List.mem_cons_of_mem _ hmem)).bindAttempt ?_
    rintro others _ rfl
    refine .pure (.ok ?_)
    rw [List.map_append]
    cases settled <;> rfl

/-- The error of a failure does not tell tokens, and neither does the log. -/
theorem failures_rename (σ : Token → Token) (settled : List Settled) :
    failures (settled.map (Settled.rename σ)) = failures settled := by
  unfold failures
  rw [List.filterMap_map]
  rfl

theorem answerOf_rename (σ : Token → Token) (messageType : MessageType) (settled : List Settled) :
    answerOf messageType (settled.map (Settled.rename σ)) =
      (answerOf messageType settled).map (Report.rename σ) := by
  unfold answerOf
  rw [failures_rename]
  cases failures settled with
  | nil =>
    have houtcomes : (settled.map (Settled.rename σ)).map (·.outcome) =
        (settled.map (·.outcome)).map (Outcome.rename σ) := by
      rw [List.map_map, List.map_map]
      rfl
    rw [houtcomes]
    rfl
  | cons failure rest => rfl

theorem selected_functional (h : orchestrator.Functional) {registrations : List (Registration A)}
    (hselected : orchestrator.selected request = .ok registrations) (haligned : lanes.Aligned)
    (hown : ∀ key, orchestrator.Touches request key → lanes.own key)
    (send : Request A.Body → Run A Answer) :
    ∀ registration ∈ registrations,
      Visit.Runs { orchestrator, send, registration, request } lanes := by
  intro registration hmem
  refine ⟨haligned, h.gateways, h.wrappers, ?_, fun key htouches => ?_⟩
  · exact h.sagas registration (mem_of_selected hselected registration hmem)
  · exact hown key ⟨registrations, hselected, registration, hmem, htouches⟩

/-- **A delivery is the same in both lanes**, but for tokens. -/
theorem deliver_couples (h : orchestrator.Functional) (haligned : lanes.Aligned)
    (hown : ∀ key, orchestrator.Touches request key → lanes.own key) (nesting : Nat) :
    lanes.Couples (fun answer answer' => answer' = answer.map (Report.rename lanes.rename))
      (orchestrator.deliver nesting request) (orchestrator.deliver nesting request) := by
  have hmatches : lanes.Couples (Matches fun report report' => report' = report.rename lanes.rename)
      (orchestrator.deliver nesting request) (orchestrator.deliver nesting request) := by
    rw [deliver_eq]
    unfold handleWith
    refine .bindLift .beginDelivery fun _ _ _ => .bindLift (.count _) fun _ _ _ => ?_
    refine .bindExcept fun registrations hselected => ?_
    have hruns := selected_functional h hselected haligned hown (orchestrator.below nesting)
    refine (dispatchAll_couples hruns).bindAttempt ?_
    rintro settled _ rfl
    refine .bindLift (.emit _ _) fun _ _ _ => ?_
    rw [answerOf_rename]
    cases answerOf request.message.type settled with
    | ok report => exact .pure (.ok rfl)
    | error error => exact .pure (.error error)
  refine hmatches.mono fun answer answer' hanswers => ?_
  cases hanswers with
  | ok hreport => exact congrArg Except.ok hreport
  | error error => rfl

end Orchestrator

end Sagas
