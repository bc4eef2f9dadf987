import Sagas.Proofs.Replay
import Sagas.Proofs.Walk

/-!
# Runs

A run is a list of moves: messages that come in, and what happens between them. What can
happen between deliveries is up to the callers and the world outside: signals are issued and
cancelled, time goes by, the store or the outbox breaks down and recovers. The store is
written by deliveries only.

* `perform_across`: one move is a passage of whole attempts, for every relation that deliveries
  satisfy and that what happens between them keeps.
* `follow_across`: so is a run, by induction on its moves.
* `Ran.course`, `Ran.answers`: what an entry of the history tells about its attempt and about
  the store of its moment.
-/

namespace Sagas

variable {A : Application}

/-- What happens next in a run. -/
inductive Move (A : Application) where
  /-- A message comes in; those that programs send are followed down to a limit. -/
  | deliver (nesting : Nat) (request : Request A.Body)
  /-- Callers change what programs see. -/
  | prepare (change : Surroundings A → Surroundings A)
  /-- Time goes by. -/
  | wait (now : Instant)
  | failSaves (failing : Bool)
  | failPublishes (failing : Bool)

namespace Orchestrator

/-- The world after one move. -/
def perform (orchestrator : Orchestrator A) (w : World A) : Move A → World A
  | .deliver nesting request => (orchestrator.deliver nesting request w).2
  | .prepare change => { w with toSurroundings := change w.toSurroundings }
  | .wait now => { w with clock := now }
  | .failSaves failing => { w with store := w.store.flag failing }
  | .failPublishes failing => { w with outbox := { w.outbox with failing } }

/-- The world after some moves. -/
def follow (orchestrator : Orchestrator A) (moves : List (Move A)) (w : World A) : World A :=
  moves.foldl orchestrator.perform w

end Orchestrator

/-- Store and outbox are in step with the entries made between two worlds, but for their
flags, which change between deliveries. -/
structure Told (w : World A) (es : List (Entry A)) (w' : World A) : Prop where
  store : ∃ failing, w'.store = (w.store.replay es).flag failing
  sent : w'.outbox.sent = w.outbox.sent ++ messages es
  bears : w.store.Bears es

theorem Kept.told {w w' : World A} {es : List (Entry A)} (h : Kept w es w') : Told w es w' :=
  ⟨⟨w'.store.failing, by rw [← h.store]; rfl⟩, by rw [h.outbox], h.bears⟩

theorem Told.trans {w w' w'' : World A} {es es' : List (Entry A)} (h : Told w es w')
    (h' : Told w' es' w'') : Told w (es ++ es') w'' := by
  obtain ⟨failing, hstore⟩ := h.store
  obtain ⟨failing', hstore'⟩ := h'.store
  refine ⟨⟨failing', ?_⟩, ?_, ?_⟩
  · rw [hstore', hstore, Store.replay_flag, Store.replay_append]
    rfl
  · rw [h'.sent, h.sent, messages_append, List.append_assoc]
  · -- what an answer tells does not depend on the flag
    have hbears := h'.bears
    rw [hstore, Store.bears_flag] at hbears
    exact h.bears.append hbears

/-- Store and outbox are as they were, but for their flags. -/
def Undisturbed (w w' : World A) : Prop :=
  (∃ failing, w'.store = w.store.flag failing) ∧ w'.outbox.sent = w.outbox.sent

theorem Undisturbed.told {w w' : World A} (h : Undisturbed w w') : Told w [] w' :=
  ⟨h.1, by simp [h.2, messages], trivial⟩

variable {orchestrator : Orchestrator A} {R : World A → List (Entry A) → World A → Prop}

/-- The gateways in memory keep store and outbox in step with the history. -/
theorem Orchestrator.InMemory.told (h : orchestrator.InMemory) : Law orchestrator.gateways Told where
  still hs ho hc := (h.law.still hs ho hc).told
  trans := Told.trans
  plain w event hplain := (h.law.plain w event hplain).told
  cancel w signal := (h.law.cancel w signal).told
  load w key signal := (h.law.load w key signal).told
  save w record signal := (h.law.save w record signal).told
  publish w outgoing signal := (h.law.publish w outgoing signal).told

section

variable (hR : Law orchestrator.gateways R)
  (houtside : ∀ {w w' : World A}, Undisturbed w w' → R w [] w')
include hR houtside

/-- **One move is a passage of whole attempts.** -/
theorem perform_across (w : World A) (move : Move A) :
    ∃ es, Across orchestrator.Course R w es (orchestrator.perform w move) := by
  have hsame : ∃ failing, w.store = w.store.flag failing := ⟨w.store.failing, rfl⟩
  cases move with
  | deliver nesting request =>
    obtain ⟨es, hes, -⟩ := Orchestrator.deliver_yields hR nesting request w
    exact ⟨es, hes⟩
  | prepare change => exact ⟨[], .quiet rfl rfl id rfl (houtside ⟨hsame, rfl⟩)⟩
  | wait now => exact ⟨[], .quiet rfl rfl id rfl (houtside ⟨hsame, rfl⟩)⟩
  | failSaves failing => exact ⟨[], .quiet rfl rfl id rfl (houtside ⟨⟨failing, rfl⟩, rfl⟩)⟩
  | failPublishes failing => exact ⟨[], .quiet rfl rfl id rfl (houtside ⟨hsame, rfl⟩)⟩

/-- **A run is a passage of whole attempts.** -/
theorem follow_across (moves : List (Move A)) (w : World A) :
    ∃ es, Across orchestrator.Course R w es (orchestrator.follow moves w) := by
  induction moves generalizing w with
  | nil => exact ⟨[], .quiet rfl rfl id rfl (houtside ⟨⟨w.store.failing, rfl⟩, rfl⟩)⟩
  | cons move moves ih =>
    obtain ⟨es, hes⟩ := perform_across hR houtside w move
    obtain ⟨es', hes'⟩ := ih (orchestrator.perform w move)
    exact ⟨es ++ es', hes.trans hR.trans hes'⟩

end

/-! ## The history of a run -/

/-- A world to which the moves of an orchestrator lead from a start at which nothing has
happened yet. -/
def Ran (orchestrator : Orchestrator A) (start : Resources A) (w : World A) : Prop :=
  Across orchestrator.Course Told (World.ofResources start) w.history w

theorem follow_ran (hmemory : orchestrator.InMemory) (start : Resources A)
    (moves : List (Move A)) :
    Ran orchestrator start (orchestrator.follow moves (World.ofResources start)) := by
  obtain ⟨es, hes⟩ := follow_across hmemory.told Undisturbed.told moves (World.ofResources start)
  have hhistory := hes.history
  rw [show (World.ofResources start).history = [] from rfl, List.nil_append] at hhistory
  unfold Ran
  rw [hhistory]
  exact hes

namespace Ran

variable {start : Resources A} {w : World A} {before after : List (Entry A)} {entry : Entry A}

/-- An entry of the engine belongs to an attempt that ran its course. -/
theorem course_of_mem (h : Ran orchestrator start w) (hmem : entry ∈ w.history)
    (he : entry.event.isEngine = true) :
    orchestrator.Course (eventsOf entry.attempt w.history) := by
  obtain ⟨-, hlow, hhigh⟩ := Across.place h entry hmem he
  exact Across.courses h entry.attempt hlow hhigh

theorem course (h : Ran orchestrator start w) (hs : w.history = before ++ entry :: after)
    (he : entry.event.isEngine = true) :
    orchestrator.Course
      (eventsOf entry.attempt before ++ entry.event :: eventsOf entry.attempt after) := by
  have hmem : entry ∈ w.history := by
    rw [hs]
    exact List.mem_append_right _ List.mem_cons_self
  have hcourse := h.course_of_mem hmem he
  rw [hs, eventsOf_split he] at hcourse
  exact hcourse

theorem answers (h : Ran orchestrator start w) (hs : w.history = before ++ entry :: after) :
    (start.store.replay before).Answers entry.event := by
  have hbears : start.store.Bears w.history := (Across.law h).bears
  rw [hs] at hbears
  exact hbears.answers

theorem bears (h : Ran orchestrator start w) : start.store.Bears w.history :=
  (Across.law h).bears

theorem paired (h : Ran orchestrator start w) : Paired w.history := Across.paired h

/-- The store of a run is the one that its history tells, but for its flag. -/
theorem store (h : Ran orchestrator start w) :
    ∃ failing, w.store = (start.store.replay w.history).flag failing :=
  (Across.law h).store

theorem find? (h : Ran orchestrator start w) (key : Key) :
    w.store.find? key = (start.store.replay w.history).find? key := by
  obtain ⟨failing, hstore⟩ := h.store
  rw [hstore]
  rfl

theorem sent (h : Ran orchestrator start w) :
    w.outbox.sent = start.outbox.sent ++ messages w.history :=
  (Across.law h).sent

end Ran

end Sagas
