import Sagas.Proofs.Course

/-!
# What is asked of programs

The conditions on handlers, hooks, wrappers and states under which the theorems about runs
hold. Each is a condition on the values in which a program can end, whatever it does on the
way and whatever its messages are answered.

* `Registration.LeavesTokens`: the token of a state belongs to the engine.
* `Registration.CarriesToken`: a state keeps the token that it was given.
* `Registration.KeepsIds`: a state keeps the id that the creation hook gave it.
* `Registration.SendsAsItself`, `Wrapper.PassesOn`: messages are built by the handlers of their own
  steps, from their contexts.
* `Program.CanEnd.of_bind`: the end of a program in two parts.
-/

namespace Sagas

variable {A : Application} {α β : Type}

/-- Programs of a saga type never set the token of a state, though they may lose it together
with the state; a new state has none, and a state that is given a token keeps it or drops it. -/
structure Registration.LeavesTokens (registration : Registration A) : Prop where
  initial : registration.saga.tokenOf registration.saga.initial = none
  hook : ∀ runner context left result,
    (registration.saga.onCreated runner context).CanEnd (left, result) →
    registration.saga.tokenOf left = registration.saga.tokenOf context.state ∨
      registration.saga.tokenOf left = none
  handler : ∀ message stage handler runner context left result,
    registration.handler? message = some (stage, handler) →
    (handler runner context).CanEnd (left, result) →
    registration.saga.tokenOf left = registration.saga.tokenOf context.state ∨
      registration.saga.tokenOf left = none
  keepsOrDrops : ∀ json state token, registration.saga.decode json = .ok state →
    registration.saga.tokenOf (registration.saga.withToken token state) = token ∨
      registration.saga.tokenOf (registration.saga.withToken token state) = none

/-- A saga type keeps the token that its state is given, and its handlers for a message type do not
change it. -/
structure Registration.CarriesToken (registration : Registration A) (message : MessageType) :
    Prop where
  keeps : ∀ json state token, registration.saga.decode json = .ok state →
    registration.saga.tokenOf (registration.saga.withToken token state) = token
  handler : ∀ stage handler runner context left result,
    registration.handler? message = some (stage, handler) →
    (handler runner context).CanEnd (left, result) →
    registration.saga.tokenOf left = registration.saga.tokenOf context.state

/-- A saga type whose states hold on to their ids. All saga types share one type of states, so
`states` tells those of this saga type: what its programs make of them is one of them again. -/
structure Registration.KeepsIds (registration : Registration A) (states : A.State → Prop) :
    Prop where
  initial : states registration.saga.initial
  /-- The creation hook may give its state any id. -/
  hook : ∀ runner context left result, states context.state →
    (registration.saga.onCreated runner context).CanEnd (left, result) → states left
  /-- A handler leaves the id as it is, however it ends. -/
  handler : ∀ message stage handler runner context left result,
    registration.handler? message = some (stage, handler) → states context.state →
    (handler runner context).CanEnd (left, result) →
    states left ∧ registration.saga.idOf left = registration.saga.idOf context.state
  /-- So does the engine when it fills in a token. -/
  token : ∀ token state, states state → states (registration.saga.withToken token state) ∧
    registration.saga.idOf (registration.saga.withToken token state) =
      registration.saga.idOf state
  /-- What is stored is read back, but perhaps for the token. -/
  roundTrips : ∀ state json, states state → registration.saga.encode state = .ok json →
    ∃ decoded, registration.saga.decode json = .ok decoded ∧
      (decoded = state ∨ ∃ token, decoded = registration.saga.withToken token state)

/-- The message that an answer sends out. -/
def carried {β : Type} : HandlerResult β → Option (Outgoing β)
  | .ok (some transition) => transition.outgoing?
  | _ => none

/-- Nothing is sent out but what the rest of the chain sends out. -/
def Around.PassesOn : Around A → Prop
  | .halt result => carried result = none
  | .enclose after => ∀ result answer, (after result).CanEnd answer →
    carried answer = none ∨ carried answer = carried result

/-- A wrapper answers without a transition, or passes on the one that it was given. Only a context
can build a transition that sends a message, and wrappers see none; but a wrapper may keep the
transition of one step and answer another step with it, and then it does not pass on. -/
def Wrapper.PassesOn : Wrapper A → Prop
  | .tracing | .metrics => True
  | .custom before => ∀ step around, (before step).CanEnd around → around.PassesOn

/-! ## The ends of programs -/

/-- A program in two parts runs one after the other. -/
theorem Program.run_bind (send : Request A.Body → Run A Answer) (program : Program A α)
    (f : α → Program A β) :
    (program >>= f).run send = program.run send >>= fun a => (f a).run send := by
  change (program.bind f).run send = _
  induction program with
  | done value => rfl
  | _ => simp only [bind, run, *, LawfulMonad.bind_assoc]

theorem Program.CanEnd.of_bind {program : Program A α} {f : α → Program A β} {b : β}
    (h : (program >>= f).CanEnd b) : ∃ a, program.CanEnd a ∧ (f a).CanEnd b := by
  obtain ⟨send, w, hrun⟩ := h
  rw [run_bind] at hrun
  exact ⟨(program.run send w).1, ⟨send, w, rfl⟩, send, (program.run send w).2, hrun⟩

theorem Program.CanEnd.of_pure {a b : α} (h : (pure a : Program A α).CanEnd b) : a = b := by
  obtain ⟨send, w, hrun⟩ := h
  exact hrun

end Sagas
