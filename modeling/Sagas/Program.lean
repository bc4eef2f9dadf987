import Sagas.Message
import Sagas.Report
import Sagas.Signal

/-!
# Programs

Everything that an application supplies (handlers, creation hooks, wrappers, resolvers) is
a program: a tree of effects whose branches are the answers to each effect. A program sees
the application's own environment and the cancellation signals, and it can send messages
through the orchestrator that runs it. It cannot reach the store, the outbox, or the
counters and events of the engine.

Programs form a lawful monad.
-/

namespace Sagas

/-- A message on its way in, with the ids of its envelope. -/
structure Request (β : Type) where
  message : Message β
  correlation : Option String
  causation : Option String
  signal : Signal
  /-- The only saga type to run; none runs every one that reacts to the message. -/
  target : Option SagaType

/-- The types that an application brings: what messages carry, what sagas remember, what
its programs share, and what they write into the journal. -/
structure Application where
  Body : Type
  State : Type
  Env : Type
  Note : Type

/-- A tree of effects that ends in values of type `α`. -/
inductive Program (A : Application) (α : Type) : Type where
  | done (value : α)
  /-- Changes the environment and reads it. -/
  | update (change : A.Env → A.Env) (next : A.Env → Program A α)
  /-- Writes into the journal. -/
  | note (entry : A.Note) (next : Program A α)
  | newSignal (next : Signal → Program A α)
  | cancel (signal : Signal) (next : Program A α)
  | isCancelled (signal : Signal) (next : Bool → Program A α)
  /-- Draws the serial number of a new instance. -/
  | newInstance (next : Nat → Program A α)
  /-- Sends a message through the orchestrator that runs the program. -/
  | send (request : Request A.Body) (next : Answer → Program A α)

namespace Program

variable {A : Application} {α β : Type}

/-- The program that goes on with `f` wherever the first one ends. -/
def bind (f : α → Program A β) : Program A α → Program A β
  | done value => f value
  | update change next => update change fun env => (next env).bind f
  | note entry next => note entry (next.bind f)
  | newSignal next => newSignal fun signal => (next signal).bind f
  | cancel signal next => cancel signal (next.bind f)
  | isCancelled signal next => isCancelled signal fun flag => (next flag).bind f
  | newInstance next => newInstance fun serial => (next serial).bind f
  | send request next => send request fun answer => (next answer).bind f

instance : Monad (Program A) where
  pure := done
  bind program f := program.bind f

theorem bind_done (program : Program A α) : program.bind done = program := by
  induction program <;> simp only [bind, *]

theorem bind_assoc {γ : Type} (program : Program A α) (f : α → Program A β)
    (g : β → Program A γ) : (program.bind f).bind g = program.bind fun a => (f a).bind g := by
  induction program <;> simp only [bind, *]

instance : LawfulMonad (Program A) :=
  LawfulMonad.mk' _ bind_done (fun _ _ => rfl) bind_assoc

/-- Reads the environment. -/
def read : Program A A.Env := update id done

/-- Changes the environment. -/
def modify (change : A.Env → A.Env) : Program A Unit := update change fun _ => done ()

/-- Writes into the journal. -/
def log (entry : A.Note) : Program A Unit := note entry (done ())

end Program

end Sagas
