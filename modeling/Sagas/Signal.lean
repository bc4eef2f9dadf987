import Sagas.Error

/-!
# Cancellation signals

A signal is a name for a flag that can be raised once and never lowered. The flags live in
one register, so that everyone who holds the signal sees the same flag. Whoever holds it can
look at the flag, have it checked, or wait for it.

`Handles` is the same thing seen by someone who holds several handles on signals: a clone
of a handle is one more handle on the same signal.
-/

namespace Sagas

/-- A cancellation signal. -/
structure Signal where
  id : Nat
  deriving DecidableEq, Repr

/-- Every signal issued so far, and which of them are cancelled. -/
structure Signals where
  issued : Nat
  cancelled : List Signal
  deriving DecidableEq, Repr

namespace Signals

/-- No signal at all. -/
def empty : Signals := ⟨0, []⟩

/-- The signal that is issued next. -/
def fresh (signals : Signals) : Signal := ⟨signals.issued⟩

/-- The register after one more signal was issued. -/
def issue (signals : Signals) : Signals := { signals with issued := signals.issued + 1 }

/-- The register after a signal was cancelled. -/
def cancel (signal : Signal) (signals : Signals) : Signals :=
  { signals with cancelled := signal :: signals.cancelled }

/-- Whether a signal is cancelled. -/
def isCancelled (signal : Signal) (signals : Signals) : Bool :=
  signals.cancelled.contains signal

/-- Refuses to go on under a signal that is cancelled. -/
def check (signal : Signal) (signals : Signals) : Except SagaError Unit :=
  if signals.isCancelled signal then .error .cancelled else .ok ()

end Signals

/-- A wait for a signal. -/
structure Wait where
  signal : Signal
  /-- Whether a look at the signal has found it cancelled. -/
  ended : Bool
  deriving DecidableEq, Repr

namespace Wait

/-- A wait that has not looked at its signal yet. -/
def start (signal : Signal) : Wait := ⟨signal, false⟩

/-- One look at the register. A wait that has ended is not begun again. -/
def look (signals : Signals) (wait : Wait) : Wait :=
  { wait with ended := wait.ended || signals.isCancelled wait.signal }

end Wait

/-- Handles on signals, oldest first, over the register of the signals. -/
structure Handles where
  signals : Signals
  handles : List Signal
  deriving DecidableEq, Repr

namespace Handles

/-- What the holder of handles can do. -/
inductive Step where
  /-- Issues a signal and keeps a handle on it. -/
  | new
  /-- Makes one more handle on the signal of a handle. -/
  | clone (index : Nat)
  /-- Cancels the signal of a handle. -/
  | cancel (index : Nat)
  deriving DecidableEq, Repr

/-- One handle on a signal that is not cancelled. -/
def initial : Handles := ⟨Signals.empty.issue, [Signals.empty.fresh]⟩

/-- One step. A handle that is not there has no signal to clone or to cancel. -/
def step (held : Handles) : Step → Handles
  | .new => ⟨held.signals.issue, held.handles ++ [held.signals.fresh]⟩
  | .clone index => match held.handles[index]? with
    | some signal => { held with handles := held.handles ++ [signal] }
    | none => held
  | .cancel index => match held.handles[index]? with
    | some signal => { held with signals := held.signals.cancel signal }
    | none => held

/-- The handles after some steps. -/
def run (held : Handles) (steps : List Step) : Handles := steps.foldl step held

/-- For every handle, whether its signal is cancelled. -/
def flags (held : Handles) : List Bool :=
  held.handles.map fun signal => held.signals.isCancelled signal

/-- For every handle, what a check of its signal answers. -/
def checks (held : Handles) : List (Except SagaError Unit) :=
  held.handles.map fun signal => held.signals.check signal

/-- A wait that looks at the register at once and after each of some steps. -/
def watch (held : Handles) (wait : Wait) : List Step → Wait
  | [] => wait.look held.signals
  | step :: steps => (held.step step).watch (wait.look held.signals) steps

/-- For every handle, whether a wait for its signal that begins now and goes on through some steps
has ended after them. -/
def waits (held : Handles) (steps : List Step) : List Bool :=
  held.handles.map fun signal => (held.watch (.start signal) steps).ended

end Handles

end Sagas
