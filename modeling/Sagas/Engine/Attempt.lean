import Sagas.Engine.World

/-!
# Attempts

Computations in a world that may end in an error. What they did to the world before the
error stays done.
-/

namespace Sagas

variable {A : Application} {α : Type}

/-- A computation in a world that may end in an error. -/
abbrev Attempt (A : Application) := ExceptT SagaError (Run A)

/-- A computation without errors as an attempt. -/
def Attempt.lift (run : Run A α) : Attempt A α := ExceptT.lift run

/-- A result as an attempt. -/
def Attempt.ofExcept (result : Except SagaError α) : Attempt A α := ExceptT.mk (pure result)

/-- Ends in an error if something is the case. -/
def Attempt.refuse (condition : Bool) (error : SagaError) : Attempt A Unit :=
  Attempt.ofExcept (if condition then .error error else .ok ())

/-- Ends in an error if the signal is cancelled. -/
def checkSignal (signal : Signal) : Attempt A Unit := do
  let world ← Attempt.lift get
  Attempt.ofExcept (world.signals.check signal)

end Sagas
