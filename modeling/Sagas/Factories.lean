import Sagas.Program
import Sagas.Table

/-!
# Factories

Where saga instances come from: for each saga type either a fresh instance every time or
always the same one. Of several registrations for a type the last one counts.
-/

namespace Sagas

variable {A : Application}

/-- Where the instances of a saga type come from. -/
inductive Factory where
  /-- A new instance every time. -/
  | fresh
  /-- Always this instance. -/
  | shared (one : Instance)
  deriving DecidableEq, Repr

/-- The factory of each saga type, by identity. -/
abbrev Factories := Table Nat Factory

namespace Factories

/-- The table with a factory for a saga type. -/
def register (saga : SagaType) (factory : Factory) (factories : Factories) : Factories :=
  Table.insert saga.id factory factories

/-- Whether a saga type has a factory. -/
def contains (saga : SagaType) (factories : Factories) : Bool :=
  Table.contains saga.id factories

/-- An instance of a saga type. -/
def resolve (factories : Factories) (saga : SagaType) : Program A (Except Fault Instance) :=
  match Table.find? saga.id factories with
  | none => return .error (.text s!"no factory registered for saga {saga.name}")
  | some .fresh => .newInstance fun serial => return .ok ⟨saga.id, serial⟩
  | some (.shared one) => return .ok one

/-- The inspected form. -/
def inspect (factories : Factories) : String :=
  "SagaFactories \x7b factories: " ++ toString factories.length ++ " \x7d"

end Factories

end Sagas
