import Sagas.Text.Quoted

/-!
# Saga types and their instances

A saga type is known by its identity. Its name is the namespace of its records and what
texts show; two saga types may share a name.
-/

namespace Sagas

/-- The key of a saga type. -/
structure SagaType where
  id : Nat
  name : String
  deriving DecidableEq, Repr

/-- The inspected form; identities are not shown. -/
def SagaType.inspect (type : SagaType) : String :=
  "SagaType \x7b id: TypeId(_), name: " ++ Text.quote type.name ++ " \x7d"

/-- An object that runs the handlers of the saga type with identity `type`. Different
objects have different serial numbers. -/
structure Instance where
  type : Nat
  serial : Nat
  deriving DecidableEq, Repr

end Sagas
