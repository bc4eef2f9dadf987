import Sagas.Text.Quoted

/-!
# Messages and their types

A message is routed by its type. The type's name is a path with generic arguments, such as
`shop::Envelope<shop::Order>`; texts show it without the path in front.
-/

namespace Sagas

/-- The routing key of a message: an identity and a full name. -/
structure MessageType where
  id : Nat
  name : String
  deriving DecidableEq, Repr

/-- What follows the last `::` of a name, counting only what stands before the first `<`. -/
def afterPath? : List Char → Option (List Char)
  | [] => none
  | c :: rest =>
    if c = '<' then none
    else match afterPath? rest with
      | some tail => some tail
      | none => match rest with
        | d :: tail => if c = ':' ∧ d = ':' then some tail else none
        | [] => none

/-- A name without its leading path. -/
def withoutPath (name : List Char) : List Char := (afterPath? name).getD name

/-- The name of a message type as texts show it. -/
def MessageType.shortName (type : MessageType) : String :=
  String.ofList (withoutPath type.name.toList)

/-- The inspected form; identities are not shown. -/
def MessageType.inspect (type : MessageType) : String :=
  "MessageType \x7b id: TypeId(_), name: " ++ Text.quote type.name ++ " \x7d"

/-- A message with a body of type `β`. -/
structure Message (β : Type) where
  type : MessageType
  body : β
  deriving DecidableEq, Repr

end Sagas
