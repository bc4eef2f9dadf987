import Sagas.Transition

/-!
# The outbox

The messages that were published, oldest first.
-/

namespace Sagas

variable {β : Type}

/-- Published messages. -/
structure Outbox (β : Type) where
  sent : List (Outgoing β)
  /-- While set, nothing can be published. -/
  failing : Bool

namespace Outbox

/-- An outbox without messages. -/
def empty : Outbox β := ⟨[], false⟩

/-- Publishes a message. -/
def publish (outgoing : Outgoing β) (outbox : Outbox β) : Except Fault Unit × Outbox β :=
  if outbox.failing then (.error (.text "message broker unavailable"), outbox)
  else (.ok (), { outbox with sent := outbox.sent ++ [outgoing] })

/-- The number of published messages of a type. -/
def countOf (message : MessageType) (outbox : Outbox β) : Nat :=
  outbox.sent.countP fun outgoing => outgoing.message.type == message

end Outbox

end Sagas
