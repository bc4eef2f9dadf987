import Sagas.Error
import Sagas.Saga.Type
import Sagas.Time.Duration

/-!
# Reports

What a delivery tells its caller: one outcome for each saga that handled the message, and
the redeliveries that the sagas asked for.
-/

namespace Sagas

/-- A redelivery that the transport should schedule. Deliver the message again to `saga`
only, so that sagas that already handled it do not run twice. -/
structure RetryRequest where
  saga : SagaType
  sagaId : String
  /-- None asks for a redelivery at once. -/
  delay : Option Duration
  error : Option Fault
  deriving DecidableEq, Repr

/-- What happened to one saga for one message. -/
structure Outcome where
  key : Key
  stage : Stage
  kind : TransitionKind
  /-- Whether an outgoing message was handed to the outbox. -/
  published : Bool
  /-- The token of the version that the step saved; a retry saves none. -/
  token : Option Token
  /-- The redelivery that a retry asks for. -/
  retry : Option RetryRequest
  deriving DecidableEq, Repr

/-- The result of a delivery that no error ended. -/
structure Report where
  messageType : MessageType
  outcomes : List Outcome
  deriving DecidableEq, Repr

namespace Report

/-- Whether any registered saga handled the message. -/
def isRelevant (report : Report) : Bool := !report.outcomes.isEmpty

/-- The outcome of a saga type, the first of that name. -/
def outcomeFor (report : Report) (sagaType : String) : Option Outcome :=
  report.outcomes.find? fun outcome => outcome.key.sagaType == sagaType

/-- Every redelivery that the transport should schedule. -/
def retryRequests (report : Report) : List RetryRequest :=
  report.outcomes.filterMap (·.retry)

end Report

/-- What the caller of a delivery gets. -/
abbrev Answer := Except SagaError Report

end Sagas
