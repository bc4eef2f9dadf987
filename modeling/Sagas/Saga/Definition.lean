import Sagas.Program
import Sagas.Transition

/-!
# Saga definitions

A saga type brings its declarations (which messages it reacts to, in which stage, with
which handler), the correlation of its messages, a creation hook, and the way its state is
stored.
-/

namespace Sagas

/-- What a handler or a creation hook gets to see. -/
structure Context (A : Application) where
  /-- The saga instance; its id is empty while the creation hook runs. -/
  key : Key
  state : A.State
  message : Message A.Body
  correlation : Option String
  causation : Option String
  signal : Signal

/-- A message, as sent out by the step of this context. -/
def Context.outgoing {A : Application} (context : Context A) (message : Message A.Body) :
    Outgoing A.Body where
  message
  key := context.key
  correlation := context.correlation
  causation := context.causation

/-- The code that runs a step: from an instance and a context to the state it leaves and
its answer. The state is left also when the answer is an error. -/
abbrev Handler (A : Application) :=
  Instance → Context A → Program A (A.State × HandlerResult A.Body)

/-- One declaration: messages of a type are handled in a stage. -/
structure Declaration (A : Application) where
  message : MessageType
  stage : Stage
  handler : Handler A

/-- How the messages of a type name the saga instance they belong to. -/
structure Correlation (A : Application) where
  message : MessageType
  sagaId : A.Body → String

/-- A saga type. -/
structure Saga (A : Application) where
  type : SagaType
  declarations : List (Declaration A)
  correlations : List (Correlation A)
  /-- The state of an instance before its creation hook ran. -/
  initial : A.State
  /-- The creation hook: from an instance and a context to the state it leaves. -/
  onCreated : Instance → Context A → Program A (A.State × Except Fault Unit)
  /-- The id that a state holds. -/
  idOf : A.State → String
  /-- The token of the version that a state was loaded from. -/
  tokenOf : A.State → Option Token
  withToken : Option Token → A.State → A.State
  encode : A.State → Except String Json
  decode : Json → Except String A.State

end Sagas
