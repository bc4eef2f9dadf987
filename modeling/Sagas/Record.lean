import Sagas.Lifecycle
import Sagas.Time.Instant

/-!
# Records

What is stored about one saga instance.
-/

namespace Sagas

/-- The version token of a stored record. Every successful save issues a new one. -/
abbrev Token := String

/-- The key of a record: the name of its saga type and the id of its instance. -/
structure Key where
  sagaType : String
  sagaId : String
  deriving DecidableEq, Repr

/-- A stored saga instance. On the way in, the token is the one of the version to replace,
none for a new instance; on the way out, the one of the stored version. -/
structure Record extends Key where
  status : Status
  state : Json
  token : Option Token
  updatedAt : Instant

end Sagas
