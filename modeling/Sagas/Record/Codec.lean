import Sagas.Record
import Sagas.Time.Rfc3339

/-!
# The JSON form of records

A record is an object of six fields. Reading ignores further fields and takes a missing or
null token for none; an array of the six values in the order of the fields is read as well.
-/

namespace Sagas.Record

/-- The JSON form of a record. -/
def toJson (record : Record) : Json :=
  .object [("saga_type", .string record.sagaType), ("saga_id", .string record.sagaId),
    ("status", .string record.status.name), ("state", record.state),
    ("concurrency_token", .ofOption record.token),
    ("updated_at", .string (String.ofList (Rfc3339.render record.updatedAt)))]

/-- Reads an optional token. -/
def token? : Json → Option (Option Token)
  | .null => some none
  | .string token => some (some token)
  | _ => none

/-- The record of six JSON values. -/
def ofValues? (sagaType sagaId status state token updatedAt : Json) : Option Record := do
  let sagaType ← sagaType.string?
  let sagaId ← sagaId.string?
  let status ← Status.ofJson? status
  let token ← token? token
  let updatedAt ← Rfc3339.parse? (← updatedAt.string?).toList
  return { sagaType, sagaId, status, state, token, updatedAt }

/-- Reads the JSON form of a record. -/
def ofJson? : Json → Option Record
  | .object fields => do
    ofValues? (← Json.field? fields "saga_type") (← Json.field? fields "saga_id")
      (← Json.field? fields "status") (← Json.field? fields "state")
      ((Json.field? fields "concurrency_token").getD .null) (← Json.field? fields "updated_at")
  | .array [sagaType, sagaId, status, state, token, updatedAt] =>
    ofValues? sagaType sagaId status state token updatedAt
  | _ => none

end Sagas.Record
