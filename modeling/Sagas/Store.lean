import Sagas.Error
import Sagas.Table

/-!
# The store

Records in memory, under optimistic versioning: a save is accepted only if it names the
version that it replaces. Each accepted save gives its record a new token, taken from the
store's supply.
-/

namespace Sagas

/-- Records by key, with the number of accepted saves. -/
structure Store where
  records : Table Key Record
  saves : Nat
  /-- While set, every save fails. -/
  failing : Bool
  /-- The supply of tokens: the `n`-th accepted save issues `mint n`. -/
  mint : Nat → Token

namespace Store

/-- A store without records. -/
def empty (mint : Nat → Token) : Store := ⟨[], 0, false, mint⟩

/-- The stored record of a saga instance. -/
def find? (store : Store) (key : Key) : Option Record := Table.find? key store.records

/-- Whether a save under `key` that expects the version `expected` is up to date: a new
instance expects none, and a stored record must have the very token that is expected. -/
def accepts (store : Store) (key : Key) (expected : Option Token) : Bool :=
  match store.find? key with
  | none => expected.isNone
  | some stored => stored.token.isSome && stored.token == expected

/-- The store after an accepted save. -/
def put (store : Store) (record : Record) : Store :=
  { store with
    records := Table.insert record.toKey
      { record with token := some (store.mint (store.saves + 1)) } store.records
    saves := store.saves + 1 }

/-- Saves a record and answers the token of the stored version. A refused save leaves the
store as it is. -/
def save (record : Record) (store : Store) : Except StoreError Token × Store :=
  if store.failing then (.error (.backend (.text "saga store unavailable")), store)
  else if store.accepts record.toKey record.token then
    (.ok (store.mint (store.saves + 1)), store.put record)
  else
    let actual := (store.find? record.toKey).bind (·.token)
    (.error (.conflict record.toKey record.token actual), store)

end Store

end Sagas
