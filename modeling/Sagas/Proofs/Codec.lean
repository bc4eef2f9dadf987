import Sagas.Proofs.Stamps
import Sagas.Record.Codec

/-!
# Records that read back

The JSON form of a record can be spelled in many ways: as an object with its fields in any order and
among others, without a token, or with the stamp of a clock anywhere on earth. All of these are read
as one record, which is written in one way only, and that reads back.

* `ofJson?_eq_some_iff`: what is read as a record, exactly.
* `ofJson?_toJson`: what is written reads back.
* `Record.Spelled`: a record as anybody may spell it.
* `json_round_trip`: writing and reading, reading and writing.
-/

namespace Sagas

variable {json : Json} {record : Record}

theorem Json.string?_eq_some_iff {text : String} :
    json.string? = some text ↔ json = .string text := by
  cases json <;> simp [Json.string?]

/-- **The two spellings of a status**: its name, or an object with that name alone. -/
theorem Status.ofJson?_eq_some_iff {status : Status} : Status.ofJson? json = some status ↔
    json = .string status.name ∨ json = .object [(status.name, .null)] := by
  have hname : ∀ name, ofName? name = some status ↔ status.name = name := by
    intro name
    constructor
    · intro hfound
      simpa using List.find?_some hfound
    · rintro rfl
      cases status <;> rfl
  have hconstant : ∀ name, json.constant? = some name ↔
      json = .string name ∨ json = .object [(name, .null)] := by
    intro name
    unfold Json.constant?
    split
    · simp
    · simp
    · rename_i hstring hobject
      constructor
      · simp
      · rintro (rfl | rfl)
        · exact absurd rfl (hstring name)
        · exact absurd rfl (hobject name)
  unfold ofJson?
  simp only [Option.bind_eq_some_iff, hconstant, hname]
  simp

namespace Record

theorem token?_eq_some_iff {token : Option Token} :
    token? json = some token ↔ json = .ofOption token := by
  cases json <;> cases token <;> simp [token?, Json.ofOption, eq_comm]

/-- The years in which an instant is written with four digits. -/
def InRange (record : Record) : Prop :=
  0 ≤ record.updatedAt.date.year ∧ record.updatedAt.date.year ≤ 9999

/-- **Six values that make a record.** -/
structure ValuesOf (sagaType sagaId status state token updatedAt : Json) (record : Record) :
    Prop where
  sagaType : sagaType = .string record.sagaType
  sagaId : sagaId = .string record.sagaId
  status : status = .string record.status.name ∨ status = .object [(record.status.name, .null)]
  state : state = record.state
  token : token = .ofOption record.token
  updatedAt : ∃ stamp, updatedAt = .string stamp ∧
    Rfc3339.parse? stamp.toList = some record.updatedAt

theorem ofValues?_eq_some_iff {sagaType sagaId status state token updatedAt : Json} :
    ofValues? sagaType sagaId status state token updatedAt = some record ↔
      ValuesOf sagaType sagaId status state token updatedAt record := by
  unfold ofValues?
  simp only [Option.bind_eq_bind, Option.bind_eq_some_iff, Json.string?_eq_some_iff,
    Status.ofJson?_eq_some_iff, token?_eq_some_iff]
  constructor
  · rintro ⟨_, rfl, _, rfl, _, hstatus, _, rfl, stamp, rfl, _, hstamp, hrecord⟩
    cases hrecord
    exact ⟨rfl, rfl, hstatus, rfl, rfl, stamp, rfl, hstamp⟩
  · rintro ⟨rfl, rfl, hstatus, rfl, rfl, stamp, rfl, hstamp⟩
    exact ⟨_, rfl, _, rfl, _, hstatus, _, rfl, stamp, rfl, _, hstamp, rfl⟩

/-- **What is a record in JSON**: an object of its fields, where the token may be missing and there
may be more, or the array of their values. -/
inductive Encodes (record : Record) : Json → Prop where
  | object {fields sagaType sagaId status state updatedAt} :
      Json.field? fields "saga_type" = some sagaType → Json.field? fields "saga_id" = some sagaId →
      Json.field? fields "status" = some status → Json.field? fields "state" = some state →
      Json.field? fields "updated_at" = some updatedAt →
      ValuesOf sagaType sagaId status state
        ((Json.field? fields "concurrency_token").getD .null) updatedAt record →
      Encodes record (.object fields)
  | array {sagaType sagaId status state token updatedAt} :
      ValuesOf sagaType sagaId status state token updatedAt record →
      Encodes record (.array [sagaType, sagaId, status, state, token, updatedAt])

/-- **The reader** takes just that. -/
theorem ofJson?_eq_some_iff : ofJson? json = some record ↔ Encodes record json := by
  constructor
  · intro h
    unfold ofJson? at h
    split at h
    · rename_i fields
      simp only [Option.bind_eq_bind, Option.bind_eq_some_iff, ofValues?_eq_some_iff] at h
      obtain ⟨_, hsagaType, _, hsagaId, _, hstatus, _, hstate, _, hupdatedAt, hvalues⟩ := h
      exact .object hsagaType hsagaId hstatus hstate hupdatedAt hvalues
    · exact .array (ofValues?_eq_some_iff.1 h)
    · cases h
  · intro h
    cases h with
    | object hsagaType hsagaId hstatus hstate hupdatedAt hvalues =>
      simp only [ofJson?, hsagaType, hsagaId, hstatus, hstate, hupdatedAt, Option.bind_eq_bind,
        Option.bind_some]
      exact ofValues?_eq_some_iff.2 hvalues
    | array hvalues => exact ofValues?_eq_some_iff.2 hvalues

/-! ## Writing and reading -/

/-- **What is written reads back**, in the years of four digits. -/
theorem ofJson?_toJson (h : record.InRange) : ofJson? record.toJson = some record := by
  rw [ofJson?_eq_some_iff]
  refine .object rfl rfl rfl rfl rfl ⟨rfl, rfl, .inl rfl, rfl, rfl, _, rfl, ?_⟩
  rw [String.toList_ofList]
  exact Rfc3339.parse?_render h.1 h.2

/-- **A record as anybody may spell it**: the fields in any order and among others, the status in
either spelling, the token missing or null if there is none, and the stamp of some clock. -/
structure Spelled (record : Record) (fields : List (String × Json)) : Prop where
  sagaType : Json.field? fields "saga_type" = some (.string record.sagaType)
  sagaId : Json.field? fields "saga_id" = some (.string record.sagaId)
  status : Json.field? fields "status" = some (.string record.status.name) ∨
    Json.field? fields "status" = some (.object [(record.status.name, .null)])
  state : Json.field? fields "state" = some record.state
  token : (Json.field? fields "concurrency_token").getD .null = .ofOption record.token
  updatedAt : ∃ stamp, Json.field? fields "updated_at" = some (.string stamp) ∧
    Rfc3339.Shows record.updatedAt stamp.toList

theorem Spelled.encodes {fields : List (String × Json)} (h : record.Spelled fields) :
    Encodes record (.object fields) := by
  obtain ⟨stamp, hfield, hshows⟩ := h.updatedAt
  have hstamp : ∃ text, Json.string stamp = .string text ∧
      Rfc3339.parse? text.toList = some record.updatedAt := ⟨stamp, rfl, hshows.parse?_eq⟩
  rcases h.status with hstatus | hstatus
  · exact .object h.sagaType h.sagaId hstatus h.state hfield
      ⟨rfl, rfl, .inl rfl, rfl, h.token, hstamp⟩
  · exact .object h.sagaType h.sagaId hstatus h.state hfield
      ⟨rfl, rfl, .inr rfl, rfl, h.token, hstamp⟩

/-- **The JSON form of records reads back.** Whatever is written for a record is read as that
record; whatever is read as a record is written so that it is read as the same one, which is then
written the same; and whatever spells a record is read as it. -/
theorem json_round_trip :
    (∀ record : Record, record.InRange → ofJson? record.toJson = some record) ∧
    (∀ json record, ofJson? json = some record → record.InRange →
      ofJson? record.toJson = some record ∧
        (ofJson? record.toJson).map toJson = some record.toJson) ∧
    ∀ (record : Record) fields, record.Spelled fields →
      ofJson? (.object fields) = some record := by
  refine ⟨fun record hrange => ofJson?_toJson hrange, fun json record _ hrange => ?_,
    fun record fields hspelled => ofJson?_eq_some_iff.2 hspelled.encodes⟩
  have hread := ofJson?_toJson hrange
  exact ⟨hread, by rw [hread]; rfl⟩

/-- A record of a leap day, spelled by a clock for which it is March already. -/
theorem json_round_trip_leap_day :
    let record : Record := {
      sagaType := "Order", sagaId := "o-1", status := .active
      state := .object [("amount", .int 3)], token := none
      updatedAt := ⟨⟨2024, 2, 29, by decide⟩, ⟨23, 30, 0, 500000000, by decide⟩⟩ }
    let fields : List (String × Json) := [("note", .bool true),
      ("updated_at", .string "2024-03-01T00:30:00.50+01:00"), ("state", record.state),
      ("status", .object [("Active", .null)]), ("saga_id", .string "o-1"),
      ("saga_type", .string "Order")]
    record.InRange ∧ record.Spelled fields ∧ ofJson? (.object fields) = some record ∧
      ofJson? record.toJson = some record ∧
        (ofJson? record.toJson).map toJson = some record.toJson := by
  intro record fields
  obtain ⟨hwritten, hread, hspells⟩ := json_round_trip
  have hrange : record.InRange := ⟨by decide, by decide⟩
  let shown : Instant := ⟨⟨2024, 3, 1, by decide⟩, ⟨0, 30, 0, 500000000, by decide⟩⟩
  have hclock : Rfc3339.Shows record.updatedAt "2024-03-01T00:30:00.50+01:00".toList := by
    have hstamp : "2024-03-01T00:30:00.50+01:00".toList =
        Rfc3339.clockText shown ['5', '0'] ++ Rfc3339.offsetText 60 := by decide +kernel
    rw [hstamp]
    have hdigits : ∀ c ∈ ['5', '0'], Text.isDigit c = true :=
      List.forall_mem_cons.2 ⟨rfl, List.forall_mem_singleton.2 rfl⟩
    exact .clock (by decide) (by decide) (by decide +kernel) (by decide) (by decide) hdigits
      (by decide +kernel)
  have hspelled : record.Spelled fields :=
    ⟨rfl, rfl, .inr rfl, rfl, rfl, _, rfl, hclock⟩
  have hobject := hspells record fields hspelled
  exact ⟨hrange, hspelled, hobject, hread _ record hobject hrange⟩

end Record

end Sagas
