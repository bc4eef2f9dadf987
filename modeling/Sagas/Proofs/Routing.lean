import Sagas.Proofs.Scripts
import Sagas.Proofs.Validity

/-!
# The directory as a scan

A directory keeps two indexes beside its registrations. Whatever saga types are asked to be
registered, alone or in modules, the indexes say what a scan of the registrations says, and the
registrations are those of the saga types that were accepted, each once.

* `Directory.Indexed`, `Directory.Indexed.add`: what a registration keeps of the indexes.
* `Directory.Reached`: the directories that come about, with the answers on the way.
* `Directory.Reached.registrations_eq`: what is registered.
* `directory_scans`: every answer of a directory, for every history.
-/

namespace Sagas

variable {A : Application}

/-- The entries at the positions of the matches are the matches. -/
theorem filterMap_findIdxs {α : Type} (p : α → Bool) (xs : List α) :
    (xs.findIdxs p).filterMap (xs[·]?) = xs.filter p := by
  have hentry : ∀ entry ∈ xs.zipIdx,
      (bif p entry.1 then some entry.2 else none).bind (xs[·]?) =
        Option.guard p entry.1 := by
    rintro ⟨x, position⟩ hmem
    have hfound : xs[position]? = some x := List.mem_zipIdx_iff_getElem?.1 hmem
    cases hx : p x <;> simp [Option.guard, hx, hfound]
  rw [List.findIdxs_eq_filterMap_zipIdx, List.filterMap_filterMap, List.filterMap_congr hentry]
  conv_rhs => rw [← List.zipIdx_map_fst 0 xs, ← List.filterMap_eq_filter, List.filterMap_map]
  rfl

namespace Directory

variable {directory : Directory A} {registration : Registration A} {position : Nat}
  {message : MessageType} {messages : List MessageType} {index : Table MessageType (List Nat)}

/-! ## The indexes -/

theorem find?_indexAt (hnodup : messages.Nodup) :
    (Table.find? message (indexAt position messages index)).getD [] =
      (Table.find? message index).getD [] ++ if message ∈ messages then [position] else [] := by
  unfold indexAt
  induction messages generalizing index with
  | nil => simp
  | cons first rest ih =>
    obtain ⟨hfirst, hrest⟩ := List.nodup_cons.1 hnodup
    rw [List.foldl_cons, ih hrest, Table.find?_insert]
    by_cases hsame : message = first
    · subst hsame
      simp [hfirst]
    · simp [hsame]

/-- Both indexes say what a scan of the registrations says. -/
structure Indexed (directory : Directory A) : Prop where
  bySaga : ∀ id, Table.find? id directory.bySaga =
    directory.registrations.findIdx? (·.saga.type.id == id)
  byMessage : ∀ message, (Table.find? message directory.byMessage).getD [] =
    directory.registrations.findIdxs (·.capabilities.reactsTo message)

namespace Indexed

theorem find?_eq (h : directory.Indexed) (saga : SagaType) :
    directory.find? saga = directory.registrations.find? (·.saga.type.id == saga.id) := by
  rw [find?, h.bySaga, List.find?_eq_bind_findIdx?_getElem?]

theorem contains_eq (h : directory.Indexed) (saga : SagaType) :
    directory.contains saga = (directory.find? saga).isSome := by
  rw [contains, Table.contains, h.bySaga, h.find?_eq, List.findIdx?_isSome, List.isSome_find?]

theorem matching_eq (h : directory.Indexed) (message : MessageType) :
    directory.matching message =
      directory.registrations.filter (·.capabilities.reactsTo message) := by
  rw [matching, h.byMessage, filterMap_findIdxs]

/-- **Each new registration keeps the indexes.** -/
theorem add (h : directory.Indexed) (hnew : directory.find? registration.saga.type = none) :
    (directory.add registration).Indexed := by
  constructor
  · intro id
    change Table.find? id (Table.insert _ _ _) = List.findIdx? _ (_ ++ [registration])
    rw [Table.find?_insert, h.bySaga, List.findIdx?_append]
    by_cases hid : id = registration.saga.type.id
    · -- nobody else has the identity of the new one
      rw [h.find?_eq, List.find?_eq_bind_findIdx?_getElem?] at hnew
      have hnone : directory.registrations.findIdx? (·.saga.type.id == registration.saga.type.id) =
          none := by
        rw [List.findIdx?_eq_none_iff]
        rw [← List.find?_eq_bind_findIdx?_getElem?, List.find?_eq_none] at hnew
        exact fun other hother => by simpa using hnew other hother
      simp [hid, hnone]
    · simp [hid, Ne.symm hid]
  · intro message
    change (Table.find? message (indexAt _ _ _)).getD [] = List.findIdxs _ (_ ++ [registration])
    have hnodup : registration.capabilities.messageTypes.Nodup := nodup_eraseDups _
    rw [find?_indexAt hnodup, h.byMessage, List.findIdxs_append,
      List.findIdxs_singleton, Nat.zero_add]
    simp only [Capabilities.mem_messageTypes_iff]

end Indexed

/-! ## Histories -/

/-- What a saga type is answered that asks to be registered. -/
abbrev Logged (A : Application) := Saga A × Except SagaError Capabilities

/-- The directories that come about, with the answers on the way, oldest first. -/
inductive Reached : Directory A → List (Logged A) → Prop
  | empty : Reached empty []
  | register {directory : Directory A} {log : List (Logged A)} (h : Reached directory log)
      (saga : Saga A) :
      Reached (directory.register saga).1 (log ++ [(saga, (directory.register saga).2)])

/-- The saga types that were accepted. -/
def accepted (log : List (Logged A)) : List (Saga A) :=
  (log.filter fun entry => entry.2.isOk).map (·.1)

/-- Each saga type once, where it came in first. -/
def firstOfEach : List (Saga A) → List (Saga A)
  | [] => []
  | saga :: rest => saga :: (firstOfEach rest).filter fun other => other.type.id != saga.type.id

theorem firstOfEach_append_singleton (sagas : List (Saga A)) (saga : Saga A) :
    firstOfEach (sagas ++ [saga]) =
      firstOfEach sagas ++ if saga.type.id ∈ sagas.map (·.type.id) then [] else [saga] := by
  induction sagas with
  | nil => rfl
  | cons first rest ih =>
    rw [List.cons_append, firstOfEach, ih, firstOfEach, List.filter_append, List.cons_append]
    by_cases hrest : saga.type.id ∈ rest.map (·.type.id)
    · simp [hrest]
    · by_cases hfirst : saga.type.id = first.type.id
      · simp [hfirst]
      · simp [hrest, hfirst]

theorem mem_map_id_firstOfEach {sagas : List (Saga A)} {id : Nat} :
    id ∈ (firstOfEach sagas).map (·.type.id) ↔ id ∈ sagas.map (·.type.id) := by
  induction sagas with
  | nil => rfl
  | cons first rest ih =>
    simp only [firstOfEach, List.map_cons, List.mem_cons, ← ih]
    by_cases hid : id = first.type.id
    · simp [hid]
    · simp only [hid, false_or, List.mem_map, List.mem_filter]
      constructor
      · rintro ⟨saga, ⟨hsaga, -⟩, rfl⟩
        exact ⟨saga, hsaga, rfl⟩
      · rintro ⟨saga, hsaga, rfl⟩
        exact ⟨saga, ⟨hsaga, by simpa using hid⟩, rfl⟩

/-! ### One registration -/

variable {saga : Saga A} {log : List (Logged A)}

theorem register_of_find? (h : directory.find? saga.type = some registration) :
    directory.register saga = (directory, .ok registration.capabilities) := by
  rw [register, h]

theorem register_of_wellFormed (hnone : directory.find? saga.type = none) (h : saga.WellFormed) :
    directory.register saga =
      (directory.add (.ofSaga saga), .ok (Registration.ofSaga saga).capabilities) := by
  rw [register, hnone, Registration.build_eq_ok_iff.2 ⟨h, rfl⟩]

theorem register_of_not_wellFormed (hnone : directory.find? saga.type = none)
    (h : ¬ saga.WellFormed) : directory.register saga =
      (directory, .error (.configuration saga.type.name (Registration.violations saga))) := by
  rw [register, hnone, Registration.build, if_neg (mt Registration.violations_eq_nil_iff.1 h)]

theorem accepted_append_singleton (answer : Except SagaError Capabilities) :
    accepted (log ++ [(saga, answer)]) = accepted log ++ if answer.isOk then [saga] else [] := by
  cases answer <;> simp [accepted, Except.isOk, Except.toBool]

namespace Reached

theorem indexed (h : Reached directory log) : directory.Indexed := by
  induction h with
  | empty => exact ⟨fun _ => rfl, fun _ => rfl⟩
  | @register directory log _ saga ih =>
    cases hfind : directory.find? saga.type with
    | some registration =>
      rw [register_of_find? hfind]
      exact ih
    | none =>
      by_cases hvalid : saga.WellFormed
      · rw [register_of_wellFormed hfind hvalid]
        exact ih.add hfind
      · rw [register_of_not_wellFormed hfind hvalid]
        exact ih

/-- **What is registered**: the saga types that were accepted, each once. -/
theorem registrations_eq (h : Reached directory log) :
    directory.registrations = (firstOfEach (accepted log)).map .ofSaga := by
  induction h with
  | empty => rfl
  | @register directory log hreached saga ih =>
    have hknown : saga.type.id ∈ (accepted log).map (·.type.id) ↔
        (directory.find? saga.type).isSome = true := by
      rw [← mem_map_id_firstOfEach, hreached.indexed.find?_eq, ih, List.isSome_find?]
      simp [Registration.ofSaga]
    rw [accepted_append_singleton]
    cases hfind : directory.find? saga.type with
    | some registration =>
      -- accepted again, and nothing new
      rw [register_of_find? hfind]
      have hmem := hknown.2 (by rw [hfind]; rfl)
      change directory.registrations = (firstOfEach (accepted log ++ [saga])).map _
      rw [firstOfEach_append_singleton, if_pos hmem, List.append_nil, ih]
    | none =>
      have hnew : saga.type.id ∉ (accepted log).map (·.type.id) := by
        rw [hknown, hfind]
        exact Bool.false_ne_true
      by_cases hvalid : saga.WellFormed
      · rw [register_of_wellFormed hfind hvalid]
        change directory.registrations ++ [_] = (firstOfEach (accepted log ++ [saga])).map _
        rw [firstOfEach_append_singleton, if_neg hnew, List.map_append, ih]
        rfl
      · rw [register_of_not_wellFormed hfind hvalid]
        change directory.registrations = (firstOfEach (accepted log ++ [])).map _
        rw [List.append_nil, ih]

theorem wellFormed (h : Reached directory log) (hmem : registration ∈ directory.registrations) :
    registration.saga.WellFormed ∧ registration = .ofSaga registration.saga := by
  induction h with
  | empty => cases hmem
  | @register directory log _ saga ih =>
    rcases mem_register hmem with hold | hbuilt
    · exact ih hold
    · obtain ⟨hvalid, rfl⟩ := Registration.build_eq_ok_iff.1 hbuilt
      exact ⟨hvalid, rfl⟩

end Reached

/-! ### Calls -/

/-- A call that registers saga types. -/
inductive Call (A : Application) where
  | register (saga : Saga A)
  | registerModule (sagas : List (Saga A))

/-- The saga types that a module registers one after the other, up to the first refusal, with
their answers. -/
def moduleLog (directory : Directory A) : List (Saga A) → List (Logged A)
  | [] => []
  | saga :: rest => match directory.register saga with
    | (_, .error error) => [(saga, .error error)]
    | (directory, .ok capabilities) => (saga, .ok capabilities) :: directory.moduleLog rest

/-- The directory after a call. -/
def perform (directory : Directory A) : Call A → Directory A
  | .register saga => (directory.register saga).1
  | .registerModule sagas => (directory.registerModule sagas).1

/-- The saga types that a call asks to register, with their answers. -/
def callLog (directory : Directory A) : Call A → List (Logged A)
  | .register saga => [(saga, (directory.register saga).2)]
  | .registerModule sagas => directory.moduleLog sagas

/-- The directory after some calls. -/
def performAll (directory : Directory A) (calls : List (Call A)) : Directory A :=
  calls.foldl perform directory

/-- The saga types that some calls ask to register, with their answers. -/
def logAll (directory : Directory A) : List (Call A) → List (Logged A)
  | [] => []
  | call :: rest => directory.callLog call ++ (directory.perform call).logAll rest

namespace Reached

theorem registerModule (h : Reached directory log) (sagas : List (Saga A)) :
    Reached (directory.registerModule sagas).1 (log ++ directory.moduleLog sagas) := by
  induction sagas generalizing directory log with
  | nil => simpa [moduleLog, Directory.registerModule] using h
  | cons saga rest ih =>
    have hnext := h.register saga
    rw [Directory.registerModule, moduleLog]
    rcases hanswer : directory.register saga with ⟨next, answer⟩
    rw [hanswer] at hnext
    cases answer with
    | error error => exact hnext
    | ok capabilities =>
      have hrest := ih hnext
      rw [List.append_assoc] at hrest
      exact hrest

theorem perform (h : Reached directory log) (call : Call A) :
    Reached (directory.perform call) (log ++ directory.callLog call) := by
  cases call with
  | register saga => exact h.register saga
  | registerModule sagas => exact h.registerModule sagas

theorem performAll (h : Reached directory log) (calls : List (Call A)) :
    Reached (directory.performAll calls) (log ++ directory.logAll calls) := by
  induction calls generalizing directory log with
  | nil => simpa [logAll, Directory.performAll] using h
  | cons call rest ih =>
    have hrest := ih (h.perform call)
    rw [List.append_assoc] at hrest
    exact hrest

/-- Modules register nothing but what is registered one by one. -/
theorem eq_foldl (h : Reached directory log) :
    directory = log.foldl (fun directory entry => (directory.register entry.1).1) .empty := by
  induction h with
  | empty => rfl
  | register _ saga ih => rw [List.foldl_append, ← ih, List.foldl_cons, List.foldl_nil]

end Reached

/-! ## What a directory answers -/

namespace Reached

theorem find?_eq (h : Reached directory log) (type : SagaType) :
    directory.find? type =
      ((firstOfEach (accepted log)).find? (·.type.id == type.id)).map .ofSaga := by
  rw [h.indexed.find?_eq, h.registrations_eq, List.find?_map]
  rfl

theorem matching_eq (h : Reached directory log) (message : MessageType) :
    directory.matching message =
      ((firstOfEach (accepted log)).filter (·.declares message)).map .ofSaga := by
  rw [h.indexed.matching_eq, h.registrations_eq, List.filter_map]
  congr 2
  exact funext fun saga => Registration.reactsTo_ofSaga

theorem isSome_find?_iff (h : Reached directory log) (type : SagaType) :
    (directory.find? type).isSome = true ↔
      ∃ entry ∈ log, entry.1.type.id = type.id ∧ entry.2.isOk = true := by
  have hknown : (directory.find? type).isSome = true ↔
      type.id ∈ (accepted log).map (·.type.id) := by
    rw [h.find?_eq, Option.isSome_map, List.isSome_find?, ← mem_map_id_firstOfEach]
    simp
  rw [hknown]
  simp [accepted, and_assoc, and_comm]

end Reached

/-- What a directory answers, by a scan of the saga types that were answered before. -/
structure Scans (directory : Directory A) (log : List (Logged A)) : Prop where
  /-- What was accepted is registered, in the order in which it came in first. -/
  registrations : directory.registrations = (firstOfEach (accepted log)).map .ofSaga
  once : (directory.registrations.map (·.saga.type.id)).Nodup
  resolve : ∀ message, directory.resolve message =
    ((firstOfEach (accepted log)).filter (·.declares message)).map fun saga =>
      .ofDeclared saga.type (Registration.declared saga)
  matching : ∀ message, directory.matching message =
    ((firstOfEach (accepted log)).filter (·.declares message)).map .ofSaga
  find : ∀ type, directory.find? type =
    ((firstOfEach (accepted log)).find? (·.type.id == type.id)).map .ofSaga
  /-- A saga type is found exactly if it was accepted at some time. -/
  found : ∀ type, (directory.find? type).isSome = true ↔
    ∃ entry ∈ log, entry.1.type.id = type.id ∧ entry.2.isOk = true
  contains : ∀ type, directory.contains type = (directory.find? type).isSome
  /-- A saga type is accepted if it is there or breaks no rule. -/
  accepts : ∀ saga : Saga A, (directory.register saga).2.isOk = true ↔
    directory.contains saga.type = true ∨ saga.WellFormed
  refused : ∀ saga error, (directory.register saga).2 = .error error →
    (directory.register saga).1 = directory
  repeated : ∀ saga registration, directory.find? saga.type = some registration →
    directory.register saga = (directory, .ok registration.capabilities)
  /-- Modules register nothing but what is registered one by one. -/
  replayed : directory =
    log.foldl (fun directory entry => (directory.register entry.1).1) .empty

theorem register_of_error {error : SagaError} (h : (directory.register saga).2 = .error error) :
    (directory.register saga).1 = directory := by
  cases hfind : directory.find? saga.type with
  | some registration => rw [register_of_find? hfind]
  | none =>
    by_cases hvalid : saga.WellFormed
    · rw [register_of_wellFormed hfind hvalid] at h
      cases h
    · rw [register_of_not_wellFormed hfind hvalid]

theorem isOk_register_iff :
    (directory.register saga).2.isOk = true ↔
      (directory.find? saga.type).isSome = true ∨ saga.WellFormed := by
  cases hfind : directory.find? saga.type with
  | some registration => simp [register_of_find? hfind, Except.isOk, Except.toBool]
  | none =>
    by_cases hvalid : saga.WellFormed
    · simp [register_of_wellFormed hfind hvalid, hvalid, Except.isOk, Except.toBool]
    · simp [register_of_not_wellFormed hfind hvalid, hvalid, Except.isOk, Except.toBool]

theorem nodup_map_id_firstOfEach (sagas : List (Saga A)) :
    ((firstOfEach sagas).map (·.type.id)).Nodup := by
  induction sagas with
  | nil => exact List.nodup_nil
  | cons first rest ih =>
    rw [firstOfEach, List.map_cons, List.nodup_cons]
    refine ⟨?_, ih.sublist (List.filter_sublist.map _)⟩
    simp

theorem Reached.scans (h : Reached directory log) : directory.Scans log where
  registrations := h.registrations_eq
  once := by
    rw [h.registrations_eq, List.map_map]
    exact nodup_map_id_firstOfEach _
  resolve := fun message => by
    rw [Directory.resolve, h.matching_eq, List.map_map]
    rfl
  matching := h.matching_eq
  find := h.find?_eq
  found := h.isSome_find?_iff
  contains := h.indexed.contains_eq
  accepts := fun saga => by rw [isOk_register_iff, h.indexed.contains_eq]
  refused := fun _ _ => register_of_error
  repeated := fun _ _ => register_of_find?
  replayed := h.eq_foldl

/-- What is registered is found under its saga type. -/
theorem Reached.find?_of_mem (h : Reached directory log)
    (hmem : registration ∈ directory.registrations) :
    directory.find? registration.saga.type = some registration := by
  rw [h.indexed.find?_eq]
  cases hfind : directory.registrations.find? (·.saga.type.id == registration.saga.type.id) with
  | none => exact absurd hmem fun hmem => by simpa using List.find?_eq_none.1 hfind _ hmem
  | some other =>
    have hsame : other.saga.type.id = registration.saga.type.id := by
      simpa using List.find?_some hfind
    rw [List.inj_on_of_nodup_map h.scans.once (List.mem_of_find?_eq_some hfind) hmem hsame]

end Directory

/-- **A directory is a scan of its history.** Whatever is asked to be registered, alone or in
modules: what was accepted is registered in the order in which it came in first, each once, a
message type is resolved to those that declare it, and refused and repeated saga types change
nothing. -/
theorem directory_scans (calls : List (Directory.Call A)) :
    (Directory.empty.performAll calls).Scans (Directory.empty.logAll calls) :=
  (Directory.Reached.empty.performAll calls).scans

section
open Simulation

/-- A module stops at a saga type without correlations, and the one after it is registered later
on. What is repeated stays where it is. -/
example :
    let calls := [.register (secondSpec "Second").toSaga,
      .registerModule [(secondSpec "Again").toSaga,
        { counterSpec with correlations := [] }.toSaga, firstSpec.toSaga],
      .register firstSpec.toSaga, .register (secondSpec "Second").toSaga]
    ((Directory.empty.performAll calls).resolve keepBoth.type).map (·.saga.name) =
        ["Second", "First"] ∧
      (Directory.empty.logAll calls).map (fun entry => (entry.1.type.name, entry.2.isOk)) =
        [("Second", true), ("Again", true), ("Counter", false), ("First", true),
          ("Second", true)] := by
  decide

end

end Sagas
