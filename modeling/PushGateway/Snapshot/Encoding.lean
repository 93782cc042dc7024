import Mathlib.Data.List.Induction
import PushGateway.Store

/-!
# The snapshot of the store

A record is written as an object of its fields, with the registration tagged by its platform and
an absent APNs environment left out, and the snapshot as an object of records by handle.  Reading
a snapshot gives back the map which was written.
-/

namespace PushGateway

/-- The creation time is a `u64`. -/
def HandleRecord.Encodable (record : HandleRecord) : Prop := record.createdAt < 2 ^ 64

/-! ## Writing -/

/-- `rename_all = "lowercase"`. -/
def ApnsEnvironment.name : ApnsEnvironment → String
  | .sandbox => "sandbox"
  | .production => "production"

namespace Value

def encodeWebPushKeys (keys : WebPushKeys) : Value :=
  .object [("p256dh", .string keys.p256dh), ("auth", .string keys.auth)]

/-- `skip_serializing_if = "Option::is_none"`. -/
def encodeEnvironment (environment : Option ApnsEnvironment) : List (String × Value) :=
  (environment.map fun environment => ("environment", Value.string environment.name)).toList

def encodePushRegistration : PushRegistration → Value
  | .apns token topic environment =>
      .object ([("platform", .string "apns"), ("token", .string token), ("topic", .string topic)] ++
        encodeEnvironment environment)
  | .fcm token => .object [("platform", .string "fcm"), ("token", .string token)]
  | .webpush endpoint keys =>
      .object [("platform", .string "webpush"), ("endpoint", .string endpoint),
        ("keys", encodeWebPushKeys keys)]

def encodeHandleRecord (record : HandleRecord) : Value :=
  .object [("registration", encodePushRegistration record.registration),
    ("controller_vta_did", .string record.controllerVtaDid),
    ("allowed_triggers", .array (record.allowedTriggers.map .string)),
    ("created_at", .number (.int record.createdAt))]

/-- The handle map, oldest entry first. -/
def encodeHandles (handles : AssocMap String HandleRecord) : Value :=
  .object (handles.entries.reverse.map fun entry => (entry.1, encodeHandleRecord entry.2))

/-! ## Reading -/

def decodeHandleRecord (value : Value) : Option HandleRecord := do
  let [registration, controllerVtaDid, allowedTriggers, createdAt] ←
    value.fields ["registration", "controller_vta_did", "allowed_triggers", "created_at"] | none
  return ⟨← required decodePushRegistration registration,
    ← required decodeString controllerVtaDid,
    ← required (decodeList decodeString) allowedTriggers,
    ← defaulted 0 (decodeUnsigned (2 ^ 64)) createdAt⟩

/-- `HashMap<String, HandleRecord>`: a repeated handle keeps its last record. -/
def decodeHandles : Value → Option (AssocMap String HandleRecord)
  | .object members =>
      members.foldlM (fun handles member => do
        return AList.insert member.1 (← decodeHandleRecord member.2) handles) ∅
  | _ => none

/-! ## Round trips -/

theorem decodePushRegistration_encode (registration : PushRegistration) :
    decodePushRegistration (encodePushRegistration registration) = some registration := by
  cases registration with
  | apns token topic environment =>
      cases environment with
      | none => rfl
      | some environment =>
          cases environment with
          | sandbox => rfl
          | production => rfl
  | fcm token => rfl
  | webpush endpoint keys => rfl

theorem decodeList_encode (texts : List String) :
    decodeList decodeString (.array (texts.map .string)) = some texts := by
  rw [decodeList]
  induction texts with
  | nil => rfl
  | cons text texts induction =>
      rw [List.map_cons, List.mapM_cons, induction]
      rfl

theorem decodeUnsigned_encode {bound count : Nat} (below : count < bound) :
    decodeUnsigned bound (.number (.int count)) = some count := by
  rw [decodeUnsigned, if_pos ⟨Int.natCast_nonneg count, by omega⟩, Int.toNat_natCast]

theorem decodeHandleRecord_encode {record : HandleRecord} (encodable : record.Encodable) :
    decodeHandleRecord (encodeHandleRecord record) = some record := by
  have registration := decodePushRegistration_encode record.registration
  have triggers := decodeList_encode record.allowedTriggers
  have created := decodeUnsigned_encode encodable
  have read : (encodeHandleRecord record).fields
      ["registration", "controller_vta_did", "allowed_triggers", "created_at"] =
      some [some (encodePushRegistration record.registration),
        some (.string record.controllerVtaDid),
        some (.array (record.allowedTriggers.map .string)),
        some (.number (.int record.createdAt))] := rfl
  have controller : decodeString (.string record.controllerVtaDid) =
      some record.controllerVtaDid := rfl
  simp only [decodeHandleRecord, read, Option.bind_eq_bind, Option.bind_some, required, defaulted,
    registration, controller, triggers, created]
  rfl

/-- Reading a snapshot gives back the map which was written. -/
theorem decodeHandles_encode {handles : AssocMap String HandleRecord}
    (encodable : ∀ record ∈ handles.values, record.Encodable) :
    decodeHandles (encodeHandles handles) = some handles := by
  obtain ⟨entries, distinct⟩ := handles
  rw [encodeHandles, decodeHandles, List.foldlM_map, List.foldlM_reverse]
  induction entries with
  | nil => rfl
  | cons entry entries induction =>
      have tail := induction (List.nodupKeys_cons.mp distinct).2 fun record member =>
        encodable record (List.mem_cons_of_mem _ member)
      have head := decodeHandleRecord_encode (encodable entry.2 List.mem_cons_self)
      rw [List.foldrM_cons, tail]
      simp only [Option.bind_eq_bind, Option.bind_some, head]
      have fresh : entry.1 ∉ List.keys entries := (List.nodupKeys_cons.mp distinct).1
      exact congrArg some (AList.ext (AList.entries_insert_of_notMem fresh))

/-! ## What is read can be written -/

theorem decodeUnsigned_lt {bound count : Nat} {value : Value}
    (read : decodeUnsigned bound value = some count) : count < bound := by
  rw [decodeUnsigned.eq_def] at read
  split at read
  · split at read
    · rename_i value within
      cases read
      omega
    · cases read
  · cases read

theorem decodeHandleRecord_encodable {value : Value} {record : HandleRecord}
    (read : decodeHandleRecord value = some record) : record.Encodable := by
  simp only [decodeHandleRecord, Option.bind_eq_bind, Option.bind_eq_some_iff] at read
  obtain ⟨fields, present, read⟩ := read
  split at read
  · rename_i createdAt
    simp only [Option.bind_eq_some_iff] at read
    obtain ⟨_, -, _, -, _, -, created, dated, built⟩ := read
    cases built
    cases createdAt with
    | none =>
        cases dated
        exact Nat.two_pow_pos 64
    | some value => exact decodeUnsigned_lt dated
  · cases read

theorem decodeHandles_encodable {value : Value} {handles : AssocMap String HandleRecord}
    (read : decodeHandles value = some handles) (handle : String) (record : HandleRecord)
    (found : handles.lookup handle = some record) : record.Encodable := by
  rw [decodeHandles.eq_def] at read
  split at read
  · rename_i members
    induction members using List.reverseRecOn generalizing handles with
    | nil =>
        cases read
        cases found
    | append_singleton members member induction =>
        rw [List.foldlM_append] at read
        obtain ⟨earlier, before, last⟩ := Option.bind_eq_some_iff.mp read
        simp only [List.foldlM_cons, List.foldlM_nil, Option.bind_eq_bind, Option.bind_eq_some_iff,
          Option.pure_def, Option.some.injEq, exists_eq_right] at last
        obtain ⟨written, decoded, rfl⟩ := last
        rw [AssocMap.lookup_insert] at found
        split at found
        · cases found
          exact decodeHandleRecord_encodable decoded
        · exact induction found before
  · cases read

end Value

end PushGateway
