import PushGateway.Foundation.Fields
import PushGateway.Sender.Requests
import PushGateway.Snapshot.Encoding

/-!
# What a device reads

A push carries the hints of its wake and nothing else.  Each platform writes them in its own way;
a device which reads them back has just the hints which the trigger asked for.
-/

namespace PushGateway

/-! ## Reading a payload -/

namespace Value

/-- The hints as numbers and strings, whatever else is there. -/
def decodeWakePayload (value : Value) : Option WakePayload := do
  let [v, mediator, count, urgency] ← value.fields ["v", "mediator", "count", "urgency"] | none
  return ⟨← required (decodeUnsigned (2 ^ 8)) v,
    ← defaulted none (decodeOption decodeString) mediator,
    ← defaulted none (decodeOption (decodeUnsigned (2 ^ 32))) count,
    ← defaulted none (decodeOption (decodeVariant isNull Urgency.ofName)) urgency⟩

/-- A number in decimal digits. -/
def decodeDecimal (value : Value) : Option Nat := do
  Fields.readDecimal (← value.asStr).toList

/-- The hints as strings. -/
def decodeData (value : Value) : Option WakePayload := do
  let [v, mediator, count, urgency] ← value.fields ["v", "mediator", "count", "urgency"] | none
  return ⟨← required decodeDecimal v, ← defaulted none (decodeOption decodeString) mediator,
    ← defaulted none (decodeOption decodeDecimal) count,
    ← defaulted none (decodeOption (decodeVariant isNull Urgency.ofName)) urgency⟩

theorem decodeDecimal_toString (number : Nat) :
    decodeDecimal (.string (toString number)) = some number :=
  Fields.readDecimal_toString number

theorem lookup_optionalMember_append {α : Type} (name : String) (encode : α → Value)
    (value : Option α) (rest : List (String × Value)) (key : String) :
    (optionalMember name encode value ++ rest).lookup key =
      if key = name then (value.map encode).or (rest.lookup key) else rest.lookup key := by
  cases value with
  | none => simp [optionalMember]
  | some value =>
      by_cases same : key = name
      · simp [optionalMember, same]
      · simp [optionalMember, List.lookup_cons, beq_false_of_ne same, same]

theorem lookup_optionalMember {α : Type} (name : String) (encode : α → Value) (value : Option α)
    (key : String) :
    (optionalMember name encode value).lookup key =
      if key = name then value.map encode else none := by
  simpa using lookup_optionalMember_append name encode value [] key

theorem defaulted_mediator (mediator : Option String) :
    defaulted none (decodeOption decodeString) (mediator.map .string) = some mediator := by
  cases mediator <;> rfl

theorem defaulted_urgency (urgency : Option Urgency) :
    defaulted none (decodeOption (decodeVariant isNull Urgency.ofName))
      (urgency.map fun urgency => .string urgency.name) = some urgency := by
  cases urgency with
  | none => rfl
  | some urgency => cases urgency <;> rfl

/-- A payload is read from its four members. -/
theorem decodeWakePayload_object {payload : WakePayload} {members : List (String × Value)}
    (small : payload.v < 2 ^ 8) (counted : ∀ count ∈ payload.count, count < 2 ^ 32)
    (v : members.lookup "v" = some (.number (.int payload.v)))
    (mediator : members.lookup "mediator" = payload.mediator.map .string)
    (count : members.lookup "count" = payload.count.map fun count : Nat => .number (.int count))
    (urgency : members.lookup "urgency" = payload.urgency.map fun urgency => .string urgency.name) :
    decodeWakePayload (.object members) = some payload := by
  obtain ⟨version, mediatorDid, messages, priority⟩ := payload
  have read : (Value.object members).fields ["v", "mediator", "count", "urgency"] =
      some [members.lookup "v", members.lookup "mediator", members.lookup "count",
        members.lookup "urgency"] := rfl
  have numbers : defaulted none (decodeOption (decodeUnsigned (2 ^ 32))) (members.lookup "count") =
      some messages := by
    rw [count]
    cases messages with
    | none => rfl
    | some messages =>
        have fits := decodeUnsigned_encode (counted messages rfl)
        rw [Option.map_some, defaulted, decodeOption, fits]
        · rfl
        · exact fun same => Value.noConfusion same
  simp only [decodeWakePayload, read, Option.bind_eq_bind, Option.bind_some, required, v,
    decodeUnsigned_encode small, numbers, mediator, urgency, defaulted_mediator, defaulted_urgency,
    -Nat.reducePow]
  rfl

theorem decodeData_object {payload : WakePayload} {members : List (String × Value)}
    (v : members.lookup "v" = some (.string (toString payload.v)))
    (mediator : members.lookup "mediator" = payload.mediator.map .string)
    (count : members.lookup "count" =
      payload.count.map fun count : Nat => .string (toString count))
    (urgency : members.lookup "urgency" = payload.urgency.map fun urgency => .string urgency.name) :
    decodeData (.object members) = some payload := by
  obtain ⟨version, mediatorDid, messages, priority⟩ := payload
  have read : (Value.object members).fields ["v", "mediator", "count", "urgency"] =
      some [members.lookup "v", members.lookup "mediator", members.lookup "count",
        members.lookup "urgency"] := rfl
  have numbers : defaulted none (decodeOption decodeDecimal) (members.lookup "count") =
      some messages := by
    rw [count]
    cases messages with
    | none => rfl
    | some messages =>
        rw [Option.map_some, defaulted, decodeOption, decodeDecimal_toString]
        · rfl
        · exact fun same => Value.noConfusion same
  simp only [decodeData, read, Option.bind_eq_bind, Option.bind_some, required, v,
    decodeDecimal_toString, numbers, mediator, urgency, defaulted_mediator, defaulted_urgency]
  rfl

end Value

/-! ## The three bodies -/

theorem decodeWakePayload_encode {payload : WakePayload} (small : payload.v < 2 ^ 8)
    (counted : ∀ count ∈ payload.count, count < 2 ^ 32) :
    Value.decodeWakePayload (Value.encodeWakePayload payload) = some payload := by
  refine Value.decodeWakePayload_object small counted ?_ ?_ ?_ ?_ <;>
    simp [Value.lookup_optionalMember_append, Value.lookup_optionalMember, List.lookup_cons]

theorem decodeWakePayload_apnsBody {payload : WakePayload} (small : payload.v < 2 ^ 8)
    (counted : ∀ count ∈ payload.count, count < 2 ^ 32) :
    Value.decodeWakePayload (ApnsSender.body payload) = some payload := by
  refine Value.decodeWakePayload_object small counted ?_ ?_ ?_ ?_ <;>
    simp [Value.lookup_optionalMember_append, List.lookup_cons]

theorem decodeData_fcmData (payload : WakePayload) :
    Value.decodeData (FcmSender.data payload) = some payload := by
  refine Value.decodeData_object ?_ ?_ ?_ ?_ <;>
    simp [Value.lookup_optionalMember_append, List.lookup_cons]

/-! ## The device -/

/-- A device: it decrypts what was encrypted to its keys, and parses the JSON of a payload. -/
structure Device {Byte : Type} (http : HttpCrates Byte) where
  decrypt : WebPushKeys → List Byte → Option (List Byte)
  parse : List Byte → Option Value
  decrypt_encrypt : ∀ uri keys body content,
    http.encrypt uri keys body = some content → decrypt keys content = some body
  parse_toVec : ∀ payload : WakePayload, payload.v < 2 ^ 8 →
    (∀ count ∈ payload.count, count < 2 ^ 32) →
    parse (http.toVec (Value.encodeWakePayload payload)) = some (Value.encodeWakePayload payload)

namespace Device

variable {Byte : Type} {http : HttpCrates Byte} (device : Device http)

/-- The object with the hints, as the platform delivers it. -/
def receives (registration : PushRegistration) (body : RequestBody Byte) : Option Value :=
  match registration, body with
  | .webpush _ keys, .bytes content => (device.decrypt keys content).bind device.parse
  | .apns _ _ _, .json value => some value
  | .fcm _, .json value => do (← value.get? "message").get? "data"
  | _, _ => none

end Device

namespace PushRegistration

/-- The hints in that object. -/
def hints (value : Value) : PushRegistration → Option WakePayload
  | .webpush _ _ | .apns _ _ _ => value.decodeWakePayload
  | .fcm _ => value.decodeData

/-- The names which its members may have. -/
def hintNames : PushRegistration → List String
  | .webpush _ _ | .fcm _ => ["v", "mediator", "count", "urgency"]
  | .apns _ _ _ => ["aps", "v", "mediator", "count", "urgency"]

/-- The member for Apple's system, which has it wake the app in the background. -/
def aps : PushRegistration → Option Value
  | .apns _ _ _ => some (.object [("content-available", .number (.int 1))])
  | .webpush _ _ | .fcm _ => none

end PushRegistration

/-- The names of an object's members. -/
def Value.names : Value → List String
  | .object members => members.map Prod.fst
  | _ => []

/-- An object with no other members than a device of the platform is to have. -/
def Value.JustHints (registration : PushRegistration) (value : Value) : Prop :=
  (∀ name ∈ value.names, name ∈ registration.hintNames) ∧ value.get? "aps" = registration.aps

theorem justHints_encodeWakePayload (endpoint : String) (keys : WebPushKeys)
    (payload : WakePayload) :
    (Value.encodeWakePayload payload).JustHints (.webpush endpoint keys) := by
  obtain ⟨v, mediator, count, urgency⟩ := payload
  cases mediator <;> cases count <;> cases urgency <;>
    simp [Value.JustHints, Value.encodeWakePayload, Value.names, Value.get?, optionalMember,
      PushRegistration.hintNames, PushRegistration.aps, List.lookup_cons]

theorem justHints_apnsBody (token topic : String) (environment : Option ApnsEnvironment)
    (payload : WakePayload) :
    (ApnsSender.body payload).JustHints (.apns token topic environment) := by
  obtain ⟨v, mediator, count, urgency⟩ := payload
  cases mediator <;> cases count <;> cases urgency <;>
    simp [Value.JustHints, ApnsSender.body, Value.names, Value.get?, optionalMember,
      PushRegistration.hintNames, PushRegistration.aps]

theorem justHints_fcmData (token : String) (payload : WakePayload) :
    (FcmSender.data payload).JustHints (.fcm token) := by
  obtain ⟨v, mediator, count, urgency⟩ := payload
  cases mediator <;> cases count <;> cases urgency <;>
    simp [Value.JustHints, FcmSender.data, Value.names, Value.get?, optionalMember,
      PushRegistration.hintNames, PushRegistration.aps, List.lookup_cons]

theorem Value.optional_unsigned_lt {bound count : Nat} {field : Option Value}
    (read : defaulted none (decodeOption (decodeUnsigned bound)) field = some (some count)) :
    count < bound := by
  cases field with
  | none => cases read
  | some value =>
      rw [defaulted, decodeOption.eq_def] at read
      split at read
      · cases read
      · obtain ⟨number, within, same⟩ := Option.map_eq_some_iff.mp read
        cases same
        exact decodeUnsigned_lt within

/-- The numbers of a wake are those of its types. -/
theorem decodeWakeRequest_bounded {payload : Value} {request : WakeRequest}
    (decoded : Value.decodeWakeRequest payload = some request) :
    request.payload.v < 2 ^ 8 ∧ ∀ count ∈ request.payload.count, count < 2 ^ 32 := by
  simp only [Value.decodeWakeRequest, Option.bind_eq_bind, Option.bind_eq_some_iff,
    -Nat.reducePow] at decoded
  obtain ⟨fields, present, decoded⟩ := decoded
  split at decoded
  · simp only [Option.bind_eq_some_iff, -Nat.reducePow] at decoded
    obtain ⟨_, -, v, version, _, -, count, counted, _, -, built⟩ := decoded
    cases built
    refine ⟨?_, ?_⟩
    · obtain ⟨_, -, within⟩ := Option.bind_eq_some_iff.mp version
      exact Value.decodeUnsigned_lt within
    · intro number present
      have same : count = some number := present
      rw [same] at counted
      exact Value.optional_unsigned_lt counted
  · cases decoded

/-- Whatever a trigger asks for, the device reads just the hints of its wake from what is sent to
it, and sees no member with anything else.  The only other request is that by which the FCM sender
gets its access token, which is the same whatever wake it is for. -/
theorem device_reads_wake {DocumentDigest Byte : Type} (crates : Crates DocumentDigest)
    {http : HttpCrates Byte} (device : Device http) (outside : SendSurroundings Byte)
    (sender : Sender Byte)
    (registration : PushRegistration) {payload : Value} {request : WakeRequest}
    (decoded : Value.decodeWakeRequest payload = some request) {posted : HttpRequest Byte}
    (sent : posted ∈ (sender.send crates http outside registration request.payload).2) :
    (∃ own now, sender = .fcm own ∧ outside.clock = some now ∧
      own.exchange http.toSenderCrates now = some posted) ∨
    ∃ value, device.receives registration posted.body = some value ∧
      registration.hints value = some request.payload ∧ value.JustHints registration := by
  obtain ⟨small, counted⟩ := decodeWakeRequest_bounded decoded
  cases Sender.makes_of_mem_send sent with
  | webpush requested =>
      refine .inr ⟨Value.encodeWakePayload request.payload, ?_,
        decodeWakePayload_encode small counted, justHints_encodeWakePayload _ _ request.payload⟩
      simp only [Device.receives, device.decrypt_encrypt _ _ _ _ requested.encrypted,
        Option.bind_some, device.parse_toVec request.payload small counted]
  | apns valid provided =>
      exact .inr ⟨ApnsSender.body request.payload, rfl, decodeWakePayload_apnsBody small counted,
        justHints_apnsBody _ _ _ request.payload⟩
  | exchange read lapsed exchanged => exact .inl ⟨_, _, rfl, read, exchanged⟩
  | fcm provided =>
      exact .inr ⟨FcmSender.data request.payload, rfl, decodeData_fcmData request.payload,
        justHints_fcmData _ request.payload⟩

/-- A device for the stand-in. -/
private def plainDevice : Device plainHttp where
  decrypt _ content := some content
  parse
    | [value] => some value
    | _ => none
  decrypt_encrypt _ _ _ _ encrypted := encrypted ▸ rfl
  parse_toVec _ _ _ := rfl

private def ring : Value :=
  .object [("handle", .string "h"), ("v", .number (.int 1)), ("count", .number (.int 12))]

private def rung : HttpRequest Value where
  url := "https://fcm.googleapis.com/v1/projects/project/messages:send"
  headers := [("authorization", "Bearer a")]
  body := .json (.object [("message", .object [("android", .object [("priority", .string "high")]),
    ("data", .object [("count", .string "12"), ("v", .string "1")]), ("token", .string "t")])])

private def doorbellSender : FcmSender Value := ⟨"project", "", "", fun _ => none⟩

theorem device_reads_wake_rung :
    (∃ own now, Sender.fcm doorbellSender = .fcm own ∧ acceptingSurroundings.clock = some now ∧
      own.exchange plainHttp.toSenderCrates now = some rung) ∨
    ∃ value, plainDevice.receives (.fcm "t") rung.body = some value ∧
      (PushRegistration.fcm "t").hints value = some ⟨1, none, some 12, none⟩ ∧
      value.JustHints (.fcm "t") := by
  have decoded : Value.decodeWakeRequest ring = some ⟨"h", 1, none, some 12, none⟩ := by
    simp [ring, Value.decodeWakeRequest, Value.fields, Value.required, Value.defaulted,
      Value.decodeOption, Value.decodeUnsigned, Value.decodeString, Value.asStr, List.lookup_cons]
  exact device_reads_wake plainCrates plainDevice acceptingSurroundings (.fcm doorbellSender)
    (.fcm "t") decoded (List.mem_singleton.mpr rfl)

end PushGateway
