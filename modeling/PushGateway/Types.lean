import Mathlib.Algebra.Order.Ring.Nat
import Mathlib.Data.List.Induction
import PushGateway.Egress

/-!
# Payloads of the `push/*` tasks

The typed bodies read out of a document's payload, and the bounds each of them is checked against.
-/

namespace PushGateway

/-! ## Bounds -/

/-- `MAX_DID_LEN`. -/
def maxDidLen : Nat := 512

/-- `MAX_ALLOWED_TRIGGERS`. -/
def maxAllowedTriggers : Nat := 32

/-- `MAX_APNS_TOPIC_LEN`. -/
def maxApnsTopicLen : Nat := 255

/-- `MAX_FCM_TOKEN_LEN`. -/
def maxFcmTokenLen : Nat := 4096

/-- `MAX_P256DH_B64_LEN`. -/
def maxP256dhB64Len : Nat := 88

/-- `MAX_AUTH_B64_LEN`. -/
def maxAuthB64Len : Nat := 24

/-- `is_ascii_hexdigit`. -/
def isAsciiHexdigit (char : Char) : Bool :=
  char.isDigit || ('a' ≤ char && char ≤ 'f') || ('A' ≤ char && char ≤ 'F')

/-- Shaped like an APNs device token: 64 to 200 hex characters. -/
def isValidApnsToken (token : String) : Bool :=
  decide (64 ≤ token.utf8ByteSize ∧ token.utf8ByteSize ≤ 200) &&
    token.toList.all isAsciiHexdigit

/-- Looks like a DID and is within `maxDidLen`. -/
def isBoundedDid (did : String) : Bool :=
  decide (4 < did.utf8ByteSize ∧ did.utf8ByteSize ≤ maxDidLen) &&
    decide (did.toList.take 4 = "did:".toList)

/-- `char::is_whitespace`. -/
def isWhiteSpace (char : Char) : Bool :=
  let code := char.toNat
  decide (9 ≤ code ∧ code ≤ 13) || decide (0x2000 ≤ code ∧ code ≤ 0x200A) ||
    [0x20, 0x85, 0xA0, 0x1680, 0x2028, 0x2029, 0x202F, 0x205F, 0x3000].contains code

/-- Bytes allowed in a token or topic: ASCII letters, digits and some punctuation. -/
def isTokenChar (punctuation : List Char) (char : Char) : Bool :=
  char.isAlphanum || punctuation.contains char

/-! ## Registrations -/

/-- `ApnsEnvironment`. -/
inductive ApnsEnvironment where
  | sandbox
  | production
  deriving DecidableEq, Repr

/-- `WebPushKeys`. -/
structure WebPushKeys where
  p256dh : String
  auth : String
  deriving DecidableEq, Repr

/-- A device's platform push channel. -/
inductive PushRegistration where
  | apns (token topic : String) (environment : Option ApnsEnvironment)
  | fcm (token : String)
  | webpush (endpoint : String) (keys : WebPushKeys)
  deriving DecidableEq, Repr

section Validate

variable {DocumentDigest : Type} (crates : Crates DocumentDigest)

/-- `text.trim().trim_end_matches('=')`. -/
def trimPadding (text : String) : String :=
  let trimmed := (text.toList.dropWhile isWhiteSpace).reverse.dropWhile isWhiteSpace
  String.ofList (trimmed.dropWhile fun char => char = '=').reverse

/-- `b64url_decode`. -/
def b64urlDecode (text : String) : Option (List Nat) := crates.base64UrlDecode (trimPadding text)

/-- `decode_webpush_keys`, as a check. -/
def decodeWebpushKeys (keys : WebPushKeys) : Except String Unit :=
  match b64urlDecode crates keys.p256dh, b64urlDecode crates keys.auth with
  | some p256dh, some auth =>
      if p256dh.length ≠ 65 then
        .error "webpush p256dh must be a 65-byte uncompressed P-256 point"
      else if ¬crates.isP256Point p256dh then .error "webpush p256dh is not a valid P-256 point"
      else if auth.length ≠ 16 then .error "webpush auth secret must be 16 bytes"
      else .ok ()
  | _, _ => .error "webpush keys must be base64url"

def WebPushKeys.validate (keys : WebPushKeys) : Except String Unit :=
  if maxP256dhB64Len < keys.p256dh.utf8ByteSize ∨ maxAuthB64Len < keys.auth.utf8ByteSize then
    .error "webpush keys have the wrong length"
  else decodeWebpushKeys crates keys

/-- Check a registration against its bounds and the egress policy. -/
def PushRegistration.validate (policy : EgressPolicy) : PushRegistration → Except String Unit
  | .apns token topic _ =>
      if ¬isValidApnsToken token then .error "apns token must be 64-200 hexadecimal characters"
      else if ¬(topic ≠ "" ∧ topic.utf8ByteSize ≤ maxApnsTopicLen ∧
          topic.toList.all (isTokenChar ['.', '-', '_'])) then
        .error "apns topic must be 1-255 characters of [A-Za-z0-9._-]"
      else if ¬policy.apnsTopicAllowed topic then
        .error "apns topic is not accepted by this gateway"
      else .ok ()
  | .fcm token =>
      if ¬(token ≠ "" ∧ token.utf8ByteSize ≤ maxFcmTokenLen ∧
          token.toList.all (isTokenChar ['_', ':', '-'])) then
        .error "fcm token must be 1-4096 characters of [A-Za-z0-9_:-]"
      else .ok ()
  | .webpush endpoint keys =>
      match policy.validateWebpushEndpoint crates endpoint with
      | .error _ => .error "webpush endpoint is not an accepted push service URL"
      | .ok _ => keys.validate crates

/-- `push/register/0.2` payload. -/
structure RegisterRequest where
  registration : PushRegistration
  controllerVtaDid : String
  deriving DecidableEq, Repr

def RegisterRequest.validate (request : RegisterRequest) (policy : EgressPolicy) :
    Except String Unit := do
  request.registration.validate crates policy
  if ¬isBoundedDid request.controllerVtaDid then
    throw "controllerVtaDid must be a DID of at most 512 bytes"

end Validate

/-! ## Allowlists and wakes -/

/-- The DIDs permitted to trigger a wake for a handle. -/
structure WakeTriggerPolicy where
  allowedTriggers : List String
  deriving DecidableEq, Repr

/-- The loop of `validate_and_normalize`: each entry on its first occurrence. -/
def dedup (triggers : List String) : List String :=
  triggers.foldl (fun seen did => if seen.contains did then seen else seen ++ [did]) []

/-- One entry of the loop. -/
theorem dedup_concat (triggers : List String) (did : String) :
    dedup (triggers ++ [did]) =
      if did ∈ dedup triggers then dedup triggers else dedup triggers ++ [did] := by
  simp [dedup]

theorem mem_dedup (triggers : List String) (did : String) :
    did ∈ dedup triggers ↔ did ∈ triggers := by
  induction triggers using List.reverseRecOn with
  | nil => rfl
  | append_singleton triggers last induction =>
      rw [dedup_concat]
      split
      · rename_i seen
        rw [List.mem_append, ← induction, List.mem_singleton]
        constructor
        · exact .inl
        · rintro (member | rfl)
          · exact member
          · exact seen
      · simp [induction]

theorem dedup_nodup (triggers : List String) : (dedup triggers).Nodup := by
  induction triggers using List.reverseRecOn with
  | nil => exact List.nodup_nil
  | append_singleton triggers last induction =>
      rw [dedup_concat]
      split
      · exact induction
      · rename_i fresh
        refine List.nodup_append.mpr ⟨induction, by simp, fun seen member other is_last => ?_⟩
        rw [List.mem_singleton.mp is_last]
        rintro rfl
        exact fresh member

theorem length_dedup_le (triggers : List String) : (dedup triggers).length ≤ triggers.length := by
  induction triggers using List.reverseRecOn with
  | nil => exact Nat.le_refl 0
  | append_singleton triggers last induction =>
      rw [dedup_concat]
      split <;> simp <;> omega

/-- Bound the allowlist and drop duplicates, or say why it is refused. -/
def WakeTriggerPolicy.validateAndNormalize (policy : WakeTriggerPolicy) :
    Except String WakeTriggerPolicy :=
  if maxAllowedTriggers < policy.allowedTriggers.length then
    .error "allowedTriggers must list at most 32 DIDs"
  else if ¬policy.allowedTriggers.all isBoundedDid then
    .error "each allowedTriggers entry must be a DID of at most 512 bytes"
  else .ok ⟨dedup policy.allowedTriggers⟩

/-- What an accepted allowlist is: bounded, of bounded DIDs, and each of them once. -/
theorem WakeTriggerPolicy.validateAndNormalize_ok {policy normalised : WakeTriggerPolicy}
    (accepted : policy.validateAndNormalize = .ok normalised) :
    normalised.allowedTriggers.length ≤ maxAllowedTriggers ∧
      (∀ did ∈ normalised.allowedTriggers, isBoundedDid did = true) ∧
      normalised.allowedTriggers.Nodup ∧
      ∀ did, did ∈ normalised.allowedTriggers ↔ did ∈ policy.allowedTriggers := by
  rw [validateAndNormalize] at accepted
  split at accepted
  · cases accepted
  · rename_i short
    split at accepted
    · cases accepted
    · rename_i bounded
      cases accepted
      have all : ∀ did ∈ policy.allowedTriggers, isBoundedDid did = true := by
        simpa using bounded
      refine ⟨?_, fun did member => all did ((mem_dedup _ did).mp member), dedup_nodup _,
        mem_dedup _⟩
      exact (length_dedup_le policy.allowedTriggers).trans (Nat.not_lt.mp short)

/-- `push/provision/0.2` payload. -/
structure ProvisionRequest where
  handle : String
  policy : WakeTriggerPolicy
  deriving DecidableEq, Repr

inductive Urgency where
  | interactive
  | background
  deriving DecidableEq, Repr

/-- The contentless doorbell delivered to the device. -/
structure WakePayload where
  v : Nat
  mediator : Option String
  count : Option Nat
  urgency : Option Urgency
  deriving DecidableEq, Repr

/-- `push/wake/0.2` payload. -/
structure WakeRequest where
  handle : String
  v : Nat
  mediator : Option String
  count : Option Nat
  urgency : Option Urgency
  deriving DecidableEq, Repr

def WakeRequest.validate (request : WakeRequest) : Except String Unit :=
  if request.mediator.any fun mediator => decide (maxDidLen < mediator.utf8ByteSize) then
    .error "mediator must be at most 512 bytes"
  else .ok ()

def WakeRequest.payload (request : WakeRequest) : WakePayload :=
  ⟨request.v, request.mediator, request.count, request.urgency⟩

/-! ## Decoding -/

namespace ApnsEnvironment

def ofName : String → Option ApnsEnvironment
  | "sandbox" => some .sandbox
  | "production" => some .production
  | _ => none

end ApnsEnvironment

namespace Urgency

def ofName : String → Option Urgency
  | "interactive" => some .interactive
  | "background" => some .background
  | _ => none

end Urgency

namespace Value

/-- A field which must be there. -/
def required {α : Type} (decode : Value → Option α) (field : Option Value) : Option α :=
  field.bind decode

/-- A field with a default. -/
def defaulted {α : Type} (default : α) (decode : Value → Option α) : Option Value → Option α
  | none => some default
  | some value => decode value

def decodeWebPushKeys (value : Value) : Option WebPushKeys := do
  let [p256dh, auth] ← value.fields ["p256dh", "auth"] | none
  return ⟨← required decodeString p256dh, ← required decodeString auth⟩

/-- The `environment` of an APNs registration, which an object may leave out and an array may
not. -/
def decodeEnvironment (content : Value) (field : Option Value) :
    Option (Option ApnsEnvironment) :=
  match content, field with
  | .array _, none => none
  | _, field => defaulted none (decodeOption (decodeVariant isNullOrEmpty ApnsEnvironment.ofName))
      field

/-- The variant named by a registration's `platform`, from the rest of its content. -/
def decodePlatform (platform : String) (content : Value) : Option PushRegistration :=
  match platform with
  | "apns" => do
      let [token, topic, environment] ← content.fields ["token", "topic", "environment"] | none
      return .apns (← required decodeString token) (← required decodeString topic)
        (← decodeEnvironment content environment)
  | "fcm" => do
      let [token] ← content.fields ["token"] | none
      return .fcm (← required decodeString token)
  | "webpush" => do
      let [endpoint, keys] ← content.fields ["endpoint", "keys"] | none
      return .webpush (← required decodeString endpoint) (← required decodeWebPushKeys keys)
  | _ => none

/-- A registration: tagged by its `platform`, or an array which starts with it. -/
def decodePushRegistration : Value → Option PushRegistration
  | .object members => do
      let platform ← (members.lookup "platform").bind decodeString
      decodePlatform platform (.object members)
  | .array (tag :: items) => do
      let platform ← decodeString tag
      decodePlatform platform (.array items)
  | _ => none

def decodeRegisterRequest (value : Value) : Option RegisterRequest := do
  let [registration, controllerVtaDid] ← value.fields ["registration", "controllerVtaDid"] | none
  return ⟨← required decodePushRegistration registration,
    ← required decodeString controllerVtaDid⟩

def decodeWakeTriggerPolicy (value : Value) : Option WakeTriggerPolicy := do
  let [allowedTriggers] ← value.fields ["allowedTriggers"] | none
  return ⟨← defaulted [] (decodeList decodeString) allowedTriggers⟩

def decodeProvisionRequest (value : Value) : Option ProvisionRequest := do
  let [handle, policy] ← value.fields ["handle", "policy"] | none
  return ⟨← required decodeString handle, ← required decodeWakeTriggerPolicy policy⟩

def decodeWakeRequest (value : Value) : Option WakeRequest := do
  let [handle, v, mediator, count, urgency] ←
    value.fields ["handle", "v", "mediator", "count", "urgency"] | none
  return ⟨← required decodeString handle, ← required (decodeUnsigned (2 ^ 8)) v,
    ← defaulted none (decodeOption decodeString) mediator,
    ← defaulted none (decodeOption (decodeUnsigned (2 ^ 32))) count,
    ← defaulted none (decodeOption (decodeVariant isNull Urgency.ofName)) urgency⟩

end Value

end PushGateway
