import Mathlib.Data.List.TakeWhile
import PushGateway.Basic

/-!
# Documents

JSON values, Trust Task documents and the answers built for them.  Decoding follows what
`serde` derives: a struct is read from an object by its field names, or from an array by the
order of its fields, and members nobody asks for are ignored.
-/

namespace PushGateway

/-! ## JSON values -/

/-- A JSON number: an integer, or anything else by its text. -/
inductive Number where
  | int (value : Int)
  | float (text : String)
  deriving DecidableEq, Repr

/-- A JSON value. -/
inductive Value where
  | null
  | bool (value : Bool)
  | number (value : Number)
  | string (value : String)
  | array (items : List Value)
  | object (members : List (String × Value))

namespace Value

/-- `value.get(key)`. -/
def get? (value : Value) (key : String) : Option Value :=
  match value with
  | .object members => members.lookup key
  | _ => none

/-- `value.as_str()`. -/
def asStr : Value → Option String
  | .string text => some text
  | _ => none

/-- `body.get(key).and_then(Value::as_str)`. -/
def getStr (value : Value) (key : String) : Option String := (value.get? key).bind asStr

/-! ## Derived decoders -/

/-- `String`. -/
def decodeString : Value → Option String := asStr

/-- `u8` and `u32`: an integer below the bound. -/
def decodeUnsigned (bound : Nat) : Value → Option Nat
  | .number (.int value) => if 0 ≤ value ∧ value < bound then some value.toNat else none
  | _ => none

/-- `Vec<T>`. -/
def decodeList {α : Type} (decode : Value → Option α) : Value → Option (List α)
  | .array items => items.mapM decode
  | _ => none

/-- `Option<T>`: `null` is `None`. -/
def decodeOption {α : Type} (decode : Value → Option α) : Value → Option (Option α)
  | .null => some none
  | value => (decode value).map some

/-- A unit variant of an enumeration, by its name or as `{ name: content }`, where `unit` says
which contents the format reads as `()`. -/
def decodeVariant {α : Type} (unit : Value → Bool) (variant : String → Option α) :
    Value → Option α
  | .string name => variant name
  | .object [(name, content)] => if unit content then variant name else none
  | _ => none

/-- `()` read from a JSON value. -/
def isNull : Value → Bool
  | .null => true
  | _ => false

/-- `()` read from the buffered content of a tagged enumeration, which takes `{}` as well. -/
def isNullOrEmpty : Value → Bool
  | .null => true
  | .object [] => true
  | _ => false

/-- The fields of a struct, by name from an object or by position from an array.  An array has no
more elements than the struct has fields. -/
def fields (names : List String) : Value → Option (List (Option Value))
  | .object members => some (names.map fun name => members.lookup name)
  | .array items =>
      if items.length ≤ names.length then
        some ((List.range names.length).map fun position => items[position]?)
      else none
  | _ => none

end Value

/-! ## Trust Tasks -/

/-- `TypeUri`: what the dispatcher matches on, and the text of the whole URI. -/
structure TypeUri where
  slug : String
  major : Nat
  minor : Nat
  text : String
  deriving DecidableEq, Repr

/-- `TrustTask<Value>`.  The members which no function here reads are kept together; the
document's digest covers them. -/
structure TrustTask where
  id : String
  typeUri : TypeUri
  recipient : Option String
  issuedAt : Option DateTime
  expiresAt : Option DateTime
  payload : Value
  members : Value

/-- `FreshnessPolicy`. -/
structure FreshnessPolicy where
  maxAge : Option TimeDelta
  skew : TimeDelta
  requireIssuedAt : Bool
  deriving DecidableEq, Repr

/-- `FreshnessPolicy::consequential()`: at most five minutes old, at most a minute ahead. -/
def FreshnessPolicy.consequential : FreshnessPolicy where
  maxAge := some (TimeDelta.seconds 300)
  skew := TimeDelta.seconds 60
  requireIssuedAt := true

/-- The document built in answer to a request: `respond_with` or `reject_with` with a new
identifier. -/
inductive Answer where
  | response (request : TrustTask) (id : String) (payload : Value)
  | error (request : TrustTask) (id : String) (reason : RejectReason)

/-- The answer is a `trust-task-error`. -/
def Answer.isError : Answer → Bool
  | .response _ _ _ => false
  | .error _ _ _ => true

/-! ## What comes from other crates -/

/-- `url::Host`. -/
inductive Host where
  | domain (name : String)
  | ipv4 (octets : List Nat)
  | ipv6 (segments : List Nat)
  deriving DecidableEq, Repr

/-- A parsed URL, with the host and port as the parser normalises them. -/
structure Url where
  scheme : String
  username : String
  password : Option String
  host : Option Host
  port : Option Nat
  path : String
  query : Option String
  fragment : Option String
  deriving DecidableEq, Repr

/-- The functions of other crates which the gateway calls.  A `DocumentDigest` is opaque. -/
structure Crates (DocumentDigest : Type) where
  /-- `affinidi_did_common::scid::strip_scid_src`. -/
  stripScidSrc : String → String
  /-- `affinidi_did_common::scid::same_reference`. -/
  sameReference : String → String → Bool
  /-- SHA-256 truncated to 128 bits, in base64url. -/
  sha256Prefix : String → String
  /-- `url::Url::parse`. -/
  parseUrl : String → Option Url
  /-- `URL_SAFE_NO_PAD.decode`. -/
  base64UrlDecode : String → Option (List Nat)
  /-- `p256::PublicKey::from_sec1_bytes` succeeds. -/
  isP256Point : List Nat → Bool
  /-- `trust_tasks_rs::document_digest`. -/
  documentDigest : TrustTask → Option DocumentDigest
  /-- `TrustTask::validate_freshness`. -/
  validateFreshness : TrustTask → DateTime → FreshnessPolicy → Except RejectReason Unit
  /-- `TrustTask::validate_basic`. -/
  validateBasic : TrustTask → DateTime → String → Except RejectReason Unit
  /-- Whether `validate_basic` takes the document's recipient for the given one. -/
  recipientAgrees : TrustTask → String → Bool

/-- The documented outcomes of the two validations. -/
structure Crates.Validates {DocumentDigest : Type} (crates : Crates DocumentDigest) : Prop where
  freshness : ∀ doc now policy,
    crates.validateFreshness doc now policy = .ok () → policy.requireIssuedAt →
      ∃ issued, doc.issuedAt = some issued ∧ issued ≤ now + policy.skew ∧
        ∀ age, policy.maxAge = some age → now ≤ issued + age + policy.skew
  basic : ∀ doc now recipient,
    crates.validateBasic doc now recipient = .ok () →
      (∀ expires, doc.expiresAt = some expires → now < expires) ∧
        crates.recipientAgrees doc recipient

/-- A document's digest covers the members which bound it in time. -/
def Crates.CoversTimes {DocumentDigest : Type} (crates : Crates DocumentDigest) : Prop :=
  ∀ doc doc' digest, crates.documentDigest doc = some digest →
    crates.documentDigest doc' = some digest →
    doc.issuedAt = doc'.issuedAt ∧ doc.expiresAt = doc'.expiresAt

/-- DIDs are compared without their locators, and a stripped DID has none. -/
structure Crates.ComparesDids {DocumentDigest : Type} (crates : Crates DocumentDigest) : Prop where
  sameReference_iff : ∀ left right,
    crates.sameReference left right = true ↔ crates.stripScidSrc left = crates.stripScidSrc right
  strip_strip : ∀ did, crates.stripScidSrc (crates.stripScidSrc did) = crates.stripScidSrc did

/-! ## A stand-in for the other crates -/

/-- A digest which keeps what it covers in the clear. -/
structure PlainDigest where
  id : String
  typeUri : TypeUri
  issuedAt : Option DateTime
  expiresAt : Option DateTime
  deriving DecidableEq, Repr

/-- The DID without the `?src=` locator of a `did:scid`. -/
def plainStrip (did : String) : String :=
  if did.toList.take 9 = "did:scid:".toList then
    String.ofList (did.toList.takeWhile fun char => char ≠ '?')
  else did

/-- Functions with the documented behaviour, but for the URLs and keys they refuse. -/
def plainCrates : Crates PlainDigest where
  stripScidSrc := plainStrip
  sameReference left right := decide (plainStrip left = plainStrip right)
  sha256Prefix material := material
  parseUrl _ := none
  base64UrlDecode _ := none
  isP256Point _ := false
  documentDigest doc := some ⟨doc.id, doc.typeUri, doc.issuedAt, doc.expiresAt⟩
  validateFreshness doc now policy :=
    match doc.issuedAt with
    | none => if policy.requireIssuedAt then .error .expired else .ok ()
    | some issued =>
        if now + policy.skew < issued then .error .expired
        else if policy.maxAge.any fun age => decide (issued + age + policy.skew < now) then
          .error .expired
        else .ok ()
  validateBasic doc now recipient :=
    if doc.expiresAt.any fun expires => decide (expires ≤ now) then .error .expired
    else if doc.recipient.any fun named => decide (plainStrip named ≠ plainStrip recipient) then
      .error (.wrongRecipient (doc.recipient.getD "") recipient)
    else .ok ()
  recipientAgrees doc recipient :=
    doc.recipient.all fun named => decide (plainStrip named = plainStrip recipient)

theorem plainCrates_validates : plainCrates.Validates where
  freshness doc now policy passed required := by
    simp only [plainCrates] at passed
    split at passed
    · simp [required] at passed
    · rename_i issued found
      split at passed
      · cases passed
      · rename_i early
        split at passed
        · cases passed
        · rename_i late
          refine ⟨issued, found, Int.not_lt.mp early, fun age aged => ?_⟩
          simpa [aged] using late
  basic doc now recipient passed := by
    simp only [plainCrates] at passed ⊢
    split at passed
    · cases passed
    · rename_i live
      split at passed
      · cases passed
      · rename_i agrees
        constructor
        · intro expires found
          simpa [found] using live
        · cases named : doc.recipient with
          | none => rfl
          | some named_did => simpa [named] using agrees

theorem plainStrip_plainStrip (did : String) : plainStrip (plainStrip did) = plainStrip did := by
  rw [plainStrip.eq_def did]
  split
  · rename_i scid
    simp only [plainStrip, String.toList_ofList, List.takeWhile_idem, ite_self]
  · rename_i other
    rw [plainStrip, if_neg other]

theorem plainCrates_comparesDids : plainCrates.ComparesDids where
  sameReference_iff _ _ := decide_eq_true_iff
  strip_strip := plainStrip_plainStrip

theorem plainCrates_coversTimes : plainCrates.CoversTimes := by
  intro doc doc' digest digested digested'
  have covered := Option.some.inj (digested.trans digested'.symm)
  exact ⟨congrArg PlainDigest.issuedAt covered, congrArg PlainDigest.expiresAt covered⟩

end PushGateway
