import PushGateway.Proof

/-!
# The keys an issuer authorises

The lookup of the key a proof names in the issuer's DID document, and what releasing a key says
about that document.
-/

namespace PushGateway

/-- The members of an array member of an object; none when it is anything else. -/
def Value.items (value : Value) (key : String) : List Value :=
  match value.get? key with
  | some (.array items) => items
  | _ => []

/-- `is_object()`. -/
def Value.isObject : Value → Bool
  | .object _ => true
  | _ => false

/-- An Ed25519 `ResolvedKey`. -/
structure ResolvedKey where
  bytes : List Nat
  deriving DecidableEq, Repr

/-- The functions of other crates which the key lookup calls. -/
structure KeyCrates (ProofPurpose : Type) where
  /-- `ProofPurpose::as_str`: the property of a DID document the purpose names. -/
  asStr : ProofPurpose → String
  /-- `DateTime::parse_from_rfc3339`. -/
  parseFromRfc3339 : String → Option DateTime
  /-- `bs58::decode(text).into_vec()`. -/
  decodeBase58 : String → Option (List Nat)

/-- `ED25519_MULTICODEC`. -/
def ed25519Multicodec : List Nat := [0xed, 0x01]

/-- Resolve a possibly-relative DID URL (`#key-0`) against `did`. -/
def absolute (did id : String) : String :=
  if id.toList.head? = some '#' then did ++ id else id

section Lookup

variable {DocumentDigest ProofPurpose : Type} (crates : Crates DocumentDigest)
  (keys : KeyCrates ProofPurpose)

def sameVm (issuer vm id : String) : Bool := crates.sameReference (absolute issuer id) vm

/-- The object has an `id` which names the method. -/
def hasVmId (issuer vm : String) (method : Value) : Bool :=
  (method.getStr "id").any (sameVm crates issuer vm)

/-- An entry of a relationship refers to the method or embeds it. -/
def listsVm (issuer vm : String) : Value → Bool
  | .string reference => sameVm crates issuer vm reference
  | .object members => hasVmId crates issuer vm (.object members)
  | _ => false

/-- Whether an `expires` member allows the method at this time. -/
def isStillValid (now : DateTime) (expires : Value) : Bool :=
  (expires.asStr.bind keys.parseFromRfc3339).any fun time => decide (now < time)

/-- The key a method carries. -/
def methodKey (method : Value) : Except ProofError ResolvedKey :=
  match method.getStr "publicKeyMultibase" with
  | none => .error (.invalid "verificationMethod carries no publicKeyMultibase")
  | some multibase =>
      let decoded :=
        match multibase.toList with
        | 'z' :: encoded => keys.decodeBase58 (String.ofList encoded)
        | _ => none
      match decoded with
      | none => .error (.invalid "verificationMethod key is not base58btc multibase")
      | some raw =>
          let key := raw.drop ed25519Multicodec.length
          if ed25519Multicodec.isPrefixOf raw ∧ key.length = 32 then .ok ⟨key⟩
          else .error (.invalid "verificationMethod key is not an Ed25519 key")

/-- Step 4 for any signing purpose. -/
def keyForPurposeIn (doc : Value) (issuer vm : String) (purpose : ProofPurpose)
    (now : DateTime) : Except ProofError ResolvedKey :=
  let relationship := keys.asStr purpose
  if ¬(doc.getStr "id").any (fun id => crates.sameReference id issuer) then
    .error (.invalid "resolved DID document is not the issuer's")
  else
    let methods :=
      doc.items "verificationMethod" ++ (doc.items relationship).filter Value.isObject
    match methods.find? (hasVmId crates issuer vm) with
    | none =>
        .error (.invalid "issuer DID document does not list the proof's verificationMethod")
    | some method =>
        if ¬(method.getStr "controller").any (fun controller =>
            crates.sameReference controller issuer) then
          .error (.invalid "the proof's verificationMethod is not controlled by the issuer")
        else if (method.get? "revoked").any fun revoked => !revoked.isNull then
          .error (.invalid "the proof's verificationMethod is revoked")
        else if ¬((method.get? "expires").filter fun expires => !expires.isNull).all
            (isStillValid keys now) then
          .error (.invalid "the proof's verificationMethod has expired")
        else if ¬(doc.items relationship).any (listsVm crates issuer vm) then
          .error (.invalid ("the proof's verificationMethod is not an " ++ relationship ++
            " method of the issuer"))
        else methodKey keys method

/-! ## What a released key says -/

/-- A method object whose key the issuer may use now. -/
structure Usable (issuer : String) (now : DateTime) (method : Value) (key : ResolvedKey) :
    Prop where
  controlled : ∃ controller,
    method.getStr "controller" = some controller ∧ crates.sameReference controller issuer
  unrevoked : ∀ revoked, method.get? "revoked" = some revoked → revoked = .null
  unexpired : ∀ expires, method.get? "expires" = some expires → expires ≠ .null →
    ∃ text time, expires = .string text ∧ keys.parseFromRfc3339 text = some time ∧ now < time
  decodes : ∃ encoded, method.getStr "publicKeyMultibase" = some ("z" ++ encoded) ∧
    keys.decodeBase58 encoded = some (ed25519Multicodec ++ key.bytes) ∧ key.bytes.length = 32

/-- The document is the issuer's, and its relationship authorises the key: it refers to a method
of the document which has the key, or it embeds one which has. -/
structure Authorises (doc : Value) (issuer vm : String) (purpose : ProofPurpose) (now : DateTime)
    (key : ResolvedKey) : Prop where
  own : ∃ id, doc.getStr "id" = some id ∧ crates.sameReference id issuer
  listed :
    (∃ reference method, .string reference ∈ doc.items (keys.asStr purpose) ∧
      sameVm crates issuer vm reference ∧ method ∈ doc.items "verificationMethod" ∧
      hasVmId crates issuer vm method ∧ Usable crates keys issuer now method key) ∨
    ∃ method ∈ doc.items (keys.asStr purpose), hasVmId crates issuer vm method ∧
      Usable crates keys issuer now method key

/-- A method object of the document stands before those the relationship embeds under its id, none
of which has its key, and the relationship does not refer to it. -/
structure Shadowed (doc : Value) (issuer vm : String) (purpose : ProofPurpose) (now : DateTime)
    (key : ResolvedKey) : Prop where
  own : ∃ id, doc.getStr "id" = some id ∧ crates.sameReference id issuer
  first : ∃ method,
    (doc.items "verificationMethod").find? (hasVmId crates issuer vm) = some method ∧
      Usable crates keys issuer now method key
  unreferenced : ∀ reference, .string reference ∈ doc.items (keys.asStr purpose) →
    ¬sameVm crates issuer vm reference
  embedded : ∃ method ∈ doc.items (keys.asStr purpose), hasVmId crates issuer vm method
  otherwise : ∀ method ∈ doc.items (keys.asStr purpose), hasVmId crates issuer vm method →
    ¬Usable crates keys issuer now method key

variable {crates keys}

theorem listsVm_iff (issuer vm : String) (entry : Value) :
    listsVm crates issuer vm entry ↔
      (∃ reference, entry = .string reference ∧ sameVm crates issuer vm reference) ∨
        hasVmId crates issuer vm entry := by
  cases entry with
  | string value => simp [listsVm, hasVmId, Value.getStr, Value.get?]
  | object members => simp [listsVm]
  | null | bool value | number value | array items =>
      simp [listsVm, hasVmId, Value.getStr, Value.get?]

theorem isNull_iff (value : Value) : value.isNull ↔ value = .null := by
  cases value <;> simp [Value.isNull]

theorem isStillValid_iff (now : DateTime) (expires : Value) :
    isStillValid keys now expires ↔
      ∃ text time, expires = .string text ∧ keys.parseFromRfc3339 text = some time ∧
        now < time := by
  cases expires with
  | string text => simp [isStillValid, Value.asStr, Option.any_eq_true]
  | null | bool value | number value | array items | object members =>
      simp [isStillValid, Value.asStr]

theorem not_revoked_iff (method : Value) :
    ¬((method.get? "revoked").any fun revoked => !revoked.isNull) ↔
      ∀ revoked, method.get? "revoked" = some revoked → revoked = .null := by
  simp only [← isNull_iff]
  cases method.get? "revoked" <;> simp

theorem not_expired_iff (now : DateTime) (method : Value) :
    ((method.get? "expires").filter fun expires => !expires.isNull).all (isStillValid keys now) ↔
      ∀ expires, method.get? "expires" = some expires → expires ≠ .null →
        isStillValid keys now expires := by
  simp only [ne_eq, ← isNull_iff]
  cases method.get? "expires" with
  | none => simp
  | some expires => cases null : expires.isNull <;> simp [Option.filter, null]

theorem methodKey_eq_ok_iff {method : Value} {key : ResolvedKey} :
    methodKey keys method = .ok key ↔
      ∃ encoded, method.getStr "publicKeyMultibase" = some ("z" ++ encoded) ∧
        keys.decodeBase58 encoded = some (ed25519Multicodec ++ key.bytes) ∧
          key.bytes.length = 32 := by
  obtain ⟨bytes⟩ := key
  rw [methodKey]
  constructor
  · intro read
    split at read
    · cases read
    · rename_i multibase carried
      simp only at read
      split at read
      · cases read
      · rename_i raw decoded
        split at read
        · rename_i shape
          cases read
          split at decoded
          · rename_i encoded spelled
            have multibase_eq : multibase = "z" ++ String.ofList encoded := by
              rw [← String.toList_inj, spelled, String.toList_append,
                @String.toList_ofList encoded]
              rfl
            have raw_eq := List.prefix_iff_eq_append.mp (List.isPrefixOf_iff_prefix.mp shape.1)
            refine ⟨String.ofList encoded, by rw [carried, multibase_eq], ?_, shape.2⟩
            rw [decoded, raw_eq]
          · cases decoded
        · cases read
  · rintro ⟨encoded, carried, decoded, sized⟩
    have spelled : ("z" ++ encoded).toList = 'z' :: encoded.toList := String.toList_append
    rw [carried]
    simp only [spelled, String.ofList_toList, decoded, List.drop_left]
    rw [if_pos ⟨List.isPrefixOf_iff_prefix.mpr (List.prefix_append _ _), sized⟩]

/-- What the lookup checks, in one condition. -/
theorem keyForPurposeIn_eq_ok_iff {doc : Value} {issuer vm : String} {purpose : ProofPurpose}
    {now : DateTime} {key : ResolvedKey} :
    keyForPurposeIn crates keys doc issuer vm purpose now = .ok key ↔
      (∃ id, doc.getStr "id" = some id ∧ crates.sameReference id issuer) ∧
        ∃ method,
          (doc.items "verificationMethod" ++
            (doc.items (keys.asStr purpose)).filter Value.isObject).find?
              (hasVmId crates issuer vm) = some method ∧
          Usable crates keys issuer now method key ∧
          ∃ entry ∈ doc.items (keys.asStr purpose), listsVm crates issuer vm entry := by
  simp only [keyForPurposeIn]
  constructor
  · intro released
    split at released
    · cases released
    · rename_i own
      split at released
      · cases released
      · rename_i method found
        split at released
        · cases released
        · rename_i controlled
          split at released
          · cases released
          · rename_i unrevoked
            split at released
            · cases released
            · rename_i unexpired
              split at released
              · cases released
              · rename_i listed
                refine ⟨(Option.any_eq_true _ _).mp (not_not.mp own), method, found,
                  ⟨?_, ?_, ?_, ?_⟩, List.any_eq_true.mp (not_not.mp listed)⟩
                · exact (Option.any_eq_true _ _).mp (not_not.mp controlled)
                · exact (not_revoked_iff method).mp unrevoked
                · intro expires present not_null
                  rw [← isStillValid_iff]
                  exact (not_expired_iff now method).mp (not_not.mp unexpired) expires present
                    not_null
                · exact methodKey_eq_ok_iff.mp released
  · rintro ⟨own, method, found, usable, listed⟩
    have unexpired : ∀ expires, method.get? "expires" = some expires → expires ≠ .null →
        isStillValid keys now expires :=
      fun expires present not_null =>
        (isStillValid_iff now expires).mpr (usable.unexpired expires present not_null)
    rw [if_neg (not_not.mpr ((Option.any_eq_true _ _).mpr own)), found]
    simp only
    rw [if_neg (not_not.mpr ((Option.any_eq_true _ _).mpr usable.controlled)),
      if_neg ((not_revoked_iff method).mpr usable.unrevoked),
      if_neg (not_not.mpr ((not_expired_iff now method).mpr unexpired)),
      if_neg (not_not.mpr (List.any_eq_true.mpr listed))]
    exact methodKey_eq_ok_iff.mpr usable.decodes

/-- The method found is one of the document's own, or the relationship embeds it. -/
theorem find?_methods {own embedded : List Value} {issuer vm : String} {method : Value}
    (found : (own ++ embedded.filter Value.isObject).find? (hasVmId crates issuer vm) =
      some method) :
    own.find? (hasVmId crates issuer vm) = some method ∨
      method ∈ embedded ∧ hasVmId crates issuer vm method := by
  rw [List.find?_append, Option.or_eq_some_iff] at found
  obtain first | ⟨-, later⟩ := found
  · exact Or.inl first
  · have listed := List.mem_of_find?_eq_some later
    exact Or.inr ⟨List.mem_of_mem_filter listed, List.find?_some later⟩

variable (crates keys)

/-- A released key is one the relationship authorises, except where the method found shadows what
the relationship embeds under the same id. -/
theorem released_authorised_iff (doc : Value) (issuer vm : String) (purpose : ProofPurpose)
    (now : DateTime) :
    (∀ key, keyForPurposeIn crates keys doc issuer vm purpose now = .ok key →
      Authorises crates keys doc issuer vm purpose now key) ↔
    ¬∃ key, Shadowed crates keys doc issuer vm purpose now key := by
  constructor
  · rintro authorised ⟨key, shadowed⟩
    obtain ⟨method, first, usable⟩ := shadowed.first
    obtain ⟨entry, embedded, named⟩ := shadowed.embedded
    have released : keyForPurposeIn crates keys doc issuer vm purpose now = .ok key := by
      refine keyForPurposeIn_eq_ok_iff.mpr ⟨shadowed.own, method, ?_, usable, entry, embedded,
        (listsVm_iff issuer vm entry).mpr (Or.inr named)⟩
      rw [List.find?_append, first]
      rfl
    obtain ⟨reference, -, listed, refers, -⟩ | ⟨other, listed, other_named, other_usable⟩ :=
      (authorised key released).listed
    · exact shadowed.unreferenced reference listed refers
    · exact shadowed.otherwise other listed other_named other_usable
  · intro unshadowed key released
    obtain ⟨own, method, found, usable, entry, listed, lists⟩ :=
      keyForPurposeIn_eq_ok_iff.mp released
    refine ⟨own, ?_⟩
    obtain first | ⟨embedded, named⟩ := find?_methods found
    · have in_document := List.mem_of_find?_eq_some first
      have method_named := List.find?_some first
      by_cases referenced : ∃ reference, .string reference ∈ doc.items (keys.asStr purpose) ∧
          sameVm crates issuer vm reference
      · obtain ⟨reference, refers⟩ := referenced
        exact Or.inl ⟨reference, method, refers.1, refers.2, in_document, method_named, usable⟩
      · -- Only an embedded entry lists the method, so one of them must have its key.
        obtain ⟨reference, rfl, refers⟩ | entry_named := (listsVm_iff issuer vm entry).mp lists
        · exact absurd ⟨reference, listed, refers⟩ referenced
        · by_contra unauthorised
          refine unshadowed ⟨key, own, ⟨method, first, usable⟩, ?_,
            ⟨entry, listed, entry_named⟩, ?_⟩
          · exact fun reference listed refers => referenced ⟨reference, listed, refers⟩
          · exact fun other listed named usable =>
              unauthorised (Or.inr ⟨other, listed, named, usable⟩)
    · exact Or.inr ⟨method, embedded, named, usable⟩

end Lookup

/-! ## The lookup a proof goes through -/

/-- `MAX_DID_DOCUMENT_BYTES`. -/
def maxDidDocumentBytes : Nat := 64 * 1024

/-- `ProofError::to_string`. -/
def ProofError.text : ProofError → String
  | .missing => "document carries no proof"
  | .invalid reason => reason

/-- What the lookup reads from outside: the resolver, the resolved documents as JSON values, and the
size of their text. -/
structure IssuerKeys where
  /-- The JSON value of the document it resolves to, if it serialises. -/
  resolve : String → Option (Option Value)
  serialisedBytes : Value → Option Nat

/-- Refuse a resolved DID document which is too large, or does not serialise. -/
def checkDocumentSize (issuerKeys : IssuerKeys) (doc : Value) : Except ProofError Unit :=
  if (issuerKeys.serialisedBytes doc).all fun size => decide (maxDidDocumentBytes < size) then
    .error (.invalid "issuer DID document is too large")
  else .ok ()

section Resolve

variable {DocumentDigest ProofPurpose : Type} (crates : Crates DocumentDigest)
  (keys : KeyCrates ProofPurpose)

/-- `ProofPurposeResolver::resolve_vm_for_purpose`. -/
def resolveVmForPurpose (issuerKeys : IssuerKeys) (vm : String) (purpose : ProofPurpose)
    (now : DateTime) : Except DataIntegrityError ResolvedKey :=
  let released : Except ProofError ResolvedKey :=
    match splitOnce '#' vm with
    | none => .error (.invalid "verificationMethod is not a DID URL")
    | some (did, _) =>
        match issuerKeys.resolve did with
        | none => .error (.invalid "could not resolve the proof issuer's DID document")
        | some none => .error (.invalid "issuer DID document did not serialise")
        | some (some doc) =>
            match checkDocumentSize issuerKeys doc with
            | .error error => .error error
            | .ok () => keyForPurposeIn crates keys doc did vm purpose now
  released.mapError fun error => .resolver error.text

variable {crates keys}

/-- A key comes from the resolved document of the DID the method names. -/
theorem resolveVmForPurpose_eq_ok {issuerKeys : IssuerKeys} {vm : String} {purpose : ProofPurpose}
    {now : DateTime} {key : ResolvedKey}
    (resolved : resolveVmForPurpose crates keys issuerKeys vm purpose now = .ok key) :
    ∃ did fragment doc, splitOnce '#' vm = some (did, fragment) ∧
      issuerKeys.resolve did = some (some doc) ∧
      keyForPurposeIn crates keys doc did vm purpose now = .ok key := by
  simp only [resolveVmForPurpose] at resolved
  cases split : splitOnce '#' vm with
  | none =>
      rw [split] at resolved
      cases resolved
  | some parts =>
      obtain ⟨did, fragment⟩ := parts
      cases answer : issuerKeys.resolve did with
      | none =>
          simp only [split, answer] at resolved
          cases resolved
      | some serialised =>
          cases serialised with
          | none =>
              simp only [split, answer] at resolved
              cases resolved
          | some doc =>
              simp only [split, answer] at resolved
              split at resolved
              · cases resolved
              · cases found : keyForPurposeIn crates keys doc did vm purpose now with
                | error error =>
                    rw [found] at resolved
                    cases resolved
                | ok released =>
                    rw [found] at resolved
                    cases resolved
                    exact ⟨did, fragment, doc, rfl, answer, found⟩

end Resolve

/-! ## A document which shadows -/

/-- The digits of base 58, in order. -/
def base58Alphabet : List Char :=
  "123456789ABCDEFGHJKLMNPQRSTUVWXYZabcdefghijkmnopqrstuvwxyz".toList

/-- The big-endian bytes of a number before those given. -/
def bytesOf : Nat → Nat → List Nat → List Nat
  | 0, _, bytes => bytes
  | _, 0, bytes => bytes
  | fuel + 1, value, bytes => bytesOf fuel (value / 256) (value % 256 :: bytes)

/-- Base 58, with a zero byte for every leading zero digit. -/
def plainDecodeBase58 (text : String) : Option (List Nat) := do
  let digits ← text.toList.mapM fun char => base58Alphabet.idxOf? char
  let value := digits.foldl (fun total digit => total * 58 + digit) 0
  return List.replicate (digits.takeWhile fun digit => digit = 0).length 0 ++
    bytesOf digits.length value []

/-- Functions with the documented behaviour, reading no dates. -/
def plainKeys : KeyCrates String where
  asStr purpose := purpose
  parseFromRfc3339 _ := none
  decodeBase58 := plainDecodeBase58

def multikey (multibase : String) : Value :=
  .object [("id", .string "did:web:vta.example#key-0"), ("type", .string "Multikey"),
    ("controller", .string "did:web:vta.example"), ("publicKeyMultibase", .string multibase)]

/-- The method of the document and the embedded one have one id and two keys. -/
def shadowingDocument : Value :=
  .object [("id", .string "did:web:vta.example"),
    ("verificationMethod",
      .array [multikey "z6MkhaXgBZDvotDkL5257faiztiGiC2QtKLGpbnnEGta2doK"]),
    ("authentication",
      .array [multikey "z6MkpTHR8VNsBxYAAWHut2Geadd9jSwuBV8xRoAnwWsdvktH"])]

/-- The key of the method is released, though only the embedded one authenticates. -/
theorem shadowing_key_released :
    ¬∀ key, keyForPurposeIn plainCrates plainKeys shadowingDocument "did:web:vta.example"
        "did:web:vta.example#key-0" "authentication" 0 = .ok key →
      Authorises plainCrates plainKeys shadowingDocument "did:web:vta.example"
        "did:web:vta.example#key-0" "authentication" 0 key := by
  intro authorised
  let key : ResolvedKey := ⟨[46, 111, 204, 227, 103, 1, 220, 121, 20, 136, 224, 208, 177, 116, 92,
    193, 227, 58, 76, 28, 159, 204, 65, 198, 59, 211, 67, 219, 190, 9, 112, 230]⟩
  have released : keyForPurposeIn plainCrates plainKeys shadowingDocument "did:web:vta.example"
      "did:web:vta.example#key-0" "authentication" 0 = .ok key := by
    decide +kernel
  obtain ⟨reference, -, listed, -⟩ | ⟨method, listed, -, usable⟩ := (authorised key released).listed
  · cases listed with
    | tail _ rest => cases rest
  · obtain rfl := List.mem_singleton.mp listed
    obtain ⟨encoded, carried, decoded, -⟩ := usable.decodes
    have spelled : encoded = "6MkpTHR8VNsBxYAAWHut2Geadd9jSwuBV8xRoAnwWsdvktH" :=
      (String.append_right_inj "z").mp (Option.some.inj carried).symm
    rw [spelled] at decoded
    exact absurd decoded (by decide +kernel)

end PushGateway
