import PushGateway.Api

/-!
# The issuer a proof establishes

`verifyIssuer` checks a document's Data Integrity proof against the issuer the document names, and
answers with the issuer's bare DID.
-/

namespace PushGateway

/-- `CryptoSuite`. -/
inductive CryptoSuite where
  | eddsaJcs2022
  | other (name : String)
  deriving DecidableEq, Repr

/-- `DataIntegrityProof`, with the members which only the signature check reads in the value. -/
structure DataIntegrityProof where
  cryptosuite : CryptoSuite
  proofPurpose : String
  verificationMethod : String
  value : Value

/-- `DataIntegrityError`: what the key lookup says, or anything else. -/
inductive DataIntegrityError where
  | resolver (reason : String)
  | other
  deriving DecidableEq, Repr

/-- The functions of other crates which the verifier calls. -/
structure ProofCrates where
  /-- `serde_json::from_value::<DataIntegrityProof>`. -/
  parseProof : Value → Option DataIntegrityProof
  /-- `ProofPurpose::parse` gives `ProofPurpose::Authentication`. -/
  isAuthentication : String → Bool
  /-- `DataIntegrityProof::verify` with the gateway's key lookup. -/
  verify : DataIntegrityProof → Value → Except DataIntegrityError Unit

/-- `text.split_once(separator)`. -/
def splitOnce (separator : Char) (text : String) : Option (String × String) :=
  let front := text.toList.takeWhile fun char => char ≠ separator
  match text.toList.drop front.length with
  | [] => none
  | _ :: back => some (String.ofList front, String.ofList back)

/-- `obj.remove(key)`. -/
def Value.remove (key : String) : Value → Value
  | .object members => .object (members.filter fun member => member.1 ≠ key)
  | value => value

variable {DocumentDigest : Type} (crates : Crates DocumentDigest) (proofs : ProofCrates)

/-- The checks which follow once the proof is parsed. -/
def checkProof (raw : Value) (issuer : String) (proof : DataIntegrityProof) :
    Except ProofError String :=
  if proof.cryptosuite ≠ .eddsaJcs2022 then
    .error (.invalid "proof cryptosuite must be eddsa-jcs-2022")
  else if ¬proofs.isAuthentication proof.proofPurpose then
    .error (.invalid "proof purpose must be authentication")
  else
    match splitOnce '#' proof.verificationMethod with
    | none => .error (.invalid "proof verificationMethod is not a DID URL with a fragment")
    | some (vmDid, fragment) =>
        if vmDid ≠ issuer ∨ fragment = "" then
          .error (.invalid "proof verificationMethod is not controlled by the document issuer")
        else
          match proofs.verify proof (raw.remove "proof") with
          | .error (.resolver reason) => .error (.invalid reason)
          | .error .other => .error (.invalid "proof signature does not verify")
          | .ok () => .ok (crates.stripScidSrc issuer)

/-- `ProofVerifier::verify_issuer`. -/
def verifyIssuer (raw : Value) : Except ProofError String :=
  match raw.get? "proof" with
  | none | some .null => .error .missing
  | some proofValue =>
      match (raw.getStr "issuer").filter fun issuer => issuer ≠ "" with
      | none => .error (.invalid "document carries a proof but no issuer to bind it to")
      | some issuer =>
          match proofs.parseProof proofValue with
          | none => .error (.invalid "proof is not a Data Integrity proof")
          | some proof => checkProof crates proofs raw issuer proof

variable {crates proofs}

theorem checkProof_ok {raw : Value} {issuer proven : String} {proof : DataIntegrityProof}
    (checked : checkProof crates proofs raw issuer proof = .ok proven) :
    proven = crates.stripScidSrc issuer := by
  simp only [checkProof] at checked
  split at checked
  · cases checked
  · split at checked
    · cases checked
    · split at checked
      · cases checked
      · split at checked
        · cases checked
        · split at checked
          · cases checked
          · cases checked
          · cases checked
            rfl

/-- A proven issuer is known by its bare DID. -/
theorem verifyIssuer_ok {raw : Value} {proven : String}
    (verified : verifyIssuer crates proofs raw = .ok proven) :
    ∃ issuer, raw.getStr "issuer" = some issuer ∧ proven = crates.stripScidSrc issuer := by
  simp only [verifyIssuer] at verified
  split at verified
  · cases verified
  · cases verified
  · split at verified
    · cases verified
    · rename_i issuer named
      split at verified
      · cases verified
      · exact ⟨issuer, (Option.filter_eq_some_iff.mp named).1, checkProof_ok verified⟩

end PushGateway
