import PushGateway.Proof
import PushGateway.Store.History

/-!
# The spelling of a trigger

A proven issuer is known by its bare DID, and an allowlist keeps the spelling its controller sent.
A wake is authorised exactly if the list names the trigger by the bare DID.
-/

namespace PushGateway

open Execution

variable {DocumentDigest : Type} {crates : Crates DocumentDigest} {proofs : ProofCrates}

theorem authorizeWake_allowed_iff (store : Store) (handle trigger : String) :
    (∃ registration, store.authorizeWake handle trigger = .allowed registration) ↔
      ∃ record, store.state.handles.lookup handle = some record ∧
        trigger ∈ record.allowedTriggers := by
  simp only [Store.authorizeWake_iff]
  constructor
  · rintro ⟨registration, record, found, _, listed⟩
    exact ⟨record, found, listed⟩
  · rintro ⟨record, found, listed⟩
    exact ⟨record.registration, record, found, rfl, listed⟩

/-- The stored list of a handle is the one a provision left. -/
def Unchanged (crates : Crates DocumentDigest) (store : Store) (handle callerDid : String)
    (policy : WakeTriggerPolicy) (later : List StoreCall) : Prop :=
  let provisioned := next (Store.perform crates) store (.provision handle callerDid policy)
  let reached := run (next (Store.perform crates)) provisioned later
  (reached.state.handles.lookup handle).map HandleRecord.allowedTriggers =
    (provisioned.state.handles.lookup handle).map HandleRecord.allowedTriggers

/-- An issuer whom an entry refers to is authorised exactly if the list names its bare DID. -/
theorem wake_authorised_iff (compares : crates.ComparesDids) {store : Store}
    {handle callerDid : String} {asked policy : WakeTriggerPolicy}
    (accepted : asked.validateAndNormalize = .ok policy)
    (provisioned : (store.perform crates (.provision handle callerDid policy)).1 =
      .provisioned .ok)
    {later : List StoreCall} (unchanged : Unchanged crates store handle callerDid policy later)
    {entry : String} {body : Value} {named issuer : String}
    (names : body.getStr "issuer" = some named)
    (proven : verifyIssuer crates proofs body = .ok issuer)
    (same : crates.sameReference named entry = true) :
    (∃ registration, (run (next (Store.perform crates))
        (next (Store.perform crates) store (.provision handle callerDid policy))
        later).authorizeWake handle issuer = .allowed registration) ↔
      crates.stripScidSrc entry ∈ asked.allowedTriggers := by
  obtain ⟨_, named', rfl⟩ := verifyIssuer_ok proven
  rw [names] at named'
  cases named'
  obtain ⟨record, found, list⟩ := Store.lookup_provisioned crates provisioned
  rw [Unchanged, found, Option.map_some, list] at unchanged
  obtain ⟨reached, still, list'⟩ := Option.map_eq_some_iff.mp unchanged
  have normalised := (WakeTriggerPolicy.validateAndNormalize_ok accepted).2.2.2
  rw [authorizeWake_allowed_iff, (compares.sameReference_iff _ _).mp same, ← normalised]
  simp [still, list']

/-- A proof which verifies as soon as it is well formed. -/
def plainProofs : ProofCrates where
  parseProof value := (value.getStr "verificationMethod").map fun verificationMethod =>
    ⟨.eddsaJcs2022, "authentication", verificationMethod, value⟩
  isAuthentication purpose := decide (purpose = "authentication")
  verify _ _ := .ok ()

private def signedBy (issuer : String) : Value :=
  .object [("issuer", .string issuer),
    ("proof", .object [("verificationMethod", .string (issuer ++ "#key"))])]

private def issued : Store :=
  run (next (Store.perform plainCrates)) (Store.withLimits StoreLimits.default)
    [.insertAt "h" (.fcm "t") "did:web:vta" 0]

/-- A trigger listed with its locator cannot wake the handle, however it spells its name. -/
theorem listed_trigger_refused :
    ¬∀ (store : Store) (handle callerDid : String) (asked policy : WakeTriggerPolicy),
      asked.validateAndNormalize = .ok policy →
      (store.perform plainCrates (.provision handle callerDid policy)).1 = .provisioned .ok →
      ∀ later, Unchanged plainCrates store handle callerDid policy later →
      ∀ entry ∈ asked.allowedTriggers, ∀ (body : Value) (named issuer : String),
        body.getStr "issuer" = some named →
        verifyIssuer plainCrates plainProofs body = .ok issuer →
        plainCrates.sameReference named entry = true →
        ∃ registration, (run (next (Store.perform plainCrates))
          (next (Store.perform plainCrates) store (.provision handle callerDid policy))
          later).authorizeWake handle issuer = .allowed registration := by
  intro known
  obtain ⟨registration, allowed⟩ := known issued "h" "did:web:vta" ⟨["did:scid:t?src=a"]⟩
    ⟨["did:scid:t?src=a"]⟩ (by decide) (by decide) [] rfl "did:scid:t?src=a" (by decide)
    (signedBy "did:scid:t?src=a") "did:scid:t?src=a" "did:scid:t" (by decide) (by decide)
    (by decide)
  have refused : WakeAuthz.allowed registration = .notAllowed := allowed.symm.trans (by decide)
  cases refused

/-- A trigger listed by its bare DID may present its locator. -/
theorem wake_authorised_bare :
    ∃ registration, (run (next (Store.perform plainCrates))
      (next (Store.perform plainCrates) issued
        (.provision "h" "did:web:vta" ⟨["did:scid:t"]⟩)) []).authorizeWake "h" "did:scid:t" =
        .allowed registration := by
  have accepted : (⟨["did:scid:t"]⟩ : WakeTriggerPolicy).validateAndNormalize =
      .ok ⟨["did:scid:t"]⟩ := by decide
  have provisioned : (issued.perform plainCrates
      (.provision "h" "did:web:vta" ⟨["did:scid:t"]⟩)).1 = .provisioned .ok := by decide
  have unchanged : Unchanged plainCrates issued "h" "did:web:vta" ⟨["did:scid:t"]⟩ [] := rfl
  have proven : verifyIssuer plainCrates plainProofs (signedBy "did:scid:t?src=a") =
      .ok "did:scid:t" := by decide
  have same : plainCrates.sameReference "did:scid:t?src=a" "did:scid:t" = true := by decide
  exact (wake_authorised_iff plainCrates_comparesDids accepted provisioned unchanged rfl proven
    same).mpr (by decide)

end PushGateway
