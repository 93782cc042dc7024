import PushGateway.Pipeline.Pushes
import PushGateway.Pipeline.Trigger
import PushGateway.Proof.Keys

/-!
# Signatures

Every push and every change of an allowlist, whatever runs beside it, rests on a document signed
with a key which its issuer's own DID document releases for authentication.
-/

namespace PushGateway

open Execution

variable {DocumentDigest ProofPurpose : Type}

/-! ## What verification establishes -/

/-- What one verification runs with: the functions it calls, the resolver, and the clock of the key
lookup. -/
structure Verifier where
  proofs : ProofCrates
  issuerKeys : IssuerKeys
  now : DateTime

/-- How the verifiers of a gateway are made: the purpose they ask for, and what they take for a
signature. -/
structure Signing (ProofPurpose : Type) where
  keys : KeyCrates ProofPurpose
  /-- `PROOF_PURPOSE`. -/
  purpose : ProofPurpose
  /-- The proof is a signature of the document with this key. -/
  signs : ResolvedKey → DataIntegrityProof → Value → Prop

variable (crates : Crates DocumentDigest) (signing : Signing ProofPurpose)

/-- `DataIntegrityProof::verify` with `PurposeBound`: the key of the proof's method is looked up for
the purpose, and the signature is checked against it. -/
def Verifier.BindsKeys (verifier : Verifier) : Prop :=
  ∀ proof unsigned, verifier.proofs.verify proof unsigned = .ok () →
    ∃ key, resolveVmForPurpose crates signing.keys verifier.issuerKeys proof.verificationMethod
        signing.purpose verifier.now = .ok key ∧
      signing.signs key proof unsigned

/-- A DID document releases the key: it lists the method for the purpose, and has an object of that
name which carries the key and which the issuer may use. -/
structure Releases (doc : Value) (issuer vm : String) (now : DateTime) (key : ResolvedKey) :
    Prop where
  own : ∃ id, doc.getStr "id" = some id ∧ crates.sameReference id issuer
  listed : ∃ entry ∈ doc.items (signing.keys.asStr signing.purpose), listsVm crates issuer vm entry
  method : ∃ method, (method ∈ doc.items "verificationMethod" ∨
      method ∈ doc.items (signing.keys.asStr signing.purpose)) ∧
    hasVmId crates issuer vm method ∧ Usable crates signing.keys issuer now method key

/-- The body names this issuer and is signed, but for its proof, with a key which the issuer's own
document releases. -/
structure SignedBy (verifier : Verifier) (body : Value) (issuer : String) : Prop where
  signature : ∃ named value proof fragment doc key,
    body.getStr "issuer" = some named ∧ crates.stripScidSrc named = issuer ∧
      body.get? "proof" = some value ∧ verifier.proofs.parseProof value = some proof ∧
      proof.cryptosuite = .eddsaJcs2022 ∧
      verifier.proofs.isAuthentication proof.proofPurpose = true ∧
      splitOnce '#' proof.verificationMethod = some (named, fragment) ∧
      verifier.issuerKeys.resolve named = some (some doc) ∧
      Releases crates signing doc named proof.verificationMethod verifier.now key ∧
      signing.signs key proof (body.remove "proof")

variable {crates signing}

theorem checkProof_eq_ok {proofs : ProofCrates} {raw : Value} {issuer proven : String}
    {proof : DataIntegrityProof}
    (checked : checkProof crates proofs raw issuer proof = .ok proven) :
    proof.cryptosuite = .eddsaJcs2022 ∧ proofs.isAuthentication proof.proofPurpose = true ∧
      (∃ fragment, splitOnce '#' proof.verificationMethod = some (issuer, fragment)) ∧
      proofs.verify proof (raw.remove "proof") = .ok () ∧ crates.stripScidSrc issuer = proven := by
  simp only [checkProof] at checked
  split at checked
  · cases checked
  · rename_i suite
    split at checked
    · cases checked
    · rename_i purpose
      split at checked
      · cases checked
      · rename_i vmDid fragment parts
        split at checked
        · cases checked
        · rename_i own
          split at checked
          · cases checked
          · cases checked
          · rename_i verified
            cases checked
            rw [not_or, not_not] at own
            obtain ⟨rfl, _⟩ := own
            exact ⟨not_not.mp suite, not_not.mp purpose, ⟨fragment, parts⟩, verified, rfl⟩

/-- A key which the lookup answers with is released by the document. -/
theorem releases_of_eq_ok {doc : Value} {issuer vm : String} {now : DateTime} {key : ResolvedKey}
    (found : keyForPurposeIn crates signing.keys doc issuer vm signing.purpose now = .ok key) :
    Releases crates signing doc issuer vm now key := by
  obtain ⟨own, method, first, usable, listed⟩ := keyForPurposeIn_eq_ok_iff.mp found
  refine ⟨own, listed, method, ?_, List.find?_some first, usable⟩
  obtain inDocument | ⟨embedded, _⟩ := find?_methods first
  · exact .inl (List.mem_of_find?_eq_some inDocument)
  · exact .inr embedded

/-- Whoever `verify_issuer` answers with has signed the body. -/
theorem signedBy_of_verifyIssuer {verifier : Verifier} (binds : verifier.BindsKeys crates signing)
    {body : Value} {issuer : String}
    (verified : verifyIssuer crates verifier.proofs body = .ok issuer) :
    SignedBy crates signing verifier body issuer := by
  simp only [verifyIssuer] at verified
  split at verified
  · cases verified
  · cases verified
  · rename_i value _ carried
    split at verified
    · cases verified
    · rename_i named names
      split at verified
      · cases verified
      · rename_i proof parsed
        obtain ⟨suite, purpose, ⟨fragment, parts⟩, accepted, bare⟩ := checkProof_eq_ok verified
        obtain ⟨key, looked, signed⟩ := binds proof _ accepted
        obtain ⟨did, rest, doc, parts', resolved, found⟩ := resolveVmForPurpose_eq_ok looked
        cases parts.symm.trans parts'
        exact ⟨named, value, proof, fragment, doc, key, (Option.filter_eq_some_iff.mp names).1,
          bare, carried, parsed, suite, purpose, parts, resolved, releases_of_eq_ok found, signed⟩

/-! ## Who stands behind a request -/

section Run

variable {Guard : Type} [ReplayGuard Guard String DocumentDigest Answer]

/-- What a request is authorised for, its issuer has proved. -/
def Stage.Proven (delivery : Delivery) (stage : Stage DocumentDigest) : Prop :=
  ∀ once effect, stage.effect = some (once, effect) →
    delivery.outside.verifyIssuer delivery.body = .ok effect.issuer

theorem Stage.Advanced.proven {delivery : Delivery} {state after : AppState Guard}
    {stage next : Stage DocumentDigest}
    (advanced : stage.Advanced crates delivery state after next) (proven : stage.Proven delivery) :
    next.Proven delivery := by
  intro once effect authorised
  obtain before | accepted := advanced.accepted authorised
  · exact proven once effect before
  · exact accepted.authenticated.proven

namespace Server

/-- Every request has proved what it is authorised for. -/
def Proven (server : Server Guard DocumentDigest) : Prop :=
  ∀ request ∈ server.requests, request.2.Proven request.1

theorem Stepped.proven {server after : Server Guard DocumentDigest} {action : ServerAction}
    (stepped : server.Stepped crates action after) (proven : server.Proven) : after.Proven := by
  cases stepped with
  | received delivery =>
      refine List.forall_mem_append.mpr ⟨proven, List.forall_mem_singleton.mpr ?_⟩
      intro once effect authorised
      cases authorised
  | advanced index delivery stage app next found advanced =>
      exact forall_mem_set proven (advanced.proven (proven _ (List.mem_of_getElem? found)))
  | dropped index delivery stage app next found dropped =>
      refine forall_mem_set proven fun once effect authorised => ?_
      exact proven _ (List.mem_of_getElem? found) once effect (dropped.authorised authorised)
  | absent => exact proven
  | swept => exact proven

theorem proven_run {start : Server Guard DocumentDigest} (empty : start.requests = [])
    (actions : List ServerAction) : (run (step crates) start actions).Proven := by
  refine invariant_of_always (fun (server : Server Guard DocumentDigest) action
    (proven : server.Proven) => (server.step_stepped crates action).proven proven) ?_ actions
  intro request member
  rw [empty] at member
  cases member

/-- A step which changes the list of a live handle is that of a provision by its controller. -/
theorem changes_of_step {server : Server Guard DocumentDigest} {action : ServerAction}
    (tracked : server.Tracked crates) (anew : server.DrawsAnew action) {handle : String}
    {before list : List String} (old : server.app.store.allowlist handle = some before)
    (new : (server.step crates action).app.store.allowlist handle = some list)
    (changed : list ≠ before) :
    ∃ index delivery stage once caller policy, action = .advance index ∧
      server.requests[index]? = some (delivery, stage) ∧
      stage.effect = some (once, .provision caller handle policy) ∧
      list = policy.allowedTriggers ∧ server.ControlledBy crates caller handle := by
  have stepped := server.step_stepped crates action
  obtain ⟨record, live, rfl⟩ := Option.map_eq_some_iff.mp old
  obtain ⟨record', live', rfl⟩ := Option.map_eq_some_iff.mp new
  obtain ⟨undrawn, _⟩ | ⟨earlier, present, _, listed⟩ := stepped.lookup anew live'
  · exact absurd (tracked.live handle record live) undrawn
  · cases live.symm.trans present
    cases taken : server.instant crates action with
    | none =>
        rw [taken] at listed
        exact absurd listed changed
    | some instant =>
        rw [taken, Option.bind_some, Instant.listFor] at listed
        split at listed
        · rename_i own
          subst own
          cases action with
          | receive => cases taken
          | drop => cases taken
          | sweep => cases taken
          | advance index =>
              obtain ⟨⟨delivery, stage⟩, found, takes⟩ := Option.bind_eq_some_iff.mp taken
              have member := List.mem_of_getElem? found
              cases stage with
              | checked once caller handle policy =>
                  simp only [Stage.instant] at takes
                  split at takes
                  · cases takes
                    exact ⟨index, delivery, _, once, caller, policy, rfl, found, rfl, listed,
                      tracked.controls _ member once caller handle policy rfl⟩
                  · cases takes
              | admitted once effect =>
                  cases effect with
                  | provision caller handle policy =>
                      simp only [Stage.instant] at takes
                      split at takes
                      · cases takes
                        exact ⟨index, delivery, _, once, caller, policy, rfl, found, rfl, listed,
                          tracked.controls _ member once caller handle policy rfl⟩
                      · cases takes
                  | wake => cases takes
              | received => cases takes
              | admitting => cases takes
              | closing => cases takes
              | ended => cases takes
        · exact absurd listed changed

end Server

variable (crates signing) in
/-- The body of the delivery is signed by this issuer, and it is that of a document of this type,
with a payload of which this holds. -/
structure Signs (fromValue : Value → Option TrustTask) (verifier : Verifier) (delivery : Delivery)
    (issuer slug : String) (asks : Value → Prop) : Prop where
  signed : SignedBy crates signing verifier delivery.body issuer
  parsed : fromValue delivery.body = some delivery.doc
  named : delivery.doc.typeUri.names slug
  payload : ∃ payload, delivery.body.get? "payload" = some payload ∧ asks payload

/-- The payload provisions the handle with this list. -/
def AsksList (handle : String) (list : List String) (payload : Value) : Prop :=
  ∃ request policy, Value.decodeProvisionRequest payload = some request ∧
    request.handle = handle ∧ request.policy.validateAndNormalize = .ok policy ∧
      list = policy.allowedTriggers

variable (crates signing) in
/-- Every push of a run, also one which is cut off, is made for a trigger who has signed the wake.
Every change of a list is made for a controller of the handle who has signed the provision of that
list. -/
structure ActsOnSignatures (fromValue : Value → Option TrustTask) (verifiers : Delivery → Verifier)
    (start : Server Guard DocumentDigest) (actions : List ServerAction) : Prop where
  pushed : ∀ front action back push, actions = front ++ action :: back →
    (run (Server.step crates) start front).push action = some push →
    ServerAction.receive push.delivery ∈ front ∧
      Signs crates signing fromValue (verifiers push.delivery) push.delivery push.trigger
        "push/wake" fun payload => Value.decodeWakeRequest payload = some push.request
  changed : ∀ front action back handle before list, actions = front ++ action :: back →
    (run (Server.step crates) start front).app.store.allowlist handle = some before →
    (run (Server.step crates) start (front ++ [action])).app.store.allowlist handle = some list →
    list ≠ before →
    ∃ index delivery caller, action = .advance index ∧
      (run (Server.step crates) start front).requests[index]?.map Prod.fst = some delivery ∧
      ServerAction.receive delivery ∈ front ∧
      (run (Server.step crates) start front).ControlledBy crates caller handle ∧
      Signs crates signing fromValue (verifiers delivery) delivery caller "push/provision"
        (AsksList handle list)

/-- `serde_json::from_value::<TrustTask<Value>>` takes the payload from the member of that name. -/
def ReadsPayload (fromValue : Value → Option TrustTask) : Prop :=
  ∀ members doc, fromValue (.object members) = some doc →
    (Value.object members).get? "payload" = some doc.payload

/-- A signed body is an object, and so has the payload of its document. -/
theorem SignedBy.payload {fromValue : Value → Option TrustTask} (reads : ReadsPayload fromValue)
    {verifier : Verifier} {body : Value} {issuer : String}
    (signed : SignedBy crates signing verifier body issuer) {doc : TrustTask}
    (parsed : fromValue body = some doc) : body.get? "payload" = some doc.payload := by
  obtain ⟨named, _, _, _, _, _, names, _⟩ := signed.signature
  cases body with
  | object members => exact reads members doc parsed
  | null => cases names
  | bool => cases names
  | number => cases names
  | string => cases names
  | array => cases names

/-- Whatever the gateway does on a handle, with its requests in any order, its body was signed to
ask for, with a key which the issuer's own DID document releases for authentication. -/
theorem acts_on_signatures [DecidableEq DocumentDigest] [LawfulReplayGuard Guard]
    {fromValue : Value → Option TrustTask} (reads : ReadsPayload fromValue)
    (verifiers : Delivery → Verifier)
    (binds : ∀ delivery, (verifiers delivery).BindsKeys crates signing) (app : AppState Guard)
    {actions : List ServerAction}
    (parsed : ∀ delivery, ServerAction.receive delivery ∈ actions →
      fromValue delivery.body = some delivery.doc)
    (verified : ∀ delivery, ServerAction.receive delivery ∈ actions →
      delivery.outside.verifyIssuer = verifyIssuer crates (verifiers delivery).proofs)
    (anew : Along (Server.step crates) Server.DrawsAnew (Server.opened app) actions) :
    ActsOnSignatures crates signing fromValue verifiers (Server.opened app) actions := by
  have signed : ∀ front back (index : Nat) delivery (stage : Stage DocumentDigest) once effect,
      actions = front ++ back →
      (run (Server.step crates) (Server.opened app) front).requests[index]? =
        some (delivery, stage) →
      stage.effect = some (once, effect) →
      ServerAction.receive delivery ∈ front ∧ ServerAction.receive delivery ∈ actions ∧
        SignedBy crates signing (verifiers delivery) delivery.body effect.issuer := by
    rintro front back index delivery stage once effect rfl found authorised
    have member := List.mem_of_getElem? found
    have received := Server.receive_of_mem_requests rfl member
    have proven := Server.proven_run rfl front _ member once effect authorised
    rw [verified delivery (List.mem_append_left _ received)] at proven
    exact ⟨received, List.mem_append_left _ received,
      signedBy_of_verifyIssuer (binds delivery) proven⟩
  constructor
  · intro front action back push split pushed
    obtain ⟨index, once, _, found⟩ := Server.push_eq_some pushed
    obtain ⟨earlier, received, own⟩ := signed front _ index _ _ once _ split found rfl
    obtain ⟨_, _, _, authorises⟩ := Server.exists_authorises rfl found rfl
    have read := parsed push.delivery received
    exact ⟨earlier, own, read, authorises.waking.named, push.delivery.doc.payload,
      own.payload reads read, authorises.waking.decoded⟩
  · rintro front action back handle before list rfl old new changed
    obtain ⟨anew_front, anew_action, _⟩ := (along_append _ front _).mp anew
    have tracked := Server.tracked_run (Server.opened_tracked crates app) anew_front
    rw [run_concat] at new
    obtain ⟨index, delivery, stage, once, caller, policy, rfl, found, authorised, listed,
        controlled⟩ := Server.changes_of_step tracked anew_action old new changed
    obtain ⟨earlier, received, own⟩ :=
      signed front _ index delivery stage once _ rfl found authorised
    have asked : AsksProvision delivery caller handle policy :=
      (tracked.consistent _ (List.mem_of_getElem? found)).asked authorised
    obtain ⟨request, decoded, about, normalised⟩ := asked.payload
    have read := parsed delivery received
    exact ⟨index, delivery, caller, rfl, by rw [found]; rfl, earlier, controlled, own, read,
      asked.named, delivery.doc.payload, own.payload reads read, request, policy, decoded, about,
      normalised, listed⟩

end Run

/-! ## A provision by a controller who signs -/

private def vtaKeys : IssuerKeys where
  resolve did :=
    if did = "did:web:vta.example" then
      some (some (.object [("id", .string did),
        ("verificationMethod",
          .array [multikey "z6MkhaXgBZDvotDkL5257faiztiGiC2QtKLGpbnnEGta2doK"]),
        ("authentication", .array [.string "#key-0"])]))
    else none
  serialisedBytes _ := some 300

/-- A proof with the value `signature` is taken for a signature with any key. -/
private def plainSigning : Signing String :=
  ⟨plainKeys, "authentication", fun _ proof _ =>
    proof.value.getStr "proofValue" = some "signature"⟩

private def vtaVerifier : Verifier where
  proofs :=
    { plainProofs with
      verify := fun proof _ =>
        (resolveVmForPurpose plainCrates plainKeys vtaKeys proof.verificationMethod
          "authentication" 0).bind fun _ =>
            if proof.value.getStr "proofValue" = some "signature" then .ok () else .error .other }
  issuerKeys := vtaKeys
  now := 0

private theorem vtaVerifier_bindsKeys : vtaVerifier.BindsKeys plainCrates plainSigning := by
  intro proof unsigned verified
  cases looked : resolveVmForPurpose plainCrates plainKeys vtaKeys proof.verificationMethod
      "authentication" 0 with
  | error error =>
      simp only [vtaVerifier, looked, Except.bind] at verified
      cases verified
  | ok key =>
      refine ⟨key, looked, ?_⟩
      simp only [vtaVerifier, looked, Except.bind] at verified
      split at verified
      · rename_i signature
        exact signature
      · cases verified

/-- A provision of the handle, issued at time zero. -/
private def provisionBody (triggers : List String) : Value :=
  .object [("id", .string "signed"),
    ("type", .string "https://trusttasks.org/spec/push/provision/0.2"),
    ("recipient", .string "did:web:gateway.example"),
    ("issuer", .string "did:web:vta.example"),
    ("issuedAt", .string "1970-01-01T00:00:00Z"),
    ("payload", .object [("handle", .string "handle"),
      ("policy", .object [("allowedTriggers", .array (triggers.map .string))])]),
    ("proof", .object [("verificationMethod", .string "did:web:vta.example#key-0"),
      ("proofValue", .string "signature")])]

/-- The documents of the one type which are issued at time zero. -/
private def provisionDocument (body : Value) : Option TrustTask := do
  let id ← body.getStr "id"
  let text ← body.getStr "type"
  let issued ← body.getStr "issuedAt"
  let payload ← body.get? "payload"
  if text = "https://trusttasks.org/spec/push/provision/0.2" ∧ issued = "1970-01-01T00:00:00Z" then
    some ⟨id, ⟨"push/provision", 0, 2, text⟩, body.getStr "recipient", some 0, none, payload, body⟩
  else none

private theorem provisionDocument_readsPayload : ReadsPayload provisionDocument := by
  intro members doc parsed
  simp only [provisionDocument, bind, Option.bind_eq_some_iff] at parsed
  obtain ⟨id, _, text, _, issued, _, payload, found, made⟩ := parsed
  split at made
  · cases made
    exact found
  · cases made

private def signedProvision : Delivery where
  outside :=
    { smallSurroundings "" 0 .delivered with
      verifyIssuer := verifyIssuer plainCrates vtaVerifier.proofs }
  transportSender := none
  body := provisionBody ["did:web:other.example"]
  doc :=
    (provisionDocument (provisionBody ["did:web:other.example"])).getD (smallProvision "" [])

theorem acts_on_signatures_provision :
    ActsOnSignatures plainCrates plainSigning provisionDocument (fun _ => vtaVerifier)
      (Server.opened smallGateway)
      [.receive signedProvision, .advance 0, .advance 0, .advance 0, .advance 0, .advance 0] := by
  refine acts_on_signatures provisionDocument_readsPayload (fun _ => vtaVerifier)
    (fun _ => vtaVerifier_bindsKeys) smallGateway (fun delivery received => ?_)
    (fun delivery received => ?_) (by decide +kernel)
  · have own : delivery = signedProvision := by simpa using received
    rw [own]
    rfl
  · have own : delivery = signedProvision := by simpa using received
    rw [own]
    rfl

/-- The list is indeed changed. -/
example : (run (Server.step plainCrates) (Server.opened smallGateway)
    [.receive signedProvision, .advance 0, .advance 0, .advance 0, .advance 0]).app.store.allowlist
      "handle" = some ["did:web:other.example"] := by
  decide +kernel

end PushGateway
