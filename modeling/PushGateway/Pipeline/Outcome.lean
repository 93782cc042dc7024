import PushGateway.Intake
import PushGateway.Store.Index

/-!
# What a delivery can come to

A delivery is refused, registers a handle, or is an authorised provision or wake which the replay
record holds back or admits.  `Handled` lists these with the state each of them leaves, and every
result about the whole pipeline is a case analysis of it.
-/

namespace PushGateway

variable {Guard DocumentDigest : Type} (crates : Crates DocumentDigest) (outside : Surroundings)

/-! ## Authentication -/

/-- What stands behind an issuer whom `authenticate` takes for proven. -/
structure Authenticated (state : AppState Guard) (transportSender : Option String) (body : Value)
    (issuer : String) : Prop where
  proven : outside.verifyIssuer body = .ok issuer
  addressed : ∃ did ∈ state.gatewayDid, ∃ recipient ∈ body.getStr "recipient",
    crates.sameReference recipient did = true
  carried : ∀ sender ∈ transportSender, crates.sameReference (fromDid sender) issuer = true

variable {crates outside}

theorem authenticate_proven {state : AppState Guard} {transportSender : Option String}
    {body : Value} {issuer : String}
    (proven : authenticate crates outside state transportSender body = .ok (some issuer)) :
    Authenticated crates outside state transportSender body issuer := by
  simp only [authenticate] at proven
  split at proven
  · cases proven
  · rename_i named
    split at proven
    · cases proven
    · cases proven
    · rename_i found verified
      split at proven
      · cases proven
      · rename_i identified
        split at proven
        · cases proven
        · rename_i recipient
          split at proven
          · cases proven
          · rename_i sender
            cases proven
            obtain ⟨did, identity⟩ := Option.ne_none_iff_exists'.mp (by simpa using identified)
            obtain ⟨name, addressed⟩ := Option.ne_none_iff_exists'.mp (by simpa using recipient)
            refine ⟨verified, ⟨did, identity, name, addressed, ?_⟩, fun carrier carries => ?_⟩
            · simpa [addressed, identity, Option.filter_some] using named
            · rw [Option.mem_def.mp carries, Option.filter_some] at sender
              simpa using sender

theorem authenticate_of_authenticated {state : AppState Guard} {transportSender : Option String}
    {body : Value} {issuer : String}
    (authenticated : Authenticated crates outside state transportSender body issuer) :
    authenticate crates outside state transportSender body = .ok (some issuer) := by
  obtain ⟨proven, ⟨did, identity, recipient, named, addressed⟩, carried⟩ := authenticated
  rw [Option.mem_def] at identity named
  simp only [authenticate, identity, named, proven, Option.any_some, Option.filter_some, addressed]
  cases transportSender with
  | none => rfl
  | some sender => simp [Option.filter_some, carried sender rfl]

variable [ReplayGuard Guard String DocumentDigest Answer]

/-- A proven document whose window is open, with the admission step built for it. -/
structure Accepted (crates : Crates DocumentDigest) (outside : Surroundings)
    (state : AppState Guard) (transportSender : Option String) (body : Value) (doc : TrustTask)
    (issuer : String) (once : DocumentOnce DocumentDigest) : Prop where
  authenticated : Authenticated crates outside state transportSender body issuer
  identified : once.id = doc.id
  current : once.now = outside.now
  open_ : ∃ did ∈ state.gatewayDid,
    checkWindow crates doc did outside.now = .ok (once.digest, once.retainUntil)

/-- An accepted document is dispatched for the issuer who proved it. -/
theorem Accepted.received {state : AppState Guard} {transportSender : Option String} {body : Value}
    {doc : TrustTask} {issuer : String} {once : DocumentOnce DocumentDigest}
    (accepted : Accepted crates outside state transportSender body doc issuer once) :
    receiveDocument crates outside state transportSender body doc =
      dispatchPushOnce crates outside (some once) state (some issuer) doc := by
  obtain ⟨authenticated, identified, current, did, identity, window⟩ := accepted
  rw [Option.mem_def] at identity
  have step : (⟨doc.id, once.digest, once.retainUntil, outside.now⟩ :
      DocumentOnce DocumentDigest) = once := by
    rw [← identified, ← current]
  simp only [receiveDocument, authenticate_of_authenticated authenticated, identity, window, step]

/-! ## Authorised operations -/

variable (crates) in
/-- A provision which the handle's controller asks for. -/
structure Provisioning (state : AppState Guard) (doc : TrustTask) (caller : String)
    (request : ProvisionRequest) (policy : WakeTriggerPolicy) : Prop where
  named : doc.typeUri.names "push/provision"
  decoded : Value.decodeProvisionRequest doc.payload = some request
  normalised : request.policy.validateAndNormalize = .ok policy
  served : state.controllers.allows crates caller = true
  controls : state.store.checkController crates request.handle caller = .ok

/-- A wake which a trigger on the handle's allowlist asks for. -/
structure Waking (state : AppState Guard) (doc : TrustTask) (trigger : String)
    (request : WakeRequest) (registration : PushRegistration) : Prop where
  named : doc.typeUri.names "push/wake"
  decoded : Value.decodeWakeRequest doc.payload = some request
  bounded : request.validate = .ok ()
  allowed : state.store.authorizeWake request.handle trigger = .allowed registration
  selected : (select state.senders registration).isSome = true

/-- The claim an admission step makes for a handle. -/
def DocumentOnce.claim (once : DocumentOnce DocumentDigest) (state : AppState Guard)
    (issuer handle : String) :
    Except RejectReason (Admission Answer) × ReplayRecord Guard String String String :=
  state.replay.claim state.bounds issuer handle once.id once.digest once.retainUntil once.now

/-- The record after an admitted document has been closed out. -/
def DocumentOnce.closed (once : DocumentOnce DocumentDigest) (state : AppState Guard)
    (issuer handle : String) (response : Option Answer) :
    ReplayRecord Guard String String String :=
  (once.claim state issuer handle).2.complete issuer handle once.id once.digest response

/-- A push begun for a wake. -/
def AppState.pushed (state : AppState Guard) (registration : PushRegistration)
    (payload : WakePayload) : AppState Guard :=
  { state with sends := state.sends ++ [⟨registration, payload⟩] }

variable (crates outside) in
/-- The answer to a delivery and the state it leaves, by what was done. -/
inductive Handled (caller : Option (String × DocumentOnce DocumentDigest)) (state : AppState Guard)
    (doc : TrustTask) : Answer → AppState Guard → Prop where
  | refused (reason : RejectReason) (metrics : Metrics) :
      Handled caller state doc (rejectValue outside doc reason) { state with metrics := metrics }
  | registered (request : RegisterRequest) (payload : Value) (metrics : Metrics)
      (named : doc.typeUri.names "push/register")
      (stored : (state.store.insertAt crates outside.newHandle request.registration
        request.controllerVtaDid outside.nowSecs).1 = .ok ()) :
      Handled caller state doc (successValue outside doc payload)
        { state with
          store := (state.store.insertAt crates outside.newHandle request.registration
            request.controllerVtaDid outside.nowSecs).2
          metrics := metrics }
  | repeated (issuer : String) (once : DocumentOnce DocumentDigest) (request : ProvisionRequest)
      (policy : WakeTriggerPolicy) (payload : Value) (metrics : Metrics)
      (called : caller = some (issuer, once))
      (asked : Provisioning crates state doc issuer request policy)
      (same : state.store.allowlistIs request.handle policy.allowedTriggers = true) :
      Handled caller state doc (successValue outside doc payload) { state with metrics := metrics }
  | held (issuer handle : String) (once : DocumentOnce DocumentDigest) (answer : Answer)
      (called : caller = some (issuer, once))
      (stale : (once.claim state issuer handle).1 ≠ .ok .fresh)
      (prior : (once.claim state issuer handle).1 = .ok (.answered answer) ∨ ∃ reason,
        (once.claim state issuer handle).1 = .error reason ∧
          answer = rejectValue outside doc reason) :
      Handled caller state doc answer
        { state with replay := (once.claim state issuer handle).2 }
  | provisioned (issuer : String) (once : DocumentOnce DocumentDigest)
      (request : ProvisionRequest) (policy : WakeTriggerPolicy) (payload : Value)
      (metrics : Metrics) (called : caller = some (issuer, once))
      (asked : Provisioning crates state doc issuer request policy)
      (fresh : (once.claim state issuer request.handle).1 = .ok .fresh) :
      Handled caller state doc (successValue outside doc payload)
        { state with
          store := (state.store.provision crates request.handle issuer policy).2
          replay := once.closed state issuer request.handle
            (some (successValue outside doc payload))
          metrics := metrics }
  | delivered (issuer : String) (once : DocumentOnce DocumentDigest) (request : WakeRequest)
      (registration : PushRegistration) (payload : Value) (metrics : Metrics)
      (called : caller = some (issuer, once))
      (asked : Waking state doc issuer request registration)
      (fresh : (once.claim state issuer request.handle).1 = .ok .fresh) :
      Handled caller state doc (successValue outside doc payload)
        { state.pushed registration request.payload with
          replay := once.closed state issuer request.handle
            (some (successValue outside doc payload))
          metrics := metrics }
  | unregistered (issuer : String) (once : DocumentOnce DocumentDigest) (request : WakeRequest)
      (registration : PushRegistration) (payload : Value) (metrics : Metrics)
      (called : caller = some (issuer, once))
      (asked : Waking state doc issuer request registration)
      (fresh : (once.claim state issuer request.handle).1 = .ok .fresh) :
      Handled caller state doc (successValue outside doc payload)
        { state.pushed registration request.payload with
          store := state.store.remove crates request.handle
          replay := once.closed state issuer request.handle
            (some (successValue outside doc payload))
          metrics := metrics }
  | failed (issuer : String) (once : DocumentOnce DocumentDigest) (request : WakeRequest)
      (registration : PushRegistration) (reason : RejectReason) (metrics : Metrics)
      (called : caller = some (issuer, once)) (unhurried : outside.allowDid issuer = true)
      (asked : Waking state doc issuer request registration)
      (fresh : (once.claim state issuer request.handle).1 = .ok .fresh)
      (failure : (outside.send registration request.payload).getD .transientFailure =
        .transientFailure) :
      Handled caller state doc (rejectValue outside doc reason)
        { state.pushed registration request.payload with
          replay := once.closed state issuer request.handle none
          metrics := metrics }

/-! ## The handlers -/

variable (outside) in
/-- What the admission step does for an authorised caller. -/
theorem admitOnce_cases (once : DocumentOnce DocumentDigest) (state : AppState Guard)
    (issuer handle : String) (doc : TrustTask) :
    ((once.claim state issuer handle).1 = .ok .fresh ∧
        admitOnce outside (some once) state issuer handle doc =
          (.ok (), { state with replay := (once.claim state issuer handle).2 })) ∨
      ((once.claim state issuer handle).1 ≠ .ok .fresh ∧ ∃ answer,
        ((once.claim state issuer handle).1 = .ok (.answered answer) ∨ ∃ reason,
          (once.claim state issuer handle).1 = .error reason ∧
            answer = rejectValue outside doc reason) ∧
        admitOnce outside (some once) state issuer handle doc =
          (.error answer, { state with replay := (once.claim state issuer handle).2 })) := by
  simp only [admitOnce]
  rw [← DocumentOnce.claim]
  generalize once.claim state issuer handle = claimed
  obtain ⟨result, replay⟩ := claimed
  cases result with
  | error reason => exact .inr ⟨nofun, _, .inr ⟨reason, rfl, rfl⟩, rfl⟩
  | ok admission =>
      cases admission with
      | fresh => exact .inl ⟨rfl, rfl⟩
      | answered prior => exact .inr ⟨nofun, prior, .inl rfl, rfl⟩

theorem handleRegister_handled (caller : Option (String × DocumentOnce DocumentDigest))
    (state : AppState Guard) {doc : TrustTask} (named : doc.typeUri.names "push/register") :
    Handled crates outside caller state doc (handleRegister crates outside state doc).1
      (handleRegister crates outside state doc).2 := by
  simp only [handleRegister, parse]
  cases Value.decodeRegisterRequest doc.payload with
  | none => exact .refused _ state.metrics
  | some request =>
      dsimp only
      cases request.validate crates state.egress with
      | error reason => exact .refused _ state.metrics
      | ok _ =>
          dsimp only
          split
          · exact .refused _ state.metrics
          · split
            · exact .refused _ state.metrics
            · obtain ⟨error, refused⟩ | stored := Store.insertAt_cases crates state.store
                outside.newHandle request.registration request.controllerVtaDid outside.nowSecs
              · rw [refused]
                exact .refused _ state.metrics
              · have result := congrArg Prod.fst stored
                have registered : Handled crates outside caller state doc _ _ :=
                  .registered request (registerPayload state.gatewayAddr outside.newHandle)
                    state.metrics.incRegister named result
                rw [stored] at registered ⊢
                exact registered

/-- A provision by the controller of a live handle is applied. -/
theorem provision_of_controls {store : Store} {handle caller : String}
    (controls : store.checkController crates handle caller = .ok) (policy : WakeTriggerPolicy) :
    (store.provision crates handle caller policy).1 = .ok :=
  (store.provision_ok_iff crates handle caller policy).mpr
    ((store.checkController_iff crates handle caller).mp controls)

theorem handleProvision_handled (issuer : String) (once : DocumentOnce DocumentDigest)
    (state : AppState Guard) {doc : TrustTask} (named : doc.typeUri.names "push/provision") :
    let handled := handleProvision crates outside (some once) state (some issuer) doc
    Handled crates outside (some (issuer, once)) state doc handled.1 handled.2 := by
  simp only [handleProvision, parse]
  cases decoded : Value.decodeProvisionRequest doc.payload with
  | none => exact .refused _ state.metrics
  | some request =>
      dsimp only
      cases normalised : request.policy.validateAndNormalize with
      | error reason => exact .refused _ state.metrics
      | ok policy =>
          dsimp only
          split
          · exact .refused _ _
          · rename_i served
            cases controls : state.store.checkController crates request.handle issuer with
            | unknownHandle => exact .refused _ _
            | notController => exact .refused _ _
            | ok =>
                have asked : Provisioning crates state doc issuer request policy :=
                  ⟨named, decoded, normalised, not_not.mp served, controls⟩
                dsimp only
                split
                · rename_i same
                  exact .repeated issuer once request policy _ _ rfl asked same
                · obtain ⟨fresh, admitted⟩ | ⟨stale, answer, prior, refused⟩ :=
                    admitOnce_cases outside once state issuer request.handle doc
                  · rw [admitted]
                    have applied := provision_of_controls controls policy
                    simp only [applyProvision]
                    split
                    · rename_i store provisioned
                      have outcome : Handled crates outside _ state doc _ _ :=
                        .provisioned issuer once request policy
                          (provisionPayload request.handle policy.allowedTriggers)
                          state.metrics.incProvisionOk rfl asked fresh
                      rw [provisioned] at outcome
                      exact outcome
                    · rename_i other provisioned
                      rw [provisioned] at applied
                      exact absurd applied other
                  · rw [refused]
                    exact .held issuer request.handle once answer rfl stale prior

theorem handleWake_handled {issuer : String} (once : DocumentOnce DocumentDigest)
    (state : AppState Guard) {doc : TrustTask} (named : doc.typeUri.names "push/wake")
    (unhurried : outside.allowDid issuer = true) :
    let handled := handleWake crates outside (some once) state (some issuer) doc
    Handled crates outside (some (issuer, once)) state doc handled.1 handled.2 := by
  simp only [handleWake, parse]
  cases decoded : Value.decodeWakeRequest doc.payload with
  | none => exact .refused _ state.metrics
  | some request =>
      dsimp only
      cases bounded : request.validate with
      | error reason => exact .refused _ state.metrics
      | ok _ =>
          dsimp only
          cases allowed : state.store.authorizeWake request.handle issuer with
          | unknownHandle => exact .refused _ _
          | notAllowed => exact .refused _ _
          | allowed registration =>
              dsimp only
              split
              · exact .refused _ state.metrics
              · rename_i selected
                have asked : Waking state doc issuer request registration :=
                  ⟨named, decoded, bounded, allowed,
                    by simpa [Option.isSome_iff_ne_none] using selected⟩
                obtain ⟨fresh, admitted⟩ | ⟨stale, answer, prior, refused⟩ :=
                  admitOnce_cases outside once state issuer request.handle doc
                · rw [admitted]
                  simp only [pushWake]
                  split
                  · exact .delivered issuer once request registration _ _ rfl asked fresh
                  · rename_i failure
                    exact .failed issuer once request registration _ _ rfl unhurried asked fresh
                      failure
                  · exact .unregistered issuer once request registration _ _ rfl asked fresh
                · rw [refused]
                  exact .held issuer request.handle once answer rfl stale prior

/-! ## Dispatch and intake -/

theorem dispatchPushOnce_handled (caller : Option (String × DocumentOnce DocumentDigest))
    (state : AppState Guard) (doc : TrustTask) :
    let handled :=
      dispatchPushOnce crates outside (caller.map Prod.snd) state (caller.map Prod.fst) doc
    Handled crates outside caller state doc handled.1 handled.2 := by
  simp only [dispatchPushOnce]
  split
  · rename_i named
    split
    · exact .refused _ state.metrics
    · exact handleRegister_handled caller state named
  · split
    · rename_i named
      split
      · exact .refused _ state.metrics
      · cases caller with
        | none => exact .refused _ state.metrics
        | some caller => exact handleProvision_handled caller.1 caller.2 state named
    · split
      · rename_i named
        split
        · exact .refused _ state.metrics
        · cases caller with
          | none => exact .refused _ state.metrics
          | some caller =>
            rename_i unhurried
            exact handleWake_handled caller.2 state named (by simpa using unhurried)
      · exact .refused _ state.metrics

/-- What a delivery comes to, and what a proven caller has passed to get there. -/
theorem receiveDocument_handled (crates : Crates DocumentDigest) (outside : Surroundings)
    (state : AppState Guard) (transportSender : Option String) (body : Value) (doc : TrustTask) :
    ∃ caller : Option (String × DocumentOnce DocumentDigest),
      (∀ issuer once, caller = some (issuer, once) →
        Accepted crates outside state transportSender body doc issuer once) ∧
      Handled crates outside caller state doc
        (receiveDocument crates outside state transportSender body doc).1
        (receiveDocument crates outside state transportSender body doc).2 := by
  simp only [receiveDocument]
  cases authenticated : authenticate crates outside state transportSender body with
  | error reason => exact ⟨none, nofun, .refused _ state.metrics⟩
  | ok sender =>
      dsimp only
      split
      · rename_i issuer gatewayDid identity
        cases window : checkWindow crates doc gatewayDid outside.now with
        | error reason => exact ⟨none, nofun, .refused _ state.metrics⟩
        | ok checked =>
            obtain ⟨digest, retain⟩ := checked
            refine ⟨some (issuer, ⟨doc.id, digest, retain, outside.now⟩), ?_,
              dispatchPushOnce_handled (some (issuer, _)) state doc⟩
            rintro _ _ ⟨⟩
            exact ⟨authenticate_proven authenticated, rfl, rfl, gatewayDid, identity, window⟩
      · exact ⟨none, nofun, dispatchPushOnce_handled none state doc⟩

/-! ## The record behind an admission step -/

section Lawful

variable [DecidableEq DocumentDigest] [LawfulReplayGuard Guard]

/-- The claim of an admission step is a claim on the record's ledger. -/
theorem DocumentOnce.claim_refines {state : AppState Guard}
    (wellFormed : state.replay.WellFormed state.bounds) (once : DocumentOnce DocumentDigest)
    (issuer handle : String) :
    (once.claim state issuer handle).2.WellFormed state.bounds ∧
      state.replay.ledger.Claimed issuer handle once.id once.digest once.retainUntil once.now
        (once.claim state issuer handle).1 (once.claim state issuer handle).2.ledger :=
  ReplayRecord.claim_refines wellFormed issuer handle once.id once.digest once.retainUntil once.now

/-- Closing an admitted document out completes it in the record's ledger. -/
theorem DocumentOnce.closed_refines {state : AppState Guard}
    (wellFormed : state.replay.WellFormed state.bounds) (once : DocumentOnce DocumentDigest)
    (issuer handle : String) (response : Option Answer) :
    (once.closed state issuer handle response).WellFormed state.bounds ∧
      (once.closed state issuer handle response).ledger =
        (once.claim state issuer handle).2.ledger.complete issuer handle once.id once.digest
          response :=
  ReplayRecord.complete_refines (once.claim_refines wellFormed issuer handle).1 issuer handle
    once.id once.digest response

end Lawful

/-! ## A small gateway -/

/-- A gateway with one handle, which its controller has opened to one trigger. -/
def smallGateway : AppState (ReferenceGuard String PlainDigest Answer) where
  store := (Store.withLimits StoreLimits.default).insertAt plainCrates "handle" (.fcm "token")
      "did:web:vta.example" 0 |>.2.provision plainCrates "handle" "did:web:vta.example"
      ⟨["did:web:trigger.example"]⟩ |>.2
  senders := [⟨fun _ => true⟩]
  gatewayAddr := "https://gateway.example"
  metrics := ⟨0, 0, 0, 0, 0, 0, 0, 0, 0⟩
  egress := EgressPolicy.default
  replay := ReplayRecord.new
  bounds := Bounds.default
  controllers := .listed ["did:web:vta.example"]
  gatewayDid := some "did:web:gateway.example"
  sends := []

/-- A delivery proven by this issuer at this instant, whose push comes to this outcome. -/
def smallSurroundings (issuer : String) (now : DateTime) (outcome : SendOutcome) :
    Surroundings where
  verifyIssuer _ := .ok issuer
  now := now
  nowSecs := 0
  newId := "urn:uuid:1"
  newHandle := "another"
  allowRegister := true
  allowDid _ := true
  send _ _ := some outcome

/-- A body which names the gateway as its recipient. -/
def smallBody : Value := .object [("recipient", .string "did:web:gateway.example")]

/-- A document of this type, issued at time zero. -/
def smallDocument (id slug : String) (payload : Value) : TrustTask where
  id := id
  typeUri := ⟨slug, 0, 2, slug⟩
  recipient := some "did:web:gateway.example"
  issuedAt := some 0
  expiresAt := none
  payload := payload
  members := .null

/-- A provision of the handle with this list. -/
def smallProvision (id : String) (triggers : List String) : TrustTask :=
  smallDocument id "push/provision" (provisionPayload "handle" triggers)

/-- A wake of the handle. -/
def smallWake (id : String) : TrustTask :=
  smallDocument id "push/wake" (.object [("handle", .string "handle"), ("v", .number (.int 1))])

end PushGateway
