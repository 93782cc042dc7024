import PushGateway.Replay.Record
import PushGateway.Store

/-!
# The dispatch core

The state of the gateway and the handlers of `push/register`, `push/provision` and `push/wake`.
A handler is a function of the state and of what it reads from outside while it runs: clocks,
fresh identifiers, the rate limiters, the proof check and the push services.  Pushes made are kept
in a log, which no handler reads.
-/

namespace PushGateway

/-! ## Who is served -/

/-- The controllers this gateway serves. -/
inductive ControllerPolicy where
  | listed (dids : List String)
  | open
  deriving DecidableEq, Repr

/-- Whether a DID may control handles on this gateway. -/
def ControllerPolicy.allows {DocumentDigest : Type} (crates : Crates DocumentDigest) :
    ControllerPolicy → String → Bool
  | .open, _ => true
  | .listed dids, did => dids.contains (crates.stripScidSrc did)

/-! ## Senders -/

inductive SendOutcome where
  | delivered
  | permanentlyUnregistered
  | transientFailure
  deriving DecidableEq, Repr

/-- A push sender, by the registrations it takes; what its `send` answers comes from outside. -/
structure PushSender where
  handles : PushRegistration → Bool

/-- The first sender that handles the registration's platform. -/
def select (senders : List PushSender) (registration : PushRegistration) : Option PushSender :=
  senders.find? fun sender => sender.handles registration

/-- A push handed to a sender. -/
structure Sent where
  registration : PushRegistration
  payload : WakePayload
  deriving DecidableEq, Repr

/-! ## Counters -/

/-- The counters.  Each is an `AtomicU64`, which is loaded as the figure here modulo `2 ^ 64`, and
so grows as long as nothing has been counted that often. -/
structure Metrics where
  registers : Nat
  provisionOk : Nat
  provisionUnknownHandle : Nat
  provisionNotController : Nat
  wakeDelivered : Nat
  wakeTransientFailure : Nat
  wakeTokenUnregistered : Nat
  wakeUnknownHandle : Nat
  wakeNotAllowed : Nat
  deriving DecidableEq, Repr

namespace Metrics

def incRegister (metrics : Metrics) : Metrics :=
  { metrics with registers := metrics.registers + 1 }

def incProvisionOk (metrics : Metrics) : Metrics :=
  { metrics with provisionOk := metrics.provisionOk + 1 }

def incProvisionUnknownHandle (metrics : Metrics) : Metrics :=
  { metrics with provisionUnknownHandle := metrics.provisionUnknownHandle + 1 }

def incProvisionNotController (metrics : Metrics) : Metrics :=
  { metrics with provisionNotController := metrics.provisionNotController + 1 }

def incWakeDelivered (metrics : Metrics) : Metrics :=
  { metrics with wakeDelivered := metrics.wakeDelivered + 1 }

def incWakeTransientFailure (metrics : Metrics) : Metrics :=
  { metrics with wakeTransientFailure := metrics.wakeTransientFailure + 1 }

def incWakeTokenUnregistered (metrics : Metrics) : Metrics :=
  { metrics with wakeTokenUnregistered := metrics.wakeTokenUnregistered + 1 }

def incWakeUnknownHandle (metrics : Metrics) : Metrics :=
  { metrics with wakeUnknownHandle := metrics.wakeUnknownHandle + 1 }

def incWakeNotAllowed (metrics : Metrics) : Metrics :=
  { metrics with wakeNotAllowed := metrics.wakeNotAllowed + 1 }

end Metrics

/-! ## The state and what lies outside it -/

inductive ProofError where
  | missing
  | invalid (reason : String)
  deriving DecidableEq, Repr

/-- What one delivery reads from outside. -/
structure Surroundings where
  /-- `ProofVerifier::verify_issuer`. -/
  verifyIssuer : Value → Except ProofError String
  /-- `chrono::Utc::now()`. -/
  now : DateTime
  /-- `now_secs()`. -/
  nowSecs : Nat
  newId : String
  newHandle : String
  allowRegister : Bool
  allowDid : String → Bool
  /-- What the push service answers, or `none` when the send exceeds `WAKE_SEND_TIMEOUT`. -/
  send : PushRegistration → WakePayload → Option SendOutcome

/-- The state shared by all deliveries.  The replay record is given with its bounds. -/
structure AppState (Guard : Type) where
  store : Store
  senders : List PushSender
  gatewayAddr : String
  metrics : Metrics
  egress : EgressPolicy
  replay : ReplayRecord Guard String String String
  bounds : Bounds
  controllers : ControllerPolicy
  gatewayDid : Option String
  /-- The pushes begun so far. -/
  sends : List Sent

/-- A `trust-task-error` document. -/
def rejectValue (outside : Surroundings) (doc : TrustTask) (reason : RejectReason) : Answer :=
  .error doc outside.newId reason

/-- A success document. -/
def successValue (outside : Surroundings) (doc : TrustTask) (payload : Value) : Answer :=
  .response doc outside.newId payload

def malformed (outside : Surroundings) (doc : TrustTask) (reason : String) : Answer :=
  rejectValue outside doc (.malformedRequest reason)

def rateLimited (outside : Surroundings) (doc : TrustTask) : Answer :=
  rejectValue outside doc (.taskFailed "rate limit exceeded; retry later")

/-- `SCHEMA_MISMATCH`. -/
def schemaMismatch : String := "payload does not match the push/* 0.2 schema"

/-- Read the typed body out of a document's payload. -/
def parse {Request : Type} (decode : Value → Option Request) (outside : Surroundings)
    (doc : TrustTask) : Except Answer Request :=
  match decode doc.payload with
  | some request => .ok request
  | none => .error (malformed outside doc schemaMismatch)

/-- `{ "wakeHandle": { "gateway": .., "handle": .. } }`. -/
def registerPayload (gateway handle : String) : Value :=
  .object [("wakeHandle", .object [("gateway", .string gateway), ("handle", .string handle)])]

/-- `{ "handle": .., "policy": { "allowedTriggers": .. } }`. -/
def provisionPayload (handle : String) (triggers : List String) : Value :=
  .object [("handle", .string handle),
    ("policy", .object [("allowedTriggers", .array (triggers.map .string))])]

/-- `{ "status": .. }`. -/
def statusPayload (status : String) : Value := .object [("status", .string status)]

variable {Guard DocumentDigest : Type} [ReplayGuard Guard String DocumentDigest Answer]
  (crates : Crates DocumentDigest) (outside : Surroundings)

/-! ## Admission -/

/-- The once-only admission of one authenticated document. -/
structure DocumentOnce (DocumentDigest : Type) where
  id : String
  digest : DocumentDigest
  retainUntil : Option DateTime
  now : DateTime

/-- The admission step of a document, as proceed or an answer to return. -/
def admitOnce (once : Option (DocumentOnce DocumentDigest)) (state : AppState Guard)
    (issuer handle : String) (doc : TrustTask) : Except Answer Unit × AppState Guard :=
  match once with
  | none => (.ok (), state)
  | some once =>
      match state.replay.claim state.bounds issuer handle once.id once.digest once.retainUntil
        once.now with
      | (.ok .fresh, replay) => (.ok (), { state with replay := replay })
      | (.ok (.answered prior), replay) => (.error prior, { state with replay := replay })
      | (.error reason, replay) =>
          (.error (rejectValue outside doc reason), { state with replay := replay })

/-- `once.complete`. -/
def complete (once : Option (DocumentOnce DocumentDigest)) (state : AppState Guard)
    (issuer : String) (handle : String) (response : Option Answer) : AppState Guard :=
  match once with
  | none => state
  | some once =>
      { state with
        replay := state.replay.complete issuer handle once.id once.digest response }

/-! ## The handlers -/

/-- `push/register`. -/
def handleRegister (state : AppState Guard) (doc : TrustTask) : Answer × AppState Guard :=
  match parse Value.decodeRegisterRequest outside doc with
  | .error answer => (answer, state)
  | .ok request =>
      match request.validate crates state.egress with
      | .error reason => (malformed outside doc reason, state)
      | .ok () =>
          if ¬state.controllers.allows crates request.controllerVtaDid then
            (rejectValue outside doc
              (.permissionDenied "controller VTA is not served by this gateway"), state)
          else if (select state.senders request.registration).isNone then
            (rejectValue outside doc (.taskFailed "no sender configured for this platform"), state)
          else
            match state.store.insertAt crates outside.newHandle request.registration
              request.controllerVtaDid outside.nowSecs with
            | (.error error, store) =>
                (rejectValue outside doc (.taskFailed error.reason), { state with store := store })
            | (.ok (), store) =>
                (successValue outside doc (registerPayload state.gatewayAddr outside.newHandle),
                  { state with store := store, metrics := state.metrics.incRegister })

/-- The answer to a provision which was not applied. -/
def provisionRefused (state : AppState Guard) (doc : TrustTask) :
    ProvisionOutcome → Answer × AppState Guard
  | .ok => (rejectValue outside doc (.taskFailed "provision was not applied"), state)
  | .unknownHandle =>
      (rejectValue outside doc (.taskFailed "unknown handle"),
        { state with metrics := state.metrics.incProvisionUnknownHandle })
  | .notController =>
      (rejectValue outside doc
          (.permissionDenied "caller is not this handle's controller VTA"),
        { state with metrics := state.metrics.incProvisionNotController })

/-- The effect of an admitted provision. -/
def applyProvision (once : Option (DocumentOnce DocumentDigest)) (state : AppState Guard)
    (caller : String) (handle : String) (policy : WakeTriggerPolicy) (doc : TrustTask) :
    Answer × AppState Guard :=
  match state.store.provision crates handle caller policy with
  | (.ok, store) =>
      let response := successValue outside doc (provisionPayload handle policy.allowedTriggers)
      (response, complete once
        { state with store := store, metrics := state.metrics.incProvisionOk } caller handle
        (some response))
  | (refused, store) =>
      provisionRefused outside (complete once { state with store := store } caller handle none) doc
        refused

/-- `push/provision`. -/
def handleProvision (once : Option (DocumentOnce DocumentDigest)) (state : AppState Guard)
    (sender : Option String) (doc : TrustTask) : Answer × AppState Guard :=
  match sender with
  | none => (rejectValue outside doc .proofRequired, state)
  | some caller =>
      match parse Value.decodeProvisionRequest outside doc with
      | .error answer => (answer, state)
      | .ok request =>
          match request.policy.validateAndNormalize with
          | .error reason => (malformed outside doc reason, state)
          | .ok policy =>
              if ¬state.controllers.allows crates caller then
                (rejectValue outside doc
                    (.permissionDenied "controller VTA is not served by this gateway"),
                  { state with metrics := state.metrics.incProvisionNotController })
              else
                match state.store.checkController crates request.handle caller with
                | .ok =>
                    -- The stored list is already this one: answered without a replay record.
                    if state.store.allowlistIs request.handle policy.allowedTriggers then
                      (successValue outside doc
                          (provisionPayload request.handle policy.allowedTriggers),
                        { state with metrics := state.metrics.incProvisionOk })
                    else
                      match admitOnce outside once state caller request.handle doc with
                      | (.error answer, state) => (answer, state)
                      | (.ok (), state) =>
                          applyProvision crates outside once state caller request.handle policy doc
                | refused => provisionRefused outside state doc refused

/-- The push of an admitted wake, and what follows from its outcome. -/
def pushWake (once : Option (DocumentOnce DocumentDigest)) (state : AppState Guard)
    (trigger : String) (request : WakeRequest) (registration : PushRegistration)
    (doc : TrustTask) : Answer × AppState Guard :=
  let outcome := (outside.send registration request.payload).getD .transientFailure
  let state := { state with sends := state.sends ++ [Sent.mk registration request.payload] }
  match outcome with
  | .delivered =>
      let response := successValue outside doc (statusPayload "delivered")
      (response, complete once { state with metrics := state.metrics.incWakeDelivered } trigger
        request.handle (some response))
  | .transientFailure =>
      (rejectValue outside doc
          (.taskFailed "transient push-service failure; message remains queued"),
        complete once { state with metrics := state.metrics.incWakeTransientFailure } trigger
          request.handle none)
  | .permanentlyUnregistered =>
      let response := successValue outside doc (statusPayload "tokenUnregistered")
      (response, complete once
        { state with
          store := state.store.remove crates request.handle
          metrics := state.metrics.incWakeTokenUnregistered } trigger request.handle
        (some response))

/-- `push/wake`. -/
def handleWake (once : Option (DocumentOnce DocumentDigest)) (state : AppState Guard)
    (sender : Option String) (doc : TrustTask) : Answer × AppState Guard :=
  match sender with
  | none => (rejectValue outside doc .proofRequired, state)
  | some trigger =>
      match parse Value.decodeWakeRequest outside doc with
      | .error answer => (answer, state)
      | .ok request =>
          match request.validate with
          | .error reason => (malformed outside doc reason, state)
          | .ok () =>
              match state.store.authorizeWake request.handle trigger with
              | .unknownHandle =>
                  (rejectValue outside doc (.taskFailed "unknown handle"),
                    { state with metrics := state.metrics.incWakeUnknownHandle })
              | .notAllowed =>
                  (rejectValue outside doc
                      (.permissionDenied "trigger DID is not on this handle's allowlist"),
                    { state with metrics := state.metrics.incWakeNotAllowed })
              | .allowed registration =>
                  if (select state.senders registration).isNone then
                    (rejectValue outside doc
                      (.taskFailed "no sender for this handle's platform"), state)
                  else
                    match admitOnce outside once state trigger request.handle doc with
                    | (.error answer, state) => (answer, state)
                    | (.ok (), state) =>
                        pushWake crates outside once state trigger request registration doc

/-! ## Dispatch -/

/-- The type is this operation at version 0.2. -/
def TypeUri.names (uri : TypeUri) (slug : String) : Prop :=
  uri.slug = slug ∧ uri.major = 0 ∧ uri.minor = 2

instance (uri : TypeUri) (slug : String) : Decidable (uri.names slug) :=
  inferInstanceAs (Decidable (_ ∧ _))

theorem TypeUri.names.unique {uri : TypeUri} {slug other : String} (named : uri.names slug)
    (names : uri.names other) : slug = other :=
  named.1.symm.trans names.1

/-- Perform a `push/*` operation and build its answer. -/
def dispatchPushOnce (once : Option (DocumentOnce DocumentDigest)) (state : AppState Guard)
    (sender : Option String) (doc : TrustTask) : Answer × AppState Guard :=
  if doc.typeUri.names "push/register" then
    if ¬outside.allowRegister then (rateLimited outside doc, state)
    else handleRegister crates outside state doc
  else if doc.typeUri.names "push/provision" then
    if sender.any fun caller => !outside.allowDid caller then (rateLimited outside doc, state)
    else handleProvision crates outside once state sender doc
  else if doc.typeUri.names "push/wake" then
    if sender.any fun caller => !outside.allowDid caller then (rateLimited outside doc, state)
    else handleWake crates outside once state sender doc
  else (rejectValue outside doc (.unsupportedType doc.typeUri.text), state)

end PushGateway
