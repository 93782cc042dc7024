import PushGateway.Foundation.GroupIndex
import PushGateway.Types

/-!
# The handle store

Opaque handles with their push registration, controller and trigger allowlist, and the index of
handles by push token which the per-token cap reads.
-/

namespace PushGateway

/-- Everything the gateway holds for one registered push channel. -/
structure HandleRecord where
  registration : PushRegistration
  controllerVtaDid : String
  allowedTriggers : List String
  createdAt : Nat
  deriving DecidableEq, Repr

/-- Bounds on the registry. -/
structure StoreLimits where
  maxHandles : Nat
  maxPerToken : Nat
  unprovisionedTtlSecs : Nat
  maxPerController : Nat
  deriving DecidableEq, Repr

def StoreLimits.default : StoreLimits where
  maxHandles := 100000
  maxPerToken := 4
  unprovisionedTtlSecs := 60 * 60
  maxPerController := 4096

/-- Why a registration was not stored. -/
inductive InsertError where
  | atCapacity
  | tooManyForToken
  | tooManyForController
  deriving DecidableEq, Repr

/-- A reason safe to return to an anonymous caller. -/
def InsertError.reason : InsertError → String
  | .atCapacity => "gateway at capacity"
  | .tooManyForToken => "too many handles for this push token"
  | .tooManyForController => "too many handles for this controller"

inductive ProvisionOutcome where
  | ok
  | unknownHandle
  | notController
  deriving DecidableEq, Repr

inductive WakeAuthz where
  | allowed (registration : PushRegistration)
  | unknownHandle
  | notAllowed
  deriving DecidableEq, Repr

/-- The handle map and the index of handles by token digest. -/
structure State where
  handles : AssocMap String HandleRecord
  byToken : GroupIndex String String

variable {DocumentDigest : Type} (crates : Crates DocumentDigest)

/-- What a token digest is computed from. -/
def tokenMaterial : PushRegistration → String
  | .apns token _ _ => "apns:" ++ token
  | .fcm token => "fcm:" ++ token
  | .webpush endpoint _ => "webpush:" ++ endpoint

/-- `token_digest`. -/
def tokenDigest (registration : PushRegistration) : String :=
  crates.sha256Prefix (tokenMaterial registration)

namespace State

def empty : State := ⟨∅, ∅⟩

/-- Add a record and index it. -/
def add (state : State) (handle : String) (record : HandleRecord) : State where
  handles := AList.insert handle record state.handles
  byToken := state.byToken.push (tokenDigest crates record.registration) handle

/-- Remove a handle and de-index it. -/
def dropHandle (state : State) (handle : String) : Bool × State :=
  match state.handles.lookup handle with
  | none => (false, state)
  | some record =>
      (true, ⟨AList.erase handle state.handles,
        state.byToken.drop (tokenDigest crates record.registration) handle⟩)

/-- Rebuild the index from the handles. -/
def reindex (state : State) : State where
  handles := state.handles
  byToken := GroupIndex.rebuild (fun record => tokenDigest crates record.registration)
    state.handles

end State

/-- The store: the guarded state, its limits, and whether a snapshot is due. -/
structure Store where
  state : State
  limits : StoreLimits
  dirty : Bool

namespace Store

/-- In-memory store with explicit limits. -/
def withLimits (limits : StoreLimits) : Store := ⟨State.empty, limits, false⟩

/-- A stored record which passes current validation. -/
def isLoadable (policy : EgressPolicy) (record : HandleRecord) : Bool :=
  (record.registration.validate crates policy).isOk && isBoundedDid record.controllerVtaDid

/-- Open a store on the map read from its snapshot. -/
def openWithLimits (snapshot : AssocMap String HandleRecord) (policy : EgressPolicy)
    (limits : StoreLimits) : Store where
  state := State.reindex crates
    ⟨snapshot.retain fun _ record => isLoadable crates policy record, ∅⟩
  limits := limits
  dirty := false

/-- Record a freshly-issued handle, subject to the caps. -/
def insertAt (store : Store) (handle : String) (registration : PushRegistration)
    (controllerVtaDid : String) (createdAt : Nat) : Except InsertError Unit × Store :=
  let controllerVtaDid := crates.stripScidSrc controllerVtaDid
  if store.limits.maxHandles ≤ store.state.handles.size then (.error .atCapacity, store)
  else if store.limits.maxPerController ≤
      store.state.handles.count fun _ record =>
        decide (record.controllerVtaDid = controllerVtaDid) then
    (.error .tooManyForController, store)
  else if (store.state.byToken.lookup (tokenDigest crates registration)).any
      fun list => decide (store.limits.maxPerToken ≤ list.length) then
    (.error .tooManyForToken, store)
  else
    (.ok (), { store with
      state := store.state.add crates handle ⟨registration, controllerVtaDid, [], createdAt⟩
      dirty := true })

/-- Set a handle's allowlist. -/
def provision (store : Store) (handle callerDid : String) (policy : WakeTriggerPolicy) :
    ProvisionOutcome × Store :=
  match store.state.handles.lookup handle with
  | none => (.unknownHandle, store)
  | some record =>
      if ¬crates.sameReference record.controllerVtaDid callerDid then (.notController, store)
      else
        (.ok, { store with
          state := { store.state with
            handles := store.state.handles.modify handle fun record =>
              { record with allowedTriggers := policy.allowedTriggers } }
          dirty := true })

/-- Whether the handle's stored allowlist is already exactly this. -/
def allowlistIs (store : Store) (handle : String) (triggers : List String) : Bool :=
  (store.state.handles.lookup handle).any fun record => decide (record.allowedTriggers = triggers)

/-- Whether the caller is the handle's controller. -/
def checkController (store : Store) (handle callerDid : String) : ProvisionOutcome :=
  match store.state.handles.lookup handle with
  | none => .unknownHandle
  | some record =>
      if ¬crates.sameReference record.controllerVtaDid callerDid then .notController else .ok

/-- Resolve a wake against the handle's allowlist. -/
def authorizeWake (store : Store) (handle triggerDid : String) : WakeAuthz :=
  match store.state.handles.lookup handle with
  | none => .unknownHandle
  | some record =>
      if record.allowedTriggers.contains triggerDid then .allowed record.registration
      else .notAllowed

/-- Drop a handle whose token is dead. -/
def remove (store : Store) (handle : String) : Store :=
  let (removed, state) := store.state.dropHandle crates handle
  { store with state := state, dirty := store.dirty || removed }

/-- The handles which are still unprovisioned `ttlSecs` after they were issued. -/
def stale (handles : AssocMap String HandleRecord) (ttlSecs now : Nat) : List String :=
  (handles.retain fun _ record =>
    record.allowedTriggers.isEmpty && decide (ttlSecs ≤ now - record.createdAt)).keys

/-- Remove stale handles, and say how many there were. -/
def sweepUnprovisioned (store : Store) (ttlSecs now : Nat) : Nat × Store :=
  let stale := stale store.state.handles ttlSecs now
  (stale.length, { store with
    state := stale.foldl (fun state handle => (state.dropHandle crates handle).2) store.state
    dirty := store.dirty || decide (0 < stale.length) })

end Store

end PushGateway
