import PushGateway.Foundation.Execution
import PushGateway.Store

/-!
# The index of handles by push token

Each store call keeps the index exact: a bucket lists the live handles of its token digest, each
once, and no bucket is empty.
-/

namespace PushGateway

variable {DocumentDigest : Type} (crates : Crates DocumentDigest)

/-- The index lists exactly the live handles of each token digest. -/
def State.Indexed (state : State) : Prop :=
  GroupIndex.Exact (fun record => tokenDigest crates record.registration) state.handles
    state.byToken

/-! ## The operations on the state -/

namespace State

variable {crates}

theorem indexed_empty : empty.Indexed crates := GroupIndex.Exact.empty _

theorem indexed_reindex (state : State) : (state.reindex crates).Indexed crates :=
  GroupIndex.Exact.rebuild _ _

theorem Indexed.add {state : State} (indexed : state.Indexed crates) {handle : String}
    (record : HandleRecord) (fresh : state.handles.lookup handle = none) :
    (state.add crates handle record).Indexed crates :=
  GroupIndex.Exact.insert indexed record fresh

theorem dropHandle_handles (state : State) (handle : String) :
    (state.dropHandle crates handle).2.handles = AList.erase handle state.handles := by
  rw [dropHandle]
  cases found : state.handles.lookup handle with
  | none => exact (AssocMap.erase_of_absent found).symm
  | some record => rfl

theorem Indexed.dropHandle {state : State} (indexed : state.Indexed crates) (handle : String) :
    (state.dropHandle crates handle).2.Indexed crates := by
  rw [State.dropHandle]
  cases found : state.handles.lookup handle with
  | none => exact indexed
  | some record => exact GroupIndex.Exact.erase indexed found

/-- What dropping every handle of a list leaves. -/
theorem foldl_dropHandle (handles : List String) (state : State) :
    let dropped := handles.foldl (fun state handle => (state.dropHandle crates handle).2) state
    dropped.handles = handles.foldl (fun map handle => AList.erase handle map) state.handles ∧
      (state.Indexed crates → dropped.Indexed crates) := by
  induction handles generalizing state with
  | nil => exact ⟨rfl, id⟩
  | cons handle handles induction =>
      obtain ⟨left, kept⟩ := induction (state.dropHandle crates handle).2
      refine ⟨?_, fun indexed => kept (indexed.dropHandle handle)⟩
      rw [List.foldl_cons, List.foldl_cons, left, dropHandle_handles]

/-- The per-token cap reads the length of a bucket, which is the count of the live handles. -/
theorem Indexed.bucket_length {state : State} (indexed : state.Indexed crates) (digest : String) :
    (state.byToken.bucket digest).length =
      state.handles.count fun _ record =>
        decide (tokenDigest crates record.registration = digest) :=
  GroupIndex.Exact.length_bucket indexed digest

end State

/-! ## The calls on the store -/

/-- A call on the store which may change it. -/
inductive StoreCall where
  | insertAt (handle : String) (registration : PushRegistration) (controllerVtaDid : String)
      (createdAt : Nat)
  | provision (handle callerDid : String) (policy : WakeTriggerPolicy)
  | remove (handle : String)
  | sweepUnprovisioned (ttlSecs now : Nat)

/-- What a call answers. -/
inductive StoreAnswer where
  | inserted (result : Except InsertError Unit)
  | provisioned (outcome : ProvisionOutcome)
  | removed
  | swept (dropped : Nat)
  deriving DecidableEq

/-- The handle an insert names is not live. -/
def StoreCall.Fresh (handles : AssocMap String HandleRecord) : StoreCall → Prop
  | .insertAt handle _ _ _ => handles.lookup handle = none
  | .provision .. | .remove .. | .sweepUnprovisioned .. => True

namespace Store

/-- Perform a call. -/
def perform (store : Store) : StoreCall → StoreAnswer × Store
  | .insertAt handle registration controllerVtaDid createdAt =>
      let (result, store) := store.insertAt crates handle registration controllerVtaDid createdAt
      (.inserted result, store)
  | .provision handle callerDid policy =>
      let (outcome, store) := store.provision crates handle callerDid policy
      (.provisioned outcome, store)
  | .remove handle => (.removed, store.remove crates handle)
  | .sweepUnprovisioned ttlSecs now =>
      let (dropped, store) := store.sweepUnprovisioned crates ttlSecs now
      (.swept dropped, store)

/-- A store as it is opened, without a snapshot or on one. -/
inductive Opened : Store → Prop
  | withLimits (limits : StoreLimits) : Opened (withLimits limits)
  | openWithLimits (snapshot : AssocMap String HandleRecord) (policy : EgressPolicy)
      (limits : StoreLimits) : Opened (openWithLimits crates snapshot policy limits)

theorem Opened.indexed {crates : Crates DocumentDigest} {store : Store}
    (opened : Opened crates store) : store.state.Indexed crates := by
  cases opened with
  | withLimits limits => exact State.indexed_empty
  | openWithLimits snapshot policy limits => exact State.indexed_reindex _

/-- What an insert does: it is refused and changes nothing, or adds one inert record. -/
theorem insertAt_cases (store : Store) (handle : String) (registration : PushRegistration)
    (controllerVtaDid : String) (createdAt : Nat) :
    (∃ error, store.insertAt crates handle registration controllerVtaDid createdAt =
        (.error error, store)) ∨
      store.insertAt crates handle registration controllerVtaDid createdAt = (.ok (), { store with
        state := store.state.add crates handle
          ⟨registration, crates.stripScidSrc controllerVtaDid, [], createdAt⟩
        dirty := true }) := by
  simp only [insertAt]
  split
  · exact .inl ⟨_, rfl⟩
  · split
    · exact .inl ⟨_, rfl⟩
    · split
      · exact .inl ⟨_, rfl⟩
      · exact .inr rfl

/-- What a provision does: it changes nothing, or replaces the list of a live handle which the
caller controls. -/
theorem provision_cases (store : Store) (handle callerDid : String) (policy : WakeTriggerPolicy) :
    (∃ outcome, outcome ≠ .ok ∧
        store.provision crates handle callerDid policy = (outcome, store)) ∨
      (∃ record, store.state.handles.lookup handle = some record ∧
        crates.sameReference record.controllerVtaDid callerDid = true ∧
        store.provision crates handle callerDid policy = (.ok, { store with
          state := { store.state with
            handles := store.state.handles.modify handle fun record =>
              { record with allowedTriggers := policy.allowedTriggers } }
          dirty := true })) := by
  rw [provision]
  cases found : store.state.handles.lookup handle with
  | none => exact .inl ⟨.unknownHandle, nofun, rfl⟩
  | some record =>
      dsimp only
      split
      · exact .inl ⟨.notController, nofun, rfl⟩
      · rename_i controls
        exact .inr ⟨record, rfl, by simpa using controls, rfl⟩

theorem sweepUnprovisioned_handles (store : Store) (ttlSecs now : Nat) :
    (store.sweepUnprovisioned crates ttlSecs now).2.state.handles =
      store.state.handles.retain fun _ record =>
        !(record.allowedTriggers.isEmpty && decide (ttlSecs ≤ now - record.createdAt)) := by
  rw [sweepUnprovisioned, (State.foldl_dropHandle _ _).1, stale, AssocMap.foldl_erase_keys_retain]

/-! ## What the calls answer -/

section Answers

variable (store : Store) (handle : String)

theorem allowlistIs_iff (triggers : List String) :
    store.allowlistIs handle triggers = true ↔
      ∃ record, store.state.handles.lookup handle = some record ∧
        record.allowedTriggers = triggers := by
  rw [allowlistIs]
  cases store.state.handles.lookup handle with
  | none => simp
  | some record => simp

theorem checkController_iff (callerDid : String) :
    store.checkController crates handle callerDid = .ok ↔
      ∃ record, store.state.handles.lookup handle = some record ∧
        crates.sameReference record.controllerVtaDid callerDid = true := by
  rw [checkController]
  cases store.state.handles.lookup handle with
  | none => simp
  | some record => simp

theorem provision_ok_iff (callerDid : String) (policy : WakeTriggerPolicy) :
    (store.provision crates handle callerDid policy).1 = .ok ↔
      ∃ record, store.state.handles.lookup handle = some record ∧
        crates.sameReference record.controllerVtaDid callerDid = true := by
  rw [provision]
  cases store.state.handles.lookup handle with
  | none => simp
  | some record =>
      cases controls : crates.sameReference record.controllerVtaDid callerDid with
      | false => simp [controls]
      | true => simp [controls]

theorem authorizeWake_iff (trigger : String) (registration : PushRegistration) :
    store.authorizeWake handle trigger = .allowed registration ↔
      ∃ record, store.state.handles.lookup handle = some record ∧
        record.registration = registration ∧ trigger ∈ record.allowedTriggers := by
  rw [authorizeWake]
  cases store.state.handles.lookup handle with
  | none => simp
  | some record =>
      dsimp only
      split
      · rename_i listed
        simp [List.contains_iff_mem.mp listed]
      · rename_i unlisted
        simp at unlisted
        simp [unlisted]

end Answers

variable {crates}

/-- A refused insert leaves the store as it was. -/
theorem insertAt_refused {store : Store} {handle : String} {registration : PushRegistration}
    {controllerVtaDid : String} {createdAt : Nat} {error : InsertError}
    (refused : (store.insertAt crates handle registration controllerVtaDid createdAt).1 =
      .error error) :
    (store.insertAt crates handle registration controllerVtaDid createdAt).2 = store := by
  obtain ⟨_, same⟩ | stored :=
    insertAt_cases crates store handle registration controllerVtaDid createdAt
  · rw [same]
  · rw [stored] at refused
    cases refused

/-- Every call keeps the index exact. -/
theorem indexed_perform {store : Store} (indexed : store.state.Indexed crates) {call : StoreCall}
    (fresh : call.Fresh store.state.handles) :
    (store.perform crates call).2.state.Indexed crates := by
  cases call with
  | insertAt handle registration controllerVtaDid createdAt =>
      obtain ⟨_, refused⟩ | stored :=
        insertAt_cases crates store handle registration controllerVtaDid createdAt
      · simpa [perform, refused] using indexed
      · simpa [perform, stored] using indexed.add _ fresh
  | provision handle callerDid policy =>
      obtain ⟨_, _, same⟩ | ⟨record, found, _, changed⟩ :=
        provision_cases crates store handle callerDid policy
      · simpa [perform, same] using indexed
      · simp only [perform, changed]
        refine GroupIndex.Exact.of_same_groups indexed fun other => ?_
        rw [AssocMap.lookup_modify]
        split
        · simp [Option.map_map, Function.comp_def]
        · rfl
  | remove handle => exact indexed.dropHandle handle
  | sweepUnprovisioned ttlSecs now => exact (State.foldl_dropHandle _ _).2 indexed

end Store

end PushGateway
