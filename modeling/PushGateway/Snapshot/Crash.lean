import PushGateway.Foundation.Recovery
import PushGateway.Snapshot.Flush
import PushGateway.Store.History

/-!
# Crashes and the snapshot of the store

One operation at a time, a flush may fail at any of its file operations and the process may crash
at any step.  The snapshot is always missing or a whole handle map, and the flag is up whenever the
map in memory differs from it.
-/

namespace PushGateway

open WriteBehind

variable {DocumentDigest Byte : Type} (crates : Crates DocumentDigest) (json : SerdeJson Byte)

namespace SerdeJson

/-- What the stores write is read again as the same value: a map of records, and one of texts. -/
structure Lossless : Prop where
  handles : ∀ handles : AssocMap String HandleRecord,
    (∀ record ∈ handles.values, record.Encodable) →
    json.fromSlice (json.toVec (Value.encodeHandles handles)) = some (Value.encodeHandles handles)
  texts : ∀ texts : List (String × String), (texts.map Prod.fst).Nodup →
    json.fromSlice (json.toVec (.object (texts.map fun entry => (entry.1, .string entry.2)))) =
      some (.object (texts.map fun entry => (entry.1, .string entry.2)))

/-- The handles read from the snapshot file; a missing or unparseable file holds none. -/
def readHandles (content : Option (List Byte)) : AssocMap String HandleRecord :=
  ((content.bind json.fromSlice).bind Value.decodeHandles).getD ∅

end SerdeJson

/-- The state of a store opened on a snapshot file. -/
def Store.reopen (policy : EgressPolicy) (limits : StoreLimits) (content : Option (List Byte)) :
    State :=
  (Store.openWithLimits crates (json.readHandles content) policy limits).state

/-- The file holds the handles. -/
def SnapshotHolds (content : Option (List Byte)) (state : State) : Prop :=
  json.readHandles content = state.handles

/-- Every record passes the validation of a load. -/
def State.Loadable (policy : EgressPolicy) (state : State) : Prop :=
  ∀ handle record, state.handles.lookup handle = some record →
    Store.isLoadable crates policy record = true ∧ record.Encodable

/-- The record of an insert passes the validation of a load. -/
def StoreCall.Loadable (policy : EgressPolicy) : StoreCall → Prop
  | .insertAt _ registration controllerVtaDid createdAt =>
      Store.isLoadable crates policy
          ⟨registration, crates.stripScidSrc controllerVtaDid, [], createdAt⟩ = true ∧
        createdAt < 2 ^ 64
  | .provision _ _ _ | .remove _ | .sweepUnprovisioned _ _ => True

instance (policy : EgressPolicy) : DecidablePred (StoreCall.Loadable crates policy)
  | .insertAt _ _ _ _ => inferInstanceAs (Decidable (_ ∧ _))
  | .provision _ _ _ | .remove _ | .sweepUnprovisioned _ _ => isTrue trivial

variable {crates json}

/-! ## Reading back -/

theorem readHandles_encode (lossless : json.Lossless) {handles : AssocMap String HandleRecord}
    (encodable : ∀ record ∈ handles.values, record.Encodable) :
    json.readHandles (some (json.toVec (Value.encodeHandles handles))) = handles := by
  rw [SerdeJson.readHandles, Option.bind_some, lossless.handles handles encodable, Option.bind_some,
    Value.decodeHandles_encode encodable, Option.getD_some]

theorem State.Loadable.encodable {policy : EgressPolicy} {state : State}
    (loadable : state.Loadable crates policy) :
    ∀ record ∈ state.handles.values, record.Encodable := by
  intro record member
  obtain ⟨handle, found⟩ := (AssocMap.mem_values_iff _ _).mp member
  exact (loadable handle record found).2

/-- A call with a loadable record keeps every record loadable. -/
theorem State.Loadable.perform {policy : EgressPolicy} {store : Store}
    (loadable : store.state.Loadable crates policy) {call : StoreCall}
    (accepted : call.Loadable crates policy) :
    (store.perform crates call).2.state.Loadable crates policy := by
  intro handle record found
  rw [Store.lookup_perform] at found
  cases call with
  | insertAt other registration controllerVtaDid createdAt =>
      rw [StoreCall.rewrite] at found
      split at found
      · cases found
        exact accepted
      · exact loadable handle record found
  | provision other callerDid policy' =>
      rw [StoreCall.rewrite] at found
      split at found
      · obtain ⟨previous, before, rfl⟩ := Option.map_eq_some_iff.mp found
        split
        · exact loadable handle previous before
        · exact loadable handle previous before
      · exact loadable handle record found
  | remove other =>
      rw [StoreCall.rewrite] at found
      split at found
      · cases found
      · exact loadable handle record found
  | sweepUnprovisioned ttlSecs now =>
      exact loadable handle record (Option.filter_eq_some_iff.mp found).1

/-- Opening a snapshot of loadable records drops none. -/
theorem reopen_handles {policy : EgressPolicy} (limits : StoreLimits)
    {content : Option (List Byte)} {state : State}
    (loadable : state.Loadable crates policy) (holds : SnapshotHolds json content state) :
    (Store.reopen crates json policy limits content).handles = state.handles := by
  change (json.readHandles content).retain (fun _ record => Store.isLoadable crates policy record) =
    state.handles
  rw [show json.readHandles content = state.handles from holds]
  exact AssocMap.retain_eq_self fun handle record found => (loadable handle record found).1

/-! ## Runs with crashes -/

/-- The file is as the last flush left it, or holds the handles in some other way. -/
def SnapshotAgrees (design : WriteBehind State StoreCall Byte) (json : SerdeJson Byte)
    (content : Option (List Byte)) (state : State) : Prop :=
  content = some (design.serialise state) ∨ SnapshotHolds json content state

theorem restores (lossless : json.Lossless) (policy : EgressPolicy) (limits : StoreLimits) :
    let design := Store.writeBehind crates json limits
    design.Restores (Store.reopen crates json policy limits) (SnapshotAgrees design json)
      (State.Loadable crates policy) (StoreCall.Loadable crates policy) where
  written state := .inl rfl
  missing := by
    refine ⟨.inr ?_, fun handle record found => ?_⟩
    · rfl
    · cases found
  restored state loadable := by
    have holds : SnapshotHolds json (some (json.toVec (Value.encodeHandles state.handles))) state :=
      readHandles_encode lossless loadable.encodable
    have same := reopen_handles limits loadable holds
    refine ⟨.inr (holds.trans same.symm), fun handle record found => ?_⟩
    exact loadable handle record (same ▸ found)
  changed call state after accepted loadable change := by
    have loadable' : (Store.mk state limits false).state.Loadable crates policy := loadable
    have performed := loadable'.perform accepted
    simp only [Store.writeBehind, Store.change] at change
    split at change
    · cases change
      exact performed
    · cases change

variable (crates json) in
/-- The process on a missing snapshot file. -/
def Store.onMissingFile (policy : EgressPolicy) (limits : StoreLimits) :
    WriteBehind.Pool State StoreCall Byte where
  shared := ⟨Store.reopen crates json policy limits none, false, none, []⟩
  phases := []

variable (crates json) in
/-- An event, with the store reopened after a crash. -/
def Store.happen (policy : EgressPolicy) (limits : StoreLimits) :
    WriteBehind.Pool State StoreCall Byte → WriteBehind.Event StoreCall →
      WriteBehind.Pool State StoreCall Byte :=
  (Store.writeBehind crates json limits).happen (Store.reopen crates json policy limits)

/-- The file is always missing or the whole map of the flush which renamed it last.  Between
operations the flag is up unless the file holds the handles, and the next flush makes it hold
them. -/
theorem snapshot_survives_crashes (lossless : json.Lossless) (policy : EgressPolicy)
    (limits : StoreLimits) {events : List (WriteBehind.Event StoreCall)}
    (along : Execution.Along (Store.happen crates json policy limits)
      (fun pool event => OneAtATime pool event ∧ event.Accepted (StoreCall.Loadable crates policy))
      (Store.onMissingFile crates json policy limits) events) :
    let design := Store.writeBehind crates json limits
    let pool := Execution.run (Store.happen crates json policy limits)
      (Store.onMissingFile crates json policy limits) events
    pool.shared.content =
        (design.lastRenamed (Store.reopen crates json policy limits)
          (Store.onMissingFile crates json policy limits) events).map
          (fun state => json.toVec (Value.encodeHandles state.handles)) ∧
    (pool.Idle →
      (¬SnapshotHolds json pool.shared.content pool.shared.map → pool.shared.dirty = true) ∧
      let flushed := Execution.run design.step pool (flushThrough pool.phases.length)
      flushed.Idle ∧ flushed.shared.map = pool.shared.map ∧
        SnapshotHolds json flushed.shared.content flushed.shared.map) := by
  intro design pool
  have started : design.Recoverable (SnapshotAgrees design json)
      (State.Loadable crates policy) (StoreCall.Loadable crates policy)
      (Store.onMissingFile crates json policy limits) :=
    .reopened (restores lossless policy limits)
      (fun snapshot (missing : (none : Option (Snapshot Byte)) = some snapshot) => by cases missing)
      fun state (member : state ∈ []) => by cases member
  have recoverable : design.Recoverable (SnapshotAgrees design json)
      (State.Loadable crates policy) (StoreCall.Loadable crates policy) pool := by
    obtain ⟨one, accepted⟩ := Execution.along_and.mp along
    exact recoverable_run (restores lossless policy limits) started
      (Execution.along_and.mpr ⟨apart_of_oneAtATime (Nat.zero_le 1) one, accepted⟩)
  have holds_of_agrees : ∀ {content state}, State.Loadable crates policy state →
      SnapshotAgrees design json content state → SnapshotHolds json content state := by
    rintro content state loadable (rfl | holds)
    · exact readHandles_encode lossless loadable.encodable
    · exact holds
  refine ⟨?_, fun idle => ⟨fun differs => ?_, ?_⟩⟩
  · exact (content_run (Store.reopen crates json policy limits) started.kept events).trans
      (Option.or_none)
  · by_contra down
    exact differs (holds_of_agrees recoverable.current_good
      (recoverable.settled.agrees_of_idle idle (Bool.not_eq_true _ ▸ down)))
  · rw [run_flushThrough]
    refine ⟨fun phase member => ?_, ?_⟩
    · obtain before | rfl := by simpa using member
      · exact idle phase before
      · rfl
    · cases up : pool.shared.dirty with
      | false =>
          exact ⟨rfl, holds_of_agrees recoverable.current_good
            (recoverable.settled.agrees_of_idle idle up)⟩
      | true =>
          exact ⟨rfl, readHandles_encode lossless recoverable.current_good.encodable⟩

private def register (handle : String) : WriteBehind.Action StoreCall :=
  .mutate (.insertAt handle (.fcm "t") "did:web:vta" 0)

private def interrupted : List (WriteBehind.Action StoreCall) :=
  register "h" :: steps 0 2 ++ .flush :: steps 1 3 ++ [.advance 1 (.stores 0)]

private def failing : List (WriteBehind.Action StoreCall) :=
  register "i" :: steps 0 2 ++ .flush :: steps 1 5 ++ [.advance 1 .fails, .advance 1 .succeeds]

/-- A crash in the middle of a write, and after it a rename which fails. -/
private def turbulent : List (WriteBehind.Event StoreCall) :=
  interrupted.map .act ++ .crash :: failing.map .act

theorem plainJson_lossless : plainJson.Lossless := ⟨fun _ _ => rfl, fun _ _ => rfl⟩

theorem turbulent_leaves_dirty :
    (Execution.run (Store.happen plainCrates plainJson EgressPolicy.default StoreLimits.default)
      (Store.onMissingFile plainCrates plainJson EgressPolicy.default StoreLimits.default)
      turbulent).shared.dirty = true := by
  have along : Execution.Along
      (Store.happen plainCrates plainJson EgressPolicy.default StoreLimits.default)
      (fun pool event => OneAtATime pool event ∧
        event.Accepted (StoreCall.Loadable plainCrates EgressPolicy.default))
      (Store.onMissingFile plainCrates plainJson EgressPolicy.default StoreLimits.default)
      turbulent := by decide
  have survives := snapshot_survives_crashes plainJson_lossless EgressPolicy.default
    StoreLimits.default along
  exact (survives.2 (by decide)).1 fun holds => absurd (congrArg AssocMap.size holds) (by decide)

end PushGateway
