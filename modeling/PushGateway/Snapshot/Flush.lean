import PushGateway.Foundation.WriteBehind
import PushGateway.Snapshot.Encoding
import PushGateway.Snapshot.Relationships
import PushGateway.Store.Index

/-!
# Flushing the snapshots

The handle store and the relationship map are written behind to their snapshot files by one
protocol.  Concurrent flushes lose no change as long as none of them renames its snapshot over a
later one; two flushes which overlap can do just that.
-/

namespace PushGateway

open WriteBehind

/-- `serde_json`. -/
structure SerdeJson (Byte : Type) where
  /-- `to_vec`. -/
  toVec : Value → List Byte
  /-- `from_slice`. -/
  fromSlice : List Byte → Option Value

variable {DocumentDigest Byte : Type} (crates : Crates DocumentDigest) (json : SerdeJson Byte)

/-! ## The two stores -/

/-- What a call makes of the guarded state, if it marks the store. -/
def Store.change (limits : StoreLimits) (call : StoreCall) (state : State) : Option State :=
  let after := (Store.perform crates ⟨state, limits, false⟩ call).2
  if after.dirty then some after.state else none

/-- `Store::flush` and the mutations it follows. -/
def Store.writeBehind (limits : StoreLimits) : WriteBehind State StoreCall Byte where
  change := Store.change crates limits
  serialise state := json.toVec (Value.encodeHandles state.handles)

/-- What a call makes of the relationship map, if it marks it. -/
def RelationshipFileKv.change (call : RelationshipCall)
    (map : AssocMap (List UInt8) (List UInt8)) : Option (AssocMap (List UInt8) (List UInt8)) :=
  let after := RelationshipFileKv.perform ⟨map, false⟩ call
  if after.dirty then some after.map else none

/-- `RelationshipFileKv::flush` and the mutations it follows. -/
def RelationshipFileKv.writeBehind (b64 : List UInt8 → String) :
    WriteBehind (AssocMap (List UInt8) (List UInt8)) RelationshipCall Byte where
  change := RelationshipFileKv.change
  serialise map := json.toVec (Value.encodeRelationships b64 map)

/-! ## Every call marks what it changes -/

/-- A call does the same to a marked store, and leaves it marked. -/
theorem Store.perform_dirty (state : State) (limits : StoreLimits) (dirty : Bool)
    (call : StoreCall) :
    Store.perform crates ⟨state, limits, dirty⟩ call =
      let after := Store.perform crates ⟨state, limits, false⟩ call
      (after.1, ⟨after.2.state, limits, dirty || after.2.dirty⟩) := by
  cases call with
  | insertAt handle registration controllerVtaDid createdAt =>
      simp only [perform, insertAt]
      split
      · simp
      · split
        · simp
        · split <;> simp
  | provision handle callerDid policy =>
      simp only [perform, provision]
      cases state.handles.lookup handle with
      | none => simp
      | some record =>
          dsimp only
          split <;> simp
  | remove handle => simp [perform, remove]
  | sweepUnprovisioned ttlSecs now => simp [perform, sweepUnprovisioned]

/-- A call which does not mark the store leaves it alone. -/
theorem Store.perform_unmarked {state : State} {limits : StoreLimits} {call : StoreCall}
    (unmarked : (Store.perform crates ⟨state, limits, false⟩ call).2.dirty = false) :
    (Store.perform crates ⟨state, limits, false⟩ call).2.state = state := by
  cases call with
  | insertAt handle registration controllerVtaDid createdAt =>
      obtain ⟨_, refused⟩ | stored := insertAt_cases crates ⟨state, limits, false⟩ handle
        registration controllerVtaDid createdAt
      · simp [perform, refused]
      · simp [perform, stored] at unmarked
  | provision handle callerDid policy =>
      obtain ⟨_, _, same⟩ | ⟨record, _, _, changed⟩ :=
        provision_cases crates ⟨state, limits, false⟩ handle callerDid policy
      · simp [perform, same]
      · simp [perform, changed] at unmarked
  | remove handle =>
      simp only [perform, remove, State.dropHandle] at unmarked ⊢
      cases found : state.handles.lookup handle with
      | none => rfl
      | some record => simp [found] at unmarked
  | sweepUnprovisioned ttlSecs now =>
      have none_stale : stale state.handles ttlSecs now = [] := by
        simpa [perform, sweepUnprovisioned] using unmarked
      simp [perform, sweepUnprovisioned, none_stale]

/-- What a call does to the store: nothing, or the change it marks. -/
theorem Store.perform_change (store : Store) (call : StoreCall) :
    (store.perform crates call).2 =
      match Store.change crates store.limits call store.state with
      | none => store
      | some state => ⟨state, store.limits, true⟩ := by
  obtain ⟨state, limits, dirty⟩ := store
  rw [perform_dirty, change]
  cases marked : (Store.perform crates ⟨state, limits, false⟩ call).2.dirty with
  | false => simp [marked, perform_unmarked crates marked]
  | true => simp [marked]

/-- What a call does to the relationship map: nothing, or the change it marks. -/
theorem RelationshipFileKv.perform_change (kv : RelationshipFileKv) (call : RelationshipCall) :
    kv.perform call =
      match RelationshipFileKv.change call kv.map with
      | none => kv
      | some map => ⟨map, true⟩ := by
  obtain ⟨map, dirty⟩ := kv
  cases call with
  | put key value => rfl
  | delete key =>
      cases found : map.lookup key with
      | none => simp [perform, delete, change, found, AssocMap.erase_of_absent found]
      | some value => simp [perform, delete, change, found]

/-! ## Concurrent flushes -/

/-- Neither store loses a change while no flush renames its snapshot over a later one. -/
theorem flushes_durable (limits : StoreLimits) (b64 : List UInt8 → String) :
    (∀ (state : State) (dirty : Bool) (actions : List (WriteBehind.Action StoreCall)),
        let design := Store.writeBehind crates json limits
        Execution.Along design.step InOrder (design.saved state dirty) actions →
          design.Durable (Execution.run design.step (design.saved state dirty) actions)) ∧
      ∀ (map : AssocMap (List UInt8) (List UInt8)) (dirty : Bool)
        (actions : List (WriteBehind.Action RelationshipCall)),
        let design := RelationshipFileKv.writeBehind json b64
        Execution.Along design.step InOrder (design.saved map dirty) actions →
          design.Durable (Execution.run design.step (design.saved map dirty) actions) :=
  ⟨fun state dirty _ in_order => durable_run _ state dirty in_order,
    fun map dirty _ in_order => durable_run _ map dirty in_order⟩

/-- In particular, flushes of the store which do not overlap lose no change. -/
theorem Store.flushes_apart_durable (limits : StoreLimits) (state : State) (dirty : Bool)
    {actions : List (WriteBehind.Action StoreCall)}
    (apart : Execution.Along (Store.writeBehind crates json limits).step Apart
      ((Store.writeBehind crates json limits).saved state dirty) actions) :
    (Store.writeBehind crates json limits).Durable
      (Execution.run (Store.writeBehind crates json limits).step
        ((Store.writeBehind crates json limits).saved state dirty) actions) :=
  durable_of_apart _ state dirty apart

/-- A text of one symbol, which is the value itself. -/
def plainJson : SerdeJson Value where
  toVec value := [value]
  fromSlice
    | [value] => some value
    | _ => none

/-- The steps of one mutation or flush which do not fail. -/
def steps {Call : Type} (index count : Nat) : List (WriteBehind.Action Call) :=
  List.replicate count (.advance index .succeeds)

private def doorbell (handle : String) : StoreCall :=
  .insertAt handle (.fcm handle) "did:web:vta.example" 0

/-- A flush reads the map; a second handle is inserted and flushed; then the first flush goes
on. -/
private def racing : List (WriteBehind.Action StoreCall) :=
  .mutate (doorbell "a") :: steps 0 2 ++ .flush :: steps 1 2 ++
    .mutate (doorbell "b") :: steps 2 2 ++ .flush :: steps 3 6 ++ steps 1 4

private def written : Option (List Value) → List Nat
  | some [.object members] => [members.length]
  | _ => []

theorem overlapping_flushes_lose_insert :
    ¬∀ (state : State) (dirty : Bool) (actions : List (WriteBehind.Action StoreCall)),
      let design := Store.writeBehind plainCrates plainJson StoreLimits.default
      design.Durable (Execution.run design.step (design.saved state dirty) actions) := by
  intro durable
  have lost := congrArg written
    (durable State.empty false racing (by decide) (by decide))
  revert lost
  decide

/-- Two flushes which overlap, the first of which ends first. -/
private def orderly : List (WriteBehind.Action StoreCall) :=
  .mutate (doorbell "a") :: steps 0 2 ++ .flush :: steps 1 2 ++
    .mutate (doorbell "b") :: steps 2 2 ++ .flush :: steps 3 2 ++ steps 1 4 ++ steps 3 4

theorem flushes_durable_orderly :
    let design := Store.writeBehind plainCrates plainJson StoreLimits.default
    design.Durable (Execution.run design.step (design.saved State.empty false) orderly) :=
  (flushes_durable plainCrates plainJson StoreLimits.default fun _ => "").1 State.empty false
    orderly (by decide)

end PushGateway
