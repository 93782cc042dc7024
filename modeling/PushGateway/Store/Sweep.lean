import PushGateway.Store.History

/-!
# Provisioned handles and the sweep

The sweep reads the current list and the creation time of a handle.  It keeps a handle which was
once provisioned as long as the list written last is not empty, and only then however old it is.
-/

namespace PushGateway

open Execution

variable {DocumentDigest : Type} (crates : Crates DocumentDigest)

namespace Store

/-- The list a call writes for a handle; a stored insert writes the empty one. -/
def written (handle : String) (store : Store) (call : StoreCall) : Option (List String) :=
  match call, (store.perform crates call).1 with
  | .insertAt other _ _ _, .inserted (.ok ()) => if handle = other then some [] else none
  | .provision other _ policy, .provisioned .ok =>
      if handle = other then some policy.allowedTriggers else none
  | _, _ => none

/-- The list written last for a handle in a run, if any is. -/
def lastWritten (handle : String) : Store → List StoreCall → Option (List String)
  | _, [] => none
  | store, call :: calls =>
      (lastWritten handle (next (perform crates) store call) calls).or
        (written crates handle store call)

/-- A call which spares a live handle leaves it the list it writes, or the one it had. -/
theorem lookup_of_spares {store : Store} {handle : String} {record : HandleRecord}
    (found : store.state.handles.lookup handle = some record) {call : StoreCall}
    (spares : store.Spares crates handle call) :
    ∃ record', (next (perform crates) store call).state.handles.lookup handle = some record' ∧
      record'.allowedTriggers = (written crates handle store call).getD record.allowedTriggers := by
  rw [next, lookup_perform, found]
  cases call with
  | insertAt other registration controllerVtaDid createdAt =>
      obtain ⟨error, refused⟩ | stored :=
        insertAt_cases crates store other registration controllerVtaDid createdAt
      · exact ⟨record, by simp [StoreCall.rewrite, Store.stored, perform, refused],
          by simp [written, perform, refused]⟩
      · by_cases same : handle = other
        · exact ⟨⟨registration, crates.stripScidSrc controllerVtaDid, [], createdAt⟩,
            by simp [StoreCall.rewrite, Store.stored, perform, stored, same],
            by simp [written, perform, stored, same]⟩
        · exact ⟨record, by simp [StoreCall.rewrite, same],
            by simp [written, perform, stored, same]⟩
  | provision other callerDid policy =>
      by_cases same : handle = other
      · subst same
        cases controls : crates.sameReference record.controllerVtaDid callerDid with
        | false =>
            exact ⟨record, by simp [StoreCall.rewrite, controls],
              by simp [written, perform, provision, found, controls]⟩
        | true =>
            exact ⟨{ record with allowedTriggers := policy.allowedTriggers },
              by simp [StoreCall.rewrite, controls],
              by simp [written, perform, provision, found, controls]⟩
      · refine ⟨record, by simp [StoreCall.rewrite, same], ?_⟩
        simp only [written]
        split <;> simp_all
  | remove other =>
      exact ⟨record, by simp [StoreCall.rewrite, show handle ≠ other from spares], rfl⟩
  | sweepUnprovisioned ttlSecs now =>
      obtain ⟨kept, survives⟩ := Option.isSome_iff_exists.mp spares
      rw [lookup_perform, found] at survives
      have filtered := survives
      rw [StoreCall.rewrite] at filtered
      obtain ⟨same, -⟩ := Option.filter_eq_some_iff.mp filtered
      cases same
      exact ⟨record, survives, rfl⟩

/-- After a run which spares a live handle, it has the list written last. -/
theorem lookup_of_along_spares {store : Store} {handle : String} {record : HandleRecord}
    (found : store.state.handles.lookup handle = some record) {calls : List StoreCall}
    (spares : Along (next (perform crates)) (Spares crates handle) store calls) :
    ∃ record', (run (next (perform crates)) store calls).state.handles.lookup handle =
        some record' ∧
      record'.allowedTriggers =
        (lastWritten crates handle store calls).getD record.allowedTriggers := by
  induction calls generalizing store record with
  | nil => exact ⟨record, found, rfl⟩
  | cons call calls induction =>
      obtain ⟨record', found', first⟩ := lookup_of_spares crates found spares.1
      obtain ⟨record'', found'', later⟩ := induction found' spares.2
      refine ⟨record'', found'', ?_⟩
      rw [later, first, lastWritten]
      cases lastWritten crates handle (next (perform crates) store call) calls with
      | none => rfl
      | some list => rfl

/-- A provision in a run, and a later sweep. -/
structure Sweeping where
  before : List StoreCall
  handle : String
  callerDid : String
  policy : WakeTriggerPolicy
  between : List StoreCall
  ttlSecs : Nat
  now : Nat
  after : List StoreCall

namespace Sweeping

def calls (sweeping : Sweeping) : List StoreCall :=
  sweeping.before ++ .provision sweeping.handle sweeping.callerDid sweeping.policy ::
    (sweeping.between ++ .sweepUnprovisioned sweeping.ttlSecs sweeping.now :: sweeping.after)

/-- The store which the provision meets. -/
def start (sweeping : Sweeping) (store : Store) : Store :=
  run (next (perform crates)) store sweeping.before

/-- The store which the provision leaves. -/
def provisioned (sweeping : Sweeping) (store : Store) : Store :=
  next (perform crates) (sweeping.start crates store)
    (.provision sweeping.handle sweeping.callerDid sweeping.policy)

/-- The store which the sweep meets. -/
def swept (sweeping : Sweeping) (store : Store) : Store :=
  run (next (perform crates)) (sweeping.provisioned crates store) sweeping.between

/-- A provision with a list which is not empty succeeded, and the handle is still live when the
sweep comes. -/
structure Reached (sweeping : Sweeping) (store : Store) : Prop where
  succeeded : ((sweeping.start crates store).perform crates
    (.provision sweeping.handle sweeping.callerDid sweeping.policy)).1 = .provisioned .ok
  nonempty : sweeping.policy.allowedTriggers ≠ []
  spared : Along (next (perform crates)) (Spares crates sweeping.handle)
    (sweeping.provisioned crates store) sweeping.between

/-- The list written last for the handle is not empty, or the handle is younger than the limit. -/
def Kept (sweeping : Sweeping) (store : Store) : Prop :=
  (lastWritten crates sweeping.handle (sweeping.provisioned crates store)
      sweeping.between).getD sweeping.policy.allowedTriggers ≠ [] ∨
    ∀ record, (sweeping.swept crates store).state.handles.lookup sweeping.handle = some record →
      sweeping.now - record.createdAt < sweeping.ttlSecs

end Sweeping

/-- No sweep of a run removes a handle which was provisioned before. -/
def NeverSwept (store : Store) (calls : List StoreCall) : Prop :=
  ∀ sweeping : Sweeping, sweeping.calls = calls → sweeping.Reached crates store →
    (sweeping.swept crates store).Spares crates sweeping.handle
      (.sweepUnprovisioned sweeping.ttlSecs sweeping.now)

/-- When the sweep comes, the handle has the list written last. -/
theorem Sweeping.Reached.found {sweeping : Sweeping} {store : Store}
    (reached : sweeping.Reached crates store) :
    ∃ record, (sweeping.swept crates store).state.handles.lookup sweeping.handle = some record ∧
      record.allowedTriggers = (lastWritten crates sweeping.handle
        (sweeping.provisioned crates store) sweeping.between).getD
          sweeping.policy.allowedTriggers := by
  obtain ⟨record, found, list⟩ := lookup_provisioned crates reached.succeeded
  obtain ⟨record', found', list'⟩ := lookup_of_along_spares crates found reached.spared
  exact ⟨record', found', by rw [list', list]; rfl⟩

/-- No sweep removes a provisioned handle, exactly if none meets one old and emptied. -/
theorem neverSwept_iff (store : Store) (calls : List StoreCall) :
    NeverSwept crates store calls ↔
      ∀ sweeping : Sweeping, sweeping.calls = calls → sweeping.Reached crates store →
        sweeping.Kept crates store := by
  refine forall_congr' fun sweeping => imp_congr_right fun _ => forall_congr' fun reached => ?_
  obtain ⟨record, found, list⟩ := reached.found
  have age : (∀ other, (sweeping.swept crates store).state.handles.lookup sweeping.handle =
      some other → sweeping.now - other.createdAt < sweeping.ttlSecs) ↔
        sweeping.now - record.createdAt < sweeping.ttlSecs := by
    simp [found]
  rw [spares_sweep_iff crates found, Sweeping.Kept, ← list, age]

/-- A handle is provisioned, its list is emptied, and the sweep comes. -/
private def emptied : Sweeping where
  before := [.insertAt "h" (.fcm "t") "did:web:vta.example" 0]
  handle := "h"
  callerDid := "did:web:vta.example"
  policy := ⟨["did:key:zT"]⟩
  between := [.provision "h" "did:web:vta.example" ⟨[]⟩]
  ttlSecs := 60
  now := 60
  after := []

theorem emptied_handle_swept :
    ¬∀ (store : Store) (calls : List StoreCall), NeverSwept plainCrates store calls := by
  intro never
  have spared := never (withLimits StoreLimits.default) emptied.calls emptied rfl
    ⟨by decide, by decide, by decide⟩
  revert spared
  decide

end Store

end PushGateway
