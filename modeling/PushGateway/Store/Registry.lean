import PushGateway.Store.Index

/-!
# The store against plain counting

The reference registry keeps the handle map alone and counts it anew for every cap.  The store
answers as the reference does in every run in which the per-token cap is never read as zero
against a token nobody holds: the index has no bucket to compare the cap with there, so the
store takes the registration which the other caps would refuse at zero.
-/

namespace PushGateway

open Execution

variable {DocumentDigest : Type} (crates : Crates DocumentDigest)

/-- A registry without an index. -/
structure Registry where
  handles : AssocMap String HandleRecord
  limits : StoreLimits

namespace Registry

/-- The live handles which share a token digest. -/
def perToken (registry : Registry) (digest : String) : Nat :=
  registry.handles.count fun _ record => decide (tokenDigest crates record.registration = digest)

/-- The live handles which name one controller. -/
def perController (registry : Registry) (controllerVtaDid : String) : Nat :=
  registry.handles.count fun _ record => decide (record.controllerVtaDid = controllerVtaDid)

/-- Record a handle, counting for each cap. -/
def insertAt (registry : Registry) (handle : String) (registration : PushRegistration)
    (controllerVtaDid : String) (createdAt : Nat) : Except InsertError Unit × Registry :=
  let controllerVtaDid := crates.stripScidSrc controllerVtaDid
  if registry.limits.maxHandles ≤ registry.handles.size then (.error .atCapacity, registry)
  else if registry.limits.maxPerController ≤ registry.perController controllerVtaDid then
    (.error .tooManyForController, registry)
  else if registry.limits.maxPerToken ≤
      registry.perToken crates (tokenDigest crates registration) then
    (.error .tooManyForToken, registry)
  else
    (.ok (), { registry with
      handles := AList.insert handle ⟨registration, controllerVtaDid, [], createdAt⟩
        registry.handles })

/-- Set a handle's allowlist. -/
def provision (registry : Registry) (handle callerDid : String) (policy : WakeTriggerPolicy) :
    ProvisionOutcome × Registry :=
  match registry.handles.lookup handle with
  | none => (.unknownHandle, registry)
  | some record =>
      if ¬crates.sameReference record.controllerVtaDid callerDid then (.notController, registry)
      else
        (.ok, { registry with
          handles := registry.handles.modify handle fun record =>
            { record with allowedTriggers := policy.allowedTriggers } })

/-- Forget a handle. -/
def remove (registry : Registry) (handle : String) : Registry :=
  { registry with handles := AList.erase handle registry.handles }

/-- A record which a sweep takes. -/
def isStale (ttlSecs now : Nat) (record : HandleRecord) : Bool :=
  record.allowedTriggers.isEmpty && decide (ttlSecs ≤ now - record.createdAt)

/-- Forget every stale handle. -/
def sweepUnprovisioned (registry : Registry) (ttlSecs now : Nat) : Nat × Registry :=
  (registry.handles.count fun _ record => isStale ttlSecs now record,
    { registry with
      handles := registry.handles.retain fun _ record => !isStale ttlSecs now record })

/-- Perform a call on the reference. -/
def perform (registry : Registry) : StoreCall → StoreAnswer × Registry
  | .insertAt handle registration controllerVtaDid createdAt =>
      let (result, registry) :=
        registry.insertAt crates handle registration controllerVtaDid createdAt
      (.inserted result, registry)
  | .provision handle callerDid policy =>
      let (outcome, registry) := registry.provision crates handle callerDid policy
      (.provisioned outcome, registry)
  | .remove handle => (.removed, registry.remove handle)
  | .sweepUnprovisioned ttlSecs now =>
      let (dropped, registry) := registry.sweepUnprovisioned ttlSecs now
      (.swept dropped, registry)

/-! ## The caps of the reference -/

/-- Every cap has room for one more record. -/
structure Room (registry : Registry) (record : HandleRecord) : Prop where
  total : registry.handles.size < registry.limits.maxHandles
  perController : registry.perController record.controllerVtaDid < registry.limits.maxPerController
  perToken : registry.perToken crates (tokenDigest crates record.registration) <
    registry.limits.maxPerToken

theorem insertAt_cases (registry : Registry) (handle : String) (registration : PushRegistration)
    (controllerVtaDid : String) (createdAt : Nat) :
    (∃ error, registry.insertAt crates handle registration controllerVtaDid createdAt =
        (.error error, registry)) ∨
      let record := ⟨registration, crates.stripScidSrc controllerVtaDid, [], createdAt⟩
      registry.Room crates record ∧
        registry.insertAt crates handle registration controllerVtaDid createdAt =
          (.ok (), { registry with handles := AList.insert handle record registry.handles }) := by
  simp only [insertAt]
  split
  · exact .inl ⟨_, rfl⟩
  · rename_i total
    split
    · exact .inl ⟨_, rfl⟩
    · rename_i perController
      split
      · exact .inl ⟨_, rfl⟩
      · rename_i perToken
        exact .inr ⟨⟨Nat.lt_of_not_le total, Nat.lt_of_not_le perController,
          Nat.lt_of_not_le perToken⟩, rfl⟩

variable {crates}

theorem limits_perform (registry : Registry) (call : StoreCall) :
    (registry.perform crates call).2.limits = registry.limits := by
  cases call with
  | insertAt handle registration controllerVtaDid createdAt =>
      obtain ⟨_, refused⟩ | ⟨_, stored⟩ := insertAt_cases crates registry handle
        registration controllerVtaDid createdAt
      · simp [perform, refused]
      · simp [perform, stored]
  | provision handle callerDid policy =>
      simp only [perform, provision]
      split
      · rfl
      · split <;> rfl
  | remove handle => rfl
  | sweepUnprovisioned ttlSecs now => rfl

variable (crates) in
/-- A count which allowlists do not enter grows by an insert only, one for each record. -/
theorem count_perform (registry : Registry) {call : StoreCall} (test : HandleRecord → Bool)
    (fresh : call.Fresh registry.handles)
    (stable : ∀ record triggers, test { record with allowedTriggers := triggers } = test record) :
    let before := registry.handles.count fun _ record => test record
    let after := (registry.perform crates call).2.handles.count fun _ record => test record
    after ≤ before ∨ after = before + 1 ∧ ∃ handle registration controllerVtaDid createdAt,
      call = .insertAt handle registration controllerVtaDid createdAt ∧
        let record := ⟨registration, crates.stripScidSrc controllerVtaDid, [], createdAt⟩
        test record = true ∧ registry.Room crates record := by
  cases call with
  | insertAt handle registration controllerVtaDid createdAt =>
      obtain ⟨_, refused⟩ | ⟨room, stored⟩ := insertAt_cases crates registry handle registration
        controllerVtaDid createdAt
      · simp [perform, refused]
      · simp only [perform, stored, AssocMap.count_insert _ _ fresh]
        split
        · rename_i passes
          exact .inr ⟨rfl, handle, registration, controllerVtaDid, createdAt, rfl, passes, room⟩
        · exact .inl le_rfl
  | provision handle callerDid policy =>
      left
      simp only [perform, provision]
      split
      · exact le_rfl
      · split
        · exact le_rfl
        · dsimp only
          rw [AssocMap.modify, AssocMap.count_mapValues]
          intro key record
          split
          · exact stable record _
          · rfl
  | remove handle => exact .inl (AssocMap.count_erase_le _ _ _)
  | sweepUnprovisioned ttlSecs now =>
      simp only [perform, sweepUnprovisioned]
      exact .inl (AssocMap.count_retain_le _ _ _)

/-- A count which is below its cap whenever there is room stays below the larger of the cap and
what it was. -/
theorem count_perform_le {registry : Registry} {call : StoreCall} (cap : Nat)
    (test : HandleRecord → Bool) (fresh : call.Fresh registry.handles)
    (stable : ∀ record triggers, test { record with allowedTriggers := triggers } = test record)
    (below : ∀ record, registry.Room crates record → test record = true →
      (registry.handles.count fun _ record => test record) < cap) :
    ((registry.perform crates call).2.handles.count fun _ record => test record) ≤
      max cap (registry.handles.count fun _ record => test record) := by
  rcases count_perform crates registry test fresh stable with
    kept | ⟨grown, _, _, _, _, _, passes, room⟩
  · exact le_max_of_le_right kept
  · rw [grown]
    exact le_max_of_le_left (below _ room passes)

variable (crates) in
/-- Every count is at most the larger of its cap and its value at the start. -/
structure Capped (start registry : Registry) : Prop where
  limits : registry.limits = start.limits
  total : registry.handles.size ≤ max start.limits.maxHandles start.handles.size
  perToken : ∀ digest, registry.perToken crates digest ≤
    max start.limits.maxPerToken (start.perToken crates digest)
  perController : ∀ controllerVtaDid, registry.perController controllerVtaDid ≤
    max start.limits.maxPerController (start.perController controllerVtaDid)

theorem capped_refl (start : Registry) : Capped crates start start where
  limits := rfl
  total := le_max_right _ _
  perToken _ := le_max_right _ _
  perController _ := le_max_right _ _

theorem Capped.perform {start registry : Registry} (capped : Capped crates start registry)
    {call : StoreCall} (fresh : call.Fresh registry.handles) :
    Capped crates start (registry.perform crates call).2 where
  limits := by rw [limits_perform, capped.limits]
  total := by
    have step := count_perform_le registry.limits.maxHandles (fun _ => true) fresh
      (fun _ _ => rfl) fun (record : HandleRecord) (room : registry.Room crates record) _ => by
        rw [← AssocMap.size_eq_count]
        exact room.total
    rw [← AssocMap.size_eq_count, ← AssocMap.size_eq_count, capped.limits] at step
    exact step.trans (max_le (le_max_left _ _) capped.total)
  perToken digest := by
    have step := count_perform_le registry.limits.maxPerToken
      (fun record => decide (tokenDigest crates record.registration = digest)) fresh
      (fun _ _ => rfl) fun record (room : registry.Room crates record) shares => by
        rw [decide_eq_true_eq] at shares
        exact shares ▸ room.perToken
    rw [capped.limits] at step
    exact step.trans (max_le (le_max_left _ _) (capped.perToken digest))
  perController controllerVtaDid := by
    have step := count_perform_le registry.limits.maxPerController
      (fun record => decide (record.controllerVtaDid = controllerVtaDid)) fresh
      (fun _ _ => rfl) fun record (room : registry.Room crates record) shares => by
        rw [decide_eq_true_eq] at shares
        exact shares ▸ room.perController
    rw [capped.limits] at step
    exact step.trans (max_le (le_max_left _ _) (capped.perController controllerVtaDid))

end Registry

/-! ## The refinement -/

namespace Store

/-- What the reference keeps of a store. -/
def registry (store : Store) : Registry := ⟨store.state.handles, store.limits⟩

/-- The per-token cap is read as the count: it is not zero, or the token has a live handle, or
another cap refuses the insert before it. -/
def ReadsCap (store : Store) : StoreCall → Prop
  | .insertAt _ registration controllerVtaDid _ =>
      0 < store.limits.maxPerToken ∨
        0 < store.registry.perToken crates (tokenDigest crates registration) ∨
        store.limits.maxHandles ≤ store.state.handles.size ∨
        store.limits.maxPerController ≤
          store.registry.perController (crates.stripScidSrc controllerVtaDid)
  | .provision .. | .remove .. | .sweepUnprovisioned .. => True

theorem provision_refines (store : Store) (handle callerDid : String)
    (policy : WakeTriggerPolicy) :
    (store.provision crates handle callerDid policy).1 =
        (store.registry.provision crates handle callerDid policy).1 ∧
      (store.provision crates handle callerDid policy).2.registry =
        (store.registry.provision crates handle callerDid policy).2 := by
  simp only [provision, Registry.provision, registry]
  cases store.state.handles.lookup handle with
  | none => exact ⟨rfl, rfl⟩
  | some record =>
      dsimp only
      split <;> exact ⟨rfl, rfl⟩

variable {crates}

/-- The index refuses exactly the tokens which are held, and held up to the cap. -/
theorem bucket_full_iff {store : Store} (indexed : store.state.Indexed crates) (digest : String) :
    (store.state.byToken.lookup digest).any
        (fun list => decide (store.limits.maxPerToken ≤ list.length)) = true ↔
      store.limits.maxPerToken ≤ store.registry.perToken crates digest ∧
        0 < store.registry.perToken crates digest := by
  have length : (store.state.byToken.bucket digest).length =
      store.registry.perToken crates digest := indexed.bucket_length digest
  rw [← length]
  cases found : store.state.byToken.lookup digest with
  | none => simp [GroupIndex.bucket, found]
  | some keys =>
      obtain ⟨bucket, inhabited⟩ := GroupIndex.Exact.lookup_eq_bucket indexed found
      simp [bucket, List.length_pos_iff.mpr inhabited]

theorem insertAt_refines {store : Store} (indexed : store.state.Indexed crates) (handle : String)
    (registration : PushRegistration) (controllerVtaDid : String) (createdAt : Nat) :
    let stored := store.insertAt crates handle registration controllerVtaDid createdAt
    let recounted := store.registry.insertAt crates handle registration controllerVtaDid createdAt
    (stored.1 = recounted.1 ↔
        store.ReadsCap crates (.insertAt handle registration controllerVtaDid createdAt)) ∧
      (stored.1 = recounted.1 → stored.2.registry = recounted.2) := by
  have full := bucket_full_iff indexed (tokenDigest crates registration)
  simp only [insertAt, Registry.insertAt, ReadsCap, registry, Registry.perController] at full ⊢
  by_cases total : store.limits.maxHandles ≤ store.state.handles.size
  · simp [total]
  · by_cases perController : store.limits.maxPerController ≤ store.state.handles.count
        fun _ record => decide (record.controllerVtaDid = crates.stripScidSrc controllerVtaDid)
    · simp [total, perController]
    · -- Below the other caps the two differ only where the token has no bucket.
      simp only [total, perController, if_false, or_false, full]
      by_cases reached : store.limits.maxPerToken ≤ Registry.perToken crates
          ⟨store.state.handles, store.limits⟩ (tokenDigest crates registration)
      · by_cases held : 0 < Registry.perToken crates
            ⟨store.state.handles, store.limits⟩ (tokenDigest crates registration)
        · simp [reached, held]
        · have zero : ¬0 < store.limits.maxPerToken := by omega
          simp [reached, held, zero]
      · have positive : 0 < store.limits.maxPerToken ∨ 0 < Registry.perToken crates
            ⟨store.state.handles, store.limits⟩ (tokenDigest crates registration) := by omega
        simp [reached, positive, State.add]

/-- A store with an exact index answers as the reference exactly when the cap is read as the
count, and then it holds what the reference holds. -/
theorem perform_refines {store : Store} (indexed : store.state.Indexed crates)
    (call : StoreCall) :
    ((store.perform crates call).1 = (store.registry.perform crates call).1 ↔
        store.ReadsCap crates call) ∧
      ((store.perform crates call).1 = (store.registry.perform crates call).1 →
        (store.perform crates call).2.registry = (store.registry.perform crates call).2) := by
  cases call with
  | insertAt handle registration controllerVtaDid createdAt =>
      obtain ⟨answers, holds⟩ :=
        insertAt_refines indexed handle registration controllerVtaDid createdAt
      constructor
      · rw [← answers]
        exact ⟨StoreAnswer.inserted.inj, congrArg StoreAnswer.inserted⟩
      · exact fun same => holds (StoreAnswer.inserted.inj same)
  | provision handle callerDid policy =>
      obtain ⟨outcome, holds⟩ := provision_refines crates store handle callerDid policy
      exact ⟨iff_of_true (congrArg StoreAnswer.provisioned outcome) trivial, fun _ => holds⟩
  | remove handle =>
      refine ⟨iff_of_true rfl trivial, fun _ => ?_⟩
      simp only [perform, remove, registry, Registry.perform, Registry.remove,
        State.dropHandle_handles]
  | sweepUnprovisioned ttlSecs now =>
      have handles := sweepUnprovisioned_handles crates store ttlSecs now
      refine ⟨iff_of_true ?_ trivial, fun _ => ?_⟩
      · simp only [perform, sweepUnprovisioned, registry, Registry.perform,
          Registry.sweepUnprovisioned, stale, AList.keys, List.keys, List.length_map,
          AssocMap.count, List.countP_eq_length_filter]
        rfl
      · simp only [perform, registry, Registry.perform, Registry.sweepUnprovisioned, handles]
        rfl

variable (crates) in
/-- After a run the answers given and the handles held are those of the reference, the index is
exact, the caps hold, and an insert which is refused changes nothing. -/
structure AgreesWithCounting (start : Store) (calls : List StoreCall) : Prop where
  answers : outputs (perform crates) start calls =
    outputs (Registry.perform crates) start.registry calls
  registry : (run (next (perform crates)) start calls).registry =
    run (next (Registry.perform crates)) start.registry calls
  indexed : (run (next (perform crates)) start calls).state.Indexed crates
  capped : Registry.Capped crates start.registry
    (run (next (perform crates)) start calls).registry
  refused : ∀ handle registration controllerVtaDid createdAt error,
    ((run (next (perform crates)) start calls).insertAt crates handle registration
      controllerVtaDid createdAt).1 = .error error →
    ((run (next (perform crates)) start calls).insertAt crates handle registration
      controllerVtaDid createdAt).2 = run (next (perform crates)) start calls

/-- A store which answers as the reference along a run has read the cap as the count at every
insert. -/
theorem readsCap_of_answers {store : Store} (indexed : store.state.Indexed crates)
    {calls : List StoreCall}
    (fresh : Along (next (perform crates)) (fun store call => call.Fresh store.state.handles) store
      calls)
    (answers : outputs (perform crates) store calls =
      outputs (Registry.perform crates) store.registry calls) :
    Along (next (perform crates)) (ReadsCap crates) store calls := by
  induction calls generalizing store with
  | nil => trivial
  | cons call calls induction =>
      obtain ⟨same, later⟩ := List.cons.inj answers
      obtain ⟨reads, holds⟩ := perform_refines indexed call
      refine ⟨reads.mp same, induction (indexed_perform indexed fresh.1) fresh.2 ?_⟩
      rw [later, next, next, holds same]

/-- From a freshly opened store, every prefix of a run of calls agrees with plain counting exactly
when the run reads the per-token cap as the count at every insert. -/
theorem agrees_with_counting_iff {start : Store} (opened : Opened crates start)
    (calls : List StoreCall)
    (fresh : Along (next (perform crates)) (fun store call => call.Fresh store.state.handles) start
      calls) :
    (∀ front, front <+: calls → AgreesWithCounting crates start front) ↔
      Along (next (perform crates)) (ReadsCap crates) start calls := by
  constructor
  · intro agrees
    exact readsCap_of_answers opened.indexed fresh (agrees calls List.prefix_rfl).answers
  · rintro reads front ⟨back, rfl⟩
    have met := along_and.mpr ⟨((along_append start front back).mp fresh).1,
      ((along_append start front back).mp reads).1⟩
    have simulates : ∀ (store : Store) (counted : Registry) (call : StoreCall),
        store.state.Indexed crates ∧ store.registry = counted ∧
          Registry.Capped crates start.registry counted →
        call.Fresh store.state.handles ∧ store.ReadsCap crates call →
        (store.perform crates call).1 = (counted.perform crates call).1 ∧
          (next (perform crates) store call).state.Indexed crates ∧
          (next (perform crates) store call).registry =
            next (Registry.perform crates) counted call ∧
          Registry.Capped crates start.registry (next (Registry.perform crates) counted call) := by
      rintro store _ call ⟨indexed, rfl, capped⟩ ⟨fresh, reads⟩
      obtain ⟨answers, holds⟩ := perform_refines indexed call
      exact ⟨answers.mpr reads, indexed_perform indexed fresh, holds (answers.mpr reads),
        capped.perform fresh⟩
    obtain ⟨answers, indexed, registry, capped⟩ := simulation simulates
      ⟨opened.indexed, rfl, Registry.capped_refl start.registry⟩ met
    exact ⟨answers, registry, indexed, registry ▸ capped, fun _ _ _ _ _ => insertAt_refused⟩

end Store

/-! ## The cap at zero -/

private def sharedToken (handle : String) : StoreCall :=
  .insertAt handle (.fcm "token") "did:web:vta.example" 0

/-- Two handles for one token, a provision, a removal and a sweep. -/
private def busyDay : List StoreCall :=
  [sharedToken "first", sharedToken "second",
    .provision "first" "did:web:vta.example" ⟨["did:web:trigger.example"]⟩, .remove "first",
    sharedToken "third", .sweepUnprovisioned 60 100]

theorem Store.agrees_with_counting_busy_day :
    (∀ front, front <+: busyDay →
        AgreesWithCounting plainCrates (withLimits ⟨4, 1, 60, 4⟩) front) ↔
      Along (next (perform plainCrates)) (ReadsCap plainCrates) (withLimits ⟨4, 1, 60, 4⟩)
        busyDay :=
  agrees_with_counting_iff (.withLimits ⟨4, 1, 60, 4⟩) busyDay
    ⟨rfl, rfl, trivial, trivial, rfl, trivial, trivial⟩

/-- Under a per-token cap of zero the first handle of a token is stored. -/
theorem Store.stores_over_zero_cap :
    ¬∀ (start : Store) (calls : List StoreCall), Opened plainCrates start →
      Along (next (perform plainCrates)) (fun store call => call.Fresh store.state.handles) start
        calls →
      ∀ front, front <+: calls → AgreesWithCounting plainCrates start front := by
  intro agrees
  have counted := agrees (withLimits ⟨4, 0, 60, 4⟩) [sharedToken "first"] (.withLimits _)
    ⟨rfl, trivial⟩ [sharedToken "first"] List.prefix_rfl
  exact absurd counted.answers (by decide)

end PushGateway
