import PushGateway.Pipeline.Records
import PushGateway.Snapshot.Crash

/-!
# Restarts

A store which is opened on a snapshot has the handles of the store which wrote it, under an index
which lists them in another order.  No call tells the two stores apart.
-/

namespace PushGateway

open Execution WriteBehind

variable {Guard DocumentDigest Byte : Type} (crates : Crates DocumentDigest)
  {json : SerdeJson Byte}

/-! ## Two stores with the same handles -/

/-- The stores hold the same handles under the same limits, and their indexes differ in order
only. -/
structure Mirrors (store store' : Store) : Prop where
  handles : store.state.handles = store'.state.handles
  limits : store.limits = store'.limits
  byToken : GroupIndex.Alike store.state.byToken store'.state.byToken

theorem State.dropHandle_alike {state state' : State} (handles : state.handles = state'.handles)
    (byToken : GroupIndex.Alike state.byToken state'.byToken) (handle : String) :
    (state.dropHandle crates handle).1 = (state'.dropHandle crates handle).1 ∧
      (state.dropHandle crates handle).2.handles = (state'.dropHandle crates handle).2.handles ∧
      GroupIndex.Alike (state.dropHandle crates handle).2.byToken
        (state'.dropHandle crates handle).2.byToken := by
  simp only [dropHandle, handles]
  cases state'.handles.lookup handle with
  | none => exact ⟨rfl, handles, byToken⟩
  | some record => exact ⟨rfl, rfl, byToken.drop _ _⟩

theorem State.foldl_dropHandle_alike (stale : List String) {state state' : State}
    (handles : state.handles = state'.handles)
    (byToken : GroupIndex.Alike state.byToken state'.byToken) :
    let dropped := stale.foldl (fun state handle => (state.dropHandle crates handle).2) state
    let dropped' := stale.foldl (fun state handle => (state.dropHandle crates handle).2) state'
    dropped.handles = dropped'.handles ∧ GroupIndex.Alike dropped.byToken dropped'.byToken := by
  induction stale generalizing state state' with
  | nil => exact ⟨handles, byToken⟩
  | cons handle stale induction =>
      obtain ⟨-, handles', byToken'⟩ := State.dropHandle_alike crates handles byToken handle
      exact induction handles' byToken'

namespace Mirrors

variable {store store' : Store}

theorem insertAt (mirrors : Mirrors store store') (handle : String)
    (registration : PushRegistration) (controllerVtaDid : String) (createdAt : Nat) :
    (store.insertAt crates handle registration controllerVtaDid createdAt).1 =
        (store'.insertAt crates handle registration controllerVtaDid createdAt).1 ∧
      Mirrors (store.insertAt crates handle registration controllerVtaDid createdAt).2
        (store'.insertAt crates handle registration controllerVtaDid createdAt).2 := by
  have full : ((store.state.byToken.lookup (tokenDigest crates registration)).any
      fun list => decide (store'.limits.maxPerToken ≤ list.length)) =
        (store'.state.byToken.lookup (tokenDigest crates registration)).any
          fun list => decide (store'.limits.maxPerToken ≤ list.length) := by
    have here := mirrors.byToken (tokenDigest crates registration)
    generalize AList.lookup (tokenDigest crates registration) store.state.byToken = keys at here ⊢
    generalize AList.lookup (tokenDigest crates registration) store'.state.byToken = keys' at here ⊢
    cases here with
    | some perm => simp [perm.length_eq]
    | none => rfl
  simp only [Store.insertAt, mirrors.handles, mirrors.limits, full]
  split
  · exact ⟨rfl, mirrors⟩
  · split
    · exact ⟨rfl, mirrors⟩
    · split
      · exact ⟨rfl, mirrors⟩
      · refine ⟨rfl, ?_, rfl, mirrors.byToken.push _ _⟩
        simp only [State.add, mirrors.handles]

theorem provision (mirrors : Mirrors store store') (handle callerDid : String)
    (policy : WakeTriggerPolicy) :
    (store.provision crates handle callerDid policy).1 =
        (store'.provision crates handle callerDid policy).1 ∧
      Mirrors (store.provision crates handle callerDid policy).2
        (store'.provision crates handle callerDid policy).2 := by
  simp only [Store.provision, mirrors.handles]
  cases store'.state.handles.lookup handle with
  | none => exact ⟨rfl, mirrors⟩
  | some record =>
      dsimp only
      split
      · exact ⟨rfl, mirrors⟩
      · exact ⟨rfl, rfl, mirrors.limits, mirrors.byToken⟩

/-- The two stores answer a call alike and still mirror each other. -/
theorem perform (mirrors : Mirrors store store') (call : StoreCall) :
    (store.perform crates call).1 = (store'.perform crates call).1 ∧
      Mirrors (store.perform crates call).2 (store'.perform crates call).2 := by
  cases call with
  | insertAt handle registration controllerVtaDid createdAt =>
      obtain ⟨answer, after⟩ := mirrors.insertAt crates handle registration
        controllerVtaDid createdAt
      exact ⟨congrArg StoreAnswer.inserted answer, after⟩
  | provision handle callerDid policy =>
      obtain ⟨outcome, after⟩ := mirrors.provision crates handle callerDid policy
      exact ⟨congrArg StoreAnswer.provisioned outcome, after⟩
  | remove handle =>
      obtain ⟨-, handles, byToken⟩ :=
        State.dropHandle_alike crates mirrors.handles mirrors.byToken handle
      exact ⟨rfl, handles, mirrors.limits, byToken⟩
  | sweepUnprovisioned ttlSecs now =>
      obtain ⟨handles, byToken⟩ := State.foldl_dropHandle_alike crates
        (Store.stale store'.state.handles ttlSecs now) mirrors.handles mirrors.byToken
      simp only [Store.perform, Store.sweepUnprovisioned, mirrors.handles]
      exact ⟨trivial, handles, mirrors.limits, byToken⟩

end Mirrors

/-! ## Requests -/

/-- A call on the store, or a question about it. -/
inductive StoreRequest where
  | call (call : StoreCall)
  | checkController (handle callerDid : String)
  | allowlistIs (handle : String) (triggers : List String)
  | authorizeWake (handle triggerDid : String)

inductive StoreReply where
  | called (answer : StoreAnswer)
  | controller (outcome : ProvisionOutcome)
  | allowlist (same : Bool)
  | wake (authz : WakeAuthz)
  deriving DecidableEq

/-- Answer a request. -/
def Store.serve (store : Store) : StoreRequest → StoreReply × Store
  | .call call => (.called (store.perform crates call).1, (store.perform crates call).2)
  | .checkController handle callerDid =>
      (.controller (store.checkController crates handle callerDid), store)
  | .allowlistIs handle triggers => (.allowlist (store.allowlistIs handle triggers), store)
  | .authorizeWake handle triggerDid => (.wake (store.authorizeWake handle triggerDid), store)

theorem Mirrors.serve {store store' : Store} (mirrors : Mirrors store store')
    (request : StoreRequest) :
    (store.serve crates request).1 = (store'.serve crates request).1 ∧
      Mirrors (store.serve crates request).2 (store'.serve crates request).2 := by
  cases request with
  | call call =>
      obtain ⟨answer, after⟩ := mirrors.perform crates call
      exact ⟨congrArg StoreReply.called answer, after⟩
  | checkController handle callerDid =>
      exact ⟨by simp only [Store.serve, Store.checkController, mirrors.handles], mirrors⟩
  | allowlistIs handle triggers =>
      exact ⟨by simp only [Store.serve, Store.allowlistIs, mirrors.handles], mirrors⟩
  | authorizeWake handle triggerDid =>
      exact ⟨by simp only [Store.serve, Store.authorizeWake, mirrors.handles], mirrors⟩

/-- No list of requests tells the two stores apart. -/
theorem Mirrors.outputs_eq {store store' : Store} (mirrors : Mirrors store store')
    (requests : List StoreRequest) :
    outputs (Store.serve crates) store requests = outputs (Store.serve crates) store' requests :=
  (simulation (fun _ _ request mirrors (_ : True) => mirrors.serve crates request) mirrors
    (along_of_forall_mem store fun _ _ => trivial)).1

/-! ## What a run keeps -/

variable {crates}

/-- The clock of a registration is a `u64` and its handle is not in use. -/
def Work.Timely (state : AppState Guard) : Work DocumentDigest → Prop
  | .dispatched outside _ _ _ =>
      outside.nowSecs < 2 ^ 64 ∧ state.store.state.handles.lookup outside.newHandle = none
  | .swept _ _ => True

instance (state : AppState Guard) :
    DecidablePred (Work.Timely state : Work DocumentDigest → Prop)
  | .dispatched _ _ _ _ => inferInstanceAs (Decidable (_ ∧ _))
  | .swept _ _ => isTrue trivial

variable (crates) in
/-- A store which can be written out, and which holds the saved handles while it is unmarked. -/
structure Store.Persistable (egress : EgressPolicy) (limits : StoreLimits)
    (saved : AssocMap String HandleRecord) (store : Store) : Prop where
  limits_eq : store.limits = limits
  indexed : store.state.Indexed crates
  loadable : store.state.Loadable crates egress
  unmarked : store.dirty = false → store.state.handles = saved

theorem Store.Persistable.perform {egress : EgressPolicy} {limits : StoreLimits}
    {saved : AssocMap String HandleRecord} {store : Store}
    (persistable : store.Persistable crates egress limits saved) {call : StoreCall}
    (fresh : call.Fresh store.state.handles) (accepted : call.Loadable crates egress) :
    (store.perform crates call).2.Persistable crates egress limits saved := by
  have indexed := Store.indexed_perform persistable.indexed fresh
  have loadable := persistable.loadable.perform accepted
  rw [Store.perform_change] at indexed loadable ⊢
  cases changed : Store.change crates store.limits call store.state with
  | none => exact persistable
  | some state =>
      rw [changed] at indexed loadable
      exact ⟨persistable.limits_eq, indexed, loadable, fun unmarked => by cases unmarked⟩

/-- A cleared call inserts a record which a load accepts, under a handle not in use. -/
theorem Cleared.persistable (strips : crates.StripsBounded) {outside : Surroundings}
    {state : AppState Guard} (seconds : outside.nowSecs < 2 ^ 64)
    (unused : state.store.state.handles.lookup outside.newHandle = none) {call : StoreCall}
    (cleared : Cleared crates outside state call) :
    call.Fresh state.store.state.handles ∧ call.Loadable crates state.egress := by
  cases cleared with
  | registered request valid served selected =>
      obtain ⟨registration, bounded⟩ := RegisterRequest.validate_ok valid
      refine ⟨unused, ?_, seconds⟩
      rw [Store.isLoadable, registration, strips _ bounded]
      rfl
  | provisioned handle caller asked policy normalised served controls => exact ⟨trivial, trivial⟩
  | removed handle => exact ⟨trivial, trivial⟩

variable [ReplayGuard Guard String DocumentDigest Answer]

theorem AppState.persistable_work (strips : crates.StripsBounded) {egress : EgressPolicy}
    {limits : StoreLimits} {saved : AssocMap String HandleRecord} {state : AppState Guard}
    (policy : state.egress = egress)
    (persistable : state.store.Persistable crates egress limits saved)
    {work : Work DocumentDigest} (timely : work.Timely state) :
    (state.work crates work).egress = egress ∧
      (state.work crates work).store.Persistable crates egress limits saved := by
  cases work with
  | dispatched outside once sender doc =>
      obtain ⟨seconds, unused⟩ := timely
      obtain ⟨dispatched, config⟩ : Left crates outside state
          (dispatchPushOnce crates outside once state sender doc).2 :=
        dispatchPushOnce_left once state sender doc
      refine ⟨config.egress.trans policy, ?_⟩
      rw [AppState.work]
      obtain same | ⟨call, cleared, performed⟩ := dispatched
      · rw [same]
        exact persistable
      · obtain ⟨fresh, accepted⟩ := cleared.persistable strips seconds unused
        rw [performed]
        exact persistable.perform fresh (policy ▸ accepted)
  | swept ttlSecs now =>
      have swept : (state.store.perform crates (.sweepUnprovisioned ttlSecs now)).2.Persistable
          crates egress limits saved := persistable.perform trivial trivial
      exact ⟨policy, swept⟩

/-! ## The restart -/

variable (crates json) in
/-- A store which is opened on a snapshot is persistable, with the handles it was opened on. -/
theorem Store.openWithLimits_persistable (egress : EgressPolicy) (limits : StoreLimits)
    (content : Option (List Byte)) :
    let opened := Store.openWithLimits crates (json.readHandles content) egress limits
    opened.Persistable crates egress limits opened.state.handles := by
  refine ⟨rfl, State.indexed_reindex _, fun handle record found => ?_, fun _ => rfl⟩
  change ((json.readHandles content).retain _).lookup handle = some record at found
  rw [AssocMap.lookup_retain] at found
  obtain ⟨read, kept⟩ := Option.filter_eq_some_iff.mp found
  refine ⟨kept, ?_⟩
  rw [SerdeJson.readHandles] at read
  cases decoded : (content.bind json.fromSlice).bind Value.decodeHandles with
  | none =>
      rw [decoded] at read
      cases read
  | some handles =>
      rw [decoded] at read
      obtain ⟨value, _, parsed⟩ := Option.bind_eq_some_iff.mp decoded
      exact Value.decodeHandles_encodable parsed handle record read

/-- A gateway which is opened on any snapshot file and works for a while may be flushed and
opened again: the new store has every record of the old one, and no call and no question tells
the two apart. -/
theorem restart_invisible (lossless : json.Lossless) (strips : crates.StripsBounded)
    {limits : StoreLimits} {file : Option (Snapshot Byte)} {start : AppState Guard}
    (opened : start.store = Store.openWithLimits crates
      (json.readHandles (file.map Snapshot.bytes)) start.egress limits)
    {works : List (Work DocumentDigest)}
    (along : Along (AppState.work crates) (fun state work => work.Timely state) start works) :
    let design := Store.writeBehind crates json limits
    let store := (run (AppState.work crates) start works).store
    let flushed := run design.step ⟨⟨store.state, store.dirty, file, []⟩, []⟩ (flushThrough 0)
    let reopened := Store.openWithLimits crates (json.readHandles flushed.shared.content)
      start.egress limits
    reopened.state.handles = store.state.handles ∧
      ∀ requests, outputs (Store.serve crates) reopened requests =
        outputs (Store.serve crates) store requests := by
  intro design store flushed reopened
  have initially : start.egress = start.egress ∧
      start.store.Persistable crates start.egress limits start.store.state.handles := by
    refine ⟨rfl, ?_⟩
    rw [opened]
    exact Store.openWithLimits_persistable crates json _ limits _
  have preserved : ∀ (state : AppState Guard) (work : Work DocumentDigest),
      state.egress = start.egress ∧
          state.store.Persistable crates start.egress limits start.store.state.handles →
        work.Timely state → (state.work crates work).egress = start.egress ∧
          (state.work crates work).store.Persistable crates start.egress limits
            start.store.state.handles :=
    fun _ work both timely => AppState.persistable_work strips both.1 both.2 timely
  obtain ⟨-, persistable⟩ := invariant preserved initially along
  have handles : reopened.state.handles = store.state.handles := by
    have through : flushed.shared = _ := congrArg WriteBehind.Pool.shared
      (run_flushThrough design ⟨⟨store.state, store.dirty, file, []⟩, []⟩)
    cases dirty : store.dirty with
    | true =>
        refine reopen_handles limits persistable.loadable ?_
        rw [through, dirty]
        exact readHandles_encode lossless persistable.loadable.encodable
    | false =>
        have unchanged : store.state.handles = start.store.state.handles :=
          persistable.unmarked dirty
        have content : flushed.shared.content = file.map Snapshot.bytes := by
          rw [through, dirty]
          rfl
        rw [unchanged, opened, ← content]
  refine ⟨handles, Mirrors.outputs_eq crates ⟨handles, persistable.limits_eq.symm, ?_⟩⟩
  have indexed : reopened.state.Indexed crates := State.indexed_reindex _
  rw [State.Indexed, handles] at indexed
  exact indexed.alike persistable.indexed

/-- A gateway on a missing snapshot file. -/
private def fresh : AppState (ReferenceGuard String PlainDigest Answer) :=
  { smallGateway with
    store := Store.openWithLimits plainCrates ∅ smallGateway.egress StoreLimits.default }

private def doorbellRegister : TrustTask :=
  smallDocument "register" "push/register" (.object
    [("registration", .object [("platform", .string "fcm"), ("token", .string "token")]),
      ("controllerVtaDid", .string "did:web:vta.example")])

/-- A handle is registered and opened to a trigger, and the sweeper passes. -/
private def morning : List (Work PlainDigest) :=
  [.dispatched (smallSurroundings "" 0 .delivered) none none doorbellRegister,
    .dispatched { smallSurroundings "did:web:vta.example" 0 .delivered with newHandle := "unused" }
      none (some "did:web:vta.example")
      (smallDocument "provision" "push/provision" (provisionPayload "another" ["did:key:zT"])),
    .swept 60 60]

theorem restarted_gateway_wakes :
    let store := (run (AppState.work plainCrates) fresh morning).store
    let flushed := run (Store.writeBehind plainCrates plainJson StoreLimits.default).step
      ⟨⟨store.state, store.dirty, none, []⟩, []⟩ (flushThrough 0)
    outputs (Store.serve plainCrates)
        (Store.openWithLimits plainCrates (plainJson.readHandles flushed.shared.content)
          fresh.egress StoreLimits.default) [.authorizeWake "another" "did:key:zT"] =
      [.wake (.allowed (.fcm "token"))] := by
  intro store flushed
  have opened : fresh.store = Store.openWithLimits plainCrates
      (plainJson.readHandles ((none : Option (Snapshot Value)).map Snapshot.bytes)) fresh.egress
      StoreLimits.default := rfl
  have timely : Along (AppState.work plainCrates) (fun state work => work.Timely state) fresh
      morning := by decide
  have invisible := restart_invisible plainJson_lossless plainCrates_stripsBounded opened timely
  exact (invisible.2 [.authorizeWake "another" "did:key:zT"]).trans (by decide)

end PushGateway
