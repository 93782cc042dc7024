import PushGateway.Controllers
import PushGateway.Pipeline.Outcome
import PushGateway.Store.History

/-!
# What a dispatch does to the store

A dispatched document comes to at most one call on the store, and the call has passed the checks
of its handler.  Every record is therefore one which the sender, the loader and the bounds on the
registry can rely on.
-/

namespace PushGateway

open Execution

variable {Guard DocumentDigest : Type} (crates : Crates DocumentDigest) (outside : Surroundings)

/-! ## The calls of a dispatch -/

/-- A call on the store which has passed the checks of the handler it comes from. -/
inductive Cleared (state : AppState Guard) : StoreCall → Prop where
  | registered (request : RegisterRequest)
      (valid : request.validate crates state.egress = .ok ())
      (served : state.controllers.allows crates request.controllerVtaDid = true)
      (selected : (select state.senders request.registration).isSome = true) :
      Cleared state (.insertAt outside.newHandle request.registration request.controllerVtaDid
        outside.nowSecs)
  | provisioned (handle caller : String) (asked policy : WakeTriggerPolicy)
      (normalised : asked.validateAndNormalize = .ok policy)
      (served : state.controllers.allows crates caller = true)
      (controls : state.store.checkController crates handle caller = .ok) :
      Cleared state (.provision handle caller policy)
  | removed (handle : String) : Cleared state (.remove handle)

/-- The store after a dispatch: as it was, or after one cleared call. -/
def DispatchedStore (state : AppState Guard) (store : Store) : Prop :=
  store = state.store ∨
    ∃ call, Cleared crates outside state call ∧ store = (state.store.perform crates call).2

/-- What a gateway is configured with. -/
structure SameConfig (state state' : AppState Guard) : Prop where
  senders : state'.senders = state.senders
  egress : state'.egress = state.egress
  controllers : state'.controllers = state.controllers
  bounds : state'.bounds = state.bounds

theorem SameConfig.refl (state : AppState Guard) : SameConfig state state := ⟨rfl, rfl, rfl, rfl⟩

/-- What a handler leaves: the configuration, and a store after at most one cleared call. -/
def Left (state : AppState Guard) (state' : AppState Guard) : Prop :=
  DispatchedStore crates outside state state'.store ∧ SameConfig state state'

variable {crates outside}

theorem Left.untouched {state state' : AppState Guard} (store : state'.store = state.store)
    (config : SameConfig state state') : Left crates outside state state' :=
  ⟨.inl store, config⟩

/-- A later step of a handler, after one which changed the replay record or the counters only. -/
theorem Left.after {state middle state' : AppState Guard} (store : middle.store = state.store)
    (config : SameConfig state middle) (left : Left crates outside middle state') :
    Left crates outside state state' := by
  obtain ⟨dispatched, config'⟩ := left
  refine ⟨?_, config'.senders.trans config.senders, config'.egress.trans config.egress,
    config'.controllers.trans config.controllers, config'.bounds.trans config.bounds⟩
  obtain same | ⟨call, cleared, performed⟩ := dispatched
  · exact .inl (same.trans store)
  · refine .inr ⟨call, ?_, store ▸ performed⟩
    cases cleared with
    | registered request valid served selected =>
        exact .registered request (config.egress ▸ valid) (config.controllers ▸ served)
          (config.senders ▸ selected)
    | provisioned handle caller asked policy normalised served controls =>
        exact .provisioned handle caller asked policy normalised (config.controllers ▸ served)
          (store ▸ controls)
    | removed handle => exact .removed handle

theorem handleRegister_left (state : AppState Guard) (doc : TrustTask) :
    Left crates outside state (handleRegister crates outside state doc).2 := by
  simp only [handleRegister, parse]
  cases Value.decodeRegisterRequest doc.payload with
  | none => exact .untouched rfl (.refl state)
  | some request =>
      dsimp only
      cases valid : request.validate crates state.egress with
      | error reason => exact .untouched rfl (.refl state)
      | ok _ =>
          dsimp only
          split
          · exact .untouched rfl (.refl state)
          · rename_i served
            split
            · exact .untouched rfl (.refl state)
            · rename_i selected
              have cleared : Cleared crates outside state (.insertAt outside.newHandle
                  request.registration request.controllerVtaDid outside.nowSecs) :=
                .registered request valid (by simpa using served)
                  (by simpa [Option.isSome_iff_ne_none] using selected)
              obtain ⟨error, refused⟩ | stored := Store.insertAt_cases crates state.store
                outside.newHandle request.registration request.controllerVtaDid outside.nowSecs
              · rw [refused]
                exact .untouched rfl ⟨rfl, rfl, rfl, rfl⟩
              · rw [stored]
                exact ⟨.inr ⟨_, cleared, by simp [Store.perform, stored]⟩, rfl, rfl, rfl, rfl⟩

section Dispatch

variable [ReplayGuard Guard String DocumentDigest Answer]

theorem complete_config (once : Option (DocumentOnce DocumentDigest)) (state : AppState Guard)
    (issuer handle : String) (response : Option Answer) :
    (complete once state issuer handle response).store = state.store ∧
      SameConfig state (complete once state issuer handle response) := by
  cases once with
  | none => exact ⟨rfl, .refl state⟩
  | some once => exact ⟨rfl, rfl, rfl, rfl, rfl⟩

theorem admitOnce_config (once : Option (DocumentOnce DocumentDigest)) (state : AppState Guard)
    (issuer handle : String) (doc : TrustTask) :
    (admitOnce outside once state issuer handle doc).2.store = state.store ∧
      SameConfig state (admitOnce outside once state issuer handle doc).2 := by
  cases once with
  | none => exact ⟨rfl, .refl state⟩
  | some once =>
      simp only [admitOnce]
      split <;> exact ⟨rfl, rfl, rfl, rfl, rfl⟩

theorem applyProvision_left (once : Option (DocumentOnce DocumentDigest)) {state : AppState Guard}
    {caller handle : String} {asked policy : WakeTriggerPolicy}
    (normalised : asked.validateAndNormalize = .ok policy)
    (served : state.controllers.allows crates caller = true)
    (controls : state.store.checkController crates handle caller = .ok) (doc : TrustTask) :
    Left crates outside state
      (applyProvision crates outside once state caller handle policy doc).2 := by
  have cleared : Cleared crates outside state (.provision handle caller policy) :=
    .provisioned handle caller asked policy normalised served controls
  simp only [applyProvision]
  split
  · rename_i store provisioned
    have performed : store = (state.store.perform crates (.provision handle caller policy)).2 := by
      simp [Store.perform, provisioned]
    obtain ⟨same, config⟩ := complete_config once
      { state with store := store, metrics := state.metrics.incProvisionOk } caller handle
      (some (successValue outside doc (provisionPayload handle policy.allowedTriggers)))
    exact ⟨.inr ⟨_, cleared, same.trans performed⟩, config.senders, config.egress,
      config.controllers, config.bounds⟩
  · rename_i refused store other provisioned
    have performed : store = (state.store.perform crates (.provision handle caller policy)).2 := by
      simp [Store.perform, provisioned]
    obtain ⟨same, config⟩ := complete_config once { state with store := store } caller handle none
    cases refused <;>
      exact ⟨.inr ⟨_, cleared, same.trans performed⟩, config.senders, config.egress,
        config.controllers, config.bounds⟩

theorem handleProvision_left (once : Option (DocumentOnce DocumentDigest))
    (state : AppState Guard) (sender : Option String) (doc : TrustTask) :
    Left crates outside state (handleProvision crates outside once state sender doc).2 := by
  cases sender with
  | none => exact .untouched rfl (.refl state)
  | some caller =>
      simp only [handleProvision, parse]
      cases Value.decodeProvisionRequest doc.payload with
      | none => exact .untouched rfl (.refl state)
      | some request =>
          dsimp only
          cases normalised : request.policy.validateAndNormalize with
          | error reason => exact .untouched rfl (.refl state)
          | ok policy =>
              dsimp only
              split
              · exact .untouched rfl ⟨rfl, rfl, rfl, rfl⟩
              · rename_i served
                cases controls : state.store.checkController crates request.handle caller with
                | unknownHandle => exact .untouched rfl ⟨rfl, rfl, rfl, rfl⟩
                | notController => exact .untouched rfl ⟨rfl, rfl, rfl, rfl⟩
                | ok =>
                    dsimp only
                    split
                    · exact .untouched rfl ⟨rfl, rfl, rfl, rfl⟩
                    · obtain ⟨same, config⟩ :=
                        admitOnce_config once state caller request.handle doc
                      split
                      · rename_i answer after admitted
                        rw [admitted] at same config
                        exact .untouched same config
                      · rename_i after admitted
                        rw [admitted] at same config
                        refine .after same config (applyProvision_left once normalised ?_ ?_ doc)
                        · rw [config.controllers]
                          exact not_not.mp served
                        · rw [same]
                          exact controls

theorem pushWake_left (once : Option (DocumentOnce DocumentDigest)) (state : AppState Guard)
    (trigger : String) (request : WakeRequest) (registration : PushRegistration)
    (doc : TrustTask) :
    Left crates outside state
      (pushWake crates outside once state trigger request registration doc).2 := by
  simp only [pushWake]
  split
  · obtain ⟨same, config⟩ := complete_config once
      { state with
        sends := state.sends ++ [Sent.mk registration request.payload]
        metrics := state.metrics.incWakeDelivered }
      trigger request.handle (some (successValue outside doc (statusPayload "delivered")))
    exact .untouched same ⟨config.senders, config.egress, config.controllers, config.bounds⟩
  · obtain ⟨same, config⟩ := complete_config once
      { state with
        sends := state.sends ++ [Sent.mk registration request.payload]
        metrics := state.metrics.incWakeTransientFailure }
      trigger request.handle none
    exact .untouched same ⟨config.senders, config.egress, config.controllers, config.bounds⟩
  · obtain ⟨same, config⟩ := complete_config once
      { state with
        sends := state.sends ++ [Sent.mk registration request.payload]
        store := state.store.remove crates request.handle
        metrics := state.metrics.incWakeTokenUnregistered }
      trigger request.handle (some (successValue outside doc (statusPayload "tokenUnregistered")))
    exact ⟨.inr ⟨_, .removed request.handle, same⟩, config.senders, config.egress,
      config.controllers, config.bounds⟩

theorem handleWake_left (once : Option (DocumentOnce DocumentDigest)) (state : AppState Guard)
    (sender : Option String) (doc : TrustTask) :
    Left crates outside state (handleWake crates outside once state sender doc).2 := by
  cases sender with
  | none => exact .untouched rfl (.refl state)
  | some trigger =>
      simp only [handleWake, parse]
      cases Value.decodeWakeRequest doc.payload with
      | none => exact .untouched rfl (.refl state)
      | some request =>
          dsimp only
          cases request.validate with
          | error reason => exact .untouched rfl (.refl state)
          | ok _ =>
              dsimp only
              cases state.store.authorizeWake request.handle trigger with
              | unknownHandle => exact .untouched rfl ⟨rfl, rfl, rfl, rfl⟩
              | notAllowed => exact .untouched rfl ⟨rfl, rfl, rfl, rfl⟩
              | allowed registration =>
                  dsimp only
                  split
                  · exact .untouched rfl (.refl state)
                  · obtain ⟨same, config⟩ :=
                      admitOnce_config once state trigger request.handle doc
                    split
                    · rename_i answer after admitted
                      rw [admitted] at same config
                      exact .untouched same config
                    · rename_i after admitted
                      rw [admitted] at same config
                      exact .after same config
                        (pushWake_left once after trigger request registration doc)

/-- A dispatch comes to at most one cleared call on the store. -/
theorem dispatchPushOnce_left (once : Option (DocumentOnce DocumentDigest))
    (state : AppState Guard) (sender : Option String) (doc : TrustTask) :
    Left crates outside state (dispatchPushOnce crates outside once state sender doc).2 := by
  simp only [dispatchPushOnce]
  split
  · split
    · exact .untouched rfl (.refl state)
    · exact handleRegister_left state doc
  · split
    · split
      · exact .untouched rfl (.refl state)
      · exact handleProvision_left once state sender doc
    · split
      · split
        · exact .untouched rfl (.refl state)
        · exact handleWake_left once state sender doc
      · exact .untouched rfl (.refl state)

end Dispatch

/-! ## Well-formed records -/

variable (crates) in
/-- A record which a gateway with these settings may hold. -/
structure HandleRecord.WellFormed (egress : EgressPolicy) (senders : List PushSender)
    (raw : String) (record : HandleRecord) : Prop where
  valid : record.registration.validate crates egress = .ok ()
  sender : ∃ sender ∈ senders, sender.handles record.registration = true
  bounded : isBoundedDid record.controllerVtaDid = true
  served : ControllerPolicy.entries raw = ["*"] ∨
    ∃ entry ∈ ControllerPolicy.entries raw, record.controllerVtaDid = crates.stripScidSrc entry
  few : record.allowedTriggers.length ≤ maxAllowedTriggers
  dids : ∀ did ∈ record.allowedTriggers, isBoundedDid did = true
  distinct : record.allowedTriggers.Nodup

/-- A bounded DID is bounded without its locator. -/
def Crates.StripsBounded (crates : Crates DocumentDigest) : Prop :=
  ∀ did, isBoundedDid did = true → isBoundedDid (crates.stripScidSrc did) = true

/-- A registration which validates is valid, and names a bounded DID. -/
theorem RegisterRequest.validate_ok {request : RegisterRequest} {policy : EgressPolicy}
    (valid : request.validate crates policy = .ok ()) :
    request.registration.validate crates policy = .ok () ∧
      isBoundedDid request.controllerVtaDid = true := by
  rw [RegisterRequest.validate] at valid
  cases registration : request.registration.validate crates policy with
  | error reason =>
      rw [registration] at valid
      cases valid
  | ok _ =>
      rw [registration] at valid
      refine ⟨rfl, ?_⟩
      by_contra unbounded
      simp [bind, Except.bind, unbounded] at valid

variable (crates) in
/-- The settings of a gateway, with every record well-formed. -/
structure AppState.WellKept (egress : EgressPolicy) (senders : List PushSender) (raw : String)
    (state : AppState Guard) : Prop where
  egress_eq : state.egress = egress
  senders_eq : state.senders = senders
  parsed : ControllerPolicy.parse crates (some raw) = .ok state.controllers
  records : ∀ handle record, state.store.state.handles.lookup handle = some record →
    record.WellFormed crates egress senders raw

/-- A cleared call keeps every record well-formed. -/
theorem Cleared.wellFormed (strips : crates.StripsBounded) {egress : EgressPolicy}
    {senders : List PushSender} {raw : String} {state : AppState Guard}
    (kept : state.WellKept crates egress senders raw) {call : StoreCall}
    (cleared : Cleared crates outside state call) (handle : String) (record : HandleRecord)
    (found : (state.store.perform crates call).2.state.handles.lookup handle = some record) :
    record.WellFormed crates egress senders raw := by
  rw [Store.lookup_perform] at found
  cases cleared with
  | registered request valid served selected =>
      rw [StoreCall.rewrite] at found
      split at found
      · cases found
        obtain ⟨registration, bounded⟩ := RegisterRequest.validate_ok valid
        obtain ⟨sender, chosen⟩ := Option.isSome_iff_exists.mp selected
        rw [select] at chosen
        exact
          { valid := kept.egress_eq ▸ registration
            sender := ⟨sender, kept.senders_eq ▸ List.mem_of_find?_eq_some chosen, by
              simpa using List.find?_some chosen⟩
            bounded := strips _ bounded
            served := ControllerPolicy.allows_of_parse kept.parsed served
            few := Nat.zero_le _
            dids := fun did member => by cases member
            distinct := List.nodup_nil }
      · exact kept.records handle record found
  | provisioned other caller asked policy normalised served controls =>
      rw [StoreCall.rewrite] at found
      split at found
      · obtain ⟨previous, before, rfl⟩ := Option.map_eq_some_iff.mp found
        have earlier := kept.records handle previous before
        split
        · obtain ⟨few, dids, distinct, _⟩ :=
            WakeTriggerPolicy.validateAndNormalize_ok normalised
          exact { earlier with few := few, dids := dids, distinct := distinct }
        · exact earlier
      · exact kept.records handle record found
  | removed other =>
      rw [StoreCall.rewrite] at found
      split at found
      · cases found
      · exact kept.records handle record found

/-! ## Runs of a gateway -/

variable [ReplayGuard Guard String DocumentDigest Answer]

/-- What happens to a gateway: a document is dispatched, or the sweeper runs. -/
inductive Work (DocumentDigest : Type) where
  | dispatched (outside : Surroundings) (once : Option (DocumentOnce DocumentDigest))
      (sender : Option String) (doc : TrustTask)
  | swept (ttlSecs now : Nat)

variable (crates) in
/-- Do one piece of work. -/
def AppState.work (state : AppState Guard) : Work DocumentDigest → AppState Guard
  | .dispatched outside once sender doc =>
      (dispatchPushOnce crates outside once state sender doc).2
  | .swept ttlSecs now =>
      { state with store := (state.store.sweepUnprovisioned crates ttlSecs now).2 }

theorem AppState.WellKept.work (strips : crates.StripsBounded) {egress : EgressPolicy}
    {senders : List PushSender} {raw : String} {state : AppState Guard}
    (kept : state.WellKept crates egress senders raw) (work : Work DocumentDigest) :
    (state.work crates work).WellKept crates egress senders raw := by
  cases work with
  | dispatched outside once sender doc =>
      obtain ⟨dispatched, config⟩ : Left crates outside state
          (dispatchPushOnce crates outside once state sender doc).2 :=
        dispatchPushOnce_left once state sender doc
      refine ⟨config.egress.trans kept.egress_eq, config.senders.trans kept.senders_eq,
        config.controllers ▸ kept.parsed, fun handle record found => ?_⟩
      rw [AppState.work] at found
      obtain same | ⟨call, cleared, performed⟩ := dispatched
      · rw [same] at found
        exact kept.records handle record found
      · rw [performed] at found
        exact cleared.wellFormed strips kept handle record found
  | swept ttlSecs now =>
      refine ⟨kept.egress_eq, kept.senders_eq, kept.parsed, fun handle record found => ?_⟩
      change (state.store.perform crates
        (.sweepUnprovisioned ttlSecs now)).2.state.handles.lookup handle = some record at found
      rw [Store.lookup_perform, StoreCall.rewrite] at found
      exact kept.records handle record (Option.filter_eq_some_iff.mp found).1

/-- Every record of a gateway which started empty is well-formed. -/
theorem records_wellFormed (strips : crates.StripsBounded) {raw : String} {start : AppState Guard}
    {limits : StoreLimits} (empty : start.store = Store.withLimits limits)
    (parsed : ControllerPolicy.parse crates (some raw) = .ok start.controllers)
    (works : List (Work DocumentDigest)) (handle : String) (record : HandleRecord)
    (found : (run (AppState.work crates) start works).store.state.handles.lookup handle =
      some record) :
    record.WellFormed crates start.egress start.senders raw := by
  have kept : start.WellKept crates start.egress start.senders raw := by
    refine ⟨rfl, rfl, parsed, fun handle record found => ?_⟩
    rw [empty] at found
    cases found
  exact (invariant_of_always (fun _ work kept => kept.work strips work) kept works).records handle
    record found

theorem plainCrates_stripsBounded : plainCrates.StripsBounded := by
  intro did bounded
  change isBoundedDid (plainStrip did) = true
  rw [plainStrip]
  split
  · rename_i scid
    have whole : did.toList = "did:scid:".toList ++ did.toList.drop 9 := by
      rw [← scid, List.take_append_drop]
    have plain : ("did:scid:".toList.all fun char => char ≠ '?') = true := by decide
    have kept : (did.toList.takeWhile fun char => char ≠ '?') =
        "did:scid:".toList ++ (did.toList.drop 9).takeWhile fun char => char ≠ '?' := by
      conv_lhs => rw [whole]
      exact List.takeWhile_append_of_pos (List.all_eq_true.mp plain)
    have cut : did = String.ofList (did.toList.takeWhile fun char => char ≠ '?') ++
        String.ofList (did.toList.dropWhile fun char => char ≠ '?') := by
      rw [← String.ofList_append, List.takeWhile_append_dropWhile, String.ofList_toList]
    have size := congrArg String.utf8ByteSize cut
    rw [String.utf8ByteSize_append] at size
    have least := congrArg (fun chars => (String.ofList chars).utf8ByteSize) kept
    simp only [String.ofList_append, String.utf8ByteSize_append, String.ofList_toList] at least
    have nine : "did:scid:".utf8ByteSize = 9 := by decide
    simp only [isBoundedDid, Bool.and_eq_true, decide_eq_true_eq] at bounded ⊢
    refine ⟨⟨by omega, by omega⟩, ?_⟩
    rw [String.toList_ofList, kept]
    rfl
  · exact bounded

private def vacant : AppState (ReferenceGuard String PlainDigest Answer) :=
  { smallGateway with store := Store.withLimits StoreLimits.default }

private def smallRegister : TrustTask :=
  smallDocument "register" "push/register" (.object
    [("registration", .object [("platform", .string "fcm"), ("token", .string "token")]),
      ("controllerVtaDid", .string "did:web:vta.example")])

/-- A handle is registered, and its controller opens it to one trigger, named twice. -/
private def opening : List (Work PlainDigest) :=
  [.dispatched (smallSurroundings "" 0 .delivered) none none smallRegister,
    .dispatched (smallSurroundings "did:web:vta.example" 0 .delivered) none
      (some "did:web:vta.example")
      (smallDocument "provision" "push/provision"
        (provisionPayload "another" ["did:key:zT", "did:key:zT"]))]

theorem opened_record_wellFormed :
    (⟨.fcm "token", "did:web:vta.example", ["did:key:zT"], 0⟩ : HandleRecord).WellFormed
      plainCrates EgressPolicy.default vacant.senders ", did:web:vta.example " := by
  have empty : vacant.store = Store.withLimits StoreLimits.default := rfl
  have parsed : ControllerPolicy.parse plainCrates (some ", did:web:vta.example ") =
      .ok vacant.controllers := by decide
  exact records_wellFormed plainCrates_stripsBounded empty parsed opening "another" _ (by decide)

end PushGateway
