import PushGateway.Normalisation
import PushGateway.Pipeline.Counters

/-!
# Provisioning twice

A provision stores the normal form of its list and echoes it.  As long as nothing else provisions,
sweeps or removes the handle, asking again, for the list or for what was echoed, finds the stored
list and is answered without a word in the store or in the replay record.
-/

namespace PushGateway

open Execution

variable {Guard DocumentDigest : Type} [ReplayGuard Guard String DocumentDigest Answer]

/-! ## What happens to a gateway -/

/-- Receive a document. -/
def AppState.receive (crates : Crates DocumentDigest) (state : AppState Guard)
    (delivery : Delivery) : Answer × AppState Guard :=
  receiveDocument crates delivery.outside state delivery.transportSender delivery.body delivery.doc

/-- Handle one document, or sweep. -/
def AppState.meet (crates : Crates DocumentDigest) (state : AppState Guard) :
    AuditEvent → AppState Guard
  | .received delivery => (state.receive crates delivery).2
  | .swept ttlSecs now =>
      { state with store := (state.store.sweepUnprovisioned crates ttlSecs now).2 }

/-- A document asks to provision a handle. -/
def Delivery.Provisions (delivery : Delivery) (handle : String) : Prop :=
  delivery.doc.typeUri.names "push/provision" ∧
    (Value.decodeProvisionRequest delivery.doc.payload).any fun request =>
      decide (request.handle = handle)

instance (delivery : Delivery) (handle : String) : Decidable (delivery.Provisions handle) :=
  inferInstanceAs (Decidable (_ ∧ _ = true))

/-- An event neither provisions the handle nor draws it anew, and the handle outlives it. -/
def AppState.Spares (crates : Crates DocumentDigest) (handle : String) (state : AppState Guard)
    (event : AuditEvent) : Prop :=
  (match event with
    | .received delivery =>
        ¬delivery.Provisions handle ∧
          (delivery.doc.typeUri.names "push/register" → delivery.outside.newHandle ≠ handle)
    | .swept _ _ => True) ∧
  ((state.meet crates event).store.state.handles.lookup handle).isSome = true

instance (crates : Crates DocumentDigest) (handle : String) (state : AppState Guard) :
    DecidablePred (state.Spares crates handle)
  | .received _ => inferInstanceAs (Decidable ((_ ∧ (_ → _ ≠ _)) ∧ _ = true))
  | .swept _ _ => inferInstanceAs (Decidable (True ∧ _ = true))

/-- A document of the caller, within its rate budget, asks to provision the handle with this
list. -/
structure Submits (crates : Crates DocumentDigest) (state : AppState Guard) (delivery : Delivery)
    (caller handle : String) (triggers : List String) (once : DocumentOnce DocumentDigest) :
    Prop where
  accepted : Accepted crates delivery.outside state delivery.transportSender delivery.body
    delivery.doc caller once
  unhurried : delivery.outside.allowDid caller = true
  named : delivery.doc.typeUri.names "push/provision"
  payload : ∃ request, Value.decodeProvisionRequest delivery.doc.payload = some request ∧
    request.handle = handle ∧ request.policy = ⟨triggers⟩

/-- A provision by the handle's controller which is executed and answered with success. -/
structure Executes (crates : Crates DocumentDigest) (state : AppState Guard) (delivery : Delivery)
    (caller handle : String) (triggers : List String) (once : DocumentOnce DocumentDigest) :
    Prop extends Submits crates state delivery caller handle triggers once where
  admitted : (once.claim state caller handle).1 = .ok .fresh
  succeeded : (state.receive crates delivery).1.isError = false

/-- The handle is the caller's, who is served, and has this list. -/
structure Settled (crates : Crates DocumentDigest) (state : AppState Guard)
    (caller handle : String) (triggers : List String) : Prop where
  served : state.controllers.allows crates caller = true
  stored : ∃ record, state.store.state.handles.lookup handle = some record ∧
    crates.sameReference record.controllerVtaDid caller = true ∧
    record.allowedTriggers = triggers

variable {crates : Crates DocumentDigest} {state : AppState Guard} {delivery : Delivery}
  {caller handle : String} {triggers : List String} {once : DocumentOnce DocumentDigest}
  {policy : WakeTriggerPolicy}

/-! ## Between the two provisions -/

/-- What a delivery comes to leaves the record of a handle which it spares. -/
theorem Handled.keeps_record
    {called : Option (String × DocumentOnce DocumentDigest)} {answer : Answer}
    {after : AppState Guard}
    (handled : Handled crates delivery.outside called state delivery.doc answer after)
    (elsewhere : ¬delivery.Provisions handle)
    (drawn : delivery.doc.typeUri.names "push/register" → delivery.outside.newHandle ≠ handle)
    (live : (after.store.state.handles.lookup handle).isSome = true) :
    after.controllers = state.controllers ∧
      after.store.state.handles.lookup handle = state.store.state.handles.lookup handle := by
  cases handled with
  | registered request payload metrics named stored =>
      have rewritten := Store.lookup_perform crates state.store
        (.insertAt delivery.outside.newHandle request.registration request.controllerVtaDid
          delivery.outside.nowSecs) handle
      rw [StoreCall.rewrite, if_neg fun both => drawn named both.2.symm] at rewritten
      exact ⟨rfl, rewritten⟩
  | provisioned issuer once request policy payload metrics called asked fresh =>
      have other : handle ≠ request.handle := by
        rintro rfl
        exact elsewhere ⟨asked.named, by simp [asked.decoded]⟩
      have rewritten := Store.lookup_perform crates state.store
        (.provision request.handle issuer policy) handle
      rw [StoreCall.rewrite, if_neg other] at rewritten
      exact ⟨rfl, rewritten⟩
  | unregistered issuer once request registration payload metrics called asked fresh =>
      have rewritten := Store.lookup_perform crates state.store (.remove request.handle) handle
      rw [StoreCall.rewrite] at rewritten
      refine ⟨rfl, rewritten.trans (if_neg ?_)⟩
      rintro rfl
      rw [if_pos rfl] at rewritten
      have gone : (state.store.remove crates request.handle).state.handles.lookup request.handle =
        none := rewritten
      simp only [gone, Option.isSome_none, Bool.false_eq_true] at live
  | refused => exact ⟨rfl, rfl⟩
  | repeated => exact ⟨rfl, rfl⟩
  | held => exact ⟨rfl, rfl⟩
  | delivered => exact ⟨rfl, rfl⟩
  | failed => exact ⟨rfl, rfl⟩

theorem AppState.Spares.keeps_record {event : AuditEvent}
    (spares : state.Spares crates handle event) :
    (state.meet crates event).controllers = state.controllers ∧
      (state.meet crates event).store.state.handles.lookup handle =
        state.store.state.handles.lookup handle := by
  cases event with
  | received delivery =>
      obtain ⟨⟨elsewhere, drawn⟩, live⟩ := spares
      obtain ⟨called, -, handled⟩ := receiveDocument_handled crates delivery.outside state
        delivery.transportSender delivery.body delivery.doc
      exact handled.keeps_record elsewhere drawn live
  | swept ttlSecs now =>
      have rewritten := Store.lookup_perform crates state.store (.sweepUnprovisioned ttlSecs now)
        handle
      obtain ⟨record, survives⟩ := Option.isSome_iff_exists.mp spares.2
      have kept := Option.filter_eq_some_iff.mp (rewritten.symm.trans survives)
      exact ⟨rfl, survives.trans kept.1.symm⟩

theorem Settled.meet {event : AuditEvent} (settled : Settled crates state caller handle triggers)
    (spares : state.Spares crates handle event) :
    Settled crates (state.meet crates event) caller handle triggers := by
  obtain ⟨config, record⟩ := spares.keeps_record
  obtain ⟨served, stored⟩ := settled
  exact ⟨config ▸ served, record ▸ stored⟩

theorem Settled.run {events : List AuditEvent}
    (settled : Settled crates state caller handle triggers)
    (spared : Along (AppState.meet crates) (AppState.Spares crates handle) state events) :
    Settled crates (run (AppState.meet crates) state events) caller handle triggers :=
  invariant (fun state _ (settled : Settled crates state caller handle triggers) spares =>
    settled.meet spares) settled spared

/-! ## The two provisions -/

theorem dispatchPushOnce_of_provision {outside : Surroundings} {doc : TrustTask}
    (named : doc.typeUri.names "push/provision") (once : Option (DocumentOnce DocumentDigest))
    (state : AppState Guard) (sender : Option String) :
    dispatchPushOnce crates outside once state sender doc =
      if sender.any fun caller => !outside.allowDid caller then (rateLimited outside doc, state)
      else handleProvision crates outside once state sender doc := by
  have register : ¬doc.typeUri.names "push/register" :=
    fun register => absurd (named.unique register) (by decide)
  rw [dispatchPushOnce, if_neg register, if_pos named]

theorem Submits.received (submits : Submits crates state delivery caller handle triggers once) :
    state.receive crates delivery =
      handleProvision crates delivery.outside (some once) state (some caller) delivery.doc := by
  rw [AppState.receive, submits.accepted.received, dispatchPushOnce_of_provision submits.named]
  simp [submits.unhurried]

/-- Writing a provision of the controller leaves the handle with its list. -/
theorem settled_applyProvision {outside : Surroundings}
    (once : Option (DocumentOnce DocumentDigest)) (state : AppState Guard)
    (served : state.controllers.allows crates caller = true)
    (controls : state.store.checkController crates handle caller = .ok)
    (policy : WakeTriggerPolicy) (doc : TrustTask) :
    Settled crates (applyProvision crates outside once state caller handle policy doc).2 caller
      handle policy.allowedTriggers := by
  obtain ⟨outcome, failed, refused⟩ | ⟨record, found, owner, applied⟩ :=
    Store.provision_cases crates state.store handle caller policy
  · have accepted := provision_of_controls controls policy
    rw [refused] at accepted
    exact absurd accepted failed
  · simp only [applyProvision, applied]
    refine ⟨?_, { record with allowedTriggers := policy.allowedTriggers }, ?_, owner, rfl⟩
    · rw [(complete_config once _ _ _ _).2.controllers]
      exact served
    · rw [(complete_config once _ _ _ _).1]
      simp [AssocMap.lookup_modify, found]

/-- A successful executed provision leaves the handle with the normal form of its list. -/
theorem Executes.settled (executes : Executes crates state delivery caller handle triggers once)
    (normalised : (⟨triggers⟩ : WakeTriggerPolicy).validateAndNormalize = .ok policy) :
    Settled crates (state.receive crates delivery).2 caller handle policy.allowedTriggers := by
  obtain ⟨request, decoded, rfl, asked⟩ := executes.payload
  have succeeded := executes.succeeded
  rw [executes.received] at succeeded ⊢
  simp only [handleProvision, parse, decoded, asked, normalised] at succeeded ⊢
  by_cases served : state.controllers.allows crates caller = true
  · simp only [served, not_true_eq_false, if_false] at succeeded ⊢
    cases controls : state.store.checkController crates request.handle caller with
    | unknownHandle =>
        simp only [controls, provisionRefused] at succeeded
        cases succeeded
    | notController =>
        simp only [controls, provisionRefused] at succeeded
        cases succeeded
    | ok =>
        obtain ⟨record, found, owner⟩ := (state.store.checkController_iff crates _ _).mp controls
        simp only [controls] at succeeded ⊢
        split
        · rename_i same
          obtain ⟨stored, found', listed⟩ := (state.store.allowlistIs_iff _ _).mp same
          cases found.symm.trans found'
          exact ⟨served, record, found, owner, listed⟩
        · obtain ⟨-, admitted⟩ | ⟨stale, -⟩ := admitOnce_cases delivery.outside once state caller
            request.handle delivery.doc
          · rw [admitted]
            exact settled_applyProvision (some once)
              { state with replay := (once.claim state caller request.handle).2 } served controls
              policy delivery.doc
          · exact absurd executes.admitted stale
  · simp only [served] at succeeded
    cases succeeded

/-- The caller's next provision with this normal form finds it stored. -/
theorem Settled.repeats (settled : Settled crates state caller handle policy.allowedTriggers)
    {asked : List String} (submits : Submits crates state delivery caller handle asked once)
    (normalised : (⟨asked⟩ : WakeTriggerPolicy).validateAndNormalize = .ok policy) :
    state.receive crates delivery =
      (successValue delivery.outside delivery.doc
          (provisionPayload handle policy.allowedTriggers),
        { state with metrics := state.metrics.incProvisionOk }) := by
  obtain ⟨request, decoded, rfl, requested⟩ := submits.payload
  obtain ⟨served, record, found, owner, listed⟩ := settled
  have controls := (state.store.checkController_iff crates request.handle caller).mpr
    ⟨record, found, owner⟩
  have same := (state.store.allowlistIs_iff request.handle policy.allowedTriggers).mpr
    ⟨record, found, listed⟩
  rw [submits.received]
  simp [handleProvision, parse, decoded, requested, normalised, served, controls, same]

/-- A provision whose list is refused changes nothing. -/
theorem receive_of_refused {reason : String} {request : ProvisionRequest}
    (named : delivery.doc.typeUri.names "push/provision")
    (decoded : Value.decodeProvisionRequest delivery.doc.payload = some request)
    (refused : request.policy.validateAndNormalize = .error reason) (state : AppState Guard) :
    (state.receive crates delivery).2 = state := by
  have dispatched : ∀ once sender,
      (dispatchPushOnce crates delivery.outside once state sender delivery.doc).2 = state := by
    intro once sender
    rw [dispatchPushOnce_of_provision named]
    split
    · rfl
    · cases sender with
      | none => rfl
      | some caller => simp [handleProvision, parse, decoded, refused]
  simp only [AppState.receive, receiveDocument]
  split
  · rfl
  · split
    · split
      · rfl
      · exact dispatched _ _
    · exact dispatched _ _

variable (crates)

/-- A refused list leaves its policy and the gateway as they were.  An accepted one comes to its
members in the order of their first occurrences, which is its own normal form; and once it has been
provisioned, provisioning the handle with it or with its normal form again is answered with the
normal form, and leaves the store and the replay record as they were. -/
theorem provisioning_idempotent (triggers : List String) :
    (∀ reason policy, (⟨triggers⟩ : WakeTriggerPolicy).normalizeInPlace = (.error reason, policy) →
      policy = ⟨triggers⟩ ∧
      ∀ (state : AppState Guard) (delivery : Delivery) (request : ProvisionRequest),
        delivery.doc.typeUri.names "push/provision" →
        Value.decodeProvisionRequest delivery.doc.payload = some request →
        request.policy = ⟨triggers⟩ → (state.receive crates delivery).2 = state) ∧
    (∀ policy, (⟨triggers⟩ : WakeTriggerPolicy).normalizeInPlace = (.ok (), policy) →
      FirstOccurrences triggers policy.allowedTriggers ∧
      policy.normalizeInPlace = (.ok (), policy) ∧
      ∀ (state : AppState Guard) (delivery : Delivery) (caller handle : String)
        (once : DocumentOnce DocumentDigest),
        Executes crates state delivery caller handle triggers once →
        ∀ events : List AuditEvent,
          Along (AppState.meet crates) (AppState.Spares crates handle)
            (state.receive crates delivery).2 events →
          let later := run (AppState.meet crates) (state.receive crates delivery).2 events
          ∀ (again : Delivery) (asked : List String) (once : DocumentOnce DocumentDigest),
            asked = triggers ∨ asked = policy.allowedTriggers →
            Submits crates later again caller handle asked once →
            (later.receive crates again).1 = successValue again.outside again.doc
                (provisionPayload handle policy.allowedTriggers) ∧
              (later.receive crates again).2.store = later.store ∧
              (later.receive crates again).2.replay = later.replay) := by
  have inPlace := WakeTriggerPolicy.normalizeInPlace_eq ⟨triggers⟩
  cases verdict : (⟨triggers⟩ : WakeTriggerPolicy).validateAndNormalize with
  | error reason =>
      rw [verdict] at inPlace
      rw [inPlace]
      refine ⟨?_, fun policy accepted => by cases accepted⟩
      rintro _ _ ⟨⟩
      refine ⟨rfl, fun state delivery request named decoded asked => ?_⟩
      exact receive_of_refused named decoded (asked ▸ verdict) state
  | ok policy =>
      have fixed := WakeTriggerPolicy.validateAndNormalize_idem verdict
      rw [verdict] at inPlace
      rw [inPlace]
      refine ⟨fun reason other refused => (by cases refused), ?_⟩
      rintro _ ⟨⟩
      refine ⟨WakeTriggerPolicy.firstOccurrences verdict, ?_, ?_⟩
      · rw [WakeTriggerPolicy.normalizeInPlace_eq, fixed]
      intro state delivery caller handle once executes events spared later again asked once' same
        submits
      have settled : Settled crates later caller handle policy.allowedTriggers :=
        (executes.settled verdict).run spared
      have normalised : (⟨asked⟩ : WakeTriggerPolicy).validateAndNormalize = .ok policy := by
        obtain rfl | rfl := same
        · exact verdict
        · exact fixed
      rw [settled.repeats submits normalised]
      exact ⟨rfl, rfl, rfl⟩

/-! ## A list with a repetition -/

/-- The controller provisions the handle of the small gateway with this list. -/
private def provisioning (id : String) (triggers : List String) : Delivery :=
  ⟨smallSurroundings "did:web:vta.example" 0 .delivered, none, smallBody,
    smallProvision id triggers⟩

/-- The admission step of such a document. -/
private def provisioningOnce (id : String) : DocumentOnce PlainDigest :=
  ⟨id, ⟨id, ⟨"push/provision", 0, 2, "push/provision"⟩, some 0, none⟩, some (TimeDelta.seconds 361),
    0⟩

private theorem provisioning_accepted {id : String} {triggers : List String}
    {state : AppState (ReferenceGuard String PlainDigest Answer)}
    (identity : state.gatewayDid = some "did:web:gateway.example")
    (window : checkWindow plainCrates (smallProvision id triggers) "did:web:gateway.example" 0 =
      .ok ((provisioningOnce id).digest, (provisioningOnce id).retainUntil)) :
    Accepted plainCrates (provisioning id triggers).outside state none smallBody
      (smallProvision id triggers) "did:web:vta.example" (provisioningOnce id) where
  authenticated :=
    ⟨rfl, ⟨_, identity, "did:web:gateway.example", rfl, by decide⟩, by simp⟩
  identified := rfl
  current := rfl
  open_ := ⟨_, identity, window⟩

/-- A trigger wakes the handle and unprovisioned handles are swept. -/
private def wokenAndSwept : List AuditEvent :=
  [.received ⟨smallSurroundings "did:web:other.example" 0 .delivered, none, smallBody,
      smallWake "wake"⟩,
    .swept 0 0]

private def repetitive : List String :=
  ["did:web:other.example", "did:web:trigger.example", "did:web:other.example"]

private def echoed : List String := ["did:web:other.example", "did:web:trigger.example"]

private def provisioned : AppState (ReferenceGuard String PlainDigest Answer) :=
  (smallGateway.receive plainCrates (provisioning "listed" repetitive)).2

private def later : AppState (ReferenceGuard String PlainDigest Answer) :=
  run (AppState.meet plainCrates) provisioned wokenAndSwept

/-- What was echoed is provisioned again. -/
theorem provisioning_idempotent_of_repetition :
    (later.receive plainCrates (provisioning "echoed" echoed)).1 =
        successValue (provisioning "echoed" echoed).outside (provisioning "echoed" echoed).doc
          (provisionPayload "handle" echoed) ∧
      (later.receive plainCrates (provisioning "echoed" echoed)).2.store = later.store ∧
      (later.receive plainCrates (provisioning "echoed" echoed)).2.replay = later.replay := by
  refine ((provisioning_idempotent plainCrates repetitive).2 ⟨echoed⟩ (by decide)).2.2 smallGateway
    (provisioning "listed" repetitive) "did:web:vta.example" "handle" (provisioningOnce "listed") ?_
    wokenAndSwept (by decide) (provisioning "echoed" echoed) echoed (provisioningOnce "echoed")
    (Or.inr rfl) ?_
  · exact {
      accepted := provisioning_accepted rfl rfl
      unhurried := rfl
      named := by decide
      payload := ⟨⟨"handle", ⟨repetitive⟩⟩, by decide, rfl, rfl⟩
      admitted := by rfl
      succeeded := by decide }
  · exact {
      accepted := provisioning_accepted (by decide) rfl
      unhurried := rfl
      named := by decide
      payload := ⟨⟨"handle", ⟨echoed⟩⟩, by decide, rfl, rfl⟩ }

end PushGateway
