import PushGateway.Pipeline.Records
import PushGateway.Pipeline.Redelivery

/-!
# What the counters account for

Documents handled one after another, with sweeps between them.  Each document moves the figures an
operator reads in one of a few ways, whichever exit its handler takes, and each of these ways keeps
both balances: of the handles issued and given up, and of the pushes made and their outcomes.
-/

namespace PushGateway

open Execution

variable {Guard DocumentDigest : Type} {crates : Crates DocumentDigest} {outside : Surroundings}

/-! ## The figures -/

/-- The live handles, the pushes made, and the counters which account for them. -/
structure Figures where
  live : Nat
  registers : Nat
  delivered : Nat
  transientFailure : Nat
  tokenUnregistered : Nat
  sent : Nat
  deriving DecidableEq, Repr

def AppState.figures (state : AppState Guard) : Figures where
  live := state.store.state.handles.size
  registers := state.metrics.registers
  delivered := state.metrics.wakeDelivered
  transientFailure := state.metrics.wakeTransientFailure
  tokenUnregistered := state.metrics.wakeTokenUnregistered
  sent := state.sends.length

namespace Figures

/-- What one document may do to the figures; `registers` says that it is a registration answered
with success. -/
inductive Moved (registers : Prop) (before : Figures) : Figures → Prop where
  | unmoved : Moved registers before before
  | registered (success : registers) :
      Moved registers before
        { before with live := before.live + 1, registers := before.registers + 1 }
  | delivered :
      Moved registers before
        { before with delivered := before.delivered + 1, sent := before.sent + 1 }
  | transientFailure :
      Moved registers before
        { before with transientFailure := before.transientFailure + 1, sent := before.sent + 1 }
  | tokenUnregistered (left : Nat) (one : before.live = left + 1) :
      Moved registers before
        { before with
          live := left
          tokenUnregistered := before.tokenUnregistered + 1
          sent := before.sent + 1 }

/-- A document which makes no push and registers nothing moves no figure. -/
theorem Moved.eq_of_sent_eq {registers : Prop} {before after : Figures}
    (moved : before.Moved registers after) (unsent : after.sent = before.sent)
    (otherwise : ¬registers) : after = before := by
  cases moved with
  | unmoved => rfl
  | registered success => exact absurd success otherwise
  | delivered => exact absurd unsent (Nat.succ_ne_self _)
  | transientFailure => exact absurd unsent (Nat.succ_ne_self _)
  | tokenUnregistered => exact absurd unsent (Nat.succ_ne_self _)

/-- Handles issued and pushes made are accounted for, where the sweeps have reported `swept`. -/
structure Balanced (swept : Nat) (figures : Figures) : Prop where
  handles : figures.live + swept + figures.tokenUnregistered = figures.registers
  pushes : figures.delivered + figures.transientFailure + figures.tokenUnregistered = figures.sent

/-- Whatever a document does, the figures stay balanced. -/
theorem Moved.balanced {registers : Prop} {swept : Nat} {before after : Figures}
    (moved : before.Moved registers after) (balanced : before.Balanced swept) :
    after.Balanced swept := by
  obtain ⟨handles, pushes⟩ := balanced
  cases moved with
  | unmoved => exact ⟨handles, pushes⟩
  | registered success => exact ⟨by dsimp only; omega, pushes⟩
  | delivered => exact ⟨handles, by dsimp only; omega⟩
  | transientFailure => exact ⟨handles, by dsimp only; omega⟩
  | tokenUnregistered left one => exact ⟨by dsimp only; omega, by dsimp only; omega⟩

end Figures

/-! ## The handlers -/

variable (crates) in
theorem figures_provision (state : AppState Guard) (handle caller : String)
    (policy : WakeTriggerPolicy) :
    (state.store.provision crates handle caller policy).2.state.handles.size =
      state.store.state.handles.size := by
  obtain ⟨outcome, -, refused⟩ | ⟨record, -, -, applied⟩ :=
    Store.provision_cases crates state.store handle caller policy
  · rw [refused]
  · rw [applied]
    exact AssocMap.size_modify _ _ _

/-- A registration answered with success issues one handle, where the handle drawn is not live. -/
theorem handleRegister_moved (state : AppState Guard) {doc : TrustTask}
    (drawn : state.store.state.handles.lookup outside.newHandle = none) :
    state.figures.Moved ((handleRegister crates outside state doc).1.isError = false)
      (handleRegister crates outside state doc).2.figures := by
  simp only [handleRegister, parse]
  cases Value.decodeRegisterRequest doc.payload with
  | none => exact .unmoved
  | some request =>
      dsimp only
      cases request.validate crates state.egress with
      | error reason => exact .unmoved
      | ok _ =>
          dsimp only
          split
          · exact .unmoved
          · split
            · exact .unmoved
            · obtain ⟨error, refused⟩ | stored := Store.insertAt_cases crates state.store
                outside.newHandle request.registration request.controllerVtaDid outside.nowSecs
              · rw [refused]
                exact .unmoved
              · rw [stored]
                have issued : AppState.figures { state with
                    store := { state.store with
                      state := state.store.state.add crates outside.newHandle
                        ⟨request.registration, crates.stripScidSrc request.controllerVtaDid, [],
                          outside.nowSecs⟩
                      dirty := true }
                    metrics := state.metrics.incRegister } =
                    { state.figures with
                      live := state.figures.live + 1
                      registers := state.figures.registers + 1 } := by
                  simp only [AppState.figures, State.add, AssocMap.size_insert _ drawn]
                  rfl
                dsimp only
                rw [issued]
                exact .registered rfl

variable [ReplayGuard Guard String DocumentDigest Answer]

theorem figures_complete (once : Option (DocumentOnce DocumentDigest)) (state : AppState Guard)
    (issuer handle : String) (response : Option Answer) :
    (complete once state issuer handle response).figures = state.figures := by
  cases once with
  | none => rfl
  | some once => rfl

variable (outside) in
theorem figures_admitOnce (once : Option (DocumentOnce DocumentDigest)) (state : AppState Guard)
    (issuer handle : String) (doc : TrustTask) :
    (admitOnce outside once state issuer handle doc).2.figures = state.figures := by
  cases once with
  | none => rfl
  | some once =>
      simp only [admitOnce]
      split <;> rfl

theorem figures_provisionRefused (state : AppState Guard) (doc : TrustTask)
    (outcome : ProvisionOutcome) :
    (provisionRefused outside state doc outcome).2.figures = state.figures := by
  cases outcome <;> rfl

theorem figures_applyProvision (once : Option (DocumentOnce DocumentDigest))
    (state : AppState Guard) (caller handle : String) (policy : WakeTriggerPolicy)
    (doc : TrustTask) :
    (applyProvision crates outside once state caller handle policy doc).2.figures =
      state.figures := by
  have size := figures_provision crates state handle caller policy
  simp only [applyProvision]
  split
  · rename_i store provisioned
    rw [provisioned] at size
    rw [figures_complete]
    simp only [AppState.figures, size]
    rfl
  · rename_i refused store other provisioned
    rw [provisioned] at size
    rw [figures_provisionRefused, figures_complete]
    simp only [AppState.figures, size]

/-- A provision moves no figure, whichever exit it takes. -/
theorem figures_handleProvision (once : Option (DocumentOnce DocumentDigest))
    (state : AppState Guard) (sender : Option String) (doc : TrustTask) :
    (handleProvision crates outside once state sender doc).2.figures = state.figures := by
  cases sender with
  | none => rfl
  | some caller =>
      simp only [handleProvision, parse]
      cases Value.decodeProvisionRequest doc.payload with
      | none => rfl
      | some request =>
          dsimp only
          cases request.policy.validateAndNormalize with
          | error reason => rfl
          | ok policy =>
              dsimp only
              split
              · rfl
              · cases state.store.checkController crates request.handle caller with
                | unknownHandle => rfl
                | notController => rfl
                | ok =>
                    dsimp only
                    split
                    · rfl
                    · have same := figures_admitOnce outside once state caller
                        request.handle doc
                      split
                      · rename_i answer after admitted
                        rw [admitted] at same
                        exact same
                      · rename_i after admitted
                        rw [admitted] at same
                        exact (figures_applyProvision once after caller request.handle policy
                          doc).trans same

/-- The push of an admitted wake on a live handle is counted under its outcome. -/
theorem pushWake_moved (registers : Prop) (once : Option (DocumentOnce DocumentDigest))
    {state : AppState Guard} {trigger : String} {request : WakeRequest}
    {registration : PushRegistration} {record : HandleRecord} (doc : TrustTask)
    (live : state.store.state.handles.lookup request.handle = some record) :
    state.figures.Moved registers
      (pushWake crates outside once state trigger request registration doc).2.figures := by
  simp only [pushWake]
  split
  · rw [figures_complete]
    have sent : AppState.figures { state with
        sends := state.sends ++ [Sent.mk registration request.payload]
        metrics := state.metrics.incWakeDelivered } =
        { state.figures with
          delivered := state.figures.delivered + 1
          sent := state.figures.sent + 1 } := by
      simp only [AppState.figures, List.length_append, List.length_singleton]
      rfl
    rw [sent]
    exact .delivered
  · rw [figures_complete]
    have sent : AppState.figures { state with
        sends := state.sends ++ [Sent.mk registration request.payload]
        metrics := state.metrics.incWakeTransientFailure } =
        { state.figures with
          transientFailure := state.figures.transientFailure + 1
          sent := state.figures.sent + 1 } := by
      simp only [AppState.figures, List.length_append, List.length_singleton]
      rfl
    rw [sent]
    exact .transientFailure
  · rw [figures_complete]
    have sent : AppState.figures { state with
        sends := state.sends ++ [Sent.mk registration request.payload]
        store := state.store.remove crates request.handle
        metrics := state.metrics.incWakeTokenUnregistered } =
        { state.figures with
          live := AssocMap.size (AList.erase request.handle state.store.state.handles)
          tokenUnregistered := state.figures.tokenUnregistered + 1
          sent := state.figures.sent + 1 } := by
      simp only [AppState.figures, Store.remove, State.dropHandle_handles, List.length_append,
        List.length_singleton]
      rfl
    rw [sent]
    exact .tokenUnregistered _ (AssocMap.size_erase live)

theorem handleWake_moved (registers : Prop) (once : Option (DocumentOnce DocumentDigest))
    (state : AppState Guard) (sender : Option String) (doc : TrustTask) :
    state.figures.Moved registers (handleWake crates outside once state sender doc).2.figures := by
  cases sender with
  | none => exact .unmoved
  | some trigger =>
      simp only [handleWake, parse]
      cases Value.decodeWakeRequest doc.payload with
      | none => exact .unmoved
      | some request =>
          dsimp only
          cases request.validate with
          | error reason => exact .unmoved
          | ok _ =>
              dsimp only
              cases authorised : state.store.authorizeWake request.handle trigger with
              | unknownHandle => exact .unmoved
              | notAllowed => exact .unmoved
              | allowed registration =>
                  dsimp only
                  split
                  · exact .unmoved
                  · have same := figures_admitOnce outside once state trigger
                      request.handle doc
                    have kept : (admitOnce outside once state trigger request.handle doc).2.store =
                        state.store := (admitOnce_config once state trigger request.handle doc).1
                    split
                    · rename_i answer after admitted
                      rw [admitted] at same
                      dsimp only at same ⊢
                      rw [same]
                      exact .unmoved
                    · rename_i after admitted
                      rw [admitted] at same kept
                      obtain ⟨record, live, -, -⟩ :=
                        (state.store.authorizeWake_iff request.handle trigger registration).mp
                          authorised
                      dsimp only at same kept
                      rw [← same]
                      exact pushWake_moved registers once doc (kept ▸ live)

/-! ## Dispatch and intake -/

/-- A document is a registration, and is answered with success. -/
def Registers (doc : TrustTask) (answer : Answer) : Prop :=
  doc.typeUri.names "push/register" ∧ answer.isError = false

theorem dispatchPushOnce_moved (once : Option (DocumentOnce DocumentDigest))
    (state : AppState Guard) (sender : Option String) (doc : TrustTask)
    (drawn : doc.typeUri.names "push/register" →
      state.store.state.handles.lookup outside.newHandle = none) :
    state.figures.Moved (Registers doc (dispatchPushOnce crates outside once state sender doc).1)
      (dispatchPushOnce crates outside once state sender doc).2.figures := by
  simp only [dispatchPushOnce]
  split
  · rename_i named
    split
    · exact .unmoved
    · simpa only [Registers, named, true_and] using handleRegister_moved state (drawn named)
  · split
    · split
      · exact .unmoved
      · rw [figures_handleProvision]
        exact .unmoved
    · split
      · split
        · exact .unmoved
        · exact handleWake_moved _ once state sender doc
      · exact .unmoved

/-- What one document does to the figures, where the handle a registration would draw is not
live. -/
theorem receiveDocument_moved (state : AppState Guard) (transportSender : Option String)
    (body : Value) (doc : TrustTask)
    (drawn : doc.typeUri.names "push/register" →
      state.store.state.handles.lookup outside.newHandle = none) :
    let received := receiveDocument crates outside state transportSender body doc
    state.figures.Moved (Registers doc received.1) received.2.figures := by
  simp only [receiveDocument]
  cases authenticate crates outside state transportSender body with
  | error reason => exact .unmoved
  | ok sender =>
      dsimp only
      split
      · rename_i issuer gatewayDid identity
        cases checkWindow crates doc gatewayDid outside.now with
        | error reason => exact .unmoved
        | ok checked => exact dispatchPushOnce_moved _ state _ doc drawn
      · exact dispatchPushOnce_moved none state none doc drawn

/-! ## Runs with sweeps -/

/-- A gateway, and the handles its sweeps have reported. -/
structure Audit (Guard : Type) where
  app : AppState Guard
  swept : Nat

inductive AuditEvent where
  | received (delivery : Delivery)
  | swept (ttlSecs now : Nat)

namespace Audit

/-- Handle one document, or sweep. -/
def step (crates : Crates DocumentDigest) (audit : Audit Guard) : AuditEvent → Audit Guard
  | .received delivery =>
      { audit with
        app := (receiveDocument crates delivery.outside audit.app delivery.transportSender
          delivery.body delivery.doc).2 }
  | .swept ttlSecs now =>
      let (count, store) := audit.app.store.sweepUnprovisioned crates ttlSecs now
      { app := { audit.app with store := store }, swept := audit.swept + count }

/-- The handle which a registration draws is not live: `new_handle` is 32 random bytes. -/
def DrawsAnew (audit : Audit Guard) : AuditEvent → Prop
  | .received delivery =>
      delivery.doc.typeUri.names "push/register" →
        audit.app.store.state.handles.lookup delivery.outside.newHandle = none
  | .swept _ _ => True

instance (audit : Audit Guard) : DecidablePred audit.DrawsAnew
  | .received _ => inferInstanceAs (Decidable (_ → _ = none))
  | .swept _ _ => isTrue trivial

/-- A document which makes no push and is not a registration answered with success leaves every
figure as it was. -/
def Uncounted (crates : Crates DocumentDigest) (audit : Audit Guard) : AuditEvent → Prop
  | .received delivery =>
      let received := receiveDocument crates delivery.outside audit.app delivery.transportSender
        delivery.body delivery.doc
      received.2.sends = audit.app.sends → ¬Registers delivery.doc received.1 →
        received.2.figures = audit.app.figures
  | .swept _ _ => True

/-- The counters account for the registry and for the pushes. -/
def Balanced (audit : Audit Guard) : Prop := audit.app.figures.Balanced audit.swept

/-- A gateway with an empty store, zero counters and no push made. -/
def opened (app : AppState Guard) (limits : StoreLimits) : Audit Guard where
  app := { app with
    store := Store.withLimits limits
    metrics := ⟨0, 0, 0, 0, 0, 0, 0, 0, 0⟩
    sends := [] }
  swept := 0

theorem opened_balanced (app : AppState Guard) (limits : StoreLimits) :
    (opened app limits).Balanced :=
  ⟨rfl, rfl⟩

/-- A sweep reports exactly the handles it takes away. -/
theorem size_sweepUnprovisioned (crates : Crates DocumentDigest) (store : Store)
    (ttlSecs now : Nat) :
    (store.sweepUnprovisioned crates ttlSecs now).1 +
        (store.sweepUnprovisioned crates ttlSecs now).2.state.handles.size =
      store.state.handles.size := by
  rw [Store.sweepUnprovisioned_handles]
  have reported : (store.sweepUnprovisioned crates ttlSecs now).1 =
      (store.state.handles.retain fun _ record =>
        record.allowedTriggers.isEmpty && decide (ttlSecs ≤ now - record.createdAt)).size := by
    simp [Store.sweepUnprovisioned, Store.stale, AssocMap.size, AList.keys, List.keys]
  rw [reported]
  exact AssocMap.size_retain_add _ store.state.handles

theorem balanced_step {audit : Audit Guard} {event : AuditEvent} (balanced : audit.Balanced)
    (anew : audit.DrawsAnew event) : (audit.step crates event).Balanced := by
  cases event with
  | received delivery =>
      exact (receiveDocument_moved audit.app delivery.transportSender delivery.body delivery.doc
        anew).balanced balanced
  | swept ttlSecs now =>
      have size := size_sweepUnprovisioned crates audit.app.store ttlSecs now
      obtain ⟨handles, pushes⟩ := balanced
      refine ⟨?_, pushes⟩
      simp only [step, AppState.figures] at handles ⊢
      omega

theorem uncounted_of_drawsAnew {audit : Audit Guard} {event : AuditEvent}
    (anew : audit.DrawsAnew event) : audit.Uncounted crates event := by
  cases event with
  | received delivery =>
      intro unsent otherwise
      exact (receiveDocument_moved audit.app delivery.transportSender delivery.body delivery.doc
        anew).eq_of_sent_eq (congrArg List.length unsent) otherwise
  | swept ttlSecs now => trivial

/-- In every run of documents and sweeps from an empty store and zero counters, where every
registration draws a handle which is not live, the counters account for the handles and for the
pushes, and a document which neither registers nor pushes is not counted. -/
theorem counters_account (crates : Crates DocumentDigest) (app : AppState Guard)
    (limits : StoreLimits) (events : List AuditEvent)
    (drawn : Along (step crates) DrawsAnew (opened app limits) events) :
    (run (step crates) (opened app limits) events).Balanced ∧
      Along (step crates) (Uncounted crates) (opened app limits) events :=
  ⟨invariant (fun _ _ balanced anew => balanced_step balanced anew) (opened_balanced app limits)
      drawn,
    along_mono (fun _ _ anew => uncounted_of_drawsAnew anew) drawn⟩

end Audit

/-! ## A day with every exit -/

private def smallRegistration : TrustTask :=
  smallDocument "register" "push/register" (.object
    [("registration", .object [("platform", .string "fcm"), ("token", .string "token")]),
      ("controllerVtaDid", .string "did:web:vta.example")])

private def registering (handle : String) : AuditEvent :=
  .received ⟨{ smallSurroundings "" 0 .delivered with newHandle := handle }, none, smallBody,
    smallRegistration⟩

private def waking (id : String) (outcome : SendOutcome) : AuditEvent :=
  .received ⟨smallSurroundings "did:web:trigger.example" 0 outcome, none, smallBody, smallWake id⟩

/-- Two handles are issued, one is opened to a trigger and the other is swept; pushes to the first
fail, are delivered and find its token dead, and the delivered one is replayed. -/
private def dayOfEveryExit : List AuditEvent :=
  [registering "handle", registering "idle",
    .received ⟨smallSurroundings "did:web:vta.example" 0 .delivered, none, smallBody,
      smallProvision "open" ["did:web:trigger.example"]⟩,
    waking "one" .transientFailure, waking "one" .delivered, waking "one" .delivered,
    .swept 0 0, waking "two" .permanentlyUnregistered, waking "three" .delivered]

theorem Audit.counters_account_on_a_busy_day :
    (run (step plainCrates) (opened smallGateway StoreLimits.default) dayOfEveryExit).Balanced ∧
      Along (step plainCrates) (Uncounted plainCrates) (opened smallGateway StoreLimits.default)
        dayOfEveryExit :=
  counters_account plainCrates smallGateway StoreLimits.default dayOfEveryExit (by decide)

end PushGateway
