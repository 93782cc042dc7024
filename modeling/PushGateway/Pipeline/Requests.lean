import Mathlib.Logic.Function.Iterate
import PushGateway.Pipeline.Redelivery

/-!
# Requests side by side

The handlers as they run beside each other.  A request gives way to the others between any two of
its calls on the store or on the replay record, each of which is one atomic step, and its future
may be dropped where it awaits something.  A request which has the gateway to itself does what
`receiveDocument` does.
-/

namespace PushGateway

variable {Guard DocumentDigest : Type} [ReplayGuard Guard String DocumentDigest Answer]
  (crates : Crates DocumentDigest)

/-! ## Stages -/

/-- What an authorised request does once it is admitted. -/
inductive Effect where
  | provision (caller handle : String) (policy : WakeTriggerPolicy)
  | wake (trigger : String) (request : WakeRequest) (registration : PushRegistration)

/-- Who is admitted. -/
def Effect.issuer : Effect → String
  | .provision caller _ _ => caller
  | .wake trigger _ _ => trigger

/-- The handle which is charged. -/
def Effect.handle : Effect → String
  | .provision _ handle _ => handle
  | .wake _ request _ => request.handle

/-- What is left to do when a claim has been closed out. -/
inductive Finish where
  | respond (answer : Answer)
  | refuse (outcome : ProvisionOutcome)

/-- How a request ends: with an answer built for it, with the response kept for an earlier
delivery, or with none. -/
inductive Ending where
  | built (answer : Answer)
  | replayed (prior : Answer)
  | dropped

/-- What the caller is answered. -/
def Ending.answer : Ending → Option Answer
  | .built answer => some answer
  | .replayed prior => some prior
  | .dropped => none

/-- How far a request has come. -/
inductive Stage (DocumentDigest : Type) where
  | received
  /-- A provision past `check_controller`. -/
  | checked (once : DocumentOnce DocumentDigest) (caller handle : String)
      (policy : WakeTriggerPolicy)
  /-- About to claim its document. -/
  | admitting (once : DocumentOnce DocumentDigest) (effect : Effect)
  | admitted (once : DocumentOnce DocumentDigest) (effect : Effect)
  /-- Past its effect, about to close its claim out. -/
  | closing (once : DocumentOnce DocumentDigest) (effect : Effect) (response : Option Answer)
      (finish : Finish)
  | ended (ending : Ending)

/-! ## Steps -/

namespace Delivery

variable (delivery : Delivery)

/-- `handle_provision` up to `check_controller`. -/
def checkProvision (state : AppState Guard) (caller : String)
    (once : DocumentOnce DocumentDigest) : AppState Guard × Stage DocumentDigest :=
  match parse Value.decodeProvisionRequest delivery.outside delivery.doc with
  | .error answer => (state, .ended (.built answer))
  | .ok request =>
      match request.policy.validateAndNormalize with
      | .error reason => (state, .ended (.built (malformed delivery.outside delivery.doc reason)))
      | .ok policy =>
          if ¬state.controllers.allows crates caller then
            ({ state with metrics := state.metrics.incProvisionNotController },
              .ended (.built (rejectValue delivery.outside delivery.doc
                (.permissionDenied "controller VTA is not served by this gateway"))))
          else
            match state.store.checkController crates request.handle caller with
            | .ok => (state, .checked once caller request.handle policy)
            | refused =>
                let (answer, state) := provisionRefused delivery.outside state delivery.doc refused
                (state, .ended (.built answer))

/-- `handle_wake` up to the admission. -/
def authoriseWake (state : AppState Guard) (trigger : String)
    (once : DocumentOnce DocumentDigest) : AppState Guard × Stage DocumentDigest :=
  match parse Value.decodeWakeRequest delivery.outside delivery.doc with
  | .error answer => (state, .ended (.built answer))
  | .ok request =>
      match request.validate with
      | .error reason => (state, .ended (.built (malformed delivery.outside delivery.doc reason)))
      | .ok () =>
          match state.store.authorizeWake request.handle trigger with
          | .unknownHandle =>
              ({ state with metrics := state.metrics.incWakeUnknownHandle },
                .ended (.built (rejectValue delivery.outside delivery.doc
                  (.taskFailed "unknown handle"))))
          | .notAllowed =>
              ({ state with metrics := state.metrics.incWakeNotAllowed },
                .ended (.built (rejectValue delivery.outside delivery.doc
                  (.permissionDenied "trigger DID is not on this handle's allowlist"))))
          | .allowed registration =>
              if (select state.senders registration).isNone then
                (state, .ended (.built (rejectValue delivery.outside delivery.doc
                  (.taskFailed "no sender for this handle's platform"))))
              else (state, .admitting once (.wake trigger request registration))

/-- `dispatch_push_once` for a proven caller, up to the first call which another may follow. -/
def dispatch (state : AppState Guard) (caller : String) (once : DocumentOnce DocumentDigest) :
    AppState Guard × Stage DocumentDigest :=
  if delivery.doc.typeUri.names "push/register" then
    if ¬delivery.outside.allowRegister then
      (state, .ended (.built (rateLimited delivery.outside delivery.doc)))
    else
      let (answer, state) := handleRegister crates delivery.outside state delivery.doc
      (state, .ended (.built answer))
  else if delivery.doc.typeUri.names "push/provision" then
    if !delivery.outside.allowDid caller then
      (state, .ended (.built (rateLimited delivery.outside delivery.doc)))
    else delivery.checkProvision crates state caller once
  else if delivery.doc.typeUri.names "push/wake" then
    if !delivery.outside.allowDid caller then
      (state, .ended (.built (rateLimited delivery.outside delivery.doc)))
    else delivery.authoriseWake state caller once
  else
    (state, .ended (.built (rejectValue delivery.outside delivery.doc
      (.unsupportedType delivery.doc.typeUri.text))))

/-- `receive_document`, up to the first call which another may follow. -/
def start (state : AppState Guard) : AppState Guard × Stage DocumentDigest :=
  match authenticate crates delivery.outside state delivery.transportSender delivery.body with
  | .error reason =>
      (state, .ended (.built (rejectValue delivery.outside delivery.doc reason)))
  | .ok sender =>
      match sender, state.gatewayDid with
      | some caller, some gatewayDid =>
          match checkWindow crates delivery.doc gatewayDid delivery.outside.now with
          | .error reason =>
              (state, .ended (.built (rejectValue delivery.outside delivery.doc reason)))
          | .ok (digest, retain) =>
              delivery.dispatch crates state caller
                ⟨delivery.doc.id, digest, retain, delivery.outside.now⟩
      | _, _ =>
          let (answer, state) :=
            dispatchPushOnce crates delivery.outside none state none delivery.doc
          (state, .ended (.built answer))

end Delivery

/-- The push of a wake, up to the close of its claim. -/
def Delivery.send (delivery : Delivery) (state : AppState Guard)
    (once : DocumentOnce DocumentDigest) (trigger : String) (request : WakeRequest)
    (registration : PushRegistration) : AppState Guard × Stage DocumentDigest :=
  let effect := Effect.wake trigger request registration
  let outcome :=
    (delivery.outside.send registration request.payload).getD .transientFailure
  let state := state.pushed registration request.payload
  match outcome with
  | .delivered =>
      let response :=
        successValue delivery.outside delivery.doc (statusPayload "delivered")
      ({ state with metrics := state.metrics.incWakeDelivered },
        .closing once effect (some response) (.respond response))
  | .transientFailure =>
      ({ state with metrics := state.metrics.incWakeTransientFailure },
        .closing once effect none (.respond (rejectValue delivery.outside delivery.doc
          (.taskFailed "transient push-service failure; message remains queued"))))
  | .permanentlyUnregistered =>
      let response :=
        successValue delivery.outside delivery.doc (statusPayload "tokenUnregistered")
      ({ state with
          store := state.store.remove crates request.handle
          metrics := state.metrics.incWakeTokenUnregistered },
        .closing once effect (some response) (.respond response))

namespace Stage

/-- The next step of a request. -/
def advance (delivery : Delivery) (state : AppState Guard) :
    Stage DocumentDigest → AppState Guard × Stage DocumentDigest
  | .received => delivery.start crates state
  | .checked once caller handle policy =>
      if state.store.allowlistIs handle policy.allowedTriggers then
        ({ state with metrics := state.metrics.incProvisionOk },
          .ended (.built (successValue delivery.outside delivery.doc
            (provisionPayload handle policy.allowedTriggers))))
      else (state, .admitting once (.provision caller handle policy))
  | .admitting once effect =>
      match once.claim state effect.issuer effect.handle with
      | (.ok .fresh, replay) => ({ state with replay := replay }, .admitted once effect)
      | (.ok (.answered prior), replay) =>
          ({ state with replay := replay }, .ended (.replayed prior))
      | (.error reason, replay) =>
          ({ state with replay := replay },
            .ended (.built (rejectValue delivery.outside delivery.doc reason)))
  | .admitted once (.provision caller handle policy) =>
      match state.store.provision crates handle caller policy with
      | (.ok, store) =>
          let response := successValue delivery.outside delivery.doc
            (provisionPayload handle policy.allowedTriggers)
          ({ state with store := store, metrics := state.metrics.incProvisionOk },
            .closing once (.provision caller handle policy) (some response) (.respond response))
      | (refused, store) =>
          ({ state with store := store },
            .closing once (.provision caller handle policy) none (.refuse refused))
  | .admitted once (.wake trigger request registration) =>
      delivery.send crates state once trigger request registration
  | .closing once effect response finish =>
      let state := complete (some once) state effect.issuer effect.handle response
      match finish with
      | .respond answer => (state, .ended (.built answer))
      | .refuse outcome =>
          let (answer, state) := provisionRefused delivery.outside state delivery.doc outcome
          (state, .ended (.built answer))
  | .ended ending => (state, .ended ending)

/-- What is left when the future of a request is dropped.  A provision awaits nothing between its
check and its claim, nor between its claim and its write. -/
def drop (state : AppState Guard) :
    Stage DocumentDigest → AppState Guard × Stage DocumentDigest
  | .received => (state, .ended .dropped)
  | .admitted _ (.wake _ request registration) =>
      -- It is dropped while its send is pending, which may or may not have come to the device.
      (state.pushed registration request.payload, .ended .dropped)
  | .admitting once effect =>
      -- The issuer's partition is taken before its guard is awaited.
      ({ state with
          replay :=
            (state.replay.partition state.bounds effect.issuer effect.handle once.now).2 },
        .ended .dropped)
  | .closing once effect response _ =>
      -- The charge is taken off before the guard is awaited.
      ({ state with
          replay :=
            if response.isNone then state.replay.uncharge effect.handle effect.issuer once.id
            else state.replay },
        .ended .dropped)
  | stage => (state, stage)

end Stage

/-! ## A request on its own -/

section Alone

variable {crates} {delivery : Delivery}

variable (crates delivery) in
/-- So many steps end the request with this answer, in this state. -/
def Stage.ComesTo (steps : Nat) (state : AppState Guard) (stage : Stage DocumentDigest)
    (result : Answer × AppState Guard) : Prop :=
  ∃ ending, (fun request : AppState Guard × Stage DocumentDigest =>
      request.2.advance crates delivery request.1)^[steps] (state, stage) =
    (result.2, .ended ending) ∧ ending.answer = some result.1

theorem Stage.comesTo_built (state : AppState Guard) (answer : Answer) :
    (Stage.ended (.built answer) : Stage DocumentDigest).ComesTo crates delivery 0 state
      (answer, state) :=
  ⟨.built answer, rfl, rfl⟩

/-- An ended request takes no further step. -/
theorem Stage.ComesTo.succ {steps : Nat} {state : AppState Guard} {stage : Stage DocumentDigest}
    {result : Answer × AppState Guard} (comes : stage.ComesTo crates delivery steps state result) :
    stage.ComesTo crates delivery (steps + 1) state result := by
  obtain ⟨ending, reached, answers⟩ := comes
  refine ⟨ending, ?_, answers⟩
  rw [Function.iterate_succ_apply', reached]
  rfl

theorem Stage.ComesTo.advance {steps : Nat} {state after : AppState Guard}
    {stage next : Stage DocumentDigest} {result : Answer × AppState Guard}
    (advanced : stage.advance crates delivery state = (after, next))
    (comes : next.ComesTo crates delivery steps after result) :
    stage.ComesTo crates delivery (steps + 1) state result := by
  obtain ⟨ending, reached, answers⟩ := comes
  refine ⟨ending, ?_, answers⟩
  rw [Function.iterate_succ_apply, advanced]
  exact reached

variable (crates delivery) in
theorem Stage.closing_respond_alone (state : AppState Guard)
    (once : DocumentOnce DocumentDigest) (effect : Effect) (response : Option Answer)
    (answer : Answer) :
    (Stage.closing once effect response (.respond answer)).ComesTo crates delivery 1 state
      (answer, complete (some once) state effect.issuer effect.handle response) :=
  .advance rfl (comesTo_built _ answer)

theorem Stage.admitted_provision_alone (state : AppState Guard)
    (once : DocumentOnce DocumentDigest) (caller handle : String) (policy : WakeTriggerPolicy) :
    (Stage.admitted once (.provision caller handle policy)).ComesTo crates delivery 2 state
      (applyProvision crates delivery.outside (some once) state caller handle policy
        delivery.doc) := by
  rw [applyProvision]
  obtain ⟨outcome, failed, refused⟩ | ⟨record, _, _, changed⟩ :=
    Store.provision_cases crates state.store handle caller policy
  · have advanced : (Stage.admitted once (.provision caller handle policy)).advance crates delivery
        state = ({ state with store := state.store },
          .closing once (.provision caller handle policy) none (.refuse outcome)) := by
      rw [Stage.advance, refused]
      cases outcome with
      | ok => exact absurd rfl failed
      | unknownHandle => rfl
      | notController => rfl
    rw [refused]
    cases outcome with
    | ok => exact absurd rfl failed
    | unknownHandle => exact .advance advanced (.advance rfl (comesTo_built _ _))
    | notController => exact .advance advanced (.advance rfl (comesTo_built _ _))
  · rw [changed]
    refine .advance ?_
      (closing_respond_alone crates delivery _ once (.provision caller handle policy) _ _)
    rw [Stage.advance, changed]

theorem Stage.admitted_wake_alone (state : AppState Guard)
    (once : DocumentOnce DocumentDigest) (trigger : String) (request : WakeRequest)
    (registration : PushRegistration) :
    (Stage.admitted once (.wake trigger request registration)).ComesTo crates delivery 2 state
      (pushWake crates delivery.outside (some once) state trigger request registration
        delivery.doc) := by
  have closed := fun (after : AppState Guard) response answer =>
    closing_respond_alone crates delivery after once (.wake trigger request registration) response
      answer
  rw [pushWake]
  cases outcome : (delivery.outside.send registration request.payload).getD .transientFailure with
  | delivered =>
      refine .advance ?_ (closed _ _ _)
      rw [Stage.advance, Delivery.send, outcome]
      rfl
  | transientFailure =>
      refine .advance ?_ (closed _ _ _)
      rw [Stage.advance, Delivery.send, outcome]
      rfl
  | permanentlyUnregistered =>
      refine .advance ?_ (closed _ _ _)
      rw [Stage.advance, Delivery.send, outcome]
      rfl

/-- The admission step with what follows it. -/
theorem Stage.admitting_alone (state : AppState Guard) (once : DocumentOnce DocumentDigest)
    (effect : Effect) (effected : AppState Guard → Answer × AppState Guard)
    (follows : ∀ state, (Stage.admitted once effect).ComesTo crates delivery 2 state
      (effected state)) :
    (Stage.admitting once effect).ComesTo crates delivery 3 state
      (match admitOnce delivery.outside (some once) state effect.issuer effect.handle
          delivery.doc with
        | (.error answer, state) => (answer, state)
        | (.ok (), state) => effected state) := by
  simp only [admitOnce]
  rw [← DocumentOnce.claim]
  cases claimed : once.claim state effect.issuer effect.handle with
  | mk result replay =>
      cases result with
      | error reason =>
          refine .advance ?_ (comesTo_built _ _).succ.succ
          rw [Stage.advance, claimed]
      | ok admission =>
          cases admission with
          | fresh =>
              refine .advance ?_ (follows _)
              rw [Stage.advance, claimed]
          | answered prior =>
              have ended : (Stage.ended (.replayed prior)).ComesTo crates delivery 0
                  { state with replay := replay } (prior, { state with replay := replay }) :=
                ⟨.replayed prior, rfl, rfl⟩
              refine .advance ?_ ended.succ.succ
              rw [Stage.advance, claimed]

theorem Delivery.checkProvision_alone (state : AppState Guard) (caller : String)
    (once : DocumentOnce DocumentDigest) :
    (delivery.checkProvision crates state caller once).2.ComesTo crates delivery 4
      (delivery.checkProvision crates state caller once).1
      (handleProvision crates delivery.outside (some once) state (some caller) delivery.doc) := by
  have ended : ∀ (after : AppState Guard) (answer : Answer),
      (Stage.ended (.built answer) : Stage DocumentDigest).ComesTo crates delivery 4 after
        (answer, after) :=
    fun after answer => (Stage.comesTo_built after answer).succ.succ.succ.succ
  simp only [checkProvision, handleProvision]
  cases parse Value.decodeProvisionRequest delivery.outside delivery.doc with
  | error answer => exact ended _ _
  | ok request =>
      dsimp only
      cases request.policy.validateAndNormalize with
      | error reason => exact ended _ _
      | ok policy =>
          dsimp only
          split
          · exact ended _ _
          · cases state.store.checkController crates request.handle caller with
            | unknownHandle => exact ended _ _
            | notController => exact ended _ _
            | ok =>
                dsimp only
                split
                · rename_i same
                  refine .advance ?_ (Stage.comesTo_built _ _).succ.succ.succ
                  rw [Stage.advance, if_pos same]
                · rename_i different
                  refine .advance ?_ (Stage.admitting_alone state once
                    (.provision caller request.handle policy) _ fun state =>
                      Stage.admitted_provision_alone state once caller request.handle policy)
                  rw [Stage.advance, if_neg different]

theorem Delivery.authoriseWake_alone (state : AppState Guard) (trigger : String)
    (once : DocumentOnce DocumentDigest) :
    (delivery.authoriseWake state trigger once).2.ComesTo crates delivery 3
      (delivery.authoriseWake state trigger once).1
      (handleWake crates delivery.outside (some once) state (some trigger) delivery.doc) := by
  have ended : ∀ (after : AppState Guard) (answer : Answer),
      (Stage.ended (.built answer) : Stage DocumentDigest).ComesTo crates delivery 3 after
        (answer, after) := fun after answer => (Stage.comesTo_built after answer).succ.succ.succ
  simp only [authoriseWake, handleWake]
  cases parse Value.decodeWakeRequest delivery.outside delivery.doc with
  | error answer => exact ended _ _
  | ok request =>
      dsimp only
      cases request.validate with
      | error reason => exact ended _ _
      | ok _ =>
          dsimp only
          cases state.store.authorizeWake request.handle trigger with
          | unknownHandle => exact ended _ _
          | notAllowed => exact ended _ _
          | allowed registration =>
              dsimp only
              split
              · exact ended _ _
              · exact Stage.admitting_alone state once (.wake trigger request registration) _
                  fun state =>
                    Stage.admitted_wake_alone state once trigger request registration

/-- A request which has the gateway to itself gets the answer of `receiveDocument`, and leaves the
gateway as it does. -/
theorem Delivery.received_alone (delivery : Delivery) (state : AppState Guard) :
    (Stage.received : Stage DocumentDigest).ComesTo crates delivery 5 state
      (receiveDocument crates delivery.outside state delivery.transportSender delivery.body
        delivery.doc) := by
  have ended : ∀ (after : AppState Guard) (answer : Answer),
      (Stage.ended (.built answer) : Stage DocumentDigest).ComesTo crates delivery 4 after
        (answer, after) :=
    fun after answer => (Stage.comesTo_built after answer).succ.succ.succ.succ
  refine .advance rfl ?_
  simp only [receiveDocument]
  cases authenticate crates delivery.outside state delivery.transportSender delivery.body with
  | error reason => exact ended _ _
  | ok sender =>
      cases sender with
      | none => exact ended _ _
      | some caller =>
          cases state.gatewayDid with
          | none => exact ended _ _
          | some gatewayDid =>
              dsimp only
              cases checkWindow crates delivery.doc gatewayDid delivery.outside.now with
              | error reason => exact ended _ _
              | ok accepted =>
                  simp only [dispatch, dispatchPushOnce, Option.any_some]
                  split
                  · split
                    · exact ended _ _
                    · exact ended _ _
                  · split
                    · split
                      · exact ended _ _
                      · exact checkProvision_alone state caller _
                    · split
                      · split
                        · exact ended _ _
                        · exact (authoriseWake_alone state caller _).succ
                      · exact ended _ _

end Alone

end PushGateway
