import PushGateway.Pipeline.Requests

/-!
# The gateway with its requests

Requests arrive, take steps in any order and are dropped, and the sweeper runs between their
steps.  `Advanced` lists what one step of a request can be, and `Dropped` what its end can leave
when it is dropped.
-/

namespace PushGateway

variable {Guard DocumentDigest : Type} [ReplayGuard Guard String DocumentDigest Answer]
  (crates : Crates DocumentDigest)

/-! ## What a step can be -/

/-- What the next step of a request can be, with the state it leaves. -/
inductive Stage.Advanced (delivery : Delivery) (state : AppState Guard) :
    Stage DocumentDigest → AppState Guard → Stage DocumentDigest → Prop where
  | refused (reason : RejectReason) (metrics : Metrics) :
      Advanced delivery state .received { state with metrics := metrics }
        (.ended (.built (rejectValue delivery.outside delivery.doc reason)))
  | registered (request : RegisterRequest) (payload : Value) (metrics : Metrics)
      (named : delivery.doc.typeUri.names "push/register")
      (stored : (state.store.insertAt crates delivery.outside.newHandle request.registration
        request.controllerVtaDid delivery.outside.nowSecs).1 = .ok ()) :
      Advanced delivery state .received
        { state with
          store := (state.store.insertAt crates delivery.outside.newHandle request.registration
            request.controllerVtaDid delivery.outside.nowSecs).2
          metrics := metrics }
        (.ended (.built (successValue delivery.outside delivery.doc payload)))
  | checked (once : DocumentOnce DocumentDigest) (caller : String) (request : ProvisionRequest)
      (policy : WakeTriggerPolicy)
      (accepted : Accepted crates delivery.outside state delivery.transportSender delivery.body
        delivery.doc caller once)
      (provisioning : Provisioning crates state delivery.doc caller request policy) :
      Advanced delivery state .received state (.checked once caller request.handle policy)
  | authorised (once : DocumentOnce DocumentDigest) (trigger : String) (request : WakeRequest)
      (registration : PushRegistration)
      (accepted : Accepted crates delivery.outside state delivery.transportSender delivery.body
        delivery.doc trigger once)
      (waking : Waking state delivery.doc trigger request registration) :
      Advanced delivery state .received state
        (.admitting once (.wake trigger request registration))
  | repeated (once : DocumentOnce DocumentDigest) (caller handle : String)
      (policy : WakeTriggerPolicy) (metrics : Metrics)
      (same : state.store.allowlistIs handle policy.allowedTriggers = true) :
      Advanced delivery state (.checked once caller handle policy)
        { state with metrics := metrics }
        (.ended (.built (successValue delivery.outside delivery.doc
          (provisionPayload handle policy.allowedTriggers))))
  | differing (once : DocumentOnce DocumentDigest) (caller handle : String)
      (policy : WakeTriggerPolicy)
      (different : ¬state.store.allowlistIs handle policy.allowedTriggers = true) :
      Advanced delivery state (.checked once caller handle policy) state
        (.admitting once (.provision caller handle policy))
  | held (once : DocumentOnce DocumentDigest) (effect : Effect) (ending : Ending)
      (stale : (once.claim state effect.issuer effect.handle).1 ≠ .ok .fresh)
      (prior : (∃ answer, ending = .replayed answer) ∨
        ∃ reason, ending = .built (rejectValue delivery.outside delivery.doc reason)) :
      Advanced delivery state (.admitting once effect)
        { state with replay := (once.claim state effect.issuer effect.handle).2 }
        (.ended ending)
  | admitted (once : DocumentOnce DocumentDigest) (effect : Effect)
      (fresh : (once.claim state effect.issuer effect.handle).1 = .ok .fresh) :
      Advanced delivery state (.admitting once effect)
        { state with replay := (once.claim state effect.issuer effect.handle).2 }
        (.admitted once effect)
  | provisioned (once : DocumentOnce DocumentDigest) (caller handle : String)
      (policy : WakeTriggerPolicy) (metrics : Metrics)
      (applied : (state.store.provision crates handle caller policy).1 = .ok) :
      Advanced delivery state (.admitted once (.provision caller handle policy))
        { state with
          store := (state.store.provision crates handle caller policy).2
          metrics := metrics }
        (.closing once (.provision caller handle policy)
          (some (successValue delivery.outside delivery.doc
            (provisionPayload handle policy.allowedTriggers)))
          (.respond (successValue delivery.outside delivery.doc
            (provisionPayload handle policy.allowedTriggers))))
  | unprovisioned (once : DocumentOnce DocumentDigest) (caller handle : String)
      (policy : WakeTriggerPolicy) (outcome : ProvisionOutcome)
      (refused : (state.store.provision crates handle caller policy).1 ≠ .ok) :
      Advanced delivery state (.admitted once (.provision caller handle policy)) state
        (.closing once (.provision caller handle policy) none (.refuse outcome))
  | pushed (once : DocumentOnce DocumentDigest) (trigger : String) (request : WakeRequest)
      (registration : PushRegistration) (store : Store) (metrics : Metrics)
      (response : Option Answer) (answer : Answer)
      (removed : store = state.store ∨ store = state.store.remove crates request.handle)
      (kept : ∀ own ∈ response, own = answer) :
      Advanced delivery state (.admitted once (.wake trigger request registration))
        { state.pushed registration request.payload with store := store, metrics := metrics }
        (.closing once (.wake trigger request registration) response (.respond answer))
  | closed (once : DocumentOnce DocumentDigest) (effect : Effect) (response : Option Answer)
      (finish : Finish) (metrics : Metrics) (answer : Answer)
      (finished : finish = .respond answer ∨
        ∃ outcome, finish = .refuse outcome ∧ answer.isError = true) :
      Advanced delivery state (.closing once effect response finish)
        { state with
          replay := state.replay.complete effect.issuer effect.handle once.id once.digest response
          metrics := metrics }
        (.ended (.built answer))
  | idle (ending : Ending) : Advanced delivery state (.ended ending) state (.ended ending)

variable {crates}

theorem Delivery.checkProvision_advanced {delivery : Delivery} {state : AppState Guard}
    {caller : String} {once : DocumentOnce DocumentDigest}
    (accepted : Accepted crates delivery.outside state delivery.transportSender delivery.body
      delivery.doc caller once)
    (named : delivery.doc.typeUri.names "push/provision") :
    Stage.Advanced crates delivery state .received
      (delivery.checkProvision crates state caller once).1
      (delivery.checkProvision crates state caller once).2 := by
  simp only [checkProvision, parse]
  cases decoded : Value.decodeProvisionRequest delivery.doc.payload with
  | none => exact .refused _ state.metrics
  | some request =>
      dsimp only
      cases normalised : request.policy.validateAndNormalize with
      | error reason => exact .refused _ state.metrics
      | ok policy =>
          dsimp only
          split
          · exact .refused _ _
          · rename_i served
            cases controls : state.store.checkController crates request.handle caller with
            | unknownHandle => exact .refused _ _
            | notController => exact .refused _ _
            | ok =>
                exact .checked once caller request policy accepted
                  ⟨named, decoded, normalised, not_not.mp served, controls⟩

theorem Delivery.authoriseWake_advanced {delivery : Delivery} {state : AppState Guard}
    {trigger : String} {once : DocumentOnce DocumentDigest}
    (accepted : Accepted crates delivery.outside state delivery.transportSender delivery.body
      delivery.doc trigger once)
    (named : delivery.doc.typeUri.names "push/wake") :
    Stage.Advanced crates delivery state .received
      (delivery.authoriseWake state trigger once).1
      (delivery.authoriseWake state trigger once).2 := by
  simp only [authoriseWake, parse]
  cases decoded : Value.decodeWakeRequest delivery.doc.payload with
  | none => exact .refused _ state.metrics
  | some request =>
      dsimp only
      cases bounded : request.validate with
      | error reason => exact .refused _ state.metrics
      | ok _ =>
          dsimp only
          cases allowed : state.store.authorizeWake request.handle trigger with
          | unknownHandle => exact .refused _ _
          | notAllowed => exact .refused _ _
          | allowed registration =>
              dsimp only
              split
              · exact .refused _ state.metrics
              · rename_i selected
                exact .authorised once trigger request registration accepted
                  ⟨named, decoded, bounded, allowed,
                    by simpa [Option.isSome_iff_ne_none] using selected⟩

/-- A request which no proven caller stands behind is refused or registers a handle. -/
theorem Stage.Advanced.of_handled {delivery : Delivery} {state after : AppState Guard}
    {answer : Answer}
    (handled : Handled crates delivery.outside
      (none : Option (String × DocumentOnce DocumentDigest)) state delivery.doc answer after) :
    Stage.Advanced crates delivery state .received after (.ended (.built answer)) := by
  cases handled with
  | refused reason metrics => exact .refused reason metrics
  | registered request payload metrics named stored =>
      exact .registered request payload metrics named stored
  | repeated _ _ _ _ _ _ called => cases called
  | held _ _ _ _ called => cases called
  | provisioned _ _ _ _ _ _ called => cases called
  | delivered _ _ _ _ _ _ called => cases called
  | unregistered _ _ _ _ _ _ called => cases called
  | failed _ _ _ _ _ _ called => cases called

theorem Delivery.dispatch_advanced {delivery : Delivery} {state : AppState Guard}
    {caller : String} {once : DocumentOnce DocumentDigest}
    (accepted : Accepted crates delivery.outside state delivery.transportSender delivery.body
      delivery.doc caller once) :
    Stage.Advanced crates delivery state .received
      (delivery.dispatch crates state caller once).1
      (delivery.dispatch crates state caller once).2 := by
  simp only [dispatch]
  split
  · rename_i named
    split
    · exact .refused _ state.metrics
    · exact .of_handled (handleRegister_handled none state named)
  · split
    · rename_i named
      split
      · exact .refused _ state.metrics
      · exact checkProvision_advanced accepted named
    · split
      · rename_i named
        split
        · exact .refused _ state.metrics
        · exact authoriseWake_advanced accepted named
      · exact .refused _ state.metrics

theorem Delivery.start_advanced (delivery : Delivery) (state : AppState Guard) :
    Stage.Advanced crates delivery state .received (delivery.start crates state).1
      (delivery.start crates state).2 := by
  simp only [start]
  cases authenticated : authenticate crates delivery.outside state delivery.transportSender
      delivery.body with
  | error reason => exact .refused _ state.metrics
  | ok sender =>
      cases sender with
      | none => exact .of_handled (dispatchPushOnce_handled none state delivery.doc)
      | some caller =>
          cases identity : state.gatewayDid with
          | none => exact .of_handled (dispatchPushOnce_handled none state delivery.doc)
          | some gatewayDid =>
              dsimp only
              cases window : checkWindow crates delivery.doc gatewayDid delivery.outside.now with
              | error reason => exact .refused _ state.metrics
              | ok accepted =>
                  obtain ⟨digest, retain⟩ := accepted
                  exact dispatch_advanced ⟨authenticate_proven authenticated, rfl, rfl,
                    gatewayDid, identity, window⟩

theorem Stage.advance_advanced (delivery : Delivery) (state : AppState Guard)
    (stage : Stage DocumentDigest) :
    stage.Advanced crates delivery state (stage.advance crates delivery state).1
      (stage.advance crates delivery state).2 := by
  cases stage with
  | received => exact delivery.start_advanced state
  | checked once caller handle policy =>
      rw [advance]
      split
      · rename_i same
        exact .repeated once caller handle policy _ same
      · rename_i different
        exact .differing once caller handle policy different
  | admitting once effect =>
      rw [advance]
      cases claimed : once.claim state effect.issuer effect.handle with
      | mk result replay =>
          have after : replay = (once.claim state effect.issuer effect.handle).2 := by rw [claimed]
          have verdict : (once.claim state effect.issuer effect.handle).1 = result := by
            rw [claimed]
          rw [after]
          cases result with
          | error reason =>
              exact .held once effect _ (by rw [verdict]; rintro ⟨⟩) (.inr ⟨reason, rfl⟩)
          | ok admission =>
              cases admission with
              | fresh => exact .admitted once effect verdict
              | answered prior =>
                  exact .held once effect _ (by rw [verdict]; rintro ⟨⟩) (.inl ⟨prior, rfl⟩)
  | admitted once effect =>
      cases effect with
      | provision caller handle policy =>
          rw [advance]
          obtain ⟨outcome, failed, refused⟩ | ⟨record, _, _, changed⟩ :=
            Store.provision_cases crates state.store handle caller policy
          · have unapplied : (state.store.provision crates handle caller policy).1 ≠ .ok := by
              rwa [refused]
            rw [refused]
            cases outcome with
            | ok => exact absurd rfl failed
            | unknownHandle => exact .unprovisioned once caller handle policy _ unapplied
            | notController => exact .unprovisioned once caller handle policy _ unapplied
          · have applied := congrArg Prod.fst changed
            have provisioned : Advanced crates delivery state
                (.admitted once (.provision caller handle policy)) _ _ :=
              .provisioned once caller handle policy state.metrics.incProvisionOk applied
            rw [changed] at provisioned ⊢
            exact provisioned
      | wake trigger request registration =>
          rw [advance, Delivery.send]
          split
          · exact .pushed once trigger request registration state.store _ _ _ (.inl rfl) (by simp)
          · exact .pushed once trigger request registration state.store _ _ _ (.inl rfl) (by simp)
          · exact .pushed once trigger request registration _ _ _ _ (.inr rfl) (by simp)
  | closing once effect response finish =>
      cases finish with
      | respond answer => exact .closed once effect response _ state.metrics answer (.inl rfl)
      | refuse outcome =>
          rw [advance, provisionRefused.eq_def]
          cases outcome with
          | ok => exact .closed once effect response _ _ _ (.inr ⟨_, rfl, rfl⟩)
          | unknownHandle => exact .closed once effect response _ _ _ (.inr ⟨_, rfl, rfl⟩)
          | notController => exact .closed once effect response _ _ _ (.inr ⟨_, rfl, rfl⟩)
  | ended ending => exact .idle ending

/-! ## Claims and drops -/

namespace Stage

/-- What a request was authorised for. -/
def effect : Stage DocumentDigest → Option (DocumentOnce DocumentDigest × Effect)
  | .checked once caller handle policy => some (once, .provision caller handle policy)
  | .admitting once effect | .admitted once effect | .closing once effect _ _ =>
      some (once, effect)
  | .received | .ended _ => none

/-- What a request in progress has claimed and not closed out. -/
def claim : Stage DocumentDigest → Option (DocumentOnce DocumentDigest × Effect)
  | .admitted once effect | .closing once effect _ _ => some (once, effect)
  | .received | .checked _ _ _ _ | .admitting _ _ | .ended _ => none

/-- What a request leaves claimed when it is dropped. -/
def abandons : Stage DocumentDigest → Option (DocumentOnce DocumentDigest × Effect)
  | .admitted once (.wake trigger request registration) =>
      some (once, .wake trigger request registration)
  | .closing once effect _ _ => some (once, effect)
  | .admitted _ (.provision _ _ _) | .received | .checked _ _ _ _ | .admitting _ _ | .ended _ =>
      none

theorem effect_of_claim {stage : Stage DocumentDigest} {once : DocumentOnce DocumentDigest}
    {effect : Effect} (claimed : stage.claim = some (once, effect)) :
    stage.effect = some (once, effect) := by
  cases stage with
  | admitted => exact claimed
  | closing => exact claimed
  | received => cases claimed
  | checked => cases claimed
  | admitting => cases claimed
  | ended => cases claimed

/-- What a request is authorised for it was before its step, or its document has just been
accepted. -/
theorem Advanced.accepted {delivery : Delivery} {state after : AppState Guard}
    {stage next : Stage DocumentDigest} (advanced : stage.Advanced crates delivery state after next)
    {once : DocumentOnce DocumentDigest} {effect : Effect}
    (authorised : next.effect = some (once, effect)) :
    stage.effect = some (once, effect) ∨
      Accepted crates delivery.outside state delivery.transportSender delivery.body delivery.doc
        effect.issuer once := by
  cases advanced with
  | checked own caller request policy accepted =>
      cases authorised
      exact .inr accepted
  | authorised own trigger request registration accepted =>
      cases authorised
      exact .inr accepted
  | differing => exact .inl authorised
  | admitted => exact .inl authorised
  | provisioned => exact .inl authorised
  | unprovisioned => exact .inl authorised
  | pushed => exact .inl authorised
  | refused => cases authorised
  | registered => cases authorised
  | repeated => cases authorised
  | held => cases authorised
  | closed => cases authorised
  | idle => cases authorised

/-- What the end of a dropped request can leave. -/
inductive Dropped (state : AppState Guard) :
    Stage DocumentDigest → AppState Guard → Stage DocumentDigest → Prop where
  | unmoved (stage : Stage DocumentDigest) (kept : stage.abandons = none) :
      Dropped state stage state stage
  | unheard : Dropped state .received state (.ended .dropped)
  | opened (once : DocumentOnce DocumentDigest) (effect : Effect) :
      Dropped state (.admitting once effect)
        { state with
          replay :=
            (state.replay.partition state.bounds effect.issuer effect.handle once.now).2 }
        (.ended .dropped)
  | abandoned (stage : Stage DocumentDigest) (once : DocumentOnce DocumentDigest)
      (effect : Effect) (replay : ReplayRecord Guard String String String) (sends : List Sent)
      (abandons : stage.abandons = some (once, effect))
      (left : replay = state.replay ∨
        replay = state.replay.uncharge effect.handle effect.issuer once.id)
      (begun : sends = state.sends ∨ ∃ trigger request registration,
        stage = .admitted once (.wake trigger request registration) ∧
          sends = (state.pushed registration request.payload).sends) :
      Dropped state stage { state with replay := replay, sends := sends } (.ended .dropped)

theorem drop_dropped (state : AppState Guard) (stage : Stage DocumentDigest) :
    stage.Dropped state (stage.drop state).1 (stage.drop state).2 := by
  cases stage with
  | received => exact .unheard
  | checked => exact .unmoved _ rfl
  | admitting once effect => exact .opened once effect
  | admitted once effect =>
      cases effect with
      | provision => exact .unmoved _ rfl
      | wake trigger request registration =>
          exact .abandoned _ once _ state.replay _ rfl (.inl rfl)
            (.inr ⟨trigger, request, registration, rfl, rfl⟩)
  | closing once effect response finish =>
      refine .abandoned _ once effect _ state.sends rfl ?_ (.inl rfl)
      cases response with
      | none => exact .inr rfl
      | some response => exact .inl rfl
  | ended => exact .unmoved _ rfl

end Stage

/-! ## The server -/

/-- The gateway, its requests in the order of their arrival, and the handles drawn so far. -/
structure Server (Guard DocumentDigest : Type) where
  app : AppState Guard
  requests : List (Delivery × Stage DocumentDigest)
  drawn : List String

/-- A document arrives, a request takes its next step or is dropped, or the sweeper runs. -/
inductive ServerAction where
  | receive (delivery : Delivery)
  | advance (index : Nat)
  | drop (index : Nat)
  | sweep (ttlSecs now : Nat)

/-- The handle which the next step draws, if it is that of a registration. -/
def Stage.draws (delivery : Delivery) : Stage DocumentDigest → List String
  | .received =>
      if delivery.doc.typeUri.names "push/register" then [delivery.outside.newHandle] else []
  | _ => []

namespace Server

/-- A gateway without requests. -/
def idle (app : AppState Guard) : Server Guard DocumentDigest :=
  ⟨app, [], app.store.state.handles.keys⟩

variable (crates) in
def step (server : Server Guard DocumentDigest) : ServerAction → Server Guard DocumentDigest
  | .receive delivery => { server with requests := server.requests ++ [(delivery, .received)] }
  | .advance index =>
      match server.requests[index]? with
      | none => server
      | some (delivery, stage) =>
          let (app, next) := stage.advance crates delivery server.app
          ⟨app, server.requests.set index (delivery, next), server.drawn ++ stage.draws delivery⟩
  | .drop index =>
      match server.requests[index]? with
      | none => server
      | some (delivery, stage) =>
          let (app, next) := stage.drop server.app
          { server with app := app, requests := server.requests.set index (delivery, next) }
  | .sweep ttlSecs now =>
      { server with
        app := { server.app with
          store := (server.app.store.sweepUnprovisioned crates ttlSecs now).2 } }

variable (crates) in
/-- What a step of the server can be. -/
inductive Stepped (server : Server Guard DocumentDigest) :
    ServerAction → Server Guard DocumentDigest → Prop where
  | received (delivery : Delivery) :
      Stepped server (.receive delivery)
        { server with requests := server.requests ++ [(delivery, .received)] }
  | advanced (index : Nat) (delivery : Delivery) (stage : Stage DocumentDigest)
      (app : AppState Guard) (next : Stage DocumentDigest)
      (found : server.requests[index]? = some (delivery, stage))
      (advanced : stage.Advanced crates delivery server.app app next) :
      Stepped server (.advance index)
        ⟨app, server.requests.set index (delivery, next), server.drawn ++ stage.draws delivery⟩
  | dropped (index : Nat) (delivery : Delivery) (stage : Stage DocumentDigest)
      (app : AppState Guard) (next : Stage DocumentDigest)
      (found : server.requests[index]? = some (delivery, stage))
      (dropped : stage.Dropped server.app app next) :
      Stepped server (.drop index)
        { server with app := app, requests := server.requests.set index (delivery, next) }
  | absent (index : Nat) (action : ServerAction) (missing : server.requests[index]? = none)
      (names : action = .advance index ∨ action = .drop index) : Stepped server action server
  | swept (ttlSecs now : Nat) :
      Stepped server (.sweep ttlSecs now)
        { server with
          app := { server.app with
            store := (server.app.store.sweepUnprovisioned crates ttlSecs now).2 } }

variable (crates) in
theorem step_stepped (server : Server Guard DocumentDigest) (action : ServerAction) :
    server.Stepped crates action (server.step crates action) := by
  cases action with
  | receive delivery => exact .received delivery
  | advance index =>
      rw [step]
      cases found : server.requests[index]? with
      | none => exact .absent index _ found (.inl rfl)
      | some request =>
          obtain ⟨delivery, stage⟩ := request
          exact .advanced index delivery stage _ _ found
            (stage.advance_advanced delivery server.app)
  | drop index =>
      rw [step]
      cases found : server.requests[index]? with
      | none => exact .absent index _ found (.inr rfl)
      | some request =>
          obtain ⟨delivery, stage⟩ := request
          exact .dropped index delivery stage _ _ found (stage.drop_dropped server.app)
  | sweep ttlSecs now => exact .swept ttlSecs now

end Server

end PushGateway
