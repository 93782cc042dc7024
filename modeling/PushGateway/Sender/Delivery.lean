import PushGateway.Pipeline.Pushes
import PushGateway.Sender.Requests

/-!
# What is reported of a push

A wake is counted as delivered, and a handle is dropped, on the word of the push service alone: it
answered the one request which rings the device, in time and to that effect.
-/

namespace PushGateway

open Execution

variable {Byte DocumentDigest : Type}

/-! ## The word of a push service -/

/-- A refusal by which the service of the platform disowns the token. -/
def PushRegistration.disownedBy (response : HttpResponse) : PushRegistration → Bool
  | .webpush _ _ => decide (response.status = 404 ∨ response.status = 410)
  | .apns _ _ _ =>
      decide (response.status = 410 ∨
        ((response.json.bind Value.decodeApnsError).getD "") ∈ ApnsSender.deadReasons)
  | .fcm _ =>
      decide (response.status = 404 ∨
        containsText (response.text.getD "") "UNREGISTERED" ∨
        containsText (response.text.getD "") "registration-token-not-registered")

/-- What an answer, if there is one, says of a push. -/
def PushRegistration.outcomeOf (registration : PushRegistration) :
    Option HttpResponse → SendOutcome
  | none => .transientFailure
  | some response =>
      if response.isSuccess then .delivered
      else if registration.disownedBy response then .permanentlyUnregistered
      else .transientFailure

theorem WebPushSender.outcome_eq (endpoint : String) (keys : WebPushKeys)
    (answer : Option HttpResponse) :
    WebPushSender.outcome answer = (PushRegistration.webpush endpoint keys).outcomeOf answer := by
  cases answer with
  | none => rfl
  | some response => simp [outcome, PushRegistration.outcomeOf, PushRegistration.disownedBy]

theorem ApnsSender.outcome_eq (token topic : String) (environment : Option ApnsEnvironment)
    (answer : Option HttpResponse) :
    ApnsSender.outcome answer =
      (PushRegistration.apns token topic environment).outcomeOf answer := by
  cases answer with
  | none => rfl
  | some response => simp [outcome, PushRegistration.outcomeOf, PushRegistration.disownedBy]

theorem FcmSender.outcome_eq (token : String) (answer : Option HttpResponse) :
    FcmSender.outcome answer = (PushRegistration.fcm token).outcomeOf answer := by
  cases answer with
  | none => rfl
  | some response => simp [outcome, PushRegistration.outcomeOf, PushRegistration.disownedBy]

/-! ## The push of a wake -/

section

variable (crates : Crates DocumentDigest) (http : HttpCrates Byte)

namespace Sender

/-- The request which rings the device, if a send comes to it. -/
def ring (sender : Sender Byte) (outside : SendSurroundings Byte)
    (registration : PushRegistration) (payload : WakePayload) : Option (HttpRequest Byte) :=
  match sender, registration with
  | .webpush sender, .webpush endpoint keys =>
      sender.request crates http outside.clock endpoint keys payload
  | .apns _, .apns token topic environment =>
      ApnsSender.request outside.providerToken token topic environment payload
  | .fcm sender, .fcm token => sender.request (sender.accessToken http outside).1 token payload
  | _, _ => none

/-- What is requested before it. -/
def prepares (sender : Sender Byte) (outside : SendSurroundings Byte)
    (registration : PushRegistration) : List (HttpRequest Byte) :=
  match sender, registration with
  | .fcm sender, .fcm _ => (sender.accessToken http outside).2
  | _, _ => []

end Sender

namespace SenderSettings

/-- The sender which is selected for a registration. -/
def sender (settings : SenderSettings Byte) (registration : PushRegistration) :
    Option (Sender Byte) :=
  settings.senders.find? fun sender => sender.handles registration

/-- The push by the selected sender, if it ends within `WAKE_SEND_TIMEOUT`. -/
def push (settings : SenderSettings Byte) (outside : SendSurroundings Byte) (timely : Bool)
    (registration : PushRegistration) (payload : WakePayload) : Option SendOutcome :=
  if timely then
    (settings.sender registration).map fun sender =>
      (sender.send crates http outside registration payload).1
  else none

/-- The requests made for a push, of which one that is cut off or times out may make fewer. -/
def posted (settings : SenderSettings Byte) (outside : SendSurroundings Byte)
    (registration : PushRegistration) (payload : WakePayload) : List (HttpRequest Byte) :=
  ((settings.sender registration).map fun sender =>
    (sender.send crates http outside registration payload).2).getD []

/-- The one of them which rings the device. -/
def ring (settings : SenderSettings Byte) (outside : SendSurroundings Byte)
    (registration : PushRegistration) (payload : WakePayload) : Option (HttpRequest Byte) :=
  (settings.sender registration).bind fun sender =>
    sender.ring crates http outside registration payload

/-- What was answered to it in time. -/
def answer (settings : SenderSettings Byte) (outside : SendSurroundings Byte) (timely : Bool)
    (registration : PushRegistration) (payload : WakePayload) : Option HttpResponse :=
  (settings.ring crates http outside registration payload).bind fun request =>
    (outside.network request).filter fun _ => timely

/-- Besides the request which rings the device, only the FCM sender makes one, the exchange for its
access token; if that brings none, the device is not rung. -/
def RingsOnce (settings : SenderSettings Byte) (outside : SendSurroundings Byte)
    (registration : PushRegistration) (payload : WakePayload) : Prop :=
  ∃ exchange : Option (HttpRequest Byte),
    settings.posted crates http outside registration payload =
      exchange.toList ++ (settings.ring crates http outside registration payload).toList ∧
    ∀ request ∈ exchange, ∃ own token now,
      settings.fcm = some own ∧ registration = .fcm token ∧ outside.clock = some now ∧
        own.exchange http.toSenderCrates now = some request ∧
        (accessToken.accept now (outside.network request) = none →
          settings.ring crates http outside registration payload = none)

end SenderSettings

variable {crates http}

theorem select_pushSender (settings : SenderSettings Byte) (registration : PushRegistration) :
    select (settings.senders.map Sender.pushSender) registration =
      (settings.sender registration).map Sender.pushSender :=
  List.find?_map

/-- A sender other than the development one reports what the service says of the request which rings
the device. -/
theorem Sender.send_eq (outside : SendSurroundings Byte) {sender : Sender Byte}
    (echoless : sender ≠ .echo) (registration : PushRegistration) (payload : WakePayload) :
    sender.send crates http outside registration payload =
      (registration.outcomeOf
        ((sender.ring crates http outside registration payload).bind outside.network),
        sender.prepares http outside registration ++
          (sender.ring crates http outside registration payload).toList) := by
  have posts : ∀ outcome : Option HttpResponse → SendOutcome, outcome = registration.outcomeOf →
      ∀ request : Option (HttpRequest Byte), Sending.post outcome outside.network request =
        (registration.outcomeOf (request.bind outside.network), request.toList) := by
    rintro outcome rfl request
    cases request with
    | none => rfl
    | some made => rfl
  cases sender with
  | webpush sender =>
      cases registration with
      | webpush endpoint keys => exact posts _ (funext (WebPushSender.outcome_eq endpoint keys)) _
      | apns token topic environment => rfl
      | fcm token => rfl
  | apns sender =>
      cases registration with
      | webpush endpoint keys => rfl
      | apns token topic environment =>
          exact posts _ (funext (ApnsSender.outcome_eq token topic environment)) _
      | fcm token => rfl
  | fcm sender =>
      cases registration with
      | webpush endpoint keys => rfl
      | apns token topic environment => rfl
      | fcm token =>
          rw [send_fcm, posts _ (funext (FcmSender.outcome_eq token))]
          rfl
  | echo => exact absurd rfl echoless

theorem SenderSettings.sender_ne_echo {settings : SenderSettings Byte}
    (production : settings.devEchoSender = false) {registration : PushRegistration}
    {sender : Sender Byte} (selected : settings.sender registration = some sender) :
    sender ≠ .echo := by
  have member : sender ∈ settings.senders := List.mem_of_find?_eq_some selected
  rintro rfl
  simp [senders, production] at member

/-- The outcome of a push is what the service says in time. -/
theorem SenderSettings.push_eq {settings : SenderSettings Byte}
    (production : settings.devEchoSender = false) (outside : SendSurroundings Byte) (timely : Bool)
    (registration : PushRegistration) (payload : WakePayload) :
    (settings.push crates http outside timely registration payload).getD .transientFailure =
      registration.outcomeOf
        (settings.answer crates http outside timely registration payload) := by
  rw [push, answer, ring]
  cases selected : settings.sender registration with
  | none => cases timely <;> rfl
  | some sender =>
      rw [Option.map_some, Option.bind_some,
        Sender.send_eq outside (sender_ne_echo production selected)]
      cases sender.ring crates http outside registration payload with
      | none => cases timely <;> rfl
      | some request =>
          cases timely with
          | false => simp [PushRegistration.outcomeOf]
          | true =>
              rw [if_pos rfl, Option.getD_some, Option.bind_some, Option.bind_some]
              cases outside.network request with
              | none => rfl
              | some response => rfl

/-- The requests of a push are the one which rings the device, and at most an exchange. -/
theorem SenderSettings.ringsOnce {settings : SenderSettings Byte}
    (production : settings.devEchoSender = false) (outside : SendSurroundings Byte)
    (registration : PushRegistration) (payload : WakePayload) :
    settings.RingsOnce crates http outside registration payload := by
  rw [RingsOnce, posted, ring]
  cases selected : settings.sender registration with
  | none => exact ⟨none, rfl, nofun⟩
  | some sender =>
      rw [Option.map_some, Option.getD_some, Option.bind_some,
        Sender.send_eq outside (sender_ne_echo production selected)]
      cases sender with
      | fcm own =>
          cases registration with
          | fcm token =>
              have enabled : settings.fcm = some own := by
                have member : Sender.fcm own ∈ settings.senders :=
                  List.mem_of_find?_eq_some selected
                simpa [senders, production] using member
              obtain unmade | ⟨now, request, read, _, exchanged, made⟩ :=
                own.accessToken_cases http outside
              · exact ⟨none, congrArg (· ++ _) unmade, nofun⟩
              · refine ⟨some request, congrArg (· ++ _) (congrArg Prod.snd made), ?_⟩
                rintro _ ⟨⟩
                refine ⟨own, token, now, enabled, rfl, read, exchanged, fun refused => ?_⟩
                have without : (own.accessToken http outside).1 = none := by rw [made, refused]; rfl
                rw [Sender.ring, without]
                rfl
          | webpush endpoint keys => exact ⟨none, rfl, nofun⟩
          | apns token topic environment => exact ⟨none, rfl, nofun⟩
      | webpush own => exact ⟨none, rfl, nofun⟩
      | apns own => exact ⟨none, rfl, nofun⟩
      | echo => exact ⟨none, rfl, nofun⟩

/-! ## What a run reports -/

/-- What the senders meet outside in each delivery. -/
structure PushServices (Byte : Type) where
  outside : Delivery → SendSurroundings Byte
  timely : Delivery → Bool

variable (crates http) in
/-- What was answered in time to the request which rings the device of a push. -/
def PushServices.answer (services : PushServices Byte) (settings : SenderSettings Byte)
    (push : Push) : Option HttpResponse :=
  settings.answer crates http (services.outside push.delivery) (services.timely push.delivery)
    push.registration push.request.payload

variable (crates http) in
/-- The pushes of a delivery are made by these senders. -/
def PushServices.Serves (services : PushServices Byte) (settings : SenderSettings Byte)
    (delivery : Delivery) : Prop :=
  delivery.outside.send =
    settings.push crates http (services.outside delivery) (services.timely delivery)

theorem PushServices.Serves.outcome {services : PushServices Byte} {settings : SenderSettings Byte}
    {push : Push} (serves : services.Serves crates http settings push.delivery)
    (production : settings.devEchoSender = false) :
    push.outcome = if push.dropped then none
      else some (push.registration.outcomeOf (services.answer crates http settings push)) := by
  rw [Push.outcome, serves, SenderSettings.push_eq production]
  rfl

/-- What the gateway reports of the pushes of a run.  At most one request rings a device.  A push is
counted once, by what the service has answered to that request, unless it is cut off, when it is not
counted.  A handle which goes without a sweep is one whose own token the service has disowned. -/
structure Reported {Guard : Type} [DecidableEq DocumentDigest]
    [ReplayGuard Guard String DocumentDigest Answer] (crates : Crates DocumentDigest)
    (http : HttpCrates Byte) (settings : SenderSettings Byte) (services : PushServices Byte)
    (start : Server Guard DocumentDigest) (actions : List ServerAction) : Prop where
  sends : (run (Server.step crates) start actions).app.sends = start.app.sends ++
    (events Server.push (Server.step crates) start actions).map Push.sent
  requests : ∀ push ∈ events Server.push (Server.step crates) start actions,
    settings.RingsOnce crates http (services.outside push.delivery) push.registration
      push.request.payload
  counted : ∀ outcome, (run (Server.step crates) start actions).app.metrics.count outcome =
    start.app.metrics.count outcome +
      (events Server.push (Server.step crates) start actions).countP fun push =>
        !push.dropped &&
          decide (push.registration.outcomeOf (services.answer crates http settings push) = outcome)
  retired : ∀ front back handle record, actions = front ++ back →
    (run (Server.step crates) start front).app.store.state.handles.lookup handle = some record →
    (run (Server.step crates) start actions).app.store.state.handles.lookup handle = none →
    ∃ middle action rest, back = middle ++ action :: rest ∧
      ((∃ ttlSecs now, action = .sweep ttlSecs now) ∨
        ∃ push response,
          (run (Server.step crates) start (front ++ middle)).push action = some push ∧
            push.dropped = false ∧ push.request.handle = handle ∧
            push.registration = record.registration ∧
            services.answer crates http settings push = some response ∧
            response.isSuccess = false ∧ record.registration.disownedBy response = true)

theorem PushRegistration.outcomeOf_permanentlyUnregistered {registration : PushRegistration}
    {answer : Option HttpResponse}
    (comes : registration.outcomeOf answer = .permanentlyUnregistered) :
    ∃ response, answer = some response ∧ response.isSuccess = false ∧
      registration.disownedBy response = true := by
  cases answer with
  | none => cases comes
  | some response =>
      rw [outcomeOf] at comes
      split at comes
      · cases comes
      · rename_i refused
        split at comes
        · rename_i disowned
          exact ⟨response, rfl, by simpa using refused, disowned⟩
        · cases comes

/-- What is reported of the pushes of any requests, in any order of their steps, is what the push
services have said. -/
theorem pushes_reported {Guard : Type} [DecidableEq DocumentDigest]
    [ReplayGuard Guard String DocumentDigest Answer] [LawfulReplayGuard Guard]
    {settings : SenderSettings Byte} (production : settings.devEchoSender = false)
    (services : PushServices Byte) (app : AppState Guard) {actions : List ServerAction}
    (served : ∀ delivery, ServerAction.receive delivery ∈ actions →
      services.Serves crates http settings delivery)
    (anew : Along (Server.step crates) Server.DrawsAnew (Server.opened app) actions) :
    Reported crates http settings services (Server.opened app) actions := by
  have counts := Server.counts_run crates (Server.opened app) actions
  have outcome : ∀ front action back push, actions = front ++ action :: back →
      (run (Server.step crates) (Server.opened app) front).push action = some push →
      push.outcome = if push.dropped then none
        else some (push.registration.outcomeOf (services.answer crates http settings push)) := by
    rintro front action back push rfl pushed
    obtain ⟨index, once, rfl, found⟩ := Server.push_eq_some pushed
    have received := Server.receive_of_mem_requests rfl (List.mem_of_getElem? found)
    exact (served push.delivery (List.mem_append_left _ received)).outcome production
  refine ⟨counts.sends, fun push _ => SenderSettings.ringsOnce production _ _ _,
    fun counted => ?_, ?_⟩
  · rw [counts.counted counted]
    refine congrArg _ (List.countP_congr fun push member => ?_)
    obtain ⟨front, action, back, split, pushed⟩ := exists_of_mem_events member
    rw [outcome front action back push split pushed]
    cases push.dropped <;> simp
  · rintro front back handle record rfl live gone
    obtain ⟨anew_front, anew_back⟩ := (along_append _ front back).mp anew
    rw [run_append] at gone
    have present : ¬(run (Server.step crates)
        (Server.opened app) front).app.store.state.handles.lookup handle = none := by
      rw [live]
      exact nofun
    obtain ⟨middle, action, rest, rfl, still, gone⟩ :=
      exists_turning_point (fun server : Server Guard DocumentDigest =>
        server.app.store.state.handles.lookup handle = none) present gone
    refine ⟨middle, action, rest, rfl, ?_⟩
    rw [run_concat, ← run_append] at gone
    rw [← run_append] at still
    obtain ⟨latest, live'⟩ := Option.ne_none_iff_exists'.mp still
    obtain swept | ⟨push, pushed, retires⟩ := Server.retires_of_gone live' gone
    · exact .inl swept
    · -- The handle has kept its registration, and the push was authorised for it.
      have registers : (run (Server.step crates) (Server.opened app) front).Registers handle
          record.registration := by
        refine ⟨(Server.tracked_run (Server.opened_tracked crates app) anew_front).live _ record
          live, fun other found' => ?_⟩
        cases live.symm.trans found'
        rfl
      have kept := Server.registers_run registers ((along_append _ middle _).mp anew_back).1
      rw [← run_append] at kept
      obtain ⟨index, once, rfl, found⟩ := Server.push_eq_some pushed
      have anew_middle := ((along_append _ (front ++ middle) _).mp
        (by rwa [← List.append_assoc] at anew)).1
      obtain ⟨_, _, _, _, _, rung⟩ := Server.pushes_permitted app anew_middle found rfl
      have same : push.registration = record.registration :=
        (rung.2 latest (retires.2.symm ▸ live')).symm.trans (kept.2 latest live')
      have comes := outcome (front ++ middle) _ rest push (by simp) pushed
      rw [retires.1] at comes
      split at comes
      · cases comes
      · rename_i known
        obtain ⟨response, answered, refused, disowned⟩ :=
          PushRegistration.outcomeOf_permanentlyUnregistered (Option.some.inj comes).symm
        exact .inr ⟨push, response, pushed, Bool.not_eq_true _ ▸ known, retires.2, same, answered,
          refused, same ▸ disowned⟩

private def fcmOnly : SenderSettings Value :=
  ⟨none, none, some ⟨"project", "", "", fun _ => none⟩, false⟩

/-- The service takes the first push, and knows the token no more at the second. -/
private def forgetfulService : PushServices Value where
  outside delivery :=
    { acceptingSurroundings with
      network := fun _ => some ⟨if delivery.doc.id = "first" then 200 else 404, none, none⟩ }
  timely _ := true

private def fcmWake (id : String) : Delivery :=
  let wake : Delivery :=
    ⟨smallSurroundings "did:web:trigger.example" 0 .delivered, none, smallBody, smallWake id⟩
  { wake with
    outside := { wake.outside with
      send := fcmOnly.push plainCrates plainHttp (forgetfulService.outside wake) true } }

/-- Both wakes are authorised before either is pushed. -/
private def lastWakes : List ServerAction :=
  [.receive (fcmWake "first"), .receive (fcmWake "second"), .advance 0, .advance 1, .advance 1,
    .advance 0, .advance 0, .advance 1]

theorem pushes_reported_last : Reported plainCrates plainHttp fcmOnly forgetfulService
    (Server.opened smallGateway) lastWakes := by
  refine pushes_reported rfl forgetfulService smallGateway (fun delivery received => ?_)
    (by decide +kernel)
  have wakes : delivery = fcmWake "first" ∨ delivery = fcmWake "second" := by
    simpa [lastWakes] using received
  obtain rfl | rfl := wakes
  · rfl
  · rfl

end

end PushGateway
