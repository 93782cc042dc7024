import PushGateway.Pipeline.Redelivery
import PushGateway.Pipeline.Transport

/-!
# The transport adapters

HTTPS, DIDComm and TSP each unpack what they carry, hand the document to the intake, and pack its
answer.  What a frame does to the gateway is what its document does, and its reply opens to the
answer.  HTTPS alone refuses a request unread, when its peer asks too often or its body is too
large.
-/

namespace PushGateway

open Execution

/-! ## Frames and replies -/

/-- What arrives on a transport, as it is handed to the adapter. -/
inductive Frame (Byte : Type) where
  /-- `POST /trust-tasks`. -/
  | https (body : List Byte)
  /-- A DIDComm message with its `from`. -/
  | didcomm (sender : Option String) (body : Value)
  /-- A TSP application message, from the VID which TSP has authenticated. -/
  | tsp (senderVid : String) (payload : List Byte)
  /-- A TSP control message, and whether it is a relationship invite. -/
  | tspControl (invite : Bool) (senderVid : String)

inductive Reply (Byte : Type) where
  | http (status : Nat) (body : List Byte)
  | didcomm (messageType : String) (body : Value)
  | tsp (payload : List Byte)

/-- `TRUST_TASK_ENVELOPE_TYPE`. -/
def trustTaskEnvelopeType : String := "https://trusttasks.org/binding/didcomm/0.1/envelope"

/-- `ENVELOPE_TYPE`. -/
def envelopeType : String := "https://trusttasks.org/binding/tsp/0.1/envelope"

/-- `MAX_REQUEST_BODY_BYTES`. -/
def maxRequestBodyBytes : Nat := 16 * 1024

/-- What the adapters use of other crates: JSON text, the documents in it, and the refusals of the
layers around the router. -/
structure AdapterCrates (Byte : Type) where
  /-- `serde_json::from_slice`. -/
  fromSlice : List Byte → Option Value
  /-- `serde_json::to_vec`. -/
  toVec : Value → List Byte
  /-- `serde_json::from_value::<TrustTask<Value>>`. -/
  fromValue : Value → Option TrustTask
  /-- The JSON value of an answer. -/
  toValue : Answer → Value
  /-- The body with which `GovernorLayer` has a peer wait for so many seconds. -/
  tooManyRequests : Nat → List Byte
  /-- The body with which `DefaultBodyLimit` refuses a request. -/
  tooLarge : List Byte

/-- The value reads back from its text. -/
def AdapterCrates.Carries {Byte : Type} (adapters : AdapterCrates Byte) (value : Value) : Prop :=
  adapters.fromSlice (adapters.toVec value) = some value

/-- What the adapter of one frame reads from outside. -/
structure FrameSurroundings where
  intake : Surroundings
  /-- How long the limiter of the HTTP listener has the peer wait, if at all. -/
  httpWait : Option Nat
  /-- `unix_millis()`. -/
  unixMillis : Option Nat
  /-- Whether `accept_relationship` succeeds. -/
  acceptsRelationship : Bool

/-- The state, whether it has a durable relationship store, and the stamps made on it: our VID,
theirs, and the time. -/
structure Gateway (Guard : Type) where
  app : AppState Guard
  tspRelationships : Bool
  touched : List (String × String × Nat)

variable {Byte Guard DocumentDigest : Type} [ReplayGuard Guard String DocumentDigest Answer]
  (crates : Crates DocumentDigest) (adapters : AdapterCrates Byte)

/-! ## The adapters -/

/-- `intake::receive`. -/
def receive (outside : Surroundings) (state : AppState Guard) (transportSender : Option String)
    (body : Value) : Option Value × AppState Guard :=
  match adapters.fromValue body with
  | none => (none, state)
  | some doc =>
      let (answer, state) := receiveDocument crates outside state transportSender body doc
      (some (adapters.toValue answer), state)

/-- `invalid_body`. -/
def invalidBody : Reply Byte :=
  .http 400 (adapters.toVec (.object [("error", .string "invalid_body"),
    ("message", .string "body is not a Trust Task document")]))

/-- `trust_tasks`. -/
def trustTasks (outside : FrameSurroundings) (gateway : Gateway Guard) (body : List Byte) :
    Reply Byte × Gateway Guard :=
  match adapters.fromSlice body with
  | none => (invalidBody adapters, gateway)
  | some raw =>
      match adapters.fromValue raw with
      | none => (invalidBody adapters, gateway)
      | some doc =>
          let (answer, app) := receiveDocument crates outside.intake gateway.app none raw doc
          (.http 200 (adapters.toVec (adapters.toValue answer)), { gateway with app := app })

/-- What the layers around the router answer to a request without reading it. -/
def shed (outside : FrameSurroundings) (body : List Byte) : Option (Reply Byte) :=
  match outside.httpWait with
  | some seconds => some (.http 429 (adapters.tooManyRequests seconds))
  | none =>
      if maxRequestBodyBytes < body.length then some (.http 413 adapters.tooLarge) else none

/-- `router`, behind the `GovernorLayer` of `main`. -/
def router (outside : FrameSurroundings) (gateway : Gateway Guard) (body : List Byte) :
    Reply Byte × Gateway Guard :=
  match shed adapters outside body with
  | some refusal => (refusal, gateway)
  | none => trustTasks crates adapters outside gateway body

/-- `handle_push`. -/
def handlePush (outside : FrameSurroundings) (gateway : Gateway Guard) (sender : Option String)
    (body : Value) : Option (Reply Byte) × Gateway Guard :=
  let (response, app) := receive crates adapters outside.intake gateway.app sender body
  (response.map fun response => .didcomm trustTaskEnvelopeType response,
    { gateway with app := app })

namespace Tsp

/-- The binding envelope; the members of a JSON map come in the order of their names. -/
def envelope (document : Value) : Value :=
  .object [("document", document), ("type", .string envelopeType)]

/-- `wrap_envelope`. -/
def wrapEnvelope (document : Value) : List Byte := adapters.toVec (envelope document)

/-- `touch_relationship`: nothing more follows from the stamp. -/
def touchRelationship (outside : FrameSurroundings) (gateway : Gateway Guard) (theirVid : String) :
    Gateway Guard :=
  match gateway.app.gatewayDid, outside.unixMillis with
  | some ourVid, some nowMs =>
      if gateway.tspRelationships then
        { gateway with touched := gateway.touched ++ [(ourVid, theirVid, nowMs)] }
      else gateway
  | _, _ => gateway

/-- The refusal of a document which came without the envelope. -/
def refuseBare (outside : FrameSurroundings) (doc : TrustTask) : Value :=
  adapters.toValue (malformed outside.intake doc
    ("a Trust Task over TSP must be carried in a `" ++ envelopeType ++ "` envelope"))

/-- `tsp::receive`. -/
def receive (outside : FrameSurroundings) (gateway : Gateway Guard) (senderVid : String)
    (payload : List Byte) : Option (Reply Byte) × Gateway Guard :=
  match adapters.fromSlice payload with
  | none => (none, gateway)
  | some value =>
      if value.getStr "type" ≠ some envelopeType then
        ((adapters.fromValue value).map fun doc =>
          .tsp (wrapEnvelope adapters (refuseBare adapters outside doc)), gateway)
      else
        match value.get? "document" with
        | none => (none, gateway)
        | some document =>
            let gateway := touchRelationship outside gateway senderVid
            let (response, app) := PushGateway.receive crates adapters outside.intake gateway.app
              (some senderVid) document
            (response.map fun response => .tsp (wrapEnvelope adapters response),
              { gateway with app := app })

/-- `handle_control`. -/
def handleControl (outside : FrameSurroundings) (gateway : Gateway Guard) (invite : Bool)
    (senderVid : String) : Gateway Guard :=
  if invite ∧ outside.acceptsRelationship then touchRelationship outside gateway senderVid
  else gateway

end Tsp

/-- What the gateway does with a frame. -/
def Gateway.handle (gateway : Gateway Guard) (arrival : FrameSurroundings × Frame Byte) :
    Option (Reply Byte) × Gateway Guard :=
  match arrival.2 with
  | .https body =>
      let (reply, gateway) := router crates adapters arrival.1 gateway body
      (some reply, gateway)
  | .didcomm sender body => handlePush crates adapters arrival.1 gateway sender body
  | .tsp senderVid payload => Tsp.receive crates adapters arrival.1 gateway senderVid payload
  | .tspControl invite senderVid => (none, Tsp.handleControl arrival.1 gateway invite senderVid)

/-! ## What a frame carries -/

/-- The document a TSP payload carries in its envelope. -/
def enveloped (payload : List Byte) : Option Value :=
  (adapters.fromSlice payload).bind fun value =>
    if value.getStr "type" = some envelopeType then value.get? "document" else none

/-- The document in a reply, as the peer reads it. -/
def Reply.opened : Reply Byte → Option Value
  | .http status body => if status = 200 then adapters.fromSlice body else none
  | .didcomm _ body => some body
  | .tsp payload => enveloped adapters payload

/-- The body which is read of a frame, with the sender whom the transport claims. -/
def Frame.body (outside : FrameSurroundings) : Frame Byte → Option (Option String × Value)
  | .https body =>
      if (shed adapters outside body).isNone then
        (adapters.fromSlice body).map fun raw => (none, raw)
      else none
  | .didcomm sender body => some (sender, body)
  | .tsp senderVid payload =>
      (enveloped adapters payload).map fun document => (some senderVid, document)
  | .tspControl _ _ => none

/-- The delivery which a frame comes to. -/
def Frame.delivery (arrival : FrameSurroundings × Frame Byte) : Option Delivery :=
  (arrival.2.body adapters arrival.1).bind fun (sender, body) =>
    (adapters.fromValue body).map fun doc => ⟨arrival.1.intake, sender, body, doc⟩

/-- The document of a TSP frame which carries it without the envelope. -/
def Frame.bare : Frame Byte → Option TrustTask
  | .tsp _ payload =>
      ((adapters.fromSlice payload).filter fun value =>
        value.getStr "type" ≠ some envelopeType).bind adapters.fromValue
  | .https _ | .didcomm _ _ | .tspControl _ _ => none

/-- The reply to a frame which comes to no delivery.  It does not depend on the gateway. -/
def Frame.refusal (arrival : FrameSurroundings × Frame Byte) : Option (Reply Byte) :=
  match arrival.2 with
  | .https body => some ((shed adapters arrival.1 body).getD (invalidBody adapters))
  | .tsp _ _ =>
      (arrival.2.bare adapters).map fun doc =>
        .tsp (Tsp.wrapEnvelope adapters (Tsp.refuseBare adapters arrival.1 doc))
  | .didcomm _ _ | .tspControl _ _ => none

/-- The reply which carries this answer over the transport of a frame. -/
def Frame.reply (answer : Value) : Frame Byte → Option (Reply Byte)
  | .https _ => some (.http 200 (adapters.toVec answer))
  | .didcomm _ _ => some (.didcomm trustTaskEnvelopeType answer)
  | .tsp _ _ => some (.tsp (Tsp.wrapEnvelope adapters answer))
  | .tspControl _ _ => none

/-- A delivery to the intake. -/
def AppState.deliver (state : AppState Guard) (delivery : Delivery) : Answer × AppState Guard :=
  receiveDocument crates delivery.outside state delivery.transportSender delivery.body delivery.doc

variable {crates adapters}

theorem Tsp.enveloped_wrapEnvelope {document : Value}
    (carries : adapters.Carries (envelope document)) :
    enveloped adapters (wrapEnvelope adapters document) = some document := by
  rw [enveloped, wrapEnvelope, carries]
  simp [envelope, Value.getStr, Value.get?, Value.asStr, List.lookup_cons]

@[simp] theorem Tsp.touchRelationship_app (outside : FrameSurroundings) (gateway : Gateway Guard)
    (theirVid : String) : (touchRelationship outside gateway theirVid).app = gateway.app := by
  simp only [touchRelationship]
  split
  · split
    · rfl
    · rfl
  · rfl

/-! ## Frames one by one -/

variable (crates adapters) in
/-- What is to be done with a frame: its document is delivered, and the reply carries the answer.
What comes to no delivery is refused as it stands, if it is answered at all. -/
def AppState.attend (state : AppState Guard) (arrival : FrameSurroundings × Frame Byte) :
    Option (Reply Byte) × AppState Guard :=
  match Frame.delivery adapters arrival with
  | some delivery =>
      let (answer, state) := state.deliver crates delivery
      (arrival.2.reply adapters (adapters.toValue answer), state)
  | none => (Frame.refusal adapters arrival, state)

/-- The document of a body is delivered, if it is one. -/
theorem receive_eq (outside : Surroundings) (state : AppState Guard) (sender : Option String)
    (body : Value) :
    receive crates adapters outside state sender body =
      match (adapters.fromValue body).map (Delivery.mk outside sender body) with
      | none => (none, state)
      | some delivery =>
          (some (adapters.toValue (state.deliver crates delivery).1),
            (state.deliver crates delivery).2) := by
  rw [receive]
  cases adapters.fromValue body with
  | none => rfl
  | some doc => rfl

/-- The gateway is in this state. -/
def Gateway.Is (gateway : Gateway Guard) (state : AppState Guard) : Prop := gateway.app = state

variable (crates adapters) in
/-- The adapter of a frame does what is to be done with it. -/
theorem Gateway.handle_attends (gateway : Gateway Guard)
    (arrival : FrameSurroundings × Frame Byte) :
    (gateway.handle crates adapters arrival).1 =
        (gateway.app.attend crates adapters arrival).1 ∧
      (gateway.handle crates adapters arrival).2.Is
        (gateway.app.attend crates adapters arrival).2 := by
  rw [Is]
  obtain ⟨outside, frame⟩ := arrival
  cases frame with
  | https body =>
      simp only [handle, router, trustTasks, AppState.attend, Frame.delivery, Frame.body,
        Frame.refusal]
      cases shed adapters outside body with
      | some refusal => exact ⟨rfl, rfl⟩
      | none =>
          cases adapters.fromSlice body with
          | none => exact ⟨rfl, rfl⟩
          | some raw =>
              simp only [Option.isNone_none, if_true, Option.map_some, Option.bind_some]
              cases adapters.fromValue raw with
              | none => exact ⟨rfl, rfl⟩
              | some doc => exact ⟨rfl, rfl⟩
  | didcomm sender body =>
      simp only [handle, handlePush, receive_eq, AppState.attend, Frame.delivery, Frame.body,
        Frame.refusal, Option.bind_some]
      cases adapters.fromValue body with
      | none => exact ⟨rfl, rfl⟩
      | some doc => exact ⟨rfl, rfl⟩
  | tsp senderVid payload =>
      simp only [handle, Tsp.receive, receive_eq, AppState.attend, Frame.delivery, Frame.body,
        Frame.refusal, Frame.bare, enveloped, Tsp.touchRelationship_app]
      cases adapters.fromSlice payload with
      | none => exact ⟨rfl, rfl⟩
      | some value =>
          by_cases wrapped : value.getStr "type" = some envelopeType
          · simp only [wrapped, ne_eq, not_true_eq_false, if_false, if_true, Option.bind_some,
              Option.filter_some, decide_false, Bool.false_eq_true, Option.bind_none,
              Option.map_none]
            cases value.get? "document" with
            | none => exact ⟨rfl, rfl⟩
            | some document =>
                simp only [Option.map_some, Option.bind_some]
                cases adapters.fromValue document with
                | none => exact ⟨rfl, rfl⟩
                | some doc => exact ⟨rfl, rfl⟩
          · simp only [wrapped, ne_eq, not_false_eq_true, if_false, if_true, Option.bind_some,
              Option.filter_some, decide_true, Option.map_none, Option.bind_none]
            exact ⟨trivial, trivial⟩
  | tspControl invite senderVid =>
      simp only [handle, Tsp.handleControl, AppState.attend, Frame.delivery, Frame.body,
        Frame.refusal]
      refine ⟨rfl, ?_⟩
      split
      · exact Tsp.touchRelationship_app outside gateway senderVid
      · rfl

/-! ## Replies one by one -/

variable (adapters) in
/-- The peer reads this answer, or none, in what it is sent. -/
def Opens (reply : Option (Reply Byte)) (answer : Option Value) : Prop :=
  reply.bind (Reply.opened adapters) = answer

/-- What the intake answers reads back from its text, also in the envelope. -/
structure AdapterCrates.Lossless (adapters : AdapterCrates Byte) : Prop where
  answer : ∀ answer, adapters.Carries (adapters.toValue answer)
  envelope : ∀ answer, adapters.Carries (Tsp.envelope (adapters.toValue answer))

/-- The reply to a delivery opens to the answer. -/
theorem opens_reply (lossless : adapters.Lossless) {arrival : FrameSurroundings × Frame Byte}
    {delivery : Delivery} (delivers : Frame.delivery adapters arrival = some delivery)
    (answer : Answer) :
    Opens adapters (arrival.2.reply adapters (adapters.toValue answer))
      (some (adapters.toValue answer)) := by
  obtain ⟨outside, frame⟩ := arrival
  cases frame with
  | https body => exact lossless.answer answer
  | didcomm sender body => rfl
  | tsp senderVid payload => exact Tsp.enveloped_wrapEnvelope (lossless.envelope answer)
  | tspControl invite senderVid => cases delivers

/-- A refusal opens to nothing, but for that of a document which came without its envelope. -/
theorem opens_refusal (lossless : adapters.Lossless) (arrival : FrameSurroundings × Frame Byte) :
    Opens adapters (Frame.refusal adapters arrival)
      ((arrival.2.bare adapters).map (Tsp.refuseBare adapters arrival.1)) := by
  obtain ⟨outside, frame⟩ := arrival
  cases frame with
  | https body =>
      simp only [Opens, Frame.refusal, shed, invalidBody]
      cases outside.httpWait with
      | some seconds => rfl
      | none =>
          dsimp only
          split
          · rfl
          · rfl
  | didcomm sender body => rfl
  | tsp senderVid payload =>
      simp only [Opens, Frame.refusal]
      cases Frame.bare adapters (.tsp senderVid payload) with
      | none => rfl
      | some doc => exact Tsp.enveloped_wrapEnvelope (lossless.envelope _)
  | tspControl invite senderVid => rfl

/-! ## Runs of frames -/

/-- The state which frames leave is the one which their documents leave. -/
theorem attend_run (state : AppState Guard) (arrivals : List (FrameSurroundings × Frame Byte)) :
    run (next (AppState.attend crates adapters)) state arrivals =
      run (next (AppState.deliver crates)) state
        (arrivals.filterMap (Frame.delivery adapters)) := by
  induction arrivals generalizing state with
  | nil => rfl
  | cons arrival arrivals induction =>
      rw [run_cons, induction, next, AppState.attend, List.filterMap_cons]
      cases Frame.delivery adapters arrival with
      | none => rfl
      | some delivery => rfl

/-- Whatever arrives on the transports, in whatever order, the gateway is left as by the documents
delivered to it one after another.  Each reply is the one which carries the answer to its document,
to which it opens, or else the refusal of the frame, which says nothing of the gateway and only
opens to something if the frame is a document over TSP without its envelope. -/
theorem frames_deliver (lossless : adapters.Lossless) (gateway : Gateway Guard)
    (arrivals : List (FrameSurroundings × Frame Byte)) :
    (run (next (Gateway.handle crates adapters)) gateway arrivals).app =
        run (next (AppState.deliver crates)) gateway.app
          (arrivals.filterMap (Frame.delivery adapters)) ∧
      outputs (Gateway.handle crates adapters) gateway arrivals =
        outputs (AppState.attend crates adapters) gateway.app arrivals ∧
      ∀ arrival ∈ arrivals,
        (∀ delivery answer, Frame.delivery adapters arrival = some delivery →
          Opens adapters (arrival.2.reply adapters (adapters.toValue answer))
            (some (adapters.toValue answer))) ∧
        Opens adapters (Frame.refusal adapters arrival)
          ((arrival.2.bare adapters).map (Tsp.refuseBare adapters arrival.1)) := by
  have attends : ∀ (gateway : Gateway Guard) (state : AppState Guard) arrival, gateway.Is state →
      True → (gateway.handle crates adapters arrival).1 =
          (state.attend crates adapters arrival).1 ∧
        (next (Gateway.handle crates adapters) gateway arrival).Is
          (next (AppState.attend crates adapters) state arrival) := by
    rintro gateway _ arrival rfl _
    exact gateway.handle_attends crates adapters arrival
  obtain ⟨replies, after⟩ :=
    simulation attends rfl (along_of_forall_mem gateway fun _ _ => trivial)
  exact ⟨Eq.trans after (attend_run gateway.app arrivals), replies, fun arrival _ =>
    ⟨fun _ answer delivers => opens_reply lossless delivers answer, opens_refusal lossless arrival⟩⟩

/-- JSON text is the value itself, and every body that of one wake. -/
private def plainAdapters : AdapterCrates Value where
  fromSlice
    | [value] => some value
    | _ => none
  toVec value := [value]
  fromValue _ := some (smallWake "wake")
  toValue answer := .bool answer.isError
  tooManyRequests seconds := [.string "Too Many Requests!", .number (.int seconds)]
  tooLarge := [.string "length limit exceeded"]

private theorem plainAdapters_lossless : plainAdapters.Lossless := ⟨fun _ => rfl, fun _ => rfl⟩

private def wakeFrame : FrameSurroundings :=
  ⟨smallSurroundings "did:web:trigger.example" 0 .delivered, none, some 7, true⟩

/-- A wake over TSP, one without its envelope, and three requests over HTTPS: one too many, one too
large, and one which is no JSON. -/
private def fiveFrames : List (FrameSurroundings × Frame Value) :=
  [(wakeFrame, .tsp "did:web:trigger.example#key" (Tsp.wrapEnvelope plainAdapters smallBody)),
    (wakeFrame, .tsp "did:web:trigger.example#key" [smallBody]),
    ({ wakeFrame with httpWait := some 3 }, .https [smallBody]),
    (wakeFrame, .https (List.replicate (maxRequestBodyBytes + 1) smallBody)),
    (wakeFrame, .https [])]

theorem frames_deliver_five :
    (run (next (Gateway.handle plainCrates plainAdapters)) ⟨smallGateway, true, []⟩
        fiveFrames).app =
      run (next (AppState.deliver plainCrates)) smallGateway
        (fiveFrames.filterMap (Frame.delivery plainAdapters)) ∧
    outputs (Gateway.handle plainCrates plainAdapters) ⟨smallGateway, true, []⟩ fiveFrames =
      outputs (AppState.attend plainCrates plainAdapters) smallGateway fiveFrames ∧
    ∀ arrival ∈ fiveFrames,
      (∀ delivery answer, Frame.delivery plainAdapters arrival = some delivery →
        Opens plainAdapters (arrival.2.reply plainAdapters (plainAdapters.toValue answer))
          (some (plainAdapters.toValue answer))) ∧
      Opens plainAdapters (Frame.refusal plainAdapters arrival)
        ((arrival.2.bare plainAdapters).map (Tsp.refuseBare plainAdapters arrival.1)) :=
  frames_deliver plainAdapters_lossless ⟨smallGateway, true, []⟩ fiveFrames

/-- The wake over TSP is pushed, and its sender is stamped as active. -/
example :
    let gateway := (Gateway.handle plainCrates plainAdapters ⟨smallGateway, true, []⟩
      (wakeFrame, .tsp "did:web:trigger.example#key"
        (Tsp.wrapEnvelope plainAdapters smallBody))).2
    gateway.app.sends = [⟨.fcm "token", ⟨1, none, none, none⟩⟩] ∧
      gateway.touched = [("did:web:gateway.example", "did:web:trigger.example#key", 7)] := by
  decide +kernel

/-! ## One document on any transport -/

/-- How a document is sent. -/
inductive Carriage where
  | https
  | didcomm (sender : Option String)
  | tsp (senderVid : String)

/-- The claim of the transport about its sender. -/
def Carriage.sender : Carriage → Option String
  | .https => none
  | .didcomm sender => sender
  | .tsp senderVid => some senderVid

variable (adapters) in
def Carriage.frame (body : Value) : Carriage → Frame Byte
  | .https => .https (adapters.toVec body)
  | .didcomm sender => .didcomm sender body
  | .tsp senderVid => .tsp senderVid (Tsp.wrapEnvelope adapters body)

/-- A body as it is sent. -/
structure Letter where
  carriage : Carriage
  outside : FrameSurroundings
  body : Value

namespace Letter

/-- No other sender than its proven issuer is claimed for the letter. -/
def Honest (crates : Crates DocumentDigest) (letter : Letter) : Prop :=
  ∀ issuer, letter.outside.intake.verifyIssuer letter.body = .ok issuer →
    ∀ sender ∈ letter.carriage.sender, crates.sameReference (fromDid sender) issuer = true

/-- The text of the letter reads back, and over HTTPS it is not too large, and not sent too soon. -/
def Arrives (adapters : AdapterCrates Byte) (letter : Letter) : Prop :=
  match letter.carriage with
  | .https => shed adapters letter.outside (adapters.toVec letter.body) = none ∧
      adapters.Carries letter.body
  | .didcomm _ => True
  | .tsp _ => adapters.Carries (Tsp.envelope letter.body)

/-- The letter as it arrives. -/
def arrival (adapters : AdapterCrates Byte) (letter : Letter) : FrameSurroundings × Frame Byte :=
  (letter.outside, letter.carriage.frame adapters letter.body)

end Letter

/-- The same body, handed to the intake without a transport. -/
def AppState.read (crates : Crates DocumentDigest) (adapters : AdapterCrates Byte)
    (state : AppState Guard) (letter : Letter) : Option Value × AppState Guard :=
  receive crates adapters letter.outside.intake state none letter.body

theorem Letter.body_frame {letter : Letter} (arrives : letter.Arrives adapters) :
    (letter.carriage.frame adapters letter.body).body adapters letter.outside =
      some (letter.carriage.sender, letter.body) := by
  obtain ⟨carriage, outside, body⟩ := letter
  cases carriage with
  | https =>
      obtain ⟨passed, carries⟩ := arrives
      rw [AdapterCrates.Carries] at carries
      simp [Carriage.frame, Frame.body, passed, carries, Carriage.sender]
  | didcomm sender => rfl
  | tsp senderVid =>
      simp [Carriage.frame, Frame.body, Tsp.enveloped_wrapEnvelope arrives, Carriage.sender]

theorem Letter.bare_frame {letter : Letter} (arrives : letter.Arrives adapters) :
    (letter.carriage.frame adapters letter.body).bare adapters = none := by
  obtain ⟨carriage, outside, body⟩ := letter
  cases carriage with
  | https => rfl
  | didcomm sender => rfl
  | tsp senderVid =>
      have carries : adapters.fromSlice (adapters.toVec (Tsp.envelope body)) = _ := arrives
      rw [Carriage.frame, Frame.bare, Tsp.wrapEnvelope, carries]
      simp [Tsp.envelope, Value.getStr, Value.get?, Value.asStr, List.lookup_cons]

/-- The sender of a letter changes nothing. -/
theorem Letter.receiveDocument_eq {letter : Letter} (honest : letter.Honest crates)
    (state : AppState Guard) (doc : TrustTask) :
    receiveDocument crates letter.outside.intake state letter.carriage.sender letter.body doc =
      receiveDocument crates letter.outside.intake state none letter.body doc := by
  cases carried : letter.carriage.sender with
  | none => rfl
  | some sender =>
      obtain same | ⟨issuer, proven, other, _⟩ :=
        authenticate_transport crates letter.outside.intake state sender letter.body
      · rw [receiveDocument, receiveDocument, same]
      · have own := honest issuer (authenticate_proven proven).proven sender carried
        rw [own] at other
        cases other

/-- The letter is read, and answered over its own transport. -/
theorem Letter.attend_reads (lossless : adapters.Lossless) {letter : Letter}
    (honest : letter.Honest crates) (arrives : letter.Arrives adapters) (state : AppState Guard) :
    Opens adapters (state.attend crates adapters (letter.arrival adapters)).1
        (state.read crates adapters letter).1 ∧
      (state.attend crates adapters (letter.arrival adapters)).2 =
        (state.read crates adapters letter).2 := by
  have delivery : Frame.delivery adapters (letter.arrival adapters) =
      (adapters.fromValue letter.body).map
        (Delivery.mk letter.outside.intake letter.carriage.sender letter.body) := by
    rw [Frame.delivery, arrival, body_frame arrives, Option.bind_some]
  have unread := opens_refusal lossless (letter.arrival adapters)
  rw [arrival, bare_frame arrives, Option.map_none] at unread
  rw [AppState.attend, AppState.read, receive_eq]
  cases decoded : adapters.fromValue letter.body with
  | none =>
      rw [delivery, decoded]
      exact ⟨unread, rfl⟩
  | some doc =>
      rw [decoded, Option.map_some] at delivery
      simp only [delivery, Option.map_some, AppState.deliver, receiveDocument_eq honest state doc]
      exact ⟨opens_reply lossless delivery _, trivial⟩

/-- It does not matter which transports carry a run of documents: each is answered, and the gateway
is left, as if they had been handed to the intake without any. -/
theorem transports_agree (lossless : adapters.Lossless) (gateway : Gateway Guard)
    {letters : List Letter}
    (sent : ∀ letter ∈ letters, letter.Honest crates ∧ letter.Arrives adapters) :
    List.Forall₂ (Opens adapters)
        (outputs (Gateway.handle crates adapters) gateway (letters.map (Letter.arrival adapters)))
        (outputs (AppState.read crates adapters) gateway.app letters) ∧
      (run (next (Gateway.handle crates adapters)) gateway
          (letters.map (Letter.arrival adapters))).app =
        run (next (AppState.read crates adapters)) gateway.app letters := by
  have reads : ∀ (gateway : Gateway Guard) (state : AppState Guard), ∀ letter ∈ letters,
      gateway.Is state →
      Opens adapters (gateway.handle crates adapters (letter.arrival adapters)).1
          (state.read crates adapters letter).1 ∧
        (next (fun gateway letter => Gateway.handle crates adapters gateway
          (Letter.arrival adapters letter)) gateway letter).Is
            (next (AppState.read crates adapters) state letter) := by
    rintro gateway _ letter member rfl
    obtain ⟨honest, arrives⟩ := sent letter member
    obtain ⟨same, after⟩ := gateway.handle_attends crates adapters (letter.arrival adapters)
    obtain ⟨opens, left⟩ := letter.attend_reads lossless honest arrives gateway.app
    exact ⟨same ▸ opens, after.trans left⟩
  rw [outputs_map, run, List.foldl_map]
  exact simulation_forall₂ reads rfl

/-- A wake, sent once on each transport. -/
private def threeLetters : List Letter :=
  [⟨.https, wakeFrame, smallBody⟩,
    ⟨.didcomm (some "did:web:trigger.example"), wakeFrame, smallBody⟩,
    ⟨.tsp "did:web:trigger.example#key", wakeFrame, smallBody⟩]

theorem transports_agree_three :
    List.Forall₂ (Opens plainAdapters)
        (outputs (Gateway.handle plainCrates plainAdapters) ⟨smallGateway, true, []⟩
          (threeLetters.map (Letter.arrival plainAdapters)))
        (outputs (AppState.read plainCrates plainAdapters) smallGateway threeLetters) ∧
      (run (next (Gateway.handle plainCrates plainAdapters)) ⟨smallGateway, true, []⟩
          (threeLetters.map (Letter.arrival plainAdapters))).app =
        run (next (AppState.read plainCrates plainAdapters)) smallGateway threeLetters := by
  refine transports_agree plainAdapters_lossless ⟨smallGateway, true, []⟩ ?_
  simp only [threeLetters, List.forall_mem_cons]
  refine ⟨⟨?_, rfl, rfl⟩, ⟨?_, trivial⟩, ⟨?_, rfl⟩, by simp⟩
  · rintro _ ⟨⟩ _ ⟨⟩
  · rintro _ ⟨⟩ _ ⟨⟩
    decide
  · rintro _ ⟨⟩ _ ⟨⟩
    decide

end PushGateway
