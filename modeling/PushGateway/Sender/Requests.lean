import PushGateway.Api
import PushGateway.Egress.Configuration
import PushGateway.Sender.Tokens

/-!
# The platform senders

A send comes to an outcome, and to the requests made on the way; an FCM send may first exchange an
assertion for its access token.  What the network answers to a request comes from outside, and so do
the provider token of the APNs sender and what the FCM sender has cached.
-/

namespace PushGateway

/-! ## Requests -/

inductive RequestBody (Byte : Type) where
  | json (value : Value)
  | bytes (content : List Byte)
  | form (text : String)

/-- A `POST` request, with the headers set here. -/
structure HttpRequest (Byte : Type) where
  url : String
  headers : List (String × String)
  body : RequestBody Byte

/-- `http::Uri`, with the text it is printed as. -/
structure Uri where
  scheme : Option String
  authority : Option String
  text : String
  deriving DecidableEq, Repr

/-- The encodings of the senders, and what else they use of other crates. -/
structure HttpCrates (Byte : Type) extends SenderCrates Byte where
  /-- `Url::as_str`. -/
  urlText : Url → String
  /-- `str::parse::<Uri>`. -/
  parseUri : String → Option Uri
  /-- `WebPushBuilder::build`: the body, encrypted to the subscription's keys. -/
  encrypt : Uri → WebPushKeys → List Byte → Option (List Byte)
  /-- `HeaderValue::from_str` succeeds. -/
  isHeaderValue : String → Bool

/-- `Url::origin`; `none` where it is opaque, or of a scheme no endpoint has. -/
def Url.origin (url : Url) : Option (String × Host × Nat) :=
  match url.scheme, url.host with
  | "https", some host => some ("https", host, url.port.getD 443)
  | "http", some host => some ("http", host, url.port.getD 80)
  | _, _ => none

/-- An outcome, and the requests which were made. -/
abbrev Sending (Byte : Type) := SendOutcome × List (HttpRequest Byte)

variable {Byte : Type}

/-- Nothing is sent. -/
def Sending.unsent : Sending Byte := (.transientFailure, [])

/-- Make a request, if there is one to make, and read its answer. -/
def Sending.post (outcome : Option HttpResponse → SendOutcome)
    (network : HttpRequest Byte → Option HttpResponse) : Option (HttpRequest Byte) → Sending Byte
  | none => .unsent
  | some request => (outcome (network request), [request])

/-- What was sent before comes first. -/
def Sending.after (requests : List (HttpRequest Byte)) (sending : Sending Byte) : Sending Byte :=
  (sending.1, requests ++ sending.2)

/-- What a send meets outside: the clock, the provider token of the APNs sender, what the cache of
the FCM sender holds when the send gets its lock, and the network. -/
structure SendSurroundings (Byte : Type) where
  clock : Option Nat
  providerToken : Option String
  cachedToken : Option CachedAccessToken
  network : HttpRequest Byte → Option HttpResponse

/-! ## The payload -/

def Urgency.name : Urgency → String
  | .interactive => "interactive"
  | .background => "background"

/-- A member which is left out when it is absent. -/
def optionalMember {α : Type} (name : String) (encode : α → Value) (value : Option α) :
    List (String × Value) :=
  (value.map fun value => (name, encode value)).toList

/-- The members of a payload in the order of its fields. -/
def Value.encodeWakePayload (payload : WakePayload) : Value :=
  .object (("v", .number (.int payload.v)) :: (optionalMember "mediator" .string payload.mediator ++
    optionalMember "count" (fun count : Nat => .number (.int count)) payload.count ++
    optionalMember "urgency" (fun urgency : Urgency => .string urgency.name) payload.urgency))

/-! ## Web Push -/

/-- `VAPID_TOKEN_TTL_SECS`. -/
def vapidTokenTtlSecs : Nat := 12 * 60 * 60

/-- `WebPushSender`. -/
structure WebPushSender (Byte : Type) where
  sign : String → List Byte
  vapidPublic : String
  subject : String
  egress : EgressPolicy

section

variable {DocumentDigest : Type} (crates : Crates DocumentDigest) (http : HttpCrates Byte)

namespace WebPushSender

/-- `vapid_authorization`. -/
def vapidAuthorization (sender : WebPushSender Byte) (clock : Option Nat) (endpoint : Uri) :
    Option String := do
  let aud := (← endpoint.scheme) ++ "://" ++ (← endpoint.authority)
  let exp := (← clock) + vapidTokenTtlSecs
  let jwt := http.jwt sender.sign (http.literal "\x7b\"typ\":\"JWT\",\"alg\":\"ES256\"\x7d")
    (http.toVec (.object [("aud", .string aud), ("exp", .number (.int exp)),
      ("sub", .string sender.subject)]))
  return "vapid t=" ++ jwt ++ ", k=" ++ sender.vapidPublic

/-- The request to an endpoint, unless something about it is refused. -/
def request (sender : WebPushSender Byte) (clock : Option Nat) (endpoint : String)
    (keys : WebPushKeys) (payload : WakePayload) : Option (HttpRequest Byte) := do
  let url ← (sender.egress.validateWebpushEndpoint crates endpoint).toOption
  let uri ← http.parseUri (http.urlText url)
  (decodeWebpushKeys crates keys).toOption
  let body ← http.encrypt uri keys (http.toVec (Value.encodeWakePayload payload))
  let vapid ← (sender.vapidAuthorization http clock uri).filter http.isHeaderValue
  -- The conversion into a request reads the URI again.
  let dialled ← crates.parseUrl uri.text
  if dialled.origin ≠ url.origin ∨
      (sender.egress.validateWebpushEndpoint crates (http.urlText dialled)).toOption.isNone then
    none
  else return ⟨http.urlText dialled, [("authorization", vapid)], .bytes body⟩

def outcome : Option HttpResponse → SendOutcome
  | some response =>
      if response.isSuccess then .delivered
      else if response.status = 404 ∨ response.status = 410 then .permanentlyUnregistered
      else .transientFailure
  | none => .transientFailure

end WebPushSender

/-! ## APNs -/

/-- `ApnsError`: a missing reason is empty. -/
def Value.decodeApnsError (value : Value) : Option String := do
  let [reason] ← value.fields ["reason"] | none
  defaulted "" decodeString reason

namespace ApnsSender

def host : Option ApnsEnvironment → String
  | some .sandbox => "api.sandbox.push.apple.com"
  | some .production | none => "api.push.apple.com"

/-- The members of a JSON map come in the order of their names. -/
def body (payload : WakePayload) : Value :=
  .object (("aps", .object [("content-available", .number (.int 1))]) ::
    (optionalMember "count" (fun count : Nat => .number (.int count)) payload.count ++
      optionalMember "mediator" .string payload.mediator ++
      optionalMember "urgency" (fun urgency : Urgency => .string urgency.name) payload.urgency ++
      [("v", .number (.int payload.v))]))

/-- The request for a device token, with the provider token. -/
def request (providerToken : Option String) (token topic : String)
    (environment : Option ApnsEnvironment) (payload : WakePayload) : Option (HttpRequest Byte) :=
  if ¬isValidApnsToken token then none
  else providerToken.map fun jwt =>
    { url := "https://" ++ host environment ++ "/3/device/" ++ token
      headers := [("authorization", "bearer " ++ jwt), ("apns-topic", topic),
        ("apns-push-type", "background"), ("apns-priority", "5")]
      body := .json (body payload) }

/-- The reasons which name a dead or mismatched token. -/
def deadReasons : List String := ["Unregistered", "BadDeviceToken", "DeviceTokenNotForTopic"]

def outcome : Option HttpResponse → SendOutcome
  | some response =>
      if response.isSuccess then .delivered
      else if response.status = 410 ∨
          ((response.json.bind Value.decodeApnsError).getD "") ∈ deadReasons then
        .permanentlyUnregistered
      else .transientFailure
  | none => .transientFailure

end ApnsSender

/-! ## FCM -/

/-- `FcmSender`; signing may fail. -/
structure FcmSender (Byte : Type) where
  projectId : String
  clientEmail : String
  tokenUri : String
  sign : String → Option (List Byte)

/-- `FCM_SCOPE`. -/
def fcmScope : String := "https://www.googleapis.com/auth/firebase.messaging"

namespace FcmSender

/-- The claims of an assertion, in the order of their names. -/
def claims (sender : FcmSender Byte) (now : Nat) : Value :=
  .object [("aud", .string sender.tokenUri), ("exp", .number (.int ↑(now + 3600))),
    ("iat", .number (.int now)), ("iss", .string sender.clientEmail),
    ("scope", .string fcmScope)]

/-- `assertion_jwt`. -/
def assertionJwt (crates : SenderCrates Byte) (sender : FcmSender Byte) (now : Nat) :
    Option String :=
  let header := crates.b64url (crates.literal "\x7b\"alg\":\"RS256\",\"typ\":\"JWT\"\x7d")
  let claims := crates.b64url (crates.toVec (sender.claims now))
  let signingInput := header ++ "." ++ claims
  (sender.sign signingInput).map fun sig => signingInput ++ "." ++ crates.b64url sig

/-- The request `access_token` makes for a token. -/
def exchange (crates : SenderCrates Byte) (sender : FcmSender Byte) (now : Nat) :
    Option (HttpRequest Byte) :=
  (sender.assertionJwt crates now).map fun assertion =>
    { url := sender.tokenUri
      headers := [("content-type", "application/x-www-form-urlencoded")]
      body := .form
        ("grant_type=urn%3Aietf%3Aparams%3Aoauth%3Agrant-type%3Ajwt-bearer&assertion=" ++
          assertion) }

/-- `access_token`, with the request it makes if nothing cached is fresh. -/
def accessToken (sender : FcmSender Byte) (outside : SendSurroundings Byte) :
    Option String × List (HttpRequest Byte) :=
  match outside.clock with
  | none => (none, [])
  | some now =>
      match PushGateway.accessToken.reusable now outside.cachedToken with
      | some cached => (some cached.token, [])
      | none =>
          match sender.exchange http.toSenderCrates now with
          | none => (none, [])
          | some request =>
              ((PushGateway.accessToken.accept now (outside.network request)).map
                CachedAccessToken.token, [request])

end FcmSender

/-- `contains`. -/
def containsText (text part : String) : Bool :=
  text.toList.tails.any fun rest => part.toList.isPrefixOf rest

namespace FcmSender

/-- The strings of a payload, in the order of their names. -/
def data (payload : WakePayload) : Value :=
  .object (optionalMember "count" (fun count : Nat => .string (toString count)) payload.count ++
    optionalMember "mediator" .string payload.mediator ++
    optionalMember "urgency" (fun urgency : Urgency => .string urgency.name) payload.urgency ++
    [("v", .string (toString payload.v))])

def request (sender : FcmSender Byte) (accessToken : Option String) (token : String)
    (payload : WakePayload) : Option (HttpRequest Byte) :=
  accessToken.map fun access =>
    { url := "https://fcm.googleapis.com/v1/projects/" ++ sender.projectId ++ "/messages:send"
      headers := [("authorization", "Bearer " ++ access)]
      body := .json (.object [("message", .object [
        ("android", .object [("priority", .string "high")]), ("data", data payload),
        ("token", .string token)])]) }

def outcome : Option HttpResponse → SendOutcome
  | some response =>
      if response.isSuccess then .delivered
      else
        let body := response.text.getD ""
        if response.status = 404 ∨ containsText body "UNREGISTERED" ∨
            containsText body "registration-token-not-registered" then
          .permanentlyUnregistered
        else .transientFailure
  | none => .transientFailure

end FcmSender

end

/-! ## The senders of a gateway -/

/-- The senders in this repository. -/
inductive Sender (Byte : Type) where
  | webpush (sender : WebPushSender Byte)
  | apns (sender : ApnsSender Byte)
  | fcm (sender : FcmSender Byte)
  /-- `EchoSender`, for development. -/
  | echo

namespace Sender

def handles : Sender Byte → PushRegistration → Bool
  | .webpush _, .webpush _ _ => true
  | .apns _, .apns _ _ _ => true
  | .fcm _, .fcm _ => true
  | .echo, _ => true
  | _, _ => false

/-- The sender as the dispatch core knows it. -/
def pushSender (sender : Sender Byte) : PushSender := ⟨sender.handles⟩

variable {DocumentDigest : Type} (crates : Crates DocumentDigest) (http : HttpCrates Byte)
  (outside : SendSurroundings Byte)

/-- `send`. -/
def send (sender : Sender Byte) (registration : PushRegistration) (payload : WakePayload) :
    Sending Byte :=
  match sender, registration with
  | .webpush sender, .webpush endpoint keys =>
      .post WebPushSender.outcome outside.network
        (sender.request crates http outside.clock endpoint keys payload)
  | .apns _, .apns token topic environment =>
      .post ApnsSender.outcome outside.network
        (ApnsSender.request outside.providerToken token topic environment payload)
  | .fcm sender, .fcm token =>
      let (access, exchanged) := sender.accessToken http outside
      (Sending.post FcmSender.outcome outside.network
        (sender.request access token payload)).after exchanged
  | .echo, _ => (.delivered, [])
  | _, _ => .unsent

end Sender

/-- The senders which the configuration enables, and the development flag. -/
structure SenderSettings (Byte : Type) where
  vapid : Option (WebPushSender Byte)
  apns : Option (ApnsSender Byte)
  fcm : Option (FcmSender Byte)
  devEchoSender : Bool

/-- The senders as `main` lists them. -/
def SenderSettings.senders (settings : SenderSettings Byte) : List (Sender Byte) :=
  (settings.vapid.map Sender.webpush).toList ++ (settings.apns.map Sender.apns).toList ++
    (settings.fcm.map Sender.fcm).toList ++ if settings.devEchoSender then [.echo] else []

/-! ## What a send makes -/

theorem Sending.mem_post_iff {outcome : Option HttpResponse → SendOutcome}
    {network : HttpRequest Byte → Option HttpResponse} {request : Option (HttpRequest Byte)}
    {posted : HttpRequest Byte} :
    posted ∈ (Sending.post outcome network request).2 ↔ request = some posted := by
  cases request with
  | none => simp [post, unsent]
  | some request => simp [post, eq_comm]

section

variable {DocumentDigest : Type} (crates : Crates DocumentDigest) (http : HttpCrates Byte)

/-- What a Web Push request was made of: the validated URL, and the one dialled, of its origin and
validated again. -/
structure WebPushSender.Requested (sender : WebPushSender Byte) (clock : Option Nat)
    (endpoint : String) (keys : WebPushKeys) (payload : WakePayload) (url dialled : Url) (uri : Uri)
    (vapid : String) (body : List Byte) : Prop where
  validated : sender.egress.validateWebpushEndpoint crates endpoint = .ok url
  parsed : http.parseUri (http.urlText url) = some uri
  encrypted : http.encrypt uri keys (http.toVec (Value.encodeWakePayload payload)) = some body
  authorised : sender.vapidAuthorization http clock uri = some vapid
  converted : crates.parseUrl uri.text = some dialled
  sameOrigin : dialled.origin = url.origin
  revalidated : ∃ again,
    sender.egress.validateWebpushEndpoint crates (http.urlText dialled) = .ok again

/-- A request made for a registration. -/
inductive Sender.Makes (outside : SendSurroundings Byte) (payload : WakePayload) :
    Sender Byte → PushRegistration → HttpRequest Byte → Prop where
  | webpush {sender : WebPushSender Byte} {endpoint : String} {keys : WebPushKeys}
      {url dialled : Url} {uri : Uri} {vapid : String} {body : List Byte}
      (requested : sender.Requested crates http outside.clock endpoint keys payload url dialled uri
        vapid body) :
      Makes outside payload (.webpush sender) (.webpush endpoint keys)
        ⟨http.urlText dialled, [("authorization", vapid)], .bytes body⟩
  | apns {sender : ApnsSender Byte} {token topic jwt : String}
      {environment : Option ApnsEnvironment} (valid : isValidApnsToken token = true)
      (provided : outside.providerToken = some jwt) :
      Makes outside payload (.apns sender) (.apns token topic environment)
        { url := "https://" ++ ApnsSender.host environment ++ "/3/device/" ++ token
          headers := [("authorization", "bearer " ++ jwt), ("apns-topic", topic),
            ("apns-push-type", "background"), ("apns-priority", "5")]
          body := .json (ApnsSender.body payload) }
  | exchange {sender : FcmSender Byte} {token : String} {now : Nat} {posted : HttpRequest Byte}
      (read : outside.clock = some now)
      (lapsed : accessToken.reusable now outside.cachedToken = none)
      (exchanged : sender.exchange http.toSenderCrates now = some posted) :
      Makes outside payload (.fcm sender) (.fcm token) posted
  | fcm {sender : FcmSender Byte} {token access : String}
      (provided : (sender.accessToken http outside).1 = some access) :
      Makes outside payload (.fcm sender) (.fcm token)
        { url := "https://fcm.googleapis.com/v1/projects/" ++ sender.projectId ++ "/messages:send"
          headers := [("authorization", "Bearer " ++ access)]
          body := .json (.object [("message", .object [
            ("android", .object [("priority", .string "high")]),
            ("data", FcmSender.data payload), ("token", .string token)])]) }

variable {crates http}

theorem WebPushSender.request_eq_some {sender : WebPushSender Byte} {clock : Option Nat}
    {endpoint : String} {keys : WebPushKeys} {payload : WakePayload} {posted : HttpRequest Byte}
    (made : sender.request crates http clock endpoint keys payload = some posted) :
    ∃ url dialled uri vapid body,
      sender.Requested crates http clock endpoint keys payload url dialled uri vapid body ∧
        posted = ⟨http.urlText dialled, [("authorization", vapid)], .bytes body⟩ := by
  simp only [request, Option.bind_eq_bind, Option.bind_eq_some_iff, Option.filter_eq_some_iff]
    at made
  obtain ⟨url, validated, uri, parsed, -, -, body, encrypted, vapid, ⟨authorised, -⟩, dialled,
    converted, made⟩ := made
  split at made
  · cases made
  · rename_i same
    cases made
    obtain ⟨origin, again⟩ := not_or.mp same
    rw [Option.isNone_iff_eq_none, ← ne_eq, Option.ne_none_iff_exists'] at again
    obtain ⟨reread, accepted⟩ := again
    exact ⟨url, dialled, uri, vapid, body, ⟨Except.toOption_eq_some_iff.mp validated, parsed,
      encrypted, authorised, converted, not_not.mp origin, reread,
      Except.toOption_eq_some_iff.mp accepted⟩, rfl⟩

variable (http) in
/-- Either no request is made for an access token, or the one by which it is exchanged. -/
theorem FcmSender.accessToken_cases (sender : FcmSender Byte) (outside : SendSurroundings Byte) :
    (sender.accessToken http outside).2 = [] ∨
      ∃ now posted, outside.clock = some now ∧
        PushGateway.accessToken.reusable now outside.cachedToken = none ∧
        sender.exchange http.toSenderCrates now = some posted ∧
        sender.accessToken http outside =
          ((PushGateway.accessToken.accept now (outside.network posted)).map
            CachedAccessToken.token, [posted]) := by
  rw [accessToken]
  cases read : outside.clock with
  | none => exact .inl rfl
  | some now =>
      dsimp only
      cases lapsed : PushGateway.accessToken.reusable now outside.cachedToken with
      | some cached => exact .inl rfl
      | none =>
          dsimp only
          cases exchanged : sender.exchange http.toSenderCrates now with
          | none => exact .inl rfl
          | some posted => exact .inr ⟨now, posted, rfl, lapsed, exchanged, rfl⟩

theorem Sender.send_fcm (outside : SendSurroundings Byte) (sender : FcmSender Byte) (token : String)
    (payload : WakePayload) :
    (Sender.fcm sender).send crates http outside (.fcm token) payload =
      (Sending.post FcmSender.outcome outside.network
        (sender.request (sender.accessToken http outside).1 token payload)).after
          (sender.accessToken http outside).2 := rfl

theorem Sender.makes_of_mem_send {outside : SendSurroundings Byte} {sender : Sender Byte}
    {registration : PushRegistration} {payload : WakePayload} {posted : HttpRequest Byte}
    (member : posted ∈ (sender.send crates http outside registration payload).2) :
    sender.Makes crates http outside payload registration posted := by
  cases sender with
  | webpush sender =>
      cases registration with
      | webpush endpoint keys =>
          obtain ⟨url, dialled, uri, vapid, body, requested, rfl⟩ :=
            WebPushSender.request_eq_some (Sending.mem_post_iff.mp member)
          exact .webpush requested
      | apns token topic environment => cases member
      | fcm token => cases member
  | apns sender =>
      cases registration with
      | webpush endpoint keys => cases member
      | apns token topic environment =>
          have made := Sending.mem_post_iff.mp member
          rw [ApnsSender.request] at made
          split at made
          · cases made
          · rename_i valid
            obtain ⟨jwt, provided, rfl⟩ := Option.map_eq_some_iff.mp made
            exact .apns (not_not.mp valid) provided
      | fcm token => cases member
  | fcm sender =>
      cases registration with
      | webpush endpoint keys => cases member
      | apns token topic environment => cases member
      | fcm token =>
          rw [send_fcm, Sending.after, List.mem_append] at member
          obtain before | rings := member
          · obtain none_made | ⟨now, request, read, lapsed, exchanged, made⟩ :=
              sender.accessToken_cases http outside
            · rw [none_made] at before
              cases before
            · rw [made] at before
              cases List.mem_singleton.mp before
              exact .exchange read lapsed exchanged
          · obtain ⟨access, provided, rfl⟩ :=
              Option.map_eq_some_iff.mp (Sending.mem_post_iff.mp rings)
            exact .fcm provided
  | echo => cases member

end

/-! ## A stand-in for the other crates -/

/-- Values are written as themselves and nothing is encrypted; the one URL is that of
`wildcardUrl`. -/
def plainHttp : HttpCrates Value where
  b64url _ := ""
  toVec value := [value]
  literal text := [.string text]
  urlText _ := "https://a.up.example.net/x"
  parseUri text := some ⟨some "https", some "a.up.example.net", text⟩
  encrypt _ _ body := some body
  isHeaderValue _ := true

/-- A network on which every push service accepts. -/
def acceptingSurroundings : SendSurroundings Value where
  clock := some 0
  providerToken := some "p"
  cachedToken := some ⟨"a", 0, 3600⟩
  network _ := some ⟨200, none, none⟩

end PushGateway
