import PushGateway.Egress.Resolver
import PushGateway.Sender.Requests

/-!
# Where requests go

A registration names a device, never a place to connect to: a Web Push endpoint is dialled only at
the listed domain it was validated for, an APNs token is one segment of a fixed path, and an FCM
token goes to Google, with access got from the token endpoint of the gateway's own account.  This
holds of whatever is stored, validated or not.
-/

namespace PushGateway

variable {DocumentDigest Byte : Type} (crates : Crates DocumentDigest) (http : HttpCrates Byte)

/-! ## The client -/

/-- The address a literal stands for. -/
def IpAddr.ofHost : Host → Option IpAddr
  | .ipv4 [a, b, c, d] =>
      some (.v4 ⟨BitVec.ofNat 8 a ++ BitVec.ofNat 8 b ++ BitVec.ofNat 8 c ++ BitVec.ofNat 8 d⟩)
  | .ipv6 [s0, s1, s2, s3, s4, s5, s6, s7] =>
      some (.v6 (.new (.ofNat 16 s0) (.ofNat 16 s1) (.ofNat 16 s2) (.ofNat 16 s3) (.ofNat 16 s4)
        (.ofNat 16 s5) (.ofNat 16 s6) (.ofNat 16 s7)))
  | _ => none

/-- The addresses which a `hardened_client_builder` client may connect to for a request: without
redirects and proxies, those of its URL. -/
def EgressPolicy.connects {LookupError : Type} (policy : EgressPolicy)
    (lookupHost : String → Except LookupError (List IpAddr)) (text : String) : List IpAddr :=
  match crates.parseUrl text with
  | none => []
  | some url =>
      -- `https_only`
      if ¬policy.allowLoopback ∧ url.scheme ≠ "https" then []
      else
        match url.host with
        | some (.domain name) =>
            ((GuardedResolver.forPolicy policy).resolve lookupHost name).toOption.getD []
        -- A literal is dialled without the resolver.
        | some literal => (IpAddr.ofHost literal).toList
        | none => []

/-- The printed form of a URL is read as that URL, and its authority is its domain. -/
structure HttpCrates.PrintsUrls : Prop where
  reread : ∀ text url, crates.parseUrl text = some url →
    crates.parseUrl (http.urlText url) = some url
  uri : ∀ text url domain uri, crates.parseUrl text = some url → url.Plain domain →
    http.parseUri (http.urlText url) = some uri →
      uri.scheme = some "https" ∧ uri.authority = some domain

variable {crates http}

theorem Url.Plain.origin {url : Url} {domain : String} (plain : url.Plain domain) :
    url.origin = some ("https", .domain domain, 443) := by
  rw [Url.origin, plain.scheme, plain.host, plain.port]
  rfl

/-- The dialled URL is a plain one of the validated domain. -/
theorem WebPushSender.Requested.plain (prints : http.PrintsUrls crates)
    {sender : WebPushSender Byte} (production : sender.egress.allowLoopback = false)
    {clock : Option Nat} {endpoint : String} {keys : WebPushKeys} {payload : WakePayload}
    {url dialled : Url} {uri : Uri} {vapid : String} {body : List Byte}
    (requested : sender.Requested crates http clock endpoint keys payload url dialled uri vapid
      body) :
    ∃ domain, url.Plain domain ∧ dialled.Plain domain ∧
      crates.parseUrl (http.urlText dialled) = some dialled := by
  have accepted_iff := validateWebpushEndpoint_eq_ok_iff crates production
  obtain ⟨-, -, domain, plain, -⟩ := (accepted_iff _ _).mp requested.validated
  obtain ⟨again, revalidated⟩ := requested.revalidated
  obtain ⟨-, parsed, other, plain', -⟩ := (accepted_iff _ _).mp revalidated
  have reread := prints.reread _ _ requested.converted
  rw [reread] at parsed
  cases parsed
  have origin := requested.sameOrigin
  rw [plain.origin, plain'.origin] at origin
  cases origin
  exact ⟨domain, plain, plain', reread⟩

/-- The header which authorises a push to a domain from an instant on. -/
def WebPushSender.vapidFor (sender : WebPushSender Byte) (http : HttpCrates Byte) (domain : String)
    (now : Nat) : String :=
  "vapid t=" ++
    http.jwt sender.sign (http.literal "\x7b\"typ\":\"JWT\",\"alg\":\"ES256\"\x7d")
      (http.toVec (.object [("aud", .string ("https://" ++ domain)),
        ("exp", .number (.int ↑(now + 43200))), ("sub", .string sender.subject)])) ++
    ", k=" ++ sender.vapidPublic

theorem WebPushSender.vapidAuthorization_eq {sender : WebPushSender Byte} {clock : Option Nat}
    {uri : Uri} {domain vapid : String} (scheme : uri.scheme = some "https")
    (authority : uri.authority = some domain)
    (authorised : sender.vapidAuthorization http clock uri = some vapid) :
    ∃ now, clock = some now ∧ vapid = sender.vapidFor http domain now := by
  simp only [vapidAuthorization, scheme, authority, Option.bind_eq_bind, Option.bind_some,
    Option.bind_eq_some_iff, Option.pure_def, Option.some.injEq] at authorised
  obtain ⟨now, read, rfl⟩ := authorised
  exact ⟨now, read, rfl⟩

/-- A client of a production policy connects to public addresses of the URL's domain only. -/
theorem EgressPolicy.connects_public {LookupError : Type} {policy : EgressPolicy}
    (production : policy.allowLoopback = false)
    (lookupHost : String → Except LookupError (List IpAddr)) {text : String} {url : Url}
    {domain : String} (parsed : crates.parseUrl text = some url) (plain : url.Plain domain)
    {ip : IpAddr} (connected : ip ∈ policy.connects crates lookupHost text) :
    isPublicIp ip = true ∧ ∃ addresses, lookupHost domain = .ok addresses ∧ ip ∈ addresses := by
  simp only [connects, parsed, plain.scheme, plain.host, ne_eq, not_true_eq_false, and_false,
    if_false] at connected
  cases resolved : (GuardedResolver.forPolicy policy).resolve lookupHost domain with
  | error error => simp [resolved, Except.toOption] at connected
  | ok addresses =>
      have listed : ip ∈ addresses := by simpa [resolved, Except.toOption] using connected
      exact ⟨GuardedResolver.resolve_public production resolved ip listed, addresses,
        ((GuardedResolver.resolve_eq_ok_iff _ _ _ _).mp resolved).1, listed⟩

theorem apns_url_segments (environment : Option ApnsEnvironment) {token : String}
    (valid : isValidApnsToken token = true) :
    ("https://" ++ ApnsSender.host environment ++ "/3/device/" ++ token).toList.splitOn '/' =
      ["https:".toList, [], (ApnsSender.host environment).toList, ['3'], "device".toList,
        token.toList] := by
  have hex : ∀ char ∈ token.toList, isAsciiHexdigit char = true := by
    rw [isValidApnsToken, Bool.and_eq_true, List.all_eq_true] at valid
    exact valid.2
  have joined : ("https://" ++ ApnsSender.host environment ++ "/3/device/" ++ token).toList =
      ['/'].intercalate ["https:".toList, [], (ApnsSender.host environment).toList, ['3'],
        "device".toList, token.toList] := by
    cases environment with
    | none => simp [ApnsSender.host, List.intercalate, List.intersperse]
    | some environment =>
        cases environment <;> simp [ApnsSender.host, List.intercalate, List.intersperse]
  rw [joined, List.splitOn_intercalate]
  · intro segment member
    simp only [List.mem_cons, List.not_mem_nil, or_false] at member
    obtain rfl | rfl | rfl | rfl | rfl | rfl := member
    · decide
    · decide
    · cases environment with
      | none => decide
      | some environment => cases environment <;> decide
    · decide
    · decide
    · exact fun slash => absurd (hex '/' slash) (by decide)
  · simp

/-! ## Every request -/

/-- What may be sent where for a registration: a Web Push to the listed domain of its endpoint, at
public addresses, with a token for that domain; an APNs push to one path of Apple's host; an FCM
push to Google's, and the exchange of an assertion of the sender's at its token endpoint. -/
def Contained (crates : Crates DocumentDigest) (http : HttpCrates Byte) (policy : EgressPolicy)
    (webpushHosts : Option String) (sender : Sender Byte) (posted : HttpRequest Byte) :
    PushRegistration → Prop
  | .webpush endpoint _ =>
      ∃ domain, (∃ entry ∈ listedEntries webpushHosts, EntryAdmits entry domain) ∧
        (∃ url, crates.parseUrl endpoint = some url ∧ url.Plain domain) ∧
        (∃ dialled, crates.parseUrl posted.url = some dialled ∧ dialled.Plain domain) ∧
        (∃ own now, sender = .webpush own ∧
          posted.headers = [("authorization", own.vapidFor http domain now)]) ∧
        ∀ (LookupError : Type) (lookupHost : String → Except LookupError (List IpAddr)),
          ∀ ip ∈ policy.connects crates lookupHost posted.url,
            isPublicIp ip = true ∧ ∃ addresses, lookupHost domain = .ok addresses ∧ ip ∈ addresses
  | .apns token _ environment =>
      posted.url.toList.splitOn '/' = ["https:".toList, [], (ApnsSender.host environment).toList,
        ['3'], "device".toList, token.toList] ∧ token.toList.all isAsciiHexdigit = true
  | .fcm _ =>
      ∃ own, sender = .fcm own ∧
        (posted.url = "https://fcm.googleapis.com/v1/projects/" ++ own.projectId ++
            "/messages:send" ∨
          posted.url = own.tokenUri ∧ ∃ now, own.exchange http.toSenderCrates now = some posted)

/-- Whatever is stored and whatever a wake asks for, the senders of a configured gateway make no
other request. -/
theorem requests_contained {webpushHosts apnsTopics : Option String} {policy : EgressPolicy}
    (configured : EgressPolicy.fromConfig webpushHosts apnsTopics = .ok policy)
    (prints : http.PrintsUrls crates) {sender : Sender Byte}
    (shared : ∀ own, sender = .webpush own → own.egress = policy)
    (outside : SendSurroundings Byte) (registration : PushRegistration) (payload : WakePayload)
    {posted : HttpRequest Byte}
    (sent : posted ∈ (sender.send crates http outside registration payload).2) :
    Contained crates http policy webpushHosts sender posted registration := by
  cases Sender.makes_of_mem_send sent with
  | webpush requested =>
      rename_i own endpoint keys url dialled uri vapid body
      have production : policy.allowLoopback = false := (fromConfig_eq_ok configured).1
      have egress : own.egress = policy := shared own rfl
      obtain ⟨domain, plain, plain', reread⟩ := requested.plain prints (egress ▸ production)
      have validated := requested.validated
      rw [egress] at validated
      obtain ⟨-, parsed, other, same, entry, listed, admits⟩ :=
        ((endpoint_accepted_iff crates configured).1 _ _).mp validated
      have domains := same.host
      rw [plain.host] at domains
      cases domains
      obtain ⟨scheme, authority⟩ := prints.uri _ _ _ _ parsed plain requested.parsed
      obtain ⟨now, -, rfl⟩ :=
        WebPushSender.vapidAuthorization_eq scheme authority requested.authorised
      exact ⟨domain, ⟨entry, listed, admits⟩, ⟨url, parsed, plain⟩, ⟨dialled, reread, plain'⟩,
        ⟨own, now, rfl, rfl⟩, fun LookupError lookupHost ip connected =>
          EgressPolicy.connects_public production lookupHost reread plain' connected⟩
  | apns valid provided =>
      refine ⟨apns_url_segments _ valid, ?_⟩
      rw [isValidApnsToken, Bool.and_eq_true] at valid
      exact valid.2
  | exchange read lapsed exchanged =>
      obtain ⟨assertion, -, rfl⟩ := Option.map_eq_some_iff.mp exchanged
      exact ⟨_, rfl, .inr ⟨rfl, _, exchanged⟩⟩
  | fcm provided => exact ⟨_, rfl, .inl rfl⟩

/-- The stand-in of `urlCrates`, taking every key. -/
private def keyedCrates : Crates PlainDigest :=
  { urlCrates with
    base64UrlDecode := fun text => some (List.replicate (if text = "a" then 16 else 65) 0)
    isP256Point := fun _ => true }

private theorem plainHttp_printsUrls : plainHttp.PrintsUrls keyedCrates where
  reread text url parsed := by
    simp only [keyedCrates, urlCrates] at parsed ⊢
    split at parsed
    · cases parsed
      rfl
    · cases parsed
  uri text url domain uri parsed plain printed := by
    simp only [keyedCrates, urlCrates] at parsed
    split at parsed
    · cases parsed
      cases printed
      have host := plain.host
      cases host
      exact ⟨rfl, rfl⟩
    · cases parsed

private def widePolicy : EgressPolicy where
  webpushHosts := [.subdomain ".up.example.net"]
  apnsTopics := none
  allowLoopback := false

private def dialled : HttpRequest Value where
  url := "https://a.up.example.net/x"
  headers := [("authorization", "vapid t=.., k=key")]
  body := .bytes [Value.encodeWakePayload ⟨1, none, none, none⟩]

theorem requests_contained_dialled :
    Contained keyedCrates plainHttp widePolicy (some "*.up.example.net")
      (.webpush ⟨fun _ => [], "key", "mailto:ops@gateway.example", widePolicy⟩) dialled
      (.webpush "https://a.up.example.net/x" ⟨"p", "a"⟩) := by
  have configured : EgressPolicy.fromConfig (some "*.up.example.net") none = .ok widePolicy := by
    rfl
  refine requests_contained configured plainHttp_printsUrls (fun own same => by cases same; rfl)
    acceptingSurroundings _ ⟨1, none, none, none⟩ ?_
  exact List.mem_singleton.mpr rfl

end PushGateway
