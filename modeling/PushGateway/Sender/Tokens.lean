import PushGateway.Document
import PushGateway.Foundation.Lease

/-!
# The tokens of the platform senders

The APNs sender signs a provider token and reuses it for forty minutes; the FCM sender exchanges a
signed assertion for an access token and reuses it for up to fifty.  Both caches are leases, shared
by however many sends are under way.
-/

namespace PushGateway

/-- The encodings the senders use. -/
structure SenderCrates (Byte : Type) where
  /-- `URL_SAFE_NO_PAD.encode`. -/
  b64url : List Byte → String
  /-- `serde_json::to_vec`. -/
  toVec : Value → List Byte
  /-- The bytes of a literal. -/
  literal : String → List Byte

/-- A compact JWT: header, claims and signature. -/
def SenderCrates.jwt {Byte : Type} (crates : SenderCrates Byte) (sign : String → List Byte)
    (header claims : List Byte) : String :=
  let signingInput := crates.b64url header ++ "." ++ crates.b64url claims
  signingInput ++ "." ++ crates.b64url (sign signingInput)

/-- What the senders read of the answer to a request. -/
structure HttpResponse where
  status : Nat
  /-- `text()`. -/
  text : Option String
  /-- `json()`, before it is decoded. -/
  json : Option Value

/-- `StatusCode::is_success`. -/
def HttpResponse.isSuccess (response : HttpResponse) : Bool :=
  decide (200 ≤ response.status ∧ response.status < 300)

/-! ## APNs -/

/-- `APNS_TOKEN_REFRESH_SECS`. -/
def apnsTokenRefreshSecs : Nat := 40 * 60

/-- `CachedToken`. -/
structure CachedToken where
  jwt : String
  iat : Nat
  deriving DecidableEq, Repr

/-- `ApnsSender`; signing is with its key. -/
structure ApnsSender (Byte : Type) where
  teamId : String
  keyId : String
  sign : String → List Byte

variable {Byte : Type} (crates : SenderCrates Byte)

/-- The provider token issued at an instant. -/
def ApnsSender.tokenAt (sender : ApnsSender Byte) (now : Nat) : String :=
  crates.jwt sender.sign
    (crates.toVec (.object [("alg", .string "ES256"), ("kid", .string sender.keyId),
      ("typ", .string "JWT")]))
    (crates.toVec (.object [("iat", .number (.int now)), ("iss", .string sender.teamId)]))

/-- `provider_token`: signing needs no reply. -/
def ApnsSender.providerToken (sender : ApnsSender Byte) : Lease Unit CachedToken where
  accept now _ := some ⟨sender.tokenAt crates now, now⟩
  obtained token := token.iat
  lifetime _ := apnsTokenRefreshSecs
  obtained_accept now _ _ accepted := by
    cases accepted
    rfl

/-! ## FCM -/

/-- `FCM_TOKEN_REFRESH_SECS`. -/
def fcmTokenRefreshSecs : Nat := 50 * 60

/-- `FcmTokenResponse`. -/
structure FcmTokenResponse where
  accessToken : String
  expiresIn : Nat
  deriving DecidableEq, Repr

def Value.decodeFcmTokenResponse (value : Value) : Option FcmTokenResponse := do
  let [accessToken, expiresIn] ← value.fields ["access_token", "expires_in"] | none
  return ⟨← accessToken.bind decodeString, ← expiresIn.bind (decodeUnsigned (2 ^ 64))⟩

/-- `CachedAccessToken`. -/
structure CachedAccessToken where
  token : String
  obtainedAt : Nat
  ttl : Nat
  deriving DecidableEq, Repr

/-- `access_token`: the reply of the token endpoint, if there is one. -/
def accessToken : Lease (Option HttpResponse) CachedAccessToken where
  accept now reply := do
    let response ← reply
    if ¬response.isSuccess then none
    else
      let tok ← response.json.bind Value.decodeFcmTokenResponse
      return ⟨tok.accessToken, now, tok.expiresIn⟩
  obtained token := token.obtainedAt
  lifetime token := min token.ttl fcmTokenRefreshSecs
  obtained_accept now reply credential accepted := by
    simp only [Option.bind_eq_bind, Option.bind_eq_some_iff] at accepted
    obtain ⟨response, -, accepted⟩ := accepted
    split at accepted
    · cases accepted
    · simp only [Option.bind_eq_some_iff] at accepted
      obtain ⟨_, -, built⟩ := accepted
      cases built
      rfl

/-! ## Concurrent sends -/

/-- However sends interleave and whatever their clocks say, every provider token used is less than
forty minutes old by the clock of its send and states when it was issued, and tokens are issued at
least forty minutes apart. -/
theorem provider_tokens_apart (sender : ApnsSender Byte) (actions : List (Lease.Action Unit)) :
    let lease := sender.providerToken crates
    let pool := Execution.run lease.step .unused actions
    let issued := lease.renewals .unused actions
    (∀ now token, .served now token ∈ pool.callers →
      token ∈ issued ∧ token.jwt = sender.tokenAt crates token.iat ∧ now - token.iat < 2400) ∧
    issued.IsChain (fun earlier later => earlier.iat + 2400 ≤ later.iat) ∧
    ∀ earliest latest,
      (∀ action ∈ actions, ∀ now ∈ action.reading, earliest ≤ now ∧ now ≤ latest) →
        2400 * (issued.length - 1) ≤ latest - earliest := by
  intro lease pool issued
  have sound := lease.sound_run actions
  refine ⟨fun now token served => ?_, ?_, fun earliest latest reads => ?_⟩
  · obtain ⟨member, usable⟩ := sound.served now token served
    refine ⟨member, ?_, ?_⟩
    · obtain ⟨instant, _, accepted⟩ := Lease.accepted_of_mem_renewals member
      cases accepted
      rfl
    · obtain own | fresh := usable
      · have just : token.iat = now := own
        omega
      · exact fresh
  · refine sound.spaced.imp fun earlier later apart => ?_
    have lapsed : 2400 ≤ later.iat - earlier.iat := apart
    omega
  · exact Lease.length_renewals_le sound.spaced (fun _ _ => Nat.le_refl 2400)
      (lease.read_run reads).renewals

/-- Two sends within forty minutes and one after them, whose clock was read before the first
token was issued. -/
private def wakes : List (Lease.Action Unit) :=
  [.arrive (some 100), .arrive (some 90), .acquire 0, .finish 0 (), .acquire 1,
    .arrive (some 2500), .acquire 2, .finish 2 ()]

private def plainSenderCrates : SenderCrates Unit := ⟨fun _ => "", fun _ => [], fun _ => []⟩

private def apnsSender : ApnsSender Unit := ⟨"team", "key", fun _ => []⟩

theorem provider_tokens_apart_wakes :
    2400 * (((apnsSender.providerToken plainSenderCrates).renewals .unused wakes).length - 1) ≤
      2500 - 90 :=
  (provider_tokens_apart plainSenderCrates apnsSender wakes).2.2 90 2500 (by decide)

/-- At most one exchange is in flight, and only when the cached token has lapsed by the clock of its
send; a failed or cancelled one gives back the lock and leaves the cache alone.  An access token is
used fresh or by the send which got it, and tokens which last do not follow each other sooner. -/
theorem access_tokens_exchanged_once (actions : List (Lease.Action (Option HttpResponse))) :
    let pool := Execution.run accessToken.step .unused actions
    let obtained := accessToken.renewals .unused actions
    (∀ index, pool.holder = some index ↔ pool.Exchanging index) ∧
    pool.cache = obtained.getLast? ∧
    (∀ now, .exchanging now ∈ pool.callers → ∀ token ∈ pool.cache,
      min token.ttl 3000 ≤ now - token.obtainedAt) ∧
    (∀ now token, .served now token ∈ pool.callers → token ∈ obtained ∧
      (token.obtainedAt = now ∨ now - token.obtainedAt < min token.ttl 3000)) ∧
    ∀ least earliest latest, (∀ token ∈ obtained, least ≤ min token.ttl 3000) →
      (∀ action ∈ actions, ∀ now ∈ action.reading, earliest ≤ now ∧ now ≤ latest) →
        least * (obtained.length - 1) ≤ latest - earliest := by
  intro pool obtained
  have sound := accessToken.sound_run actions
  refine ⟨sound.held, sound.cached, fun now exchanging token cached => ?_, sound.served,
    fun least earliest latest lasts reads => ?_⟩
  · exact Nat.not_lt.mp (sound.due now exchanging token cached)
  · exact Lease.length_renewals_le sound.spaced lasts (accessToken.read_run reads).renewals

private def tokenReply : Option HttpResponse :=
  some ⟨200, none,
    some (.object [("access_token", .string "t"), ("expires_in", .number (.int 3599))])⟩

/-- An exchange which fails, one which is cancelled, and one whose token two sends use. -/
private def exchanges : List (Lease.Action (Option HttpResponse)) :=
  [.arrive (some 10), .arrive (some 11), .acquire 0, .acquire 1, .finish 0 none, .acquire 1,
    .cancel 1, .arrive (some 12), .acquire 2, .finish 2 tokenReply, .arrive (some 5), .acquire 3]

theorem access_tokens_exchanged_once_exchanges :
    3000 * ((accessToken.renewals .unused exchanges).length - 1) ≤ 12 - 5 :=
  (access_tokens_exchanged_once exchanges).2.2.2.2 3000 5 12 (by decide) (by decide)

end PushGateway
