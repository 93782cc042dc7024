import PushGateway.Foundation.Base64
import PushGateway.Foundation.Fields
import PushGateway.Sender.Destinations

/-!
# What services read of the tokens

The senders put their tokens together as text: a JWT from three parts, an exchange of two form
fields, the header of a Web Push.  A service takes each apart again at its separators, and gets just
the parts which went in, whatever keys, addresses and clocks there are.
-/

namespace PushGateway

open Fields

/-! ## Reading -/

/-- The value of a hexadecimal digit. -/
def hexValue (char : Char) : Option Nat :=
  if '0' ≤ char ∧ char ≤ '9' then some (char.toNat - '0'.toNat)
  else if 'A' ≤ char ∧ char ≤ 'F' then some (char.toNat - 'A'.toNat + 10)
  else if 'a' ≤ char ∧ char ≤ 'f' then some (char.toNat - 'a'.toNat + 10)
  else none

/-- Undo the escapes of an ASCII text in a form. -/
def unescape : List Char → List Char
  | '%' :: high :: low :: rest =>
      match hexValue high, hexValue low with
      | some high, some low => Char.ofNat (16 * high + low) :: unescape rest
      | _, _ => '%' :: unescape (high :: low :: rest)
  | '+' :: rest => ' ' :: unescape rest
  | char :: rest => char :: unescape rest
  | [] => []

/-- The fields of a form. -/
def readForm (text : String) : List (String × String) :=
  ((text.toList.splitOn '&').filter (· ≠ [])).map fun field =>
    (String.ofList (unescape (cut '=' field).1), String.ofList (unescape (cut '=' field).2))

/-- What is read of a compact JWT: the bytes of the header and of the claims, the text which was
signed and the signature. -/
structure Jwt where
  header : List UInt8
  claims : List UInt8
  signingInput : String
  signature : List UInt8
  deriving DecidableEq, Repr

def readJwt (text : String) : Option Jwt :=
  match text.toList.splitOn '.' with
  | [header, claims, signature] => do
      return ⟨← Base64.urlSafe.decodeNoPad header, ← Base64.urlSafe.decodeNoPad claims,
        String.ofList (header ++ '.' :: claims), ← Base64.urlSafe.decodeNoPad signature⟩
  | _ => none

/-- The parameters of the header of a Web Push. -/
def readVapid (header : String) : Option (List (String × String)) :=
  if "vapid ".toList.isPrefixOf header.toList then
    some (((header.toList.drop 6).splitOn ',').map fun parameter =>
      let (name, value) := cut '=' (parameter.dropWhile (· = ' '))
      (String.ofList name, String.ofList value))
  else none

/-! ## The encoding -/

/-- `b64url` writes the alphabet for URLs, without padding. -/
def SenderCrates.UrlSafe (crates : SenderCrates UInt8) : Prop :=
  ∀ bytes, crates.b64url bytes = String.ofList (Base64.urlSafe.encodeNoPad bytes)

section

variable {crates : SenderCrates UInt8}

theorem SenderCrates.UrlSafe.not_mem (urlSafe : crates.UrlSafe) (bytes : List UInt8) {char : Char}
    (separates : char ∈ ['.', '&', '=', '%', '+', ',', ' ']) :
    char ∉ (crates.b64url bytes).toList := by
  rw [urlSafe bytes, String.toList_ofList]
  exact Base64.not_mem_urlSafe_encodeNoPad bytes separates

theorem SenderCrates.UrlSafe.decode (urlSafe : crates.UrlSafe) (bytes : List UInt8) :
    Base64.urlSafe.decodeNoPad (crates.b64url bytes).toList = some bytes := by
  rw [urlSafe bytes, String.toList_ofList]
  exact Base64.urlSafe.decodeNoPad_encodeNoPad bytes

/-- A character which a JWT does not have. -/
theorem SenderCrates.UrlSafe.not_mem_jwt (urlSafe : crates.UrlSafe) (sign : String → List UInt8)
    (header claims : List UInt8) {char : Char} (separates : char ∈ ['&', '=', '%', '+', ',', ' ']) :
    char ∉ (crates.jwt sign header claims).toList := by
  have apart : char ∈ ['.', '&', '=', '%', '+', ',', ' '] := List.mem_cons_of_mem _ separates
  have dot : char ≠ '.' := by
    rintro rfl
    exact absurd separates (by decide)
  simp only [jwt, String.toList_append, List.mem_append, urlSafe.not_mem _ apart, false_or,
    or_false]
  simpa using dot

/-- A JWT is read as the parts it was made of. -/
theorem SenderCrates.UrlSafe.readJwt_jwt (urlSafe : crates.UrlSafe) (sign : String → List UInt8)
    (header claims : List UInt8) :
    readJwt (crates.jwt sign header claims) =
      some ⟨header, claims, crates.b64url header ++ "." ++ crates.b64url claims,
        sign (crates.b64url header ++ "." ++ crates.b64url claims)⟩ := by
  let signature := sign (crates.b64url header ++ "." ++ crates.b64url claims)
  have joined : (crates.jwt sign header claims).toList =
      ['.'].intercalate [(crates.b64url header).toList, (crates.b64url claims).toList,
        (crates.b64url signature).toList] := by
    simp [jwt, signature, List.intercalate, List.intersperse]
  have split : (crates.jwt sign header claims).toList.splitOn '.' =
      [(crates.b64url header).toList, (crates.b64url claims).toList,
        (crates.b64url signature).toList] := by
    rw [joined, List.splitOn_intercalate]
    · intro part member
      simp only [List.mem_cons, List.not_mem_nil, or_false] at member
      obtain rfl | rfl | rfl := member
      · exact urlSafe.not_mem _ (by decide)
      · exact urlSafe.not_mem _ (by decide)
      · exact urlSafe.not_mem _ (by decide)
    · simp
  simp only [readJwt, split, urlSafe.decode, Option.bind_eq_bind, Option.bind_some, Option.pure_def,
    Option.some.injEq, Jwt.mk.injEq, true_and]
  refine ⟨String.toList_injective ?_, rfl⟩
  simp

end

/-! ## Forms and headers -/

theorem unescape_of_plain {text : List Char} (percent : '%' ∉ text) (plus : '+' ∉ text) :
    unescape text = text := by
  induction text with
  | nil => rw [unescape]
  | cons char rest induction =>
      have rest_plain := induction (List.not_mem_of_not_mem_cons percent)
        (List.not_mem_of_not_mem_cons plus)
      rw [unescape.eq_3, rest_plain]
      · rintro high low tail rfl
        exact absurd rfl (List.ne_of_not_mem_cons percent)
      · exact fun same => List.ne_of_not_mem_cons plus same.symm

/-- The field which says what is exchanged. -/
private theorem read_grantType :
    let field := cut '=' "grant_type=urn%3Aietf%3Aparams%3Aoauth%3Agrant-type%3Ajwt-bearer".toList
    String.ofList (unescape field.1) = "grant_type" ∧
      String.ofList (unescape field.2) = "urn:ietf:params:oauth:grant-type:jwt-bearer" := by
  decide +kernel

/-- A form of the two fields of an exchange. -/
theorem readForm_exchange {assertion : String}
    (plain : ∀ char ∈ ['&', '=', '%', '+'], char ∉ assertion.toList) :
    readForm ("grant_type=urn%3Aietf%3Aparams%3Aoauth%3Agrant-type%3Ajwt-bearer&assertion=" ++
        assertion) =
      [("grant_type", "urn:ietf:params:oauth:grant-type:jwt-bearer"),
        ("assertion", assertion)] := by
  have literal :
      "grant_type=urn%3Aietf%3Aparams%3Aoauth%3Agrant-type%3Ajwt-bearer&assertion=".toList =
      "grant_type=urn%3Aietf%3Aparams%3Aoauth%3Agrant-type%3Ajwt-bearer".toList ++
        '&' :: ("assertion".toList ++ ['=']) := by
    decide +kernel
  have text : ("grant_type=urn%3Aietf%3Aparams%3Aoauth%3Agrant-type%3Ajwt-bearer&assertion=" ++
      assertion).toList =
        "grant_type=urn%3Aietf%3Aparams%3Aoauth%3Agrant-type%3Ajwt-bearer".toList ++
          '&' :: ("assertion".toList ++ '=' :: assertion.toList) := by
    rw [String.toList_append, literal, List.append_assoc, List.cons_append, List.append_assoc,
      List.singleton_append]
  have whole : '&' ∉ "assertion".toList ++ '=' :: assertion.toList := by
    have absent := plain '&' (by decide)
    simpa using absent
  have field := cut_append_cons (show '=' ∉ "assertion".toList by decide) assertion.toList
  have read := unescape_of_plain (plain '%' (by decide)) (plain '+' (by decide))
  have name : String.ofList (unescape "assertion".toList) = "assertion" := by decide +kernel
  obtain ⟨grant, type⟩ := read_grantType
  rw [readForm, text, List.splitOn_append_cons_self_of_not_mem (by decide +kernel),
    List.splitOn_eq_singleton whole, List.filter_cons_of_pos (by decide +kernel),
    List.filter_cons_of_pos (by simp), List.filter_nil, List.map_cons, List.map_cons,
    List.map_nil, field, grant, type, name, read, String.ofList_toList]

/-- A header of the two parameters of a Web Push. -/
theorem readVapid_authorization {jwt key : String} (jwt_plain : ',' ∉ jwt.toList)
    (key_plain : ',' ∉ key.toList) :
    readVapid ("vapid t=" ++ jwt ++ ", k=" ++ key) = some [("t", jwt), ("k", key)] := by
  have text : ("vapid t=" ++ jwt ++ ", k=" ++ key).toList =
      "vapid ".toList ++
        (('t' :: '=' :: jwt.toList) ++ ',' :: ' ' :: 'k' :: '=' :: key.toList) := by
    simp
  have first : ',' ∉ 't' :: '=' :: jwt.toList := by simpa using jwt_plain
  have second : ',' ∉ ' ' :: 'k' :: '=' :: key.toList := by simpa using key_plain
  have token := cut_append_cons (show '=' ∉ ['t'] by decide) jwt.toList
  have point := cut_append_cons (show '=' ∉ ['k'] by decide) key.toList
  simp only [List.singleton_append] at token point
  rw [readVapid, text, if_pos (by simp), List.drop_left' (by decide),
    List.splitOn_append_cons_self_of_not_mem first, List.splitOn_eq_singleton second]
  simp [token, point]

/-! ## Every token -/

/-- A service reads the header and the claims of a token, under a signature of the sender. -/
def Carries (token : String) (sign : String → Option (List UInt8)) (header claims : List UInt8) :
    Prop :=
  ∃ signingInput signature, readJwt token = some ⟨header, claims, signingInput, signature⟩ ∧
    sign signingInput = some signature

theorem carries_jwt {crates : SenderCrates UInt8} (urlSafe : crates.UrlSafe)
    (sign : String → List UInt8) (header claims : List UInt8) :
    Carries (crates.jwt sign header claims) (fun input => some (sign input)) header claims :=
  ⟨_, _, urlSafe.readJwt_jwt sign header claims, rfl⟩

theorem FcmSender.assertionJwt_eq_some {Byte : Type} {crates : SenderCrates Byte}
    {sender : FcmSender Byte} {now : Nat} {assertion : String}
    (minted : sender.assertionJwt crates now = some assertion) :
    let header := crates.literal "\x7b\"alg\":\"RS256\",\"typ\":\"JWT\"\x7d"
    let claims := crates.toVec (sender.claims now)
    ∃ signature, sender.sign (crates.b64url header ++ "." ++ crates.b64url claims) =
        some signature ∧ assertion = crates.jwt (fun _ => signature) header claims := by
  obtain ⟨signature, signed, rfl⟩ := Option.map_eq_some_iff.mp minted
  exact ⟨signature, signed, rfl⟩

/-- Google's token endpoint finds in the form of an exchange the grant type and the assertion, Apple
finds in a provider token who issued it when, and a push service finds in the header of a Web Push
the token for its own origin and the gateway's public key; each token's claims are the sender's,
under its signature. -/
theorem tokens_understood {http : HttpCrates UInt8} (urlSafe : http.UrlSafe) :
    (∀ (sender : FcmSender UInt8) (now : Nat) (request : HttpRequest UInt8),
      sender.exchange http.toSenderCrates now = some request →
        request.url = sender.tokenUri ∧ ∃ text assertion, request.body = .form text ∧
          readForm text = [("grant_type", "urn:ietf:params:oauth:grant-type:jwt-bearer"),
            ("assertion", assertion)] ∧
          Carries assertion sender.sign
            (http.literal "\x7b\"alg\":\"RS256\",\"typ\":\"JWT\"\x7d")
            (http.toVec (sender.claims now))) ∧
    (∀ (sender : ApnsSender UInt8) (now : Nat),
      Carries (sender.tokenAt http.toSenderCrates now) (fun input => some (sender.sign input))
        (http.toVec (.object [("alg", .string "ES256"), ("kid", .string sender.keyId),
          ("typ", .string "JWT")]))
        (http.toVec (.object [("iat", .number (.int now)), ("iss", .string sender.teamId)]))) ∧
    ∀ (sender : WebPushSender UInt8) (key : List UInt8) (clock : Option Nat) (endpoint : Uri)
      (header : String), sender.vapidPublic = http.b64url key →
        sender.vapidAuthorization http clock endpoint = some header →
          ∃ scheme authority now token, endpoint.scheme = some scheme ∧
            endpoint.authority = some authority ∧ clock = some now ∧
            readVapid header = some [("t", token), ("k", sender.vapidPublic)] ∧
            Base64.urlSafe.decodeNoPad sender.vapidPublic.toList = some key ∧
            Carries token (fun input => some (sender.sign input))
              (http.literal "\x7b\"typ\":\"JWT\",\"alg\":\"ES256\"\x7d")
              (http.toVec (.object [("aud", .string (scheme ++ "://" ++ authority)),
                ("exp", .number (.int ↑(now + 43200))), ("sub", .string sender.subject)])) := by
  refine ⟨fun sender now request exchanged => ?_, fun sender now => carries_jwt urlSafe _ _ _,
    fun sender key clock endpoint header public_ authorised => ?_⟩
  · obtain ⟨assertion, minted, rfl⟩ := Option.map_eq_some_iff.mp exchanged
    obtain ⟨signature, signed, rfl⟩ := FcmSender.assertionJwt_eq_some minted
    refine ⟨rfl, _, _, rfl, readForm_exchange fun char separates => ?_, _, signature,
      urlSafe.readJwt_jwt _ _ _, signed⟩
    refine urlSafe.not_mem_jwt _ _ _ ?_
    revert separates
    simp only [List.mem_cons, List.not_mem_nil, or_false]
    tauto
  · simp only [WebPushSender.vapidAuthorization, Option.bind_eq_bind, Option.bind_eq_some_iff,
      Option.pure_def, Option.some.injEq] at authorised
    obtain ⟨scheme, has_scheme, authority, has_authority, now, read, rfl⟩ := authorised
    refine ⟨scheme, authority, now, _, has_scheme, has_authority, read,
      readVapid_authorization (urlSafe.not_mem_jwt _ _ _ (by decide)) ?_, ?_,
      carries_jwt urlSafe _ _ _⟩
    · rw [public_]
      exact urlSafe.not_mem key (by decide)
    · rw [public_]
      exact urlSafe.decode key

private def formCrates : HttpCrates UInt8 where
  b64url bytes := String.ofList (Base64.urlSafe.encodeNoPad bytes)
  toVec _ := [123, 255]
  literal _ := [126, 0, 62, 190]
  urlText _ := ""
  parseUri _ := none
  encrypt _ _ _ := none
  isHeaderValue _ := true

private theorem formUrlSafe : formCrates.UrlSafe := fun _ => rfl

private def fcmSender : FcmSender UInt8 :=
  ⟨"project", "gateway@project", "https://oauth2.googleapis.com/token", fun _ => some [251, 240]⟩

/-- The three parts of the assertion use all of the alphabet's special digits. -/
theorem tokens_understood_exchange :
    ∃ request, fcmSender.exchange formCrates.toSenderCrates 1000 = some request ∧
      request.url = fcmSender.tokenUri ∧ ∃ text assertion, request.body = .form text ∧
        readForm text = [("grant_type", "urn:ietf:params:oauth:grant-type:jwt-bearer"),
          ("assertion", assertion)] ∧
        Carries assertion fcmSender.sign
          (formCrates.literal "\x7b\"alg\":\"RS256\",\"typ\":\"JWT\"\x7d")
          (formCrates.toVec (fcmSender.claims 1000)) :=
  ⟨_, rfl, (tokens_understood formUrlSafe).1 fcmSender 1000 _ rfl⟩

end PushGateway
