import PushGateway.Document

/-!
# Egress policy

What the gateway is willing to send push traffic to: the hosts a Web Push endpoint may name, and
the APNs topics a registration may name.
-/

namespace PushGateway

/-- `MAX_ENDPOINT_LEN`. -/
def maxEndpointLen : Nat := 2048

/-- Why a Web Push endpoint was refused. -/
inductive EgressError where
  | tooLong
  | unparseable
  | notHttps
  | userInfo
  | port
  | fragment
  | ipLiteral
  | hostNotAllowed
  deriving DecidableEq, Repr

/-- One entry of the Web Push host allow-list. -/
inductive HostRule where
  /-- Matches this host exactly. -/
  | exact (host : String)
  /-- Matches any host ending in this suffix, which starts with a dot. -/
  | subdomain (suffix : String)
  deriving DecidableEq, Repr

def HostRule.matches : HostRule → String → Bool
  | .exact host, name => decide (name = host)
  | .subdomain suffix, name =>
      decide (suffix.utf8ByteSize < name.utf8ByteSize) && suffix.toList.isSuffixOf name.toList

/-- The hosts and topics the gateway accepts; `none` topics are not restricted. -/
structure EgressPolicy where
  webpushHosts : List HostRule
  apnsTopics : Option (List String)
  allowLoopback : Bool
  deriving Repr

namespace EgressPolicy

/-- The built-in Web Push hosts and no APNs topic restriction. -/
def default : EgressPolicy where
  webpushHosts := [.exact "fcm.googleapis.com", .exact "updates.push.services.mozilla.com",
    .exact "web.push.apple.com", .subdomain ".notify.windows.com"]
  apnsTopics := none
  allowLoopback := false

/-- Whether a registration may name this APNs topic. -/
def apnsTopicAllowed (policy : EgressPolicy) (topic : String) : Bool :=
  policy.apnsTopics.all fun topics => topics.contains topic

/-- `is_loopback()` of an IP-literal host. -/
def isLoopback : Host → Bool
  | .domain _ => false
  | .ipv4 octets => octets.head? == some 127
  | .ipv6 segments => segments == [0, 0, 0, 0, 0, 0, 0, 1]

/-- Validate a Web Push endpoint and return the parsed URL. -/
def validateWebpushEndpoint {DocumentDigest : Type} (crates : Crates DocumentDigest)
    (policy : EgressPolicy) (raw : String) : Except EgressError Url :=
  if maxEndpointLen < raw.utf8ByteSize then .error .tooLong
  else
    match crates.parseUrl raw with
    | none => .error .unparseable
    | some url =>
        let loopbackOk := policy.allowLoopback && url.host.any isLoopback
        if ¬(url.scheme = "https" ∨ (url.scheme = "http" ∧ loopbackOk)) then .error .notHttps
        else if url.username ≠ "" ∨ url.password.isSome then .error .userInfo
        else if url.fragment.isSome then .error .fragment
        else if url.port.isSome ∧ ¬loopbackOk then .error .port
        else
          match url.host with
          | some (.domain host) =>
              if policy.webpushHosts.any fun rule => rule.matches host then .ok url
              else .error .hostNotAllowed
          | some (.ipv4 _) => if loopbackOk then .ok url else .error .ipLiteral
          | some (.ipv6 _) => if loopbackOk then .ok url else .error .ipLiteral
          | none => .error .unparseable

end EgressPolicy

end PushGateway
