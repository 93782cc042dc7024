import Mathlib.Data.List.Dedup
import Mathlib.Data.List.Sort
import Mathlib.Data.String.Basic
import PushGateway.Egress.HostName

/-!
# Configuration

The egress policy as the operator configures it, and what an endpoint needs to pass it.  The policy
keeps parsed rules; an endpoint is accepted for what the configuration lists.
-/

namespace PushGateway

/-- `ENV_WEBPUSH_ALLOWED_HOSTS`. -/
def envWebpushAllowedHosts : String := "GATEWAY_WEBPUSH_ALLOWED_HOSTS"

/-- `DEFAULT_HOSTS_TOKEN`. -/
def defaultHostsToken : String := "@default"

/-- `DEFAULT_WEBPUSH_HOSTS`. -/
def defaultWebpushHosts : List String :=
  ["fcm.googleapis.com", "updates.push.services.mozilla.com", "web.push.apple.com",
    "*.notify.windows.com"]

/-- The built-in rules; `defaultRules_eq` shows that none is dropped. -/
def defaultRules : List HostRule :=
  defaultWebpushHosts.filterMap fun host => (HostRule.parse host).toOption

/-- The derived order of the rules. -/
def HostRule.le : HostRule → HostRule → Bool
  | .exact left, .exact right => left ≤ right
  | .exact _, .subdomain _ => true
  | .subdomain _, .exact _ => false
  | .subdomain left, .subdomain right => left ≤ right

/-- `str::trim`. -/
def trim (text : List Char) : List Char :=
  ((text.dropWhile isWhiteSpace).reverse.dropWhile isWhiteSpace).reverse

/-- The entries of a comma-separated value. -/
def listEntries (spec : String) : List String :=
  ((spec.toList.splitOn ',').map fun entry => String.ofList (trim entry)).filter
    fun entry => !entry.isEmpty

/-- The loop over the entries; what is inserted into the set so far comes first. -/
def collectRules : List HostRule → List String → Except String (List HostRule)
  | rules, [] => .ok rules
  | rules, entry :: rest =>
      if entry = defaultHostsToken then collectRules (rules ++ defaultRules) rest
      else
        match HostRule.parse entry with
        | .error error => .error s!"{envWebpushAllowedHosts}: {error}"
        | .ok rule => collectRules (rules ++ [rule]) rest

/-- The host rules of a configuration value. -/
def webpushHostRules : Option String → Except String (List HostRule)
  | none => .ok defaultRules
  | some spec =>
      match collectRules [] (listEntries spec) with
      | .error error => .error error
      | .ok rules =>
          if rules.isEmpty then
            .error (s!"{envWebpushAllowedHosts} is set but lists no hosts " ++
              s!"(use `{defaultHostsToken}` for the built-in push services)")
          else .ok (rules.dedup.insertionSort fun left right => left.le right)

/-- The topics of a configuration value; an empty one does not restrict them. -/
def apnsTopicSet (spec : Option String) : Option (List String) :=
  (spec.map fun spec => (listEntries spec).dedup.insertionSort (· ≤ ·)).filter
    fun topics => !topics.isEmpty

/-- Build a policy from raw configuration values. -/
def EgressPolicy.fromConfig (webpushHosts apnsTopics : Option String) :
    Except String EgressPolicy :=
  match webpushHostRules webpushHosts with
  | .error error => .error error
  | .ok rules => .ok ⟨rules, apnsTopicSet apnsTopics, false⟩

theorem defaultRules_eq : defaultRules = EgressPolicy.default.webpushHosts := by decide

/-! ## What a configuration lists -/

/-- Entries with the built-in ones written out. -/
def writeOut (entries : List String) : List String :=
  entries.flatMap fun entry =>
    if entry = defaultHostsToken then defaultWebpushHosts else [entry]

def writtenEntries : Option String → List String
  | none => defaultWebpushHosts
  | some spec => writeOut (listEntries spec)

/-- The entries an operator lists, in lower case. -/
def listedEntries (webpushHosts : Option String) : List String :=
  (writtenEntries webpushHosts).map toAsciiLowercase

/-- An entry admits itself and, when it is `*.` before a base, what stands before that base. -/
def EntryAdmits (entry domain : String) : Prop :=
  entry = domain ∨
    ∃ base front, entry = "*." ++ base ∧ front ≠ "" ∧ domain = front ++ "." ++ base

theorem isSome_parse_defaultWebpushHosts :
    ∀ host ∈ defaultWebpushHosts, (HostRule.parse host).toOption.isSome := by
  decide

theorem Except.toOption_eq_some_iff {Error Value : Type} {result : Except Error Value}
    {value : Value} : result.toOption = some value ↔ result = .ok value := by
  cases result <;> simp [Except.toOption]

/-- The loop collects the rules of the written entries, and stops at an entry without one. -/
theorem collectRules_eq_ok {before rules : List HostRule} {entries : List String}
    (collected : collectRules before entries = .ok rules) :
    rules = before ++ (writeOut entries).filterMap (fun entry => (HostRule.parse entry).toOption) ∧
      ∀ entry ∈ writeOut entries, (HostRule.parse entry).toOption.isSome := by
  induction entries generalizing before with
  | nil =>
      cases collected
      simp [writeOut]
  | cons entry rest ih =>
      rw [collectRules] at collected
      split at collected
      · rename_i builtin
        obtain ⟨rfl, parsed⟩ := ih collected
        have written : writeOut (entry :: rest) = defaultWebpushHosts ++ writeOut rest := by
          rw [writeOut, List.flatMap_cons, if_pos builtin]
          rfl
        rw [written, List.filterMap_append, List.append_assoc]
        exact ⟨rfl, List.forall_mem_append.mpr ⟨isSome_parse_defaultWebpushHosts, parsed⟩⟩
      · rename_i other
        split at collected
        · cases collected
        · rename_i rule parse
          obtain ⟨rfl, parsed⟩ := ih collected
          have written : writeOut (entry :: rest) = entry :: writeOut rest := by
            rw [writeOut, List.flatMap_cons, if_neg other]
            rfl
          have read : (HostRule.parse entry).toOption = some rule :=
            Except.toOption_eq_some_iff.mpr parse
          rw [written, List.filterMap_cons, read, List.append_assoc]
          exact ⟨rfl, List.forall_mem_cons.mpr ⟨by rw [read]; rfl, parsed⟩⟩

/-- The configured rules are those of the written entries, each of which has one. -/
theorem webpushHostRules_eq_ok {webpushHosts : Option String} {rules : List HostRule}
    (read : webpushHostRules webpushHosts = .ok rules) :
    (∀ entry ∈ writtenEntries webpushHosts, ∃ rule, HostRule.parse entry = .ok rule) ∧
      ∀ rule, rule ∈ rules ↔
        ∃ entry ∈ writtenEntries webpushHosts, HostRule.parse entry = .ok rule := by
  simp only [← Except.toOption_eq_some_iff, ← Option.isSome_iff_exists, ← List.mem_filterMap]
  cases webpushHosts with
  | none =>
      cases read
      exact ⟨isSome_parse_defaultWebpushHosts, fun rule => Iff.rfl⟩
  | some spec =>
      rw [webpushHostRules] at read
      split at read
      · cases read
      · rename_i collected
        split at read
        · cases read
        · cases read
          obtain ⟨rfl, parsed⟩ := collectRules_eq_ok collected
          refine ⟨parsed, fun rule => ?_⟩
          rw [List.mem_insertionSort, List.mem_dedup, List.nil_append, writtenEntries]

theorem HostRule.matches_subdomain_iff (suffix domain : String) :
    (HostRule.subdomain suffix).matches domain ↔
      ∃ front, front ≠ "" ∧ domain = front ++ suffix := by
  simp only [HostRule.matches, Bool.and_eq_true, decide_eq_true_eq, List.isSuffixOf_iff_suffix]
  constructor
  · rintro ⟨longer, front, spelled⟩
    have joined : domain = String.ofList front ++ suffix := by
      rw [← String.toList_inj, String.toList_append, String.toList_ofList, spelled]
    refine ⟨String.ofList front, ?_, joined⟩
    intro empty
    rw [joined, empty, String.utf8ByteSize_append] at longer
    simp at longer
  · rintro ⟨front, nonempty, rfl⟩
    have positive : front.utf8ByteSize ≠ 0 := mt String.utf8ByteSize_eq_zero_iff.mp nonempty
    refine ⟨?_, front.toList, by rw [String.toList_append]⟩
    rw [String.utf8ByteSize_append]
    omega

/-- A rule matches what its entry, in lower case, admits. -/
theorem HostRule.matches_iff_admits {entry : String} {rule : HostRule}
    (parsed : HostRule.parse entry = .ok rule) (domain : String) :
    rule.matches domain ↔ EntryAdmits (toAsciiLowercase entry) domain := by
  obtain ⟨base, wildcard, -, -, rfl⟩ | ⟨accepted, rfl⟩ :=
    (HostRule.parse_eq_ok_iff entry rule).mp parsed
  · rw [HostRule.matches_subdomain_iff, EntryAdmits, wildcard]
    constructor
    · rintro ⟨front, nonempty, rfl⟩
      exact Or.inr ⟨base, front, rfl, nonempty, (String.append_assoc).symm⟩
    · rintro (rfl | ⟨other, front, same, nonempty, rfl⟩)
      · -- The entry itself: a star stands before its base.
        exact ⟨"*", by decide, by rw [← String.append_assoc]; rfl⟩
      · rw [String.append_right_inj] at same
        subst same
        exact ⟨front, nonempty, String.append_assoc⟩
  · simp only [HostRule.matches, decide_eq_true_eq, EntryAdmits]
    constructor
    · exact fun same => Or.inl same.symm
    · rintro (same | ⟨base, front, wildcard, -, -⟩)
      · exact same.symm
      · have no_star := star_not_mem_of_accepted accepted
        rw [wildcard] at no_star
        simp at no_star

/-- A configured policy has the rules of what is listed, and production policies only. -/
theorem fromConfig_eq_ok {webpushHosts apnsTopics : Option String} {policy : EgressPolicy}
    (configured : EgressPolicy.fromConfig webpushHosts apnsTopics = .ok policy) :
    policy.allowLoopback = false ∧ webpushHostRules webpushHosts = .ok policy.webpushHosts := by
  rw [EgressPolicy.fromConfig] at configured
  split at configured
  · cases configured
  · rename_i rules read
    cases configured
    exact ⟨rfl, read⟩

/-- The rules of a configured policy match what the listed entries admit. -/
theorem any_matches_iff {webpushHosts apnsTopics : Option String} {policy : EgressPolicy}
    (configured : EgressPolicy.fromConfig webpushHosts apnsTopics = .ok policy) (domain : String) :
    (policy.webpushHosts.any fun rule => rule.matches domain) ↔
      ∃ entry ∈ listedEntries webpushHosts, EntryAdmits entry domain := by
  obtain ⟨parsed, rules_iff⟩ := webpushHostRules_eq_ok (fromConfig_eq_ok configured).2
  simp only [List.any_eq_true, listedEntries, List.mem_map, exists_exists_and_eq_and]
  constructor
  · rintro ⟨rule, configured_rule, matched⟩
    obtain ⟨entry, listed, parse⟩ := (rules_iff rule).mp configured_rule
    exact ⟨entry, listed, (HostRule.matches_iff_admits parse domain).mp matched⟩
  · rintro ⟨entry, listed, admitted⟩
    obtain ⟨rule, parse⟩ := parsed entry listed
    exact ⟨rule, (rules_iff rule).mpr ⟨entry, listed, parse⟩,
      (HostRule.matches_iff_admits parse domain).mpr admitted⟩

/-- A wildcard of an accepted configuration has a base of at least three labels. -/
theorem three_le_labels {webpushHosts apnsTopics : Option String} {policy : EgressPolicy}
    (configured : EgressPolicy.fromConfig webpushHosts apnsTopics = .ok policy) {base : String}
    (listed : "*." ++ base ∈ listedEntries webpushHosts) : 3 ≤ (splitDots base).length := by
  obtain ⟨parsed, -⟩ := webpushHostRules_eq_ok (fromConfig_eq_ok configured).2
  obtain ⟨entry, written, lowered⟩ := List.mem_map.mp listed
  obtain ⟨rule, parse⟩ := parsed entry written
  obtain ⟨other, wildcard, -, broad, -⟩ | ⟨accepted, -⟩ :=
    (HostRule.parse_eq_ok_iff entry rule).mp parse
  · rw [lowered, String.append_right_inj] at wildcard
    rwa [wildcard]
  · have no_star := star_not_mem_of_accepted accepted
    rw [lowered] at no_star
    simp at no_star

/-! ## What an endpoint needs -/

/-- An `https` URL of a domain, without user, fragment or port. -/
structure Url.Plain (url : Url) (domain : String) : Prop where
  scheme : url.scheme = "https"
  username : url.username = ""
  password : url.password = none
  fragment : url.fragment = none
  port : url.port = none
  host : url.host = some (.domain domain)

section Endpoint

variable {DocumentDigest : Type} (crates : Crates DocumentDigest)

theorem validateWebpushEndpoint_eq_ok_iff {policy : EgressPolicy}
    (production : policy.allowLoopback = false) (raw : String) (url : Url) :
    policy.validateWebpushEndpoint crates raw = .ok url ↔
      raw.utf8ByteSize ≤ maxEndpointLen ∧ crates.parseUrl raw = some url ∧
        ∃ domain, url.Plain domain ∧ policy.webpushHosts.any fun rule => rule.matches domain := by
  rw [EgressPolicy.validateWebpushEndpoint]
  constructor
  · intro accepted
    split at accepted
    · cases accepted
    · rename_i bounded
      split at accepted
      · cases accepted
      · rename_i parsed parse
        simp only [production, Bool.false_and, Bool.false_eq_true, and_false, or_false,
          not_false_eq_true, and_true, if_false] at accepted
        split at accepted
        · cases accepted
        · rename_i scheme
          split at accepted
          · cases accepted
          · rename_i userinfo
            split at accepted
            · cases accepted
            · rename_i fragment
              split at accepted
              · cases accepted
              · rename_i port
                split at accepted
                · rename_i domain host
                  split at accepted
                  · rename_i matched
                    cases accepted
                    simp only [not_or, not_not, Bool.not_eq_true, Option.isSome_eq_false_iff,
                      Option.isNone_iff_eq_none] at scheme userinfo fragment port
                    exact ⟨Nat.not_lt.mp bounded, parse, domain,
                      ⟨scheme, userinfo.1, userinfo.2, fragment, port, host⟩, matched⟩
                  · cases accepted
                · cases accepted
                · cases accepted
                · cases accepted
  · rintro ⟨bounded, parse, domain, plain, matched⟩
    simp [Nat.not_lt.mpr bounded, parse, plain.scheme, plain.username, plain.password,
      plain.fragment, plain.port, plain.host, matched]

/-- An endpoint passes a configured policy when it is a short plain `https` URL of a listed domain;
wildcards sit below three labels, and no literal address passes. -/
theorem endpoint_accepted_iff {webpushHosts apnsTopics : Option String} {policy : EgressPolicy}
    (configured : EgressPolicy.fromConfig webpushHosts apnsTopics = .ok policy) :
    (∀ raw url, policy.validateWebpushEndpoint crates raw = .ok url ↔
      raw.utf8ByteSize ≤ 2048 ∧ crates.parseUrl raw = some url ∧
        ∃ domain, url.Plain domain ∧
          ∃ entry ∈ listedEntries webpushHosts, EntryAdmits entry domain) ∧
    (∀ base, "*." ++ base ∈ listedEntries webpushHosts → 3 ≤ (splitDots base).length) ∧
    (∀ raw url, policy.validateWebpushEndpoint crates raw = .ok url →
      ∃ domain, url.host = some (.domain domain)) := by
  have accepted_iff := validateWebpushEndpoint_eq_ok_iff crates (fromConfig_eq_ok configured).1
  refine ⟨fun raw url => ?_, fun base => three_le_labels configured, fun raw url accepted => ?_⟩
  · simp only [accepted_iff, any_matches_iff configured, maxEndpointLen]
  · obtain ⟨-, -, domain, plain, -⟩ := (accepted_iff raw url).mp accepted
    exact ⟨domain, plain.host⟩

end Endpoint

/-- `https://a.up.example.net/x`. -/
def wildcardUrl : Url :=
  ⟨"https", "", none, some (.domain "a.up.example.net"), none, "/x", none, none⟩

/-- The stand-in, reading that URL. -/
def urlCrates : Crates PlainDigest :=
  { plainCrates with
    parseUrl := fun raw => if raw = "https://a.up.example.net/x" then some wildcardUrl else none }

theorem endpoint_of_a_listed_wildcard :
    ∃ policy, EgressPolicy.fromConfig
        (some " @default , push.example.org, *.Up.Example.net ") none = .ok policy ∧
      policy.validateWebpushEndpoint urlCrates "https://a.up.example.net/x" = .ok wildcardUrl := by
  let policy : EgressPolicy :=
    ⟨[.exact "fcm.googleapis.com", .exact "push.example.org",
      .exact "updates.push.services.mozilla.com", .exact "web.push.apple.com",
      .subdomain ".notify.windows.com", .subdomain ".up.example.net"], none, false⟩
  have configured : EgressPolicy.fromConfig
      (some " @default , push.example.org, *.Up.Example.net ") none = .ok policy := by
    rfl
  refine ⟨policy, configured, ?_⟩
  exact ((endpoint_accepted_iff urlCrates configured).1 _ _).mpr
    ⟨by decide, by decide, "a.up.example.net", ⟨rfl, rfl, rfl, rfl, rfl, rfl⟩,
      "*.up.example.net", by decide, Or.inr ⟨"up.example.net", "a", by decide⟩⟩

end PushGateway
