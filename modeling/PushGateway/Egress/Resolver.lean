import PushGateway.Egress
import PushGateway.Egress.Address

/-!
# The guarded resolver

The resolver every push client dials through, and what its address guard admits.  The guard is a
list of refused blocks: an IPv6 address outside global unicast which no block and no decoded form
covers is classified as public, the IPv4-translated form among them.
-/

namespace PushGateway

open EmbeddingForm

/-- `GuardedResolver`. -/
structure GuardedResolver where
  allowLoopback : Bool := false
  deriving DecidableEq, Repr

/-- Why a name was not resolved. -/
inductive ResolveError (LookupError : Type) where
  | lookup (error : LookupError)
  /-- `BlockedAddress`. -/
  | blocked (host : String)

namespace GuardedResolver

def forPolicy (policy : EgressPolicy) : GuardedResolver where
  allowLoopback := policy.allowLoopback

def acceptable (resolver : GuardedResolver) (ip : IpAddr) : Bool :=
  isPublicIp ip || (resolver.allowLoopback && ip.isLoopback)

/-- `resolve`, over the answer of `lookup_host`. -/
def resolve {LookupError : Type} (resolver : GuardedResolver)
    (lookupHost : String → Except LookupError (List IpAddr)) (name : String) :
    Except (ResolveError LookupError) (List IpAddr) :=
  match lookupHost name with
  | .error error => .error (.lookup error)
  | .ok addresses =>
      if addresses.isEmpty || addresses.any fun ip => !resolver.acceptable ip then
        .error (.blocked name)
      else .ok addresses

/-- A name resolves to all its addresses or to none. -/
theorem resolve_eq_ok_iff {LookupError : Type} (resolver : GuardedResolver)
    (lookupHost : String → Except LookupError (List IpAddr)) (name : String)
    (addresses : List IpAddr) :
    resolver.resolve lookupHost name = .ok addresses ↔
      lookupHost name = .ok addresses ∧ addresses ≠ [] ∧
        ∀ ip ∈ addresses, resolver.acceptable ip := by
  rw [resolve]
  cases answer : lookupHost name with
  | error error => simp
  | ok found =>
      by_cases refused : found.isEmpty || found.any fun ip => !resolver.acceptable ip
      · simp only [refused, if_true, reduceCtorEq, Except.ok.injEq, false_iff]
        rintro ⟨rfl, nonempty, every⟩
        simp only [Bool.or_eq_true, List.isEmpty_iff, List.any_eq_true, Bool.not_eq_true',
          nonempty, false_or] at refused
        obtain ⟨ip, listed, unacceptable⟩ := refused
        rw [every ip listed] at unacceptable
        cases unacceptable
      · simp only [refused, Bool.false_eq_true, if_false, Except.ok.injEq]
        simp only [Bool.or_eq_true, List.isEmpty_iff, List.any_eq_true, Bool.not_eq_true',
          not_or, not_exists, not_and, Bool.not_eq_false] at refused
        constructor
        · rintro rfl
          exact ⟨rfl, refused⟩
        · exact fun found_eq => found_eq.1

/-- Every address a production client dials passed the guard. -/
theorem resolve_public {LookupError : Type} {policy : EgressPolicy}
    (production : policy.allowLoopback = false)
    {lookupHost : String → Except LookupError (List IpAddr)} {name : String}
    {addresses : List IpAddr}
    (resolved : (forPolicy policy).resolve lookupHost name = .ok addresses) :
    ∀ ip ∈ addresses, isPublicIp ip := by
  intro ip listed
  have accepted := ((resolve_eq_ok_iff _ _ _ _).mp resolved).2.2 ip listed
  simpa [acceptable, forPolicy, production] using accepted

end GuardedResolver

/-! ## What the guard admits -/

/-- `2000::/3`. -/
def globalUnicast : AddressBlock 128 where
  network := (Ipv6Addr.new 0x2000 0 0 0 0 0 0 0).bits
  length := 3

theorem not_mem_internal_of_public {address : Ipv4Addr} (admitted : isPublicIpv4 address) :
    ∀ block ∈ internalIpv4, address.bits ∉ block := by
  have refused : internalIpv4 ⊆ refusedIpv4 := by decide
  exact fun block listed => (isPublicIpv4_iff address).mp admitted block (refused listed)

/-- An address of a form the guard decodes is classified by its destination. -/
theorem isPublicIpv6_of_form {address : Ipv6Addr} {form : EmbeddingForm}
    (read : form ∈ sixToFour :: decoded) (inside : address.bits ∈ form.block) :
    isPublicIpv6 address = isPublicIpv4 (form.embedded address) := by
  have apart : ∀ {other : EmbeddingForm}, form.block.Apart other.block →
      address.bits ∉ other.block := fun apart => apart.not_mem inside
  rw [isPublicIpv6_eq]
  simp only [decoded, List.mem_cons, List.not_mem_nil, or_false] at read
  obtain rfl | rfl | rfl | rfl := read
  · have not_read : ¬(address.bits ∈ mapped.block ∨ address.bits ∈ compatible.block) :=
      not_or.mpr ⟨apart (by decide), apart (by decide)⟩
    rw [if_neg not_read, if_neg (apart (by decide)), if_pos inside]
  · rw [if_pos (Or.inl inside)]
  · rw [if_pos (Or.inr inside)]
    rfl
  · have not_read : ¬(address.bits ∈ mapped.block ∨ address.bits ∈ compatible.block) :=
      not_or.mpr ⟨apart (by decide), apart (by decide)⟩
    rw [if_neg not_read, if_pos inside]

/-- Outside the decoded forms only the refused blocks are not public. -/
theorem isPublicIpv6_of_no_form {address : Ipv6Addr}
    (outside : ∀ form ∈ sixToFour :: decoded, address.bits ∉ form.block) :
    isPublicIpv6 address ↔ ∀ block ∈ refusedIpv6, address.bits ∉ block := by
  simp only [decoded, List.forall_mem_cons, List.not_mem_nil, false_implies, implies_true,
    and_true] at outside
  obtain ⟨not_relayed, not_mapped, not_compatible, not_nat64⟩ := outside
  simp [isPublicIpv6_eq, not_relayed, not_mapped, not_compatible, not_nat64]

/-- What the guard owes an IPv6 address it admits: global unicast, or a decoded form with a public
destination; and no form of it leads inside. -/
structure AdmittedGlobally (address : Ipv6Addr) : Prop where
  unicast : address.bits ∈ globalUnicast ∨
    ∃ form ∈ decoded, address.bits ∈ form.block ∧ isPublicIp (.v4 (form.embedded address))
  relayed : address.bits ∈ sixToFour.block → isPublicIp (.v4 (sixToFour.embedded address))
  outward : ∀ form ∈ EmbeddingForm.all, address.bits ∈ form.block →
    ∀ block ∈ internalIpv4, (form.embedded address).bits ∉ block

/-- Apart from the IPv4-translated form, the destination of an admitted address is public. -/
theorem admittedGlobally_of_public {address : Ipv6Addr} (admitted : isPublicIpv6 address)
    (native : address.bits ∉ translated.block)
    (unicast : address.bits ∈ globalUnicast ∨ ∃ form ∈ decoded, address.bits ∈ form.block) :
    AdmittedGlobally address := by
  have embedded_public : ∀ form ∈ sixToFour :: decoded, address.bits ∈ form.block →
      isPublicIpv4 (form.embedded address) := by
    intro form read inside
    rwa [← isPublicIpv6_of_form read inside]
  refine ⟨?_, embedded_public sixToFour List.mem_cons_self, ?_⟩
  · obtain inside | ⟨form, read, inside⟩ := unicast
    · exact Or.inl inside
    · exact Or.inr ⟨form, read, inside,
        embedded_public form (List.mem_cons_of_mem _ read) inside⟩
  · intro form listed inside
    have covered : EmbeddingForm.all ⊆ translated :: sixToFour :: decoded := by decide
    obtain rfl | read := List.mem_cons.mp (covered listed)
    · exact absurd inside native
    · exact not_mem_internal_of_public (embedded_public form read inside)

/-- The guard admits only global unicast, exactly for the addresses of global unicast, of a decoded
form or of a refused block. -/
theorem admits_only_global_iff (address : Ipv6Addr) :
    (isPublicIp (.v6 address) → AdmittedGlobally address) ↔
      address.bits ∈ globalUnicast ∨ (∃ form ∈ decoded, address.bits ∈ form.block) ∨
        ∃ block ∈ refusedIpv6, address.bits ∈ block := by
  have relay_global : address.bits ∈ sixToFour.block → address.bits ∈ globalUnicast :=
    fun inside => (AddressBlock.mem_iff_network_mem (by decide) inside).mpr (by decide)
  have outside (not_global : address.bits ∉ globalUnicast)
      (not_decoded : ¬∃ form ∈ decoded, address.bits ∈ form.block) :
      ∀ form ∈ sixToFour :: decoded, address.bits ∉ form.block :=
    List.forall_mem_cons.mpr ⟨mt relay_global not_global,
      fun form read inside => not_decoded ⟨form, read, inside⟩⟩
  constructor
  · intro owed
    by_contra uncovered
    obtain ⟨not_global, not_decoded, not_refused⟩ := by simpa only [not_or] using uncovered
    have admitted : isPublicIpv6 address :=
      (isPublicIpv6_of_no_form (outside not_global not_decoded)).mpr
        fun block listed inside => not_refused ⟨block, listed, inside⟩
    obtain inside | ⟨form, read, inside, -⟩ := (owed admitted).unicast
    · exact not_global inside
    · exact not_decoded ⟨form, read, inside⟩
  · intro covered admitted
    by_cases unicast : address.bits ∈ globalUnicast ∨ ∃ form ∈ decoded, address.bits ∈ form.block
    · refine admittedGlobally_of_public admitted ?_ unicast
      obtain inside | ⟨form, read, inside⟩ := unicast
      · have apart : globalUnicast.Apart translated.block := by decide
        exact apart.not_mem inside
      · have apart : ∀ form ∈ decoded, form.block.Apart translated.block := by decide
        exact (apart form read).not_mem inside
    · -- What is left lies in a refused block and in no decoded form.
      obtain ⟨not_global, not_decoded⟩ := not_or.mp unicast
      have public_iff := isPublicIpv6_of_no_form (outside not_global not_decoded)
      obtain inside | inside | ⟨block, listed, inside⟩ := covered
      · exact absurd inside not_global
      · exact absurd inside not_decoded
      · exact absurd inside (public_iff.mp admitted block listed)

/-- `::ffff:0:127.0.0.1` is classified as public. -/
theorem translated_loopback_admitted :
    ¬(isPublicIp (.v6 (.new 0 0 0 0 0xffff 0 0x7f00 1)) →
      AdmittedGlobally (.new 0 0 0 0 0xffff 0 0x7f00 1)) :=
  fun owed => absurd (owed (by decide)).unicast (by decide)

end PushGateway
