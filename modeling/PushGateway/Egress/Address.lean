import PushGateway.Foundation.AddressBlock

/-!
# Egress addresses

Which addresses a push client may connect to.  The source classifies an address by comparisons of
its octets or its 16-bit segments; here each comparison is shown to be membership in one block, and
the whole classification is stated over blocks.
-/

namespace PushGateway

/-- `std::net::Ipv4Addr`. -/
structure Ipv4Addr where
  bits : BitVec 32
  deriving DecidableEq, Repr

/-- `std::net::Ipv6Addr`. -/
structure Ipv6Addr where
  bits : BitVec 128
  deriving DecidableEq, Repr

/-- `std::net::IpAddr`. -/
inductive IpAddr where
  | v4 (address : Ipv4Addr)
  | v6 (address : Ipv6Addr)
  deriving DecidableEq, Repr

theorem toNat_append_word {width : Nat} (high : BitVec width) (low : BitVec 16) :
    (high ++ low).toNat = high.toNat * 2 ^ 16 + low.toNat := by
  rw [BitVec.toNat_append, ← Nat.shiftLeft_add_eq_or_of_lt low.isLt, Nat.shiftLeft_eq]

namespace Ipv4Addr

/-- One of `octets()`, the first being the most significant. -/
def octet (address : Ipv4Addr) (index : Nat) : BitVec 8 :=
  address.bits.extractLsb' (24 - 8 * index) 8

/-- `Ipv4Addr::from((u32::from(high) << 16) | u32::from(low))`. -/
def ofSegments (high low : BitVec 16) : Ipv4Addr where
  bits := high.setWidth 32 <<< 16 ||| low.setWidth 32

/-- `is_loopback()`. -/
def isLoopback (address : Ipv4Addr) : Bool :=
  address.octet 0 == 127

theorem toNat_octet (address : Ipv4Addr) (index : Nat) :
    (address.octet index).toNat = address.bits.toNat / 2 ^ (24 - 8 * index) % 2 ^ 8 := by
  rw [octet, BitVec.extractLsb'_toNat, Nat.shiftRight_eq_div_pow]

theorem toNat_ofSegments (high low : BitVec 16) :
    (ofSegments high low).bits.toNat = high.toNat * 2 ^ 16 + low.toNat := by
  have appended : (ofSegments high low).bits = high ++ low := by
    rw [ofSegments, BitVec.append_def, BitVec.shiftLeftZeroExtend_eq, BitVec.setWidth'_eq]
  rw [appended, toNat_append_word]

end Ipv4Addr

namespace Ipv6Addr

/-- `Ipv6Addr::new`. -/
def new (s0 s1 s2 s3 s4 s5 s6 s7 : BitVec 16) : Ipv6Addr where
  bits := s0 ++ s1 ++ s2 ++ s3 ++ s4 ++ s5 ++ s6 ++ s7

theorem toNat_new (s0 s1 s2 s3 s4 s5 s6 s7 : BitVec 16) :
    (new s0 s1 s2 s3 s4 s5 s6 s7).bits.toNat =
      ((((((s0.toNat * 2 ^ 16 + s1.toNat) * 2 ^ 16 + s2.toNat) * 2 ^ 16 + s3.toNat) * 2 ^ 16 +
        s4.toNat) * 2 ^ 16 + s5.toNat) * 2 ^ 16 + s6.toNat) * 2 ^ 16 + s7.toNat := by
  simp only [new, toNat_append_word]

/-- One of `segments()`, the first being the most significant. -/
def segment (address : Ipv6Addr) (index : Nat) : BitVec 16 :=
  address.bits.extractLsb' (112 - 16 * index) 16

/-- `is_unspecified()`. -/
def isUnspecified (address : Ipv6Addr) : Bool :=
  address.bits == 0

/-- `is_loopback()`. -/
def isLoopback (address : Ipv6Addr) : Bool :=
  address.bits == 1

/-- `to_ipv4()`: the address an IPv4-mapped or IPv4-compatible address embeds. -/
def toIpv4 (address : Ipv6Addr) : Option Ipv4Addr :=
  if address.segment 0 = 0 ∧ address.segment 1 = 0 ∧ address.segment 2 = 0 ∧
      address.segment 3 = 0 ∧ address.segment 4 = 0 ∧
      (address.segment 5 = 0 ∨ address.segment 5 = 0xffff) then
    some (.ofSegments (address.segment 6) (address.segment 7))
  else none

theorem toNat_segment (address : Ipv6Addr) (index : Nat) :
    (address.segment index).toNat = address.bits.toNat / 2 ^ (112 - 16 * index) % 2 ^ 16 := by
  rw [segment, BitVec.extractLsb'_toNat, Nat.shiftRight_eq_div_pow]

theorem segments_new (s0 s1 s2 s3 s4 s5 s6 s7 : BitVec 16) :
    (new s0 s1 s2 s3 s4 s5 s6 s7).segment 0 = s0 ∧ (new s0 s1 s2 s3 s4 s5 s6 s7).segment 1 = s1 ∧
      (new s0 s1 s2 s3 s4 s5 s6 s7).segment 2 = s2 ∧ (new s0 s1 s2 s3 s4 s5 s6 s7).segment 3 = s3 ∧
      (new s0 s1 s2 s3 s4 s5 s6 s7).segment 4 = s4 ∧
      (new s0 s1 s2 s3 s4 s5 s6 s7).segment 5 = s5 := by
  simp only [← BitVec.toNat_inj, toNat_segment, toNat_new]
  have := s0.isLt
  have := s1.isLt
  have := s2.isLt
  have := s3.isLt
  have := s4.isLt
  have := s5.isLt
  have := s6.isLt
  have := s7.isLt
  refine ⟨?_, ?_, ?_, ?_, ?_, ?_⟩ <;> omega

end Ipv6Addr

/-- `is_loopback()`. -/
def IpAddr.isLoopback : IpAddr → Bool
  | .v4 address => address.isLoopback
  | .v6 address => address.isLoopback

/-! ## The classification of the source -/

def isPublicIpv4 (address : Ipv4Addr) : Bool :=
  let o0 := address.octet 0
  let o1 := address.octet 1
  let o2 := address.octet 2
  let blocked :=
    o0 = 0
      ∨ o0 = 10
      ∨ (o0 = 100 ∧ 64 ≤ o1 ∧ o1 < 128)
      ∨ o0 = 127
      ∨ (o0 = 169 ∧ o1 = 254)
      ∨ (o0 = 172 ∧ 16 ≤ o1 ∧ o1 < 32)
      ∨ (o0 = 192 ∧ o1 = 0 ∧ o2 = 0)
      ∨ (o0 = 192 ∧ o1 = 0 ∧ o2 = 2)
      ∨ (o0 = 192 ∧ o1 = 88 ∧ o2 = 99)
      ∨ (o0 = 192 ∧ o1 = 168)
      ∨ (o0 = 198 ∧ o1 &&& 0xfe = 18)
      ∨ (o0 = 198 ∧ o1 = 51 ∧ o2 = 100)
      ∨ (o0 = 203 ∧ o1 = 0 ∧ o2 = 113)
      ∨ 224 ≤ o0
  decide ¬blocked

/-- The last step of `is_public_ipv6`: the prefixes it refuses by their own segments. -/
def blockedIpv6 (address : Ipv6Addr) : Prop :=
  let s0 := address.segment 0
  let s1 := address.segment 1
  let s2 := address.segment 2
  let s3 := address.segment 3
  (s0 = 0x0064 ∧ s1 = 0xff9b ∧ s2 = 0x0001)
    ∨ (s0 = 0x0100 ∧ s1 = 0 ∧ s2 = 0 ∧ s3 = 0)
    ∨ (s0 = 0x2001 ∧ s1 < 0x0200)
    ∨ (s0 = 0x2001 ∧ s1 = 0x0db8)
    ∨ (s0 = 0x3fff ∧ s1 < 0x1000)
    ∨ s0 &&& 0xfe00 = 0xfc00
    ∨ s0 &&& 0xffc0 = 0xfe80
    ∨ s0 &&& 0xffc0 = 0xfec0
    ∨ s0 &&& 0xff00 = 0xff00

instance (address : Ipv6Addr) : Decidable (blockedIpv6 address) :=
  inferInstanceAs (Decidable (_ ∨ _ ∨ _ ∨ _ ∨ _ ∨ _ ∨ _ ∨ _ ∨ _))

def isPublicIpv6 (address : Ipv6Addr) : Bool :=
  if address.isUnspecified ∨ address.isLoopback then false
  else
    match address.toIpv4 with
    | some embedded => isPublicIpv4 embedded
    | none =>
        if address.segment 0 = 0x0064 ∧ address.segment 1 = 0xff9b ∧ address.segment 2 = 0 ∧
            address.segment 3 = 0 ∧ address.segment 4 = 0 ∧ address.segment 5 = 0 then
          isPublicIpv4 (.ofSegments (address.segment 6) (address.segment 7))
        else if address.segment 0 = 0x2002 then
          isPublicIpv4 (.ofSegments (address.segment 1) (address.segment 2))
        else decide ¬blockedIpv6 address

/-- Whether the address is one the gateway may connect to. -/
def isPublicIp : IpAddr → Bool
  | .v4 address => isPublicIpv4 address
  | .v6 address => isPublicIpv6 address

/-! ## The blocks behind the comparisons -/

/-- The blocks `is_public_ipv4` refuses, in its order. -/
def refusedIpv4 : List (AddressBlock 32) :=
  [{ network := 0x00000000, length := 8 }, { network := 0x0a000000, length := 8 },
    { network := 0x64400000, length := 10 }, { network := 0x7f000000, length := 8 },
    { network := 0xa9fe0000, length := 16 }, { network := 0xac100000, length := 12 },
    { network := 0xc0000000, length := 24 }, { network := 0xc0000200, length := 24 },
    { network := 0xc0586300, length := 24 }, { network := 0xc0a80000, length := 16 },
    { network := 0xc6120000, length := 15 }, { network := 0xc6336400, length := 24 },
    { network := 0xcb007100, length := 24 }, { network := 0xe0000000, length := 3 }]

/-- Loopback, the private blocks and link-local. -/
def internalIpv4 : List (AddressBlock 32) :=
  [{ network := 0x7f000000, length := 8 }, { network := 0x0a000000, length := 8 },
    { network := 0xac100000, length := 12 }, { network := 0xc0a80000, length := 16 },
    { network := 0xa9fe0000, length := 16 }]

theorem and_254_eq_iff (word : BitVec 8) : word &&& 0xfe = 18 ↔ word.toNat / 2 = 9 := by
  rw [AddressBlock.and_mask_eq_iff 1 (by decide) (by decide)]
  rfl

theorem isPublicIpv4_iff (address : Ipv4Addr) :
    isPublicIpv4 address ↔ ∀ block ∈ refusedIpv4, address.bits ∉ block := by
  have below := address.bits.isLt
  simp only [isPublicIpv4, refusedIpv4, List.forall_mem_cons, List.not_mem_nil, false_implies,
    implies_true, and_true, AddressBlock.mem_iff, decide_eq_true_eq, not_or, and_254_eq_iff]
  simp only [← BitVec.toNat_inj, BitVec.le_def, BitVec.lt_def, Ipv4Addr.toNat_octet,
    BitVec.reduceToNat, Nat.reduceMul, Nat.reduceSub, Nat.reducePow, Nat.reduceDiv]
  -- Both sides list the same blocks in the same order, one by octets and one by its quotient.
  repeat' apply and_congr
  all_goals omega

/-- The blocks the last step of `is_public_ipv6` refuses, in its order. -/
def refusedIpv6 : List (AddressBlock 128) :=
  [{ network := (Ipv6Addr.new 0x64 0xff9b 1 0 0 0 0 0).bits, length := 48 },
    { network := (Ipv6Addr.new 0x100 0 0 0 0 0 0 0).bits, length := 64 },
    { network := (Ipv6Addr.new 0x2001 0 0 0 0 0 0 0).bits, length := 23 },
    { network := (Ipv6Addr.new 0x2001 0xdb8 0 0 0 0 0 0).bits, length := 32 },
    { network := (Ipv6Addr.new 0x3fff 0 0 0 0 0 0 0).bits, length := 20 },
    { network := (Ipv6Addr.new 0xfc00 0 0 0 0 0 0 0).bits, length := 7 },
    { network := (Ipv6Addr.new 0xfe80 0 0 0 0 0 0 0).bits, length := 10 },
    { network := (Ipv6Addr.new 0xfec0 0 0 0 0 0 0 0).bits, length := 10 },
    { network := (Ipv6Addr.new 0xff00 0 0 0 0 0 0 0).bits, length := 8 }]

theorem and_leading_eq_iff (word : BitVec 16) :
    (word &&& 0xfe00 = 0xfc00 ↔ word.toNat / 2 ^ 9 = 0xfc00 / 2 ^ 9) ∧
      (word &&& 0xffc0 = 0xfe80 ↔ word.toNat / 2 ^ 6 = 0xfe80 / 2 ^ 6) ∧
      (word &&& 0xffc0 = 0xfec0 ↔ word.toNat / 2 ^ 6 = 0xfec0 / 2 ^ 6) ∧
      (word &&& 0xff00 = 0xff00 ↔ word.toNat / 2 ^ 8 = 0xff00 / 2 ^ 8) :=
  ⟨AddressBlock.and_mask_eq_iff 9 (by decide) (by decide),
    AddressBlock.and_mask_eq_iff 6 (by decide) (by decide),
    AddressBlock.and_mask_eq_iff 6 (by decide) (by decide),
    AddressBlock.and_mask_eq_iff 8 (by decide) (by decide)⟩

theorem blockedIpv6_iff (address : Ipv6Addr) :
    blockedIpv6 address ↔ ∃ block ∈ refusedIpv6, address.bits ∈ block := by
  have below := address.bits.isLt
  simp only [blockedIpv6, refusedIpv6, List.mem_cons, List.not_mem_nil, exists_eq_or_imp,
    exists_eq_left, or_false, AddressBlock.mem_iff, and_leading_eq_iff]
  simp only [← BitVec.toNat_inj, BitVec.lt_def, Ipv6Addr.toNat_segment, Ipv6Addr.new,
    BitVec.reduceAppend, BitVec.reduceToNat, Nat.reduceMul, Nat.reduceSub, Nat.reducePow,
    Nat.reduceDiv]
  repeat' apply or_congr
  all_goals omega

/-! ## Embedded destinations -/

/-- An IPv6 form which carries an IPv4 destination: its block, and the number of bits below the
destination. -/
structure EmbeddingForm where
  block : AddressBlock 128
  start : Nat
  outside : block.length + 32 + start ≤ 128 := by decide
  deriving DecidableEq

namespace EmbeddingForm

/-- The IPv4 destination an address of this form carries. -/
def embedded (form : EmbeddingForm) (address : Ipv6Addr) : Ipv4Addr where
  bits := address.bits.extractLsb' form.start 32

/-- `::ffff:a.b.c.d`. -/
def mapped : EmbeddingForm where
  block := { network := (Ipv6Addr.new 0 0 0 0 0 0xffff 0 0).bits, length := 96 }
  start := 0

/-- `::a.b.c.d`. -/
def compatible : EmbeddingForm where
  block := { network := (Ipv6Addr.new 0 0 0 0 0 0 0 0).bits, length := 96 }
  start := 0

/-- `64:ff9b::a.b.c.d`. -/
def nat64 : EmbeddingForm where
  block := { network := (Ipv6Addr.new 0x64 0xff9b 0 0 0 0 0 0).bits, length := 96 }
  start := 0

/-- `2002:ab:cd::`. -/
def sixToFour : EmbeddingForm where
  block := { network := (Ipv6Addr.new 0x2002 0 0 0 0 0 0 0).bits, length := 16 }
  start := 80

/-- `::ffff:0:a.b.c.d`. -/
def translated : EmbeddingForm where
  block := { network := (Ipv6Addr.new 0 0 0 0 0xffff 0 0 0).bits, length := 96 }
  start := 0

/-- The forms whose destination decides outside global unicast. -/
def decoded : List EmbeddingForm := [mapped, compatible, nat64]

def all : List EmbeddingForm := [mapped, compatible, nat64, sixToFour, translated]

theorem embedded_eq_ofSegments (form : EmbeddingForm) (address : Ipv6Addr) (index : Nat)
    (aligned : form.start + 16 * index = 96) :
    form.embedded address = .ofSegments (address.segment index) (address.segment (index + 1)) := by
  have same : (form.embedded address).bits =
      (Ipv4Addr.ofSegments (address.segment index) (address.segment (index + 1))).bits := by
    apply BitVec.eq_of_toNat_eq
    rw [Ipv4Addr.toNat_ofSegments, Ipv6Addr.toNat_segment, Ipv6Addr.toNat_segment, embedded,
      BitVec.extractLsb'_toNat, Nat.shiftRight_eq_div_pow]
    have upper : 112 - 16 * index = form.start + 16 := by omega
    have lower : 112 - 16 * (index + 1) = form.start := by omega
    rw [upper, lower, Nat.pow_add, ← Nat.div_div_eq_div_mul]
    omega
  exact congrArg Ipv4Addr.mk same

end EmbeddingForm

open EmbeddingForm

/-- A block of whole segments is recognised by these segments. -/
theorem mem_segments_iff (address network : Ipv6Addr) (count : Nat) (bounded : 16 * count ≤ 128) :
    address.bits ∈ ({ network := network.bits, length := 16 * count, length_le := bounded } :
        AddressBlock 128) ↔
      ∀ index < count, address.segment index = network.segment index := by
  rw [AddressBlock.mem_iff]
  induction count with
  | zero => simp [Nat.div_eq_of_lt, address.bits.isLt, network.bits.isLt]
  | succ count induction =>
      have next : 128 - 16 * count = 128 - 16 * (count + 1) + 16 := by omega
      have last : 112 - 16 * count = 128 - 16 * (count + 1) := by omega
      dsimp only at induction ⊢
      rw [AddressBlock.quotient_eq_iff _ _ _ 16, ← next, induction (by omega),
        Nat.forall_lt_succ_right, ← BitVec.toNat_inj, Ipv6Addr.toNat_segment,
        Ipv6Addr.toNat_segment, last]

theorem mem_leading_iff (address : Ipv6Addr) (s0 s1 s2 s3 s4 s5 : BitVec 16) :
    address.bits ∈ ({ network := (Ipv6Addr.new s0 s1 s2 s3 s4 s5 0 0).bits, length := 96 } :
        AddressBlock 128) ↔
      address.segment 0 = s0 ∧ address.segment 1 = s1 ∧ address.segment 2 = s2 ∧
        address.segment 3 = s3 ∧ address.segment 4 = s4 ∧ address.segment 5 = s5 := by
  refine (mem_segments_iff address (.new s0 s1 s2 s3 s4 s5 0 0) 6 (by decide)).trans ?_
  simp only [Nat.forall_lt_succ_right, Nat.not_lt_zero, false_implies, implies_true, true_and,
    and_assoc, Ipv6Addr.segments_new]

theorem mem_sixToFour_iff (address : Ipv6Addr) :
    address.bits ∈ sixToFour.block ↔ address.segment 0 = 0x2002 := by
  refine (mem_segments_iff address (.new 0x2002 0 0 0 0 0 0 0) 1 (by decide)).trans ?_
  exact ⟨fun same => same 0 Nat.zero_lt_one, fun same index below =>
    Nat.lt_one_iff.mp below ▸ same⟩

/-- The two forms `to_ipv4` reads differ in one segment. -/
theorem toIpv4_eq (address : Ipv6Addr) :
    address.toIpv4 =
      if address.bits ∈ mapped.block ∨ address.bits ∈ compatible.block then
        some (mapped.embedded address)
      else none := by
  have is_mapped : address.bits ∈ mapped.block ↔ _ := mem_leading_iff address 0 0 0 0 0 0xffff
  have is_compatible : address.bits ∈ compatible.block ↔ _ := mem_leading_iff address 0 0 0 0 0 0
  have carried := embedded_eq_ofSegments mapped address 6 rfl
  rw [Ipv6Addr.toIpv4, carried]
  simp only [is_mapped, is_compatible, ← and_or_left, or_comm]

/-- The classification over blocks: the two special addresses fall under their embedded one. -/
theorem isPublicIpv6_eq (address : Ipv6Addr) :
    isPublicIpv6 address =
      if address.bits ∈ mapped.block ∨ address.bits ∈ compatible.block then
        isPublicIpv4 (mapped.embedded address)
      else if address.bits ∈ nat64.block then isPublicIpv4 (nat64.embedded address)
      else if address.bits ∈ sixToFour.block then isPublicIpv4 (sixToFour.embedded address)
      else decide (∀ block ∈ refusedIpv6, address.bits ∉ block) := by
  by_cases special : address.isUnspecified ∨ address.isLoopback
  · obtain ⟨bits⟩ := address
    simp only [Ipv6Addr.isUnspecified, Ipv6Addr.isLoopback, beq_iff_eq] at special
    obtain rfl | rfl := special <;> decide
  · rw [isPublicIpv6, if_neg special, toIpv4_eq]
    by_cases read : address.bits ∈ mapped.block ∨ address.bits ∈ compatible.block
    · simp only [read, if_true]
    · have is_nat64 : address.bits ∈ nat64.block ↔ _ :=
        mem_leading_iff address 0x64 0xff9b 0 0 0 0
      have carried := embedded_eq_ofSegments nat64 address 6 rfl
      have relayed := embedded_eq_ofSegments sixToFour address 1 rfl
      simp only [read, if_false, carried, relayed, is_nat64, mem_sixToFour_iff, blockedIpv6_iff,
        not_exists, not_and]

end PushGateway
