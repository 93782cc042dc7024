import Mathlib.Data.Nat.Bitwise

/-!
# Address blocks

The addresses of a fixed width which share their leading bits with a network.  A program tests
membership by masks and comparisons of single words; here it is equality of quotients, so that a
mask over a word and a block over the whole address are compared by arithmetic.
-/

/-- The addresses whose first `length` bits are those of `network`. -/
structure AddressBlock (width : Nat) where
  network : BitVec width
  length : Nat
  length_le : length ≤ width := by decide
  deriving DecidableEq

namespace AddressBlock

variable {width : Nat}

instance : Membership (BitVec width) (AddressBlock width) where
  mem block address :=
    address >>> (width - block.length) = block.network >>> (width - block.length)

instance (block : AddressBlock width) (address : BitVec width) : Decidable (address ∈ block) :=
  inferInstanceAs (Decidable (_ = _))

theorem mem_iff (block : AddressBlock width) (address : BitVec width) :
    address ∈ block ↔
      address.toNat / 2 ^ (width - block.length) =
        block.network.toNat / 2 ^ (width - block.length) := by
  change address >>> _ = block.network >>> _ ↔ _
  rw [← BitVec.toNat_inj, BitVec.toNat_ushiftRight, BitVec.toNat_ushiftRight,
    Nat.shiftRight_eq_div_pow, Nat.shiftRight_eq_div_pow]

/-- Quotients are equal when those further up are, and the digits in between. -/
theorem quotient_eq_iff (left right low digits : Nat) :
    left / 2 ^ low = right / 2 ^ low ↔
      left / 2 ^ (low + digits) = right / 2 ^ (low + digits) ∧
        left / 2 ^ low % 2 ^ digits = right / 2 ^ low % 2 ^ digits := by
  rw [Nat.pow_add, ← Nat.div_div_eq_div_mul, ← Nat.div_div_eq_div_mul]
  constructor
  · intro same
    rw [same]
    exact ⟨rfl, rfl⟩
  · rintro ⟨upper, between⟩
    rw [← Nat.div_add_mod (left / 2 ^ low) (2 ^ digits), upper, between, Nat.div_add_mod]

/-- Two blocks are nested or disjoint: the network of the longer one decides for all of it. -/
theorem mem_iff_network_mem {inner outer : AddressBlock width} {address : BitVec width}
    (shorter : outer.length ≤ inner.length) (inside : address ∈ inner) :
    address ∈ outer ↔ inner.network ∈ outer := by
  have split : width - outer.length =
      (width - inner.length) + (inner.length - outer.length) := by
    have := inner.length_le
    omega
  rw [mem_iff] at inside
  rw [mem_iff, mem_iff, split, Nat.pow_add, ← Nat.div_div_eq_div_mul, inside,
    Nat.div_div_eq_div_mul]

/-- The network of the longer block lies outside the shorter one. -/
def Apart (left right : AddressBlock width) : Prop :=
  if left.length ≤ right.length then right.network ∉ left else left.network ∉ right

instance (left right : AddressBlock width) : Decidable (left.Apart right) :=
  inferInstanceAs (Decidable
    (if left.length ≤ right.length then right.network ∉ left else left.network ∉ right))

/-- Blocks which are apart have no address in common. -/
theorem Apart.not_mem {left right : AddressBlock width} (apart : left.Apart right)
    {address : BitVec width} (inside : address ∈ left) : address ∉ right := by
  intro shared
  by_cases shorter : left.length ≤ right.length
  · rw [Apart, if_pos shorter] at apart
    exact apart ((mem_iff_network_mem shorter shared).mp inside)
  · rw [Apart, if_neg shorter] at apart
    exact apart ((mem_iff_network_mem (Nat.le_of_not_le shorter) inside).mp shared)

/-- A mask of leading bits compares the quotients, for a value which it keeps. -/
theorem and_mask_eq_iff {word mask value : BitVec width} (shift : Nat)
    (leading : ∀ index < width, mask.getLsbD index = decide (shift ≤ index))
    (kept : value &&& mask = value) :
    word &&& mask = value ↔ word.toNat / 2 ^ shift = value.toNat / 2 ^ shift := by
  rw [← Nat.shiftRight_eq_div_pow, ← Nat.shiftRight_eq_div_pow, ← BitVec.toNat_ushiftRight,
    ← BitVec.toNat_ushiftRight, BitVec.toNat_inj]
  have masked : ∀ bits : BitVec width, bits &&& mask = (bits >>> shift) <<< shift := by
    intro bits
    apply BitVec.eq_of_getLsbD_eq
    intro index below
    simp only [BitVec.getLsbD_and, leading index below, BitVec.getLsbD_shiftLeft, below,
      BitVec.getLsbD_ushiftRight, decide_true, Bool.true_and]
    by_cases low : shift ≤ index
    · simp [low, Nat.add_sub_cancel' low, Nat.not_lt.mpr low]
    · simp [low, Nat.lt_of_not_le low]
  constructor
  · intro same
    have shifted : word >>> shift = (word &&& mask) >>> shift := by
      apply BitVec.eq_of_getLsbD_eq
      intro index _
      simp only [BitVec.getLsbD_ushiftRight, BitVec.getLsbD_and]
      by_cases below : shift + index < width
      · simp [leading _ below]
      · simp [BitVec.getLsbD_of_ge _ _ (Nat.le_of_not_lt below)]
    rw [shifted, same]
  · intro same
    rw [masked, same, ← masked, kept]

end AddressBlock
