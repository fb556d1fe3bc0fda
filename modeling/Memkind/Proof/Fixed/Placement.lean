/-
This file computes where the bump pointer of a fixed kind places a request.
-/

import Mathlib.Tactic.Abel
import Memkind.Construction.Fixed

namespace Memkind

variable {size alignment capacity : SizeT} {base : Address} {priv : FixedPriv}

/-- The requests that jemalloc passes on. -/
structure FixedRequest (size alignment : SizeT) : Prop where
  nonempty : 0 < size.toNat
  power : ∃ exponent, alignment.toNat = 2 ^ exponent
  bounded : size.toNat + alignment.toNat ≤ 2 ^ 63

/-- The distance to the next multiple of the alignment. -/
def padding (start alignment : Nat) : Nat :=
  if start % alignment ≠ 0 then alignment - start % alignment else 0

/-- The aligned request fits into the remaining bytes of a region of `capacity` bytes. -/
def RequestFits (base capacity current size alignment : Nat) : Prop :=
  current + padding (base + current) alignment + size ≤ capacity

/-- The bump pointer stands `current` bytes above the base. -/
structure FixedPriv.Inside (base : Address) (capacity : SizeT) (priv : FixedPriv) : Prop where
  size : priv.size = capacity
  addr : priv.addr = base + priv.current
  current : priv.current.toNat ≤ capacity.toNat

/-- The next multiple of a number. -/
theorem dvd_add_padding (start : Nat) {alignment : Nat} (positive : 0 < alignment) :
    alignment ∣ start + padding start alignment := by
  unfold padding
  have split := Nat.div_add_mod start alignment
  have small := Nat.mod_lt start positive
  split
  · refine ⟨start / alignment + 1, ?_⟩
    rw [Nat.mul_add, Nat.mul_one]
    omega
  · refine ⟨start / alignment, ?_⟩
    omega

theorem padding_lt (start : Nat) {alignment : Nat} (positive : 0 < alignment) :
    padding start alignment < alignment := by
  unfold padding
  split
  · omega
  · exact positive

theorem FixedRequest.alignment_pos (request : FixedRequest size alignment) :
    0 < alignment.toNat := by
  obtain ⟨exponent, power⟩ := request.power
  rw [power]
  exact Nat.two_pow_pos exponent

/-- The offset of the code is the distance to the next multiple. -/
theorem fixedAlignOffset_toNat (alignment : SizeT) (priv : FixedPriv)
    (positive : 0 < alignment.toNat) :
    (fixedAlignOffset alignment priv).toNat = padding priv.addr.toNat alignment.toNat := by
  have small := Nat.mod_lt priv.addr.toNat positive
  have remainder : (priv.addr % alignment).toNat = priv.addr.toNat % alignment.toNat :=
    BitVec.toNat_umod
  unfold fixedAlignOffset padding
  by_cases aligned : priv.addr % alignment = 0
  · have zero : priv.addr.toNat % alignment.toNat = 0 := by
      rw [← remainder, aligned]
      rfl
    rw [if_neg (not_not.mpr aligned), if_neg (not_not.mpr zero)]
    rfl
  · have nonzero : priv.addr.toNat % alignment.toNat ≠ 0 := by
      intro zero
      apply aligned
      apply BitVec.eq_of_toNat_eq
      rw [remainder, zero]
      rfl
    have bound := alignment.isLt
    rw [if_pos aligned, if_pos nonzero, BitVec.toNat_sub, remainder]
    omega

/-- The test of `memkind_fixed_mmap_aligned` does not wrap around. -/
theorem fixedTest_toNat (inside : priv.Inside base capacity) (half : capacity.toNat ≤ 2 ^ 63)
    (request : FixedRequest size alignment) :
    (priv.current + size + fixedAlignOffset alignment priv).toNat =
      priv.current.toNat + size.toNat + padding priv.addr.toNat alignment.toNat := by
  have offset := fixedAlignOffset_toNat alignment priv request.alignment_pos
  have small := padding_lt priv.addr.toNat request.alignment_pos
  have current := inside.current
  have bounded := request.bounded
  rw [BitVec.toNat_add, BitVec.toNat_add, offset]
  omega

/-- The test compares the numbers that the words stand for. -/
theorem fixedTest_iff (inside : priv.Inside base capacity) (half : capacity.toNat ≤ 2 ^ 63)
    (request : FixedRequest size alignment) :
    priv.size < priv.current + size + fixedAlignOffset alignment priv ↔
      capacity.toNat <
        priv.current.toNat + size.toNat + padding priv.addr.toNat alignment.toNat := by
  rw [inside.size, BitVec.lt_def, fixedTest_toNat inside half request]

/-- Below the end of the region the bump pointer does not wrap around. -/
theorem FixedPriv.Inside.addr_toNat (inside : priv.Inside base capacity)
    (region : base.toNat + capacity.toNat ≤ 2 ^ 64) (room : priv.current.toNat < capacity.toNat) :
    priv.addr.toNat = base.toNat + priv.current.toNat := by
  rw [inside.addr, BitVec.toNat_add]
  omega

theorem FixedRequest.defined (request : FixedRequest size alignment) :
    ¬(size = 0 ∨ alignment = 0) := by
  have nonempty := request.nonempty
  have positive := request.alignment_pos
  intro empty
  rcases empty with rfl | rfl
  · exact absurd nonempty (by decide)
  · exact absurd positive (by decide)

/-- A request that does not fit is refused. -/
theorem memkindFixedMmapAligned_refused (inside : priv.Inside base capacity)
    (region : base.toNat + capacity.toNat ≤ 2 ^ 64) (half : capacity.toNat ≤ 2 ^ 63)
    (request : FixedRequest size alignment)
    (full : ¬RequestFits base.toNat capacity.toNat priv.current.toNat size.toNat alignment.toNat) :
    memkindFixedMmapAligned alignment size priv = some (mapFailed, priv) := by
  have current := inside.current
  have nonempty := request.nonempty
  rw [memkindFixedMmapAligned, if_neg request.defined]
  apply if_pos
  apply (fixedTest_iff inside half request).mpr
  by_cases room : priv.current.toNat < capacity.toNat
  · unfold RequestFits at full
    rw [inside.addr_toNat region room]
    omega
  · omega

/-- A request that fits is placed at the next multiple of its alignment. -/
theorem memkindFixedMmapAligned_granted (inside : priv.Inside base capacity)
    (region : base.toNat + capacity.toNat ≤ 2 ^ 64) (half : capacity.toNat ≤ 2 ^ 63)
    (request : FixedRequest size alignment)
    (fits : RequestFits base.toNat capacity.toNat priv.current.toNat size.toNat alignment.toNat) :
    ∃ placed next, memkindFixedMmapAligned alignment size priv = some (placed, next) ∧
      placed.toNat = base.toNat + priv.current.toNat +
        padding (base.toNat + priv.current.toNat) alignment.toNat ∧
      next.Inside base capacity ∧
      base.toNat + next.current.toNat = placed.toNat + size.toNat := by
  have nonempty := request.nonempty
  have offset := fixedAlignOffset_toNat alignment priv request.alignment_pos
  have test := fixedTest_iff inside half request
  unfold RequestFits at fits
  have pointer := inside.addr_toNat region (by omega)
  rw [pointer] at offset test
  rw [memkindFixedMmapAligned, if_neg request.defined]
  refine ⟨priv.addr + fixedAlignOffset alignment priv, _, if_neg ?_, ?_, ?_, ?_⟩
  · rw [test]
    omega
  · rw [BitVec.toNat_add, pointer, offset]
    omega
  · refine ⟨inside.size, ?_, ?_⟩
    · simp only [inside.addr]
      abel
    · simp only [BitVec.toNat_add, offset]
      omega
  · simp only [BitVec.toNat_add, pointer, offset]
    omega

end Memkind
