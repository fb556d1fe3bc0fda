/-
This file decides when a zeroed allocation returns all the bytes that its product asks for.
-/

import Memkind.Construction.BackEnd

namespace Memkind

/-- The result is `NULL` or has `num * size` bytes, and it is `NULL` when the product does not fit
into `size_t`. -/
def EnoughBytes (num size : SizeT) (result : Option Block) : Prop :=
  (∀ block, result = some block → num.toNat * size.toNat ≤ block.usable) ∧
    (2 ^ 64 ≤ num.toNat * size.toNat → result = none)

/-- The arena back-end refuses the request for the wrapped product: it has no arena, the product
is zero and zero is not allowed, or jemalloc has no memory. -/
def WrappedRefused (allocators : Allocators) (kind : AllocKind) (num size : SizeT) : Prop :=
  ∀ arena, kind.getArena size = some arena →
    (kind.allowZeroAllocs = false ∧ num * size = 0) ∨
      allocators.mallocx (num * size) (arenaCallocFlags kind arena size) = none

/-- The condition under which `memkind_calloc` keeps its promise. -/
def CallocFits (allocators : Allocators) (kind : AllocKind) (num size : SizeT) : Prop :=
  kind.backEnd = .arena → num.toNat * size.toNat < 2 ^ 64 ∨
    WrappedRefused allocators kind num size

theorem enoughBytes_none (num size : SizeT) : EnoughBytes num size none := by
  constructor
  · intro block granted
    cases granted
  · intro overflows
    rfl

/-- The arena back-end refuses exactly the requests that this condition names. -/
theorem memkindArenaCalloc_eq_none_iff (allocators : Allocators) (kind : AllocKind)
    (num size : SizeT) :
    memkindArenaCalloc allocators kind num size = none ↔
      WrappedRefused allocators kind num size := by
  unfold memkindArenaCalloc WrappedRefused jemkMallocxCheck
  cases found : kind.getArena size with
  | none => simp
  | some arena =>
      simp only [Option.bind_some, Option.some.injEq, forall_eq']
      split
      · rename_i zero
        simp only [Bool.and_eq_true, Bool.not_eq_eq_eq_not, Bool.not_true,
          decide_eq_true_eq] at zero
        exact iff_of_true rfl (Or.inl zero)
      · rename_i nonzero
        simp only [Bool.and_eq_true, Bool.not_eq_eq_eq_not, Bool.not_true,
          decide_eq_true_eq] at nonzero
        exact (or_iff_right nonzero).symm

/-- A product that fits is the product of the numbers. -/
theorem memkindArenaCalloc_enough {allocators : Allocators} {kind : AllocKind} {num size : SizeT}
    (fits : num.toNat * size.toNat < 2 ^ 64) {block : Block}
    (granted : memkindArenaCalloc allocators kind num size = some block) :
    num.toNat * size.toNat ≤ block.usable := by
  obtain ⟨arena, -, granted⟩ := Option.bind_eq_some_iff.mp granted
  unfold jemkMallocxCheck at granted
  split at granted
  · cases granted
  · have enough := allocators.mallocx_enough _ _ block granted
    rwa [BitVec.toNat_mul, Nat.mod_eq_of_lt fits] at enough

theorem memkindDefaultCalloc_enough (allocators : Allocators) (kind : AllocKind)
    (num size : SizeT) : EnoughBytes num size (memkindDefaultCalloc allocators kind num size) := by
  unfold memkindDefaultCalloc
  split
  · exact enoughBytes_none num size
  · exact ⟨allocators.calloc_enough num size, allocators.calloc_checked num size⟩

/-- The division of `tbb_pool_calloc` detects every product that does not fit. -/
theorem wrapped_div_ne {num size : SizeT} (overflows : 2 ^ 64 ≤ num.toNat * size.toNat) :
    num * size / num ≠ size := by
  intro equal
  have quotient := congrArg BitVec.toNat equal
  rw [BitVec.toNat_udiv, BitVec.toNat_mul] at quotient
  have wrapped : num.toNat * size.toNat % 2 ^ 64 < num.toNat * size.toNat :=
    lt_of_lt_of_le (Nat.mod_lt _ (by decide)) overflows
  have bounded := Nat.div_mul_le_self (num.toNat * size.toNat % 2 ^ 64) num.toNat
  rw [quotient, Nat.mul_comm] at bounded
  omega

theorem tbbPoolCalloc_enough (allocators : Allocators) (num size : SizeT) :
    EnoughBytes num size (tbbPoolCalloc allocators num size) := by
  unfold tbbPoolCalloc
  split
  · exact enoughBytes_none num size
  · split
    · exact enoughBytes_none num size
    · rename_i divides
      have fits : num.toNat * size.toNat < 2 ^ 64 := by
        by_contra overflows
        exact divides (wrapped_div_ne (Nat.le_of_not_lt overflows))
      constructor
      · intro block granted
        have enough := allocators.poolMalloc_enough _ block granted
        rwa [BitVec.toNat_mul, Nat.mod_eq_of_lt fits] at enough
      · intro overflows
        omega

/-- For all allocators, kinds and sizes, `memkind_calloc` returns `NULL` or all the bytes exactly
when the kind has no arenas, the product fits, or the wrapped request is refused. -/
theorem memkindCalloc_enoughBytes_iff (allocators : Allocators) (kind : AllocKind)
    (num size : SizeT) :
    EnoughBytes num size (memkindCalloc allocators kind num size) ↔
      CallocFits allocators kind num size := by
  unfold memkindCalloc CallocFits
  cases backEnd : kind.backEnd with
  | default => exact iff_of_true (memkindDefaultCalloc_enough allocators kind num size) (by simp)
  | tbb => exact iff_of_true (tbbPoolCalloc_enough allocators num size) (by simp)
  | arena =>
      simp only [forall_true_left]
      rw [← memkindArenaCalloc_eq_none_iff]
      constructor
      · intro enough
        by_cases fits : num.toNat * size.toNat < 2 ^ 64
        · exact Or.inl fits
        · exact Or.inr (enough.2 (Nat.le_of_not_lt fits))
      · intro condition
        rcases condition with fits | refused
        · refine ⟨fun block granted => memkindArenaCalloc_enough fits granted, ?_⟩
          intro overflows
          omega
        · rw [refused]
          exact enoughBytes_none num size

/-- Allocators that grant every request with exactly its bytes. -/
def generousAllocators : Allocators where
  mallocx size _ := some ⟨0x1000, size.toNat⟩
  calloc num size :=
    if num.toNat * size.toNat < 2 ^ 64 then some ⟨0x1000, num.toNat * size.toNat⟩ else none
  poolMalloc size := some ⟨0x1000, size.toNat⟩
  mallocx_enough := by
    rintro size flags block ⟨⟩
    exact le_refl _
  calloc_enough := by
    intro num size block granted
    split at granted
    · cases granted
      exact le_refl _
    · cases granted
  calloc_checked := by
    intro num size overflows
    exact if_neg (Nat.not_lt.mpr overflows)
  poolMalloc_enough := by
    rintro size block ⟨⟩
    exact le_refl _

/-- A kind with arenas, such as `MEMKIND_REGULAR`. -/
def arenaKind : AllocKind := ⟨.arena, 8, false, fun _ => some 257, none⟩

/-- Two elements of `2 ^ 63 + 8` bytes get a block of 16 bytes. -/
theorem memkindCalloc_underAllocates :
    memkindCalloc generousAllocators arenaKind 2 0x8000000000000008 = some ⟨0x1000, 16⟩ ∧
      ¬EnoughBytes 2 0x8000000000000008
        (memkindCalloc generousAllocators arenaKind 2 0x8000000000000008) := by
  have granted : memkindCalloc generousAllocators arenaKind 2 0x8000000000000008 =
      some ⟨0x1000, 16⟩ := by decide +kernel
  refine ⟨granted, ?_⟩
  intro enough
  have refused := enough.2 (by decide)
  rw [granted] at refused
  cases refused

end Memkind
