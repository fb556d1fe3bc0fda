/-
This file says which tier the static ratio policy chooses.
-/

import Mathlib.Algebra.Order.Field.Basic
import Memkind.Construction.Memtier

namespace Memkind

open Library

variable {first : KindPtr × ℕ+} {rest : List (KindPtr × ℕ+)} {memory : MemtierMemory}

/-- The configuration of tiers with integer ratios. -/
def ratioTiers (tiers : List (KindPtr × ℕ+)) : List TierCfg :=
  tiers.map fun tier => ⟨tier.1, .ofNat tier.2⟩

/-- The tier is behind its ratio in the global counters. -/
def Deficient (counters : Counters) (partition : KindPtr → Nat) (first tier : KindPtr × ℕ+) :
    Prop :=
  (counters.gAllocSize (partition tier.1)).toNat * first.2 <
    (counters.gAllocSize (partition first.1)).toNat * tier.2

/-- The comparison of the policy is the comparison of the scaled counters. -/
theorem ratio_lt_iff (sizeTier size0 : Nat) (first tier : ℕ+) :
    ((ExactFloat.ofNat sizeTier).mul
        ((ExactFloat.ofNat first).div (ExactFloat.ofNat tier))).lt (.ofNat size0) = true ↔
      sizeTier * first < size0 * tier := by
  have positive : (0 : ℚ) < tier := by exact_mod_cast tier.pos
  simp only [ExactFloat.ofNat, ExactFloat.div, ExactFloat.mul, ExactFloat.lt, ne_eq,
    positive.ne', not_false_eq_true, if_true, decide_eq_true_eq]
  rw [← mul_div_assoc, div_lt_iff₀ positive]
  exact_mod_cast Iff.rfl

/-- The loop of the policy ends with its start when no tier is behind, and otherwise with a tier
that is behind. -/
theorem staticRatioLoop_cases (counters : Counters) (partition : KindPtr → Nat)
    (first : KindPtr × ℕ+) (rest : List (KindPtr × ℕ+)) (dest : KindPtr) :
    (staticRatioLoop (fun kind => counters.gAllocSize (partition kind))
        (counters.gAllocSize (partition first.1))
        (rest.map fun tier => ⟨tier.1, (ExactFloat.ofNat first.2).div (.ofNat tier.2)⟩) dest = dest ∧
      ∀ tier ∈ rest, ¬Deficient counters partition first tier) ∨
    ∃ tier ∈ rest, Deficient counters partition first tier ∧
      staticRatioLoop (fun kind => counters.gAllocSize (partition kind))
        (counters.gAllocSize (partition first.1))
        (rest.map fun tier => ⟨tier.1, (ExactFloat.ofNat first.2).div (.ofNat tier.2)⟩) dest =
          tier.1 := by
  induction rest generalizing dest with
  | nil => exact Or.inl ⟨rfl, by simp⟩
  | cons tier rest ih =>
      have behind := ratio_lt_iff (counters.gAllocSize (partition tier.1)).toNat
        (counters.gAllocSize (partition first.1)).toNat first.2 tier.2
      simp only [List.map_cons, staticRatioLoop]
      by_cases deficient : Deficient counters partition first tier
      · rw [if_pos (behind.mpr deficient)]
        rcases ih tier.1 with ⟨ends, -⟩ | ⟨later, member, laterBehind, ends⟩
        · exact Or.inr ⟨tier, List.mem_cons_self, deficient, ends⟩
        · exact Or.inr ⟨later, List.mem_cons_of_mem tier member, laterBehind, ends⟩
      · rw [if_neg fun ahead => deficient (behind.mp ahead)]
        rcases ih dest with ⟨ends, none⟩ | ⟨later, member, laterBehind, ends⟩
        · exact Or.inl ⟨ends, List.forall_mem_cons.mpr ⟨deficient, none⟩⟩
        · exact Or.inr ⟨later, List.mem_cons_of_mem tier member, laterBehind, ends⟩

/-- The memory that `builder_static_create_memory` makes from two or more tiers. -/
structure StaticMemory (memory : MemtierMemory) (first : KindPtr × ℕ+)
    (rest : List (KindPtr × ℕ+)) : Prop where
  policy : memory.policy = .staticRatio
  cfg : memory.cfg = memoryTiers (ratioTiers (first :: rest))

/-- The static builder makes a static memory from two or more tiers. -/
theorem builderStaticCreateMemory_static {outcome : MemoryOutcome} {builder : MemtierBuilder}
    (tiers : builder.cfg = ratioTiers (first :: rest)) (several : rest ≠ [])
    (built : builderStaticCreateMemory outcome builder = some memory) :
    StaticMemory memory first rest := by
  obtain ⟨policy, initialized, rfl⟩ := Option.map_eq_some_iff.mp built
  have count : builder.cfg.length = rest.length + 1 := by
    rw [tiers, ratioTiers, List.length_map, List.length_cons]
  have positive := List.length_pos_iff.mpr several
  refine ⟨?_, by rw [tiers]⟩
  unfold memtierMemoryInit at initialized
  split at initialized
  · cases initialized
  · split at initialized
    · cases initialized
    · split at initialized
      · cases initialized
      · split at initialized
        · rename_i dynamic
          cases dynamic
        · split at initialized
          · omega
          · exact (Option.some.inj initialized).symm

/-- The policy chooses the first tier when no tier is behind, and otherwise one that is behind. -/
theorem StaticMemory.getKind_cases (static : StaticMemory memory first rest) (counters : Counters)
    (partition : KindPtr → Nat) (size : SizeT) {kind : KindPtr}
    (chosen : memory.getKind (fun kind => counters.gAllocSize (partition kind)) size = some kind) :
    (kind = first.1 ∧ ∀ tier ∈ rest, ¬Deficient counters partition first tier) ∨
      ∃ tier ∈ rest, Deficient counters partition first tier ∧ kind = tier.1 := by
  have tiers : memory.cfg = ⟨first.1, .finite 1⟩ ::
      rest.map fun tier => ⟨tier.1, (ExactFloat.ofNat first.2).div (.ofNat tier.2)⟩ := by
    rw [static.cfg, ratioTiers, List.map_cons, memoryTiers, List.map_map]
    rfl
  rw [MemtierMemory.getKind, static.policy, tiers] at chosen
  obtain rfl := Option.some.inj chosen
  rcases staticRatioLoop_cases counters partition first rest first.1 with
    ⟨ends, level⟩ | ⟨tier, member, behind, ends⟩
  · exact Or.inl ⟨ends, level⟩
  · exact Or.inr ⟨tier, member, behind, ends⟩

/-- An allocation from a static memory keeps the memory and counts the block once. -/
theorem StaticMemory.allocate_eq (static : StaticMemory memory first rest)
    {partition : KindPtr → Nat} {size usable : SizeT} {bucket : Bucket} {system next : TierSystem}
    {kind : KindPtr} (same : system.memory = memory)
    (called : system.allocate partition size (fun kind => countBlock kind bucket (some usable)) =
      some (kind, next)) :
    memory.getKind (fun kind => system.counters.gAllocSize (partition kind)) size = some kind ∧
      next = ⟨memory, incrementAllocSize system.counters (partition kind) bucket usable⟩ := by
  obtain ⟨chosen, found, called⟩ := Option.bind_eq_some_iff.mp called
  rw [same] at found called
  simp only [MemtierMemory.updateCfg, static.policy, Option.map_some, Option.some.injEq,
    Prod.mk.injEq] at called
  obtain ⟨rfl, rfl⟩ := called
  exact ⟨found, rfl⟩

end Memkind
