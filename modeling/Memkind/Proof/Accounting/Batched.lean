/-
This file bounds the lag of the global counter when bytes are only added.
-/

import Memkind.Proof.Accounting.AllocatedSize
import Mathlib.Algebra.Order.BigOperators.Group.Finset

namespace Memkind

open Library

variable {kind total : Nat} {counters : Counters}

/-- The largest amount that the buckets of a kind hold back. -/
def batchLimit : Nat := threadBuckets * flushThreshold.toNat

/-- The bytes that the buckets of a kind hold, as a number. -/
def Counters.pending (counters : Counters) (kind : Nat) : ℤ :=
  ∑ bucket, ((counters.tAllocSize kind bucket).toNat : ℤ)

/-- The counters of a kind hold exactly `total` bytes, and no bucket is due for a flush. -/
structure Counters.Batched (counters : Counters) (kind total : Nat) : Prop where
  sum : ((counters.gAllocSize kind).toNat : ℤ) + counters.pending kind = total
  settled : ∀ bucket, counters.tAllocSize kind bucket ≤ flushThreshold

theorem Counters.Batched.congr {other : Counters} (batched : counters.Batched kind total)
    (buckets : other.tAllocSize kind = counters.tAllocSize kind)
    (global : other.gAllocSize kind = counters.gAllocSize kind) : other.Batched kind total := by
  constructor
  · rw [pending, global, buckets]
    exact batched.sum
  · intro bucket
    rw [buckets]
    exact batched.settled bucket

/-- One bucket holds no more than all of them. -/
theorem Counters.bucket_le_pending (counters : Counters) (kind : Nat) (bucket : Bucket) :
    ((counters.tAllocSize kind bucket).toNat : ℤ) ≤ counters.pending kind := by
  apply Finset.single_le_sum (f := fun bucket => ((counters.tAllocSize kind bucket).toNat : ℤ))
  · intro other _
    exact Int.natCast_nonneg _
  · exact Finset.mem_univ bucket

/-- Settled buckets hold back at most the batch limit. -/
theorem Counters.Batched.lag (batched : counters.Batched kind total) :
    (counters.gAllocSize kind).toNat ≤ total ∧
      total ≤ (counters.gAllocSize kind).toNat + batchLimit := by
  have nonnegative : 0 ≤ counters.pending kind :=
    Finset.sum_nonneg fun bucket _ => Int.natCast_nonneg _
  have bounded : counters.pending kind ≤ batchLimit := by
    have each : ∀ bucket ∈ Finset.univ, ((counters.tAllocSize kind bucket).toNat : ℤ) ≤
        flushThreshold.toNat := by
      intro bucket _
      exact_mod_cast batched.settled bucket
    have all := Finset.sum_le_card_nsmul Finset.univ _ _ each
    rw [Finset.card_univ, Fintype.card_fin, nsmul_eq_mul, ← Nat.cast_mul] at all
    exact all
  have sum := batched.sum
  omega

/-- A complete increment touches one kind only. -/
theorem incrementAllocSize_other (counters : Counters) {kindId : Nat} (bucket : Bucket)
    (size : SizeT) (different : kind ≠ kindId) :
    (incrementAllocSize counters kindId bucket size).tAllocSize kind = counters.tAllocSize kind ∧
      (incrementAllocSize counters kindId bucket size).gAllocSize kind =
        counters.gAllocSize kind := by
  unfold incrementAllocSize
  simp only
  split
  · simp [Counters.setBucket, Counters.setGlobal, different]
  · simp [Counters.setBucket, different]

/-- A complete increment adds its size and settles its bucket. -/
theorem Counters.Batched.increment (batched : counters.Batched kind total) (bucket : Bucket)
    (size : SizeT) (small : total + size.toNat < 2 ^ 64) :
    (incrementAllocSize counters kind bucket size).Batched kind (total + size.toNat) := by
  have sum := batched.sum
  have least := counters.bucket_le_pending kind bucket
  have value : (counters.tAllocSize kind bucket + size).toNat =
      (counters.tAllocSize kind bucket).toNat + size.toNat := by
    rw [BitVec.toNat_add]
    omega
  have global : (counters.gAllocSize kind + (counters.tAllocSize kind bucket + size)).toNat =
      (counters.gAllocSize kind).toNat + (counters.tAllocSize kind bucket + size).toNat := by
    rw [BitVec.toNat_add]
    omega
  have moved (amount : SizeT) := sum_mark_update (fun word : SizeT => (word.toNat : ℤ))
    (counters.tAllocSize kind) bucket amount
  have others (amount : SizeT) (low : amount ≤ flushThreshold) (other : Bucket) :
      Function.update (counters.tAllocSize kind) bucket amount other ≤ flushThreshold := by
    by_cases same : other = bucket
    · rw [same, Function.update_self]
      exact low
    · rw [Function.update_of_ne same]
      exact batched.settled other
  unfold pending at sum least
  unfold incrementAllocSize
  simp only
  split
  · constructor
    · simp only [pending, setBucket, setGlobal, Function.update_self, Function.update_idem]
      have zero : ((0 : SizeT).toNat : ℤ) = 0 := rfl
      rw [moved 0, global, value, zero]
      omega
    · simp only [setBucket, setGlobal, Function.update_self, Function.update_idem]
      exact others 0 (by decide)
  · rename_i stays
    constructor
    · simp only [pending, setBucket, Function.update_self]
      rw [moved _, value]
      omega
    · simp only [setBucket, Function.update_self]
      apply others
      simpa [incrementFlushes] using stays

/-- The sum of words is the sum of their numbers when it fits. -/
theorem Counters.stored_toNat (batched : counters.Batched kind total) (small : total < 2 ^ 64) :
    (counters.stored kind).toNat = total := by
  have words := toNat_sum Finset.univ (counters.tAllocSize kind)
  have sum := batched.sum
  have number : counters.pending kind =
      ((∑ bucket, (counters.tAllocSize kind bucket).toNat : Nat) : ℤ) := by
    rw [pending, Nat.cast_sum]
  rw [stored, BitVec.toNat_add, words]
  omega

/-- A complete `memtier_kind_allocated_size` keeps the bytes of every kind. -/
theorem Counters.Batched.drain (batched : counters.Batched kind total) (small : total < 2 ^ 64)
    (partition : Nat) : (memtierKindAllocatedSize counters partition).2.Batched kind total := by
  rw [memtierKindAllocatedSize_eq]
  by_cases same : kind = partition
  · subst same
    constructor
    · have zero : ((0 : SizeT).toNat : ℤ) = 0 := rfl
      simp only [pending, drained, Function.update_self, zero, Finset.sum_const_zero, add_zero]
      rw [stored_toNat batched small]
    · intro bucket
      simp only [drained, Function.update_self]
      decide
  · apply batched.congr
    · simp only [drained, Function.update_of_ne same]
    · simp only [drained, Function.update_of_ne same]

end Memkind
