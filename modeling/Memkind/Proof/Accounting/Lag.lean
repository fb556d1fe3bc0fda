/-
This file bounds the lag of the global counter under increments, decrements and readers.
-/

import Memkind.Proof.Accounting.Batched
import Mathlib.Algebra.Order.BigOperators.Group.Finset
import Mathlib.Algebra.Order.Ring.Abs
import Mathlib.Algebra.Order.Ring.Int

namespace Memkind

open Library

/-- As a signed number the value lies between the two flush thresholds. -/
def WithinThreshold (value : SizeT) : Prop :=
  -(flushThreshold.toNat : ℤ) ≤ value.toInt ∧ value.toInt ≤ flushThreshold.toNat

theorem withinThreshold_zero : WithinThreshold 0 := by
  unfold WithinThreshold
  decide

/-- An increment that does not flush leaves a value from zero to the threshold. -/
theorem le_of_not_incrementFlushes {value : SizeT} (stays : incrementFlushes value = false) :
    value.toNat ≤ 51200 := by
  rw [incrementFlushes, decide_eq_false_iff_not, BitVec.not_lt] at stays
  exact BitVec.le_def.mp stays

/-- The unsigned test of a decrement keeps negative values down to the threshold only. -/
theorem le_of_not_decrementFlushes {value : SizeT} (stays : decrementFlushes value = false) :
    2 ^ 64 - 51200 ≤ value.toNat := by
  rw [decrementFlushes, decide_eq_false_iff_not, BitVec.not_lt] at stays
  exact BitVec.le_def.mp stays

theorem withinThreshold_of_not_incrementFlushes {value : SizeT}
    (stays : incrementFlushes value = false) : WithinThreshold value := by
  have low := le_of_not_incrementFlushes stays
  have sign := BitVec.toInt_eq_toNat_cond value
  rw [if_pos (by omega)] at sign
  rw [WithinThreshold, sign, show flushThreshold.toNat = 51200 from rfl]
  omega

theorem withinThreshold_of_not_decrementFlushes {value : SizeT}
    (stays : decrementFlushes value = false) : WithinThreshold value := by
  have high := le_of_not_decrementFlushes stays
  have word := value.isLt
  have sign := BitVec.toInt_eq_toNat_cond value
  rw [if_neg (by omega)] at sign
  rw [WithinThreshold, sign, show flushThreshold.toNat = 51200 from rfl]
  omega

theorem Counters.setBucket_same (counters : Counters) (kind : Nat) (bucket : Bucket)
    (value : SizeT) : (counters.setBucket kind bucket value).tAllocSize kind bucket = value := by
  simp only [setBucket, Function.update_self]

theorem Counters.setBucket_of_ne (counters : Counters) {kindId kind : Nat} {hash bucket : Bucket}
    (value : SizeT) (different : ¬ (kindId = kind ∧ hash = bucket)) :
    (counters.setBucket kindId hash value).tAllocSize kind bucket =
      counters.tAllocSize kind bucket := by
  by_cases sameKind : kind = kindId
  · subst sameKind
    have other : bucket ≠ hash := fun same => different ⟨rfl, same.symm⟩
    simp only [setBucket, Function.update_self, Function.update_of_ne other]
  · simp only [setBucket, Function.update_of_ne sameKind]

/-- What an access that leaves its thread at `point` did to one bucket. -/
inductive BucketAfter (kind : Nat) (bucket : Bucket) (counters after : Counters)
    (point : ThreadPoint) : Prop where
  /-- The access did not touch the bucket. -/
  | untouched (same : after.tAllocSize kind bucket = counters.tAllocSize kind bucket)
  /-- The access left the bucket in range. -/
  | settled (within : WithinThreshold (after.tAllocSize kind bucket))
  /-- The thread is about to take the bucket. -/
  | flushing (position : point = .takeBucket kind bucket)

/-- A write to one bucket that is in range or due for a flush. -/
theorem BucketAfter.of_setBucket {kind : Nat} {bucket : Bucket} {counters : Counters}
    {point : ThreadPoint} (kindId : Nat) (hash : Bucket) (value : SizeT)
    (due : WithinThreshold value ∨ point = .takeBucket kindId hash) :
    BucketAfter kind bucket counters (counters.setBucket kindId hash value) point := by
  by_cases same : kindId = kind ∧ hash = bucket
  · obtain ⟨rfl, rfl⟩ := same
    cases due with
    | inl within =>
        apply BucketAfter.settled
        rw [Counters.setBucket_same]
        exact within
    | inr position => exact .flushing position
  · exact .untouched (counters.setBucket_of_ne value same)

theorem drainStep_bucket (partition kind : Nat) (hash bucket : Bucket) (sizeAll : SizeT)
    (counters : Counters) :
    BucketAfter kind bucket counters (drainStep partition hash sizeAll counters).2
      (drainStep partition hash sizeAll counters).1 :=
  .of_setBucket partition hash 0 (.inl withinThreshold_zero)

theorem startCall_bucket (hash : Bucket) (call : CounterCall) (counters : Counters) (kind : Nat)
    (bucket : Bucket) :
    BucketAfter kind bucket counters (startCall hash call counters).2
      (startCall hash call counters).1 := by
  cases call with
  | incrementAllocSize kindId size =>
      apply BucketAfter.of_setBucket
      cases flushes : incrementFlushes (counters.tAllocSize kindId hash + size) with
      | true => exact .inr (if_pos flushes)
      | false => exact .inl (withinThreshold_of_not_incrementFlushes flushes)
  | decrementAllocSize kindId size =>
      apply BucketAfter.of_setBucket
      cases flushes : decrementFlushes (counters.tAllocSize kindId hash - size) with
      | true => exact .inr (if_pos flushes)
      | false => exact .inl (withinThreshold_of_not_decrementFlushes flushes)
  | memtierKindAllocatedSize partition => exact drainStep_bucket partition kind 0 bucket 0 counters

/-- A resumed thread either has the bucket untouched and was not about to take it, or leaves it
settled. -/
theorem resumeCall_bucket {point next : ThreadPoint} {counters after : Counters}
    (resumed : resumeCall point counters = some (next, after)) (kind : Nat) (bucket : Bucket) :
    BucketAfter kind bucket counters after next ∧
      (point = .takeBucket kind bucket → WithinThreshold (after.tAllocSize kind bucket)) := by
  cases point with
  | idle returned => simp [resumeCall] at resumed
  | takeBucket kindId hash =>
      obtain ⟨rfl, rfl⟩ := Prod.mk.inj (Option.some.inj resumed)
      refine ⟨.of_setBucket kindId hash 0 (.inl withinThreshold_zero), fun position => ?_⟩
      obtain ⟨rfl, rfl⟩ := ThreadPoint.takeBucket.inj position
      rw [Counters.setBucket_same]
      exact withinThreshold_zero
  | addTaken kindId sizeF =>
      obtain ⟨rfl, rfl⟩ := Prod.mk.inj (Option.some.inj resumed)
      refine ⟨.untouched rfl, fun position => ?_⟩
      cases position
  | drainBucket partition hash sizeAll =>
      have drained := drainStep_bucket partition kind hash bucket sizeAll counters
      rw [Option.some.inj resumed] at drained
      refine ⟨drained, fun position => ?_⟩
      cases position
  | addDrained partition sizeAll =>
      obtain ⟨rfl, rfl⟩ := Prod.mk.inj (Option.some.inj resumed)
      refine ⟨.untouched rfl, fun position => ?_⟩
      cases position

/-- A bucket is in range, or some thread is about to take it. -/
def CounterSystem.Flushing {Thread : Type*} (system : CounterSystem Thread) (kind : Nat)
    (bucket : Bucket) : Prop :=
  WithinThreshold (system.counters.tAllocSize kind bucket) ∨
    ∃ thread, system.point thread = .takeBucket kind bucket

/-- The last access to a bucket leaves it in range or leaves a thread that will take it. -/
theorem counterStep_flushing {Thread : Type*} [DecidableEq Thread] (hash : Thread → Bucket)
    {label : Thread × ThreadAction} {system next : CounterSystem Thread}
    (stepped : counterStep hash label system = some next) {kind : Nat} {bucket : Bucket}
    (flushing : system.Flushing kind bucket) : next.Flushing kind bucket := by
  -- The step is one of the two accesses; both say what became of the bucket.
  have access : BucketAfter kind bucket system.counters next.counters (next.point label.1) ∧
      (system.point label.1 = .takeBucket kind bucket →
        WithinThreshold (next.counters.tAllocSize kind bucket)) := by
    cases counterStep_access stepped with
    | @start thread call returned idle =>
        simp only [Function.update_self]
        refine ⟨startCall_bucket (hash thread) call system.counters kind bucket, fun taken => ?_⟩
        rw [idle] at taken
        cases taken
    | resume resumed =>
        simp only [Function.update_self]
        exact resumeCall_bucket resumed kind bucket
  obtain ⟨touched, taken⟩ := access
  cases touched with
  | settled within => exact .inl within
  | flushing position => exact .inr ⟨label.1, position⟩
  | untouched same =>
      obtain within | ⟨thread, position⟩ := flushing
      · left
        rw [same]
        exact within
      · by_cases own : thread = label.1
        · subst own
          exact .inl (taken position)
        · right
          refine ⟨thread, ?_⟩
          rw [(counterStep_cases hash stepped).1, Function.update_of_ne own]
          exact position

theorem counterRun_flushing {Thread : Type*} [DecidableEq Thread] (hash : Thread → Bucket)
    {trace : List (Thread × ThreadAction)} {final : CounterSystem Thread}
    (ran : runSteps (counterStep hash) (CounterSystem.initial Thread) trace = some final)
    (kind : Nat) (bucket : Bucket) : final.Flushing kind bucket := by
  apply runSteps_invariant (counterStep hash) (fun system => system.Flushing kind bucket)
    _ (.inl withinThreshold_zero) ran
  intro label system next flushing stepped
  exact counterStep_flushing hash stepped flushing

/-- Buckets in range hold back at most the batch limit, in either direction. -/
theorem withinThreshold_sum {buckets : Bucket → SizeT}
    (within : ∀ bucket, WithinThreshold (buckets bucket)) :
    |∑ bucket, (buckets bucket).toInt| ≤ batchLimit := by
  calc |∑ bucket, (buckets bucket).toInt|
      ≤ ∑ bucket, |(buckets bucket).toInt| := Finset.abs_sum_le_sum_abs _ _
    _ ≤ ∑ _bucket : Bucket, (flushThreshold.toNat : ℤ) := by
        apply Finset.sum_le_sum
        intro bucket _
        exact abs_le.mpr (within bucket)
    _ = batchLimit := by
        rw [Finset.sum_const, Finset.card_univ, Fintype.card_fin, nsmul_eq_mul, batchLimit,
          Nat.cast_mul]

/-- The signed values of the buckets add up to the sum of the words. -/
theorem sum_toInt (buckets : Bucket → SizeT) :
    ((∑ bucket, (buckets bucket).toInt : ℤ) : SizeT) = ∑ bucket, buckets bucket := by
  rw [Int.cast_sum]
  apply Finset.sum_congr rfl
  intro bucket _
  exact BitVec.ofInt_toInt

/-- In every interleaving, when no call is in progress every bucket lies between the thresholds as
a signed number, and the global counter differs from the account by at most the batch limit,
modulo the word size. -/
theorem counterRun_lag {Thread : Type*} [Fintype Thread] [DecidableEq Thread]
    (hash : Thread → Bucket) (trace : List (Thread × ThreadAction))
    (final : CounterSystem Thread)
    (ran : runSteps (counterStep hash) (CounterSystem.initial Thread) trace = some final)
    (quiescent : final.Quiescent) (kind : Nat) :
    (∀ bucket, -(flushThreshold.toNat : ℤ) ≤ (final.counters.tAllocSize kind bucket).toInt ∧
      (final.counters.tAllocSize kind bucket).toInt ≤ flushThreshold.toNat) ∧
    ∃ lag : ℤ, |lag| ≤ (threadBuckets * flushThreshold.toNat : Nat) ∧
      final.counters.gAllocSize kind = BitVec.ofInt 64
        ((startedBytes (CounterCall.incremented kind) trace : ℤ) -
          startedBytes (CounterCall.decremented kind) trace - lag) := by
  have within (bucket : Bucket) : WithinThreshold (final.counters.tAllocSize kind bucket) := by
    obtain settled | ⟨thread, position⟩ := counterRun_flushing hash ran kind bucket
    · exact settled
    · obtain ⟨returned, idle⟩ := quiescent thread
      rw [idle] at position
      cases position
  refine ⟨within, ∑ bucket, (final.counters.tAllocSize kind bucket).toInt,
    withinThreshold_sum within, ?_⟩
  have total : final.counters.stored kind = ((accountOf kind trace : ℤ) : SizeT) := by
    rw [← quiescent.total_eq kind, counterRun_total hash ran, CounterSystem.initial_total, zero_add]
  have global : final.counters.gAllocSize kind =
      final.counters.stored kind - ∑ bucket, final.counters.tAllocSize kind bucket := by
    rw [Counters.stored, add_sub_cancel_right]
  rw [global, total, ← sum_toInt, ← Int.cast_sub]
  rfl

/-- Three threads on three buckets: two blocks below the threshold, both released by the third
thread, whose flush takes more than the global counter holds. -/
theorem counterRun_lag_three_threads :
    ∃ final : CounterSystem (Fin 3),
      runSteps (counterStep fun thread => thread.castLE (by decide)) (CounterSystem.initial (Fin 3))
        [(0, .start (.incrementAllocSize 23 51200)), (1, .start (.incrementAllocSize 23 51200)),
          (2, .start (.decrementAllocSize 23 51200)), (2, .start (.decrementAllocSize 23 51200)),
          (2, .resume), (2, .resume)] = some final ∧
      final.counters.gAllocSize 23 = -102400 ∧
      ∃ lag : ℤ, |lag| ≤ (threadBuckets * flushThreshold.toNat : Nat) ∧
        final.counters.gAllocSize 23 = BitVec.ofInt 64 ((102400 : ℕ) - (102400 : ℕ) - lag) := by
  obtain ⟨final, ran⟩ : ∃ final : CounterSystem (Fin 3),
      runSteps (counterStep fun thread => thread.castLE (by decide)) (CounterSystem.initial (Fin 3))
        [(0, .start (.incrementAllocSize 23 51200)), (1, .start (.incrementAllocSize 23 51200)),
          (2, .start (.decrementAllocSize 23 51200)), (2, .start (.decrementAllocSize 23 51200)),
          (2, .resume), (2, .resume)] = some final := ⟨_, rfl⟩
  have quiescent : final.Quiescent := by
    obtain rfl := Option.some.inj ran
    intro thread
    match thread with
    | 0 => exact ⟨none, rfl⟩
    | 1 => exact ⟨none, rfl⟩
    | 2 => exact ⟨none, rfl⟩
  have global : final.counters.gAllocSize 23 = -102400 := by
    obtain rfl := Option.some.inj ran
    decide
  exact ⟨final, ran, global, (counterRun_lag _ _ final ran quiescent 23).2⟩

end Memkind
