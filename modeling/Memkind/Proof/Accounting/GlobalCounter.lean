/-
This file follows the global counter over complete calls that count and release blocks.
-/

import Memkind.Proof.Accounting.Lag

namespace Memkind

open Library

/-- A block remembers the kind and the size that were counted, and the bucket that took them. -/
structure CountedBlock where
  kindId : Nat
  size : SizeT
  bucket : Bucket
  deriving DecidableEq

/-- The counters and the blocks that are counted and not yet released. -/
structure BlockLedger where
  counters : Counters
  live : List CountedBlock

def BlockLedger.initial : BlockLedger := ⟨.zero, []⟩

/-- A complete call of one thread. -/
inductive BlockCall (Thread : Type*) where
  | incrementAllocSize (thread : Thread) (kindId : Nat) (size : SizeT)
  | decrementAllocSize (thread : Thread) (block : CountedBlock)

namespace BlockCall

variable {Thread : Type*}

def kindId : BlockCall Thread → Nat
  | incrementAllocSize _ kindId _ => kindId
  | decrementAllocSize _ block => block.kindId

/-- The bucket of the calling thread. -/
def bucket (hash : Thread → Bucket) : BlockCall Thread → Bucket
  | incrementAllocSize thread _ _ => hash thread
  | decrementAllocSize thread _ => hash thread

/-- The bytes that the call adds to the account of its kind. -/
def change : BlockCall Thread → ℤ
  | incrementAllocSize _ _ size => size.toNat
  | decrementAllocSize _ block => -(block.size.toNat : ℤ)

/-- The counters after the call. -/
def count (hash : Thread → Bucket) (call : BlockCall Thread) (counters : Counters) : Counters :=
  match call with
  | incrementAllocSize thread kindId size =>
      Memkind.incrementAllocSize counters kindId (hash thread) size
  | decrementAllocSize thread block =>
      Memkind.decrementAllocSize counters block.kindId (hash thread) block.size

/-- The size of the block. -/
def size : BlockCall Thread → SizeT
  | incrementAllocSize _ _ size => size
  | decrementAllocSize _ block => block.size

/-- The signed amount that the call finds in its bucket, with the bytes of the call. -/
def amount (hash : Thread → Bucket) (call : BlockCall Thread) (counters : Counters) : ℤ :=
  (counters.tAllocSize call.kindId (call.bucket hash)).toInt + call.change

/-- The amounts that stay in the bucket: an increment keeps those from zero up to the threshold, and
a decrement the negative ones down to the threshold. -/
def Stays (hash : Thread → Bucket) (call : BlockCall Thread) (counters : Counters) : Prop :=
  match call with
  | incrementAllocSize _ _ _ =>
      0 ≤ call.amount hash counters ∧ call.amount hash counters ≤ flushThreshold.toNat
  | decrementAllocSize _ _ =>
      -(flushThreshold.toNat : ℤ) ≤ call.amount hash counters ∧ call.amount hash counters < 0

instance (hash : Thread → Bucket) (call : BlockCall Thread) (counters : Counters) :
    Decidable (call.Stays hash counters) := by
  cases call <;> exact inferInstanceAs (Decidable (_ ∧ _))

/-- The amount stays in the bucket, or the global counter holds what the amount is below zero. -/
def Covered (hash : Thread → Bucket) (call : BlockCall Thread) (ledger : BlockLedger) : Prop :=
  call.Stays hash ledger.counters ∨
    -call.amount hash ledger.counters ≤ (ledger.counters.gAllocSize call.kindId).toNat

instance (hash : Thread → Bucket) (call : BlockCall Thread) (ledger : BlockLedger) :
    Decidable (call.Covered hash ledger) :=
  inferInstanceAs (Decidable (_ ∨ _))

/-- A released block returns to the bucket that counted it. -/
def OwnBucket (hash : Thread → Bucket) : BlockCall Thread → Prop
  | incrementAllocSize _ _ _ => True
  | decrementAllocSize thread block => hash thread = block.bucket

end BlockCall

/-- A call counts a new block or releases a live one, which any thread may do. -/
def blockStep {Thread : Type*} (hash : Thread → Bucket) (call : BlockCall Thread)
    (ledger : BlockLedger) : Option BlockLedger :=
  match call with
  | .incrementAllocSize thread kindId size =>
      some ⟨call.count hash ledger.counters, ⟨kindId, size, hash thread⟩ :: ledger.live⟩
  | .decrementAllocSize _ block =>
      if block ∈ ledger.live
        then some ⟨call.count hash ledger.counters, ledger.live.erase block⟩
        else none

/-- The number of bytes in the live blocks that meet a test. -/
def liveWhere (test : CountedBlock → Bool) (live : List CountedBlock) : Nat :=
  weightWhere (fun block => block.size.toNat) test live

/-- The true number of live bytes of a kind. -/
def BlockLedger.liveBytes (ledger : BlockLedger) (kind : Nat) : Nat :=
  liveWhere (fun block => block.kindId = kind) ledger.live

/-- The global counter of every kind is at most the live bytes and the batch limit. -/
def BlockLedger.NotWrapped (ledger : BlockLedger) : Prop :=
  ∀ kind, (ledger.counters.gAllocSize kind).toNat ≤
    ledger.liveBytes kind + threadBuckets * flushThreshold.toNat

/-- The live bytes of the kind, with a new block, and the batch limit are below the word size. -/
def BlockCall.Addressable {Thread : Type*} (call : BlockCall Thread) (ledger : BlockLedger) :
    Prop :=
  ledger.liveBytes call.kindId + call.change.toNat + batchLimit < 2 ^ 64

instance {Thread : Type*} (call : BlockCall Thread) (ledger : BlockLedger) :
    Decidable (call.Addressable ledger) :=
  inferInstanceAs (Decidable (_ < _))

/-- The live bytes that the buckets, by their signed values, do not account for. -/
def BlockLedger.flushed (ledger : BlockLedger) (kind : Nat) : ℤ :=
  ledger.liveBytes kind - ∑ bucket, (ledger.counters.tAllocSize kind bucket).toInt

/-- A step counts its call and changes the live bytes of its kind by the call's bytes. -/
theorem blockStep_cases {Thread : Type*} {hash : Thread → Bucket} {call : BlockCall Thread}
    {ledger next : BlockLedger} (stepped : blockStep hash call ledger = some next) :
    next.counters = call.count hash ledger.counters ∧
      ∃ block : CountedBlock, block.kindId = call.kindId ∧
        (call.OwnBucket hash → block.bucket = call.bucket hash) ∧
        ∀ test, (liveWhere test next.live : ℤ) =
          liveWhere test ledger.live + if test block then call.change else 0 := by
  cases call with
  | incrementAllocSize thread kindId size =>
      obtain rfl := Option.some.inj stepped
      refine ⟨rfl, ⟨kindId, size, hash thread⟩, rfl, fun _ => rfl, fun test => ?_⟩
      rw [liveWhere, weightWhere_cons, Nat.cast_add, add_comm]
      congr 1
      split <;> rfl
  | decrementAllocSize thread block =>
      simp only [blockStep, Option.ite_none_right_eq_some, Option.some.injEq] at stepped
      obtain ⟨member, rfl⟩ := stepped
      refine ⟨rfl, block, rfl, fun own => own.symm, fun test => ?_⟩
      rw [liveWhere, liveWhere, weightWhere_erase _ test member, BlockCall.change]
      split
      · push_cast
        omega
      · simp

/-- The value that the call leaves in its bucket before any flush. -/
def BlockCall.value {Thread : Type*} (hash : Thread → Bucket) (call : BlockCall Thread)
    (counters : Counters) : SizeT :=
  counters.tAllocSize call.kindId (call.bucket hash) + ((call.change : ℤ) : SizeT)

/-- The test of the call on that value. -/
def BlockCall.flushes {Thread : Type*} : BlockCall Thread → SizeT → Bool
  | incrementAllocSize _ _ _ => incrementFlushes
  | decrementAllocSize _ _ => decrementFlushes

/-- The value that the call leaves in its bucket at its end. -/
def BlockCall.remainder {Thread : Type*} (hash : Thread → Bucket) (call : BlockCall Thread)
    (counters : Counters) : SizeT :=
  if call.flushes (call.value hash counters) then 0 else call.value hash counters

/-- The bytes that the call moves out of its bucket into the global counter. -/
def BlockCall.moved {Thread : Type*} (hash : Thread → Bucket) (call : BlockCall Thread)
    (counters : Counters) : ℤ :=
  call.amount hash counters - (call.remainder hash counters).toInt

section Count

variable {Thread : Type*} (hash : Thread → Bucket) (call : BlockCall Thread)
  (counters : Counters)

theorem BlockCall.value_increment (thread : Thread) (kindId : Nat) (size : SizeT) :
    (incrementAllocSize thread kindId size).value hash counters =
      counters.tAllocSize kindId (hash thread) + size := by
  simp [BlockCall.value, change, BlockCall.kindId, BlockCall.bucket]

theorem BlockCall.value_decrement (thread : Thread) (block : CountedBlock) :
    (decrementAllocSize thread block).value hash counters =
      counters.tAllocSize block.kindId (hash thread) - block.size := by
  simp [BlockCall.value, change, BlockCall.kindId, BlockCall.bucket, sub_eq_add_neg]

/-- A complete call writes its own bucket and its own global counter, and it keeps their sum up
to its bytes. -/
theorem BlockCall.count_eq :
    call.count hash counters = {
      tAllocSize := Function.update counters.tAllocSize call.kindId
        (Function.update (counters.tAllocSize call.kindId) (call.bucket hash)
          (call.remainder hash counters))
      gAllocSize := Function.update counters.gAllocSize call.kindId
        (counters.gAllocSize call.kindId +
          (call.value hash counters - call.remainder hash counters)) } := by
  cases call with
  | incrementAllocSize thread kindId size =>
      simp only [count, Memkind.incrementAllocSize, remainder, value_increment, flushes]
      split
      · simp [Counters.setBucket, Counters.setGlobal, BlockCall.kindId, BlockCall.bucket]
      · simp [Counters.setBucket, BlockCall.kindId, BlockCall.bucket]
  | decrementAllocSize thread block =>
      simp only [count, Memkind.decrementAllocSize, remainder, value_decrement, flushes]
      split
      · simp [Counters.setBucket, Counters.setGlobal, BlockCall.kindId, BlockCall.bucket]
      · simp [Counters.setBucket, BlockCall.kindId, BlockCall.bucket]

theorem BlockCall.remainder_within : WithinThreshold (call.remainder hash counters) := by
  unfold remainder
  cases flushed : call.flushes (call.value hash counters) with
  | true => exact withinThreshold_zero
  | false =>
      cases call with
      | incrementAllocSize thread kindId size =>
          exact withinThreshold_of_not_incrementFlushes flushed
      | decrementAllocSize thread block =>
          exact withinThreshold_of_not_decrementFlushes flushed

theorem BlockCall.count_bucket :
    (call.count hash counters).tAllocSize call.kindId (call.bucket hash) =
      call.remainder hash counters := by
  rw [count_eq]
  exact counters.setBucket_same _ _ _

theorem BlockCall.count_bucket_of_ne {kind : Nat} {bucket : Bucket}
    (different : ¬ (call.kindId = kind ∧ call.bucket hash = bucket)) :
    (call.count hash counters).tAllocSize kind bucket = counters.tAllocSize kind bucket := by
  rw [count_eq]
  exact counters.setBucket_of_ne _ different

theorem BlockCall.count_within (kind : Nat) (bucket : Bucket)
    (within : WithinThreshold (counters.tAllocSize kind bucket)) :
    WithinThreshold ((call.count hash counters).tAllocSize kind bucket) := by
  by_cases here : call.kindId = kind ∧ call.bucket hash = bucket
  · obtain ⟨rfl, rfl⟩ := here
    rw [count_bucket]
    exact call.remainder_within hash counters
  · rw [call.count_bucket_of_ne hash counters here]
    exact within

/-- A complete call changes the stored bytes of its kind by its bytes. -/
theorem BlockCall.count_stored (kind : Nat) :
    (call.count hash counters).stored kind = counters.stored kind +
      if call.kindId = kind then ((call.change : ℤ) : SizeT) else 0 := by
  rw [count_eq]
  by_cases same : call.kindId = kind
  · subst same
    simp only [Counters.stored, Function.update_self, sum_update, value, ↓reduceIte]
    abel
  · simp only [Counters.stored, Function.update_of_ne (Ne.symm same), if_neg same, add_zero]

/-- A complete call changes the signed sum of the buckets by its bytes less what it moves. -/
theorem BlockCall.count_buckets (kind : Nat) :
    ∑ bucket, ((call.count hash counters).tAllocSize kind bucket).toInt =
      ∑ bucket, (counters.tAllocSize kind bucket).toInt +
        if call.kindId = kind then call.change - call.moved hash counters else 0 := by
  by_cases same : call.kindId = kind
  · subst same
    rw [if_pos rfl, moved, amount, count_eq]
    simp only [Function.update_self]
    rw [sum_mark_update BitVec.toInt]
    abel
  · rw [count_eq, if_neg same]
    simp only [Function.update_of_ne (Ne.symm same), add_zero]

end Count

section Words

/-- A negative number is a word in the upper half. -/
theorem toNat_toInt (bucket : SizeT) :
    (bucket.toNat : ℤ) = bucket.toInt ∧ 0 ≤ bucket.toInt ∨
      (bucket.toNat : ℤ) = bucket.toInt + 2 ^ 64 ∧ bucket.toInt < 0 := by
  have signed := BitVec.toInt_eq_toNat_cond bucket
  have word := bucket.isLt
  by_cases positive : 2 * bucket.toNat < 2 ^ 64
  · rw [if_pos positive] at signed
    omega
  · rw [if_neg positive] at signed
    omega

section Sums

variable {bucket size : SizeT} (within : WithinThreshold bucket)
  (fits : size.toNat + flushThreshold.toNat < 2 ^ 64)

include within fits

theorem toNat_add_within :
    ((bucket + size).toNat : ℤ) =
      if 0 ≤ bucket.toInt + (size.toNat : ℤ) then bucket.toInt + (size.toNat : ℤ)
      else bucket.toInt + (size.toNat : ℤ) + 2 ^ 64 := by
  have threshold : flushThreshold.toNat = 51200 := rfl
  obtain ⟨low, high⟩ := within
  rw [threshold] at low high fits
  rw [BitVec.toNat_add]
  have sign := toNat_toInt bucket
  split
  · omega
  · omega

theorem toNat_sub_within :
    ((bucket - size).toNat : ℤ) =
      if 0 ≤ bucket.toInt + -(size.toNat : ℤ) then bucket.toInt + -(size.toNat : ℤ)
      else bucket.toInt + -(size.toNat : ℤ) + 2 ^ 64 := by
  have threshold : flushThreshold.toNat = 51200 := rfl
  obtain ⟨low, high⟩ := within
  rw [threshold] at low high fits
  rw [BitVec.toNat_sub]
  have sign := toNat_toInt bucket
  split
  · omega
  · omega

end Sums

namespace BlockCall

variable {Thread : Type*} {hash : Thread → Bucket} {call : BlockCall Thread} {counters : Counters}
  (within : WithinThreshold (counters.tAllocSize call.kindId (call.bucket hash)))
  (fits : call.size.toNat + flushThreshold.toNat < 2 ^ 64)

include within fits

/-- The word that the tests see is the amount modulo the word size. -/
theorem value_toNat :
    ((call.value hash counters).toNat : ℤ) =
      if 0 ≤ call.amount hash counters then call.amount hash counters
      else call.amount hash counters + 2 ^ 64 := by
  unfold amount
  cases call with
  | incrementAllocSize thread kindId size =>
      rw [value_increment]
      exact toNat_add_within within fits
  | decrementAllocSize thread block =>
      rw [value_decrement]
      exact toNat_sub_within within fits

/-- The tests flush exactly the amounts that do not stay. -/
theorem flushes_iff :
    call.flushes (call.value hash counters) = true ↔ ¬call.Stays hash counters := by
  have value := value_toNat within fits
  have word := (call.value hash counters).isLt
  cases call with
  | incrementAllocSize thread kindId size =>
      have test : flushes (incrementAllocSize thread kindId size)
          (BlockCall.value hash (incrementAllocSize thread kindId size) counters) = true ↔ 51200 <
            (BlockCall.value hash (incrementAllocSize thread kindId size) counters).toNat :=
        decide_eq_true_iff
      have low : -51200 ≤ amount hash (incrementAllocSize thread kindId size) counters := by
        have held : (-51200 : ℤ) ≤ (counters.tAllocSize kindId (hash thread)).toInt := within.1
        change (-51200 : ℤ) ≤ (counters.tAllocSize kindId (hash thread)).toInt + (size.toNat : ℤ)
        omega
      change _ ↔ ¬(0 ≤ _ ∧ _ ≤ (51200 : ℤ))
      rw [test]
      split at value
      · omega
      · omega
  | decrementAllocSize thread block =>
      have test : flushes (decrementAllocSize thread block)
          (BlockCall.value hash (decrementAllocSize thread block) counters) = true ↔
          (BlockCall.value hash (decrementAllocSize thread block) counters).toNat <
            2 ^ 64 - 51200 :=
        decide_eq_true_iff
      have high : amount hash (decrementAllocSize thread block) counters ≤ 51200 := by
        have held : (counters.tAllocSize block.kindId (hash thread)).toInt ≤ (51200 : ℤ) := within.2
        change (counters.tAllocSize block.kindId (hash thread)).toInt +
          -(block.size.toNat : ℤ) ≤ 51200
        omega
      change _ ↔ ¬((-51200 : ℤ) ≤ _ ∧ _ < 0)
      rw [test]
      split at value
      · omega
      · omega

/-- An amount that stays is the signed value of the word. -/
theorem value_toInt_of_stays (stays : call.Stays hash counters) :
    (call.value hash counters).toInt = call.amount hash counters := by
  have value := value_toNat within fits
  have sign := toNat_toInt (call.value hash counters)
  have bounds : -51200 ≤ call.amount hash counters ∧ call.amount hash counters ≤ 51200 := by
    have threshold : flushThreshold.toNat = 51200 := rfl
    unfold Stays at stays
    rw [threshold] at stays
    split at stays
    · omega
    · omega
  have small := @BitVec.toInt_lt 64 (call.value hash counters)
  have large := @BitVec.le_toInt 64 (call.value hash counters)
  split at value
  · omega
  · omega

/-- A call moves its amount unless the amount stays. -/
theorem moved_eq :
    call.moved hash counters =
      if call.Stays hash counters then 0 else call.amount hash counters := by
  unfold moved remainder
  by_cases stays : call.Stays hash counters
  · rw [if_neg ((flushes_iff within fits).not.mpr (not_not.mpr stays)), if_pos stays,
      value_toInt_of_stays within fits stays, sub_self]
  · rw [if_pos ((flushes_iff within fits).mpr stays), if_neg stays]
    exact sub_zero _

end BlockCall

end Words

/-- The buckets are in range, and the counters hold the live bytes modulo the word size. -/
structure BlockLedger.Balanced (ledger : BlockLedger) : Prop where
  within : ∀ kind bucket, WithinThreshold (ledger.counters.tAllocSize kind bucket)
  stored : ∀ kind, ledger.counters.stored kind = ((ledger.liveBytes kind : ℤ) : SizeT)

theorem BlockLedger.initial_balanced : BlockLedger.initial.Balanced := by
  constructor
  · intro kind bucket
    exact withinThreshold_zero
  · intro kind
    simp [initial, Counters.zero_stored, liveBytes, liveWhere, weightWhere]

theorem BlockLedger.Balanced.global {ledger : BlockLedger} (balanced : ledger.Balanced)
    (kind : Nat) :
    ((ledger.counters.gAllocSize kind).toNat : ℤ) = ledger.flushed kind % 2 ^ 64 := by
  have word : ledger.counters.gAllocSize kind = BitVec.ofInt 64 (ledger.flushed kind) := by
    have total := balanced.stored kind
    rw [Counters.stored, ← eq_sub_iff_add_eq] at total
    rw [total, ← sum_toInt]
    exact (Int.cast_sub _ _).symm
  rw [word, BitVec.toNat_ofInt]
  omega

/-- The global counter has wrapped exactly when the buckets hold more than the live bytes. -/
theorem BlockLedger.Balanced.notWrapped_iff {ledger : BlockLedger}
    (balanced : ledger.Balanced) : ledger.NotWrapped ↔ ∀ kind, 0 ≤ ledger.flushed kind := by
  apply forall_congr'
  intro kind
  have counter := balanced.global kind
  have lag := abs_le.mp (withinThreshold_sum (balanced.within kind))
  rw [show batchLimit = 13107200 from rfl] at lag
  rw [show threadBuckets * flushThreshold.toNat = 13107200 from rfl]
  unfold flushed at counter ⊢
  omega

section Step

variable {Thread : Type*} {hash : Thread → Bucket} {call : BlockCall Thread}
  {ledger next : BlockLedger}

/-- The live bytes of a kind change by the bytes of a call on that kind. -/
theorem blockStep_liveBytes (stepped : blockStep hash call ledger = some next) (kind : Nat) :
    (next.liveBytes kind : ℤ) = ledger.liveBytes kind +
      if call.kindId = kind then call.change else 0 := by
  obtain ⟨-, block, sameKind, -, live⟩ := blockStep_cases stepped
  have changed := live fun block => block.kindId = kind
  rw [sameKind] at changed
  simp only [decide_eq_true_eq] at changed
  exact changed

theorem blockStep_balanced (stepped : blockStep hash call ledger = some next)
    (balanced : ledger.Balanced) : next.Balanced := by
  obtain ⟨counted, -⟩ := blockStep_cases stepped
  constructor
  · intro kind bucket
    rw [counted]
    exact call.count_within hash ledger.counters kind bucket (balanced.within kind bucket)
  · intro kind
    rw [counted, BlockCall.count_stored, balanced.stored, blockStep_liveBytes stepped]
    split
    · rw [Int.cast_add]
    · rw [add_zero, add_zero]

/-- A call changes the flushed bytes of its kind by what it moves. -/
theorem blockStep_flushed (stepped : blockStep hash call ledger = some next) (kind : Nat) :
    next.flushed kind = ledger.flushed kind +
      if call.kindId = kind then call.moved hash ledger.counters else 0 := by
  obtain ⟨counted, -⟩ := blockStep_cases stepped
  rw [BlockLedger.flushed, counted, BlockCall.count_buckets, blockStep_liveBytes stepped,
    BlockLedger.flushed]
  split
  · omega
  · omega

/-- The block of a call on live bytes that can be addressed is not too large. -/
theorem blockStep_fits (stepped : blockStep hash call ledger = some next)
    (addressable : call.Addressable ledger) :
    call.size.toNat + flushThreshold.toNat < 2 ^ 64 := by
  have changed := blockStep_liveBytes stepped call.kindId
  rw [if_pos rfl] at changed
  unfold BlockCall.Addressable at addressable
  rw [show batchLimit = 13107200 from rfl] at addressable
  rw [show flushThreshold.toNat = 51200 from rfl]
  cases call with
  | incrementAllocSize thread kindId size =>
      simp only [BlockCall.change, Int.toNat_natCast] at addressable
      change size.toNat + 51200 < 2 ^ 64
      omega
  | decrementAllocSize thread block =>
      simp only [BlockCall.change] at changed
      change block.size.toNat + 51200 < 2 ^ 64
      omega

/-- A call leaves the global counter unwrapped exactly when it is covered. -/
theorem blockStep_notWrapped_iff (stepped : blockStep hash call ledger = some next)
    (balanced : ledger.Balanced) (before : ledger.NotWrapped)
    (addressable : call.Addressable ledger) : next.NotWrapped ↔ call.Covered hash ledger := by
  have counter := balanced.global call.kindId
  have lag := abs_le.mp (withinThreshold_sum (balanced.within call.kindId))
  have moved := BlockCall.moved_eq (balanced.within call.kindId (call.bucket hash))
    (blockStep_fits stepped addressable)
  rw [balanced.notWrapped_iff] at before
  have flushed := before call.kindId
  have small : ledger.flushed call.kindId < 2 ^ 64 := by
    unfold BlockCall.Addressable at addressable
    rw [show batchLimit = 13107200 from rfl] at lag addressable
    unfold BlockLedger.flushed
    omega
  rw [Int.emod_eq_of_lt flushed small] at counter
  have own : next.NotWrapped ↔
      0 ≤ ledger.flushed call.kindId + call.moved hash ledger.counters := by
    rw [(blockStep_balanced stepped balanced).notWrapped_iff]
    constructor
    · intro reached
      have after := reached call.kindId
      rwa [blockStep_flushed stepped, if_pos rfl] at after
    · intro reached kind
      rw [blockStep_flushed stepped]
      split
      · rename_i same
        exact same ▸ reached
      · rw [add_zero]
        exact before kind
  rw [own, moved, BlockCall.Covered, counter]
  split
  · rename_i stays
    exact iff_of_true (by omega) (.inl stays)
  · rename_i leaves
    rw [or_iff_right leaves]
    omega

end Step

theorem BlockLedger.initial_notWrapped : BlockLedger.initial.NotWrapped := by
  intro kind
  exact Nat.zero_le _

/-- A call leaves its bucket at most at zero or at most at what it found and added. -/
theorem BlockCall.remainder_le {Thread : Type*} (hash : Thread → Bucket) (call : BlockCall Thread)
    (counters : Counters) :
    (call.remainder hash counters).toInt ≤ 0 ∨
      (call.remainder hash counters).toInt ≤
        (counters.tAllocSize call.kindId (call.bucket hash)).toInt + call.change := by
  unfold remainder
  cases flushed : call.flushes (call.value hash counters) with
  | true => exact .inl le_rfl
  | false =>
      cases call with
      | decrementAllocSize thread block =>
          -- The unsigned test flushes every value that is not negative.
          left
          have high := le_of_not_decrementFlushes flushed
          have sign := BitVec.toInt_eq_toNat_cond
            ((decrementAllocSize thread block).value hash counters)
          rw [if_neg (by omega)] at sign
          simp only [Bool.false_eq_true, if_false]
          omega
      | incrementAllocSize thread kindId size =>
          right
          have low := le_of_not_incrementFlushes flushed
          have sum : ((incrementAllocSize thread kindId size).value hash counters).toNat =
              ((counters.tAllocSize kindId (hash thread)).toNat + size.toNat) % 2 ^ 64 := by
            simp [BlockCall.value, change, BlockCall.kindId, BlockCall.bucket]
          have sign := BitVec.toInt_eq_toNat_cond
            ((incrementAllocSize thread kindId size).value hash counters)
          have found := BitVec.toInt_eq_toNat_cond (counters.tAllocSize kindId (hash thread))
          rw [if_pos (by omega)] at sign
          simp only [Bool.false_eq_true, if_false, sign, BlockCall.kindId, BlockCall.bucket,
            found, change]
          split
          · omega
          · omega

/-- No bucket holds more than the live bytes that it counted. -/
def BlockLedger.Backed (ledger : BlockLedger) : Prop :=
  ∀ kind bucket, (ledger.counters.tAllocSize kind bucket).toInt ≤
    liveWhere (fun block => block.kindId = kind ∧ block.bucket = bucket) ledger.live

theorem blockStep_backed {Thread : Type*} {hash : Thread → Bucket} {call : BlockCall Thread}
    {ledger next : BlockLedger} (stepped : blockStep hash call ledger = some next)
    (own : call.OwnBucket hash) (backed : ledger.Backed) : next.Backed := by
  obtain ⟨counted, block, sameKind, sameBucket, live⟩ := blockStep_cases stepped
  intro kind bucket
  have before := backed kind bucket
  have changed := live fun block => block.kindId = kind ∧ block.bucket = bucket
  rw [sameKind, sameBucket own] at changed
  simp only [decide_eq_true_eq] at changed
  rw [counted]
  by_cases here : call.kindId = kind ∧ call.bucket hash = bucket
  · obtain ⟨rfl, rfl⟩ := here
    rw [if_pos ⟨rfl, rfl⟩] at changed
    rw [BlockCall.count_bucket]
    obtain low | low := call.remainder_le hash ledger.counters
    · omega
    · omega
  · rw [if_neg here, add_zero] at changed
    rw [changed, call.count_bucket_of_ne hash ledger.counters here]
    exact before

/-- The buckets of a kind counted all of its live bytes. -/
theorem liveWhere_sum (kind : Nat) (live : List CountedBlock) :
    ∑ bucket, liveWhere (fun block => block.kindId = kind ∧ block.bucket = bucket) live =
      liveWhere (fun block => block.kindId = kind) live := by
  induction live with
  | nil => simp [liveWhere, weightWhere]
  | cons block rest ih =>
      simp only [liveWhere] at ih
      simp only [liveWhere, weightWhere_cons, Finset.sum_add_distrib, ih, decide_eq_true_eq]
      by_cases same : block.kindId = kind
      · simp only [same, true_and, if_true, Finset.sum_ite_eq, Finset.mem_univ]
      · simp only [same, false_and, if_false, Finset.sum_const_zero]

/-- A run in which every block returns to the bucket that counted it. -/
theorem blockRun_ownBucket {Thread : Type*} (hash : Thread → Bucket)
    {calls : List (BlockCall Thread)}
    (own : Guarded (blockStep hash) (fun call _ => call.OwnBucket hash) BlockLedger.initial calls) :
    Always (blockStep hash) BlockLedger.NotWrapped BlockLedger.initial calls := by
  have both : Always (blockStep hash) (fun ledger => ledger.Balanced ∧ ledger.Backed)
      BlockLedger.initial calls := by
    apply always_of_guarded (blockStep hash) _ _ own
    · intro call ledger next before met stepped
      exact ⟨blockStep_balanced stepped before.1, blockStep_backed stepped met before.2⟩
    · exact ⟨BlockLedger.initial_balanced, fun kind bucket => Int.natCast_nonneg _⟩
  apply both.imp (blockStep hash)
  intro ledger before
  obtain ⟨balanced, backed⟩ := before
  rw [balanced.notWrapped_iff]
  intro kind
  have held : ∑ bucket, (ledger.counters.tAllocSize kind bucket).toInt ≤
      ∑ bucket, (liveWhere (fun block => block.kindId = kind ∧ block.bucket = bucket)
        ledger.live : ℤ) := Finset.sum_le_sum fun bucket _ => backed kind bucket
  rw [← Nat.cast_sum, liveWhere_sum] at held
  exact sub_nonneg.mpr held

/-- When every block returns to the bucket that counted it, as in a program with one thread, the
global counter of no kind wraps. While the live bytes can be addressed, a run of any threads never
wraps a global counter exactly when every call is covered. -/
theorem blockRun_notWrapped {Thread : Type*} (hash : Thread → Bucket)
    (calls : List (BlockCall Thread)) :
    (Guarded (blockStep hash) (fun call _ => call.OwnBucket hash) BlockLedger.initial calls →
      Always (blockStep hash) BlockLedger.NotWrapped BlockLedger.initial calls) ∧
    (Guarded (blockStep hash) BlockCall.Addressable BlockLedger.initial calls →
      (Always (blockStep hash) BlockLedger.NotWrapped BlockLedger.initial calls ↔
        Guarded (blockStep hash) (BlockCall.Covered hash) BlockLedger.initial calls)) := by
  refine ⟨blockRun_ownBucket hash, fun addressable => ?_⟩
  have implied : ∀ ledger : BlockLedger, ledger.Balanced ∧ ledger.NotWrapped → ledger.NotWrapped :=
    fun _ sound => sound.2
  refine always_iff_guarded_of_assumed (blockStep hash) implied ?_ ?_
    ⟨BlockLedger.initial_balanced, BlockLedger.initial_notWrapped⟩ addressable
  · intro call ledger next sound fits stepped covered
    exact ⟨blockStep_balanced stepped sound.1,
      (blockStep_notWrapped_iff stepped sound.1 sound.2 fits).mpr covered⟩
  · intro call ledger next sound fits stepped after
    exact (blockStep_notWrapped_iff stepped sound.1 sound.2 fits).mp after

/-- A block above the threshold goes to the global counter at once, so another thread's bucket may
release it. -/
theorem blockRun_notWrapped_two_buckets :
    Always (blockStep fun thread : Fin 2 => thread.castLE (by decide)) BlockLedger.NotWrapped
      BlockLedger.initial
      [.incrementAllocSize 0 0 60000, .decrementAllocSize 1 ⟨0, 60000, 0⟩] :=
  ((blockRun_notWrapped _ _).2 (by decide)).mpr (by decide)

/-- Two blocks below the threshold, counted in two buckets and released through a third one: the
second release flushes a negative bucket into an empty global counter. -/
theorem blockRun_wraps :
    ∃ final, runSteps (blockStep fun thread : Fin 3 => thread.castLE (by decide))
        BlockLedger.initial
        [.incrementAllocSize 0 0 51200, .incrementAllocSize 1 0 51200,
          .decrementAllocSize 2 ⟨0, 51200, 0⟩, .decrementAllocSize 2 ⟨0, 51200, 1⟩] = some final ∧
      final.live = [] ∧ (final.counters.gAllocSize 0).toNat = 2 ^ 64 - 102400 ∧
      ¬ final.NotWrapped := by
  obtain ⟨final, ran⟩ : ∃ final,
      runSteps (blockStep fun thread : Fin 3 => thread.castLE (by decide)) BlockLedger.initial
        [.incrementAllocSize 0 0 51200, .incrementAllocSize 1 0 51200,
          .decrementAllocSize 2 ⟨0, 51200, 0⟩, .decrementAllocSize 2 ⟨0, 51200, 1⟩] =
        some final := ⟨_, rfl⟩
  have wrapped : final.live = [] ∧ (final.counters.gAllocSize 0).toNat = 2 ^ 64 - 102400 := by
    obtain rfl := Option.some.inj ran
    decide
  refine ⟨final, ran, wrapped.1, wrapped.2, fun notWrapped => ?_⟩
  have bound := notWrapped 0
  rw [wrapped.2, BlockLedger.liveBytes, wrapped.1] at bound
  revert bound
  decide

end Memkind
