/-
This file runs complete calls on the counters and reads the exact account of a kind.
-/

import Memkind.Proof.Accounting.Conservation

namespace Memkind

open Library

/-- The draining loop has taken the buckets below `count`. -/
def Counters.zeroedBelow (counters : Counters) (partition count : Nat) : Counters :=
  { counters with
    tAllocSize := Function.update counters.tAllocSize partition fun bucket =>
      if bucket.val < count then 0 else counters.tAllocSize partition bucket }

/-- The local sum of the draining loop after `count` buckets. -/
def Counters.sumBelow (counters : Counters) (partition count : Nat) : SizeT :=
  ∑ bucket : Bucket, if bucket.val < count then counters.tAllocSize partition bucket else 0

/-- The counters after a complete `memtier_kind_allocated_size`. -/
def Counters.drained (counters : Counters) (partition : Nat) : Counters where
  tAllocSize := Function.update counters.tAllocSize partition fun _ => 0
  gAllocSize := Function.update counters.gAllocSize partition (counters.stored partition)

theorem Counters.zeroedBelow_zero (counters : Counters) (partition : Nat) :
    counters.zeroedBelow partition 0 = counters := by
  simp [zeroedBelow]

theorem Counters.sumBelow_zero (counters : Counters) (partition : Nat) :
    counters.sumBelow partition 0 = 0 := by
  simp [sumBelow]

theorem Counters.sumBelow_succ (counters : Counters) (partition : Nat) (bucket : Bucket) :
    counters.sumBelow partition (bucket.val + 1) =
      counters.sumBelow partition bucket.val + counters.tAllocSize partition bucket := by
  have split (other : Bucket) :
      (if other.val < bucket.val + 1 then counters.tAllocSize partition other else 0) =
        (if other.val < bucket.val then counters.tAllocSize partition other else 0) +
          if other = bucket then counters.tAllocSize partition other else 0 := by
    rcases lt_trichotomy other bucket with below | rfl | above
    · have value : other.val < bucket.val := below
      simp [value, Nat.lt_succ_of_lt value, ne_of_lt below]
    · simp
    · have value : bucket.val < other.val := above
      simp [ne_of_gt above, show ¬other.val < bucket.val + 1 by omega,
        show ¬other.val < bucket.val by omega]
  simp only [sumBelow, split, Finset.sum_add_distrib, Finset.sum_ite_eq', Finset.mem_univ,
    ↓reduceIte]

theorem Counters.zeroedBelow_succ (counters : Counters) (partition : Nat) (bucket : Bucket) :
    (counters.zeroedBelow partition bucket.val).setBucket partition bucket 0 =
      counters.zeroedBelow partition (bucket.val + 1) := by
  simp only [setBucket, zeroedBelow, Function.update_self, Function.update_idem]
  congr 2
  funext other
  by_cases same : other = bucket
  · subst same
    simp
  · have different : other.val ≠ bucket.val := fun equal => same (Fin.ext equal)
    simp only [Function.update_of_ne same]
    by_cases below : other.val < bucket.val
    · simp [below, Nat.lt_succ_of_lt below]
    · simp [below, show ¬other.val < bucket.val + 1 by omega]

theorem Counters.zeroedBelow_bucket (counters : Counters) (partition : Nat) (bucket : Bucket) :
    (counters.zeroedBelow partition bucket.val).tAllocSize partition bucket =
      counters.tAllocSize partition bucket := by
  simp [zeroedBelow]

/-- After the last bucket the final addition gives the drained counters. -/
theorem Counters.zeroedBelow_all (counters : Counters) (partition : Nat) :
    (counters.zeroedBelow partition threadBuckets).setGlobal partition
        (counters.gAllocSize partition + counters.sumBelow partition threadBuckets) =
      counters.drained partition := by
  simp [setGlobal, zeroedBelow, drained, stored, sumBelow]

/-- The complete call returns the stored bytes and leaves the buckets empty. -/
theorem memtierKindAllocatedSize_eq (counters : Counters) (partition : Nat) :
    memtierKindAllocatedSize counters partition =
      (counters.stored partition, counters.drained partition) := by
  have loop (count : Nat) (within : count ≤ threadBuckets) :
      ((List.finRange threadBuckets).take count).foldl
        (fun (state : SizeT × Counters) bucket =>
          (state.1 + state.2.tAllocSize partition bucket,
            state.2.setBucket partition bucket 0)) (0, counters) =
        (counters.sumBelow partition count, counters.zeroedBelow partition count) := by
    induction count with
    | zero => simp [Counters.sumBelow_zero, Counters.zeroedBelow_zero]
    | succ count ih =>
        have inside : count < (List.finRange threadBuckets).length := by
          rw [List.length_finRange]
          omega
        rw [List.take_succ_eq_append_getElem inside, List.foldl_append, ih (by omega)]
        have bucket := Counters.sumBelow_succ counters partition ⟨count, within⟩
        have emptied := Counters.zeroedBelow_succ counters partition ⟨count, within⟩
        have value := Counters.zeroedBelow_bucket counters partition ⟨count, within⟩
        simp only [List.getElem_finRange, List.foldl_cons, List.foldl_nil]
        refine Prod.ext ?_ emptied
        exact (congrArg (counters.sumBelow partition count + ·) value).trans bucket.symm
  have whole := loop threadBuckets le_rfl
  rw [List.take_of_length_le (by simp)] at whole
  simp only [memtierKindAllocatedSize, whole]
  refine Prod.ext ?_ (counters.zeroedBelow_all partition)
  simp [Counters.zeroedBelow, Counters.stored, Counters.sumBelow]

/-- One thread starts a call and performs `accesses` more accesses without interruption. -/
def soloCall {Thread : Type*} (thread : Thread) (call : CounterCall) (accesses : Nat) :
    List (Thread × ThreadAction) :=
  (thread, .start call) :: List.replicate accesses (thread, .resume)

/-- The position of the draining loop after `count` buckets. -/
def drainPosition (counters : Counters) (partition count : Nat) : ThreadPoint :=
  if more : count < threadBuckets
    then .drainBucket partition ⟨count, more⟩ (counters.sumBelow partition count)
    else .addDrained partition (counters.sumBelow partition count)

/-- The loop body moves from one position to the next. -/
theorem drainStep_position (counters : Counters) (partition : Nat) (bucket : Bucket) :
    drainStep partition bucket (counters.sumBelow partition bucket.val)
        (counters.zeroedBelow partition bucket.val) =
      (drainPosition counters partition (bucket.val + 1),
        counters.zeroedBelow partition (bucket.val + 1)) := by
  rw [drainStep, Counters.zeroedBelow_bucket, ← Counters.sumBelow_succ,
    Counters.zeroedBelow_succ, drainPosition]

/-- A thread alone runs the loop up to any later bucket. -/
theorem drainLoop_run {Thread : Type*} [DecidableEq Thread] (hash : Thread → Bucket)
    (thread : Thread) (point : Thread → ThreadPoint) (counters : Counters) (partition : Nat)
    (count : Nat) (within : count < threadBuckets) :
    runSteps (counterStep hash)
      ⟨counters.zeroedBelow partition 1,
        Function.update point thread (drainPosition counters partition 1)⟩
      (List.replicate count (thread, .resume)) =
      some ⟨counters.zeroedBelow partition (count + 1),
        Function.update point thread (drainPosition counters partition (count + 1))⟩ := by
  induction count with
  | zero => rfl
  | succ count ih =>
      have position : drainPosition counters partition (count + 1) =
          .drainBucket partition ⟨count + 1, within⟩ (counters.sumBelow partition (count + 1)) :=
        dif_pos within
      have moved := drainStep_position counters partition ⟨count + 1, within⟩
      rw [List.replicate_succ', runSteps_append, ih (by omega), Option.bind_some,
        runSteps_cons, position]
      simp only [counterStep, Function.update_self, resumeCall, moved, Option.map_some,
        Function.update_idem, Option.bind_some, runSteps_nil]

/-- The accesses of one thread alone compute the complete call. -/
theorem memtierKindAllocatedSize_run {Thread : Type*} [DecidableEq Thread]
    (hash : Thread → Bucket) (thread : Thread) (system : CounterSystem Thread)
    (returned : Option SizeT) (idle : system.point thread = .idle returned) (partition : Nat) :
    runSteps (counterStep hash) system
      (soloCall thread (.memtierKindAllocatedSize partition) threadBuckets) =
      some ⟨(memtierKindAllocatedSize system.counters partition).2,
        Function.update system.point thread
          (.idle (some (memtierKindAllocatedSize system.counters partition).1))⟩ := by
  have first := drainStep_position system.counters partition 0
  rw [Fin.val_zero, Counters.sumBelow_zero, Counters.zeroedBelow_zero] at first
  have started : counterStep hash (thread, .start (.memtierKindAllocatedSize partition)) system =
      some ⟨system.counters.zeroedBelow partition 1,
        Function.update system.point thread (drainPosition system.counters partition 1)⟩ := by
    simp only [counterStep, idle, startCall, first]
  have looped := drainLoop_run hash thread system.point system.counters partition 255 (by decide)
  have last : drainPosition system.counters partition (255 + 1) =
      .addDrained partition (system.counters.sumBelow partition threadBuckets) :=
    dif_neg (by decide)
  rw [soloCall, runSteps_cons, started, Option.bind_some,
    show threadBuckets = 255 + 1 from rfl, List.replicate_succ', runSteps_append, looped,
    Option.bind_some, runSteps_cons, last]
  have global : (system.counters.zeroedBelow partition (255 + 1)).gAllocSize =
      system.counters.gAllocSize := rfl
  have final := system.counters.zeroedBelow_all partition
  simp only [counterStep, Function.update_self, resumeCall, global, Option.map_some,
    Function.update_idem, Option.bind_some, runSteps_nil, memtierKindAllocatedSize_eq]
  rw [show 255 + 1 = threadBuckets from rfl, final]
  simp [Counters.stored, Counters.sumBelow]

/-- In every interleaving the counters and the threads hold the account of each kind, a complete
`memtier_kind_allocated_size` in a quiescent system returns that account, and no access of a
reader changes any total. -/
theorem counterRun_conserves {Thread : Type*} [Fintype Thread] [DecidableEq Thread]
    (hash : Thread → Bucket) (trace : List (Thread × ThreadAction))
    (final : CounterSystem Thread)
    (ran : runSteps (counterStep hash) (CounterSystem.initial Thread) trace = some final)
    (kind : Nat) :
    final.counters.gAllocSize kind + ∑ bucket, final.counters.tAllocSize kind bucket +
        ∑ thread, (final.point thread).held kind =
      BitVec.ofInt 64 (startedBytes (CounterCall.incremented kind) trace -
        startedBytes (CounterCall.decremented kind) trace) ∧
    (final.Quiescent → ∀ thread, ∃ after,
      runSteps (counterStep hash) final
        (soloCall thread (.memtierKindAllocatedSize kind) threadBuckets) = some after ∧
      after.point thread = .idle (some (BitVec.ofInt 64
        (startedBytes (CounterCall.incremented kind) trace -
          startedBytes (CounterCall.decremented kind) trace)))) ∧
    ∀ thread action next, counterStep hash (thread, action) final = some next →
      (action = .resume ∨ ∃ partition, action = .start (.memtierKindAllocatedSize partition)) →
      next.total kind = final.total kind := by
  have conserved : final.total kind = BitVec.ofInt 64 (accountOf kind trace) := by
    rw [counterRun_total hash ran, CounterSystem.initial_total, zero_add]
    rfl
  refine ⟨conserved, ?_, ?_⟩
  · intro quiescent thread
    obtain ⟨returned, idle⟩ := quiescent thread
    refine ⟨_, memtierKindAllocatedSize_run hash thread final returned idle kind, ?_⟩
    simp only [Function.update_self, memtierKindAllocatedSize_eq]
    rw [← quiescent.total_eq kind, conserved]
    rfl
  · rintro thread action next stepped (rfl | ⟨partition, rfl⟩)
    · rw [counterStep_total hash stepped]
      simp [ThreadAction.charge]
    · rw [counterStep_total hash stepped]
      simp [ThreadAction.charge, CounterCall.incremented, CounterCall.decremented]

/-- Two threads on one bucket: the first access of the second thread lands between the addition
and the exchange of the first. -/
theorem counterRun_conserves_two_threads :
    ∃ final : CounterSystem Bool,
      runSteps (counterStep fun _ => 7) (CounterSystem.initial Bool)
        [(true, .start (.incrementAllocSize 23 60000)),
          (false, .start (.incrementAllocSize 23 100)), (true, .resume), (true, .resume),
          (false, .resume), (false, .resume), (true, .start (.decrementAllocSize 23 60000))] =
        some final ∧
      final.counters.gAllocSize 23 + ∑ bucket, final.counters.tAllocSize 23 bucket +
        ∑ thread, (final.point thread).held 23 = 100 := by
  obtain ⟨final, ran⟩ : ∃ final : CounterSystem Bool,
      runSteps (counterStep fun _ => 7) (CounterSystem.initial Bool)
        [(true, .start (.incrementAllocSize 23 60000)),
          (false, .start (.incrementAllocSize 23 100)), (true, .resume), (true, .resume),
          (false, .resume), (false, .resume), (true, .start (.decrementAllocSize 23 60000))] =
        some final := ⟨_, rfl⟩
  exact ⟨final, ran, (counterRun_conserves (fun _ => 7) _ final ran 23).1⟩

end Memkind
