/-
This file counts the ratio checks that a dynamic memory makes over its operations.
-/

import Memkind.Construction.Memtier
import Memkind.Construction.CtlSet
import Memkind.Proof.Tiering.ThresholdClamp

namespace Memkind

open Library

section Countdown

/-- The number of operations up to the next check. A count of zero is decremented around. -/
def operationsLeft (count : BitVec 32) : Nat := if count = 0 then 2 ^ 32 else count.toNat

theorem operationsLeft_pos (count : BitVec 32) : 0 < operationsLeft count := by
  unfold operationsLeft
  split
  · decide
  · rename_i nonzero
    exact Nat.pos_of_ne_zero fun zero => nonzero (BitVec.eq_of_toNat_eq zero)

theorem toNat_pred (count : BitVec 32) : (count - 1).toNat = operationsLeft count - 1 := by
  have word := count.isLt
  have one : (1 : BitVec 32).toNat = 1 := rfl
  unfold operationsLeft
  split
  · rename_i zero
    rw [zero]
    rfl
  · rename_i nonzero
    have positive : 0 < count.toNat :=
      Nat.pos_of_ne_zero fun zero => nonzero (BitVec.eq_of_toNat_eq zero)
    rw [BitVec.toNat_sub, one]
    omega

/-- The test of the decremented counter. -/
theorem pred_pos_iff (count : BitVec 32) : 0 < count - 1 ↔ 1 < operationsLeft count := by
  rw [BitVec.lt_def, toNat_pred]
  change 0 < _ ↔ _
  omega

theorem operationsLeft_pred {count : BitVec 32} (waits : 0 < count - 1) :
    operationsLeft (count - 1) = operationsLeft count - 1 := by
  have nonzero : count - 1 ≠ 0 := by
    intro zero
    rw [zero] at waits
    exact absurd waits (by decide)
  rw [← toNat_pred, operationsLeft, if_neg nonzero]

end Countdown

section Operations

/-- An operation on a memory updates its configuration once, whatever the counters that it reads. The
number counts the ratio checks so far. -/
def countedUpdate (reads : Nat → SizeT × SizeT) (state : MemtierMemory × Nat) :
    Option (MemtierMemory × Nat) :=
  (memtierPolicyDynamicThresholdUpdateConfig reads state.1).map fun next =>
    (next, if 0 < state.1.thresCheckCnt - 1 then state.2 else state.2 + 1)

/-- An allocation from a dynamic memory is one such operation. -/
theorem TierSystem.allocate_update {partition : KindPtr → Nat} {size : SizeT}
    {count : Nat → Counters → Counters} {system next : TierSystem} {kind : KindPtr}
    (dynamic : system.memory.policy = .dynamicThreshold)
    (allocated : system.allocate partition size count = some (kind, next)) :
    ∃ reads, memtierPolicyDynamicThresholdUpdateConfig reads system.memory = some next.memory := by
  obtain ⟨chosen, -, rest⟩ := Option.bind_eq_some_iff.mp allocated
  obtain ⟨memory, updated, result⟩ := Option.map_eq_some_iff.mp rest
  rw [← (Prod.mk.inj result).2]
  rw [MemtierMemory.updateCfg, dynamic] at updated
  exact ⟨_, updated⟩

/-- One operation counts down, and a check starts the count again. -/
theorem countedUpdate_left {reads : Nat → SizeT × SizeT} {state next : MemtierMemory × Nat}
    (stepped : countedUpdate reads state = some next) :
    next.1.thresInitCheckCnt = state.1.thresInitCheckCnt ∧
      (1 < operationsLeft state.1.thresCheckCnt ∧ next.2 = state.2 ∧
          operationsLeft next.1.thresCheckCnt = operationsLeft state.1.thresCheckCnt - 1 ∨
        operationsLeft state.1.thresCheckCnt = 1 ∧ next.2 = state.2 + 1 ∧
          next.1.thresCheckCnt = state.1.thresInitCheckCnt) := by
  obtain ⟨memory, updated, rfl⟩ := Option.map_eq_some_iff.mp stepped
  unfold memtierPolicyDynamicThresholdUpdateConfig at updated
  split at updated
  · rename_i waits
    obtain rfl := Option.some.inj updated
    refine ⟨rfl, Or.inl ⟨(pred_pos_iff _).mp waits, if_pos waits, operationsLeft_pred waits⟩⟩
  · rename_i due
    obtain ⟨thresholds, -, rfl⟩ := Option.map_eq_some_iff.mp updated
    have positive := operationsLeft_pos state.1.thresCheckCnt
    rw [pred_pos_iff] at due
    refine ⟨rfl, Or.inr ⟨by omega, ?_, rfl⟩⟩
    exact if_neg ((pred_pos_iff _).not.mpr due)

/-- The checks of a run, from any state of the counter. -/
theorem countedRun_count {state final : MemtierMemory × Nat} {operations : List (Nat → SizeT × SizeT)}
    (ran : runSteps countedUpdate state operations = some final)
    (started : operationsLeft state.1.thresCheckCnt ≤ operationsLeft state.1.thresInitCheckCnt) :
    final.2 = state.2 + (operations.length + operationsLeft state.1.thresInitCheckCnt -
      operationsLeft state.1.thresCheckCnt) / operationsLeft state.1.thresInitCheckCnt := by
  have period := operationsLeft_pos state.1.thresInitCheckCnt
  have positive := operationsLeft_pos state.1.thresCheckCnt
  induction operations generalizing state with
  | nil =>
      obtain rfl := Option.some.inj ran
      rw [List.length_nil, Nat.div_eq_of_lt (by omega), Nat.add_zero]
  | cons reads rest ih =>
      obtain ⟨next, stepped, tail⟩ := (runSteps_cons_eq_some countedUpdate).mp ran
      obtain ⟨sameInit, ⟨waits, sameCount, left⟩ | ⟨due, counted, restarted⟩⟩ :=
        countedUpdate_left stepped
      · rw [← sameInit] at started period ⊢
        have later := ih tail (by omega) period (by omega)
        rw [later, sameCount, left, List.length_cons]
        congr 2
        omega
      · have later := ih tail (by rw [restarted, sameInit]) (by rwa [sameInit])
          (by rwa [restarted])
        have numerator : rest.length + 1 + operationsLeft state.1.thresInitCheckCnt - 1 =
            rest.length + operationsLeft state.1.thresInitCheckCnt := by omega
        rw [later, counted, restarted, sameInit, due, Nat.add_sub_cancel, List.length_cons,
          numerator, Nat.add_div_right _ period]
        omega

end Operations

/-- A memory makes its checks every `check_cnt` operations, whatever the checks do, unless the count
is zero and there are operations. -/
theorem countedRun_exact_iff (outcome : MemoryOutcome) (builder : MemtierBuilder)
    (memory : MemtierMemory) (accepted : builderDynamicCreateMemory outcome builder = some memory)
    (operations : List (Nat → SizeT × SizeT)) (final : MemtierMemory) (checks : Nat)
    (ran : runSteps countedUpdate (memory, 0) operations = some (final, checks)) :
    checks = operations.length / max builder.checkCnt.toNat 1 ↔
      builder.checkCnt ≠ 0 ∨ operations = [] := by
  obtain ⟨-, -, -, rfl⟩ := builderDynamicCreateMemory_eq_some accepted
  have counted := countedRun_count ran (Nat.le_refl _)
  have period := operationsLeft_pos builder.checkCnt
  dsimp only at counted
  rw [Nat.zero_add, Nat.add_sub_cancel] at counted
  by_cases zero : builder.checkCnt = 0
  · rw [operationsLeft, if_pos zero] at counted
    rw [zero, counted]
    change _ / 2 ^ 32 = _ / 1 ↔ _
    rw [Nat.div_one, ← List.length_eq_zero_iff]
    constructor
    · intro same
      right
      omega
    · rintro (nonzero | empty)
      · exact absurd rfl nonzero
      · omega
  · rw [operationsLeft, if_neg zero] at counted period
    rw [Nat.max_eq_left period]
    exact iff_of_true counted (Or.inl zero)

/-- Two tiers with the given number of operations between two checks. -/
def countedTiers (checkCnt : BitVec 32) : MemtierBuilder := { twoTiers (1 / 4) with checkCnt }

/-- Five operations with a check at every second one make two checks. -/
theorem countedRun_exact_iff_second :
    ∃ memory final checks,
      builderDynamicCreateMemory ⟨true, true, true⟩ (countedTiers 2) = some memory ∧
      runSteps countedUpdate (memory, 0) (List.replicate 5 fun _ => (100, 0)) =
        some (final, checks) ∧ checks = 5 / max 2 1 := by
  obtain ⟨memory, accepted, ran⟩ := Option.bind_eq_some_iff.mp
    (show ((builderDynamicCreateMemory ⟨true, true, true⟩ (countedTiers 2)).bind fun memory =>
      (runSteps countedUpdate (memory, 0) (List.replicate 5 fun _ => (100, 0))).map Prod.snd) =
        some 2 by
      decide +kernel)
  obtain ⟨⟨final, checks⟩, ran, -⟩ := Option.map_eq_some_iff.mp ran
  exact ⟨memory, final, checks, accepted, ran,
    (countedRun_exact_iff _ _ memory accepted _ final checks ran).mpr (.inl (by decide))⟩

/-- `memtier_ctl_set` accepts a count of zero, and the first operation then makes no check. -/
theorem countedRun_not_exact :
    ((memtierCtlSetName [] (countedTiers 1) "policy.dynamic_threshold.check_cnt".toList
        ⟨0, 0, .finite 0⟩).map fun result => (result.1, result.2.checkCnt)) = some (0, 0) ∧
      ∃ memory final,
        builderDynamicCreateMemory ⟨true, true, true⟩ (countedTiers 0) = some memory ∧
        runSteps countedUpdate (memory, 0) [fun _ => (100, 0)] = some (final, 0) ∧
        0 ≠ [fun _ : Nat => ((100 : SizeT), (0 : SizeT))].length /
          max (countedTiers 0).checkCnt.toNat 1 := by
  refine ⟨by decide +kernel, ?_⟩
  obtain ⟨memory, accepted, ran⟩ := Option.bind_eq_some_iff.mp
    (show ((builderDynamicCreateMemory ⟨true, true, true⟩ (countedTiers 0)).bind fun memory =>
      (runSteps countedUpdate (memory, 0) [fun _ => (100, 0)]).map Prod.snd) = some 0 by
      decide +kernel)
  obtain ⟨⟨final, checks⟩, ran, rfl⟩ := Option.map_eq_some_iff.mp ran
  exact ⟨memory, final, accepted, ran, by decide⟩

end Memkind
