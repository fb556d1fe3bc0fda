/-
This file decides when the dynamic thresholds stay between their bounds.
-/

import Memkind.Library.Run
import Memkind.Proof.Tiering.Builder

namespace Memkind

open Library

/-- A threshold lies between its bounds. -/
def ThresholdCfg.Clamped (thres : ThresholdCfg) : Prop :=
  thres.min ≤ thres.val ∧ thres.val ≤ thres.max

/-- Every threshold of a memory lies between its bounds. -/
def MemtierMemory.Clamped (memory : MemtierMemory) : Prop :=
  ∀ thres ∈ memory.thres, thres.Clamped

/-- A move does not wrap around, or it wraps around into the bounds. -/
def ThresholdCfg.MoveFits (thres : ThresholdCfg) (threshold : SizeT) : ThresholdMove → Prop
  | .keep => True
  | .raise => thres.val.toNat + threshold.toNat < 2 ^ 64 ∨
      thres.min.toNat + 2 ^ 64 ≤ thres.val.toNat + threshold.toNat
  | .lower => threshold.toNat ≤ thres.val.toNat ∨
      thres.val.toNat + 2 ^ 64 ≤ thres.max.toNat + threshold.toNat

instance (thres : ThresholdCfg) (threshold : SizeT) (move : ThresholdMove) :
    Decidable (thres.MoveFits threshold move) := by
  cases move
  · exact instDecidableTrue
  · exact inferInstanceAs (Decidable (_ ∨ _))
  · exact inferInstanceAs (Decidable (_ ∨ _))

/-- The move that a ratio check makes with the sizes it reads fits. -/
def ThresholdCfg.CheckFits (trigger degree : ExactFloat) (read : SizeT × SizeT)
    (thres : ThresholdCfg) : Prop :=
  ∀ threshold, thres.step degree = some threshold →
    thres.MoveFits threshold (thres.observe trigger read.1 read.2).1

instance (trigger degree : ExactFloat) (read : SizeT × SizeT) (thres : ThresholdCfg) :
    Decidable (thres.CheckFits trigger degree read) :=
  decidable_of_iff ((thres.step degree).all fun threshold =>
      decide (thres.MoveFits threshold (thres.observe trigger read.1 read.2).1)) <| by
    simp only [Option.all_eq_true, decide_eq_true_eq]
    rfl

/-- When a ratio check is due, the move of every threshold fits. -/
def checkFits (reads : Nat → SizeT × SizeT) (memory : MemtierMemory) : Prop :=
  ¬0 < memory.thresCheckCnt - 1 → ∀ (i : Nat) (thres : ThresholdCfg), memory.thres[i]? = some thres →
    thres.CheckFits memory.thresTrigger memory.thresDegree (reads i)

instance (reads : Nat → SizeT × SizeT) (memory : MemtierMemory) :
    Decidable (checkFits reads memory) :=
  decidable_of_iff (¬0 < memory.thresCheckCnt - 1 → ∀ entry ∈ memory.thres.zipIdx,
      entry.1.CheckFits memory.thresTrigger memory.thresDegree (reads entry.2)) <| by
    refine imp_congr_right fun _ => ?_
    simp only [Prod.forall, List.mk_mem_zipIdx_iff_getElem?]
    exact forall_comm

/-- A raised threshold stays in bounds exactly when its sum fits. -/
theorem ThresholdCfg.raise_clamped_iff {thres : ThresholdCfg} (clamped : thres.Clamped)
    (threshold : SizeT) :
    (thres.move threshold .raise).Clamped ↔ thres.MoveFits threshold .raise := by
  obtain ⟨low, high⟩ := clamped
  have bound := threshold.isLt
  have valBound := thres.val.isLt
  rw [BitVec.le_def] at low high
  simp only [move, MoveFits]
  split
  · rename_i accepted
    rw [BitVec.le_def, BitVec.toNat_add] at accepted
    simp only [Clamped, BitVec.le_def, BitVec.toNat_add]
    omega
  · rename_i rejected
    rw [BitVec.le_def, BitVec.toNat_add] at rejected
    simp only [Clamped, BitVec.le_def]
    omega

/-- A lowered threshold stays in bounds exactly when its difference fits. -/
theorem ThresholdCfg.lower_clamped_iff {thres : ThresholdCfg} (clamped : thres.Clamped)
    (threshold : SizeT) :
    (thres.move threshold .lower).Clamped ↔ thres.MoveFits threshold .lower := by
  obtain ⟨low, high⟩ := clamped
  have bound := threshold.isLt
  have valBound := thres.val.isLt
  rw [BitVec.le_def] at low high
  simp only [move, MoveFits]
  split
  · rename_i accepted
    rw [BitVec.le_def, BitVec.toNat_sub] at accepted
    simp only [Clamped, BitVec.le_def, BitVec.toNat_sub]
    omega
  · rename_i rejected
    rw [BitVec.le_def, BitVec.toNat_sub] at rejected
    simp only [Clamped, BitVec.le_def]
    omega

/-- A check changes only the recorded difference before it moves the threshold. -/
theorem ThresholdCfg.observe_bounds (trigger : ExactFloat) (prev next : SizeT)
    (thres : ThresholdCfg) :
    (thres.observe trigger prev next).2.val = thres.val ∧
      (thres.observe trigger prev next).2.min = thres.min ∧
      (thres.observe trigger prev next).2.max = thres.max := by
  unfold observe
  split
  · exact ⟨rfl, rfl, rfl⟩
  · exact ⟨rfl, rfl, rfl⟩

/-- One pass of the loop keeps a threshold in bounds exactly when its move fits. -/
theorem updateThreshold_clamped_iff {trigger degree : ExactFloat} {read : SizeT × SizeT}
    {thres updated : ThresholdCfg} (clamped : thres.Clamped)
    (stepped : updateThreshold trigger degree read thres = some updated) :
    updated.Clamped ↔ thres.CheckFits trigger degree read := by
  obtain ⟨val, min, max⟩ := thres.observe_bounds trigger read.1 read.2
  unfold updateThreshold at stepped
  unfold ThresholdCfg.CheckFits
  cases decided : thres.observe trigger read.1 read.2 with
  | mk move observed =>
      rw [decided] at stepped val min max
      dsimp only at val min max
      have observedClamped : observed.Clamped := by
        unfold ThresholdCfg.Clamped
        rw [val, min, max]
        exact clamped
      have sameStep : observed.step degree = thres.step degree := by
        unfold ThresholdCfg.step
        rw [val]
      have sameFits : ∀ threshold,
          observed.MoveFits threshold move ↔ thres.MoveFits threshold move := by
        intro threshold
        cases move with
        | keep => rfl
        | raise => simp only [ThresholdCfg.MoveFits, val, min]
        | lower => simp only [ThresholdCfg.MoveFits, val, max]
      cases move with
      | keep =>
          obtain rfl := Option.some.inj stepped
          exact iff_of_true observedClamped (fun _ _ => trivial)
      | raise =>
          obtain ⟨threshold, stepFound, rfl⟩ := Option.map_eq_some_iff.mp stepped
          rw [observed.raise_clamped_iff observedClamped, sameFits]
          rw [sameStep] at stepFound
          simp [stepFound]
      | lower =>
          obtain ⟨threshold, stepFound, rfl⟩ := Option.map_eq_some_iff.mp stepped
          rw [observed.lower_clamped_iff observedClamped, sameFits]
          rw [sameStep] at stepFound
          simp [stepFound]

/-- The loop keeps the thresholds in bounds exactly when every move fits. -/
theorem updateThresholds_clamped_iff {trigger degree : ExactFloat} {reads : Nat → SizeT × SizeT}
    {i : Nat} {thresholds updated : List ThresholdCfg}
    (clamped : ∀ thres ∈ thresholds, thres.Clamped)
    (stepped : updateThresholds trigger degree reads i thresholds = some updated) :
    (∀ thres ∈ updated, thres.Clamped) ↔
      ∀ (j : Nat) (thres : ThresholdCfg), thresholds[j]? = some thres →
        thres.CheckFits trigger degree (reads (i + j)) := by
  induction thresholds generalizing i updated with
  | nil =>
      obtain rfl := Option.some.inj stepped
      simp
  | cons first rest ih =>
      obtain ⟨firstUpdated, firstStepped, stepped⟩ := Option.bind_eq_some_iff.mp stepped
      obtain ⟨restUpdated, restStepped, rfl⟩ := Option.map_eq_some_iff.mp stepped
      obtain ⟨firstClamped, restClamped⟩ := List.forall_mem_cons.mp clamped
      rw [List.forall_mem_cons, updateThreshold_clamped_iff firstClamped firstStepped,
        ih restClamped restStepped]
      constructor
      · rintro ⟨firstFits, restFits⟩ j thres found
        cases j with
        | zero =>
            obtain rfl := Option.some.inj found
            exact firstFits
        | succ j =>
            have fits := restFits j thres found
            rwa [Nat.add_right_comm] at fits
      · intro fits
        refine ⟨fits 0 first rfl, ?_⟩
        intro j thres found
        have later := fits (j + 1) thres found
        rwa [← Nat.add_assoc, Nat.add_right_comm] at later

/-- One call keeps the thresholds in bounds exactly when the moves of a due check fit. -/
theorem updateConfig_clamped_iff {reads : Nat → SizeT × SizeT} {memory next : MemtierMemory}
    (clamped : memory.Clamped)
    (stepped : memtierPolicyDynamicThresholdUpdateConfig reads memory = some next) :
    next.Clamped ↔ checkFits reads memory := by
  unfold memtierPolicyDynamicThresholdUpdateConfig at stepped
  unfold checkFits
  split at stepped
  · rename_i early
    obtain rfl := Option.some.inj stepped
    exact iff_of_true clamped (fun due => absurd early due)
  · rename_i due
    obtain ⟨updated, loop, rfl⟩ := Option.map_eq_some_iff.mp stepped
    have moved := updateThresholds_clamped_iff clamped loop
    simp only [Nat.zero_add] at moved
    rw [forall_prop_of_true due]
    exact moved

/-- The validation loop accepts only thresholds in bounds. -/
theorem thresholdsValid_clamped {previous : Option ThresholdCfg} {thresholds : List ThresholdCfg}
    (valid : thresholdsValid previous thresholds = true) :
    ∀ thres ∈ thresholds, thres.Clamped := by
  induction thresholds generalizing previous with
  | nil => simp
  | cons first rest ih =>
      unfold thresholdsValid at valid
      split at valid
      · cases valid
      · rename_i low
        split at valid
        · cases valid
        · rename_i high
          split at valid
          · cases valid
          · exact List.forall_mem_cons.mpr
              ⟨⟨BitVec.not_lt.mp low, BitVec.not_lt.mp high⟩, ih valid⟩

/-- An accepted configuration starts in bounds. -/
theorem builderDynamicCreateMemory_clamped {outcome : MemoryOutcome} {builder : MemtierBuilder}
    {memory : MemtierMemory} (accepted : builderDynamicCreateMemory outcome builder = some memory) :
    memory.Clamped := by
  obtain ⟨-, valid, -, rfl⟩ := builderDynamicCreateMemory_eq_some accepted
  exact thresholdsValid_clamped valid

/-- For every accepted configuration and all sizes that the checks read, the thresholds stay in
bounds at all times exactly when every move fits. -/
theorem dynamicThresholdRun_clamped_iff (outcome : MemoryOutcome) (builder : MemtierBuilder)
    (memory : MemtierMemory) (accepted : builderDynamicCreateMemory outcome builder = some memory)
    (checks : List (Nat → SizeT × SizeT)) :
    Always memtierPolicyDynamicThresholdUpdateConfig MemtierMemory.Clamped memory checks ↔
      Guarded memtierPolicyDynamicThresholdUpdateConfig checkFits memory checks :=
  always_iff_guarded memtierPolicyDynamicThresholdUpdateConfig
    (fun _ _ _ clamped stepped => updateConfig_clamped_iff clamped stepped)
    (builderDynamicCreateMemory_clamped accepted)

/-- Two equal tiers with the default threshold, a check at every call, and the given degree. -/
def twoTiers (degree : ℚ) : MemtierBuilder where
  policy := .dynamicThreshold
  cfg := [⟨.library 0, .ofNat 1⟩, ⟨.library 8, .ofNat 1⟩]
  thres := [⟨1024, 512, 1535, .finite 0, .finite 0⟩]
  sized := by decide
  checkCnt := 1
  trigger := .finite 0
  degree := .finite degree

/-- A check lowers the threshold by a quarter, and the next one raises it. -/
theorem dynamicThresholdRun_clamped_iff_twoTiers :
    ∃ memory, builderDynamicCreateMemory ⟨true, true, true⟩ (twoTiers (1 / 4)) = some memory ∧
      Always memtierPolicyDynamicThresholdUpdateConfig MemtierMemory.Clamped memory
        [fun _ => (100, 0), fun _ => (0, 100)] := by
  obtain ⟨memory, accepted⟩ := Option.isSome_iff_exists.mp
    (show (builderDynamicCreateMemory ⟨true, true, true⟩ (twoTiers (1 / 4))).isSome by
      decide +kernel)
  refine ⟨memory, accepted, (dynamicThresholdRun_clamped_iff _ _ memory accepted _).mpr ?_⟩
  obtain ⟨-, -, -, rfl⟩ := builderDynamicCreateMemory_eq_some accepted
  decide +kernel

/-- A step of twice the threshold wraps around below zero. -/
theorem twoTiers_wraps :
    ((builderDynamicCreateMemory ⟨true, true, true⟩ (twoTiers 2)).bind fun memory =>
      (memtierPolicyDynamicThresholdUpdateConfig (fun _ => (100, 0)) memory).map fun next =>
        next.thres.map fun thres => (thres.val, thres.max)) =
      some [(-1024, 1535)] := by
  decide +kernel

/-- The wrapped threshold is larger than its maximum. -/
theorem dynamicThresholdRun_not_clamped :
    ∃ memory, builderDynamicCreateMemory ⟨true, true, true⟩ (twoTiers 2) = some memory ∧
      ¬Always memtierPolicyDynamicThresholdUpdateConfig MemtierMemory.Clamped memory
        [fun _ => (100, 0)] := by
  obtain ⟨memory, accepted, updated⟩ := Option.bind_eq_some_iff.mp twoTiers_wraps
  obtain ⟨next, stepped, values⟩ := Option.map_eq_some_iff.mp updated
  refine ⟨memory, accepted, ?_⟩
  intro always
  have clamped : next.Clamped := always.2 next stepped
  have member : ((-1024 : SizeT), (1535 : SizeT)) ∈
      next.thres.map fun thres => (thres.val, thres.max) := by
    rw [values]
    exact List.mem_singleton_self _
  obtain ⟨thres, inside, fields⟩ := List.mem_map.mp member
  obtain ⟨val, max⟩ := Prod.mk.inj fields
  have high := (clamped thres inside).2
  rw [val, max] at high
  exact absurd high (by decide)

end Memkind
