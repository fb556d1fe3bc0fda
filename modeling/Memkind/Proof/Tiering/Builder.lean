/-
This file says what the functions of a builder keep of its tiers and of its policy.
-/

import Memkind.Construction.Builder

namespace Memkind

open Library

variable {builder next : MemtierBuilder} {kind : Option KindPtr} {outcome : AddTierOutcome}
  {ratio : BitVec 32}

/-- The policy of a memory with the given number of tiers. -/
def BuilderPolicy.memoryPolicy (policy : BuilderPolicy) (tiers : Nat) : MemtierPolicy :=
  match policy with
  | .staticRatio => if tiers = 1 then .single else .staticRatio
  | .dynamicThreshold => .dynamicThreshold

theorem MemtierBuilder.updateBuilder_same {granted : Bool} {updated : MemtierBuilder}
    (update : builder.updateBuilder granted = some updated) :
    updated.cfg = builder.cfg ∧ updated.policy = builder.policy := by
  unfold updateBuilder at update
  split at update
  · obtain rfl := Option.some.inj update
    exact ⟨rfl, rfl⟩
  · unfold builderDynamicUpdate at update
    split at update
    · obtain rfl := Option.some.inj update
      exact ⟨rfl, rfl⟩
    · split at update
      · cases update
      · obtain rfl := Option.some.inj update
        exact ⟨rfl, rfl⟩

/-- What a successful call found: a kind that no tier has and an updated builder, which gets the
new tier and keeps its other fields. -/
theorem memtierBuilderAddTier_eq_true
    (added : memtierBuilderAddTier outcome builder kind ratio = (true, next)) :
    ∃ pointer updated, kind = some pointer ∧ pointer ∉ builder.cfg.map TierCfg.kind ∧
      builder.updateBuilder outcome.thres = some updated ∧
      ∃ sized, next = { updated with
        cfg := updated.cfg ++ [⟨pointer, .ofUnsigned ratio.toNat⟩], sized } := by
  unfold memtierBuilderAddTier at added
  split at added
  · cases added
  · rename_i pointer
    split at added
    · cases added
    · rename_i fresh
      split at added
      · cases added
      · rename_i updated update
        split at added
        · cases added
        · exact ⟨pointer, updated, rfl, fresh, update, _, (Prod.mk.inj added).2.symm⟩

/-- A tier with a new kind is added after the others. -/
theorem memtierBuilderAddTier_success
    (added : memtierBuilderAddTier outcome builder kind ratio = (true, next)) :
    ∃ pointer, kind = some pointer ∧ pointer ∉ builder.cfg.map TierCfg.kind ∧
      next.cfg = builder.cfg ++ [⟨pointer, .ofUnsigned ratio.toNat⟩] ∧
      next.policy = builder.policy := by
  obtain ⟨pointer, updated, rfl, fresh, update, -, rfl⟩ := memtierBuilderAddTier_eq_true added
  obtain ⟨cfg, policy⟩ := MemtierBuilder.updateBuilder_same update
  refine ⟨pointer, rfl, fresh, ?_, policy⟩
  change updated.cfg ++ _ = _
  rw [cfg]

theorem memtierMemoryInit_policy {tierSize : Nat} {outcome : MemoryOutcome}
    {isDynamicThreshold : Bool} {policy : MemtierPolicy}
    (made : memtierMemoryInit tierSize isDynamicThreshold outcome = some policy) :
    policy = if isDynamicThreshold then .dynamicThreshold
      else if tierSize = 1 then .single else .staticRatio := by
  unfold memtierMemoryInit at made
  split at made
  · cases made
  · split at made
    · cases made
    · split at made
      · cases made
      · split at made
        · rename_i dynamic
          rw [if_pos dynamic]
          exact (Option.some.inj made).symm
        · rename_i static
          rw [if_neg static]
          split at made
          · rename_i single
            rw [if_pos single]
            exact (Option.some.inj made).symm
          · rename_i several
            rw [if_neg several]
            exact (Option.some.inj made).symm

/-- `builder_dynamic_create_memory` accepts two tiers or more with valid thresholds, and copies the
settings of the builder. -/
theorem builderDynamicCreateMemory_eq_some {outcome : MemoryOutcome} {memory : MemtierMemory}
    (accepted : builderDynamicCreateMemory outcome builder = some memory) :
    2 ≤ builder.cfg.length ∧
      thresholdsValid none (memoryThresholds builder.cfg builder.thres) = true ∧
      builder.degree.lt (.finite 0) = false ∧
      memory =
        { policy := .dynamicThreshold
          cfg := memoryTiers builder.cfg
          thres := memoryThresholds builder.cfg builder.thres
          thresCheckCnt := builder.checkCnt
          thresInitCheckCnt := builder.checkCnt
          thresTrigger := builder.trigger
          thresDegree := builder.degree } := by
  unfold builderDynamicCreateMemory at accepted
  split at accepted
  · cases accepted
  · rename_i several
    split at accepted
    · cases accepted
    · obtain ⟨policy, made, accepted⟩ := Option.bind_eq_some_iff.mp accepted
      obtain rfl := memtierMemoryInit_policy made
      dsimp only at accepted
      split at accepted
      · cases accepted
      · rename_i valid
        split at accepted
        · cases accepted
        · rename_i degree
          split at accepted
          · cases accepted
          · obtain rfl := Option.some.inj accepted
            exact ⟨Nat.not_lt.mp several, by simpa using valid, by simpa using degree, rfl⟩

/-- A memory has the tiers and the policy of its builder. -/
theorem memtierBuilderConstructMemtierMemory_tiers {outcome : MemoryOutcome}
    {memory : MemtierMemory}
    (constructed : memtierBuilderConstructMemtierMemory outcome builder = some memory) :
    memory.cfg = memoryTiers builder.cfg ∧
      memory.policy = builder.policy.memoryPolicy builder.cfg.length := by
  unfold memtierBuilderConstructMemtierMemory at constructed
  split at constructed
  · rename_i static
    obtain ⟨policy, made, rfl⟩ := Option.map_eq_some_iff.mp constructed
    refine ⟨rfl, ?_⟩
    rw [static]
    exact memtierMemoryInit_policy made
  · rename_i dynamic
    obtain ⟨-, -, -, rfl⟩ := builderDynamicCreateMemory_eq_some constructed
    rw [dynamic]
    exact ⟨rfl, rfl⟩

section Defaults

/-- A builder that only gets tiers keeps the thresholds that `builder_dynamic_update` writes, and
the other settings of a new builder. -/
structure MemtierBuilder.Untouched (builder : MemtierBuilder) : Prop where
  thres : builder.policy = .dynamicThreshold →
    builder.thres = (List.range (builder.cfg.length - 1)).map defaultThreshold
  trigger : builder.policy = .dynamicThreshold → builder.trigger = thresholdTrigger
  degree : builder.policy = .dynamicThreshold → builder.degree = thresholdDegree

theorem memtierBuilderNew_untouched (policy : BuilderPolicy) :
    (memtierBuilderNew policy).Untouched := by
  cases policy with
  | staticRatio => exact ⟨nofun, nofun, nofun⟩
  | dynamicThreshold => exact ⟨fun _ => rfl, fun _ => rfl, fun _ => rfl⟩

/-- The thresholds of an updated builder have room for one more tier. -/
theorem MemtierBuilder.Untouched.updateBuilder {granted : Bool} {updated : MemtierBuilder}
    (untouched : builder.Untouched) (update : builder.updateBuilder granted = some updated)
    (dynamic : builder.policy = .dynamicThreshold) :
    updated.thres = (List.range builder.cfg.length).map defaultThreshold ∧
      updated.trigger = thresholdTrigger ∧ updated.degree = thresholdDegree := by
  rw [MemtierBuilder.updateBuilder, dynamic] at update
  change builderDynamicUpdate granted builder = some updated at update
  have written := untouched.thres dynamic
  unfold builderDynamicUpdate at update
  split at update
  · rename_i empty
    obtain rfl := Option.some.inj update
    rw [Nat.lt_one_iff.mp empty] at written ⊢
    exact ⟨written, untouched.trigger dynamic, untouched.degree dynamic⟩
  · rename_i several
    split at update
    · cases update
    · obtain rfl := Option.some.inj update
      refine ⟨?_, untouched.trigger dynamic, untouched.degree dynamic⟩
      change builder.thres.take (builder.cfg.length - 1) ++ [_] = _
      obtain ⟨tiers, length⟩ := Nat.exists_eq_add_one.mpr (Nat.not_lt.mp several)
      rw [length, Nat.add_sub_cancel] at written ⊢
      rw [written, List.range_succ, List.map_append, List.map_singleton, List.take_of_length_le]
      rw [List.length_map, List.length_range]

/-- A new tier succeeds when its kind is not there and the blocks are granted. -/
theorem memtierBuilderAddTier_fresh {kind : KindPtr} (ratio : BitVec 32)
    (fresh : kind ∉ builder.cfg.map TierCfg.kind) (thresGranted : outcome.thres = true)
    (cfgGranted : outcome.cfg = true) :
    ∃ next, memtierBuilderAddTier outcome builder (some kind) ratio = (true, next) := by
  have updates : ∃ updated, builder.updateBuilder outcome.thres = some updated := by
    rw [thresGranted, MemtierBuilder.updateBuilder]
    split
    · exact ⟨builder, rfl⟩
    · unfold builderDynamicUpdate
      split
      · exact ⟨builder, rfl⟩
      · exact ⟨_, rfl⟩
  obtain ⟨updated, update⟩ := updates
  unfold memtierBuilderAddTier
  dsimp only
  rw [if_neg fresh]
  split
  · rename_i missing
    rw [update] at missing
    cases missing
  · rw [cfgGranted]
    exact ⟨_, rfl⟩

theorem MemtierBuilder.Untouched.addTier (untouched : builder.Untouched)
    (added : memtierBuilderAddTier outcome builder kind ratio = (true, next)) : next.Untouched := by
  obtain ⟨pointer, updated, rfl, -, update, -, rfl⟩ := memtierBuilderAddTier_eq_true added
  obtain ⟨cfg, policy⟩ := MemtierBuilder.updateBuilder_same update
  have settings := fun dynamic : updated.policy = .dynamicThreshold =>
    untouched.updateBuilder update (policy.symm.trans dynamic)
  refine ⟨fun dynamic => ?_, fun dynamic => (settings dynamic).2.1,
    fun dynamic => (settings dynamic).2.2⟩
  change updated.thres = (List.range ((updated.cfg ++ [_]).length - 1)).map _
  rw [(settings dynamic).1, cfg, List.length_append, List.length_singleton, Nat.add_sub_cancel]

theorem defaultThreshold_toNat (index : Nat) (small : index + 1 < 2 ^ 22) :
    (defaultThreshold index).min.toNat = 1024 * index + 512 ∧
      (defaultThreshold index).val.toNat = 1024 * index + 1024 ∧
      (defaultThreshold index).max.toNat = 1024 * index + 1535 := by
  simp only [defaultThreshold, thresholdStep, BitVec.toNat_ofNat, BitVec.toNat_setWidth]
  omega

/-- The default thresholds pass the validation, which does not look at the ratios. -/
theorem thresholdsValid_default (cfg : List TierCfg) {previous : Option ThresholdCfg}
    {start count : Nat} (small : start + count < 2 ^ 22)
    (before : ∀ thres ∈ previous, thres.max.toNat ≤ 1024 * start + 512) :
    thresholdsValid previous
      (memoryThresholds cfg ((List.range' start count).map defaultThreshold)) = true := by
  induction count generalizing cfg previous start with
  | zero =>
      rw [List.range'_zero, List.map_nil]
      match cfg with
      | [] | [_] | _ :: _ :: _ => rfl
  | succ count ih =>
      rw [List.range'_succ, List.map_cons]
      match cfg with
      | [] => rfl
      | [_] => rfl
      | first :: second :: tiers =>
          obtain ⟨min, val, max⟩ := defaultThreshold_toNat start (by omega)
          rw [memoryThresholds, thresholdsValid]
          rw [if_neg, if_neg, if_neg]
          · apply ih
            · omega
            · intro thres same
              obtain rfl := Option.mem_some.mp same
              change (defaultThreshold start).max.toNat ≤ _
              omega
          · cases previous with
            | none => nofun
            | some threshold =>
                have below := before threshold rfl
                rw [Option.any_some, decide_eq_true_iff, BitVec.lt_def]
                change ¬ (defaultThreshold start).min.toNat < _
                omega
          · rw [BitVec.lt_def]
            change ¬ (defaultThreshold start).max.toNat < (defaultThreshold start).val.toNat
            omega
          · rw [BitVec.lt_def]
            change ¬ (defaultThreshold start).val.toNat < (defaultThreshold start).min.toNat
            omega

theorem memtierMemoryInit_granted {tierSize : Nat} (isDynamicThreshold : Bool)
    (tiers : tierSize ≠ 0) :
    ∃ policy, memtierMemoryInit tierSize isDynamicThreshold ⟨true, true, true⟩ = some policy := by
  rw [memtierMemoryInit, if_neg tiers]
  cases isDynamicThreshold with
  | false =>
      by_cases single : tierSize = 1
      · exact ⟨.single, by simp [single]⟩
      · exact ⟨.staticRatio, by simp [single]⟩
  | true => exact ⟨.dynamicThreshold, rfl⟩

/-- A memory is made from two tiers or more with valid thresholds and the settings of a new
builder when the blocks are granted. -/
theorem builderDynamicCreateMemory_valid (several : 2 ≤ builder.cfg.length)
    (valid : thresholdsValid none (memoryThresholds builder.cfg builder.thres) = true)
    (trigger : builder.trigger = thresholdTrigger) (degree : builder.degree = thresholdDegree) :
    ∃ memory, builderDynamicCreateMemory ⟨true, true, true⟩ builder = some memory := by
  obtain ⟨policy, made⟩ := memtierMemoryInit_granted true (show builder.cfg.length ≠ 0 by omega)
  have degreeValid : builder.degree.lt (.finite 0) = false := by
    rw [degree]
    decide +kernel
  have triggerValid : builder.trigger.lt (.finite 0) = false := by
    rw [trigger]
    decide +kernel
  rw [builderDynamicCreateMemory, if_neg (Nat.not_lt.mpr several), made]
  simp [valid, degreeValid, triggerValid]

/-- A memory is made from a builder that only got tiers when the blocks are granted. A dynamic
builder needs two tiers. -/
theorem MemtierBuilder.Untouched.construct (untouched : builder.Untouched)
    (present : builder.cfg.length ≠ 0)
    (several : builder.policy = .dynamicThreshold → 2 ≤ builder.cfg.length)
    (small : builder.cfg.length ≤ 2 ^ 22) :
    ∃ memory, memtierBuilderConstructMemtierMemory ⟨true, true, true⟩ builder = some memory := by
  unfold memtierBuilderConstructMemtierMemory
  split
  · obtain ⟨policy, made⟩ := memtierMemoryInit_granted false present
    rw [builderStaticCreateMemory, made]
    exact ⟨_, rfl⟩
  · rename_i dynamic
    refine builderDynamicCreateMemory_valid (several dynamic) ?_ (untouched.trigger dynamic)
      (untouched.degree dynamic)
    rw [untouched.thres dynamic, List.range_eq_range']
    apply thresholdsValid_default
    · omega
    · nofun

end Defaults

end Memkind
