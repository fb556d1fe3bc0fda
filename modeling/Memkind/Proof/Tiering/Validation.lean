/-
This file compares the validation of the thresholds with the order that its comment asks for.
-/

import Memkind.Proof.Tiering.TotalSize

namespace Memkind

open Library

section Loop

/-- One pass of the validation loop. -/
theorem thresholdsValid_cons (previous : Option ThresholdCfg) (first : ThresholdCfg)
    (rest : List ThresholdCfg) :
    thresholdsValid previous (first :: rest) = true ↔
      first.Clamped ∧ (∀ before ∈ previous, before.max ≤ first.min) ∧
        thresholdsValid (some first) rest = true := by
  unfold ThresholdCfg.Clamped
  rw [thresholdsValid]
  by_cases low : first.val < first.min
  · rw [if_pos low]
    exact iff_of_false Bool.false_ne_true fun valid => BitVec.not_lt.mpr valid.1.1 low
  · rw [if_neg low]
    by_cases high : first.max < first.val
    · rw [if_pos high]
      exact iff_of_false Bool.false_ne_true fun valid => BitVec.not_lt.mpr valid.1.2 high
    · rw [if_neg high]
      have clamped : first.min ≤ first.val ∧ first.val ≤ first.max :=
        ⟨BitVec.not_lt.mp low, BitVec.not_lt.mp high⟩
      cases previous with
      | none => simp [clamped]
      | some before =>
          by_cases overlap : first.min < before.max
          · simp [overlap, BitVec.not_le.mpr overlap]
          · simp [overlap, BitVec.not_lt.mp overlap, clamped]

/-- The validation loop accepts thresholds in bounds whose ranges share one size at most. -/
theorem thresholdsValid_iff (previous : Option ThresholdCfg) (thresholds : List ThresholdCfg) :
    thresholdsValid previous thresholds = true ↔
      (∀ thres ∈ thresholds, thres.Clamped) ∧
        (previous.toList ++ thresholds).IsChain fun first second => first.max ≤ second.min := by
  induction thresholds generalizing previous with
  | nil =>
      cases previous with
      | none => simp [thresholdsValid]
      | some before => simp [thresholdsValid]
  | cons first rest ih =>
      rw [thresholdsValid_cons, ih (some first), List.forall_mem_cons]
      cases previous with
      | none => simp [and_assoc]
      | some before =>
          simp only [Option.mem_def, Option.some.injEq, forall_eq', Option.toList_some,
            List.cons_append, List.nil_append, List.isChain_cons_cons]
          tauto

end Loop

section Bounds

/-- A check never changes the bounds of the thresholds. -/
theorem updateConfig_bounds {reads : Nat → SizeT × SizeT} {memory next : MemtierMemory}
    (stepped : memtierPolicyDynamicThresholdUpdateConfig reads memory = some next) :
    next.thres.map ThresholdCfg.bounds = memory.thres.map ThresholdCfg.bounds := by
  unfold memtierPolicyDynamicThresholdUpdateConfig at stepped
  split at stepped
  · obtain rfl := Option.some.inj stepped
    rfl
  · obtain ⟨thresholds, looped, rfl⟩ := Option.map_eq_some_iff.mp stepped
    exact updateThresholds_bounds looped

/-- Chains that only look at the bounds are the same for equal bounds. -/
theorem isChain_bounds {first second : List ThresholdCfg}
    (same : first.map ThresholdCfg.bounds = second.map ThresholdCfg.bounds)
    (related : SizeT × SizeT → SizeT × SizeT → Prop) :
    (first.IsChain fun before after => related before.bounds after.bounds) ↔
      second.IsChain fun before after => related before.bounds after.bounds := by
  rw [← List.isChain_map ThresholdCfg.bounds, ← List.isChain_map ThresholdCfg.bounds, same]

end Bounds

/-- The ranges of adjacent thresholds do not touch. -/
def Apart (thresholds : List ThresholdCfg) : Prop :=
  thresholds.IsChain fun first second => first.max ≠ second.min

/-- The ranges of adjacent thresholds do not overlap. -/
def RangesAscend (thresholds : List ThresholdCfg) : Prop :=
  thresholds.IsChain fun first second => first.max < second.min

/-- The order that the comment in front of the validation asks for, and what it is good for: every
tier between the first and the last one is used, and no two adjacent thresholds coincide in any
state of the checks. -/
structure MemtierMemory.StrictlyOrdered (memory : MemtierMemory)
    (checks : List (Nat → SizeT × SizeT)) : Prop where
  values : memory.thres.IsChain fun first second => first.val < second.val
  ranges : RangesAscend memory.thres
  reached : ∀ (i : Nat) (tier : TierCfg), 0 < i → i + 1 < memory.cfg.length →
    memory.cfg[i]? = some tier →
    ∃ size, ∀ allocated, memory.getKind allocated size = some tier.kind
  distinct : Always memtierPolicyDynamicThresholdUpdateConfig
    (fun state => state.thres.IsChain fun first second => first.val ≠ second.val) memory checks

section Order

/-- Thresholds inside ascending ranges ascend. -/
theorem RangesAscend.values {thresholds : List ThresholdCfg} (ranges : RangesAscend thresholds)
    (clamped : ∀ thres ∈ thresholds, thres.Clamped) :
    thresholds.IsChain fun first second => first.val < second.val := by
  refine List.IsChain.imp_of_mem_imp (fun first second inFirst inSecond below => ?_) ranges
  have high := (clamped first inFirst).2
  have low := (clamped second inSecond).1
  rw [BitVec.lt_def] at below ⊢
  rw [BitVec.le_def] at low high
  omega

/-- The checks that stay in bounds keep the ranges and the values ascending. -/
theorem RangesAscend.run {memory : MemtierMemory} (ranges : RangesAscend memory.thres)
    (clamped : memory.Clamped) {checks : List (Nat → SizeT × SizeT)}
    (fits : Guarded memtierPolicyDynamicThresholdUpdateConfig checkFits memory checks) :
    Always memtierPolicyDynamicThresholdUpdateConfig
      (fun state => RangesAscend state.thres ∧ state.Clamped) memory checks := by
  refine always_of_guarded memtierPolicyDynamicThresholdUpdateConfig ?_ ⟨ranges, clamped⟩ fits
  rintro reads state next ⟨before, inside⟩ met stepped
  refine ⟨?_, (updateConfig_clamped_iff inside stepped).mpr met⟩
  exact (isChain_bounds (updateConfig_bounds stepped)
    fun first second => first.2 < second.1).mpr before

theorem cuts_pairwise {memory : MemtierMemory}
    (values : memory.thres.IsChain fun first second => first.val < second.val) :
    memory.cuts.Pairwise (· < ·) := by
  apply List.IsChain.pairwise
  rw [MemtierMemory.cuts, List.isChain_map]
  exact values

/-- With ascending values, the value of a threshold is routed to the tier behind it. -/
theorem MemtierMemory.getKind_value {memory : MemtierMemory}
    (dynamic : memory.policy = .dynamicThreshold)
    (sized : memory.cfg.length = memory.thres.length + 1)
    (values : memory.thres.IsChain fun first second => first.val < second.val)
    {i : Nat} {tier : TierCfg} (inner : i + 1 < memory.thres.length)
    (found : memory.cfg[i + 1]? = some tier) :
    ∃ size, ∀ allocated, memory.getKind allocated size = some tier.kind := by
  have ascending := cuts_pairwise values
  have here : memory.cuts[i]? = some (memory.thres[i].val.toNat) := by
    rw [cuts, List.getElem?_map, List.getElem?_eq_getElem (Nat.lt_of_succ_lt inner)]
    rfl
  have next : memory.cuts[i + 1]? = some (memory.thres[i + 1].val.toNat) := by
    rw [cuts, List.getElem?_map, List.getElem?_eq_getElem inner]
    rfl
  have below : memory.thres[i].val.toNat < memory.thres[i + 1].val.toNat :=
    List.isChain_iff_getElem.mp values i inner
  have position : route memory.thres[i].val.toNat memory.cuts = i + 1 :=
    Nat.le_antisymm (route_le next below)
      (lt_route (ascending.imp Nat.le_of_lt) here (Nat.le_refl _))
  refine ⟨memory.thres[i].val, fun allocated => ?_⟩
  obtain ⟨chosen, inside, kind⟩ := memory.getKind_dynamic dynamic sized allocated memory.thres[i].val
  rw [position, found] at inside
  rw [kind, Option.some.inj inside]

end Order

/-- The validation is as strict as its comment when no two adjacent ranges touch and the moves of
the checks fit, and only when no two adjacent ranges touch. -/
theorem validation_strictlyOrdered (outcome : MemoryOutcome) (builder : MemtierBuilder)
    (dynamic : builder.policy = .dynamicThreshold) (memory : MemtierMemory)
    (accepted : builderDynamicCreateMemory outcome builder = some memory)
    (checks : List (Nat → SizeT × SizeT)) :
    (Apart builder.configured ∧
        Guarded memtierPolicyDynamicThresholdUpdateConfig checkFits memory checks →
      memory.StrictlyOrdered checks) ∧
    (memory.StrictlyOrdered checks → Apart builder.configured) := by
  have sized := builderDynamicCreateMemory_sized dynamic accepted
  have clamped := builderDynamicCreateMemory_clamped accepted
  obtain ⟨-, valid, -, same⟩ := builderDynamicCreateMemory_eq_some accepted
  have policy : memory.policy = .dynamicThreshold := by rw [same]
  have bounds : memory.thres.map ThresholdCfg.bounds =
      builder.configured.map ThresholdCfg.bounds := by
    rw [same]
    exact memoryThresholds_bounds builder
  have touching : memory.thres.IsChain fun first second => first.max ≤ second.min := by
    rw [same]
    exact ((thresholdsValid_iff none _).mp valid).2
  have apart : Apart builder.configured ↔ Apart memory.thres :=
    isChain_bounds bounds.symm fun first second => first.2 ≠ second.1
  rw [apart]
  constructor
  · rintro ⟨separate, fits⟩
    have ranges : RangesAscend memory.thres := by
      apply List.isChain_iff_getElem.mpr
      intro i inner
      exact BitVec.lt_of_le_ne (List.isChain_iff_getElem.mp touching i inner)
        (List.isChain_iff_getElem.mp separate i inner)
    have values := ranges.values clamped
    refine ⟨values, ranges, ?_, ?_⟩
    · intro i tier positive inner found
      obtain ⟨before, rfl⟩ := Nat.exists_eq_add_one.mpr positive
      exact MemtierMemory.getKind_value policy sized values (by omega) found
    · refine (ranges.run clamped fits).imp _ fun state ordered => ?_
      exact (ordered.1.values ordered.2).imp fun first second below => BitVec.ne_of_lt below
  · intro strict
    exact strict.ranges.imp fun first second below => (BitVec.ne_of_lt below)

/-- Three tiers with two thresholds of the given bounds, each at the end next to the other one, and
a check at every call. -/
def threeTiers (firstMax secondMin : SizeT) : MemtierBuilder where
  policy := .dynamicThreshold
  cfg := [⟨.library 0, .ofNat 1⟩, ⟨.library 8, .ofNat 1⟩, ⟨.library 11, .ofNat 1⟩]
  thres := [⟨firstMax, 512, firstMax, .finite 0, .finite 0⟩,
    ⟨secondMin, secondMin, 4096, .finite 0, .finite 0⟩]
  sized := fun _ => Nat.le_refl 3
  checkCnt := 1
  trigger := thresholdTrigger
  degree := thresholdDegree

/-- The thresholds move down and up again in two checks. -/
theorem validation_strictlyOrdered_threeTiers :
    ∃ memory, builderDynamicCreateMemory ⟨true, true, true⟩ (threeTiers 1024 2048) = some memory ∧
      memory.StrictlyOrdered [fun _ => (100, 0), fun _ => (0, 100)] := by
  obtain ⟨memory, accepted⟩ := Option.isSome_iff_exists.mp
    (show (builderDynamicCreateMemory ⟨true, true, true⟩ (threeTiers 1024 2048)).isSome by
      decide +kernel)
  refine ⟨memory, accepted, (validation_strictlyOrdered _ _ rfl memory accepted _).1 ⟨?_, ?_⟩⟩
  · unfold Apart
    decide +kernel
  · obtain ⟨-, -, -, rfl⟩ := builderDynamicCreateMemory_eq_some accepted
    decide +kernel

/-- Two thresholds at 2048 bytes are accepted, and no size is routed to the tier between them. -/
theorem validation_not_strictlyOrdered :
    ∃ memory, builderDynamicCreateMemory ⟨true, true, true⟩ (threeTiers 2048 2048) = some memory ∧
      (∀ allocated size, memory.getKind allocated size ≠ some (.library 8)) ∧
      ¬memory.StrictlyOrdered [] := by
  obtain ⟨memory, accepted⟩ := Option.isSome_iff_exists.mp
    (show (builderDynamicCreateMemory ⟨true, true, true⟩ (threeTiers 2048 2048)).isSome by
      decide +kernel)
  obtain ⟨-, -, -, rfl⟩ := builderDynamicCreateMemory_eq_some accepted
  refine ⟨_, accepted, ?_, ?_⟩
  · intro allocated size chosen
    change (if size < 2048 then some (KindPtr.library 0) else if size < 2048 then
      some (KindPtr.library 8) else some (KindPtr.library 11)) = _ at chosen
    by_cases below : size < 2048
    · rw [if_pos below] at chosen
      exact absurd chosen (by decide)
    · rw [if_neg below, if_neg below] at chosen
      exact absurd chosen (by decide)
  · intro strict
    exact absurd (List.isChain_cons_cons.mp strict.ranges).1 (by decide)

end Memkind
