/-
This file bounds the tier that the dynamic thresholds choose for a size.
-/

import Memkind.Library.Routing
import Memkind.Proof.Tiering.ThresholdClamp

namespace Memkind

open Library

variable {thresholds : List ThresholdCfg} {memory : MemtierMemory} {builder : MemtierBuilder}
  {degree : ℚ} {outcome : MemoryOutcome}

/-- The thresholds that a memory takes from its builder. -/
def MemtierBuilder.configured (builder : MemtierBuilder) : List ThresholdCfg :=
  builder.thres.take (builder.cfg.length - 1)

/-- The degree is at most one, and no step up from a maximum leaves `size_t`. -/
structure MemtierBuilder.Moderate (builder : MemtierBuilder) (degree : ℚ) : Prop where
  degree_eq : builder.degree = .finite degree
  degree_le_one : degree ≤ 1
  room : ∀ thres ∈ builder.configured,
    (thres.max.toNat : ℤ) + ⌈(thres.max.toNat : ℚ) * degree⌉ < 2 ^ 64

/-- The index at which the loop of `memtier_policy_dynamic_threshold_get_kind` stops. -/
def MemtierMemory.tierIndex (memory : MemtierMemory) (size : SizeT) : Nat :=
  route size.toNat (memory.thres.map fun thres => thres.val.toNat)

/-- A memory routes every size to one of the tiers of its builder, after every threshold whose
maximum it reaches and before every threshold whose minimum it does not reach. -/
structure MemtierMemory.RoutesWithin (memory : MemtierMemory) (builder : MemtierBuilder) :
    Prop where
  chosen : ∀ allocated size, memory.getKind allocated size =
    (builder.cfg[memory.tierIndex size]?).map TierCfg.kind
  tier : ∀ size, memory.tierIndex size < builder.cfg.length
  passed : ∀ size, (builder.configured.countP fun thres => thres.max ≤ size) ≤ memory.tierIndex size
  started : ∀ size, memory.tierIndex size ≤ builder.configured.countP fun thres => thres.min ≤ size
  mono : ∀ size larger, size ≤ larger → memory.tierIndex size ≤ memory.tierIndex larger

section Search

/-- The loop over the thresholds finds the tier behind the last threshold that the size passes. -/
theorem memtierPolicyDynamicThresholdGetKind_eq (size : SizeT) (thresholds : List ThresholdCfg)
    (cfg : List TierCfg) :
    memtierPolicyDynamicThresholdGetKind size thresholds cfg =
      (cfg[route size.toNat (thresholds.map fun thres => thres.val.toNat)]?).map TierCfg.kind := by
  induction thresholds generalizing cfg with
  | nil =>
      cases cfg with
      | nil => rfl
      | cons tier tiers => rfl
  | cons thres rest ih =>
      cases cfg with
      | nil => rfl
      | cons tier tiers =>
          rw [memtierPolicyDynamicThresholdGetKind, List.map_cons, route]
          by_cases below : size < thres.val
          · rw [if_pos below, if_pos (BitVec.lt_def.mp below)]
            rfl
          · rw [if_neg below, if_neg (fun lower => below (BitVec.lt_def.mpr lower)), ih tiers,
              List.getElem?_cons_succ]

/-- The maxima of validated thresholds ascend. -/
theorem thresholdsValid_ascending {previous : Option ThresholdCfg}
    (valid : thresholdsValid previous thresholds = true) :
    (∀ before ∈ previous, ∀ thres ∈ thresholds, before.max.toNat ≤ thres.max.toNat) ∧
      thresholds.Pairwise fun first second => first.max.toNat ≤ second.max.toNat := by
  induction thresholds generalizing previous with
  | nil => simp
  | cons first rest ih =>
      obtain ⟨low, high⟩ := thresholdsValid_clamped valid first List.mem_cons_self
      unfold thresholdsValid at valid
      split at valid
      · cases valid
      · split at valid
        · cases valid
        · split at valid
          · cases valid
          · rename_i apart
            obtain ⟨after, pairwise⟩ := ih valid
            refine ⟨?_, List.pairwise_cons.mpr ⟨after first rfl, pairwise⟩⟩
            intro before same thres member
            rw [Option.mem_def.mp same] at apart
            have below : before.max.toNat ≤ first.max.toNat := by
              rw [Option.any_some, decide_eq_true_iff, BitVec.not_lt, BitVec.le_def] at apart
              rw [BitVec.le_def] at low high
              omega
            obtain rfl | later := List.mem_cons.mp member
            · exact below
            · exact below.trans (after first rfl thres later)

end Search

section Checks

/-- A degree between zero and one gives a step that is not larger than the threshold. -/
theorem ThresholdCfg.step_moderate (nonneg : 0 ≤ degree) (small : degree ≤ 1)
    (thres : ThresholdCfg) :
    ∃ threshold, thres.step (.finite degree) = some threshold ∧
      (threshold.toNat : ℤ) = ⌈(thres.val.toNat : ℚ) * degree⌉ ∧
      threshold.toNat ≤ thres.val.toNat := by
  have value : (0 : ℚ) ≤ (thres.val.toNat : ℚ) := Nat.cast_nonneg _
  have low : 0 ≤ ⌈(thres.val.toNat : ℚ) * degree⌉ := Int.ceil_nonneg (mul_nonneg value nonneg)
  have high : ⌈(thres.val.toNat : ℚ) * degree⌉ ≤ (thres.val.toNat : ℤ) := by
    rw [Int.ceil_le, Int.cast_natCast]
    exact mul_le_of_le_one_right value small
  have bound := thres.val.isLt
  obtain ⟨count, ceiling⟩ := Int.eq_ofNat_of_zero_le low
  refine ⟨BitVec.ofInt 64 count, ?_, ?_, ?_⟩
  · change (if 0 ≤ ⌈(thres.val.toNat : ℚ) * degree⌉ ∧
      ⌈(thres.val.toNat : ℚ) * degree⌉ < 2 ^ 64 then some _ else none) = _
    rw [if_pos ⟨low, by omega⟩, ceiling]
  · rw [BitVec.ofInt_natCast, BitVec.toNat_ofNat, Nat.mod_eq_of_lt (by omega), ceiling]
  · rw [BitVec.ofInt_natCast, BitVec.toNat_ofNat, Nat.mod_eq_of_lt (by omega)]
    omega

/-- A threshold below a maximum with room makes only moves that fit. -/
theorem ThresholdCfg.checkFits_moderate (nonneg : 0 ≤ degree) (small : degree ≤ 1)
    {thres : ThresholdCfg} (clamped : thres.Clamped)
    (room : (thres.max.toNat : ℤ) + ⌈(thres.max.toNat : ℚ) * degree⌉ < 2 ^ 64)
    (trigger : ExactFloat) (read : SizeT × SizeT) :
    thres.CheckFits trigger (.finite degree) read := by
  intro threshold stepped
  obtain ⟨same, found, ceiling, below⟩ := thres.step_moderate nonneg small
  rw [stepped] at found
  obtain rfl := Option.some.inj found
  have high := clamped.2
  rw [BitVec.le_def] at high
  have grows : ⌈(thres.val.toNat : ℚ) * degree⌉ ≤ ⌈(thres.max.toNat : ℚ) * degree⌉ :=
    Int.ceil_le_ceil (mul_le_mul_of_nonneg_right (Nat.cast_le.mpr high) nonneg)
  cases (thres.observe trigger read.1 read.2).1 with
  | keep => trivial
  | raise =>
      left
      omega
  | lower =>
      left
      exact below

/-- With a moderate degree every pass of the loop has a result. -/
theorem updateThreshold_moderate (nonneg : 0 ≤ degree) (small : degree ≤ 1) (trigger : ExactFloat)
    (read : SizeT × SizeT) (thres : ThresholdCfg) :
    ∃ updated, updateThreshold trigger (.finite degree) read thres = some updated := by
  unfold updateThreshold
  cases thres.observe trigger read.1 read.2 with
  | mk move observed =>
      obtain ⟨threshold, stepped, -⟩ := observed.step_moderate nonneg small
      cases move with
      | keep => exact ⟨observed, rfl⟩
      | raise => exact ⟨_, congrArg (Option.map _) stepped⟩
      | lower => exact ⟨_, congrArg (Option.map _) stepped⟩

/-- A pass of the loop never changes the bounds of a threshold. -/
theorem updateThreshold_bounds {trigger degree : ExactFloat} {read : SizeT × SizeT}
    {thres updated : ThresholdCfg}
    (stepped : updateThreshold trigger degree read thres = some updated) :
    updated.min = thres.min ∧ updated.max = thres.max := by
  obtain ⟨-, min, max⟩ := thres.observe_bounds trigger read.1 read.2
  have moved : ∀ (observed : ThresholdCfg) (threshold : SizeT) (move : ThresholdMove),
      (observed.move threshold move).min = observed.min ∧
        (observed.move threshold move).max = observed.max := by
    intro observed threshold move
    cases move with
    | keep => exact ⟨rfl, rfl⟩
    | raise =>
        rw [ThresholdCfg.move]
        split
        · exact ⟨rfl, rfl⟩
        · exact ⟨rfl, rfl⟩
    | lower =>
        rw [ThresholdCfg.move]
        split
        · exact ⟨rfl, rfl⟩
        · exact ⟨rfl, rfl⟩
  unfold updateThreshold at stepped
  cases decided : thres.observe trigger read.1 read.2 with
  | mk move observed =>
      rw [decided] at stepped min max
      rw [← min, ← max]
      cases move with
      | keep =>
          obtain rfl := Option.some.inj stepped
          exact ⟨rfl, rfl⟩
      | raise =>
          obtain ⟨threshold, -, rfl⟩ := Option.map_eq_some_iff.mp stepped
          exact moved observed threshold .raise
      | lower =>
          obtain ⟨threshold, -, rfl⟩ := Option.map_eq_some_iff.mp stepped
          exact moved observed threshold .lower

/-- The bounds of a threshold, which no check changes. -/
def ThresholdCfg.bounds (thres : ThresholdCfg) : SizeT × SizeT := (thres.min, thres.max)

theorem updateThresholds_bounds {trigger degree : ExactFloat} {reads : Nat → SizeT × SizeT}
    {i : Nat} {updated : List ThresholdCfg}
    (looped : updateThresholds trigger degree reads i thresholds = some updated) :
    updated.map ThresholdCfg.bounds = thresholds.map ThresholdCfg.bounds := by
  induction thresholds generalizing i updated with
  | nil =>
      obtain rfl := Option.some.inj looped
      rfl
  | cons thres rest ih =>
      obtain ⟨first, stepped, later⟩ := Option.bind_eq_some_iff.mp looped
      obtain ⟨others, tail, rfl⟩ := Option.map_eq_some_iff.mp later
      obtain ⟨min, max⟩ := updateThreshold_bounds stepped
      rw [List.map_cons, List.map_cons, ih tail, ThresholdCfg.bounds, min, max]
      rfl

/-- With a moderate degree the loop ends with all thresholds between their bounds. -/
theorem updateThresholds_moderate (nonneg : 0 ≤ degree) (small : degree ≤ 1)
    (trigger : ExactFloat) (reads : Nat → SizeT × SizeT) (i : Nat)
    (clamped : ∀ thres ∈ thresholds, thres.Clamped)
    (room : ∀ thres ∈ thresholds,
      (thres.max.toNat : ℤ) + ⌈(thres.max.toNat : ℚ) * degree⌉ < 2 ^ 64) :
    ∃ updated, updateThresholds trigger (.finite degree) reads i thresholds = some updated ∧
      ∀ thres ∈ updated, thres.Clamped := by
  induction thresholds generalizing i with
  | nil => exact ⟨[], rfl, clamped⟩
  | cons first rest ih =>
      obtain ⟨firstClamped, restClamped⟩ := List.forall_mem_cons.mp clamped
      obtain ⟨firstRoom, restRoom⟩ := List.forall_mem_cons.mp room
      obtain ⟨others, looped, othersClamped⟩ := ih (i + 1) restClamped restRoom
      obtain ⟨updated, stepped⟩ :=
        updateThreshold_moderate nonneg small trigger (reads i) first
      have fits := ThresholdCfg.checkFits_moderate nonneg small firstClamped firstRoom trigger
        (reads i)
      refine ⟨updated :: others, ?_, ?_⟩
      · rw [updateThresholds, stepped, Option.bind_some, looped, Option.map_some]
      · exact List.forall_mem_cons.mpr
          ⟨(updateThreshold_clamped_iff firstClamped stepped).mpr fits, othersClamped⟩

end Checks

section Runs

theorem memoryTiers_kinds (cfg : List TierCfg) :
    (memoryTiers cfg).map TierCfg.kind = cfg.map TierCfg.kind := by
  cases cfg with
  | nil => rfl
  | cons first rest =>
      rw [memoryTiers, List.map_cons, List.map_map]
      rfl

/-- A memory copies the thresholds between the tiers of its builder, apart from the ratios. -/
theorem memoryThresholds_map {Read : Type*} (read : ThresholdCfg → Read)
    (same : ∀ thres expNormRatio currentRatioDiff,
      read { thres with expNormRatio, currentRatioDiff } = read thres)
    (cfg : List TierCfg) (thresholds : List ThresholdCfg) :
    (memoryThresholds cfg thresholds).map read =
      (thresholds.take (cfg.length - 1)).map read := by
  induction thresholds generalizing cfg with
  | nil =>
      rw [List.take_nil]
      match cfg with
      | [] | [_] | _ :: _ :: _ => rfl
  | cons thres rest ih =>
      match cfg with
      | [] | [_] => rfl
      | first :: second :: tiers =>
          have later := ih (second :: tiers)
          rw [memoryThresholds, List.map_cons, later, same]
          rfl

theorem memoryThresholds_bounds (builder : MemtierBuilder) :
    (memoryThresholds builder.cfg builder.thres).map ThresholdCfg.bounds =
      builder.configured.map ThresholdCfg.bounds :=
  memoryThresholds_map ThresholdCfg.bounds (fun _ _ _ => rfl) builder.cfg builder.thres

/-- What the checks keep of the memory that was built. -/
structure MemtierMemory.Follows (memory start : MemtierMemory) : Prop where
  policy : memory.policy = start.policy
  cfg : memory.cfg = start.cfg
  degree : memory.thresDegree = start.thresDegree
  bounds : memory.thres.map ThresholdCfg.bounds = start.thres.map ThresholdCfg.bounds
  clamped : memory.Clamped

/-- A check of a memory with a moderate degree ends and keeps what the memory was built with. -/
theorem MemtierMemory.Follows.updateCfg (nonneg : 0 ≤ degree) (small : degree ≤ 1)
    {start : MemtierMemory} (dynamic : start.policy = .dynamicThreshold)
    (degree_eq : start.thresDegree = .finite degree)
    (room : ∀ thres ∈ start.thres,
      (thres.max.toNat : ℤ) + ⌈(thres.max.toNat : ℚ) * degree⌉ < 2 ^ 64)
    (reads : Nat → SizeT × SizeT) (follows : memory.Follows start) :
    ∃ next, memory.updateCfg reads = some next ∧ next.Follows start := by
  rw [MemtierMemory.updateCfg, follows.policy, dynamic]
  change ∃ next, memtierPolicyDynamicThresholdUpdateConfig reads memory = some next ∧ _
  unfold memtierPolicyDynamicThresholdUpdateConfig
  split
  · exact ⟨_, rfl, follows.policy, follows.cfg, follows.degree, follows.bounds, follows.clamped⟩
  · have roomNow : ∀ thres ∈ memory.thres,
        (thres.max.toNat : ℤ) + ⌈(thres.max.toNat : ℚ) * degree⌉ < 2 ^ 64 := by
      intro thres member
      have bounds : thres.bounds ∈ start.thres.map ThresholdCfg.bounds := by
        rw [← follows.bounds]
        exact List.mem_map_of_mem member
      obtain ⟨original, inside, same⟩ := List.mem_map.mp bounds
      rw [← (Prod.mk.inj same).2]
      exact room original inside
    obtain ⟨updated, looped, clamped⟩ := updateThresholds_moderate nonneg small
      memory.thresTrigger reads 0 follows.clamped roomNow
    have bounds := updateThresholds_bounds looped
    rw [follows.degree, degree_eq, looped]
    exact ⟨_, rfl, follows.policy, follows.cfg, degree_eq.symm, bounds.trans follows.bounds, clamped⟩

/-- Equal bounds are counted alike. -/
theorem countP_bounds {first second : List ThresholdCfg}
    (same : first.map ThresholdCfg.bounds = second.map ThresholdCfg.bounds)
    (selected : SizeT × SizeT → Bool) :
    (first.countP fun thres => selected thres.bounds) =
      second.countP fun thres => selected thres.bounds := by
  have counted := congrArg (List.countP selected) same
  rwa [List.countP_map, List.countP_map] at counted

/-- Equal bounds are ordered alike. -/
theorem pairwise_bounds {first second : List ThresholdCfg}
    (same : first.map ThresholdCfg.bounds = second.map ThresholdCfg.bounds)
    (related : SizeT × SizeT → SizeT × SizeT → Prop) :
    (first.Pairwise fun one other => related one.bounds other.bounds) ↔
      second.Pairwise fun one other => related one.bounds other.bounds := by
  rw [← List.pairwise_map, same, List.pairwise_map]

/-- A memory with the bounds of validated thresholds and its values between them routes within
the windows. -/
theorem MemtierMemory.Follows.routesWithin {start : MemtierMemory}
    (accepted : builderDynamicCreateMemory outcome builder = some start)
    (follows : memory.Follows start) : memory.RoutesWithin builder := by
  obtain ⟨several, valid, -, rfl⟩ := builderDynamicCreateMemory_eq_some accepted
  have bounds : memory.thres.map ThresholdCfg.bounds =
      builder.configured.map ThresholdCfg.bounds :=
    follows.bounds.trans (memoryThresholds_bounds builder)
  have inside : ∀ thres ∈ memory.thres,
      thres.min.toNat ≤ thres.val.toNat ∧ thres.val.toNat ≤ thres.max.toNat := by
    intro thres member
    obtain ⟨low, high⟩ := follows.clamped thres member
    exact ⟨BitVec.le_def.mp low, BitVec.le_def.mp high⟩
  have ascending : memory.thres.Pairwise fun first second =>
      first.max.toNat ≤ second.max.toNat :=
    (pairwise_bounds follows.bounds fun first second => first.2.toNat ≤ second.2.toNat).mpr
      (thresholdsValid_ascending valid).2
  constructor
  · intro allocated size
    rw [MemtierMemory.getKind, follows.policy]
    change memtierPolicyDynamicThresholdGetKind size memory.thres memory.cfg = _
    rw [memtierPolicyDynamicThresholdGetKind_eq, follows.cfg, ← List.getElem?_map,
      memoryTiers_kinds, List.getElem?_map]
    rfl
  · intro size
    have length := congrArg List.length bounds
    have last := route_le_length size.toNat (memory.thres.map fun thres => thres.val.toNat)
    rw [List.length_map, List.length_map, MemtierBuilder.configured, List.length_take] at length
    rw [List.length_map] at last
    change route size.toNat (memory.thres.map fun thres => thres.val.toNat) < _
    omega
  · intro size
    have counted : (memory.thres.countP fun thres => thres.max ≤ size) =
        builder.configured.countP fun thres => thres.max ≤ size :=
      countP_bounds bounds fun bound => bound.2 ≤ size
    rw [← counted]
    simp only [BitVec.le_def]
    exact count_high_le_route (fun thres => thres.val.toNat) (fun thres => thres.max.toNat)
      size.toNat (fun thres member => (inside thres member).2) ascending
  · intro size
    have counted : (memory.thres.countP fun thres => thres.min ≤ size) =
        builder.configured.countP fun thres => thres.min ≤ size :=
      countP_bounds bounds fun bound => bound.1 ≤ size
    rw [← counted]
    simp only [BitVec.le_def]
    exact route_le_count_low (fun thres => thres.min.toNat) (fun thres => thres.val.toNat)
      size.toNat (fun thres member => (inside thres member).1)
  · intro size larger ordered
    exact route_mono (BitVec.le_def.mp ordered) _

/-- A configuration with a moderate degree is routed within its windows at all times. -/
theorem MemtierBuilder.Moderate.routes (moderate : builder.Moderate degree)
    (accepted : builderDynamicCreateMemory outcome builder = some memory)
    (checks : List (Nat → SizeT × SizeT)) :
    ∃ final, runSteps (fun reads memory => memory.updateCfg reads) memory checks = some final ∧
      final.RoutesWithin builder := by
  obtain ⟨-, -, positive, built⟩ := builderDynamicCreateMemory_eq_some accepted
  have nonneg : 0 ≤ degree := by
    rw [moderate.degree_eq, ExactFloat.lt, decide_eq_false_iff_not] at positive
    exact not_lt.mp positive
  have room : ∀ thres ∈ memory.thres,
      (thres.max.toNat : ℤ) + ⌈(thres.max.toNat : ℚ) * degree⌉ < 2 ^ 64 := by
    intro thres member
    have bounds : thres.bounds ∈ builder.configured.map ThresholdCfg.bounds := by
      rw [← memoryThresholds_bounds]
      rw [built] at member
      exact List.mem_map_of_mem member
    obtain ⟨original, inside, same⟩ := List.mem_map.mp bounds
    rw [← (Prod.mk.inj same).2]
    exact moderate.room original inside
  have start : memory.Follows memory :=
    ⟨rfl, rfl, rfl, rfl, builderDynamicCreateMemory_clamped accepted⟩
  have progress : ∀ (reads : Nat → SizeT × SizeT) (current : MemtierMemory), True →
      current.Follows memory →
      ∃ next, current.updateCfg reads = some next ∧ next.Follows memory := by
    intro reads current _ follows
    refine follows.updateCfg nonneg moderate.degree_le_one ?_ ?_ room reads
    · rw [built]
    · rw [built]
      exact moderate.degree_eq
  have reached : ∃ final,
      runSteps (fun reads memory => memory.updateCfg reads) memory checks = some final ∧
        final.Follows memory :=
    runSteps_total _ progress start (fun _ _ => trivial)
  obtain ⟨final, ran, follows⟩ := reached
  exact ⟨final, ran, follows.routesWithin accepted⟩

end Runs

section Defaults

theorem configured_untouched (untouched : builder.Untouched)
    (dynamic : builder.policy = .dynamicThreshold) :
    builder.configured = (List.range (builder.cfg.length - 1)).map defaultThreshold := by
  rw [MemtierBuilder.configured, untouched.thres dynamic, List.take_of_length_le]
  rw [List.length_map, List.length_range]

/-- The default value wraps around at the index where the product leaves 32 bits. -/
theorem defaultThreshold_wraps : ¬(defaultThreshold (2 ^ 22 - 1)).Clamped := by
  rintro ⟨low, -⟩
  exact absurd low (by decide +kernel)

/-- An accepted builder that only got tiers has fewer thresholds than the product can count. -/
theorem MemtierBuilder.Untouched.accepted_length (untouched : builder.Untouched)
    (dynamic : builder.policy = .dynamicThreshold)
    (accepted : builderDynamicCreateMemory outcome builder = some memory) :
    builder.cfg.length ≤ 2 ^ 22 := by
  by_contra long
  have member : (defaultThreshold (2 ^ 22 - 1)).Clamped ∈
      builder.configured.map ThresholdCfg.Clamped := by
    rw [configured_untouched untouched dynamic, List.map_map]
    exact List.mem_map.mpr ⟨2 ^ 22 - 1, List.mem_range.mpr (by omega), rfl⟩
  rw [configured, ← memoryThresholds_map ThresholdCfg.Clamped (fun _ _ _ => rfl)] at member
  obtain ⟨thres, inside, same⟩ := List.mem_map.mp member
  obtain ⟨-, valid, -, -⟩ := builderDynamicCreateMemory_eq_some accepted
  exact defaultThreshold_wraps (same ▸ thresholdsValid_clamped valid thres inside)

/-- The default settings are moderate for every number of tiers. -/
theorem MemtierBuilder.Untouched.moderate (untouched : builder.Untouched)
    (dynamic : builder.policy = .dynamicThreshold)
    (accepted : builderDynamicCreateMemory outcome builder = some memory) :
    builder.Moderate (15 / 100) := by
  have length := untouched.accepted_length dynamic accepted
  refine ⟨untouched.degree dynamic, by norm_num, ?_⟩
  intro thres member
  rw [configured_untouched untouched dynamic] at member
  obtain ⟨index, inside, rfl⟩ := List.mem_map.mp member
  have below := List.mem_range.mp inside
  obtain ⟨-, -, max⟩ := defaultThreshold_toNat index (by omega)
  have step : ⌈((1024 * index + 1535 : ℕ) : ℚ) * (15 / 100)⌉ ≤ ((1024 * index + 1535 : ℕ) : ℤ) := by
    rw [Int.ceil_le, Int.cast_natCast]
    exact mul_le_of_le_one_right (Nat.cast_nonneg _) (by norm_num)
  rw [max]
  omega

end Defaults

/-- Every accepted configuration with a moderate degree routes each size within its windows after
any checks. The default configurations are moderate, and up to the number of tiers at which the
default value wraps around they are accepted. -/
theorem dynamicThreshold_routesWithin :
    (∀ (outcome : MemoryOutcome) (builder : MemtierBuilder) (memory : MemtierMemory) (degree : ℚ),
      builderDynamicCreateMemory outcome builder = some memory → builder.Moderate degree →
      ∀ checks : List (Nat → SizeT × SizeT),
        ∃ final, runSteps (fun reads memory => memory.updateCfg reads) memory checks = some final ∧
          final.RoutesWithin builder) ∧
    ∀ builder : MemtierBuilder, builder.Untouched → builder.policy = .dynamicThreshold →
      (∀ outcome memory, builderDynamicCreateMemory outcome builder = some memory →
        builder.Moderate (15 / 100)) ∧
      (2 ≤ builder.cfg.length → builder.cfg.length ≤ 2 ^ 22 →
        ∃ memory, builderDynamicCreateMemory ⟨true, true, true⟩ builder = some memory) := by
  constructor
  · intro outcome builder memory degree accepted moderate checks
    exact moderate.routes accepted checks
  · intro builder untouched dynamic
    constructor
    · intro outcome memory accepted
      exact untouched.moderate dynamic accepted
    · intro several small
      have constructed := untouched.construct (by omega) (fun _ => several) small
      rwa [memtierBuilderConstructMemtierMemory, dynamic] at constructed

theorem dynamicThreshold_routesWithin_twoTiers :
    ∃ memory, builderDynamicCreateMemory ⟨true, true, true⟩ (twoTiers (1 / 4)) = some memory ∧
      ∃ final, runSteps (fun reads memory => memory.updateCfg reads) memory
          [fun _ => (100, 0), fun _ => (0, 100)] = some final ∧
        final.RoutesWithin (twoTiers (1 / 4)) := by
  obtain ⟨memory, accepted⟩ := Option.isSome_iff_exists.mp
    (show (builderDynamicCreateMemory ⟨true, true, true⟩ (twoTiers (1 / 4))).isSome by
      decide +kernel)
  have moderate : (twoTiers (1 / 4)).Moderate (1 / 4) := by
    refine ⟨rfl, by norm_num, ?_⟩
    intro thres member
    obtain rfl := List.mem_singleton.mp member
    decide +kernel
  exact ⟨memory, accepted, dynamicThreshold_routesWithin.1 _ _ memory _ accepted moderate _⟩

end Memkind
