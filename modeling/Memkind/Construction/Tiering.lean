/-
This file embeds the builders and the policies of `memkind_memtier.c`.
-/

import Memkind.Construction.Registry
import Memkind.Library.ExactFloat

namespace Memkind

open Library

/-- `struct memtier_tier_cfg` -/
structure TierCfg where
  kind : KindPtr
  kindRatio : ExactFloat

/-- `struct memtier_threshold_cfg` -/
structure ThresholdCfg where
  val : SizeT
  min : SizeT
  max : SizeT
  expNormRatio : ExactFloat
  currentRatioDiff : ExactFloat

/-- `memtier_policy_t` -/
inductive BuilderPolicy where
  | staticRatio
  | dynamicThreshold
  deriving DecidableEq

/-- `struct memtier_builder`, where the policy stands for `create_mem`, `update_builder` and
`ctl_set`. A dynamic builder has a threshold for every pair of adjacent tiers. -/
structure MemtierBuilder where
  policy : BuilderPolicy
  cfg : List TierCfg
  thres : List ThresholdCfg
  sized : policy = .dynamicThreshold → cfg.length ≤ thres.length + 1
  checkCnt : BitVec 32
  trigger : ExactFloat
  degree : ExactFloat

/-- The functions that `get_kind` names. -/
inductive MemtierPolicy where
  | single
  | staticRatio
  | dynamicThreshold
  deriving DecidableEq

/-- `struct memtier_memory`, where the policy stands for `get_kind` and `update_cfg`. -/
structure MemtierMemory where
  policy : MemtierPolicy
  cfg : List TierCfg
  thres : List ThresholdCfg
  thresCheckCnt : BitVec 32
  thresInitCheckCnt : BitVec 32
  thresTrigger : ExactFloat
  thresDegree : ExactFloat

/-- The allocations of a memory object; `true` means that the block is granted. -/
structure MemoryOutcome where
  thres : Bool
  memory : Bool
  cfg : Bool

/-- `memtier_memory_init` chooses the functions of the memory. -/
def memtierMemoryInit (tierSize : Nat) (isDynamicThreshold : Bool) (outcome : MemoryOutcome) :
    Option MemtierPolicy :=
  if tierSize = 0 then none
  else if !outcome.memory then none
  else if !outcome.cfg then none
  else if isDynamicThreshold then some .dynamicThreshold
  else if tierSize = 1 then some .single
  else some .staticRatio

/-- The tiers of a memory have ratios relative to the first tier. -/
def memoryTiers : List TierCfg → List TierCfg
  | [] => []
  | first :: rest => ⟨first.kind, .finite 1⟩ ::
      rest.map fun tier => ⟨tier.kind, first.kindRatio.div tier.kindRatio⟩

/-- `builder_static_create_memory` -/
def builderStaticCreateMemory (outcome : MemoryOutcome) (builder : MemtierBuilder) :
    Option MemtierMemory :=
  (memtierMemoryInit builder.cfg.length false outcome).map fun policy =>
    { policy
      cfg := memoryTiers builder.cfg
      -- The policy never reads the fields of the thresholds.
      thres := []
      thresCheckCnt := 0
      thresInitCheckCnt := 0
      thresTrigger := .finite 0
      thresDegree := .finite 0 }

/-- The thresholds that a memory takes from its builder. `jemk_calloc` clears the rest. -/
def memoryThresholds : List TierCfg → List ThresholdCfg → List ThresholdCfg
  | first :: second :: tiers, thres :: rest =>
      { thres with
        expNormRatio := second.kindRatio.div first.kindRatio
        currentRatioDiff := .finite 0 } :: memoryThresholds (second :: tiers) rest
  | _, _ => []

/-- The validation loop over the thresholds, where `previous` is the threshold before. -/
def thresholdsValid : Option ThresholdCfg → List ThresholdCfg → Bool
  | _, [] => true
  | previous, thres :: rest =>
      if thres.val < thres.min then false
      else if thres.max < thres.val then false
      else if previous.any fun before => thres.min < before.max then false
      else thresholdsValid (some thres) rest

/-- `builder_dynamic_create_memory` -/
def builderDynamicCreateMemory (outcome : MemoryOutcome) (builder : MemtierBuilder) :
    Option MemtierMemory :=
  if builder.cfg.length < 2 then none
  else if !outcome.thres then none
  else (memtierMemoryInit builder.cfg.length true outcome).bind fun policy =>
    let thres := memoryThresholds builder.cfg builder.thres
    if !thresholdsValid none thres then none
    else if builder.degree.lt (.finite 0) then none
    else if builder.trigger.lt (.finite 0) then none
    else some
      { policy
        cfg := memoryTiers builder.cfg
        thres
        thresCheckCnt := builder.checkCnt
        thresInitCheckCnt := builder.checkCnt
        thresTrigger := builder.trigger
        thresDegree := builder.degree }

/-- The loop of `memtier_policy_static_ratio_get_kind` over the tiers after the first. -/
def staticRatioLoop (allocated : KindPtr → SizeT) (size0 : SizeT) :
    List TierCfg → KindPtr → KindPtr
  | [], dest => dest
  | tier :: rest, dest =>
      staticRatioLoop allocated size0 rest
        (if ((ExactFloat.ofNat (allocated tier.kind).toNat).mul tier.kindRatio).lt
          (.ofNat size0.toNat) then tier.kind else dest)

/-- `memtier_policy_static_ratio_get_kind`, where `allocated` reads `g_alloc_size`. -/
def memtierPolicyStaticRatioGetKind (allocated : KindPtr → SizeT) :
    List TierCfg → Option KindPtr
  | [] => none
  | first :: rest =>
      some (staticRatioLoop allocated (allocated first.kind) rest first.kind)

/-- `memtier_policy_dynamic_threshold_get_kind` -/
def memtierPolicyDynamicThresholdGetKind (size : SizeT) :
    List ThresholdCfg → List TierCfg → Option KindPtr
  | _, [] => none
  | [], tier :: _ => some tier.kind
  | thres :: rest, tier :: tiers =>
      if size < thres.val then some tier.kind
      else memtierPolicyDynamicThresholdGetKind size rest tiers

/-- The call of `memory->get_kind`. -/
def MemtierMemory.getKind (memory : MemtierMemory) (allocated : KindPtr → SizeT) (size : SizeT) :
    Option KindPtr :=
  match memory.policy with
  | .single => memory.cfg.head?.map TierCfg.kind
  | .staticRatio => memtierPolicyStaticRatioGetKind allocated memory.cfg
  | .dynamicThreshold => memtierPolicyDynamicThresholdGetKind size memory.thres memory.cfg

/-- What a ratio check does with a threshold. -/
inductive ThresholdMove where
  | keep
  | raise
  | lower
  deriving DecidableEq

/-- The first half of the loop body of `memtier_policy_dynamic_threshold_update_config` compares
the ratio of two adjacent tiers with the expected one. -/
def ThresholdCfg.observe (trigger : ExactFloat) (prevAllocSize nextAllocSize : SizeT)
    (thres : ThresholdCfg) : ThresholdMove × ThresholdCfg :=
  if 0 < prevAllocSize then
    let currentRatio := (ExactFloat.ofNat nextAllocSize.toNat).div (.ofNat prevAllocSize.toNat)
    let currentRatioDiff := (currentRatio.sub thres.expNormRatio).abs
    let move :=
      if currentRatioDiff.lt trigger || currentRatioDiff.lt thres.currentRatioDiff then .keep
      else if thres.expNormRatio.lt currentRatio then .raise
      else .lower
    (move, { thres with currentRatioDiff })
  else (.raise, thres)

/-- The step `(size_t)ceilf(val * degree)`. The conversion has no meaning outside of `size_t`. -/
def ThresholdCfg.step (degree : ExactFloat) (thres : ThresholdCfg) : Option SizeT :=
  (((ExactFloat.ofNat thres.val.toNat).mul degree).ceil).bind fun ceiling =>
    if 0 ≤ ceiling ∧ ceiling < 2 ^ 64 then some (BitVec.ofInt 64 ceiling) else none

/-- The second half of the loop body changes the threshold when the new value is in bounds. -/
def ThresholdCfg.move (threshold : SizeT) (thres : ThresholdCfg) : ThresholdMove → ThresholdCfg
  | .keep => thres
  | .raise =>
      if thres.val + threshold ≤ thres.max then { thres with val := thres.val + threshold }
      else thres
  | .lower =>
      if thres.min ≤ thres.val - threshold then { thres with val := thres.val - threshold }
      else thres

/-- One pass of the loop of `memtier_policy_dynamic_threshold_update_config`. -/
def updateThreshold (trigger degree : ExactFloat) (read : SizeT × SizeT) (thres : ThresholdCfg) :
    Option ThresholdCfg :=
  match thres.observe trigger read.1 read.2 with
  | (.keep, observed) => some observed
  | (move, observed) => (observed.step degree).map fun threshold => observed.move threshold move

/-- The loop of `memtier_policy_dynamic_threshold_update_config` from threshold `i` on. -/
def updateThresholds (trigger degree : ExactFloat) (reads : Nat → SizeT × SizeT) :
    (i : Nat) → List ThresholdCfg → Option (List ThresholdCfg)
  | _, [] => some []
  | i, thres :: rest =>
      (updateThreshold trigger degree (reads i) thres).bind fun updated =>
        (updateThresholds trigger degree reads (i + 1) rest).map fun others => updated :: others

/-- `memtier_policy_dynamic_threshold_update_config`, where `reads` are the allocated sizes of
the two tiers that the loop reads for each threshold. -/
def memtierPolicyDynamicThresholdUpdateConfig (reads : Nat → SizeT × SizeT)
    (memory : MemtierMemory) : Option MemtierMemory :=
  if 0 < memory.thresCheckCnt - 1 then
    some { memory with thresCheckCnt := memory.thresCheckCnt - 1 }
  else
    (updateThresholds memory.thresTrigger memory.thresDegree reads 0 memory.thres).map fun thres =>
      { memory with thres, thresCheckCnt := memory.thresInitCheckCnt }

/-- The call of `memory->update_cfg`. -/
def MemtierMemory.updateCfg (memory : MemtierMemory) (reads : Nat → SizeT × SizeT) :
    Option MemtierMemory :=
  match memory.policy with
  | .dynamicThreshold => memtierPolicyDynamicThresholdUpdateConfig reads memory
  | _ => some memory

end Memkind
