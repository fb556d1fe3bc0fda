/-
This file compares the tiers that `memtier_calloc` and `memtier_malloc` choose for the same number of
bytes.
-/

import Memkind.Construction.Memtier
import Memkind.Proof.Tiering.RoutingWindow

namespace Memkind

open Library

/-- What the builders guarantee of a memory: a kind is in one tier only, and there is a threshold
between any two adjacent tiers. -/
structure MemtierMemory.Formed (memory : MemtierMemory) : Prop where
  distinct : (memory.cfg.map TierCfg.kind).Nodup
  sized : memory.policy = .dynamicThreshold → memory.cfg.length = memory.thres.length + 1

section Kinds

variable (partition : KindPtr → Nat) (system : TierSystem)

/-- The kind that the memory names for a size. -/
def TierSystem.kindFor (size : SizeT) : Option KindPtr :=
  system.memory.getKind (fun kind => system.counters.gAllocSize (partition kind)) size

/-- The kind that `memtier_malloc` allocates from. -/
def TierSystem.mallocKind (size : SizeT) : Option KindPtr := system.kindFor partition size

/-- The kind that `memtier_calloc` allocates from. -/
def TierSystem.callocKind (_num size : SizeT) : Option KindPtr := system.kindFor partition size

theorem TierSystem.allocate_kind {size : SizeT} {count : Nat → Counters → Counters}
    {kind : KindPtr} {next : TierSystem}
    (allocated : system.allocate partition size count = some (kind, next)) :
    system.kindFor partition size = some kind := by
  obtain ⟨chosen, found, rest⟩ := Option.bind_eq_some_iff.mp allocated
  obtain ⟨memory, -, result⟩ := Option.map_eq_some_iff.mp rest
  rw [← (Prod.mk.inj result).1]
  exact found

theorem memtierMalloc_kind {bucket : Bucket} {size : SizeT} {block : Option SizeT}
    {kind : KindPtr} {next : TierSystem}
    (allocated : memtierMalloc partition bucket size block system = some (kind, next)) :
    system.mallocKind partition size = some kind :=
  system.allocate_kind partition allocated

theorem memtierCalloc_kind {bucket : Bucket} {num size : SizeT} {block : Option SizeT}
    {kind : KindPtr} {next : TierSystem}
    (allocated : memtierCalloc partition bucket num size block system = some (kind, next)) :
    system.callocKind partition num size = some kind :=
  system.allocate_kind partition allocated

end Kinds

section Routing

variable (memory : MemtierMemory)

/-- The thresholds in bytes. -/
def MemtierMemory.cuts : List Nat := memory.thres.map fun thres => thres.val.toNat

/-- The thresholds do not put two sizes into different tiers: the first threshold above the smaller
size is above the larger one. -/
def MemtierMemory.SameSide (first second : Nat) : Prop :=
  ∀ cut, memory.cuts.find? (fun cut => min first second < cut) = some cut → max first second < cut

theorem MemtierMemory.sameSide_iff (first second : Nat) :
    memory.SameSide first second ↔ route first memory.cuts = route second memory.cuts := by
  unfold SameSide
  obtain ordered | ordered := Nat.le_total first second
  · rw [Nat.min_eq_left ordered, Nat.max_eq_right ordered, route_eq_iff ordered]
  · rw [Nat.min_eq_right ordered, Nat.max_eq_left ordered, ← route_eq_iff ordered, eq_comm]

variable {memory}

/-- A dynamic memory has a tier for every size. -/
theorem MemtierMemory.getKind_dynamic (dynamic : memory.policy = .dynamicThreshold)
    (sized : memory.cfg.length = memory.thres.length + 1) (allocated : KindPtr → SizeT)
    (size : SizeT) :
    ∃ tier, memory.cfg[route size.toNat memory.cuts]? = some tier ∧
      memory.getKind allocated size = some tier.kind := by
  have bound := route_le_length size.toNat memory.cuts
  rw [cuts, List.length_map] at bound
  have inside : route size.toNat memory.cuts < memory.cfg.length := by
    rw [sized]
    exact Nat.lt_succ_of_le bound
  refine ⟨memory.cfg[route size.toNat memory.cuts], List.getElem?_eq_getElem inside, ?_⟩
  rw [MemtierMemory.getKind, dynamic]
  change memtierPolicyDynamicThresholdGetKind size memory.thres memory.cfg = _
  rw [memtierPolicyDynamicThresholdGetKind_eq, ← cuts, List.getElem?_eq_getElem inside]
  rfl

/-- Two sizes get the same kind exactly when no threshold separates them. -/
theorem MemtierMemory.Formed.getKind_eq_iff (formed : memory.Formed)
    (dynamic : memory.policy = .dynamicThreshold) (allocated : KindPtr → SizeT)
    (size other : SizeT) :
    memory.getKind allocated size = memory.getKind allocated other ↔
      memory.SameSide size.toNat other.toNat := by
  have sized := formed.sized dynamic
  obtain ⟨tier, found, chosen⟩ := memory.getKind_dynamic dynamic sized allocated size
  obtain ⟨otherTier, otherFound, otherChosen⟩ :=
    memory.getKind_dynamic dynamic sized allocated other
  rw [memory.sameSide_iff, chosen, otherChosen]
  constructor
  · intro same
    have kinds : (memory.cfg.map TierCfg.kind)[route size.toNat memory.cuts]? =
        (memory.cfg.map TierCfg.kind)[route other.toNat memory.cuts]? := by
      rw [List.getElem?_map, List.getElem?_map, found, otherFound]
      exact same
    have inside : route size.toNat memory.cuts < (memory.cfg.map TierCfg.kind).length := by
      rw [List.length_map]
      exact (List.getElem?_eq_some_iff.mp found).1
    exact (List.getElem?_inj inside formed.distinct).mp kinds
  · intro same
    rw [same, otherFound] at found
    rw [Option.some.inj found]

/-- The other policies do not look at the size. -/
theorem MemtierMemory.getKind_static (static : memory.policy ≠ .dynamicThreshold)
    (allocated : KindPtr → SizeT) (size other : SizeT) :
    memory.getKind allocated size = memory.getKind allocated other := by
  unfold getKind
  split
  · rfl
  · rfl
  · rename_i dynamic
    exact absurd dynamic static

end Routing

section Guarantee

theorem memoryThresholds_length {cfg : List TierCfg} {thresholds : List ThresholdCfg}
    (enough : cfg.length ≤ thresholds.length + 1) :
    (memoryThresholds cfg thresholds).length = cfg.length - 1 := by
  have copied := congrArg List.length
    (memoryThresholds_map ThresholdCfg.bounds (fun _ _ _ => rfl) cfg thresholds)
  rw [List.length_map, List.length_map, List.length_take] at copied
  omega

/-- A dynamic memory has a threshold between any two adjacent tiers. -/
theorem builderDynamicCreateMemory_sized {outcome : MemoryOutcome} {builder : MemtierBuilder}
    {memory : MemtierMemory} (dynamic : builder.policy = .dynamicThreshold)
    (accepted : builderDynamicCreateMemory outcome builder = some memory) :
    memory.cfg.length = memory.thres.length + 1 := by
  obtain ⟨several, -, -, rfl⟩ := builderDynamicCreateMemory_eq_some accepted
  have length : (memoryTiers builder.cfg).length = builder.cfg.length := by
    have kinds := congrArg List.length (memoryTiers_kinds builder.cfg)
    rwa [List.length_map, List.length_map] at kinds
  have thresholds := memoryThresholds_length (builder.sized dynamic)
  change (memoryTiers builder.cfg).length = (memoryThresholds builder.cfg builder.thres).length + 1
  omega

/-- A builder with distinct kinds makes a memory of that form. -/
theorem memtierBuilderConstructMemtierMemory_formed {outcome : MemoryOutcome}
    {builder : MemtierBuilder} {memory : MemtierMemory}
    (distinct : (builder.cfg.map TierCfg.kind).Nodup)
    (constructed : memtierBuilderConstructMemtierMemory outcome builder = some memory) :
    memory.Formed := by
  obtain ⟨tiers, policy⟩ := memtierBuilderConstructMemtierMemory_tiers constructed
  constructor
  · rw [tiers, memoryTiers_kinds]
    exact distinct
  · intro dynamic
    unfold memtierBuilderConstructMemtierMemory at constructed
    split at constructed
    · rename_i static
      rw [policy, static, BuilderPolicy.memoryPolicy] at dynamic
      split at dynamic
      · cases dynamic
      · cases dynamic
    · rename_i builderDynamic
      exact builderDynamicCreateMemory_sized builderDynamic constructed

theorem updateThresholds_length {trigger degree : ExactFloat} {reads : Nat → SizeT × SizeT}
    {i : Nat} {thresholds updated : List ThresholdCfg}
    (looped : updateThresholds trigger degree reads i thresholds = some updated) :
    updated.length = thresholds.length := by
  induction thresholds generalizing i updated with
  | nil =>
      obtain rfl := Option.some.inj looped
      rfl
  | cons thres rest ih =>
      obtain ⟨first, -, later⟩ := Option.bind_eq_some_iff.mp looped
      obtain ⟨others, tail, rfl⟩ := Option.map_eq_some_iff.mp later
      rw [List.length_cons, List.length_cons, ih tail]

/-- The checks keep the form of a memory. -/
theorem MemtierMemory.Formed.updateCfg {memory next : MemtierMemory} (formed : memory.Formed)
    {reads : Nat → SizeT × SizeT} (updated : memory.updateCfg reads = some next) :
    next.Formed := by
  unfold MemtierMemory.updateCfg at updated
  split at updated
  · unfold memtierPolicyDynamicThresholdUpdateConfig at updated
    split at updated
    · obtain rfl := Option.some.inj updated
      exact ⟨formed.distinct, formed.sized⟩
    · obtain ⟨thresholds, looped, rfl⟩ := Option.map_eq_some_iff.mp updated
      refine ⟨formed.distinct, fun dynamic => ?_⟩
      change memory.cfg.length = thresholds.length + 1
      rw [updateThresholds_length looped]
      exact formed.sized dynamic
  · obtain rfl := Option.some.inj updated
    exact formed

/-- The allocations keep the form of the memory. -/
theorem TierSystem.allocate_formed {partition : KindPtr → Nat} {size : SizeT}
    {count : Nat → Counters → Counters} {system next : TierSystem} {kind : KindPtr}
    (formed : system.memory.Formed)
    (allocated : system.allocate partition size count = some (kind, next)) :
    next.memory.Formed := by
  obtain ⟨chosen, -, rest⟩ := Option.bind_eq_some_iff.mp allocated
  obtain ⟨memory, updated, result⟩ := Option.map_eq_some_iff.mp rest
  rw [← (Prod.mk.inj result).2]
  exact formed.updateCfg updated

end Guarantee

section Total

variable (partition : KindPtr → Nat) (system : TierSystem) (num size : SizeT)

/-- A request for an array is routed by its number of bytes. -/
structure TierSystem.RoutesTotal : Prop where
  kind : system.callocKind partition num size = system.mallocKind partition (num * size)
  calls : ∀ bucket block kind next otherBucket other otherKind otherNext,
    memtierCalloc partition bucket num size block system = some (kind, next) →
    memtierMalloc partition otherBucket (num * size) other system = some (otherKind, otherNext) →
    kind = otherKind
  above : system.memory.policy = .dynamicThreshold → system.memory.cuts.Pairwise (· ≤ ·) →
    ∀ i cut, system.memory.cuts[i]? = some cut → cut ≤ num.toNat * size.toNat →
      ∃ (j : Nat) (tier : TierCfg), i < j ∧ system.memory.cfg[j]? = some tier ∧
        system.callocKind partition num size = some tier.kind

variable {partition system num size}

/-- The kind is all that matters. -/
theorem TierSystem.routesTotal_of_kind (formed : system.memory.Formed)
    (fits : num.toNat * size.toNat < 2 ^ 64)
    (kind : system.callocKind partition num size = system.mallocKind partition (num * size)) :
    system.RoutesTotal partition num size := by
  have product : (num * size).toNat = num.toNat * size.toNat :=
    BitVec.toNat_mul_of_lt fits
  refine ⟨kind, ?_, ?_⟩
  · intro bucket block first next otherBucket other otherKind otherNext calloc malloc
    rw [memtierCalloc_kind partition system calloc, memtierMalloc_kind partition system malloc]
      at kind
    exact Option.some.inj kind
  · intro dynamic ascending i cut found reached
    obtain ⟨tier, inside, chosen⟩ := system.memory.getKind_dynamic dynamic (formed.sized dynamic)
      (fun kind => system.counters.gAllocSize (partition kind)) (num * size)
    rw [product] at inside
    exact ⟨_, tier, lt_route ascending found reached, inside, kind.trans chosen⟩

end Total

/-- `memtier_calloc` takes its block from the tier of the whole request unless a threshold separates
the size of an element from the size of the request. -/
theorem memtierCalloc_routesTotal_iff (partition : KindPtr → Nat) (system : TierSystem)
    (formed : system.memory.Formed) (num size : SizeT) (fits : num.toNat * size.toNat < 2 ^ 64) :
    system.RoutesTotal partition num size ↔
      (system.memory.policy = .dynamicThreshold →
        system.memory.SameSide size.toNat (num.toNat * size.toNat)) := by
  have product : (num * size).toNat = num.toNat * size.toNat :=
    BitVec.toNat_mul_of_lt fits
  constructor
  · intro total dynamic
    have same := (formed.getKind_eq_iff dynamic _ size (num * size)).mp total.kind
    rwa [product] at same
  · intro together
    apply TierSystem.routesTotal_of_kind formed fits
    by_cases dynamic : system.memory.policy = .dynamicThreshold
    · apply (formed.getKind_eq_iff dynamic _ size (num * size)).mpr
      rw [product]
      exact together dynamic
    · exact MemtierMemory.getKind_static dynamic _ _ _

/-- Two tiers with the default threshold of 1024 bytes. -/
def defaultTwoTiers : TierSystem where
  memory :=
    { policy := .dynamicThreshold
      cfg := [⟨.library 0, .finite 1⟩, ⟨.library 11, .finite 1⟩]
      thres := [⟨1024, 512, 1535, .finite 1, .finite 0⟩]
      thresCheckCnt := 20
      thresInitCheckCnt := 20
      thresTrigger := thresholdTrigger
      thresDegree := thresholdDegree }
  counters := .zero

theorem defaultTwoTiers_formed : defaultTwoTiers.memory.Formed := ⟨by decide, fun _ => rfl⟩

/-- Four elements of 2048 bytes, which are all above the threshold. -/
theorem memtierCalloc_routesTotal_iff_four :
    defaultTwoTiers.RoutesTotal (fun _ => 0) 4 2048 := by
  refine (memtierCalloc_routesTotal_iff _ _ defaultTwoTiers_formed 4 2048 (by decide)).mpr ?_
  intro _ cut found
  have beyond : defaultTwoTiers.memory.cuts.find? (fun cut => min 2048 8192 < cut) = none := by
    decide
  cases beyond.symm.trans found

/-- An array of 1024 elements of 64 bytes goes to the first tier, and a block of its size to the
second one. -/
theorem memtierCalloc_not_routesTotal :
    defaultTwoTiers.memory.Formed ∧
      defaultTwoTiers.callocKind (fun _ => 0) 1024 64 = some (.library 0) ∧
      defaultTwoTiers.mallocKind (fun _ => 0) (1024 * 64) = some (.library 11) ∧
      ¬defaultTwoTiers.RoutesTotal (fun _ => 0) 1024 64 := by
  refine ⟨defaultTwoTiers_formed, by decide, by decide, fun total => ?_⟩
  exact absurd total.kind (by decide)

end Memkind
