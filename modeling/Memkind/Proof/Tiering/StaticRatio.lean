/-
This file bounds the deviation of the static ratio policy.
-/

import Memkind.Proof.Accounting.Batched
import Memkind.Proof.Tiering.RatioPolicy

namespace Memkind

open Library

variable {run next : RatioRun} {memory : MemtierMemory} {usable largest : Nat}
  {partition : KindPtr → Nat} {tier first : KindPtr × ℕ+} {rest : List (KindPtr × ℕ+)}

/-- The calls of a run: successful allocations from a memory and readings of the counters. -/
inductive RatioCall where
  | malloc (bucket : Bucket) (size usable : SizeT)
  | calloc (bucket : Bucket) (num size usable : SizeT)
  | posixMemalign (bucket : Bucket) (alignment size usable : SizeT)
  | allocatedSize (pointer : KindPtr)

/-- The system together with the true bytes of each kind. -/
structure RatioRun where
  system : TierSystem
  allocated : KindPtr → Nat

/-- A successful allocation adds its usable size to the true bytes of the chosen kind. It adds at
most `largest` bytes and keeps the total below `2 ^ 63`. -/
def RatioRun.charge (largest : Nat) (usable : SizeT) (run : RatioRun)
    (result : Option (KindPtr × TierSystem)) : Option RatioRun :=
  result.bind fun (kind, system) =>
    if usable.toNat ≤ largest ∧ run.allocated kind + usable.toNat < 2 ^ 63 then
      some ⟨system, Function.update run.allocated kind (run.allocated kind + usable.toNat)⟩
    else none

/-- One complete call. -/
def ratioStep (partition : KindPtr → Nat) (largest : Nat) (call : RatioCall) (run : RatioRun) :
    Option RatioRun :=
  match call with
  | .malloc bucket size usable =>
      run.charge largest usable (memtierMalloc partition bucket size (some usable) run.system)
  | .calloc bucket num size usable =>
      run.charge largest usable (memtierCalloc partition bucket num size (some usable) run.system)
  | .posixMemalign bucket alignment size usable =>
      run.charge largest usable
        (memtierPosixMemalign partition bucket alignment size (some usable) run.system)
  | .allocatedSize pointer =>
      some { run with
        system := { run.system with
          counters := (memtierKindAllocatedSize run.system.counters (partition pointer)).2 } }

/-- A memory with zero counters and nothing allocated. -/
def RatioRun.initial (memory : MemtierMemory) : RatioRun := ⟨⟨memory, .zero⟩, fun _ => 0⟩

/-- The bytes of a tier and of the first tier deviate by at most `largest` and the bytes that
wait in the buckets. -/
def RatioRun.Deviation (largest : Nat) (first tier : KindPtr × ℕ+) (run : RatioRun) : Prop :=
  run.allocated first.1 * tier.2 ≤
      run.allocated tier.1 * first.2 + tier.2 * (largest + batchLimit) ∧
    run.allocated tier.1 * first.2 ≤
      run.allocated first.1 * tier.2 + first.2 * (largest + batchLimit)

/-- The invariant of a run on a memory with the tiers `first` and `rest`. -/
structure RatioRun.Sound (partition : KindPtr → Nat) (largest : Nat) (memory : MemtierMemory)
    (first : KindPtr × ℕ+) (rest : List (KindPtr × ℕ+)) (run : RatioRun) : Prop where
  memory : run.system.memory = memory
  batched : ∀ tier ∈ first :: rest,
    run.system.counters.Batched (partition tier.1) (run.allocated tier.1)
  small : ∀ tier ∈ first :: rest, run.allocated tier.1 < 2 ^ 63
  deviation : ∀ tier ∈ rest, run.Deviation largest first tier

/-- A tier that is not ahead in the global counters stays close after it takes a block. -/
theorem scaled_bound {global total reached account ratio other : Nat}
    (order : global * ratio ≤ reached * other) (held : total ≤ global + batchLimit)
    (small : usable ≤ largest) (real : reached ≤ account) :
    (total + usable) * ratio ≤ account * other + ratio * (largest + batchLimit) :=
  calc (total + usable) * ratio ≤ (global + (largest + batchLimit)) * ratio := by
        apply Nat.mul_le_mul_right
        omega
    _ = global * ratio + ratio * (largest + batchLimit) := by
        rw [Nat.add_mul, Nat.mul_comm (largest + batchLimit)]
    _ ≤ account * other + ratio * (largest + batchLimit) := by
        apply Nat.add_le_add_right
        exact le_trans order (Nat.mul_le_mul_right other real)

/-- A block for the first tier keeps every deviation when no tier is behind. -/
theorem RatioRun.Sound.first_deviation (sound : run.Sound partition largest memory first rest)
    (bounded : usable ≤ largest) (member : tier ∈ rest)
    (level : ¬Deficient run.system.counters partition first tier) :
    (run.allocated first.1 + usable) * tier.2 ≤
        run.allocated tier.1 * first.2 + tier.2 * (largest + batchLimit) ∧
      run.allocated tier.1 * first.2 ≤
        (run.allocated first.1 + usable) * tier.2 + first.2 * (largest + batchLimit) := by
  have firstLag := (sound.batched first List.mem_cons_self).lag
  have tierLag := (sound.batched tier (List.mem_cons_of_mem first member)).lag
  have before := (sound.deviation tier member).2
  constructor
  · exact scaled_bound (Nat.le_of_not_lt level) firstLag.2 bounded tierLag.1
  · rw [Nat.add_mul]
    omega

/-- A block for a tier that is behind keeps its deviation. -/
theorem RatioRun.Sound.tier_deviation (sound : run.Sound partition largest memory first rest)
    (bounded : usable ≤ largest) (member : tier ∈ rest)
    (behind : Deficient run.system.counters partition first tier) :
    run.allocated first.1 * tier.2 ≤
        (run.allocated tier.1 + usable) * first.2 + tier.2 * (largest + batchLimit) ∧
      (run.allocated tier.1 + usable) * first.2 ≤
        run.allocated first.1 * tier.2 + first.2 * (largest + batchLimit) := by
  have firstLag := (sound.batched first List.mem_cons_self).lag
  have tierLag := (sound.batched tier (List.mem_cons_of_mem first member)).lag
  have before := (sound.deviation tier member).1
  constructor
  · rw [Nat.add_mul]
    omega
  · exact scaled_bound (Nat.le_of_lt behind) tierLag.2 bounded firstLag.1

/-- A counted block keeps the counters exact and below the limit. -/
theorem RatioRun.Sound.counted
    (distinct : ((first :: rest).map fun tier => partition tier.1).Nodup)
    (sound : run.Sound partition largest memory first rest) {chosen : KindPtr × ℕ+}
    (member : chosen ∈ first :: rest) (bucket : Bucket) {usable : SizeT}
    (fits : run.allocated chosen.1 + usable.toNat < 2 ^ 63) (inside : tier ∈ first :: rest) :
    (incrementAllocSize run.system.counters (partition chosen.1) bucket usable).Batched
        (partition tier.1)
        (Function.update run.allocated chosen.1 (run.allocated chosen.1 + usable.toNat) tier.1) ∧
      Function.update run.allocated chosen.1 (run.allocated chosen.1 + usable.toNat) tier.1 <
        2 ^ 63 := by
  by_cases same : partition tier.1 = partition chosen.1
  · obtain rfl : tier = chosen := List.inj_on_of_nodup_map distinct inside member same
    rw [Function.update_self]
    refine ⟨?_, fits⟩
    apply (sound.batched tier inside).increment
    omega
  · have different : tier.1 ≠ chosen.1 := fun equal => same (congrArg partition equal)
    rw [Function.update_of_ne different]
    refine ⟨?_, sound.small tier inside⟩
    obtain ⟨buckets, global⟩ := incrementAllocSize_other run.system.counters bucket usable same
    exact (sound.batched tier inside).congr buckets global

/-- A counted block keeps the invariant when it keeps the deviations. -/
theorem RatioRun.Sound.charged
    (distinct : ((first :: rest).map fun tier => partition tier.1).Nodup)
    (sound : run.Sound partition largest memory first rest) {chosen : KindPtr × ℕ+}
    (member : chosen ∈ first :: rest) (bucket : Bucket) {usable : SizeT}
    (fits : run.allocated chosen.1 + usable.toNat < 2 ^ 63)
    (system : next.system =
      ⟨memory, incrementAllocSize run.system.counters (partition chosen.1) bucket usable⟩)
    (allocated : next.allocated =
      Function.update run.allocated chosen.1 (run.allocated chosen.1 + usable.toNat))
    (deviation : ∀ tier ∈ rest, next.Deviation largest first tier) :
    next.Sound partition largest memory first rest where
  memory := by rw [system]
  batched := by
    intro tier inside
    rw [system, allocated]
    exact (sound.counted distinct member bucket fits inside).1
  small := by
    intro tier inside
    rw [allocated]
    exact (sound.counted distinct member bucket fits inside).2
  deviation := deviation

/-- The first tier has a kind of its own. -/
theorem first_ne_of_mem (distinct : ((first :: rest).map fun tier => partition tier.1).Nodup)
    (member : tier ∈ rest) :
    tier.1 ≠ first.1 := by
  intro equal
  have listed := (List.nodup_cons.mp distinct).1
  exact listed (List.mem_map.mpr ⟨tier, member, congrArg partition equal⟩)

/-- A successful allocation keeps the invariant. -/
theorem RatioRun.Sound.charge_kept (static : StaticMemory memory first rest)
    (distinct : ((first :: rest).map fun tier => partition tier.1).Nodup)
    (sound : run.Sound partition largest memory first rest) {bucket : Bucket}
    {size usable : SizeT}
    (stepped : run.charge largest usable (run.system.allocate partition size
      fun kind => countBlock kind bucket (some usable)) = some next) :
    next.Sound partition largest memory first rest := by
  obtain ⟨⟨kind, system⟩, called, stepped⟩ := Option.bind_eq_some_iff.mp stepped
  simp only at stepped
  split at stepped
  · rename_i limits
    obtain ⟨bounded, fits⟩ := limits
    obtain rfl := Option.some.inj stepped
    obtain ⟨found, rfl⟩ := static.allocate_eq sound.memory called
    rcases static.getKind_cases run.system.counters partition size found with
      ⟨rfl, level⟩ | ⟨chosen, member, behind, rfl⟩
    · apply sound.charged distinct List.mem_cons_self bucket fits rfl rfl
      intro tier member
      unfold Deviation
      dsimp only
      rw [Function.update_self, Function.update_of_ne (first_ne_of_mem distinct member)]
      exact sound.first_deviation bounded member (level tier member)
    · have inside : chosen ∈ first :: rest := List.mem_cons_of_mem first member
      apply sound.charged distinct inside bucket fits rfl rfl
      intro tier tierMember
      unfold Deviation
      dsimp only
      rw [Function.update_of_ne (first_ne_of_mem distinct member).symm]
      by_cases same : tier.1 = chosen.1
      · obtain rfl : tier = chosen := List.inj_on_of_nodup_map distinct
          (List.mem_cons_of_mem first tierMember) inside (congrArg partition same)
        rw [Function.update_self]
        exact sound.tier_deviation bounded tierMember behind
      · rw [Function.update_of_ne same]
        exact sound.deviation tier tierMember
  · cases stepped

theorem ratioStep_allocatedSize (partition : KindPtr → Nat) (largest : Nat) (pointer : KindPtr)
    (run : RatioRun) :
    ratioStep partition largest (.allocatedSize pointer) run =
      some { run with
        system := { run.system with
          counters := run.system.counters.drained (partition pointer) } } := by
  rw [ratioStep, memtierKindAllocatedSize_eq]

/-- Each complete call keeps the invariant. -/
theorem ratioStep_sound (static : StaticMemory memory first rest)
    (distinct : ((first :: rest).map fun tier => partition tier.1).Nodup) {call : RatioCall}
    (sound : run.Sound partition largest memory first rest)
    (stepped : ratioStep partition largest call run = some next) :
    next.Sound partition largest memory first rest := by
  cases call with
  | malloc bucket size usable => exact sound.charge_kept static distinct stepped
  | calloc bucket num size usable => exact sound.charge_kept static distinct stepped
  | posixMemalign bucket alignment size usable => exact sound.charge_kept static distinct stepped
  | allocatedSize pointer =>
      obtain rfl := Option.some.inj stepped
      refine ⟨sound.memory, ?_, sound.small, sound.deviation⟩
      intro tier inside
      have small := sound.small tier inside
      exact (sound.batched tier inside).drain (by omega) (partition pointer)

/-- A run starts with nothing allocated. -/
theorem RatioRun.initial_sound (partition : KindPtr → Nat) (largest : Nat)
    (memory : MemtierMemory) (first : KindPtr × ℕ+) (rest : List (KindPtr × ℕ+)) :
    (RatioRun.initial memory).Sound partition largest memory first rest := by
  refine ⟨rfl, ?_, ?_, ?_⟩
  · intro tier inside
    constructor
    · simp [initial, Counters.pending, Counters.zero]
    · intro bucket
      show (0 : SizeT) ≤ flushThreshold
      decide
  · intro tier inside
    simp [initial]
  · intro tier member
    simp [Deviation, initial]

/-- Along every run of complete calls, every tier stays within a fixed deviation of its ratio to
the first tier. -/
theorem staticRatioRun_deviation (partition : KindPtr → Nat) (outcome : MemoryOutcome)
    (builder : MemtierBuilder) (memory : MemtierMemory) (first : KindPtr × ℕ+)
    (rest : List (KindPtr × ℕ+)) (tiers : builder.cfg = ratioTiers (first :: rest))
    (several : rest ≠ []) (distinct : ((first :: rest).map fun tier => partition tier.1).Nodup)
    (built : builderStaticCreateMemory outcome builder = some memory) (largest : Nat)
    (calls : List RatioCall) (final : RatioRun)
    (ran : runSteps (ratioStep partition largest) (RatioRun.initial memory) calls = some final) :
    ∀ tier ∈ rest, final.Deviation largest first tier := by
  have static := builderStaticCreateMemory_static tiers several built
  have sound := runSteps_invariant (ratioStep partition largest)
    (RatioRun.Sound partition largest memory first rest)
    (fun _ _ _ sound stepped => ratioStep_sound static distinct sound stepped)
    (RatioRun.initial_sound partition largest memory first rest) ran
  exact sound.deviation

/-- The static kinds have their index as partition. -/
def staticPartition : KindPtr → Nat
  | .library index => index.val
  | .heap _ => maxKind

/-- A tier with ratio 1 and a tier with ratio 4. -/
def oneToFour : MemtierBuilder where
  policy := .staticRatio
  cfg := ratioTiers [(.library 0, 1), (.library 8, 4)]
  thres := []
  sized := nofun
  checkCnt := 20
  trigger := .finite 0
  degree := .finite 0

/-- Every call of the run adds a block or reads the counters of the first tier. -/
def mixedCalls : List RatioCall :=
  [.malloc 3 60000 65536, .allocatedSize (.library 0), .calloc 7 10 100 1024,
    .posixMemalign 3 64 70000 81920]

theorem staticRatioRun_deviation_mixed :
    ∃ memory final, builderStaticCreateMemory ⟨true, true, true⟩ oneToFour = some memory ∧
      runSteps (ratioStep staticPartition 81920) (RatioRun.initial memory) mixedCalls =
        some final ∧
      final.allocated (.library 8) = 82944 ∧
      ∀ tier ∈ [((.library 8, 4) : KindPtr × ℕ+)],
        final.Deviation 81920 (.library 0, 1) tier := by
  have computed : ((builderStaticCreateMemory ⟨true, true, true⟩ oneToFour).bind fun memory =>
      (runSteps (ratioStep staticPartition 81920) (RatioRun.initial memory) mixedCalls).map
        fun final => final.allocated (.library 8)) = some 82944 := by
    simp only [mixedCalls, runSteps, ratioStep_allocatedSize]
    decide +kernel
  obtain ⟨memory, built, ran⟩ := Option.bind_eq_some_iff.mp computed
  obtain ⟨final, ran, bytes⟩ := Option.map_eq_some_iff.mp ran
  exact ⟨memory, final, built, ran, bytes, staticRatioRun_deviation staticPartition _ oneToFour
    memory (.library 0, 1) [(.library 8, 4)] rfl (by decide) (by decide) built 81920 mixedCalls
    final ran⟩

end Memkind
