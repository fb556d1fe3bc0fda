/-
This file embeds the functions of `memkind_memtier.c` that fill a builder.
-/

import Memkind.Construction.Tiering

namespace Memkind

open Library

def thresholdStep : Nat := 1024
def thresholdCheckCnt : BitVec 32 := 20
def thresholdTrigger : ExactFloat := .finite (2 / 100)
def thresholdDegree : ExactFloat := .finite (15 / 100)

/-- `memtier_builder_new` -/
def memtierBuilderNew : BuilderPolicy → MemtierBuilder
  | .staticRatio =>
      { policy := .staticRatio, cfg := [], thres := [], sized := nofun, checkCnt := 0
        trigger := .finite 0, degree := .finite 0 }
  | .dynamicThreshold =>
      { policy := .dynamicThreshold, cfg := [], thres := [], sized := fun _ => Nat.zero_le _
        checkCnt := thresholdCheckCnt, trigger := thresholdTrigger, degree := thresholdDegree }

/-- The threshold that `builder_dynamic_update` writes at `index`. It does not set the ratios.
The bounds are computed with doubles, the value is a product of 32-bit words. -/
def defaultThreshold (index : Nat) : ThresholdCfg where
  min := BitVec.ofNat 64 (thresholdStep * index + thresholdStep / 2)
  val := (BitVec.ofNat 32 (thresholdStep * (index + 1))).setWidth 64
  max := BitVec.ofNat 64 (thresholdStep * (index + 1) + thresholdStep / 2 - 1)
  expNormRatio := .nan
  currentRatioDiff := .nan

/-- The reallocations of `memtier_builder_add_tier`; `true` means that the block is granted. -/
structure AddTierOutcome where
  thres : Bool
  cfg : Bool

/-- `builder_dynamic_update` -/
def builderDynamicUpdate (granted : Bool) (builder : MemtierBuilder) : Option MemtierBuilder :=
  if builder.cfg.length < 1 then some builder
  else if !granted then none
  else
    let index := builder.cfg.length - 1
    some
      { builder with
        thres := builder.thres.take index ++ [defaultThreshold index]
        sized := by
          intro dynamic
          have sized := builder.sized dynamic
          rw [List.length_append, List.length_take]
          simp only [List.length_singleton]
          omega }

/-- The call of `builder->update_builder`. -/
def MemtierBuilder.updateBuilder (granted : Bool) (builder : MemtierBuilder) :
    Option MemtierBuilder :=
  match builder.policy with
  | .staticRatio => some builder
  | .dynamicThreshold => builderDynamicUpdate granted builder

theorem MemtierBuilder.updateBuilder_room {granted : Bool} {builder updated : MemtierBuilder}
    (update : builder.updateBuilder granted = some updated) :
    updated.policy = .dynamicThreshold → updated.cfg.length ≤ updated.thres.length := by
  intro dynamic
  unfold updateBuilder at update
  split at update
  · rename_i static
    obtain rfl := Option.some.inj update
    rw [static] at dynamic
    cases dynamic
  · rename_i policy
    have sized := builder.sized policy
    unfold builderDynamicUpdate at update
    split at update
    · obtain rfl := Option.some.inj update
      omega
    · split at update
      · cases update
      · obtain rfl := Option.some.inj update
        change builder.cfg.length ≤ (builder.thres.take _ ++ [_]).length
        rw [List.length_append, List.length_take, List.length_singleton]
        omega

/-- `memtier_builder_add_tier` returns whether it succeeds. A failure of the second reallocation
leaves the new threshold in the builder. The field `kind_ratio` is a `float`. -/
def memtierBuilderAddTier (outcome : AddTierOutcome) (builder : MemtierBuilder)
    (kind : Option KindPtr) (kindRatio : BitVec 32) : Bool × MemtierBuilder :=
  match kind with
  | none => (false, builder)
  | some kind =>
      if kind ∈ builder.cfg.map TierCfg.kind then (false, builder)
      else
        match update : builder.updateBuilder outcome.thres with
        | none => (false, builder)
        | some updated =>
            if !outcome.cfg then (false, updated)
            else (true,
              { updated with
                cfg := updated.cfg ++ [⟨kind, .ofUnsigned kindRatio.toNat⟩]
                sized := by
                  intro dynamic
                  rw [List.length_append]
                  exact Nat.succ_le_succ (MemtierBuilder.updateBuilder_room update dynamic) })

/-- The fields of a threshold that `ctl_set` can change. -/
inductive ThresholdField where
  | val
  | min
  | max
  deriving DecidableEq

def ThresholdCfg.set (thres : ThresholdCfg) (value : SizeT) : ThresholdField → ThresholdCfg
  | .val => { thres with val := value }
  | .min => { thres with min := value }
  | .max => { thres with max := value }

/-- `memtier_ctl_set` with the name `policy.dynamic_threshold.thresholds[index].field`. -/
def memtierCtlSet (builder : MemtierBuilder) (index : Nat) (field : ThresholdField)
    (value : SizeT) : Option MemtierBuilder :=
  match builder.policy with
  | .staticRatio => none
  | .dynamicThreshold =>
      if builder.cfg.length ≤ index + 1 then none
      else some
        { builder with
          thres := builder.thres.modify index fun thres => thres.set value field
          sized := by
            intro dynamic
            rw [List.length_modify]
            exact builder.sized dynamic }

/-- `memtier_builder_construct_memtier_memory` -/
def memtierBuilderConstructMemtierMemory (outcome : MemoryOutcome) (builder : MemtierBuilder) :
    Option MemtierMemory :=
  match builder.policy with
  | .staticRatio => builderStaticCreateMemory outcome builder
  | .dynamicThreshold => builderDynamicCreateMemory outcome builder

end Memkind
