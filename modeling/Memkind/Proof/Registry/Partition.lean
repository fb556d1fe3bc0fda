/-
This file decides when the live kinds own their partitions, and with them their counters.
-/

import Memkind.Proof.Registry.Steps
import Memkind.Library.Run

namespace Memkind

open Library

/-- A call that takes effect: a creation that succeeds or a destruction. -/
def successfulStep (call : RegistryCall) (registry : Registry) : Option Registry :=
  match call with
  | .create ops name outcome =>
      match memkindCreate ops name outcome registry with
      | some (.success, _, next) => some next
      | _ => none
  | .destroy pointer mutexDestroy =>
      (memkindDestroyKind pointer mutexDestroy registry).map fun result => result.2

/-- Distinct live kinds have distinct partitions. -/
def Registry.PartitionsDistinct (registry : Registry) : Prop :=
  ∀ first second firstKind secondKind, registry.Live first firstKind →
    registry.Live second secondKind → firstKind.partition = secondKind.partition →
    first = second

/-- A destruction keeps the counters of every other live kind. -/
def Registry.ResetsOwnCounters (registry : Registry) : Prop :=
  ∀ pointer mutexDestroy status next,
    memkindDestroyKind pointer mutexDestroy registry = some (status, next) →
    ∀ other kind, other ≠ pointer → registry.Live other kind →
      next.counters.tAllocSize kind.partition = registry.counters.tAllocSize kind.partition ∧
      next.counters.gAllocSize kind.partition = registry.counters.gAllocSize kind.partition

/-- Every live kind owns the counters of its partition. -/
def Registry.OwnsCounters (registry : Registry) : Prop :=
  registry.PartitionsDistinct ∧ registry.ResetsOwnCounters

/-- The number that the next kind receives is not the partition of a live kind. -/
def Registry.NextPartitionFree (registry : Registry) : Prop :=
  ∀ pointer kind, registry.Live pointer kind → kind.partition ≠ registry.numKind

/-- A creation needs a free partition number, a destruction needs nothing. -/
def partitionGuard (call : RegistryCall) (registry : Registry) : Prop :=
  match call with
  | .create _ _ _ => registry.NextPartitionFree
  | .destroy _ _ => True

/-- Resetting one partition does not touch another. -/
theorem memtierResetSize_other (counters : Counters) {partition other : Nat}
    (different : other ≠ partition) :
    (memtierResetSize counters partition).tAllocSize other = counters.tAllocSize other ∧
      (memtierResetSize counters partition).gAllocSize other = counters.gAllocSize other :=
  ⟨Function.update_of_ne different _ _, Function.update_of_ne different _ _⟩

/-- Distinct partitions protect the counters of the other kinds. -/
theorem Registry.PartitionsDistinct.resetsOwnCounters {registry : Registry}
    (distinct : registry.PartitionsDistinct) : registry.ResetsOwnCounters := by
  intro pointer mutexDestroy status next called other kind different live
  obtain ⟨victim, middle, allocated, destroyed, searched⟩ := memkindDestroyKind_cases called
  have counters : next.counters = middle.counters := by
    obtain ⟨-, rfl⟩ | ⟨slot, -, rfl⟩ := searched
    · rfl
    · rfl
  rw [counters]
  obtain ⟨-, rfl⟩ | ⟨-, alive, rfl⟩ := destroyed
  · exact ⟨rfl, rfl⟩
  · apply memtierResetSize_other
    intro same
    exact different (distinct other pointer kind victim live ⟨allocated, alive⟩ same)

theorem Registry.ownsCounters_iff (registry : Registry) :
    registry.OwnsCounters ↔ registry.PartitionsDistinct :=
  ⟨fun owns => owns.1, fun distinct => ⟨distinct, distinct.resetsOwnCounters⟩⟩

/-- A stored kind is live with the partition `num_kind`, and the other kinds stay as they were. -/
theorem Registry.stored_live_iff (registry : Registry) (ops : OpsTable) (name : String)
    (slot : Slot) (address : Address) (pointer : KindPtr) (kind : Kind) :
    (registry.stored ops name slot address).Live pointer kind ↔
      (pointer = .heap address ∧ kind = ⟨ops, registry.numKind, name, false⟩) ∨
        (pointer ≠ .heap address ∧ registry.Live pointer kind) := by
  by_cases same : pointer = .heap address
  · subst same
    simp only [Live, stored, Function.update_self, Option.some.injEq, true_and, ne_eq,
      not_true_eq_false, false_and, or_false]
    constructor
    · rintro ⟨rfl, -⟩
      rfl
    · intro equal
      subst equal
      exact ⟨rfl, rfl⟩
  · simp [Live, stored, same]

/-- A new kind keeps the partitions distinct exactly when its number is free. -/
theorem Registry.stored_partitionsDistinct_iff {registry : Registry}
    (distinct : registry.PartitionsDistinct) {address : Address}
    (unused : registry.kinds (.heap address) = none) (ops : OpsTable) (name : String)
    (slot : Slot) :
    (registry.stored ops name slot address).PartitionsDistinct ↔ registry.NextPartitionFree := by
  constructor
  · intro after pointer kind live same
    have other : pointer ≠ .heap address := by
      intro equal
      subst equal
      have allocated := live.1
      rw [unused] at allocated
      cases allocated
    exact other (after pointer (.heap address) kind ⟨ops, registry.numKind, name, false⟩
      ((registry.stored_live_iff ops name slot address _ _).mpr (Or.inr ⟨other, live⟩))
      ((registry.stored_live_iff ops name slot address _ _).mpr (Or.inl ⟨rfl, rfl⟩)) same)
  · intro free first second firstKind secondKind firstLive secondLive same
    rw [stored_live_iff] at firstLive secondLive
    obtain ⟨rfl, rfl⟩ | ⟨-, firstLive⟩ := firstLive
    · obtain ⟨rfl, -⟩ | ⟨-, secondLive⟩ := secondLive
      · rfl
      · exact absurd same.symm (free second secondKind secondLive)
    · obtain ⟨rfl, rfl⟩ | ⟨-, secondLive⟩ := secondLive
      · exact absurd same (free first firstKind firstLive)
      · exact distinct first second firstKind secondKind firstLive secondLive same

/-- A destruction makes no kind live and changes no partition. -/
theorem memkindDestroyKind_live {pointer : KindPtr} {mutexDestroy status : Status}
    {registry next : Registry}
    (called : memkindDestroyKind pointer mutexDestroy registry = some (status, next))
    {other : KindPtr} {kind : Kind} (live : next.Live other kind) : registry.Live other kind := by
  obtain ⟨victim, middle, allocated, destroyed, searched⟩ := memkindDestroyKind_cases called
  have before : middle.Live other kind := by
    obtain ⟨-, rfl⟩ | ⟨slot, -, rfl⟩ := searched
    · exact live
    · obtain ⟨stays, alive⟩ := live
      by_cases same : other = pointer
      · subst same
        simp [Registry.cleared] at stays
      · exact ⟨by simpa [Registry.cleared, Function.update_of_ne same] using stays, alive⟩
  obtain ⟨-, rfl⟩ | ⟨-, -, rfl⟩ := destroyed
  · exact before
  · obtain ⟨stays, alive⟩ := before
    by_cases same : other = pointer
    · subst same
      obtain rfl : { victim with released := true } = kind := by
        simpa [Registry.releasedKind] using stays
      simp at alive
    · exact ⟨by simpa [Registry.releasedKind, Function.update_of_ne same] using stays, alive⟩

/-- The guard is exact for each call. -/
theorem successfulStep_ownsCounters_iff {call : RegistryCall} {registry next : Registry}
    (owns : registry.OwnsCounters) (stepped : successfulStep call registry = some next) :
    next.OwnsCounters ↔ partitionGuard call registry := by
  cases call with
  | create ops name outcome =>
      simp only [successfulStep] at stepped
      split at stepped
      · rename_i out after called
        obtain rfl := Option.some.inj stepped
        obtain ⟨failed, -⟩ | ⟨address, slot, -, -, -, -, unused, -, rfl⟩ :=
          memkindCreate_cases called
        · exact absurd rfl failed
        · rw [Registry.ownsCounters_iff, partitionGuard]
          exact Registry.stored_partitionsDistinct_iff owns.1 unused ops name slot
      · simp at stepped
  | destroy pointer mutexDestroy =>
      obtain ⟨⟨status, after⟩, called, rfl⟩ := Option.map_eq_some_iff.mp stepped
      refine iff_of_true ?_ trivial
      rw [Registry.ownsCounters_iff]
      intro first second firstKind secondKind firstLive secondLive same
      exact owns.1 first second firstKind secondKind (memkindDestroyKind_live called firstLive)
        (memkindDestroyKind_live called secondLive) same

theorem Registry.initial_live {pointer : KindPtr} {kind : Kind}
    (live : Registry.initial.Live pointer kind) :
    ∃ index, pointer = .library index ∧ kind = staticKind index := by
  cases pointer with
  | library index => exact ⟨index, rfl, (Option.some.inj live.1).symm⟩
  | heap address => cases live.1

theorem Registry.initial_ownsCounters : Registry.initial.OwnsCounters := by
  rw [ownsCounters_iff]
  intro first second firstKind secondKind firstLive secondLive same
  obtain ⟨firstIndex, rfl, rfl⟩ := initial_live firstLive
  obtain ⟨secondIndex, rfl, rfl⟩ := initial_live secondLive
  exact congrArg KindPtr.library (Fin.ext same)

/-- Along every sequence of successful calls, the live kinds own their counters in every state
exactly when each creation finds its partition number free. -/
theorem registryRun_ownsCounters_iff (calls : List RegistryCall) :
    Always successfulStep Registry.OwnsCounters Registry.initial calls ↔
      Guarded successfulStep partitionGuard Registry.initial calls :=
  always_iff_guarded successfulStep
    (fun _ _ _ owns stepped => successfulStep_ownsCounters_iff owns stepped)
    Registry.initial_ownsCounters

/-- Two fixed kinds exist, the first is destroyed, and a third fixed kind is created. -/
def holeThenCreate : List RegistryCall :=
  [.create .fixed (fixedName 0x10000) (grantedAt 0x100),
    .create .fixed (fixedName 0x20000) (grantedAt 0x200),
    .destroy (.heap 0x100) .success,
    .create .fixed (fixedName 0x30000) (grantedAt 0x300)]

/-- The third kind takes the partition of the second, which is still live. -/
theorem holeThenCreate_shares_partition :
    ((runSteps successfulStep Registry.initial holeThenCreate).map fun registry =>
      (registry.kinds (.heap 0x200), registry.kinds (.heap 0x300))) =
      some (some ⟨.fixed, 24, "fixed0x20000", false⟩,
        some ⟨.fixed, 24, "fixed0x30000", false⟩) := by
  decide +kernel

/-- The live kinds of that run do not own their counters. -/
theorem holeThenCreate_not_ownsCounters :
    ¬Always successfulStep Registry.OwnsCounters Registry.initial holeThenCreate := by
  intro always
  obtain ⟨final, ran, kinds⟩ := Option.map_eq_some_iff.mp holeThenCreate_shares_partition
  obtain ⟨second, third⟩ := Prod.mk.inj kinds
  have distinct := (Always.final successfulStep always ran).1
  have same := distinct _ _ _ _ ⟨second, rfl⟩ ⟨third, rfl⟩ rfl
  exact absurd same (by decide)

end Memkind
