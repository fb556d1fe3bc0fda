/-
This file keeps the invariant of the registry through each change of the partition map.
-/

import Memkind.Proof.Registry.Search
import Memkind.Library.Ledger
import Mathlib.Algebra.Order.BigOperators.Group.Finset

namespace Memkind

open Library

variable {registry : Registry} {kind : Kind} {name : String} {slot other hole : Slot}
  {pointer : KindPtr} {address : Address}

/-- An entry of the partition map counts when it is not `NULL`. -/
def entryCount : Option KindPtr → ℤ
  | none => 0
  | some _ => 1

/-- The number of slots that refer to a kind. -/
def Registry.occupied (registry : Registry) : ℤ :=
  ∑ slot, entryCount (registry.partitionMap slot)

theorem entryCount_nonneg (entry : Option KindPtr) : 0 ≤ entryCount entry := by
  cases entry with
  | none => exact le_refl 0
  | some _ => exact zero_le_one

theorem Registry.occupied_full (full : ∀ slot, registry.partitionMap slot ≠ none) :
    registry.occupied = maxKind := by
  have one : ∀ slot, entryCount (registry.partitionMap slot) = 1 := by
    intro slot
    obtain ⟨pointer, found⟩ := Option.ne_none_iff_exists'.mp (full slot)
    rw [found, entryCount]
  simp only [occupied, one, Finset.sum_const, Finset.card_univ, Fintype.card_fin, nsmul_eq_mul,
    mul_one]

theorem Registry.occupied_pos (found : registry.partitionMap slot = some pointer) :
    0 < registry.occupied := by
  have least := Finset.single_le_sum
    (fun other _ => entryCount_nonneg (registry.partitionMap other)) (Finset.mem_univ slot)
  rw [found, entryCount] at least
  exact zero_lt_one.trans_le least

/-- A kind that is stored in a hole adds one slot. -/
theorem Registry.stored_occupied (ops : OpsTable) (name : String) (address : Address)
    (empty : registry.partitionMap hole = none) :
    (registry.stored ops name hole address).occupied = registry.occupied + 1 := by
  have moved := sum_mark_update entryCount registry.partitionMap hole (some (.heap address))
  rw [empty, entryCount, entryCount, sub_zero] at moved
  exact moved

/-- An occupied slot that is cleared is one slot less. -/
theorem Registry.cleared_occupied {entry : KindPtr} (pointer : KindPtr)
    (found : registry.partitionMap slot = some entry) :
    (registry.cleared slot pointer).occupied = registry.occupied - 1 := by
  have moved := sum_mark_update entryCount registry.partitionMap slot none
  rw [found, entryCount, entryCount, zero_sub] at moved
  exact moved

/-- The invariant of the registry. -/
structure Registry.WellFormed (registry : Registry) : Prop where
  namesDistinct : registry.NamesDistinct
  slotsLive : registry.SlotsLive
  static : ∀ slot : Slot, slot.val < numStaticKinds →
    ∃ index, registry.partitionMap slot = some (.library index)
  dynamic : ∀ address kind, registry.kinds (.heap address) = some kind →
    kind.ops ≠ .library ∧ kind.released = false
  hasSlot : ∀ address kind, registry.kinds (.heap address) = some kind →
    ∃ slot, registry.partitionMap slot = some (.heap address)
  counted : (registry.numKind : ℤ) = registry.occupied

/-- A kind stands in at most one slot. -/
theorem Registry.WellFormed.slot_unique (formed : registry.WellFormed) {first second : Slot}
    (atFirst : registry.partitionMap first = some pointer)
    (atSecond : registry.partitionMap second = some pointer) : first = second := by
  obtain ⟨kind, allocated, -⟩ := formed.slotsLive first pointer atFirst
  exact formed.namesDistinct first second kind.name ⟨pointer, kind, atFirst, allocated, rfl⟩
    ⟨pointer, kind, atSecond, allocated, rfl⟩

/-- A map without a `NULL` slot has the largest number of kinds. -/
theorem Registry.WellFormed.numKind_full (formed : registry.WellFormed)
    (full : ∀ slot ∈ List.finRange maxKind, registry.partitionMap slot ≠ none) :
    registry.numKind = maxKind := by
  have counted := formed.counted
  rw [registry.occupied_full fun slot => full slot (List.mem_finRange slot)] at counted
  exact_mod_cast counted

/-- An occupied slot makes `num_kind` positive. -/
theorem Registry.WellFormed.numKind_pos (formed : registry.WellFormed)
    (found : registry.partitionMap slot = some pointer) :
    0 < registry.numKind := by
  have least := registry.occupied_pos found
  have counted := formed.counted
  omega

/-- A hole of the partition map is a slot of no static kind. -/
theorem Registry.WellFormed.hole_dynamic (formed : registry.WellFormed)
    (empty : registry.partitionMap slot = none) : numStaticKinds ≤ slot.val := by
  by_contra outside
  obtain ⟨index, static⟩ := formed.static slot (by omega)
  rw [empty] at static
  cases static

/-- A name in the registry after a creation is the new one or an old one. -/
theorem Registry.nameAt_of_stored {ops : OpsTable} {other : String} (live : registry.SlotsLive)
    (unused : registry.kinds (.heap address) = none)
    (named : (registry.stored ops name hole address).NameAt slot other) :
    (slot = hole ∧ other = name) ∨ (slot ≠ hole ∧ registry.NameAt slot other) := by
  obtain ⟨pointer, kind, found, allocated, rfl⟩ := named
  by_cases same : slot = hole
  · subst same
    obtain rfl : .heap address = pointer := by simpa [stored] using found
    obtain rfl : ⟨ops, registry.numKind, name, false⟩ = kind := by simpa [stored] using allocated
    exact Or.inl ⟨rfl, rfl⟩
  · have before : registry.partitionMap slot = some pointer := by simpa [stored, same] using found
    have old : pointer ≠ .heap address := by
      intro equal
      subst equal
      obtain ⟨stale, staleAllocated, -⟩ := live slot _ before
      rw [unused] at staleAllocated
      cases staleAllocated
    exact Or.inr ⟨same, pointer, kind, before, by simpa [stored, old] using allocated, rfl⟩

/-- Storing a kind with a new name in a hole keeps the invariant. -/
theorem Registry.WellFormed.stored_kept (formed : registry.WellFormed) {ops : OpsTable}
    (dynamic : ops ≠ .library) (unusedName : ¬registry.NameInUse name)
    (empty : registry.partitionMap hole = none) (unused : registry.kinds (.heap address) = none) :
    (registry.stored ops name hole address).WellFormed where
  namesDistinct := by
    intro first second other firstNamed secondNamed
    rcases nameAt_of_stored formed.slotsLive unused firstNamed with ⟨rfl, rfl⟩ | ⟨-, firstOld⟩
    · rcases nameAt_of_stored formed.slotsLive unused secondNamed with ⟨rfl, -⟩ | ⟨-, secondOld⟩
      · rfl
      · exact absurd ⟨second, secondOld⟩ unusedName
    · rcases nameAt_of_stored formed.slotsLive unused secondNamed with ⟨rfl, rfl⟩ | ⟨-, secondOld⟩
      · exact absurd ⟨first, firstOld⟩ unusedName
      · exact formed.namesDistinct first second other firstOld secondOld
  slotsLive := by
    intro slot pointer found
    by_cases new : pointer = .heap address
    · exact ⟨⟨ops, registry.numKind, name, false⟩, by simp [stored, new], rfl⟩
    · have old : slot ≠ hole := by
        intro equal
        subst equal
        exact new (by simpa [stored] using found.symm)
      obtain ⟨kind, allocated, alive⟩ := formed.slotsLive slot pointer
        (by simpa [stored, old] using found)
      exact ⟨kind, by simpa [stored, new] using allocated, alive⟩
  static := by
    intro slot inside
    have old : slot ≠ hole := by
      intro equal
      subst equal
      have outside := formed.hole_dynamic empty
      omega
    simpa [stored, old] using formed.static slot inside
  dynamic := by
    intro other kind allocated
    by_cases new : other = address
    · obtain rfl : ⟨ops, registry.numKind, name, false⟩ = kind := by
        simpa [stored, new] using allocated
      exact ⟨dynamic, rfl⟩
    · exact formed.dynamic other kind (by simpa [stored, new] using allocated)
  hasSlot := by
    intro other kind allocated
    by_cases new : other = address
    · exact ⟨hole, by simp [stored, new]⟩
    · obtain ⟨slot, found⟩ := formed.hasSlot other kind (by simpa [stored, new] using allocated)
      have old : slot ≠ hole := by
        intro equal
        subst equal
        rw [empty] at found
        cases found
      exact ⟨slot, by simpa [stored, old] using found⟩
  counted := by
    rw [registry.stored_occupied ops name address empty, ← formed.counted]
    exact Nat.cast_succ registry.numKind

/-- The registry after the destruction of the kind in a slot. -/
def Registry.without (registry : Registry) (kind : Kind) (slot : Slot) (address : Address) :
    Registry :=
  (registry.releasedKind (.heap address) kind).cleared slot (.heap address)

/-- The destruction keeps every other object. -/
theorem Registry.without_kinds (registry : Registry) (kind : Kind) (slot : Slot)
    (different : pointer ≠ .heap address) :
    (registry.without kind slot address).kinds pointer = registry.kinds pointer := by
  simp [without, cleared, releasedKind, different]

/-- The destruction keeps every other slot. -/
theorem Registry.without_partitionMap (registry : Registry) (kind : Kind) (address : Address)
    (different : other ≠ slot) :
    (registry.without kind slot address).partitionMap other = registry.partitionMap other := by
  simp [without, cleared, releasedKind, different]

/-- A slot that is still in use stands elsewhere and refers to another kind. -/
theorem Registry.WellFormed.without_entry (formed : registry.WellFormed)
    (found : registry.partitionMap slot = some (.heap address))
    (stays : (registry.without kind slot address).partitionMap other = some pointer) :
    other ≠ slot ∧ pointer ≠ .heap address ∧ registry.partitionMap other = some pointer := by
  have different : other ≠ slot := by
    intro equal
    subst equal
    simp [without, cleared] at stays
  rw [without_partitionMap registry kind address different] at stays
  refine ⟨different, ?_, stays⟩
  intro equal
  subst equal
  exact different (formed.slot_unique stays found)

/-- A dynamic kind that is still allocated is another one. -/
theorem Registry.without_allocated {other : Address} {otherKind : Kind}
    (allocated : (registry.without kind slot address).kinds (.heap other) = some otherKind) :
    other ≠ address ∧ registry.kinds (.heap other) = some otherKind := by
  have different : other ≠ address := by
    intro equal
    subst equal
    simp [without, cleared] at allocated
  rw [without_kinds registry kind slot (by simpa using different)] at allocated
  exact ⟨different, allocated⟩

/-- The names after the destruction are names from before it. -/
theorem Registry.WellFormed.without_nameAt (formed : registry.WellFormed)
    (found : registry.partitionMap slot = some (.heap address))
    (named : (registry.without kind slot address).NameAt other name) :
    registry.NameAt other name := by
  obtain ⟨pointer, otherKind, stays, allocated, same⟩ := named
  obtain ⟨-, different, before⟩ := formed.without_entry found stays
  rw [without_kinds registry kind slot different] at allocated
  exact ⟨pointer, otherKind, before, allocated, same⟩

/-- Clearing the slot of a dynamic kind keeps the invariant. -/
theorem Registry.WellFormed.without_kept (formed : registry.WellFormed) (kind : Kind)
    (found : registry.partitionMap slot = some (.heap address)) :
    (registry.without kind slot address).WellFormed where
  namesDistinct := by
    intro first second name firstNamed secondNamed
    exact formed.namesDistinct first second name (formed.without_nameAt found firstNamed)
      (formed.without_nameAt found secondNamed)
  slotsLive := by
    intro other pointer stays
    obtain ⟨-, different, before⟩ := formed.without_entry found stays
    obtain ⟨otherKind, allocated, alive⟩ := formed.slotsLive other pointer before
    exact ⟨otherKind, by rw [without_kinds registry kind slot different, allocated], alive⟩
  static := by
    intro other inside
    obtain ⟨index, static⟩ := formed.static other inside
    have different : other ≠ slot := by
      intro equal
      subst equal
      rw [found] at static
      cases static
    exact ⟨index, by rw [without_partitionMap registry kind address different, static]⟩
  dynamic := by
    intro other otherKind allocated
    exact formed.dynamic other otherKind (without_allocated allocated).2
  hasSlot := by
    intro other otherKind allocated
    obtain ⟨different, before⟩ := without_allocated allocated
    obtain ⟨place, held⟩ := formed.hasSlot other otherKind before
    have elsewhere : place ≠ slot := by
      intro equal
      subst equal
      rw [found] at held
      exact different (by simpa using held.symm)
    exact ⟨place, by rw [without_partitionMap registry kind address elsewhere, held]⟩
  counted := by
    have positive := formed.numKind_pos found
    have before : (registry.releasedKind (.heap address) kind).partitionMap slot =
        some (.heap address) := found
    rw [without, cleared_occupied (.heap address) before]
    show ((registry.numKind - 1 : Nat) : ℤ) = registry.occupied - 1
    rw [← formed.counted]
    omega

/-- The initial registry holds the static kinds and nothing else. -/
theorem Registry.initial_wellFormed : Registry.initial.WellFormed where
  namesDistinct := by
    have unique : ∀ first second : Fin numStaticKinds,
        (staticKind first).name = (staticKind second).name → first = second := by
      decide +kernel
    rintro first second name ⟨_, _, firstFound, firstAllocated, rfl⟩
      ⟨_, _, secondFound, secondAllocated, same⟩
    simp only [initial] at firstFound secondFound
    split at firstFound
    · split at secondFound
      · obtain rfl := Option.some.inj firstFound
        obtain rfl := Option.some.inj secondFound
        obtain rfl := Option.some.inj firstAllocated
        obtain rfl := Option.some.inj secondAllocated
        exact Fin.ext (Fin.mk.inj (unique _ _ same.symm))
      · cases secondFound
    · cases firstFound
  slotsLive := by
    intro slot pointer found
    simp only [initial] at found
    split at found
    · obtain rfl := Option.some.inj found
      exact ⟨_, rfl, rfl⟩
    · cases found
  static := by
    intro slot inside
    exact ⟨⟨slot.val, inside⟩, dif_pos inside⟩
  dynamic := by
    intro address kind allocated
    cases allocated
  hasSlot := by
    intro address kind allocated
    cases allocated
  counted := by
    decide +kernel

end Memkind
