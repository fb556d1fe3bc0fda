/-
This file says once what each registry call can do.
-/

import Memkind.Construction.Registry

namespace Memkind

variable {registry next : Registry} {name : String} {status : Status}

/-- The registry after a new kind has been stored. -/
def Registry.stored (registry : Registry) (ops : OpsTable) (name : String) (slot : Slot)
    (address : Address) : Registry :=
  { registry with
    partitionMap := Function.update registry.partitionMap slot (some (.heap address))
    numKind := registry.numKind + 1
    kinds := Function.update registry.kinds (.heap address)
      (some ⟨ops, registry.numKind, name, false⟩) }

/-- The tail of `memkind_create` either fails without a change or stores a new kind. -/
theorem createAt_cases {ops : OpsTable} {outcome : CreateOutcome} {slot : Slot}
    {out : Option KindPtr}
    (called : createAt ops name outcome slot registry = some (status, out, next)) :
    (status ≠ .success ∧ next = registry) ∨
      ∃ address, status = .success ∧ out = some (.heap address) ∧
        registry.kinds (.heap address) = none ∧ next = registry.stored ops name slot address := by
  unfold createAt at called
  split at called
  · obtain ⟨rfl, -, rfl⟩ := called
    exact Or.inl ⟨by decide, rfl⟩
  · rename_i address block
    split at called
    · simp at called
    · rename_i unused
      split at called
      · rename_i failed
        obtain ⟨rfl, -, rfl⟩ := called
        exact Or.inl ⟨failed, rfl⟩
      · obtain ⟨rfl, rfl, rfl⟩ := called
        exact Or.inr ⟨address, rfl, rfl, by simpa using unused, rfl⟩

/-- A call of `memkind_create` either fails without a change, or it stores a new kind in the slot
that the search named. -/
theorem memkindCreate_cases {ops : OpsTable} {outcome : CreateOutcome} {out : Option KindPtr}
    (called : memkindCreate ops name outcome registry = some (status, out, next)) :
    (status ≠ .success ∧ next = registry) ∨
      ∃ address slot, status = .success ∧ out = some (.heap address) ∧
        registry.numKind ≠ maxKind ∧ ops ≠ .library ∧
        registry.kinds (.heap address) = none ∧
        (searchSlot registry name (List.finRange maxKind) = some (.hole slot) ∨
          searchSlot registry name (List.finRange maxKind) = some .allOccupied) ∧
        next = registry.stored ops name slot address := by
  unfold memkindCreate at called
  split at called
  · obtain ⟨rfl, -, rfl⟩ := called
    exact Or.inl ⟨by decide, rfl⟩
  · rename_i room
    split at called
    · obtain ⟨rfl, -, rfl⟩ := called
      exact Or.inl ⟨by decide, rfl⟩
    · rename_i complete
      have dynamic : ops ≠ .library := by
        intro equal
        subst equal
        exact complete rfl
      obtain ⟨search, found, called⟩ := Option.bind_eq_some_iff.mp called
      cases search with
      | nameInUse =>
          obtain ⟨rfl, -, rfl⟩ := called
          exact Or.inl ⟨by decide, rfl⟩
      | hole slot =>
          obtain failed | ⟨address, rfl, rfl, unused, rfl⟩ := createAt_cases called
          · exact Or.inl failed
          · exact Or.inr ⟨address, slot, rfl, rfl, room, dynamic, unused, Or.inl found, rfl⟩
      | allOccupied =>
          obtain failed | ⟨address, rfl, rfl, unused, rfl⟩ := createAt_cases called
          · exact Or.inl failed
          · exact Or.inr ⟨address, _, rfl, rfl, room, dynamic, unused, Or.inr found, rfl⟩

/-- The registry after the `destroy` operation of a dynamic kind. -/
def Registry.releasedKind (registry : Registry) (pointer : KindPtr) (kind : Kind) : Registry :=
  { registry with
    counters := memtierResetSize registry.counters kind.partition
    kinds := Function.update registry.kinds pointer (some { kind with released := true }) }

/-- The registry after a slot has been cleared and its kind freed. -/
def Registry.cleared (registry : Registry) (slot : Slot) (pointer : KindPtr) : Registry :=
  { registry with
    partitionMap := Function.update registry.partitionMap slot none
    numKind := registry.numKind - 1
    kinds := Function.update registry.kinds pointer none }

/-- The `destroy` operation leaves static kinds alone and releases live dynamic kinds. -/
theorem opsDestroy_cases {pointer : KindPtr} {kind : Kind} {mutexDestroy : Status}
    (called : OpsTable.destroy pointer kind mutexDestroy registry = some (status, next)) :
    (kind.ops = .library ∧ next = registry) ∨
      (kind.ops ≠ .library ∧ kind.released = false ∧
        next = registry.releasedKind pointer kind) := by
  unfold OpsTable.destroy at called
  split at called
  · rename_i library
    obtain ⟨-, rfl⟩ := called
    exact Or.inl ⟨library, rfl⟩
  · rename_i pmem
    split at called
    · simp at called
    · rename_i live
      obtain ⟨-, rfl⟩ := called
      exact Or.inr ⟨by simp [pmem], by simpa using live, rfl⟩
  · rename_i fixed
    split at called
    · simp at called
    · rename_i live
      obtain ⟨-, rfl⟩ := called
      exact Or.inr ⟨by simp [fixed], by simpa using live, rfl⟩

/-- The slots of the search are dynamic. -/
theorem mem_dynamicSlots (slot : Slot) : slot ∈ dynamicSlots ↔ numStaticKinds ≤ slot.val := by
  simp [dynamicSlots]

/-- A found slot belongs to the searched list and holds a kind with the name. -/
theorem searchName_found {slots : List Slot} {slot : Slot}
    (found : searchName registry name slots = some (some slot)) :
    slot ∈ slots ∧ ∃ pointer kind, registry.partitionMap slot = some pointer ∧
      registry.kinds pointer = some kind ∧ kind.name = name := by
  induction slots with
  | nil => simp [searchName] at found
  | cons first rest ih =>
      unfold searchName at found
      split at found
      · obtain ⟨member, holds⟩ := ih found
        exact ⟨List.mem_cons_of_mem first member, holds⟩
      · rename_i pointer occupied
        obtain ⟨kind, allocated, found⟩ := Option.bind_eq_some_iff.mp found
        split at found
        · rename_i same
          obtain rfl := Option.some.inj (Option.some.inj found)
          exact ⟨List.mem_cons_self, pointer, kind, occupied, allocated, same.symm⟩
        · obtain ⟨member, holds⟩ := ih found
          exact ⟨List.mem_cons_of_mem first member, holds⟩

/-- A call of `memkind_destroy_kind` runs the `destroy` operation and clears at most one slot. -/
theorem memkindDestroyKind_cases {pointer : KindPtr} {mutexDestroy : Status}
    (called : memkindDestroyKind pointer mutexDestroy registry = some (status, next)) :
    ∃ kind middle, registry.kinds pointer = some kind ∧
      ((kind.ops = .library ∧ middle = registry) ∨
        (kind.ops ≠ .library ∧ kind.released = false ∧
          middle = registry.releasedKind pointer kind)) ∧
      ((searchName middle kind.name dynamicSlots = some none ∧ next = middle) ∨
        ∃ slot, searchName middle kind.name dynamicSlots = some (some slot) ∧
          next = middle.cleared slot pointer) := by
  obtain ⟨kind, allocated, called⟩ := Option.bind_eq_some_iff.mp called
  obtain ⟨⟨err, middle⟩, destroyed, called⟩ := Option.bind_eq_some_iff.mp called
  obtain ⟨found, searched, called⟩ := Option.map_eq_some_iff.mp called
  refine ⟨kind, middle, allocated, opsDestroy_cases destroyed, ?_⟩
  cases found with
  | none =>
      obtain ⟨-, rfl⟩ := called
      exact Or.inl ⟨searched, rfl⟩
  | some slot =>
      have dynamic := (mem_dynamicSlots slot).mp (searchName_found searched).1
      obtain ⟨-, rfl⟩ := called
      refine Or.inr ⟨slot, searched, ?_⟩
      rw [memkindDestroyDynamicKindFromRegister, if_pos dynamic]
      rfl

end Memkind
