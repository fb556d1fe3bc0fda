/-
This file decides when the registry keeps the names of its kinds distinct and its slots sound.
-/

import Memkind.Proof.Registry.Invariant
import Memkind.Library.Run

namespace Memkind

open Library

variable {registry next : Registry} {name : String}

/-- A registry call of the library's interface: both creators pass the table of a dynamic kind,
and only dynamic kinds are destroyed. -/
def dynamicStep (call : RegistryCall) (registry : Registry) : Option Registry :=
  match call with
  | .create .library _ _ => none
  | .destroy (.library _) _ => none
  | call => registryStep call registry

/-- Every live dynamic kind can be destroyed, and its destruction clears exactly its slot. -/
def Registry.DestroysOwnSlot (registry : Registry) : Prop :=
  ∀ address kind, registry.Live (.heap address) kind → ∀ mutexDestroy,
    ∃ slot status next, registry.partitionMap slot = some (.heap address) ∧
      memkindDestroyKind (.heap address) mutexDestroy registry = some (status, next) ∧
      next.partitionMap = Function.update registry.partitionMap slot none ∧
      ∀ other, other ≠ slot → registry.partitionMap other ≠ some (.heap address)

/-- The registry is intact: distinct names, no freed kinds, and exact destructions. -/
def Registry.Intact (registry : Registry) : Prop :=
  registry.NamesDistinct ∧ registry.SlotsLive ∧ registry.DestroysOwnSlot

/-- A creation with a name in use is rejected as invalid and changes nothing. -/
def rejectsUsedName (call : RegistryCall) (registry : Registry) : Prop :=
  match call with
  | .create ops name outcome => registry.NameInUse name →
      memkindCreate ops name outcome registry = some (.errorInvalid, none, registry)
  | .destroy _ _ => True

/-- A creation with a name in use finds the registry not full, and a kind with the name stands
before the first `NULL` slot. -/
def usedNameVisible (call : RegistryCall) (registry : Registry) : Prop :=
  match call with
  | .create _ name _ => registry.NameInUse name → registry.numKind ≠ maxKind ∧
      ∃ slot, registry.NameAt slot name ∧ ∀ earlier < slot, registry.partitionMap earlier ≠ none
  | .destroy _ _ => True

instance (call : RegistryCall) (registry : Registry) : Decidable (usedNameVisible call registry) :=
  match call with
  | .create _ name _ => inferInstanceAs (Decidable (registry.NameInUse name →
      registry.numKind ≠ maxKind ∧ ∃ slot, registry.NameAt slot name ∧
        ∀ earlier < slot, registry.partitionMap earlier ≠ none))
  | .destroy _ _ => isTrue trivial

/-- The destruction of a live dynamic kind whose search names a slot. -/
theorem memkindDestroyKind_eq {pointer : KindPtr} {kind : Kind} {slot : Slot}
    (live : registry.Live pointer kind) (dynamic : kind.ops ≠ .library)
    (searched : searchName (registry.releasedKind pointer kind) kind.name dynamicSlots =
      some (some slot)) (mutexDestroy : Status) :
    ∃ status, memkindDestroyKind pointer mutexDestroy registry =
      some (status, (registry.releasedKind pointer kind).cleared slot pointer) := by
  have inside := (mem_dynamicSlots slot).mp (searchName_found searched).1
  have destroyed : ∃ status, OpsTable.destroy pointer kind mutexDestroy registry =
      some (status, registry.releasedKind pointer kind) := by
    unfold OpsTable.destroy
    cases table : kind.ops with
    | library => exact absurd table dynamic
    | pmem => exact ⟨.success, by simp [live.2, Registry.releasedKind, table]⟩
    | fixed => exact ⟨mutexDestroy, by simp [live.2, Registry.releasedKind, table]⟩
  obtain ⟨status, destroyed⟩ := destroyed
  refine ⟨status, ?_⟩
  simp only [memkindDestroyKind, live.1, Option.bind_some, destroyed, searched, Option.map_some,
    memkindDestroyDynamicKindFromRegister, if_pos inside]
  rfl

/-- The only slot of a live dynamic kind is the one that its destruction clears. -/
theorem Registry.WellFormed.destroy (formed : registry.WellFormed) {address : Address}
    {kind : Kind} (allocated : registry.kinds (.heap address) = some kind) (mutexDestroy : Status) :
    ∃ slot status, registry.partitionMap slot = some (.heap address) ∧
      memkindDestroyKind (.heap address) mutexDestroy registry =
        some (status, (registry.releasedKind (.heap address) kind).cleared slot (.heap address)) := by
  obtain ⟨slot, found⟩ := formed.hasSlot address kind allocated
  obtain ⟨dynamic, alive⟩ := formed.dynamic address kind allocated
  have inside : numStaticKinds ≤ slot.val := by
    by_contra outside
    obtain ⟨index, static⟩ := formed.static slot (by omega)
    rw [static] at found
    cases found
  have named : registry.NameAt slot kind.name := ⟨.heap address, kind, found, allocated, rfl⟩
  have searched : searchName (registry.releasedKind (.heap address) kind) kind.name dynamicSlots =
      some (some slot) := by
    apply searchName_eq
    · intro other pointer otherFound
      obtain ⟨otherKind, otherAllocated, -⟩ := formed.slotsLive other pointer otherFound
      by_cases same : pointer = .heap address
      · simp [releasedKind, same]
      · simp [releasedKind, same, otherAllocated]
    · exact (mem_dynamicSlots slot).mpr inside
    · exact (releasedKind_nameAt_iff allocated slot kind.name).mpr named
    · intro other otherNamed
      exact formed.namesDistinct other slot kind.name
        ((releasedKind_nameAt_iff allocated other kind.name).mp otherNamed) named
  obtain ⟨status, called⟩ := memkindDestroyKind_eq ⟨allocated, alive⟩ dynamic searched mutexDestroy
  exact ⟨slot, status, found, called⟩

/-- The invariant gives the integrity of the registry. -/
theorem Registry.WellFormed.intact (formed : registry.WellFormed) :
    registry.Intact := by
  refine ⟨formed.namesDistinct, formed.slotsLive, ?_⟩
  intro address kind live mutexDestroy
  obtain ⟨slot, status, found, called⟩ := formed.destroy live.1 mutexDestroy
  refine ⟨slot, status, _, found, called, rfl, ?_⟩
  intro other different otherFound
  exact different (formed.slot_unique otherFound found)

/-- The search finds a used name that stands before the first `NULL` slot. -/
theorem Registry.WellFormed.searchSlot_used (formed : registry.WellFormed) {slot : Slot}
    (named : registry.NameAt slot name)
    (visible : ∀ earlier < slot, registry.partitionMap earlier ≠ none)
    (room : registry.numKind ≠ maxKind) :
    searchSlot registry name (List.finRange maxKind) = some .nameInUse := by
  rcases searchSlot_cases formed.slotsLive name (List.pairwise_lt_finRange maxKind) with
    used | ⟨hole, -, -, empty, before⟩ | ⟨-, full⟩
  · exact used
  · obtain ⟨pointer, kind, found, rest⟩ := named
    have different : slot ≠ hole := by
      intro equal
      subst equal
      rw [empty] at found
      cases found
    rcases lt_or_gt_of_ne different with earlier | later
    · exact absurd ⟨pointer, kind, found, rest⟩
        (before slot (List.mem_finRange slot) earlier)
    · exact absurd empty (visible hole later)
  · exact absurd (formed.numKind_full full) room

/-- A visible used name is rejected. -/
theorem Registry.WellFormed.rejects (formed : registry.WellFormed) {ops : OpsTable}
    (dynamic : ops ≠ .library) {outcome : CreateOutcome}
    (visible : usedNameVisible (.create ops name outcome) registry) :
    rejectsUsedName (.create ops name outcome) registry := by
  intro used
  obtain ⟨room, slot, named, before⟩ := visible used
  have complete : ops.entries.bad = false := by
    cases ops with
    | library => exact absurd rfl dynamic
    | pmem => rfl
    | fixed => rfl
  simp only [memkindCreate, room, if_false, complete, Bool.false_eq_true,
    formed.searchSlot_used named before room, Option.bind_some]

/-- A creation keeps the invariant when it can see a used name. -/
theorem Registry.WellFormed.create_kept (formed : registry.WellFormed) {ops : OpsTable}
    {outcome : CreateOutcome} {status : Status} {out : Option KindPtr}
    (visible : usedNameVisible (.create ops name outcome) registry)
    (called : memkindCreate ops name outcome registry = some (status, out, next)) :
    next.WellFormed := by
  obtain ⟨-, rfl⟩ | ⟨address, slot, rfl, -, room, dynamic, unused, searched, rfl⟩ :=
    memkindCreate_cases called
  · exact formed
  · have unusedName : ¬registry.NameInUse name := by
      intro used
      have rejected := formed.rejects dynamic visible used
      rw [called] at rejected
      cases rejected
    rcases searchSlot_cases formed.slotsLive name (List.pairwise_lt_finRange maxKind) with
      used | ⟨hole, -, found, empty, -⟩ | ⟨-, full⟩
    · rcases searched with searched | searched
      · rw [used] at searched
        cases searched
      · rw [used] at searched
        cases searched
    · rcases searched with searched | searched
      · rw [found] at searched
        cases searched
        exact formed.stored_kept dynamic unusedName empty unused
      · rw [found] at searched
        cases searched
    · exact absurd (formed.numKind_full full) room

/-- Each guarded call keeps the invariant. -/
theorem dynamicStep_wellFormed {call : RegistryCall} (formed : registry.WellFormed)
    (visible : usedNameVisible call registry) (stepped : dynamicStep call registry = some next) :
    next.WellFormed := by
  unfold dynamicStep at stepped
  split at stepped
  · cases stepped
  · cases stepped
  · rename_i notLibrary notStatic
    cases call with
    | create ops name outcome =>
        obtain ⟨⟨status, out, after⟩, called, rfl⟩ := Option.map_eq_some_iff.mp stepped
        exact formed.create_kept visible called
    | destroy pointer mutexDestroy =>
        obtain ⟨⟨status, after⟩, called, rfl⟩ := Option.map_eq_some_iff.mp stepped
        cases pointer with
        | library index => exact absurd rfl (notStatic index mutexDestroy)
        | heap address =>
            obtain ⟨kind, allocated, -⟩ := Option.bind_eq_some_iff.mp called
            obtain ⟨slot, destroyStatus, found, destroyed⟩ := formed.destroy allocated mutexDestroy
            rw [destroyed] at called
            cases called
            exact formed.without_kept kind found

/-- Each guarded call rejects a used name. -/
theorem dynamicStep_rejects {call : RegistryCall} (formed : registry.WellFormed)
    (visible : usedNameVisible call registry) (stepped : dynamicStep call registry = some next) :
    rejectsUsedName call registry := by
  cases call with
  | destroy pointer mutexDestroy => trivial
  | create ops name outcome =>
      have dynamic : ops ≠ .library := by
        intro equal
        subst equal
        cases stepped
      exact formed.rejects dynamic visible

/-- Along every run whose creations can see each used name, the registry stays intact and rejects
every used name. -/
theorem registryRun_intact (calls : List RegistryCall)
    (visible : Guarded dynamicStep usedNameVisible Registry.initial calls) :
    Always dynamicStep Registry.Intact Registry.initial calls ∧
      Guarded dynamicStep rejectsUsedName Registry.initial calls := by
  have formed : Always dynamicStep Registry.WellFormed Registry.initial calls :=
    always_of_guarded dynamicStep
      (fun _ _ _ formed visible stepped => dynamicStep_wellFormed formed visible stepped)
      Registry.initial_wellFormed visible
  constructor
  · exact Always.imp dynamicStep (fun _ formed => formed.intact) formed
  · apply guarded_of_always dynamicStep _ formed visible
    intro call registry next formed visible stepped
    exact dynamicStep_rejects formed visible stepped

/-- Two kinds are created, the second is rejected when it is created again, and the first is
destroyed and created again. -/
def recreatedKinds : List RegistryCall :=
  [.create .fixed (fixedName 0x10000) (grantedAt 0x100),
    .create .pmem (pmemName 5) (grantedAt 0x200),
    .create .pmem (pmemName 5) (grantedAt 0x300),
    .destroy (.heap 0x100) .success,
    .create .fixed (fixedName 0x10000) (grantedAt 0x100)]

theorem registryRun_intact_recreated :
    Always dynamicStep Registry.Intact Registry.initial recreatedKinds ∧
      Guarded dynamicStep rejectsUsedName Registry.initial recreatedKinds :=
  registryRun_intact recreatedKinds (by decide +kernel)

/-- The second of two kinds is created again after the first has left a `NULL` slot before it. -/
def duplicatedName : List RegistryCall :=
  [.create .fixed (fixedName 0x10000) (grantedAt 0x100),
    .create .fixed (fixedName 0x20000) (grantedAt 0x200),
    .destroy (.heap 0x100) .success,
    .create .fixed (fixedName 0x20000) (grantedAt 0x300)]

/-- Both kinds with the name are in the map, and the destruction of the older one clears the slot
of the newer one and frees the kind of a slot that stays. -/
theorem duplicatedName_runs :
    ((runSteps dynamicStep Registry.initial duplicatedName).map fun registry =>
      (decide (registry.NameAt 23 (fixedName 0x20000)),
        decide (registry.NameAt 24 (fixedName 0x20000)))) = some (true, true) ∧
    ((runSteps dynamicStep Registry.initial
      (duplicatedName ++ [.destroy (.heap 0x200) .success])).map fun registry =>
      (registry.partitionMap 24, registry.kinds (.heap 0x200))) =
        some (some (.heap 0x200), none) := by
  decide +kernel

/-- The registry does not stay intact along that run. -/
theorem duplicatedName_not_intact :
    ¬Always dynamicStep Registry.NamesDistinct Registry.initial duplicatedName ∧
      ¬Always dynamicStep Registry.SlotsLive Registry.initial
        (duplicatedName ++ [.destroy (.heap 0x200) .success]) := by
  obtain ⟨created, destroyed⟩ := duplicatedName_runs
  constructor
  · intro always
    obtain ⟨final, ran, names⟩ := Option.map_eq_some_iff.mp created
    obtain ⟨first, second⟩ := Prod.mk.inj names
    have same := Always.final dynamicStep always ran 23 24 (fixedName 0x20000)
      (of_decide_eq_true first) (of_decide_eq_true second)
    exact absurd same (by decide)
  · intro always
    obtain ⟨final, ran, entries⟩ := Option.map_eq_some_iff.mp destroyed
    obtain ⟨stays, freed⟩ := Prod.mk.inj entries
    obtain ⟨kind, allocated, -⟩ := Always.final dynamicStep always ran 24 _ stays
    rw [freed] at allocated
    cases allocated

end Memkind
