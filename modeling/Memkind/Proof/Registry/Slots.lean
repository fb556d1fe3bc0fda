/-
This file keeps `num_kind` and the static slots through every call, successful or not.
-/

import Memkind.Proof.Registry.Invariant
import Memkind.Construction.Arena

namespace Memkind

open Library

variable {name : String} {registry : Registry} {ops : OpsTable} {outcome : CreateOutcome}
  {out : Option KindPtr} {status : Status}

/-- A kind of the library is no dynamic kind. -/
theorem KindPtr.library_ne_heap (index : Fin numStaticKinds) (address : Address) :
    KindPtr.library index ≠ .heap address := by
  intro same
  cases same

/-- `num_kind` counts the slots in use, and the first slots hold the static kinds. -/
structure Registry.SlotsCounted (registry : Registry) : Prop where
  counted : (registry.numKind : ℤ) = registry.occupied
  static : ∀ (slot : Slot) (inside : slot.val < numStaticKinds),
    registry.partitionMap slot = some (.library ⟨slot.val, inside⟩)

theorem Registry.initial_slotsCounted : Registry.initial.SlotsCounted where
  counted := Registry.initial_wellFormed.counted
  static _ inside := dif_pos inside

/-- The number of slots that are not `NULL`. -/
theorem Registry.occupied_eq_card (registry : Registry) :
    registry.occupied =
      (Finset.univ.filter fun slot => registry.partitionMap slot ≠ none).card := by
  rw [occupied, Finset.card_filter, Nat.cast_sum]
  apply Finset.sum_congr rfl
  intro slot _
  cases registry.partitionMap slot with
  | none => rfl
  | some pointer => rfl

/-- The search names a `NULL` slot, whatever the kinds of the other slots are. -/
theorem searchSlot_hole {slots : List Slot} {hole : Slot}
    (found : searchSlot registry name slots = some (.hole hole)) :
    registry.partitionMap hole = none := by
  induction slots with
  | nil => cases found
  | cons first rest ih =>
      unfold searchSlot at found
      split at found
      · rename_i empty
        cases found
        exact empty
      · obtain ⟨kind, -, found⟩ := Option.bind_eq_some_iff.mp found
        split at found
        · cases found
        · exact ih found

/-- The search reaches its end only when no slot is `NULL`. -/
theorem searchSlot_allOccupied {slots : List Slot}
    (found : searchSlot registry name slots = some .allOccupied) :
    ∀ slot ∈ slots, registry.partitionMap slot ≠ none := by
  induction slots with
  | nil =>
      intro slot member
      cases member
  | cons first rest ih =>
      unfold searchSlot at found
      split at found
      · cases found
      · rename_i pointer occupied
        obtain ⟨kind, -, found⟩ := Option.bind_eq_some_iff.mp found
        split at found
        · cases found
        · exact List.forall_mem_cons.mpr ⟨by simp [occupied], ih found⟩

section Counted

variable {registry next : Registry}

/-- The counter reaches its limit exactly when every slot is in use. -/
theorem Registry.SlotsCounted.full_iff (sound : registry.SlotsCounted) :
    registry.numKind = maxKind ↔ ∀ slot, registry.partitionMap slot ≠ none := by
  have counted := sound.counted
  constructor
  · intro most slot empty
    rw [registry.occupied_eq_card, most, Nat.cast_inj] at counted
    have everything := (Finset.card_eq_iff_eq_univ _).mp (counted.symm.trans (Fintype.card_fin _).symm)
    have member := everything ▸ Finset.mem_univ slot
    exact (Finset.mem_filter.mp member).2 empty
  · intro full
    rw [registry.occupied_full full] at counted
    exact_mod_cast counted

/-- A successful creation takes a `NULL` slot; the default index is never used. -/
theorem Registry.SlotsCounted.create_slot (sound : registry.SlotsCounted)
    (called : memkindCreate ops name outcome registry = some (.success, out, next)) :
    ∃ address hole, out = some (.heap address) ∧ registry.partitionMap hole = none ∧
      next = registry.stored ops name hole address := by
  obtain ⟨failed, -⟩ | ⟨address, hole, -, rfl, room, -, -, searched, rfl⟩ :=
    memkindCreate_cases called
  · exact absurd rfl failed
  · refine ⟨address, hole, rfl, ?_, rfl⟩
    cases searched with
    | inl found => exact searchSlot_hole found
    | inr found =>
        have full := searchSlot_allOccupied found
        exact absurd (sound.full_iff.mpr fun slot => full slot (List.mem_finRange slot)) room

theorem Registry.SlotsCounted.stored (sound : registry.SlotsCounted) (ops : OpsTable)
    (name : String) {hole : Slot} (address : Address) (empty : registry.partitionMap hole = none) :
    (registry.stored ops name hole address).SlotsCounted where
  counted := by
    rw [registry.stored_occupied ops name address empty, ← sound.counted]
    exact Nat.cast_succ registry.numKind
  static := by
    intro slot inside
    have kept := sound.static slot inside
    have different : slot ≠ hole := by
      intro equal
      subst equal
      rw [empty] at kept
      cases kept
    simpa [Registry.stored, different] using kept

theorem Registry.SlotsCounted.cleared (sound : registry.SlotsCounted) {slot : Slot}
    {entry : KindPtr} (pointer : KindPtr) (found : registry.partitionMap slot = some entry)
    (dynamic : numStaticKinds ≤ slot.val) : (registry.cleared slot pointer).SlotsCounted where
  counted := by
    have positive := registry.occupied_pos found
    have counted := sound.counted
    rw [registry.cleared_occupied pointer found]
    show ((registry.numKind - 1 : Nat) : ℤ) = registry.occupied - 1
    omega
  static := by
    intro other inside
    have different : other ≠ slot := by
      intro equal
      subst equal
      omega
    simpa [Registry.cleared, different] using sound.static other inside

/-- Every call keeps the counter and the static slots. -/
theorem registryStep_slotsCounted {call : RegistryCall} (sound : registry.SlotsCounted)
    (stepped : registryStep call registry = some next) : next.SlotsCounted := by
  cases call with
  | create ops name outcome =>
      obtain ⟨⟨status, out, after⟩, called, rfl⟩ := Option.map_eq_some_iff.mp stepped
      obtain ⟨-, rfl⟩ | ⟨-, -, rfl, -⟩ := memkindCreate_cases called
      · exact sound
      · obtain ⟨address, hole, -, empty, rfl⟩ := sound.create_slot called
        exact sound.stored ops name address empty
  | destroy pointer mutexDestroy =>
      obtain ⟨⟨status, after⟩, called, rfl⟩ := Option.map_eq_some_iff.mp stepped
      obtain ⟨kind, middle, -, released, searched⟩ := memkindDestroyKind_cases called
      have between : middle.SlotsCounted := by
        obtain ⟨-, rfl⟩ | ⟨-, -, rfl⟩ := released
        · exact sound
        · exact ⟨sound.counted, sound.static⟩
      obtain ⟨-, rfl⟩ | ⟨slot, found, rfl⟩ := searched
      · exact between
      · obtain ⟨member, entry, -, occupied, -⟩ := searchName_found found
        exact between.cleared pointer occupied ((mem_dynamicSlots slot).mp member)

end Counted

/-- A status that `memkind_arena_create_map` returns. `arena_config_init` leaves the error number
of `pthread_key_create`. -/
def ArenaMapStatus (status : Status) : Prop :=
  ∃ settings keyCreate metadataUseHooks outcome pointer state created next,
    memkindArenaCreateMap settings (Option.elim keyCreate .success .errno) metadataUseHooks outcome
      pointer state = some (status, created, next)

theorem createArenas_ne_tooMany {pointer : KindPtr} {metadataUseHooks : Bool}
    {outcome : Nat → ArenaOutcome} {remaining i : Nat} {state next : ArenaState}
    {created : List Nat}
    (called : createArenas pointer metadataUseHooks outcome remaining i state =
      some (status, created, next)) : status ≠ .errorTooMany := by
  induction remaining generalizing i state created with
  | zero =>
      obtain ⟨rfl, -⟩ := called
      decide
  | succ remaining ih =>
      unfold createArenas at called
      split at called
      · obtain ⟨rfl, -⟩ := called
        decide
      · split at called
        · obtain ⟨rfl, -⟩ := called
          exact nofun
        · split at called
          · cases called
          · obtain ⟨⟨tailStatus, rest, after⟩, looped, result⟩ := Option.map_eq_some_iff.mp called
            obtain ⟨rfl, -⟩ := result
            exact ih looped

theorem ArenaMapStatus.ne_tooMany (possible : ArenaMapStatus status) :
    status ≠ .errorTooMany := by
  obtain ⟨settings, keyCreate, metadataUseHooks, outcome, pointer, state, created, next, called⟩ :=
    possible
  cases keyCreate with
  | some error =>
      obtain ⟨rfl, -⟩ := called
      exact nofun
  | none =>
      unfold memkindArenaCreateMap at called
      simp only [Option.elim, ne_eq, not_true_eq_false, if_false] at called
      split at called
      · exact createArenas_ne_tooMany called
      · rename_i err kind failed sized
        obtain ⟨rfl, -⟩ := called
        intro equal
        subst equal
        unfold memkindSetArenaMapLen at sized
        repeat' split at sized
        all_goals cases sized

/-- No operation table has another way to return `MEMKIND_ERROR_TOOMANY`. -/
theorem opsCreate_ne_tooMany (ops : OpsTable) (name : String)
    (possible : ArenaMapStatus outcome.arenaMap) : ops.create name outcome ≠ .errorTooMany := by
  have named : memkindDefaultCreate name ≠ .errorTooMany := by
    unfold memkindDefaultCreate
    split
    · decide
    · decide
  have dynamic : dynamicCreate name outcome ≠ .errorTooMany := by
    unfold dynamicCreate
    split
    · decide
    · split
      · decide
      · split
        · exact named
        · exact possible.ne_tooMany
  cases ops with
  | library => exact named
  | pmem => exact dynamic
  | fixed => exact dynamic

theorem createAt_ne_tooMany {slot : Slot} {next : Registry}
    (possible : ArenaMapStatus outcome.arenaMap)
    (called : createAt ops name outcome slot registry = some (status, out, next)) :
    status ≠ .errorTooMany := by
  unfold createAt at called
  split at called
  · obtain ⟨rfl, -⟩ := called
    decide
  · split at called
    · cases called
    · split at called
      · obtain ⟨rfl, -⟩ := called
        exact opsCreate_ne_tooMany ops name possible
      · obtain ⟨rfl, -⟩ := called
        decide

/-- Only the test of `num_kind` returns `MEMKIND_ERROR_TOOMANY`. -/
theorem memkindCreate_tooMany_iff {next : Registry} (possible : ArenaMapStatus outcome.arenaMap)
    (called : memkindCreate ops name outcome registry = some (status, out, next)) :
    status = .errorTooMany ↔ registry.numKind = maxKind := by
  unfold memkindCreate at called
  split at called
  · rename_i most
    obtain ⟨rfl, -⟩ := called
    simp [most]
  · rename_i room
    refine iff_of_false ?_ room
    split at called
    · obtain ⟨rfl, -⟩ := called
      decide
    · obtain ⟨search, -, called⟩ := Option.bind_eq_some_iff.mp called
      cases search with
      | nameInUse =>
          obtain ⟨rfl, -⟩ := called
          decide
      | hole slot => exact createAt_ne_tooMany possible called
      | allOccupied => exact createAt_ne_tooMany possible called

/-- After every sequence of creations and destructions `num_kind` is the number of slots that are
not `NULL`, the static kinds are in place, a full map refuses every creation, and the next call of
`memkind_create` returns `MEMKIND_ERROR_TOOMANY` exactly for a full map and succeeds only by
filling a `NULL` slot. -/
theorem registryRun_slots (calls : List RegistryCall) (registry : Registry)
    (ran : runSteps registryStep Registry.initial calls = some registry) :
    registry.numKind = (Finset.univ.filter fun slot => registry.partitionMap slot ≠ none).card ∧
    (∀ (slot : Slot) (inside : slot.val < numStaticKinds),
      registry.partitionMap slot = some (.library ⟨slot.val, inside⟩)) ∧
    ((∀ slot, registry.partitionMap slot ≠ none) → ∀ ops name outcome,
      memkindCreate ops name outcome registry = some (.errorTooMany, none, registry)) ∧
    ∀ ops name outcome status out next, ArenaMapStatus outcome.arenaMap →
      memkindCreate ops name outcome registry = some (status, out, next) →
      (status = .errorTooMany ↔ ∀ slot, registry.partitionMap slot ≠ none) ∧
      (status ≠ .success → next = registry) ∧
      (status = .success → ∃ hole pointer, registry.partitionMap hole = none ∧
        out = some pointer ∧
        next.partitionMap = Function.update registry.partitionMap hole (some pointer)) := by
  have sound : registry.SlotsCounted := by
    apply runSteps_invariant registryStep Registry.SlotsCounted _ Registry.initial_slotsCounted ran
    intro call state next before stepped
    exact registryStep_slotsCounted before stepped
  refine ⟨?_, sound.static, ?_, ?_⟩
  · have counted := sound.counted
    rw [registry.occupied_eq_card] at counted
    exact_mod_cast counted
  · intro full ops name outcome
    rw [memkindCreate, if_pos (sound.full_iff.mpr full)]
  · intro ops name outcome status out next possible called
    refine ⟨(memkindCreate_tooMany_iff possible called).trans sound.full_iff, ?_, ?_⟩
    · intro failed
      obtain ⟨-, unchanged⟩ | ⟨-, -, success, -⟩ := memkindCreate_cases called
      · exact unchanged
      · exact absurd success failed
    · intro success
      subst success
      obtain ⟨address, hole, stored, empty, rfl⟩ := sound.create_slot called
      exact ⟨hole, .heap address, empty, stored, rfl⟩

/-- Two kinds are created, the first one is destroyed, and a creation without memory fails. -/
theorem registryRun_slots_three_calls :
    ∃ registry, runSteps registryStep Registry.initial
        [.create .fixed (fixedName 0x10000) (grantedAt 0x100),
          .create .pmem (pmemName 5) (grantedAt 0x200),
          .destroy (.heap 0x100) .success,
          .create .pmem (pmemName 6) ⟨none, true, true, .success⟩] = some registry ∧
      registry.numKind = 24 ∧
      registry.numKind =
        (Finset.univ.filter fun slot => registry.partitionMap slot ≠ none).card := by
  have counted : (runSteps registryStep Registry.initial
      [.create .fixed (fixedName 0x10000) (grantedAt 0x100),
        .create .pmem (pmemName 5) (grantedAt 0x200),
        .destroy (.heap 0x100) .success,
        .create .pmem (pmemName 6) ⟨none, true, true, .success⟩]).map Registry.numKind =
      some 24 := by
    decide +kernel
  obtain ⟨registry, ran, number⟩ := Option.map_eq_some_iff.mp counted
  exact ⟨registry, ran, number, (registryRun_slots _ registry ran).1⟩

/-- The partitions of the static kinds, and one above them for the others. -/
def builtPartition : KindPtr → Nat
  | .library index => index.val
  | .heap _ => numStaticKinds

/-- The static kinds have the partitions below `MEMKIND_NUM_STATIC_KINDS`. -/
structure StaticPartitions (partition : KindPtr → Nat) : Prop where
  static : ∀ index, partition (.library index) = index.val
  dynamic : ∀ address, numStaticKinds ≤ partition (.heap address)

theorem builtPartition_static : StaticPartitions builtPartition :=
  ⟨fun _ => rfl, fun _ => le_refl _⟩

/-- The field `partition` of a kind. -/
def Registry.partition (registry : Registry) (pointer : KindPtr) : Nat :=
  ((registry.kinds pointer).map Kind.partition).getD (builtPartition pointer)

section Partitions

variable {registry next : Registry}

/-- The static kinds alone keep `num_kind` above the static partitions. -/
theorem Registry.SlotsCounted.static_le_numKind (sound : registry.SlotsCounted) :
    numStaticKinds ≤ registry.numKind := by
  have counted := sound.counted
  rw [registry.occupied_eq_card] at counted
  have injected : Set.InjOn (Fin.castLE (by decide : numStaticKinds ≤ maxKind))
      (Finset.univ : Finset (Fin numStaticKinds)) :=
    (Fin.castLE_injective _).injOn
  have enough := Finset.card_le_card_of_injOn
    (t := Finset.univ.filter fun slot => registry.partitionMap slot ≠ none) _
    (fun index _ => by
      simp [sound.static (Fin.castLE (by decide : numStaticKinds ≤ maxKind) index) index.isLt])
    injected
  rw [Finset.card_univ, Fintype.card_fin] at enough
  omega

theorem Registry.partition_stored (ops : OpsTable) (name : String) (slot : Slot)
    (address : Address) : (registry.stored ops name slot address).partition =
      Function.update registry.partition (.heap address) registry.numKind := by
  funext pointer
  by_cases same : pointer = .heap address
  · simp [partition, stored, same]
  · simp [partition, stored, same]

theorem Registry.partition_releasedKind {pointer : KindPtr} {kind : Kind}
    (allocated : registry.kinds pointer = some kind) :
    (registry.releasedKind pointer kind).partition = registry.partition := by
  funext other
  by_cases same : other = pointer
  · simp [partition, releasedKind, same, allocated]
  · simp [partition, releasedKind, same]

theorem Registry.partition_cleared (slot : Slot) (pointer : KindPtr) :
    (registry.cleared slot pointer).partition =
      Function.update registry.partition pointer (builtPartition pointer) := by
  funext other
  by_cases same : other = pointer
  · simp [partition, cleared, same]
  · simp [partition, cleared, same]

/-- A kind whose memory is gone counts as one with its place. -/
theorem StaticPartitions.update_built {partition : KindPtr → Nat}
    (static : StaticPartitions partition) (pointer : KindPtr) :
    StaticPartitions (Function.update partition pointer (builtPartition pointer)) where
  static index := by
    by_cases same : KindPtr.library index = pointer
    · rw [← same, Function.update_self]
      rfl
    · rw [Function.update_of_ne same]
      exact static.static index
  dynamic address := by
    by_cases same : KindPtr.heap address = pointer
    · rw [← same, Function.update_self]
      exact le_refl _
    · rw [Function.update_of_ne same]
      exact static.dynamic address

/-- Every call leaves the partitions of the static kinds to them. -/
theorem registryStep_staticPartitions {call : RegistryCall} (sound : registry.SlotsCounted)
    (static : StaticPartitions registry.partition)
    (stepped : registryStep call registry = some next) : StaticPartitions next.partition := by
  cases call with
  | create ops name outcome =>
      obtain ⟨⟨status, out, after⟩, called, rfl⟩ := Option.map_eq_some_iff.mp stepped
      obtain ⟨-, rfl⟩ | ⟨address, slot, -, -, -, -, -, -, rfl⟩ := memkindCreate_cases called
      · exact static
      · show StaticPartitions (registry.stored ops name slot address).partition
        rw [Registry.partition_stored]
        refine ⟨fun index => ?_, fun other => ?_⟩
        · have other := KindPtr.library_ne_heap index address
          rw [Function.update_of_ne other]
          exact static.static index
        · by_cases same : KindPtr.heap other = .heap address
          · rw [same, Function.update_self]
            exact sound.static_le_numKind
          · rw [Function.update_of_ne same]
            exact static.dynamic other
  | destroy pointer mutexDestroy =>
      obtain ⟨⟨status, after⟩, called, rfl⟩ := Option.map_eq_some_iff.mp stepped
      obtain ⟨kind, middle, allocated, released, searched⟩ := memkindDestroyKind_cases called
      have between : StaticPartitions middle.partition := by
        obtain ⟨-, rfl⟩ | ⟨-, -, rfl⟩ := released
        · exact static
        · rw [Registry.partition_releasedKind allocated]
          exact static
      obtain ⟨-, rfl⟩ | ⟨slot, -, rfl⟩ := searched
      · exact between
      · show StaticPartitions (middle.cleared slot pointer).partition
        rw [Registry.partition_cleared]
        exact between.update_built pointer

/-- In every reachable registry no dynamic kind has a partition of the static kinds. -/
theorem registryRun_staticPartitions (calls : List RegistryCall)
    (ran : runSteps registryStep Registry.initial calls = some registry) :
    StaticPartitions registry.partition := by
  have start : StaticPartitions Registry.initial.partition :=
    ⟨fun _ => rfl, fun _ => le_refl _⟩
  have kept : ∀ (call : RegistryCall) (before after : Registry),
      before.SlotsCounted ∧ StaticPartitions before.partition →
      registryStep call before = some after →
      after.SlotsCounted ∧ StaticPartitions after.partition := by
    rintro call before after ⟨sound, static⟩ stepped
    exact ⟨registryStep_slotsCounted sound stepped,
      registryStep_staticPartitions sound static stepped⟩
  exact (runSteps_invariant registryStep
    (fun registry => registry.SlotsCounted ∧ StaticPartitions registry.partition) kept
    ⟨Registry.initial_slotsCounted, start⟩ ran).2

end Partitions

end Memkind
