/-
This file follows the kinds and their arenas through the life of a process.
-/

import Memkind.Construction.Finalize
import Memkind.Proof.Arena.Ownership
import Memkind.Proof.Registry.Names
import Memkind.Proof.Registry.Slots

namespace Memkind

open Library

section Arenas

variable {len : Nat} {arena next : ArenaState} {created : KindPtr → Option (List Nat)}
  {pointer : KindPtr}

/-- Every arena that was created for memkind and not destroyed is in `arena_registry_g`. -/
def ArenaState.Registered (arena : ArenaState) : Prop :=
  ∀ index, arena.jemalloc.initialized index = true → arena.arenaRegistry index ≠ none

/-- The arenas belong to the kinds of a list of creations. -/
structure ArenaState.Owned (len : Nat) (arena : ArenaState)
    (created : KindPtr → Option (List Nat)) : Prop where
  sound : ∃ free, ArenaRun.Sound len (autoArenas + 1) ⟨arena, created⟩ free
  registered : arena.Registered

theorem destroyArenas_registered {arenaZero remaining i : Nat} (registered : arena.Registered)
    (called : destroyArenas arenaZero remaining i arena = some next) : next.Registered := by
  induction remaining generalizing i arena with
  | zero =>
      obtain rfl := Option.some.inj called
      exact registered
  | succ remaining ih =>
      rw [destroyArenas] at called
      split at called
      · cases called
      · refine ih ?_ called
        intro index initialized
        by_cases same : index = (arenaZero + i) % 2 ^ 32
        · subst same
          simp only [arenaIDestroy] at initialized
          split at initialized
          · simp at initialized
          · contradiction
        · simp only [Function.update_of_ne same]
          refine registered index ?_
          simp only [arenaIDestroy] at initialized
          split at initialized
          · exact (Function.update_of_ne same _ _).symm.trans initialized
          · exact initialized

/-- A kind without arenas may get another record. -/
theorem ArenaState.Owned.record (owned : arena.Owned len created) (dead : created pointer = none)
    (record : ArenaKind) :
    ArenaState.Owned len { arena with kinds := Function.update arena.kinds pointer record }
      created := by
  obtain ⟨⟨free, sound⟩, registered⟩ := owned
  have other : ∀ live : KindPtr, (created live).isSome → live ≠ pointer := by
    rintro live isLive rfl
    rw [dead] at isLive
    cases isLive
  have kinds : ∀ live : KindPtr, (created live).isSome →
      Function.update arena.kinds pointer record live = arena.kinds live :=
    fun live isLive => Function.update_of_ne (other live isLive) _ _
  have bases : ArenaRun.bases
      ⟨{ arena with kinds := Function.update arena.kinds pointer record }, created⟩ =
        ArenaRun.bases ⟨arena, created⟩ := by
    funext live
    cases found : created live with
    | none => simp [ArenaRun.bases, found]
    | some indices => simp [ArenaRun.bases, found, kinds live (Option.isSome_of_mem found)]
  have range : ∀ live : KindPtr, (created live).isSome → ∀ index,
      ArenaRun.InRange ⟨{ arena with kinds := Function.update arena.kinds pointer record }, created⟩
        len live index ↔ ArenaRun.InRange ⟨arena, created⟩ len live index := by
    intro live isLive index
    simp only [ArenaRun.InRange, kinds live isLive]
  refine ⟨⟨free, ⟨?_, sound.low, ?_, ?_, ?_, ?_, ?_, ?_⟩⟩, registered⟩
  · rw [bases]
    exact sound.blocks
  · intro live indices found index
    rw [range live (Option.isSome_of_mem found)]
    exact sound.created live indices found index
  · intro live isLive
    simp only [kinds live isLive]
    exact sound.sized live isLive
  · intro live isLive
    simp only [kinds live isLive]
    exact sound.within live isLive
  · intro live index isLive inside
    exact sound.initialized live index isLive ((range live isLive index).mp inside)
  · intro live index isLive inside
    exact sound.registered live index isLive ((range live isLive index).mp inside)
  · intro index outside
    exact sound.unregistered index fun live isLive inside =>
      outside live isLive ((range live isLive index).mpr inside)

/-- A kind with arenas has `len` of them. -/
theorem ArenaState.Owned.mapLen (owned : arena.Owned len created)
    (live : (created pointer).isSome) : 0 < len ∧ (arena.kinds pointer).arenaMapLen = len := by
  obtain ⟨⟨free, sound⟩, -⟩ := owned
  obtain ⟨positive, -, sized, -⟩ := sound.sized pointer live
  exact ⟨positive, sized⟩

/-- The arenas of a kind can be destroyed. -/
theorem ArenaState.Owned.destroy (owned : arena.Owned len created)
    (live : (created pointer).isSome) :
    ∃ next, memkindArenaDestroy pointer arena = some next ∧
      next.Owned len (Function.update created pointer none) := by
  obtain ⟨positive, sized⟩ := owned.mapLen live
  obtain ⟨⟨free, sound⟩, registered⟩ := owned
  obtain ⟨next, looped, -⟩ := @destroyArenas_range (arena.kinds pointer).arenaZero len 0 arena
    (sound.within pointer live)
    (fun index low high => sound.initialized pointer index live ⟨low, high⟩)
  have called : memkindArenaDestroy pointer arena = some next := by
    rw [memkindArenaDestroy, sized, if_pos (by omega), looped]
  exact ⟨next, called, sound.destroy_kept live called, destroyArenas_registered registered looped⟩

/-- Without an owner there is no arena. -/
theorem ArenaState.Owned.none_left (owned : arena.Owned len created)
    (dead : ∀ pointer, created pointer = none) (index : Nat) :
    arena.arenaRegistry index = none ∧ arena.jemalloc.initialized index = false := by
  obtain ⟨⟨free, sound⟩, registered⟩ := owned
  have empty : arena.arenaRegistry index = none := by
    refine sound.unregistered index ?_
    intro pointer live
    simp [ArenaRun.Live, dead pointer] at live
  refine ⟨empty, Bool.eq_false_of_not_eq_true ?_⟩
  intro initialized
  exact registered index initialized empty

end Arenas

section Processes

variable {manager : HeapManager} {len : Nat} {process next : Process} {pointer : KindPtr}
  {created : KindPtr → Option (List Nat)} {settings : ArenaSettings} {arenas : Nat → ArenaOutcome}

/-- What the creation of the arenas of a kind changes. -/
theorem Process.createMap_owned (owned : process.arena.Owned len created)
    (idle : created pointer = none) {metadataUseHooks : Bool}
    (called : process.createMap len settings metadataUseHooks arenas pointer = some next) :
    next = { process with arena := next.arena } ∧
      (∀ other, other ≠ pointer → next.arena.kinds other = process.arena.kinds other) ∧
      ∃ indices, next.arena.Owned len (Function.update created pointer (some indices)) := by
  unfold createMap at called
  split at called
  · rename_i indices arena mapped
    split at called
    · rename_i sized
      obtain rfl := Option.some.inj called
      obtain ⟨⟨free, sound⟩, registered⟩ := owned
      refine ⟨rfl, fun other => memkindArenaCreateMap_other mapped, indices,
        sound.create_kept idle mapped sized, ?_⟩
      obtain ⟨kind, -, effect⟩ := memkindArenaCreateMap_success mapped
      intro index initialized
      rw [effect.initialized, Bool.or_eq_true_iff, decide_eq_true_iff] at initialized
      rw [effect.registry]
      split
      · exact Option.some_ne_none _
      · rename_i foreign
        exact registered index (initialized.resolve_left foreign)
    · cases called
  · cases called

/-- A kind has arenas: a static kind from its initialization on, and a dynamic kind always. -/
def Process.HasArenas (process : Process) : KindPtr → Prop
  | .library index => (process.arena.kinds (.library index)).arenaMapLen ≠ 0
  | .heap address => (process.registry.kinds (.heap address)).isSome

/-- The invariant of the life of a process. -/
structure Process.Sound (len : Nat) (process : Process) : Prop where
  formed : process.registry.WellFormed
  slots : process.registry.SlotsCounted
  statics : ∀ index, process.registry.kinds (.library index) = some (staticKind index)
  owned : ∃ created, process.arena.Owned len created ∧
    ∀ pointer, (created pointer).isSome ↔ process.HasArenas pointer
  noDefault : (process.arena.kinds memkindDefault).arenaMapLen = 0
  pooled : ∀ index, process.pools index = true →
    (process.arena.kinds (.library index)).arenaMapLen = 0

theorem Process.initial_sound (manager : HeapManager) (len : Nat) (getArena : KindPtr → GetArena)
    (others : Nat) : (Process.initial manager getArena others).Sound len where
  formed := Registry.initial_wellFormed
  slots := Registry.initial_slotsCounted
  statics _ := rfl
  owned := by
    refine ⟨fun _ => none, ⟨⟨[], ArenaRun.initial_sound len (autoArenas + 1) _⟩, nofun⟩, ?_⟩
    rintro (index | address)
    · simp [HasArenas, initial, ArenaKind.blank]
    · simp [HasArenas, initial, Registry.initial]
  noDefault := rfl
  pooled _ := nofun

theorem Registry.stored_kinds (registry : Registry) (ops : OpsTable) (name : String) (slot : Slot)
    (address : Address) : (registry.stored ops name slot address).kinds =
      Function.update registry.kinds (.heap address)
        (some ⟨ops, registry.numKind, name, false⟩) := rfl

theorem Process.blankKind_kinds (process : Process) (pointer : KindPtr) :
    (process.blankKind pointer).arena.kinds =
      Function.update process.arena.kinds pointer (.blank .thread) := rfl

/-- A dynamic kind has been stored and has got its arenas. -/
theorem Process.Sound.stored (sound : process.Sound len) {ops : OpsTable} {name : String}
    {slot : Slot} {address : Address} {registry : Registry}
    (isStored : registry = process.registry.stored ops name slot address)
    (formed : registry.WellFormed) (slots : registry.SlotsCounted)
    (unused : process.registry.kinds (.heap address) = none)
    (called : (process.blankKind (.heap address)).createMap len settings false arenas
      (.heap address) = some next) : Process.Sound len { next with registry } := by
  obtain ⟨created, owned, has⟩ := sound.owned
  have idle : created (.heap address) = none := by
    have absent := mt (has (.heap address)).mp (by simp [HasArenas, unused])
    simpa using absent
  obtain ⟨same, kinds, indices, nextOwned⟩ := Process.createMap_owned
    (owned.record idle (.blank .thread)) idle called
  have static : ∀ index,
      next.arena.kinds (.library index) = process.arena.kinds (.library index) := by
    intro index
    have different := KindPtr.library_ne_heap index address
    rw [kinds _ different, blankKind_kinds, Function.update_of_ne different]
  refine ⟨formed, slots, ?_, ⟨_, nextOwned, ?_⟩, ?_, ?_⟩
  · intro index
    have different := KindPtr.library_ne_heap index address
    show registry.kinds _ = _
    rw [isStored, Registry.stored_kinds, Function.update_of_ne different, sound.statics]
  · rintro (index | other)
    · have different := KindPtr.library_ne_heap index address
      rw [Function.update_of_ne different, has, HasArenas, HasArenas, static]
    · show _ ↔ (registry.kinds (.heap other)).isSome
      rw [isStored, Registry.stored_kinds]
      by_cases same : KindPtr.heap other = .heap address
      · rw [same, Function.update_self, Function.update_self]
        exact iff_of_true rfl rfl
      · rw [Function.update_of_ne same, Function.update_of_ne same, has, HasArenas]
  · show (next.arena.kinds memkindDefault).arenaMapLen = 0
    rw [memkindDefault, static]
    exact sound.noDefault
  · intro index pool
    show (next.arena.kinds (.library index)).arenaMapLen = 0
    rw [static]
    refine sound.pooled index ?_
    rw [same] at pool
    exact pool

/-- `memkind_create` -/
theorem Process.Sound.create (sound : process.Sound len) {ops : OpsTable} {name : String}
    {outcome : CreateOutcome}
    (visible : usedNameVisible (.create ops name outcome) process.registry)
    (called : process.create len ops name outcome settings arenas = some next) :
    next.Sound len := by
  unfold Process.create at called
  split at called
  · rename_i pointer registry stored
    have formed : registry.WellFormed := by
      refine sound.formed.create_kept ?_ stored
      simp only [usedNameVisible] at visible ⊢
      exact visible
    obtain ⟨address, hole, isNew, empty, isStored⟩ := sound.slots.create_slot stored
    obtain rfl := Option.some.inj isNew
    have slots : registry.SlotsCounted := by
      rw [isStored]
      exact sound.slots.stored ops name address empty
    have unused : process.registry.kinds (.heap address) = none := by
      obtain ⟨failed, -⟩ | ⟨other, -, -, same, -, -, unused, -⟩ := memkindCreate_cases stored
      · exact absurd rfl failed
      · obtain rfl := KindPtr.heap.inj (Option.some.inj same)
        exact unused
    obtain ⟨middle, mapped, rfl⟩ := Option.map_eq_some_iff.mp called
    exact sound.stored isStored formed slots unused mapped
  · rename_i status out registry failed stored
    obtain rfl := Option.some.inj called
    obtain ⟨-, rfl⟩ | ⟨address, slot, rfl, rfl, -⟩ := memkindCreate_cases stored
    · exact sound
    · exact (failed _ rfl rfl).elim
  · cases called

/-- The kind of a slot has gone, and so have its arenas. -/
theorem Process.Sound.without (sound : process.Sound len) {address : Address} {kind : Kind}
    {slot : Slot} (found : process.registry.partitionMap slot = some (.heap address))
    {arena : ArenaState} (destroyed : memkindArenaDestroy (.heap address) process.arena =
      some arena) :
    Process.Sound len { process with
      registry := process.registry.without kind slot address, arena } := by
  obtain ⟨created, owned, has⟩ := sound.owned
  obtain ⟨stored, allocated, -⟩ := sound.formed.slotsLive slot _ found
  have live : (created (.heap address)).isSome :=
    (has (.heap address)).mpr (Option.isSome_of_mem allocated)
  obtain ⟨after, isDestroyed, nextOwned⟩ := owned.destroy live
  rw [destroyed] at isDestroyed
  obtain rfl := Option.some.inj isDestroyed
  have kinds := memkindArenaDestroy_kinds destroyed
  have dynamic : numStaticKinds ≤ slot.val := by
    by_contra inside
    rw [sound.slots.static slot (Nat.lt_of_not_le inside)] at found
    cases found
  refine ⟨sound.formed.without_kept kind found, ?_, ?_, ⟨_, nextOwned, ?_⟩, ?_, ?_⟩
  · have released : (process.registry.releasedKind (.heap address) kind).SlotsCounted :=
      ⟨sound.slots.counted, sound.slots.static⟩
    exact released.cleared (.heap address) found dynamic
  · intro index
    have different := KindPtr.library_ne_heap index address
    show (process.registry.without kind slot address).kinds _ = _
    rw [Registry.without_kinds _ _ _ different, sound.statics]
  · rintro (index | other)
    · have different := KindPtr.library_ne_heap index address
      show _ ↔ (arena.kinds (.library index)).arenaMapLen ≠ 0
      rw [Function.update_of_ne different, has, HasArenas, kinds]
    · show _ ↔ ((process.registry.without kind slot address).kinds (.heap other)).isSome
      by_cases same : KindPtr.heap other = .heap address
      · rw [same, Function.update_self]
        simp [Registry.without, Registry.cleared]
      · rw [Function.update_of_ne same, has, HasArenas, Registry.without_kinds _ _ _ same]
  · show (arena.kinds memkindDefault).arenaMapLen = 0
    rw [kinds]
    exact sound.noDefault
  · show ∀ index, process.pools index = true → (arena.kinds (.library index)).arenaMapLen = 0
    rw [kinds]
    exact sound.pooled

/-- `memkind_destroy_kind` -/
theorem Process.Sound.destroyKind (sound : process.Sound len) {address : Address}
    {mutexDestroy : Status} (called : process.destroyKind address mutexDestroy = some next) :
    next.Sound len := by
  obtain ⟨arena, destroyed, rest⟩ := Option.bind_eq_some_iff.mp called
  obtain ⟨⟨status, registry⟩, removed, rfl⟩ := Option.map_eq_some_iff.mp rest
  obtain ⟨kind, allocated, -⟩ := Option.bind_eq_some_iff.mp removed
  obtain ⟨slot, after, found, isRemoved⟩ := sound.formed.destroy allocated mutexDestroy
  rw [removed] at isRemoved
  obtain ⟨-, rfl⟩ := isRemoved
  exact sound.without found destroyed

/-- `heap_manager_init` -/
theorem Process.Sound.init (sound : process.Sound len) {index : Fin numStaticKinds}
    (called : process.init len manager index settings arenas = some next) : next.Sound len := by
  unfold Process.init at called
  split at called
  · cases called
  · rename_i idle
    rw [Process.initialized, Bool.or_eq_true_iff, decide_eq_true_iff, not_or, not_not] at idle
    obtain ⟨noPool, unsized⟩ := idle
    split at called
    · split at called
      · obtain rfl := Option.some.inj called
        exact sound
      · rename_i notDefault
        obtain ⟨created, owned, has⟩ := sound.owned
        have dead : created (.library index) = none := by
          have absent := mt (has (.library index)).mp (not_not_intro unsized)
          simpa using absent
        obtain ⟨same, kinds, indices, nextOwned⟩ := Process.createMap_owned owned dead called
        rw [same]
        refine ⟨sound.formed, sound.slots, sound.statics, ⟨_, nextOwned, ?_⟩, ?_, ?_⟩
        · rintro (other | address)
          · show _ ↔ (next.arena.kinds (.library other)).arenaMapLen ≠ 0
            by_cases isNew : KindPtr.library other = .library index
            · have live : (Function.update created (.library index) (some indices)
                  (.library other)).isSome := by
                rw [isNew, Function.update_self]
                rfl
              obtain ⟨positive, sized⟩ := nextOwned.mapLen live
              exact iff_of_true live (by omega)
            · rw [Function.update_of_ne isNew, has, HasArenas, kinds _ isNew]
          · have different := (KindPtr.library_ne_heap index address).symm
            rw [Function.update_of_ne different, has, HasArenas, HasArenas]
        · show (next.arena.kinds memkindDefault).arenaMapLen = 0
          rw [kinds _ (Ne.symm notDefault)]
          exact sound.noDefault
        · intro other pool
          have different : KindPtr.library other ≠ .library index := by
            intro isNew
            obtain rfl := KindPtr.library.inj isNew
            exact noPool pool
          show (next.arena.kinds (.library other)).arenaMapLen = 0
          rw [kinds _ different]
          exact sound.pooled other pool
    · obtain rfl := Option.some.inj called
      refine ⟨sound.formed, sound.slots, sound.statics, sound.owned, sound.noDefault, ?_⟩
      intro other pool
      by_cases isNew : other = index
      · rw [isNew]
        exact unsized
      · exact sound.pooled other ((Function.update_of_ne isNew _ _).symm.trans pool)

/-- Before a creation, every name in use stands before the first `NULL` slot. -/
def namesVisible (call : ProcessCall) (process : Process) : Prop :=
  match call with
  | .create ops name outcome _ _ => usedNameVisible (.create ops name outcome) process.registry
  | _ => True

instance (call : ProcessCall) (process : Process) : Decidable (namesVisible call process) := by
  unfold namesVisible
  split <;> infer_instance

/-- Every call of a process keeps the invariant. -/
theorem processStep_sound {call : ProcessCall} (sound : process.Sound len)
    (visible : namesVisible call process)
    (stepped : processStep manager len call process = some next) : next.Sound len := by
  unfold processStep at stepped
  split at stepped
  · cases stepped
  · exact sound.create visible stepped
  · exact sound.destroyKind stepped
  · exact sound.init stepped

/-- The manager decides about the pools, and the library stays loaded before the end. -/
structure Process.Managed (manager : HeapManager) (others : Nat) (process : Process) : Prop where
  references : process.references = if manager = .tbb then others + 1 else others
  pools : manager = .arena → ∀ index, process.pools index = false

theorem Process.createMap_process {metadataUseHooks : Bool}
    (called : process.createMap len settings metadataUseHooks arenas pointer = some next) :
    next.pools = process.pools ∧ next.references = process.references := by
  unfold createMap at called
  split at called
  · split at called
    · obtain rfl := Option.some.inj called
      exact ⟨rfl, rfl⟩
    · cases called
  · cases called

theorem processStep_managed {others : Nat} {call : ProcessCall}
    (managed : process.Managed manager others)
    (stepped : processStep manager len call process = some next) :
    next.Managed manager others := by
  have same : next.pools = process.pools → next.references = process.references →
      next.Managed manager others := by
    rintro pools references
    refine ⟨references.trans managed.references, ?_⟩
    rw [pools]
    exact managed.pools
  unfold processStep at stepped
  split at stepped
  · cases stepped
  · unfold Process.create at stepped
    split at stepped
    · obtain ⟨middle, mapped, rfl⟩ := Option.map_eq_some_iff.mp stepped
      obtain ⟨pools, references⟩ := Process.createMap_process mapped
      exact same pools references
    · obtain rfl := Option.some.inj stepped
      exact same rfl rfl
    · cases stepped
  · obtain ⟨arena, -, rest⟩ := Option.bind_eq_some_iff.mp stepped
    obtain ⟨registry, -, rfl⟩ := Option.map_eq_some_iff.mp rest
    exact same rfl rfl
  · unfold Process.init at stepped
    split at stepped
    · cases stepped
    · split at stepped
      · split at stepped
        · obtain rfl := Option.some.inj stepped
          exact managed
        · obtain ⟨pools, references⟩ := Process.createMap_process stepped
          exact same pools references
      · obtain rfl := Option.some.inj stepped
        exact ⟨managed.references, nofun⟩

/-- The invariants along a run whose creations can see the names in use. -/
theorem processRun_sound {getArena : KindPtr → GetArena} {others : Nat} {calls : List ProcessCall}
    (visible : Guarded (processStep manager len) namesVisible
      (Process.initial manager getArena others) calls)
    (ran : runSteps (processStep manager len) (Process.initial manager getArena others) calls =
      some process) : process.Sound len ∧ process.Managed manager others := by
  have start : (Process.initial manager getArena others).Sound len ∧
      (Process.initial manager getArena others).Managed manager others :=
    ⟨Process.initial_sound manager len getArena others, rfl, fun _ _ => rfl⟩
  have always : Always (processStep manager len)
      (fun process => process.Sound len ∧ process.Managed manager others)
      (Process.initial manager getArena others) calls := by
    refine always_of_guarded _ ?_ start visible
    rintro call before after ⟨sound, managed⟩ isVisible stepped
    exact ⟨processStep_sound sound isVisible stepped, processStep_managed managed stepped⟩
  exact always.final _ ran

end Processes

end Memkind
