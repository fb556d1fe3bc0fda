/-
This file proves what `memkind_finalize` leaves at the end of a process.
-/

import Memkind.Proof.Registry.Process

namespace Memkind

open Library

variable {index : Fin numStaticKinds} {middle : Process}

section Processes

variable {len : Nat} {process next : Process} {pointer : KindPtr}

/-- The slot holds a static kind that has a pool. -/
def Process.poolAt (process : Process) (slot : Slot) : Bool :=
  if static : slot.val < numStaticKinds then process.pools ⟨slot.val, static⟩ else false

/-- What the operation `finalize` of a kind reports: a static kind with a pool whether TBB can destroy
it, and a fixed kind the destruction of its lock. -/
def Process.reported (process : Process) (outcome : FinalizeOutcome) : KindPtr → FinalizeStatus
  | .library index =>
      if process.pools index ∧ outcome.poolDestroy = false then .operationFailed else .success
  | .heap address =>
      match (process.registry.kinds (.heap address)).map Kind.ops with
      | some .fixed => .status outcome.mutexDestroy
      | _ => .success

/-- The invariant of the loop of `memkind_finalize`, with the slots that it has not reached. -/
structure Process.Finalizing (len : Nat) (remaining : List Slot) (process : Process) : Prop where
  formed : process.registry.WellFormed
  slots : process.registry.SlotsCounted
  statics : ∀ index, process.registry.kinds (.library index) = some (staticKind index)
  owned : ∃ created, process.arena.Owned len created ∧
    (∀ pointer, (created pointer).isSome →
      ∃ slot ∈ remaining, process.registry.partitionMap slot = some pointer) ∧
    ∀ slot ∈ remaining, ∀ pointer, process.registry.partitionMap slot = some pointer →
      ((created pointer).isSome ↔ (process.arena.kinds pointer).arenaMapLen ≠ 0)
  noDefault : (process.arena.kinds memkindDefault).arenaMapLen = 0
  pooled : ∀ index, process.pools index = true →
    (process.arena.kinds (.library index)).arenaMapLen = 0
  cleared : ∀ slot, slot ∉ remaining → numStaticKinds ≤ slot.val →
    process.registry.partitionMap slot = none

theorem Process.Sound.finalizing (sound : process.Sound len) :
    process.Finalizing len (List.finRange maxKind) where
  formed := sound.formed
  slots := sound.slots
  statics := sound.statics
  owned := by
    obtain ⟨created, owned, has⟩ := sound.owned
    refine ⟨created, owned, ?_, ?_⟩
    · rintro (index | address) live
      · exact ⟨⟨index.val, Nat.lt_trans index.isLt (by decide)⟩, List.mem_finRange _,
          sound.slots.static _ index.isLt⟩
      · obtain ⟨kind, allocated⟩ := Option.isSome_iff_exists.mp ((has _).mp live)
        obtain ⟨slot, found⟩ := sound.formed.hasSlot address kind allocated
        exact ⟨slot, List.mem_finRange slot, found⟩
    · rintro slot - (index | address) found
      · exact has (.library index)
      · obtain ⟨kind, allocated, -⟩ := sound.formed.slotsLive slot _ found
        have live := (has (.heap address)).mpr (Option.isSome_of_mem allocated)
        obtain ⟨positive, sized⟩ := owned.mapLen live
        exact iff_of_true live (by omega)
  noDefault := sound.noDefault
  pooled := sound.pooled
  cleared slot outside := absurd (List.mem_finRange slot) outside

section Finalize

variable {slot : Slot} {rest : List Slot} {kind : Kind}

/-- The loop passes a slot without a kind. -/
theorem Process.Finalizing.pass (finalizing : process.Finalizing len (slot :: rest))
    (empty : process.registry.partitionMap slot = none) : process.Finalizing len rest := by
  obtain ⟨created, owned, reached, has⟩ := finalizing.owned
  refine ⟨finalizing.formed, finalizing.slots, finalizing.statics, ⟨created, owned, ?_, ?_⟩,
    finalizing.noDefault, finalizing.pooled, ?_⟩
  · intro pointer live
    obtain ⟨place, member, found⟩ := reached pointer live
    refine ⟨place, (List.mem_cons.mp member).resolve_left ?_, found⟩
    rintro rfl
    rw [empty] at found
    cases found
  · exact fun place member => has place (List.mem_cons_of_mem slot member)
  · intro place outside dynamic
    by_cases same : place = slot
    · rw [same]
      exact empty
    · exact finalizing.cleared place (List.not_mem_cons_of_ne_of_not_mem same outside) dynamic

/-- The loop leaves a slot whose kind has no arenas any more. A slot of a dynamic kind has been
cleared. -/
theorem Process.Finalizing.leave (finalizing : process.Finalizing len (slot :: rest))
    (last : slot ∉ rest) (found : process.registry.partitionMap slot = some pointer)
    (formed : next.registry.WellFormed) (slots : next.registry.SlotsCounted)
    (statics : ∀ index, next.registry.kinds (.library index) = some (staticKind index))
    (others : ∀ other, other ≠ slot →
      next.registry.partitionMap other = process.registry.partitionMap other)
    (empty : numStaticKinds ≤ slot.val → next.registry.partitionMap slot = none)
    (kinds : next.arena.kinds = process.arena.kinds)
    (owned : ∀ created, process.arena.Owned len created →
      ((created pointer).isSome ↔ (process.arena.kinds pointer).arenaMapLen ≠ 0) →
      next.arena.Owned len (Function.update created pointer none))
    (pools : ∀ index, next.pools index = true → process.pools index = true) :
    next.Finalizing len rest := by
  obtain ⟨created, before, reached, has⟩ := finalizing.owned
  have different : ∀ other ∈ rest, other ≠ slot := by
    rintro other member rfl
    exact last member
  refine ⟨formed, slots, statics,
    ⟨_, owned created before (has slot List.mem_cons_self pointer found), ?_, ?_⟩, ?_, ?_, ?_⟩
  · intro other live
    by_cases same : other = pointer
    · rw [same, Function.update_self] at live
      cases live
    · rw [Function.update_of_ne same] at live
      obtain ⟨place, member, placed⟩ := reached other live
      have away : place ≠ slot := by
        rintro rfl
        rw [found] at placed
        exact same (Option.some.inj placed).symm
      exact ⟨place, (List.mem_cons.mp member).resolve_left away, (others place away).trans placed⟩
  · intro place member other placed
    rw [others place (different place member)] at placed
    have away : other ≠ pointer := by
      rintro rfl
      exact different place member (finalizing.formed.slot_unique placed found)
    rw [Function.update_of_ne away, kinds]
    exact has place (List.mem_cons_of_mem slot member) other placed
  · rw [kinds]
    exact finalizing.noDefault
  · intro index pool
    rw [kinds]
    exact finalizing.pooled index (pools index pool)
  · intro place outside dynamic
    by_cases same : place = slot
    · subst same
      exact empty dynamic
    · rw [others place same]
      exact finalizing.cleared place (List.not_mem_cons_of_ne_of_not_mem same outside) dynamic

/-- `memkind_arena_finalize` of a kind whose record tells whether it has arenas. -/
theorem Process.Finalizing.arenaDestroy (finalizing : process.Finalizing len (slot :: rest))
    (found : process.registry.partitionMap slot = some pointer) :
    ∃ arena, memkindArenaDestroy pointer process.arena = some arena ∧
      arena.kinds = process.arena.kinds ∧
      ∀ created, process.arena.Owned len created →
        ((created pointer).isSome ↔ (process.arena.kinds pointer).arenaMapLen ≠ 0) →
        arena.Owned len (Function.update created pointer none) := by
  obtain ⟨created, owned, -, has⟩ := finalizing.owned
  have isLive := has slot List.mem_cons_self pointer found
  by_cases sized : (process.arena.kinds pointer).arenaMapLen = 0
  · refine ⟨process.arena, by rw [memkindArenaDestroy, if_neg (not_not_intro sized)], rfl, ?_⟩
    intro created owned live
    have dead : created pointer = none := by
      have absent := mt live.mp (not_not_intro sized)
      simpa using absent
    rw [← dead, Function.update_eq_self]
    exact owned
  · obtain ⟨arena, destroyed, -⟩ := owned.destroy (isLive.mpr sized)
    refine ⟨arena, destroyed, memkindArenaDestroy_kinds destroyed, ?_⟩
    intro created owned live
    obtain ⟨after, isDestroyed, nextOwned⟩ := owned.destroy (live.mpr sized)
    rw [destroyed] at isDestroyed
    obtain rfl := Option.some.inj isDestroyed
    exact nextOwned

/-- What the operation `finalize` of the kind in a slot does when it returns. -/
structure Process.Finalized (len : Nat) (slot : Slot) (rest : List Slot) (pointer : KindPtr)
    (outcome : FinalizeOutcome) (process : Process) (err : FinalizeStatus) (middle : Process) :
    Prop where
  references : middle.references + (if process.poolAt slot then 1 else 0) = process.references
  pools : ∀ other, middle.poolAt other = (process.poolAt other && other ≠ slot)
  map : middle.registry.partitionMap = process.registry.partitionMap
  reported : err = process.reported outcome pointer
  others : ∀ other, other ≠ pointer → ∀ outcome, Process.reported { middle with
    registry := memkindDestroyDynamicKindFromRegister slot pointer middle.registry } outcome other =
      process.reported outcome other
  released : ∀ address, pointer = .heap address →
    ∃ kind, middle.registry.kinds pointer = some kind ∧ kind.released = true
  done : err = .success → Process.Finalizing len rest { middle with
    registry := memkindDestroyDynamicKindFromRegister slot pointer middle.registry }

/-- A static kind stands in the slot with its number. -/
theorem Process.Finalizing.static_slot (finalizing : process.Finalizing len rest)
    (found : process.registry.partitionMap slot = some (.library index)) :
    slot.val = index.val := by
  have own := finalizing.slots.static ⟨index.val, Nat.lt_trans index.isLt (by decide)⟩ index.isLt
  exact congrArg Fin.val (finalizing.formed.slot_unique found own)

theorem Process.poolAt_static (same : slot.val = index.val) :
    process.poolAt slot = process.pools index := by
  have static : slot.val < numStaticKinds := by
    rw [same]
    exact index.isLt
  rw [poolAt, dif_pos static]
  exact congrArg process.pools (Fin.ext same)

/-- A slot without a pool keeps the pools. -/
theorem Process.pools_kept (noPool : process.poolAt slot = false)
    (same : middle.pools = process.pools) (other : Slot) :
    middle.poolAt other = (process.poolAt other && other ≠ slot) := by
  have equal : middle.poolAt other = process.poolAt other := by
    unfold poolAt
    rw [same]
  rw [equal]
  by_cases isSlot : other = slot
  · simp [isSlot, noPool]
  · simp [isSlot]

/-- The registry does not change for a static kind. -/
theorem memkindDestroyDynamicKindFromRegister_static {registry : Registry}
    (static : slot.val < numStaticKinds) :
    memkindDestroyDynamicKindFromRegister slot pointer registry = registry := by
  rw [memkindDestroyDynamicKindFromRegister, if_neg (Nat.not_le_of_lt static)]

/-- `tbb_destroy` in a process that has loaded the library. -/
theorem Process.Finalizing.tbbDestroy (finalizing : process.Finalizing len (slot :: rest))
    (last : slot ∉ rest) (found : process.registry.partitionMap slot = some (.library index))
    (pool : process.pools index = true) (outcome : FinalizeOutcome)
    (loaded : process.references ≠ 0) :
    ∃ err middle, Memkind.tbbDestroy index outcome.poolDestroy process = some (err, middle) ∧
      Process.Finalized len slot rest (.library index) outcome process err middle := by
  have place := finalizing.static_slot found
  have static : slot.val < numStaticKinds := by
    rw [place]
    exact index.isLt
  refine ⟨_, _, if_neg loaded, ?_, ?_, rfl, ?_, ?_, nofun, ?_⟩
  · rw [Process.poolAt_static place, pool, if_pos rfl]
    exact Nat.succ_pred_eq_of_ne_zero loaded
  · intro other
    by_cases isSlot : other = slot
    · rw [isSlot, Process.poolAt_static place]
      simp
    · unfold poolAt
      split
      · rename_i isStatic
        have different : (⟨other.val, isStatic⟩ : Fin numStaticKinds) ≠ index := by
          intro same
          exact isSlot (Fin.ext ((congrArg Fin.val same).trans place.symm))
        simp [isSlot, different]
      · rfl
  · cases destroyed : outcome.poolDestroy <;> simp [Process.reported, pool, destroyed]
  · intro other different slotOutcome
    rw [memkindDestroyDynamicKindFromRegister_static static]
    cases other with
    | heap address => rfl
    | library other =>
        have kept : other ≠ index := fun same => different (congrArg KindPtr.library same)
        simp [Process.reported, kept]
  · intro _
    rw [memkindDestroyDynamicKindFromRegister_static static]
    refine finalizing.leave last found finalizing.formed finalizing.slots finalizing.statics
      (fun _ _ => rfl) (fun dynamic => absurd static (Nat.not_lt_of_le dynamic)) rfl ?_ ?_
    · intro created owned live
      have dead : created (.library index) = none := by
        have absent := mt live.mp (not_not_intro (finalizing.pooled index pool))
        simpa using absent
      rw [← dead, Function.update_eq_self]
      exact owned
    · intro other remains
      by_cases same : other = index
      · rw [same]
        exact pool
      · exact (Function.update_of_ne same _ _).symm.trans remains

/-- `memkind_default_destroy` and `memkind_arena_finalize` -/
theorem Process.Finalizing.staticArenas (finalizing : process.Finalizing len (slot :: rest))
    (last : slot ∉ rest) (found : process.registry.partitionMap slot = some (.library index))
    (noPool : process.pools index = false) (outcome : FinalizeOutcome) :
    ∃ err middle,
      finalizeArenas (.library index) (staticKind index) outcome.mutexDestroy process =
        some (err, middle) ∧
      Process.Finalized len slot rest (.library index) outcome process err middle := by
  have place := finalizing.static_slot found
  have static : slot.val < numStaticKinds := by
    rw [place]
    exact index.isLt
  have isPool : process.poolAt slot = false := (Process.poolAt_static place).trans noPool
  have finalized : ∀ arena : ArenaState, arena.kinds = process.arena.kinds →
      (∀ created, process.arena.Owned len created →
        ((created (.library index)).isSome ↔
          (process.arena.kinds (.library index)).arenaMapLen ≠ 0) →
        arena.Owned len (Function.update created (.library index) none)) →
      Process.Finalized len slot rest (.library index) outcome process .success
        { process with arena } := by
    intro arena kinds owned
    refine ⟨?_, Process.pools_kept isPool rfl, rfl, ?_, ?_, nofun, ?_⟩
    · rw [isPool]
      rfl
    · simp [Process.reported, noPool]
    · intro other _ _
      rw [memkindDestroyDynamicKindFromRegister_static static]
      cases other <;> rfl
    · intro _
      rw [memkindDestroyDynamicKindFromRegister_static static]
      exact finalizing.leave last found finalizing.formed finalizing.slots finalizing.statics
        (fun _ _ => rfl) (fun dynamic => absurd static (Nat.not_lt_of_le dynamic)) kinds owned
        (fun _ => id)
  unfold finalizeArenas
  split
  · rename_i isDefault
    refine ⟨_, _, rfl, finalized process.arena rfl ?_⟩
    intro created owned live
    have dead : created (.library index) = none := by
      rw [isDefault] at live ⊢
      have absent := mt live.mp (not_not_intro finalizing.noDefault)
      simpa using absent
    rw [← dead, Function.update_eq_self]
    exact owned
  · obtain ⟨arena, destroyed, kinds, owned⟩ := finalizing.arenaDestroy found
    rw [destroyed]
    exact ⟨_, _, rfl, finalized arena kinds owned⟩

/-- `memkind_pmem_destroy` and `memkind_fixed_destroy` -/
theorem Process.Finalizing.dynamicArenas (finalizing : process.Finalizing len (slot :: rest))
    (last : slot ∉ rest) {address : Address}
    (found : process.registry.partitionMap slot = some (.heap address))
    (allocated : process.registry.kinds (.heap address) = some kind)
    (outcome : FinalizeOutcome) :
    ∃ err middle,
      finalizeArenas (.heap address) kind outcome.mutexDestroy process = some (err, middle) ∧
      Process.Finalized len slot rest (.heap address) outcome process err middle := by
  have dynamic : numStaticKinds ≤ slot.val := by
    by_contra inside
    rw [finalizing.slots.static slot (Nat.lt_of_not_le inside)] at found
    cases found
  have isPool : process.poolAt slot = false := dif_neg (Nat.not_lt_of_le dynamic)
  obtain ⟨arena, destroyed, kinds, owned⟩ := finalizing.arenaDestroy found
  obtain ⟨notLibrary, alive⟩ := finalizing.formed.dynamic address kind allocated
  have released : ∃ status, OpsTable.destroy (.heap address) kind outcome.mutexDestroy
      process.registry = some (status, process.registry.releasedKind (.heap address) kind) ∧
      .status status = process.reported outcome (.heap address) := by
    unfold OpsTable.destroy Process.reported
    cases table : kind.ops with
    | library => exact absurd table notLibrary
    | pmem =>
        exact ⟨.success, by simp [alive, Registry.releasedKind, table], by simp [allocated, table]⟩
    | fixed =>
        exact ⟨outcome.mutexDestroy, by simp [alive, Registry.releasedKind, table],
          by simp [allocated, table]⟩
  obtain ⟨status, isReleased, reported⟩ := released
  have called : finalizeArenas (.heap address) kind outcome.mutexDestroy process =
      some (.status status, { process with
        registry := process.registry.releasedKind (.heap address) kind, arena }) := by
    have notDefault : KindPtr.heap address ≠ memkindDefault :=
      (KindPtr.library_ne_heap 0 address).symm
    rw [finalizeArenas, if_neg notDefault, destroyed, Option.bind_some, isReleased,
      Option.map_some]
  have removed : memkindDestroyDynamicKindFromRegister slot (.heap address)
      (process.registry.releasedKind (.heap address) kind) =
        process.registry.without kind slot address := if_pos dynamic
  refine ⟨_, _, called, ?_, Process.pools_kept isPool rfl, rfl, reported, ?_, ?_, ?_⟩
  · rw [isPool]
    rfl
  · intro other different _
    simp only [removed]
    cases other with
    | library index => rfl
    | heap other => simp [Process.reported, Registry.without_kinds _ _ _ different]
  · intro _ _
    exact ⟨_, Function.update_self _ _ _, rfl⟩
  · intro _
    simp only [removed]
    refine finalizing.leave last found (finalizing.formed.without_kept kind found) ?_ ?_ ?_ ?_
      kinds owned (fun _ => id)
    · have counted : (process.registry.releasedKind (.heap address) kind).SlotsCounted :=
        ⟨finalizing.slots.counted, finalizing.slots.static⟩
      exact counted.cleared (.heap address) found dynamic
    · intro index
      have different := KindPtr.library_ne_heap index address
      rw [Registry.without_kinds _ _ _ different, finalizing.statics]
    · exact fun other => Registry.without_partitionMap process.registry kind address
    · intro _
      exact Function.update_self _ _ _

/-- The operation `finalize` of the kind in the next slot. It cannot be called when the library of
its pool is not loaded any more. -/
theorem Process.Finalizing.finalizeKind_cases (finalizing : process.Finalizing len (slot :: rest))
    (last : slot ∉ rest) (found : process.registry.partitionMap slot = some pointer)
    (outcome : FinalizeOutcome) :
    ∃ kind, process.registry.kinds pointer = some kind ∧
      (process.poolAt slot = true ∧ process.references = 0 ∧
          finalizeKind pointer kind outcome process = none ∨
        ∃ err middle, finalizeKind pointer kind outcome process = some (err, middle) ∧
          Process.Finalized len slot rest pointer outcome process err middle) := by
  cases pointer with
  | library index =>
      refine ⟨staticKind index, finalizing.statics index, ?_⟩
      cases pool : process.pools index with
      | false =>
          obtain ⟨err, middle, called, finalized⟩ :=
            finalizing.staticArenas last found pool outcome
          exact Or.inr ⟨err, middle, by rw [finalizeKind, pool]; exact called, finalized⟩
      | true =>
          by_cases loaded : process.references = 0
          · refine Or.inl ⟨?_, loaded, ?_⟩
            · rw [Process.poolAt_static (finalizing.static_slot found), pool]
            · rw [finalizeKind, pool, if_pos rfl, Memkind.tbbDestroy, if_pos loaded]
          · obtain ⟨err, middle, called, finalized⟩ :=
              finalizing.tbbDestroy last found pool outcome loaded
            exact Or.inr ⟨err, middle, by rw [finalizeKind, pool]; exact called, finalized⟩
  | heap address =>
      obtain ⟨kind, allocated, -⟩ := finalizing.formed.slotsLive slot _ found
      exact ⟨kind, allocated, Or.inr (finalizing.dynamicArenas last found allocated outcome)⟩

variable {outcome : Slot → FinalizeOutcome} {remaining : List Slot} {err : FinalizeStatus}

theorem Process.Finalized.countP_eq {slotOutcome : FinalizeOutcome} (last : slot ∉ rest)
    (finalized : Process.Finalized len slot rest pointer slotOutcome process err middle) :
    rest.countP middle.poolAt = rest.countP process.poolAt := by
  refine List.countP_congr ?_
  intro other member
  have different : other ≠ slot := by
    rintro rfl
    exact last member
  rw [finalized.pools, decide_eq_true different, Bool.and_true]

theorem Process.reported_granted : process.reported ⟨.success, true⟩ pointer = .success := by
  unfold reported
  split
  · simp
  · split <;> rfl

theorem finalizeSlots_success (found : process.registry.partitionMap slot = some pointer)
    (allocated : process.registry.kinds pointer = some kind)
    (called : finalizeKind pointer kind (outcome slot) process = some (.success, middle)) :
    finalizeSlots outcome (slot :: rest) process = finalizeSlots outcome rest { middle with
      registry := memkindDestroyDynamicKindFromRegister slot pointer middle.registry } := by
  rw [finalizeSlots, found]
  simp only [allocated, Option.bind_some, called, ne_eq, not_true_eq_false, if_false]

/-- When no kind reports a failure, the loop ends exactly when the library of TBB is loaded often
enough for the pools that are left. -/
theorem Process.Finalizing.loop (finalizing : process.Finalizing len remaining)
    (nodup : remaining.Nodup) (granted : ∀ slot, outcome slot = ⟨.success, true⟩) :
    (remaining.countP process.poolAt ≤ process.references ∧
      ∃ next, finalizeSlots outcome remaining process = some (.success, next) ∧
        next.Finalizing len [] ∧
        ∀ slot, next.poolAt slot = (process.poolAt slot && slot ∉ remaining)) ∨
    process.references < remaining.countP process.poolAt ∧
      finalizeSlots outcome remaining process = none := by
  induction remaining generalizing process with
  | nil =>
      refine Or.inl ⟨Nat.zero_le _, process, rfl, finalizing, ?_⟩
      intro slot
      simp
  | cons slot rest ih =>
      obtain ⟨last, restNodup⟩ := List.nodup_cons.mp nodup
      cases found : process.registry.partitionMap slot with
      | none =>
          -- A slot of a static kind is never empty, so it has no pool.
          have dynamic := finalizing.formed.hole_dynamic found
          have noPool : process.poolAt slot = false := dif_neg (Nat.not_lt_of_le dynamic)
          rw [finalizeSlots, found, List.countP_cons_of_neg (by rw [noPool]; exact Bool.false_ne_true)]
          refine (ih (finalizing.pass found) restNodup).imp_left ?_
          rintro ⟨enough, next, looped, after, pools⟩
          refine ⟨enough, next, looped, after, ?_⟩
          intro other
          rw [pools]
          by_cases same : other = slot
          · simp [same, noPool]
          · simp [same]
      | some pointer =>
          obtain ⟨kind, allocated, unloaded | ⟨err, middle, called, finalized⟩⟩ :=
            finalizing.finalizeKind_cases last found (outcome slot)
          · obtain ⟨pool, references, called⟩ := unloaded
            refine Or.inr ⟨?_, ?_⟩
            · rw [references, List.countP_cons_of_pos pool]
              exact Nat.succ_pos _
            · rw [finalizeSlots, found]
              simp only [allocated, Option.bind_some, called, Option.bind_none]
          · obtain rfl : err = .success := by
              rw [finalized.reported, granted slot, Process.reported_granted]
            have tail := ih (finalized.done rfl) restNodup
            have counted := finalized.countP_eq last
            have references := finalized.references
            rw [finalizeSlots_success found allocated called, List.countP_cons]
            rcases tail with ⟨enough, next, looped, after, pools⟩ | ⟨few, looped⟩
            · refine Or.inl ⟨?_, next, looped, after, ?_⟩
              · have enough : rest.countP middle.poolAt ≤ middle.references := enough
                omega
              · intro other
                rw [pools other]
                show (middle.poolAt other && _) = _
                rw [finalized.pools]
                by_cases same : other = slot
                · simp [same]
                · simp [same]
            · refine Or.inr ⟨?_, looped⟩
              have few : middle.references < rest.countP middle.poolAt := few
              omega

theorem memkindDestroyDynamicKindFromRegister_map (registry : Registry) (other : Slot) :
    (memkindDestroyDynamicKindFromRegister slot pointer registry).partitionMap other =
      if other = slot ∧ numStaticKinds ≤ other.val then none else registry.partitionMap other := by
  unfold memkindDestroyDynamicKindFromRegister
  by_cases same : other = slot
  · subst same
    split
    · simp [*]
    · simp [*]
  · split
    · simp [same]
    · simp [same]

/-- While the library of TBB is loaded often enough, the operation of a kind returns. -/
theorem Process.Finalizing.finalizeKind_loaded (finalizing : process.Finalizing len (slot :: rest))
    (last : slot ∉ rest) (found : process.registry.partitionMap slot = some pointer)
    (loaded : (slot :: rest).countP process.poolAt ≤ process.references)
    (slotOutcome : FinalizeOutcome) :
    ∃ kind err next, process.registry.kinds pointer = some kind ∧
      finalizeKind pointer kind slotOutcome process = some (err, next) ∧
      Process.Finalized len slot rest pointer slotOutcome process err next := by
  obtain ⟨kind, allocated, ⟨pool, references, -⟩ | ⟨err, next, called, finalized⟩⟩ :=
    finalizing.finalizeKind_cases last found slotOutcome
  · rw [references, List.countP_cons_of_pos pool] at loaded
    cases loaded
  · exact ⟨kind, err, next, allocated, called, finalized⟩

/-- The loop goes on with the registry from which the kind is removed: the kinds of the later slots
are in their places and report as before. -/
structure Process.GoesOn (slot : Slot) (rest : List Slot) (process after : Process) : Prop where
  map : ∀ place, after.registry.partitionMap place =
    if place = slot ∧ numStaticKinds ≤ place.val then none else process.registry.partitionMap place
  reported : ∀ place ∈ rest, ∀ pointer, process.registry.partitionMap place = some pointer →
    ∀ outcome, after.reported outcome pointer = process.reported outcome pointer
  loaded : (slot :: rest).countP process.poolAt ≤ process.references →
    rest.countP after.poolAt ≤ after.references

theorem Process.Finalized.goesOn {slotOutcome : FinalizeOutcome}
    (finalizing : process.Finalizing len (slot :: rest)) (last : slot ∉ rest)
    (found : process.registry.partitionMap slot = some pointer)
    (finalized : Process.Finalized len slot rest pointer slotOutcome process err middle) :
    process.GoesOn slot rest { middle with
      registry := memkindDestroyDynamicKindFromRegister slot pointer middle.registry } where
  map place := by rw [memkindDestroyDynamicKindFromRegister_map, finalized.map]
  reported place member other atPlace := by
    refine finalized.others other ?_
    rintro rfl
    exact last (finalizing.formed.slot_unique atPlace found ▸ member)
  loaded enough := by
    have counted := finalized.countP_eq last
    have references := finalized.references
    rw [List.countP_cons] at enough
    show rest.countP middle.poolAt ≤ middle.references
    omega

/-- The first failure ends the loop, which has cleared the dynamic slots before it and no others. -/
theorem Process.Finalizing.stops {stop : Slot} (finalizing : process.Finalizing len remaining)
    (sorted : remaining.Pairwise (· < ·)) (reached : stop ∈ remaining)
    (found : process.registry.partitionMap stop = some pointer)
    (failed : process.reported (outcome stop) pointer ≠ .success)
    (earlier : ∀ slot ∈ remaining, slot < stop → ∀ other,
      process.registry.partitionMap slot = some other →
      process.reported (outcome slot) other = .success)
    (loaded : remaining.countP process.poolAt ≤ process.references) :
    ∃ next, finalizeSlots outcome remaining process =
        some (process.reported (outcome stop) pointer, next) ∧
      (∀ other, next.registry.partitionMap other =
        if other ∈ remaining ∧ other < stop ∧ numStaticKinds ≤ other.val then none
        else process.registry.partitionMap other) ∧
      ∀ address, pointer = .heap address →
        ∃ kind, next.registry.kinds pointer = some kind ∧ kind.released = true := by
  induction remaining generalizing process with
  | nil => cases reached
  | cons slot rest ih =>
      obtain ⟨first, restSorted⟩ := List.pairwise_cons.mp sorted
      have last : slot ∉ rest := fun member => lt_irrefl slot (first slot member)
      obtain rfl | later := List.mem_cons.mp reached
      · -- The failing kind is reached.
        obtain ⟨kind, err, next, allocated, called, finalized⟩ :=
          finalizing.finalizeKind_loaded last found loaded (outcome stop)
        rw [finalizeSlots, found, ← finalized.reported]
        rw [← finalized.reported] at failed
        simp only [allocated, Option.bind_some, called, if_pos failed]
        refine ⟨next, rfl, fun other => ?_, finalized.released⟩
        rw [finalized.map, if_neg]
        rintro ⟨member, before, -⟩
        obtain rfl | after := List.mem_cons.mp member
        · exact lt_irrefl _ before
        · exact lt_asymm before (first other after)
      have before := first stop later
      cases held : process.registry.partitionMap slot with
      | none =>
          have looped := ih (finalizing.pass held) restSorted later found failed
            (fun other member => earlier other (List.mem_cons_of_mem slot member))
            (Nat.le_trans (List.sublist_cons_self slot rest).countP_le loaded)
          obtain ⟨next, called, map, released⟩ := looped
          refine ⟨next, by rw [finalizeSlots, held]; exact called, fun other => ?_, released⟩
          rw [map other]
          by_cases same : other = slot
          · simp [same, held]
          · simp [same]
      | some holder =>
          obtain ⟨kind, err, middle, allocated, called, finalized⟩ :=
            finalizing.finalizeKind_loaded last held loaded (outcome slot)
          obtain rfl : err = .success :=
            finalized.reported.trans (earlier slot List.mem_cons_self before holder held)
          have goesOn := finalized.goesOn finalizing last held
          have same := goesOn.reported stop later pointer found (outcome stop)
          rw [finalizeSlots_success held allocated called, ← same]
          have looped := ih (finalized.done rfl) restSorted later
            ((goesOn.map stop).trans (by simp [ne_of_gt before, found])) (same ▸ failed)
            (fun place member less other atPlace => ?_) (goesOn.loaded loaded)
          · obtain ⟨next, finalize, map, released⟩ := looped
            refine ⟨next, finalize, fun other => ?_, released⟩
            rw [map other, goesOn.map other]
            by_cases isSlot : other = slot
            · simp [isSlot, last, before]
            · simp [isSlot]
          · have atFirst := (goesOn.map place).symm.trans atPlace
            rw [if_neg fun here => ne_of_gt (first place member) here.1] at atFirst
            rw [goesOn.reported place member other atFirst]
            exact earlier place (List.mem_cons_of_mem slot member) less other atFirst

/-- Nothing is left when the loop has ended. -/
theorem Process.Finalizing.nothing_left (finalizing : process.Finalizing len []) :
    process.registry.partitionMap = Registry.initial.partitionMap ∧
    process.registry.numKind = numStaticKinds ∧
    (∀ address, process.registry.kinds (.heap address) = none) ∧
    ∀ index, process.arena.arenaRegistry index = none ∧
      process.arena.jemalloc.initialized index = false := by
  have map : process.registry.partitionMap = Registry.initial.partitionMap := by
    funext slot
    by_cases static : slot.val < numStaticKinds
    · rw [finalizing.slots.static slot static, Registry.initial_slotsCounted.static slot static]
    · rw [finalizing.cleared slot List.not_mem_nil (Nat.le_of_not_lt static)]
      simp [Registry.initial, static]
  refine ⟨map, ?_, ?_, ?_⟩
  · have counted := finalizing.slots.counted
    have initial := Registry.initial_slotsCounted.counted
    rw [Registry.occupied, map] at counted
    exact_mod_cast counted.trans initial.symm
  · intro address
    cases allocated : process.registry.kinds (.heap address) with
    | none => rfl
    | some kind =>
        obtain ⟨slot, found⟩ := finalizing.formed.hasSlot address kind allocated
        rw [map, Registry.initial] at found
        simp only at found
        split at found <;> cases found
  · obtain ⟨created, owned, reached, -⟩ := finalizing.owned
    refine owned.none_left ?_
    intro pointer
    by_contra live
    obtain ⟨slot, member, -⟩ := reached pointer (Option.isSome_iff_ne_none.mpr live)
    cases member

end Finalize

theorem countP_finRange {n : Nat} (test : Fin n → Bool) :
    (List.finRange n).countP test = (Finset.univ.filter fun i => test i = true).card := by
  rw [Finset.card_filter, Fin.sum_univ_def]
  induction List.finRange n with
  | nil => rfl
  | cons i rest ih => rw [List.countP_cons, List.map_cons, List.sum_cons, ih, Nat.add_comm]

/-- The static kinds that have a pool of TBB. -/
def Process.poolCount (process : Process) : Nat :=
  (Finset.univ.filter fun index => process.pools index = true).card

theorem Process.countP_poolAt (process : Process) :
    (List.finRange maxKind).countP process.poolAt = process.poolCount := by
  have static : (Finset.univ.filter fun slot => process.poolAt slot = true) =
      (Finset.univ.filter fun index => process.pools index = true).map
        (Fin.castLEEmb (by decide : numStaticKinds ≤ maxKind)) := by
    ext slot
    simp only [Finset.mem_filter, Finset.mem_univ, true_and, Finset.mem_map, Fin.castLEEmb_apply]
    constructor
    · intro pool
      unfold poolAt at pool
      split at pool
      · rename_i inside
        exact ⟨⟨slot.val, inside⟩, pool, rfl⟩
      · cases pool
    · rintro ⟨index, pool, rfl⟩
      rw [Process.poolAt_static rfl]
      exact pool
  rw [countP_finRange, static, Finset.card_map, poolCount]

theorem Process.Managed.loaded_iff {manager : HeapManager} {others : Nat}
    (managed : process.Managed manager others) :
    (List.finRange maxKind).countP process.poolAt ≤ process.references ↔
      manager = .arena ∨ process.poolCount ≤ others + 1 := by
  rw [process.countP_poolAt, managed.references]
  cases manager with
  | arena => simp [Process.poolCount, managed.pools rfl]
  | tbb => simp

end Processes

/-- At the end of every run, when no kind reports a failure: `memkind_finalize` returns exactly when
the heap manager is not TBB or the library of TBB is loaded once for each kind that has a pool. It
then leaves no dynamic kind, no arena and no pool. -/
theorem memkindFinalize_complete (manager : HeapManager) (len : Nat)
    (getArena : KindPtr → GetArena) (others : Nat) (calls : List ProcessCall)
    (visible : Guarded (processStep manager len) namesVisible
      (Process.initial manager getArena others) calls) (process : Process)
    (ran : runSteps (processStep manager len) (Process.initial manager getArena others) calls =
      some process)
    (outcome : Slot → FinalizeOutcome) (granted : ∀ slot, outcome slot = ⟨.success, true⟩) :
    ((memkindFinalize outcome process).isSome ↔
      manager = .arena ∨ process.poolCount ≤ others + 1) ∧
    ∀ err next, memkindFinalize outcome process = some (err, next) →
      err = .success ∧ next.registry.partitionMap = Registry.initial.partitionMap ∧
      next.registry.numKind = numStaticKinds ∧
      (∀ address, next.registry.kinds (.heap address) = none) ∧
      (∀ index, next.arena.arenaRegistry index = none ∧
        next.arena.jemalloc.initialized index = false) ∧
      ∀ index, next.pools index = false := by
  obtain ⟨sound, managed⟩ := processRun_sound visible ran
  rcases sound.finalizing.loop (List.nodup_finRange maxKind) granted with
    ⟨few, next, looped, after, pools⟩ | ⟨many, looped⟩
  · rw [managed.loaded_iff] at few
    refine ⟨iff_of_true (Option.isSome_of_mem looped) few, ?_⟩
    intro err final called
    have same := looped.symm.trans called
    obtain ⟨rfl, rfl⟩ := same
    obtain ⟨map, number, kinds, arenas⟩ := after.nothing_left
    refine ⟨rfl, map, number, kinds, arenas, ?_⟩
    intro index
    have gone := pools ⟨index.val, Nat.lt_trans index.isLt (by decide)⟩
    rw [Process.poolAt_static rfl] at gone
    simpa using gone
  · have absent : memkindFinalize outcome process = none := looped
    rw [absent]
    refine ⟨iff_of_false nofun ?_, nofun⟩
    rw [← managed.loaded_iff]
    exact Nat.not_le_of_lt many

/-- Two static kinds are used, two dynamic kinds are created and one of them is destroyed. -/
def usedKinds : List ProcessCall :=
  let granted : Nat → ArenaOutcome := fun _ => ⟨true, none⟩
  [.init 1 twoArenas granted, .init 11 twoArenas granted,
    .create .fixed (fixedName 0x10000) (grantedAt 0x100) twoArenas granted,
    .create .pmem (pmemName 5) (grantedAt 0x200) twoArenas granted,
    .destroy 0x100 .success]

/-- jemalloc lets the process end. With TBB the second pool would be destroyed by a function of a
library that the first one has closed. -/
theorem memkindFinalize_complete_usedKinds :
    (∃ process, runSteps (processStep .arena 2) (Process.initial .arena (fun _ => .thread) 0)
        usedKinds = some process ∧
      (memkindFinalize (fun _ => ⟨.success, true⟩) process).isSome = true) ∧
    ∃ process, runSteps (processStep .tbb 2) (Process.initial .tbb (fun _ => .thread) 0)
        usedKinds = some process ∧
      memkindFinalize (fun _ => ⟨.success, true⟩) process = none := by
  constructor
  · have enabled : (runSteps (processStep .arena 2) (Process.initial .arena (fun _ => .thread) 0)
        usedKinds).isSome := by decide +kernel
    obtain ⟨process, ran⟩ := Option.isSome_iff_exists.mp enabled
    have complete := memkindFinalize_complete .arena 2 _ 0 usedKinds (by decide +kernel) process ran
      (fun _ => ⟨.success, true⟩) (fun _ => rfl)
    exact ⟨process, ran, complete.1.mpr (Or.inl rfl)⟩
  · have counted : (runSteps (processStep .tbb 2) (Process.initial .tbb (fun _ => .thread) 0)
        usedKinds).map Process.poolCount = some 2 := by decide +kernel
    obtain ⟨process, ran, pools⟩ := Option.map_eq_some_iff.mp counted
    have complete := memkindFinalize_complete .tbb 2 _ 0 usedKinds (by decide +kernel) process ran
      (fun _ => ⟨.success, true⟩) (fun _ => rfl)
    refine ⟨process, ran, Option.not_isSome_iff_eq_none.mp ?_⟩
    rw [complete.1, pools]
    decide

/-- At the end of every run, the first kind that reports a failure ends `memkind_finalize` with it: the
dynamic slots before the kind are cleared, and every later slot is as before. The kind stays in its
slot, although the memory of a dynamic kind behind it has been released. -/
theorem memkindFinalize_stops (manager : HeapManager) (len : Nat) (getArena : KindPtr → GetArena)
    (others : Nat) (calls : List ProcessCall)
    (visible : Guarded (processStep manager len) namesVisible
      (Process.initial manager getArena others) calls) (process : Process)
    (ran : runSteps (processStep manager len) (Process.initial manager getArena others) calls =
      some process)
    (outcome : Slot → FinalizeOutcome) (slot : Slot) (pointer : KindPtr)
    (found : process.registry.partitionMap slot = some pointer)
    (failed : process.reported (outcome slot) pointer ≠ .success)
    (earlier : ∀ other, other < slot → ∀ kind, process.registry.partitionMap other = some kind →
      process.reported (outcome other) kind = .success)
    (loaded : manager = .arena ∨ process.poolCount ≤ others + 1) :
    ∃ next, memkindFinalize outcome process =
        some (process.reported (outcome slot) pointer, next) ∧
      (∀ other, next.registry.partitionMap other =
        if other < slot ∧ numStaticKinds ≤ other.val then none
        else process.registry.partitionMap other) ∧
      ∀ address, pointer = .heap address →
        ∃ kind, next.registry.kinds pointer = some kind ∧ kind.released = true := by
  obtain ⟨sound, managed⟩ := processRun_sound visible ran
  have stopped := sound.finalizing.stops (List.pairwise_lt_finRange maxKind)
    (List.mem_finRange slot) found failed (fun other _ => earlier other)
    (managed.loaded_iff.mpr loaded)
  simp only [List.mem_finRange, true_and] at stopped
  exact stopped

/-- The lock of the fixed kind, which is in the first dynamic slot, cannot be destroyed. -/
theorem memkindFinalize_stops_usedKinds :
    ∃ process next, runSteps (processStep .arena 2) (Process.initial .arena (fun _ => .thread) 0)
        (usedKinds.take 4) = some process ∧
      memkindFinalize (fun _ => ⟨.errno 16, true⟩) process = some (.status (.errno 16), next) ∧
      ∃ kind, next.registry.kinds (.heap 0x100) = some kind ∧ kind.released = true := by
  let slot : Slot := ⟨numStaticKinds, by decide⟩
  have facts : ((runSteps (processStep .arena 2) (Process.initial .arena (fun _ => .thread) 0)
      (usedKinds.take 4)).map fun process =>
        (process.registry.partitionMap slot, process.reported ⟨.errno 16, true⟩ (.heap 0x100),
          decide (∀ other : Slot, other < slot → (process.registry.partitionMap other).all fun kind =>
            process.reported ⟨.errno 16, true⟩ kind = .success))) =
      some (some (.heap 0x100), .status (.errno 16), true) := by decide +kernel
  obtain ⟨process, ran, seen⟩ := Option.map_eq_some_iff.mp facts
  obtain ⟨found, reported, earlier⟩ : _ ∧ _ ∧ _ := by simpa only [Prod.mk.injEq] using seen
  obtain ⟨next, called, -, released⟩ := memkindFinalize_stops .arena 2 _ 0 (usedKinds.take 4)
    (by decide +kernel) process ran (fun _ => ⟨.errno 16, true⟩) slot (.heap 0x100) found
    (by rw [reported]; nofun)
    (fun other before kind held => by
      have all := of_decide_eq_true earlier other before
      rw [held] at all
      exact of_decide_eq_true all)
    (Or.inl rfl)
  exact ⟨process, next, ran, reported ▸ called, released 0x100 rfl⟩

end Memkind
