/-
This file decides when a failed creation of arenas leaves nothing behind.
-/

import Memkind.Proof.Arena.IndexBound

namespace Memkind

open Library

variable {i remaining : Nat} {state next : ArenaState} {created : List Nat}
  {metadataUseHooks : Bool} {outcome : Nat → ArenaOutcome} {pointer : KindPtr} {status : Status}

/-- A failed creation leaves `arena_registry_g` as it was, so that no entry refers to the freed
kind, gives the indices of its arenas back, and a later creation that would have got one range
still gets one. -/
structure LeavesNothing (state next : ArenaState) (created : List Nat) : Prop where
  registry : next.arenaRegistry = state.arenaRegistry
  returned : ∀ index ∈ created, index ∈ next.jemalloc.pool.returned
  later : ∀ count, state.jemalloc.pool.Contiguous count → next.jemalloc.pool.Contiguous count

/-- jemalloc makes every arena of the map, and every arena gets its hooks. -/
def createsEveryArena (settings : ArenaSettings) (initStatus : Status) (metadataUseHooks : Bool)
    (outcome : Nat → ArenaOutcome) (pointer : KindPtr) (state : ArenaState) : Prop :=
  initStatus = .success ∧ (memkindSetArenaMapLen settings (state.kinds pointer)).1 = .success ∧
    ∀ i < (memkindSetArenaMapLen settings (state.kinds pointer)).2.arenaMapLen,
      (outcome i).created = true ∧ state.jemalloc.pool.nth i < mallocxArenaLimit ∧
        (metadataUseHooks = true → (outcome i).hooks = none)

/-- `memkind_arena_create_map` ends before jemalloc has made an arena for the kind, and no later
range needs the returned index that jemalloc drops when it refuses the first arena. -/
def endsBeforeFirstArena (settings : ArenaSettings) (initStatus : Status)
    (outcome : Nat → ArenaOutcome) (pointer : KindPtr) (state : ArenaState) : Prop :=
  initStatus ≠ .success ∨ (memkindSetArenaMapLen settings (state.kinds pointer)).1 ≠ .success ∨
    ((outcome 0).created && state.jemalloc.pool.next < mallocxArenaLimit) = false ∧
      state.jemalloc.pool.TopSpare

/-- The arenas that the loop has created are initialized, and so are the older ones. -/
theorem createArenas_initialized
    (called : createArenas pointer metadataUseHooks outcome remaining i state =
      some (status, created, next)) :
    (∀ index ∈ created, next.jemalloc.initialized index = true) ∧
      ∀ index, state.jemalloc.initialized index = true →
        next.jemalloc.initialized index = true := by
  have creates := createsArenas_of_eq_some called
  clear called
  induction creates with
  | done => exact ⟨nofun, fun _ alive => alive⟩
  | refused => exact ⟨nofun, fun _ alive => alive⟩
  | unhooked => simp +contextual [Jemalloc.takeNext_initialized]
  | stored _ _ _ _ ih =>
      obtain ⟨new, old⟩ := ih
      constructor
      · refine List.forall_mem_cons.mpr ⟨old _ ?_, new⟩
        simp [ArenaState.withNext, Jemalloc.takeNext_initialized]
      · intro index alive
        apply old
        simp [ArenaState.withNext, Jemalloc.takeNext_initialized, alive]

/-- A loop that has created no arena was refused the first one. -/
theorem createArenas_nothing
    (called : createArenas pointer metadataUseHooks outcome (remaining + 1) i state =
      some (status, [], next)) :
    ((outcome i).created && state.jemalloc.pool.next < mallocxArenaLimit) = false := by
  cases createsArenas_of_eq_some called with
  | refused full => exact full

/-- Indices that are in use are not among the returned ones. -/
theorem created_eq_nil {jemalloc : Jemalloc} (sound : jemalloc.Sound)
    (alive : ∀ index ∈ created, jemalloc.initialized index = true)
    (returned : ∀ index ∈ created, index ∈ jemalloc.pool.returned) : created = [] := by
  rw [List.eq_nil_iff_forall_not_mem]
  intro index member
  have dead := sound.dead index (returned index member)
  rw [alive index member] at dead
  cases dead

/-- The loop succeeds exactly when each of its arenas is made and gets its hooks. -/
theorem createArenas_success_iff
    (called : createArenas pointer metadataUseHooks outcome remaining i state =
      some (status, created, next)) :
    status = .success ↔ ∀ j < remaining, (outcome (i + j)).created = true ∧
      state.jemalloc.pool.nth j < mallocxArenaLimit ∧
      (metadataUseHooks = true → (outcome (i + j)).hooks = none) := by
  have creates := createsArenas_of_eq_some called
  clear called
  induction creates with
  | done => exact iff_of_true rfl nofun
  | refused full =>
      refine iff_of_false nofun fun every => ?_
      obtain ⟨made, room, -⟩ := every 0 (Nat.succ_pos _)
      rw [Nat.add_zero] at made
      rw [IndexPool.nth_zero] at room
      simp [made, room] at full
  | unhooked room failed =>
      refine iff_of_false nofun fun every => ?_
      obtain ⟨-, -, hooked⟩ := every 0 (Nat.succ_pos _)
      split at failed
      · rename_i useHooks
        rw [Nat.add_zero] at hooked
        rw [hooked useHooks] at failed
        cases failed
      · cases failed
  | @stored remaining i state status created next room hooked _ _ ih =>
      rw [Bool.and_eq_true, decide_eq_true_iff] at room
      refine ih.trans ?_
      rw [Nat.forall_lt_succ_left]
      simp only [Nat.add_zero, IndexPool.nth_zero, room.1, room.2, true_and]
      have own : metadataUseHooks = true → (outcome i).hooks = none := by
        intro useHooks
        rwa [if_pos useHooks] at hooked
      rw [and_iff_right own]
      have pool : (state.withNext pointer).jemalloc.pool = state.jemalloc.pool.take := rfl
      simp only [pool, IndexPool.take_nth, Nat.add_right_comm i 1, Nat.add_assoc]

/-- `memkind_arena_create_map` leaves nothing behind when it returns an error, exactly when it
creates every arena or ends before the first one. An error at any later arena leaves the earlier
ones. -/
theorem memkindArenaCreateMap_leavesNothing_iff (settings : ArenaSettings) (initStatus : Status)
    (metadataUseHooks : Bool) (outcome : Nat → ArenaOutcome) (pointer : KindPtr)
    (state next : ArenaState) (status : Status) (created : List Nat)
    (sound : state.jemalloc.Sound)
    (called : memkindArenaCreateMap settings initStatus metadataUseHooks outcome pointer state =
      some (status, created, next)) :
    (status ≠ .success → LeavesNothing state next created) ↔
      createsEveryArena settings initStatus metadataUseHooks outcome pointer state ∨
        endsBeforeFirstArena settings initStatus outcome pointer state := by
  have kept := (memkindArenaCreateMap_sound sound called).1
  have spare_iff := IndexPool.topSpare_iff sound.distinct sound.used
  have unchanged : LeavesNothing state state [] := ⟨rfl, nofun, fun _ range => range⟩
  unfold memkindArenaCreateMap at called
  split at called
  · rename_i uninitialized
    obtain ⟨-, rfl, rfl⟩ := called
    exact iff_of_true (fun _ => unchanged) (.inr (.inl uninitialized))
  · rename_i initialized
    split at called
    · rename_i kind sized
      obtain ⟨positive, -, -, -⟩ := memkindSetArenaMapLen_success sized
      have succeeds : status = .success ↔
          createsEveryArena settings initStatus metadataUseHooks outcome pointer state := by
        rw [createArenas_success_iff called, createsEveryArena, sized,
          and_iff_right (not_not.mp initialized), and_iff_right rfl]
        simp only [Nat.zero_add]
      rw [← succeeds]
      by_cases success : status = .success
      · exact iff_of_true (fun failed => absurd success failed) (.inl success)
      rw [or_iff_right success, imp_iff_right success]
      obtain ⟨remaining, length⟩ := Nat.exists_eq_add_one.mpr positive
      rw [length] at called
      constructor
      · intro nothing
        obtain rfl := created_eq_nil kept (createArenas_initialized called).1 nothing.returned
        have refused := createArenas_nothing called
        rw [createArenas_refused pointer remaining refused] at called
        obtain ⟨-, -, rfl⟩ := called
        exact .inr (.inr ⟨refused, spare_iff.mpr nothing.later⟩)
      · rintro (uninitialized | unsized | ⟨refused, spare⟩)
        · exact absurd uninitialized initialized
        · rw [sized] at unsized
          exact absurd rfl unsized
        · obtain ⟨-, rfl, rfl⟩ := called.symm.trans (createArenas_refused pointer remaining refused)
          exact ⟨rfl, nofun, spare_iff.mp spare⟩
    · rename_i err kind unsized sized
      obtain ⟨-, rfl, rfl⟩ := called
      refine iff_of_true (fun _ => unchanged) (.inr (.inr (.inl ?_)))
      rw [sized]
      exact unsized

/-- `MEMKIND_ARENA_NUM_PER_KIND=4` -/
def fourArenas : ArenaSettings := { twoArenas with arenaNumEnv := some 4 }

/-- A kind with four arenas is created and destroyed. -/
def recycledFour : List RegistryAccess :=
  [.create fourArenas .success false (fun _ => ⟨true, none⟩) (.heap 0x100), .destroy (.heap 0x100)]

/-- The first arena of the first kind is refused. -/
theorem memkindArenaCreateMap_leavesNothing_first :
    ∃ next,
      memkindArenaCreateMap fourArenas .success false (fun _ => ⟨false, none⟩) (.heap 0x100)
        (AccessRun.initial fun _ => ⟨.thread, 0, 0, 0⟩).arena =
          some (.errorArenasCreate, [], next) ∧
      LeavesNothing (AccessRun.initial fun _ => ⟨.thread, 0, 0, 0⟩).arena next [] := by
  have computed : ((memkindArenaCreateMap fourArenas .success false (fun _ => ⟨false, none⟩)
      (.heap 0x100) (AccessRun.initial fun _ => ⟨.thread, 0, 0, 0⟩).arena).map fun result =>
        (result.1, result.2.1)) = some (.errorArenasCreate, []) := by
    decide +kernel
  obtain ⟨⟨status, created, next⟩, called, values⟩ := Option.map_eq_some_iff.mp computed
  obtain ⟨rfl, rfl⟩ := Prod.mk.inj values
  refine ⟨next, called, ?_⟩
  exact (memkindArenaCreateMap_leavesNothing_iff _ _ _ _ _ _ _ _ _
    (AccessRun.initial_sound _).jemalloc called).mpr (.inr (.inr (.inr ⟨rfl, .inl rfl⟩))) nofun

/-- The second arena of the next kind is refused. Its first arena stays registered for the kind,
and the range of the kind after it has a gap. -/
theorem secondArena_refused_leaves :
    ∃ run next,
      runSteps accessStep (AccessRun.initial fun _ => ⟨.thread, 0, 0, 0⟩) recycledFour =
        some run ∧
      run.arena.arenaRegistry 260 = none ∧
      (run.arena.jemalloc.pool.takeMany 4).1 = [260, 259, 258, 257] ∧
      memkindArenaCreateMap fourArenas .success false (fun i => ⟨i = 0, none⟩) (.heap 0x200)
        run.arena = some (.errorArenasCreate, [260], next) ∧
      next.arenaRegistry 260 = some (.heap 0x200) ∧
      (next.jemalloc.pool.takeMany 4).1 = [258, 257, 261, 262] ∧
      ¬LeavesNothing run.arena next [260] := by
  have computed : ((runSteps accessStep (AccessRun.initial fun _ => ⟨.thread, 0, 0, 0⟩)
      recycledFour).bind fun run =>
        (memkindArenaCreateMap fourArenas .success false (fun i => ⟨i = 0, none⟩) (.heap 0x200)
          run.arena).map fun result =>
            ((run.arena.arenaRegistry 260, (run.arena.jemalloc.pool.takeMany 4).1),
              (result.1, result.2.1),
              result.2.2.arenaRegistry 260, (result.2.2.jemalloc.pool.takeMany 4).1)) =
      some ((none, [260, 259, 258, 257]), (.errorArenasCreate, [260]),
        some (.heap 0x200), [258, 257, 261, 262]) := by
    decide +kernel
  obtain ⟨run, ran, computed⟩ := Option.bind_eq_some_iff.mp computed
  obtain ⟨⟨status, created, next⟩, called, values⟩ := Option.map_eq_some_iff.mp computed
  simp only [Prod.mk.injEq] at values
  obtain ⟨⟨before, whole⟩, ⟨rfl, rfl⟩, after, gap⟩ := values
  refine ⟨run, next, ran, before, whole, called, after, gap, ?_⟩
  intro nothing
  rw [nothing.registry, before] at after
  cases after

end Memkind
