/-
This file says what a successful creation and a destruction of arenas do.
-/

import Memkind.Construction.Arena
import Mathlib.Tactic.SplitIfs

namespace Memkind

open Library

/-- The control after the next index has become an arena. -/
def Jemalloc.takeNext (jemalloc : Jemalloc) : Jemalloc :=
  ⟨jemalloc.pool.take, Function.update jemalloc.initialized jemalloc.pool.next true⟩

theorem Jemalloc.takeNext_initialized (jemalloc : Jemalloc) (index : Nat) :
    jemalloc.takeNext.initialized index =
      (decide (index = jemalloc.pool.next) || jemalloc.initialized index) := by
  by_cases same : index = jemalloc.pool.next
  · simp [takeNext, same]
  · simp [takeNext, same]

/-- The state after an iteration has stored its arena. -/
def ArenaState.withNext (state : ArenaState) (pointer : KindPtr) : ArenaState where
  jemalloc := state.jemalloc.takeNext
  arenaRegistry := Function.update state.arenaRegistry state.jemalloc.pool.next (some pointer)
  kinds := Function.update state.kinds pointer
    ((state.kinds pointer).lower state.jemalloc.pool.next)

section Iteration

variable (pointer : KindPtr) {metadataUseHooks : Bool} {outcome : Nat → ArenaOutcome}
  (remaining : Nat) {i : Nat} {state : ArenaState}

/-- jemalloc has no arena for the iteration. -/
theorem createArenas_refused
    (refused : ((outcome i).created && state.jemalloc.pool.next < mallocxArenaLimit) = false) :
    createArenas pointer metadataUseHooks outcome (remaining + 1) i state =
      some (.errorArenasCreate, [], { state with
        jemalloc := { state.jemalloc with
          pool := { state.jemalloc.pool with
            returned := state.jemalloc.pool.returned.tail } } }) := by
  simp only [createArenas, ctlArenaInit, refused, Bool.false_eq_true, if_false]

/-- The hooks of the new arena cannot be installed. -/
theorem createArenas_unhooked {error : ℕ+}
    (created : ((outcome i).created && state.jemalloc.pool.next < mallocxArenaLimit) = true)
    (failed : (if metadataUseHooks then (outcome i).hooks else none) = some error) :
    createArenas pointer metadataUseHooks outcome (remaining + 1) i state =
      some (.errno error, [state.jemalloc.pool.next],
        { state with jemalloc := state.jemalloc.takeNext }) := by
  simp only [createArenas, ctlArenaInit, created, if_true, failed]
  rfl

/-- The iteration stores the new arena and the loop goes on. -/
theorem createArenas_stored
    (created : ((outcome i).created && state.jemalloc.pool.next < mallocxArenaLimit) = true)
    (hooked : (if metadataUseHooks then (outcome i).hooks else none) = none) :
    createArenas pointer metadataUseHooks outcome (remaining + 1) i state =
      if mallocxArenaMax ≤ state.jemalloc.pool.next then none
      else (createArenas pointer metadataUseHooks outcome remaining (i + 1)
          (state.withNext pointer)).map
        fun (status, created, next) => (status, state.jemalloc.pool.next :: created, next) := by
  simp only [createArenas, ctlArenaInit, created, if_true, hooked]
  rfl

end Iteration

/-- What the loop of `memkind_arena_create_map` can do from the iteration `i` on. -/
inductive CreatesArenas (pointer : KindPtr) (metadataUseHooks : Bool)
    (outcome : Nat → ArenaOutcome) :
    (remaining i : Nat) → ArenaState → Status → List Nat → ArenaState → Prop where
  | done {i state} : CreatesArenas pointer metadataUseHooks outcome 0 i state .success [] state
  | refused {remaining i state}
      (full : ((outcome i).created && state.jemalloc.pool.next < mallocxArenaLimit) = false) :
      CreatesArenas pointer metadataUseHooks outcome (remaining + 1) i state .errorArenasCreate []
        { state with
          jemalloc := { state.jemalloc with
            pool := { state.jemalloc.pool with
              returned := state.jemalloc.pool.returned.tail } } }
  | unhooked {remaining i state error}
      (room : ((outcome i).created && state.jemalloc.pool.next < mallocxArenaLimit) = true)
      (failed : (if metadataUseHooks then (outcome i).hooks else none) = some error) :
      CreatesArenas pointer metadataUseHooks outcome (remaining + 1) i state (.errno error)
        [state.jemalloc.pool.next] { state with jemalloc := state.jemalloc.takeNext }
  | stored {remaining i state status created next}
      (room : ((outcome i).created && state.jemalloc.pool.next < mallocxArenaLimit) = true)
      (hooked : (if metadataUseHooks then (outcome i).hooks else none) = none)
      (inside : state.jemalloc.pool.next < mallocxArenaMax)
      (rest : CreatesArenas pointer metadataUseHooks outcome remaining (i + 1)
        (state.withNext pointer) status created next) :
      CreatesArenas pointer metadataUseHooks outcome (remaining + 1) i state status
        (state.jemalloc.pool.next :: created) next

theorem createsArenas_of_eq_some {pointer : KindPtr} {metadataUseHooks : Bool}
    {outcome : Nat → ArenaOutcome} {remaining i : Nat} {state next : ArenaState}
    {status : Status} {created : List Nat}
    (called : createArenas pointer metadataUseHooks outcome remaining i state =
      some (status, created, next)) :
    CreatesArenas pointer metadataUseHooks outcome remaining i state status created next := by
  induction remaining generalizing i state created with
  | zero =>
      obtain ⟨rfl, rfl, rfl⟩ := called
      exact .done
  | succ remaining ih =>
      cases room : (outcome i).created && state.jemalloc.pool.next < mallocxArenaLimit with
      | false =>
          rw [createArenas_refused pointer remaining room] at called
          obtain ⟨rfl, rfl, rfl⟩ := called
          exact .refused room
      | true =>
          cases hooked : if metadataUseHooks then (outcome i).hooks else none with
          | some error =>
              rw [createArenas_unhooked pointer remaining room hooked] at called
              obtain ⟨rfl, rfl, rfl⟩ := called
              exact .unhooked room hooked
          | none =>
              rw [createArenas_stored pointer remaining room hooked] at called
              split at called
              · cases called
              · rename_i inside
                obtain ⟨⟨tailStatus, rest, after⟩, looped, result⟩ :=
                  Option.map_eq_some_iff.mp called
                obtain ⟨rfl, rfl, rfl⟩ := result
                exact .stored room hooked (Nat.lt_of_not_le inside) (ih looped)

/-- The effect of a loop that has created arenas for one kind. -/
structure ArenasCreated (pointer : KindPtr) (count : Nat) (state next : ArenaState)
    (created : List Nat) : Prop where
  taken : state.jemalloc.pool.takeMany count = (created, next.jemalloc.pool)
  within : ∀ index ∈ created, index < mallocxArenaMax
  initialized : ∀ index, next.jemalloc.initialized index =
    (decide (index ∈ created) || state.jemalloc.initialized index)
  registry : ∀ index, next.arenaRegistry index =
    if index ∈ created then some pointer else state.arenaRegistry index
  kinds : next.kinds = Function.update state.kinds pointer
    { state.kinds pointer with
      arenaZero := created.foldl min (state.kinds pointer).arenaZero }

/-- A successful loop takes its indices from the pool and registers each of them. -/
theorem createArenas_success {pointer : KindPtr} {metadataUseHooks : Bool}
    {outcome : Nat → ArenaOutcome} {remaining i : Nat} {state next : ArenaState}
    {created : List Nat}
    (called : createArenas pointer metadataUseHooks outcome remaining i state =
      some (.success, created, next)) :
    ArenasCreated pointer remaining state next created := by
  have creates := createsArenas_of_eq_some called
  clear called
  generalize success : Status.success = status at creates
  induction creates with
  | done => exact ⟨rfl, by simp, by simp, by simp, by simp⟩
  | refused => cases success
  | unhooked => cases success
  | @stored remaining i state status created next _ _ inside _ ih =>
      have tail := ih success
      constructor
      · rw [IndexPool.takeMany]
        exact congrArg (fun taken => (state.jemalloc.pool.next :: taken.1, taken.2)) tail.taken
      · exact List.forall_mem_cons.mpr ⟨inside, tail.within⟩
      · intro index
        rw [tail.initialized, ArenaState.withNext, Jemalloc.takeNext_initialized, ← Bool.or_assoc,
          List.decide_mem_cons, Bool.or_comm (decide (index ∈ created))]
        rfl
      · intro index
        rw [tail.registry]
        by_cases same : index = state.jemalloc.pool.next
        · simp [ArenaState.withNext, same]
        · simp [ArenaState.withNext, same]
      · rw [tail.kinds]
        simp only [ArenaState.withNext, Function.update_idem, Function.update_self]
        rfl

/-- A lower bound of the smallest index is a lower bound of all of them. -/
theorem le_lowest_iff (indices : List Nat) (start bound : Nat) :
    bound ≤ indices.foldl min start ↔ bound ≤ start ∧ ∀ index ∈ indices, bound ≤ index := by
  induction indices generalizing start with
  | nil => simp
  | cons index rest ih =>
      rw [List.foldl_cons, ih, List.forall_mem_cons, le_min_iff, and_assoc]

/-- The smallest index of a block is its base. -/
theorem foldl_min_block {indices : List Nat} {base size start : Nat} (positive : 0 < size)
    (block : ∀ index, index ∈ indices ↔ base ≤ index ∧ index < base + size)
    (above : base ≤ start) : indices.foldl min start = base := by
  apply le_antisymm
  · have bounds := (le_lowest_iff indices start (indices.foldl min start)).mp (le_refl _)
    exact bounds.2 base ((block base).mpr ⟨le_refl _, by omega⟩)
  · apply (le_lowest_iff indices start base).mpr
    exact ⟨above, fun index member => ((block index).mp member).1⟩

/-- A rounded number of arenas is positive and fits into 32 bits. -/
theorem roundPow2Up_bounds {v : Nat} (positive : 0 < v) (bounded : v ≤ intMax) :
    0 < roundPow2Up v ∧ roundPow2Up v < 2 ^ 32 := by
  have log : integerLog2 v ≤ 30 := by
    have small : Nat.log2 v < 31 := (Nat.log2_lt (by omega)).mpr (by unfold intMax at bounded; omega)
    unfold integerLog2 builtinClz
    omega
  unfold roundPow2Up
  split_ifs with power
  · have shifted : 2 ^ (integerLog2 v + 1) ≤ 2 ^ 31 := Nat.pow_le_pow_right (by decide) (by omega)
    have nonzero : 0 < 2 ^ (integerLog2 v + 1) := Nat.two_pow_pos _
    rw [Nat.mod_eq_of_lt (by omega)]
    omega
  · unfold intMax at bounded
    omega

/-- The number of arenas before it is rounded is positive and fits into `int`. -/
theorem ArenaSettings.calculated_bounds (settings : ArenaSettings) :
    0 < settings.calculated ∧ settings.calculated ≤ intMax := by
  have positive := settings.cpusPositive
  have bounded := settings.cpusBounded
  unfold calculated
  split_ifs with limited
  · omega
  · omega

/-- A kind with arenas has at least one, and its mask is one less than their number. -/
theorem memkindSetArenaMapLen_success {settings : ArenaSettings} {kind next : ArenaKind}
    (called : memkindSetArenaMapLen settings kind = (.success, next)) :
    0 < next.arenaMapLen ∧ next.arenaMapLen < 2 ^ 32 ∧
      next.arenaMapMask = next.arenaMapLen - 1 ∧ next.getArena = kind.getArena := by
  have sized : ∀ len, 0 < len ∧ len < 2 ^ 32 → (kind.withMapLen len) = next →
      0 < next.arenaMapLen ∧ next.arenaMapLen < 2 ^ 32 ∧
        next.arenaMapMask = next.arenaMapLen - 1 ∧ next.getArena = kind.getArena := by
    rintro len ⟨positive, bounded⟩ rfl
    refine ⟨positive, bounded, ?_, rfl⟩
    show (len + 2 ^ 32 - 1) % 2 ^ 32 = len - 1
    omega
  unfold memkindSetArenaMapLen at called
  split at called
  · exact sized 1 (by decide) (Prod.mk.inj called).2
  · split at called
    · split at called
      · cases called
      · rename_i valid
        exact sized _ (roundPow2Up_bounds (by omega) (by omega)) (Prod.mk.inj called).2
    · have bounds := settings.calculated_bounds
      exact sized _ (roundPow2Up_bounds bounds.1 bounds.2) (Prod.mk.inj called).2

/-- The effect of a loop that has destroyed the arenas of a range. -/
structure ArenasDestroyed (base count : Nat) (state next : ArenaState) : Prop where
  pool : next.jemalloc.pool = state.jemalloc.pool.giveMany (List.range' base count)
  initialized : ∀ index, index < base ∨ base + count ≤ index →
    next.jemalloc.initialized index = state.jemalloc.initialized index
  registry : ∀ index, next.arenaRegistry index =
    if base ≤ index ∧ index < base + count then none else state.arenaRegistry index
  kinds : next.kinds = state.kinds

/-- The loop returns the indices of an initialized range in ascending order. -/
theorem destroyArenas_range {arenaZero remaining i : Nat} {state : ArenaState}
    (within : arenaZero + i + remaining ≤ mallocxArenaMax)
    (initialized : ∀ index, arenaZero + i ≤ index → index < arenaZero + i + remaining →
      state.jemalloc.initialized index = true) :
    ∃ next, destroyArenas arenaZero remaining i state = some next ∧
      ArenasDestroyed (arenaZero + i) remaining state next := by
  induction remaining generalizing i state with
  | zero =>
      refine ⟨state, rfl, rfl, fun _ _ => rfl, ?_, rfl⟩
      intro index
      rw [if_neg (by omega)]
  | succ remaining ih =>
      have word : (arenaZero + i) % 2 ^ 32 = arenaZero + i := by
        unfold mallocxArenaMax at within
        omega
      have first := initialized (arenaZero + i) (le_refl _) (by omega)
      have destroyed : arenaIDestroy (arenaZero + i) state.jemalloc =
          ⟨state.jemalloc.pool.give (arenaZero + i),
            Function.update state.jemalloc.initialized (arenaZero + i) false⟩ := by
        rw [arenaIDestroy, if_pos first]
      obtain ⟨next, looped, tail⟩ := @ih (i + 1)
        { state with
          jemalloc := arenaIDestroy (arenaZero + i) state.jemalloc
          arenaRegistry := Function.update state.arenaRegistry (arenaZero + i) none }
        (by omega) (by
          intro index low high
          rw [destroyed]
          simp only
          rw [Function.update_of_ne (by omega)]
          exact initialized index (by omega) (by omega))
      refine ⟨next, ?_, ?_⟩
      · rw [destroyArenas, word, if_neg (by omega), looped]
      · constructor
        · rw [tail.pool, destroyed, List.range'_succ, IndexPool.giveMany, IndexPool.giveMany,
            List.foldl_cons]
          rfl
        · intro index outside
          rw [tail.initialized index (by omega), destroyed]
          simp only
          rw [Function.update_of_ne (by omega)]
        · intro index
          rw [tail.registry]
          simp only
          by_cases same : index = arenaZero + i
          · rw [same, if_neg (by omega), if_pos (by omega), Function.update_self]
          · rw [Function.update_of_ne same]
            split_ifs with inner outer outer
            · rfl
            · omega
            · omega
            · rfl
        · exact tail.kinds

end Memkind
