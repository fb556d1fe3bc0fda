/-
This file follows the accesses to `arena_registry_g` up to the last index that jemalloc returns.
-/

import Memkind.Library.Run
import Memkind.Proof.Arena.Ownership

namespace Memkind

open Library

variable {i remaining : Nat} {jemalloc : Jemalloc} {outcome : Nat → ArenaOutcome}
  {settings : ArenaSettings} {initStatus status : Status} {metadataUseHooks : Bool}
  {pointer : KindPtr} {created : List Nat} {run : AccessRun} {state : ArenaState}

/-- The calls that index `arena_registry_g`. -/
inductive RegistryAccess where
  /-- `memkind_arena_create_map` for a kind without arenas, with any outcome. -/
  | create (settings : ArenaSettings) (initStatus : Status) (metadataUseHooks : Bool)
      (outcome : Nat → ArenaOutcome) (pointer : KindPtr)
  /-- `memkind_arena_destroy` for a kind with arenas. -/
  | destroy (pointer : KindPtr)
  /-- `get_kind_by_arena` for a block of the automatic arenas. -/
  | lookupAutomatic (arenaInd : Nat)
  /-- `get_kind_by_arena` for a block of a kind. -/
  | lookup (pointer : KindPtr) (arenaInd : Nat)

/-- The arenas, the indices of each kind that was created and not destroyed, and whether an access
has left `arena_registry_g`. -/
structure AccessRun where
  arena : ArenaState
  created : KindPtr → Option (List Nat)
  overrun : Bool

/-- jemalloc starts with its automatic arenas and the oversize arena. -/
def AccessRun.initial (kinds : KindPtr → ArenaKind) : AccessRun where
  arena := ⟨⟨⟨autoArenas + 1, []⟩, fun _ => false⟩, fun _ => none, kinds⟩
  created _ := none
  overrun := false

/-- One access. After an overrun nothing is defined, and no further access is taken. -/
def accessStep (access : RegistryAccess) (run : AccessRun) : Option AccessRun :=
  if run.overrun then none
  else
    match access with
    | .create settings initStatus metadataUseHooks outcome pointer =>
        if (run.created pointer).isSome then none
        else
          match memkindArenaCreateMap settings initStatus metadataUseHooks outcome pointer
              run.arena with
          | none => some { run with overrun := true }
          | some (.success, created, arena) =>
              some ⟨arena, Function.update run.created pointer (some created), false⟩
          | some (_, _, arena) => some { run with arena }
    | .destroy pointer =>
        if (run.created pointer).isSome then
          match memkindArenaDestroy pointer run.arena with
          | none => some { run with overrun := true }
          | some arena => some ⟨arena, Function.update run.created pointer none, false⟩
        else none
    | .lookupAutomatic arenaInd =>
        if arenaInd < autoArenas + 1 then
          some { run with overrun := (getKindByArena run.arena arenaInd).isNone }
        else none
    | .lookup pointer arenaInd =>
        if arenaInd ∈ (run.created pointer).getD [] then
          some { run with overrun := (getKindByArena run.arena arenaInd).isNone }
        else none

/-- The environment lets the loop of `memkind_arena_create_map` pass its iteration `i`. -/
def ArenaOutcome.granted (metadataUseHooks : Bool) (outcome : ArenaOutcome) : Bool :=
  outcome.created && (!metadataUseHooks || outcome.hooks.isNone)

/-- The last index of jemalloc is not handed out to the loop before it fails. -/
def lastIndexUnused (metadataUseHooks : Bool) (outcome : Nat → ArenaOutcome) (start count : Nat)
    (pool : IndexPool) : Prop :=
  ∀ i < count, (∀ j ≤ i, (outcome (start + j)).granted metadataUseHooks) →
    (pool.takeMany count).1[i]? ≠ some mallocxArenaMax

/-- A creation that gets to its loop does not use the last index of jemalloc. -/
def avoidsLastIndex (access : RegistryAccess) (run : AccessRun) : Prop :=
  match access with
  | .create settings initStatus metadataUseHooks outcome pointer =>
      initStatus = .success →
      ∀ kind, memkindSetArenaMapLen settings (run.arena.kinds pointer) = (.success, kind) →
      lastIndexUnused metadataUseHooks outcome 0 kind.arenaMapLen run.arena.jemalloc.pool
  | _ => True

/-- Pool and control agree: the returned indices are distinct, lie in the array, and belong to no
initialized arena. -/
structure Jemalloc.Sound (jemalloc : Jemalloc) : Prop where
  distinct : jemalloc.pool.returned.Nodup
  within : ∀ index ∈ jemalloc.pool.returned, index < mallocxArenaMax
  used : ∀ index ∈ jemalloc.pool.returned, index < jemalloc.pool.fresh
  dead : ∀ index ∈ jemalloc.pool.returned, jemalloc.initialized index = false
  unborn : ∀ index, jemalloc.initialized index = true → index < jemalloc.pool.fresh

/-- The pool of a failed initialization has lost its first returned index. -/
theorem Jemalloc.Sound.tail (sound : jemalloc.Sound) :
    Jemalloc.Sound { jemalloc with
      pool := { jemalloc.pool with returned := jemalloc.pool.returned.tail } } where
  distinct := sound.distinct.tail
  within index member := sound.within index (List.mem_of_mem_tail member)
  used index member := sound.used index (List.mem_of_mem_tail member)
  dead index member := sound.dead index (List.mem_of_mem_tail member)
  unborn := sound.unborn

/-- A successful initialization takes the next index out of the pool. -/
theorem Jemalloc.Sound.take (sound : jemalloc.Sound) :
    Jemalloc.Sound ⟨jemalloc.pool.take,
      Function.update jemalloc.initialized jemalloc.pool.next true⟩ := by
  obtain ⟨⟨fresh, returned⟩, initialized⟩ := jemalloc
  cases returned with
  | nil =>
      constructor
      · exact List.nodup_nil
      · exact nofun
      · exact nofun
      · exact nofun
      · intro index alive
        by_cases same : index = fresh
        · subst same
          exact Nat.lt_succ_self index
        · have before : initialized index = true := by
            simpa [IndexPool.next, same] using alive
          exact Nat.lt_succ_of_lt (sound.unborn index before)
  | cons first rest =>
      obtain ⟨outside, distinct⟩ := List.nodup_cons.mp sound.distinct
      constructor
      · exact distinct
      · intro index member
        exact sound.within index (List.mem_cons_of_mem first member)
      · intro index member
        exact sound.used index (List.mem_cons_of_mem first member)
      · intro index member
        have other : index ≠ first := fun same => outside (same ▸ member)
        simpa [IndexPool.next, other] using sound.dead index (List.mem_cons_of_mem first member)
      · intro index alive
        by_cases same : index = first
        · rw [same]
          exact sound.used first List.mem_cons_self
        · exact sound.unborn index (by simpa [IndexPool.next, same] using alive)

/-- A destroyed arena returns an index that the pool does not hold. -/
theorem Jemalloc.Sound.destroy (sound : jemalloc.Sound) {index : Nat}
    (inside : index < mallocxArenaMax) : (arenaIDestroy index jemalloc).Sound := by
  unfold arenaIDestroy
  split
  · rename_i alive
    have outside : index ∉ jemalloc.pool.returned := by
      intro member
      rw [sound.dead index member] at alive
      cases alive
    constructor
    · exact List.nodup_cons.mpr ⟨outside, sound.distinct⟩
    · exact List.forall_mem_cons.mpr ⟨inside, sound.within⟩
    · exact List.forall_mem_cons.mpr ⟨sound.unborn index alive, sound.used⟩
    · intro other member
      by_cases same : other = index
      · simp [same]
      · have before : other ∈ jemalloc.pool.returned :=
          (List.mem_cons.mp member).resolve_left same
        simpa [same] using sound.dead other before
    · intro other born
      by_cases same : other = index
      · simp [same] at born
      · exact sound.unborn other (by simpa [same] using born)
  · exact sound

/-- Whatever the loop returns, it leaves a sound control and every other kind. -/
theorem createArenas_sound {next : ArenaState} (sound : state.jemalloc.Sound)
    (called : createArenas pointer metadataUseHooks outcome remaining i state =
      some (status, created, next)) :
    next.jemalloc.Sound ∧ ∀ other, other ≠ pointer → next.kinds other = state.kinds other := by
  have creates := createsArenas_of_eq_some called
  clear called
  induction creates with
  | done => exact ⟨sound, fun _ _ => rfl⟩
  | refused => exact ⟨sound.tail, fun _ _ => rfl⟩
  | unhooked => exact ⟨sound.take, fun _ _ => rfl⟩
  | stored _ _ _ _ ih =>
      obtain ⟨kept, others⟩ := ih sound.take
      refine ⟨kept, fun other different => ?_⟩
      rw [others other different]
      exact Function.update_of_ne different _ _

theorem granted_iff {outcome : ArenaOutcome} :
    outcome.granted metadataUseHooks = true ↔
      outcome.created = true ∧ (if metadataUseHooks then outcome.hooks else none) = none := by
  cases metadataUseHooks with
  | false => simp [ArenaOutcome.granted]
  | true => simp [ArenaOutcome.granted]

/-- A pool whose fresh indices are past the last one does not hand it out. -/
theorem lastIndexUnused_of_past {start count : Nat} {pool : IndexPool}
    (within : ∀ index ∈ pool.returned, index < mallocxArenaMax)
    (past : mallocxArenaMax < pool.next) :
    lastIndexUnused metadataUseHooks outcome start count pool := by
  intro i _ _ last
  have member := List.mem_of_getElem? last
  rw [IndexPool.takeMany_indices] at member
  obtain ⟨fresh, returned⟩ := pool
  cases returned with
  | nil =>
      have high := (List.mem_range'_1.mp (by simpa using member)).1
      exact absurd (lt_of_lt_of_le past high) (lt_irrefl _)
  | cons first rest =>
      have low := within first List.mem_cons_self
      exact absurd past (Nat.lt_asymm low)

/-- The first iteration takes the next index, and the others take the rest. -/
theorem lastIndexUnused_succ {start count : Nat} {pool : IndexPool} :
    lastIndexUnused metadataUseHooks outcome start (count + 1) pool ↔
      ((outcome start).granted metadataUseHooks = true → pool.next ≠ mallocxArenaMax ∧
        lastIndexUnused metadataUseHooks outcome (start + 1) count pool.take) := by
  have split : (pool.takeMany (count + 1)).1 = pool.next :: (pool.take.takeMany count).1 := rfl
  constructor
  · intro unused first
    constructor
    · intro last
      refine unused 0 (Nat.succ_pos count) ?_ ?_
      · intro j low
        obtain rfl : j = 0 := Nat.le_zero.mp low
        exact first
      · rw [split, List.getElem?_cons_zero, last]
    · intro i inside granted
      have later := unused (i + 1) (Nat.succ_lt_succ inside)
      rw [split, List.getElem?_cons_succ] at later
      apply later
      intro j low
      cases j with
      | zero => exact first
      | succ j =>
          rw [← Nat.add_assoc, Nat.add_right_comm]
          exact granted j (Nat.le_of_succ_le_succ low)
  · intro step i inside granted
    obtain ⟨different, later⟩ := step (granted 0 (Nat.zero_le i))
    rw [split]
    cases i with
    | zero => simpa using different
    | succ i =>
        rw [List.getElem?_cons_succ]
        apply later i (Nat.lt_of_succ_lt_succ inside)
        intro j low
        have here := granted (j + 1) (Nat.succ_le_succ low)
        rwa [← Nat.add_assoc, Nat.add_right_comm] at here

/-- The loop stays in the array exactly when jemalloc does not hand out its last index. -/
theorem createArenas_ne_none_iff (sound : state.jemalloc.Sound) :
    createArenas pointer metadataUseHooks outcome remaining i state ≠ none ↔
      lastIndexUnused metadataUseHooks outcome i remaining state.jemalloc.pool := by
  induction remaining generalizing i state with
  | zero => exact iff_of_true nofun nofun
  | succ remaining ih =>
      by_cases past : mallocxArenaMax < state.jemalloc.pool.next
      · have refused :
            ((outcome i).created && state.jemalloc.pool.next < mallocxArenaLimit) = false := by
          have full : ¬ state.jemalloc.pool.next < mallocxArenaLimit := by
            unfold mallocxArenaMax at past
            unfold mallocxArenaLimit
            omega
          simp [full]
        rw [createArenas_refused pointer remaining refused]
        exact iff_of_true nofun (lastIndexUnused_of_past sound.within past)
      · have below : state.jemalloc.pool.next < mallocxArenaLimit := by
          unfold mallocxArenaMax at past
          unfold mallocxArenaLimit
          omega
        rw [lastIndexUnused_succ, granted_iff]
        cases created : (outcome i).created with
        | false =>
            rw [createArenas_refused pointer remaining (by simp [created])]
            exact iff_of_true nofun nofun
        | true =>
            have room :
                ((outcome i).created && state.jemalloc.pool.next < mallocxArenaLimit) = true := by
              simp [created, below]
            cases hooked : if metadataUseHooks then (outcome i).hooks else none with
            | some error =>
                rw [createArenas_unhooked pointer remaining room hooked]
                exact iff_of_true nofun nofun
            | none =>
                rw [createArenas_stored pointer remaining room hooked]
                by_cases last : mallocxArenaMax ≤ state.jemalloc.pool.next
                · rw [if_pos last]
                  apply iff_of_false
                  · exact fun distinct => distinct rfl
                  · intro step
                    exact (step ⟨rfl, rfl⟩).1 (Nat.le_antisymm (Nat.le_of_not_lt past) last)
                · rw [if_neg last, Ne, Option.map_eq_none_iff, ← Ne, ih sound.take]
                  constructor
                  · intro unused _
                    exact ⟨fun same => last (Nat.le_of_eq same.symm), unused⟩
                  · intro step
                    exact (step ⟨rfl, rfl⟩).2

/-- The invariant of the accesses: the kinds that have arenas describe them inside of the array. -/
structure AccessRun.Sound (run : AccessRun) : Prop where
  jemalloc : run.arena.jemalloc.Sound
  range : ∀ pointer created, run.created pointer = some created →
    (run.arena.kinds pointer).arenaZero + (run.arena.kinds pointer).arenaMapLen ≤ mallocxArenaMax
  created : ∀ pointer created, run.created pointer = some created →
    ∀ index ∈ created, index < mallocxArenaMax

theorem AccessRun.initial_sound (kinds : KindPtr → ArenaKind) :
    (AccessRun.initial kinds).Sound where
  jemalloc := ⟨List.nodup_nil, nofun, nofun, nofun, nofun⟩
  range := nofun
  created := nofun

/-- A creation leaves the array exactly when its loop gets the last index of jemalloc. -/
theorem memkindArenaCreateMap_ne_none_iff (sound : run.arena.jemalloc.Sound) :
    memkindArenaCreateMap settings initStatus metadataUseHooks outcome pointer run.arena ≠ none ↔
      avoidsLastIndex (.create settings initStatus metadataUseHooks outcome pointer) run := by
  unfold memkindArenaCreateMap avoidsLastIndex
  by_cases failed : initStatus = .success
  · rw [if_neg (not_not.mpr failed)]
    cases sized : memkindSetArenaMapLen settings (run.arena.kinds pointer) with
    | mk status kind =>
        cases status with
        | success =>
            refine Iff.trans (createArenas_ne_none_iff sound) ?_
            constructor
            · intro unused _ other same
              rw [sized] at same
              obtain rfl := (Prod.mk.inj same).2
              exact unused
            · intro unused
              exact unused failed kind sized
        | _ =>
            apply iff_of_true nofun
            intro _ other same
            rw [sized] at same
            cases same
  · rw [if_pos failed]
    exact iff_of_true nofun fun success => absurd success failed

/-- Whatever a creation returns, it leaves a sound control and every other kind. -/
theorem memkindArenaCreateMap_sound {next : ArenaState} (sound : state.jemalloc.Sound)
    (called : memkindArenaCreateMap settings initStatus metadataUseHooks outcome pointer state =
      some (status, created, next)) :
    next.jemalloc.Sound ∧ ∀ other, other ≠ pointer → next.kinds other = state.kinds other := by
  unfold memkindArenaCreateMap at called
  split at called
  · obtain ⟨-, -, rfl⟩ := called
    exact ⟨sound, fun _ _ => rfl⟩
  · split at called
    · obtain ⟨kept, others⟩ := createArenas_sound (by exact sound) called
      refine ⟨kept, fun other different => ?_⟩
      rw [others other different]
      exact Function.update_of_ne different _ _
    · obtain ⟨-, -, rfl⟩ := called
      exact ⟨sound, fun _ _ => rfl⟩

/-- The loop of a destruction inside of the array keeps the control sound. -/
theorem destroyArenas_sound {arenaZero : Nat} (sound : state.jemalloc.Sound)
    (inside : arenaZero + i + remaining ≤ mallocxArenaMax) :
    ∃ next, destroyArenas arenaZero remaining i state = some next ∧ next.jemalloc.Sound ∧
      next.kinds = state.kinds := by
  induction remaining generalizing i state with
  | zero => exact ⟨state, rfl, sound, rfl⟩
  | succ remaining ih =>
      have word : (arenaZero + i) % 2 ^ 32 = arenaZero + i := by
        unfold mallocxArenaMax at inside
        omega
      have index : arenaZero + i < mallocxArenaMax := by omega
      rw [destroyArenas, word, if_neg (Nat.not_le_of_lt index)]
      exact ih (sound.destroy index) (by omega)

theorem AccessRun.Sound.destroyed (sound : run.Sound) (live : (run.created pointer).isSome) :
    ∃ arena, memkindArenaDestroy pointer run.arena = some arena ∧
      AccessRun.Sound ⟨arena, Function.update run.created pointer none, false⟩ := by
  obtain ⟨created, found⟩ := Option.isSome_iff_exists.mp live
  obtain ⟨arena, called, kept, kinds⟩ : ∃ arena,
      memkindArenaDestroy pointer run.arena = some arena ∧ arena.jemalloc.Sound ∧
        arena.kinds = run.arena.kinds := by
    unfold memkindArenaDestroy
    split
    · exact destroyArenas_sound sound.jemalloc (by simpa using sound.range pointer created found)
    · exact ⟨run.arena, rfl, sound.jemalloc, rfl⟩
  have still : ∀ other list, Function.update run.created pointer none other = some list →
      run.created other = some list := by
    intro other list holds
    by_cases same : other = pointer
    · rw [same, Function.update_self] at holds
      cases holds
    · rwa [Function.update_of_ne same] at holds
  refine ⟨arena, called, kept, ?_, ?_⟩
  · intro other list holds
    rw [kinds]
    exact sound.range other list (still other list holds)
  · intro other list holds
    exact sound.created other list (still other list holds)

/-- A successful creation describes its arenas inside of the array: distinct indices below the
bound leave room for the whole range above the lowest one. -/
theorem AccessRun.Sound.createdKind (sound : run.Sound) {arena : ArenaState}
    (called : memkindArenaCreateMap settings initStatus metadataUseHooks outcome pointer run.arena =
      some (.success, created, arena)) :
    AccessRun.Sound ⟨arena, Function.update run.created pointer (some created), false⟩ := by
  obtain ⟨kept, others⟩ := memkindArenaCreateMap_sound sound.jemalloc called
  obtain ⟨kind, sized, effect⟩ := memkindArenaCreateMap_success called
  obtain ⟨positive, -, -, -⟩ := memkindSetArenaMapLen_success sized
  have taken : run.arena.jemalloc.pool.takeMany kind.arenaMapLen =
      (created, arena.jemalloc.pool) := effect.taken
  have own : arena.kinds pointer = { kind with arenaZero := created.foldl min uintMax } := by
    rw [effect.kinds, Function.update_self]
    simp only [Function.update_self]
  have room : created.length ≤ mallocxArenaMax - created.foldl min uintMax := by
    apply length_le_of_nodup
    · have distinct := IndexPool.takeMany_nodup sound.jemalloc.distinct sound.jemalloc.used
        kind.arenaMapLen
      rwa [taken] at distinct
    · exact ((le_lowest_iff created uintMax _).mp (le_refl _)).2
    · exact effect.within
  have length : created.length = kind.arenaMapLen := by
    have counted := run.arena.jemalloc.pool.takeMany_length kind.arenaMapLen
    rwa [taken] at counted
  have cases_created : ∀ {other list}, Function.update run.created pointer (some created) other =
      some list → (other = pointer ∧ list = created) ∨
        (other ≠ pointer ∧ run.created other = some list) := by
    intro other list holds
    by_cases same : other = pointer
    · rw [same, Function.update_self] at holds
      exact .inl ⟨same, (Option.some.inj holds).symm⟩
    · rw [Function.update_of_ne same] at holds
      exact .inr ⟨same, holds⟩
  refine ⟨kept, ?_, ?_⟩
  · intro other list holds
    obtain ⟨rfl, -⟩ | ⟨different, before⟩ := cases_created holds
    · simp only [own]
      omega
    · simp only [others other different]
      exact sound.range other list before
  · intro other list holds
    obtain ⟨-, rfl⟩ | ⟨-, before⟩ := cases_created holds
    · exact effect.within
    · exact sound.created other list before

/-- A failed creation leaves arenas that no kind describes. -/
theorem AccessRun.Sound.failedKind (sound : run.Sound) {arena : ArenaState}
    (idle : run.created pointer = none)
    (called : memkindArenaCreateMap settings initStatus metadataUseHooks outcome pointer run.arena =
      some (status, created, arena)) : AccessRun.Sound { run with arena } := by
  obtain ⟨kept, others⟩ := memkindArenaCreateMap_sound sound.jemalloc called
  refine ⟨kept, ?_, sound.created⟩
  intro other list holds
  have different : other ≠ pointer := by
    intro same
    rw [same, idle] at holds
    cases holds
  simp only [others other different]
  exact sound.range other list holds

theorem getKindByArena_isNone {arenaInd : Nat} (inside : arenaInd < mallocxArenaMax) :
    (getKindByArena state arenaInd).isNone = false := by
  rw [getKindByArena, if_pos inside]
  rfl

/-- In a sound state an access overruns exactly when it is a creation that gets the last index, and
otherwise the state stays sound. -/
theorem accessStep_cases {access : RegistryAccess} {next : AccessRun} (sound : run.Sound)
    (stepped : accessStep access run = some next) :
    (next.overrun = false ↔ avoidsLastIndex access run) ∧ (next.overrun = false → next.Sound) := by
  unfold accessStep at stepped
  split at stepped
  · cases stepped
  · rename_i running
    cases access with
    | create settings initStatus metadataUseHooks outcome pointer =>
        simp only at stepped
        rw [← memkindArenaCreateMap_ne_none_iff sound.jemalloc]
        split at stepped
        · cases stepped
        · rename_i idle
          split at stepped
          · rename_i overran
            obtain rfl := Option.some.inj stepped
            rw [overran]
            exact ⟨iff_of_false nofun fun distinct => distinct rfl, nofun⟩
          · rename_i created arena called
            obtain rfl := Option.some.inj stepped
            rw [called]
            exact ⟨iff_of_true rfl nofun, fun _ => sound.createdKind called⟩
          · rename_i status created arena failed called
            obtain rfl := Option.some.inj stepped
            rw [called]
            exact ⟨iff_of_true (by simpa using running) nofun,
              fun _ => sound.failedKind (by simpa using idle) called⟩
    | destroy pointer =>
        simp only at stepped
        split at stepped
        · rename_i live
          obtain ⟨arena, called, kept⟩ := sound.destroyed live
          rw [called] at stepped
          obtain rfl := Option.some.inj stepped
          exact ⟨iff_of_true rfl trivial, fun _ => kept⟩
        · cases stepped
    | lookupAutomatic arenaInd =>
        simp only at stepped
        split at stepped
        · rename_i automatic
          have inside : arenaInd < mallocxArenaMax := by
            unfold autoArenas at automatic
            unfold mallocxArenaMax
            omega
          rw [getKindByArena_isNone inside] at stepped
          obtain rfl := Option.some.inj stepped
          exact ⟨iff_of_true rfl trivial, fun _ => ⟨sound.jemalloc, sound.range, sound.created⟩⟩
        · cases stepped
    | lookup pointer arenaInd =>
        simp only at stepped
        split at stepped
        · rename_i member
          have inside : arenaInd < mallocxArenaMax := by
            cases found : run.created pointer with
            | none =>
                rw [found] at member
                cases member
            | some created =>
                rw [found] at member
                exact sound.created pointer created found arenaInd member
          rw [getKindByArena_isNone inside] at stepped
          obtain rfl := Option.some.inj stepped
          exact ⟨iff_of_true rfl trivial, fun _ => ⟨sound.jemalloc, sound.range, sound.created⟩⟩
        · cases stepped

/-- The accesses of a run stay inside of `arena_registry_g` exactly when no creation uses the last
index of jemalloc, which is the length of the array. -/
theorem accessRun_inside_iff (kinds : KindPtr → ArenaKind) (accesses : List RegistryAccess) :
    Always accessStep (fun run => run.overrun = false) (AccessRun.initial kinds) accesses ↔
      Guarded accessStep avoidsLastIndex (AccessRun.initial kinds) accesses := by
  refine always_iff_guarded_of_invariant accessStep ?_ ?_ (AccessRun.initial_sound kinds) ?_
  · intro access run next sound _ stepped
    exact (accessStep_cases sound stepped).1
  · intro access run next sound _ stepped
    exact (accessStep_cases sound stepped).2
  · rfl

/-- `MEMKIND_ARENA_NUM_PER_KIND=4096` -/
def arenas4096 : ArenaSettings := { twoArenas with arenaNumEnv := some 4096 }

def creationOf4096 : RegistryAccess :=
  .create arenas4096 .success false (fun _ => ⟨true, none⟩) (.heap 0x100)

/-- The loop stores one entry past the end of the array before jemalloc refuses an arena. -/
theorem creationOf4096_overruns :
    ∃ final, runSteps accessStep (AccessRun.initial fun _ => ⟨.thread, 0, 0, 0⟩) [creationOf4096] =
        some final ∧ final.overrun = true := by
  have sound := AccessRun.initial_sound fun _ => ⟨.thread, 0, 0, 0⟩
  have rounded : roundPow2Up 4096 = 4096 := by decide +kernel
  have used : ¬ avoidsLastIndex creationOf4096 (AccessRun.initial fun _ => ⟨.thread, 0, 0, 0⟩) := by
    intro unused
    have unusedHere := unused rfl _ rfl
    simp only [ArenaKind.withMapLen, rounded] at unusedHere
    refine unusedHere 3837 (by decide) (fun _ _ => rfl) ?_
    rw [IndexPool.takeMany_indices]
    simp [AccessRun.initial, autoArenas, mallocxArenaMax]
  have stored : memkindArenaCreateMap arenas4096 .success false (fun _ => ⟨true, none⟩) (.heap 0x100)
      (AccessRun.initial fun _ => ⟨.thread, 0, 0, 0⟩).arena = none := by
    by_contra inside
    exact used ((memkindArenaCreateMap_ne_none_iff sound.jemalloc).mp inside)
  refine ⟨{ AccessRun.initial (fun _ => ⟨.thread, 0, 0, 0⟩) with overrun := true }, ?_, rfl⟩
  simp only [runSteps_cons, accessStep, creationOf4096, stored]
  rfl

end Memkind
