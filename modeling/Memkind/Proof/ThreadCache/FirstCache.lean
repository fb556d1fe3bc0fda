/-
This file follows the first explicit cache. Its index is 0, which the maps of the threads take for
a cache that does not exist.
-/

import Memkind.Proof.ThreadCache.Refinement

namespace Memkind

open Library

variable {outcome : FlagOutcome} {asked : Option KindPtr} {Thread : Type} [DecidableEq Thread]
  {state middle next : TcacheState Thread} {cache : Option (Tcache Thread)}

/-- The blocks change through one cache. -/
structure TcacheState.Through (cache : Option (Tcache Thread)) (state next : TcacheState Thread) :
    Prop where
  sound : next.CachesSound
  created : next.created = state.created
  maps : next.tcacheMap = state.tcacheMap
  others : ∀ other, cache ≠ some other → next.blocks.waiting other = state.blocks.waiting other

namespace TcacheState.Through

theorem refl (sound : state.CachesSound) : Through cache state state :=
  ⟨sound, rfl, rfl, fun _ _ => rfl⟩

theorem trans (first : Through cache state middle) (second : Through cache middle next) :
    Through cache state next where
  sound := second.sound
  created := second.created.trans first.created
  maps := second.maps.trans first.maps
  others other away := (second.others other away).trans (first.others other away)

theorem of_changes (sound : state.CachesSound) {added : Nat → Prop}
    {blocks : CachedHeap Nat (Tcache Thread)}
    (changes : CachedHeap.Changes cache added state.blocks blocks) :
    Through cache state { state with blocks } :=
  ⟨sound.of_same rfl rfl rfl, rfl, rfl, changes.others⟩

end TcacheState.Through

section Jemalloc

variable {arena : Nat} {ptr new : Address} {size : SizeT}

theorem TcacheState.CachesSound.jemkMallocx_through (sound : state.CachesSound) {supply : Supply}
    (called : state.jemkMallocx size arena cache supply = some (ptr, next)) :
    TcacheState.Through cache state next := by
  unfold jemkMallocx at called
  split at called
  · obtain ⟨⟨result, blocks⟩, requested, same⟩ := Option.map_eq_some_iff.mp called
    obtain ⟨rfl, rfl⟩ := same
    exact .of_changes sound (CachedHeap.request_spec requested).changes
  · cases called

theorem TcacheState.CachesSound.jemkDallocx_through (sound : state.CachesSound)
    {restock : Restock} (called : state.jemkDallocx ptr cache restock = some next) :
    TcacheState.Through cache state next := by
  unfold jemkDallocx at called
  split at called
  · obtain ⟨blocks, released, rfl⟩ := Option.map_eq_some_iff.mp called
    obtain ⟨block, -, -, changes⟩ := CachedHeap.release_spec released
    exact .of_changes sound changes
  · cases called

theorem TcacheState.CachesSound.jemkRallocx_through (sound : state.CachesSound)
    {relocation : Relocation}
    (called : state.jemkRallocx ptr size arena cache relocation = some (new, next)) :
    TcacheState.Through cache state next := by
  unfold jemkRallocx at called
  split at called
  · obtain ⟨⟨result, blocks⟩, reallocated, same⟩ := Option.map_eq_some_iff.mp called
    obtain ⟨rfl, rfl⟩ := same
    cases CachedHeap.reallocate_spec reallocated with
    | refused _ _ changes => exact .of_changes sound changes
    | resized _ _ _ same =>
        have unchanged : CachedHeap.Changes cache (fun _ => False) state.blocks blocks :=
          .of_same same
        exact .of_changes sound unchanged
    | moved _ _ requested _ changes =>
        have first := TcacheState.Through.of_changes sound requested.changes
        exact first.trans (.of_changes first.sound changes)
  · cases called

theorem TcacheState.CachesSound.jemkMallocxCheck_through (sound : state.CachesSound)
    {supply : Supply} {allowZero : Bool}
    (called : state.jemkMallocxCheck size arena cache allowZero supply = some (ptr, next)) :
    TcacheState.Through cache state next := by
  unfold jemkMallocxCheck at called
  split at called
  · obtain ⟨rfl, rfl⟩ := called
    exact .refl sound
  · exact sound.jemkMallocx_through called

end Jemalloc

/-- What one call does to the caches: a thread ends, or the call changes blocks through the cache of
its flag or through one that is not explicit. -/
inductive TcacheState.CacheEffect (outcome : FlagOutcome) (state next : TcacheState Thread) :
    Prop where
  | exit {thread : Thread} (spec : state.ExitSpec thread next)
  | flagged {thread : Thread} {partition : Nat} {size : SizeT} {cache : Option (Tcache Thread)}
      {middle : TcacheState Thread}
      (flag : state.getTcacheFlag thread partition size outcome = (cache, middle))
      (through : TcacheState.Through cache middle next)
  | plain {cache : Option (Tcache Thread)} (through : TcacheState.Through cache state next)
      (other : ∀ index, cache ≠ some (.explicit index))

/-- What the calls for the thread cache return in a call. -/
def CacheCall.flagOutcome : CacheCall Thread → FlagOutcome
  | .allocate _ _ _ outcome => outcome.flag
  | .free _ _ _ outcome => outcome.flag
  | .realloc _ _ _ _ outcome => outcome.flag
  | .create .. | .destroy _ | .defragReallocate .. | .exit _ => ⟨true, true, true⟩

section Calls

variable {partition : KindPtr → Nat} {allowZeroAllocs : KindPtr → Bool} {len : Nat}
  {thread : Thread} {kind : KindPtr} {ptr new : Address} {size : SizeT} {outcome : CacheOutcome}

namespace TcacheState.CachesSound

theorem nothing_effect (sound : state.CachesSound) (flag : FlagOutcome) :
    state.CacheEffect flag state :=
  have nothing : TcacheState.Through none state state := .refl sound
  .plain nothing nofun

theorem arenaRequest_effect (sound : state.CachesSound) {flagSize : SizeT}
    (called : state.arenaRequest partition allowZeroAllocs thread kind flagSize size outcome =
      some (ptr, next)) : state.CacheEffect outcome.flag next := by
  unfold arenaRequest at called
  split at called
  · cases flag : state.getTcacheFlag thread (partition kind) flagSize outcome.flag with
    | mk cache middle =>
        rw [flag] at called
        exact .flagged flag ((sound.getTcacheFlag_spec flag).sound.jemkMallocxCheck_through called)
  · obtain ⟨rfl, rfl⟩ := called
    exact sound.nothing_effect _

theorem jemkMalloc_effect (sound : state.CachesSound) (flag : FlagOutcome)
    (called : state.jemkMalloc thread size outcome = some (ptr, next)) :
    state.CacheEffect flag next := by
  unfold jemkMalloc at called
  split at called
  · exact .plain (sound.jemkMallocx_through called) nofun
  · cases called

theorem allocate_effect (sound : state.CachesSound) {call : NewBlock}
    (called : state.allocate partition allowZeroAllocs thread kind call outcome =
      some (ptr, next)) : state.CacheEffect outcome.flag next := by
  have refused : some ((0 : Address), state) = some (ptr, next) →
      state.CacheEffect outcome.flag next := by
    rintro ⟨⟩
    exact sound.nothing_effect _
  unfold allocate at called
  split at called
  · unfold memkindDefaultNew at called
    split at called
    · split at called
      · exact refused called
      · exact sound.jemkMalloc_effect _ called
    · split at called
      · exact refused called
      · split at called
        · exact refused called
        · exact sound.jemkMalloc_effect _ called
    · split at called
      · exact refused called
      · exact sound.jemkMalloc_effect _ called
  · split at called
    · unfold memkindArenaNew at called
      split at called
      · exact sound.arenaRequest_effect called
      · exact sound.arenaRequest_effect called
      · split at called
        · exact refused called
        · split at called
          · exact refused called
          · split at called
            · exact refused called
            · exact sound.arenaRequest_effect called
    · cases called

theorem jemkFree_effect (sound : state.CachesSound) (flag : FlagOutcome)
    (called : state.jemkFree thread ptr outcome = some next) : state.CacheEffect flag next := by
  unfold jemkFree at called
  split at called
  · obtain rfl := Option.some.inj called
    exact sound.nothing_effect _
  · exact .plain (sound.jemkDallocx_through called) nofun

theorem flagDallocx_effect (sound : state.CachesSound) {asked : Nat}
    (called : (state.getTcacheFlag thread asked size outcome.flag).2.jemkDallocx ptr
      (state.getTcacheFlag thread asked size outcome.flag).1 outcome.restock = some next) :
    state.CacheEffect outcome.flag next := by
  cases flag : state.getTcacheFlag thread asked size outcome.flag with
  | mk cache middle =>
      rw [flag] at called
      exact .flagged flag ((sound.getTcacheFlag_spec flag).sound.jemkDallocx_through called)

theorem memkindArenaFree_effect (sound : state.CachesSound)
    (called : state.memkindArenaFree partition thread kind ptr outcome = some next) :
    state.CacheEffect outcome.flag next := by
  unfold memkindArenaFree at called
  split at called
  · exact sound.jemkFree_effect _ called
  · split at called
    · exact sound.flagDallocx_effect called
    · obtain rfl := Option.some.inj called
      exact sound.nothing_effect _

theorem free_effect (sound : state.CachesSound)
    (called : state.free partition thread asked ptr outcome = some next) :
    state.CacheEffect outcome.flag next := by
  unfold free at called
  split at called
  · exact sound.memkindArenaFree_effect called
  · obtain ⟨detected, -, rest⟩ := Option.bind_eq_some_iff.mp called
    split at rest
    · exact sound.memkindArenaFree_effect rest
    · obtain rfl := Option.some.inj rest
      exact sound.nothing_effect _

theorem memkindArenaRealloc_effect (sound : state.CachesSound)
    (called : state.memkindArenaRealloc partition allowZeroAllocs thread kind ptr size outcome =
      some (new, next)) : state.CacheEffect outcome.flag next := by
  have refused : some ((0 : Address), state) = some (new, next) →
      state.CacheEffect outcome.flag next := by
    rintro ⟨⟩
    exact sound.nothing_effect _
  unfold memkindArenaRealloc at called
  split at called
  · exact sound.flagDallocx_effect (map_zero_eq_some called).2
  · split at called
    · exact refused called
    · split at called
      · exact sound.arenaRequest_effect called
      · split at called
        · exact refused called
        · cases flag : state.getTcacheFlag thread (partition kind) size outcome.flag with
          | mk cache middle =>
              rw [flag] at called
              exact .flagged flag
                ((sound.getTcacheFlag_spec flag).sound.jemkRallocx_through called)

theorem memkindDefaultRealloc_effect (sound : state.CachesSound) (flag : FlagOutcome)
    (called : state.memkindDefaultRealloc allowZeroAllocs thread ptr size outcome =
      some (new, next)) : state.CacheEffect flag next := by
  unfold memkindDefaultRealloc at called
  split at called
  · exact sound.jemkFree_effect _ (map_zero_eq_some called).2
  · unfold jemkRealloc at called
    split at called
    · exact sound.jemkMalloc_effect _ called
    · split at called
      · exact sound.jemkFree_effect _ (map_zero_eq_some called).2
      · split at called
        · exact .plain (sound.jemkRallocx_through called) nofun
        · cases called

theorem reallocKind_effect (sound : state.CachesSound)
    (called : state.reallocKind partition allowZeroAllocs thread kind ptr size outcome =
      some (new, next)) : state.CacheEffect outcome.flag next := by
  unfold reallocKind at called
  split at called
  · exact sound.memkindDefaultRealloc_effect _ called
  · split at called
    · exact sound.memkindArenaRealloc_effect called
    · cases called

theorem realloc_effect (sound : state.CachesSound)
    (called : state.realloc partition allowZeroAllocs thread asked ptr size outcome =
      some (new, next)) : state.CacheEffect outcome.flag next := by
  unfold realloc at called
  split at called
  · exact sound.reallocKind_effect called
  · obtain ⟨detected, -, rest⟩ := Option.bind_eq_some_iff.mp called
    split at rest
    · exact sound.reallocKind_effect rest
    · obtain ⟨rfl, rfl⟩ := rest
      exact sound.nothing_effect _

theorem memkindArenaMallocNoTcache_through (sound : state.CachesSound)
    (called : state.memkindArenaMallocNoTcache allowZeroAllocs kind size outcome =
      some (ptr, next)) : TcacheState.Through none state next := by
  unfold memkindArenaMallocNoTcache at called
  split at called
  · split at called
    · exact sound.jemkMallocxCheck_through called
    · cases called
  · split at called
    · exact sound.jemkMallocxCheck_through called
    · obtain ⟨rfl, rfl⟩ := called
      exact .refl sound

theorem memkindArenaDefragReallocate_effect (sound : state.CachesSound) (flag : FlagOutcome)
    {checked : Bool}
    (called : state.memkindArenaDefragReallocate allowZeroAllocs kind ptr checked outcome =
      some (new, next)) : state.CacheEffect flag next := by
  unfold memkindArenaDefragReallocate at called
  split at called
  · obtain ⟨rfl, rfl⟩ := called
    exact sound.nothing_effect _
  · split at called
    · obtain ⟨rfl, rfl⟩ := called
      exact sound.nothing_effect _
    · obtain ⟨block, -, rest⟩ := Option.bind_eq_some_iff.mp called
      obtain ⟨⟨target, middle⟩, allocated, rest⟩ := Option.bind_eq_some_iff.mp rest
      have first := sound.memkindArenaMallocNoTcache_through allocated
      simp only at rest
      split at rest
      · obtain ⟨rfl, rfl⟩ := rest
        exact .plain first nofun
      · obtain ⟨after, released, result⟩ := Option.map_eq_some_iff.mp rest
        obtain ⟨rfl, rfl⟩ := result
        exact .plain (first.trans (first.sound.jemkDallocx_through released)) nofun

theorem defragReallocate_effect (sound : state.CachesSound) (flag : FlagOutcome) {checked : Bool}
    (called : state.defragReallocate allowZeroAllocs asked ptr checked outcome = some (new, next)) :
    state.CacheEffect flag next := by
  unfold defragReallocate at called
  split at called
  · split at called
    · exact sound.memkindArenaDefragReallocate_effect _ called
    · cases called
  · obtain ⟨detected, -, rest⟩ := Option.bind_eq_some_iff.mp called
    split at rest
    · exact sound.memkindArenaDefragReallocate_effect _ rest
    · obtain ⟨rfl, rfl⟩ := rest
      exact sound.nothing_effect _

theorem sameCaches_effect (sound : state.CachesSound) (flag : FlagOutcome)
    (same : state.SameCaches next) : state.CacheEffect flag next :=
  have through : TcacheState.Through none state next :=
    ⟨sound.of_same same.tcaches same.created same.maps, same.created, same.maps,
      fun other _ => same.waiting other⟩
  .plain through nofun

end TcacheState.CachesSound

/-- What each call does to the caches -/
theorem cacheCall_effect (sound : state.CachesSound) {call : CacheCall Thread}
    (called : cacheCall partition allowZeroAllocs len call state = some (ptr, next)) :
    state.CacheEffect call.flagOutcome next := by
  cases call with
  | create settings metadataUseHooks outcome kind =>
      obtain ⟨-, created⟩ := map_zero_eq_some called
      obtain ⟨-, -, -, -, -, -, same⟩ := TcacheState.createMap_spec created
      exact sound.sameCaches_effect _ same
  | destroy address =>
      obtain ⟨-, destroyed⟩ := map_zero_eq_some called
      obtain ⟨-, -, -, -, same⟩ := TcacheState.destroyMap_spec destroyed
      exact sound.sameCaches_effect _ same
  | allocate thread kind call outcome => exact sound.allocate_effect called
  | free thread kind ptr outcome => exact sound.free_effect (map_zero_eq_some called).2
  | realloc thread kind ptr size outcome => exact sound.realloc_effect called
  | defragReallocate kind ptr checked outcome => exact sound.defragReallocate_effect _ called
  | exit thread =>
      obtain ⟨after, ended, spec⟩ := sound.exit_spec thread
      have isAfter := (map_zero_eq_some called).2
      rw [ended] at isAfter
      obtain rfl := Option.some.inj isAfter
      exact .exit spec

end Calls

/-- Once the first cache exists, it stays and keeps its blocks. -/
theorem TcacheState.CacheEffect.keeps_first (sound : state.CachesSound)
    (effect : state.CacheEffect outcome next) :
    next.CachesSound ∧ (state.created 0 = true → next.created 0 = true ∧
      next.blocks.waiting (.explicit 0) = state.blocks.waiting (.explicit 0)) := by
  cases effect with
  | @exit thread spec =>
      have unused : ∀ partition, ¬state.Uses thread partition 0 := fun partition uses => uses.1 rfl
      refine ⟨spec.sound, fun exist => ⟨?_, spec.unused 0 unused⟩⟩
      exact (spec.created 0).mpr ⟨exist, unused⟩
  | @flagged thread partition size cache middle flag through =>
      have spec := sound.getTcacheFlag_spec flag
      refine ⟨through.sound, fun exist => ⟨?_, ?_⟩⟩
      · rw [through.created]
        exact spec.kept 0 exist
      · have other : cache ≠ some (.explicit 0) := by
          intro isFirst
          obtain ⟨index, same, -, -, -, uses | absent⟩ := spec.usable _ isFirst
          · cases same
            exact uses.1 rfl
          · cases same
            rw [exist] at absent
            cases absent
        rw [through.others _ other, spec.blocks]
  | @plain cache through other =>
      refine ⟨through.sound, fun exist => ⟨?_, through.others _ (other 0)⟩⟩
      rw [through.created]
      exact exist

/-- From the call that creates the first thread cache on, the blocks in this cache never leave it:
no request gets them, and no end of a thread returns them to their arenas. -/
theorem cacheRun_first_cache_lost (partition : KindPtr → Nat) (allowZeroAllocs : KindPtr → Bool)
    (len : Nat) (kinds : KindPtr → ArenaKind) (before after : List (CacheCall Thread))
    (ran : runSteps (cacheStep partition allowZeroAllocs len) (TcacheState.initial Thread kinds)
      before = some middle)
    (created : 0 < middle.tcaches.fresh)
    (later : runSteps (cacheStep partition allowZeroAllocs len) middle after = some next) :
    next.created 0 = true ∧
      next.blocks.waiting (.explicit 0) = middle.blocks.waiting (.explicit 0) := by
  have kept : ∀ (call : CacheCall Thread) (state next : TcacheState Thread), state.CachesSound →
      cacheStep partition allowZeroAllocs len call state = some next →
      next.CachesSound ∧ (state.created 0 = true → next.created 0 = true ∧
        next.blocks.waiting (.explicit 0) = state.blocks.waiting (.explicit 0)) := by
    intro call state next sound stepped
    obtain ⟨ptr, called⟩ := cacheStep_eq_some stepped
    exact (cacheCall_effect sound called).keeps_first sound
  have middleSound : middle.CachesSound :=
    runSteps_invariant _ TcacheState.CachesSound
      (fun call state next sound stepped => (kept call state next sound stepped).1)
      (TcacheState.CachesSound.initial kinds) ran
  have invariant : next.CachesSound ∧ next.created 0 = true ∧
      next.blocks.waiting (.explicit 0) = middle.blocks.waiting (.explicit 0) := by
    refine runSteps_invariant _ (fun state : TcacheState Thread =>
      state.CachesSound ∧ state.created 0 = true ∧
        state.blocks.waiting (.explicit 0) = middle.blocks.waiting (.explicit 0)) ?_
      ⟨middleSound, middleSound.first created, rfl⟩ later
    rintro call state next ⟨sound, exist, waiting⟩ stepped
    obtain ⟨nextSound, first⟩ := kept call state next sound stepped
    obtain ⟨nextExist, same⟩ := first exist
    exact ⟨nextSound, nextExist, same.trans waiting⟩
  exact invariant.2

theorem cacheRun_first_cache_lost_sharedBlocks :
    ∃ middle next : TcacheState Bool,
      runSteps (cacheStep builtPartition (fun _ => false) 2)
        (TcacheState.initial Bool fun _ => ⟨.thread, 0, 0, 0⟩) (sharedBlocks.take 2) =
          some middle ∧
      (middle.blocks.waiting (.explicit 0) 0x2000).isSome ∧
      runSteps (cacheStep builtPartition (fun _ => false) 2) middle (sharedBlocks.drop 2) =
        some next ∧
      next.created 0 = true ∧
        next.blocks.waiting (.explicit 0) = middle.blocks.waiting (.explicit 0) := by
  have enabled : ((runSteps (cacheStep builtPartition (fun _ => false) 2)
      (TcacheState.initial Bool fun _ => ⟨.thread, 0, 0, 0⟩) (sharedBlocks.take 2)).bind
        fun middle =>
          if 0 < middle.tcaches.fresh ∧ (middle.blocks.waiting (.explicit 0) 0x2000).isSome then
            runSteps (cacheStep builtPartition (fun _ => false) 2) middle (sharedBlocks.drop 2)
          else none).isSome := by decide +kernel
  obtain ⟨next, ran⟩ := Option.isSome_iff_exists.mp enabled
  obtain ⟨middle, before, rest⟩ := Option.bind_eq_some_iff.mp ran
  obtain ⟨created, after⟩ := Option.ite_none_right_eq_some.mp rest
  exact ⟨middle, next, before, created.2, after,
    cacheRun_first_cache_lost _ _ 2 _ (sharedBlocks.take 2) (sharedBlocks.drop 2) before created.1
      after⟩

/-- Every cache that exists has a user, apart from the first one. -/
def TcacheState.AllUsed (state : TcacheState Thread) : Prop :=
  ∀ index, state.created index = true → index ≠ 0 →
    ∃ thread partition, state.Uses thread partition index

/-- A map that the thread can find again records the cache that was created for it. -/
theorem TcacheState.CachesSound.tcacheOfMap_used (sound : state.CachesSound) {thread : Thread}
    {map : Nat → Nat} {partition : Nat} (inside : partition < numStaticKinds)
    (found : state.tcacheMap thread = some map) (used : state.AllUsed)
    (called : state.tcacheOfMap thread map true partition outcome = (cache, next)) :
    next.AllUsed := by
  have spec := sound.tcacheOfMap_spec inside called (fun _ => found) nofun
  unfold tcacheOfMap at called
  split at called
  · rcases state.tcachesCreate_eq outcome.tcacheCreated with refused | granted
    · rw [refused] at called
      obtain ⟨rfl, rfl⟩ := called
      exact used
    · rw [granted] at called
      obtain ⟨rfl, rfl⟩ := called
      intro index exist nonzero
      by_cases new : index = state.tcaches.next
      · refine ⟨thread, partition, nonzero, _, Function.update_self _ _ _, ?_⟩
        rw [Function.update_self, new]
      · have before : state.created index = true :=
          (Function.update_of_ne new _ _).symm.trans exist
        obtain ⟨user, place, uses⟩ := used index before nonzero
        exact ⟨user, place, spec.usesKept _ _ _ uses⟩
  · obtain ⟨rfl, rfl⟩ := called
    exact used

theorem TcacheState.CachesSound.getTcacheFlag_used (sound : state.CachesSound) {thread : Thread}
    {partition : Nat} {size : SizeT} (stored : outcome.mapStored = true) (used : state.AllUsed)
    (called : state.getTcacheFlag thread partition size outcome = (cache, next)) :
    next.AllUsed := by
  unfold getTcacheFlag at called
  split at called
  · obtain ⟨rfl, rfl⟩ := called
    exact used
  · rename_i cached
    have inside : partition < numStaticKinds := by
      rw [not_or] at cached
      exact Nat.lt_of_not_le cached.2
    split at called
    · rename_i map found
      exact sound.tcacheOfMap_used inside found used called
    · rename_i absent
      split at called
      · simp only [stored] at called
        have uses_iff := state.uses_emptyMap absent
        have blank := sound.fewer fun _ _ _ uses => (uses_iff _ _ _).mp uses
        refine blank.tcacheOfMap_used inside (Function.update_self _ _ _) ?_ called
        intro index exist nonzero
        obtain ⟨user, place, uses⟩ := used index exist nonzero
        exact ⟨user, place, (uses_iff _ _ _).mpr uses⟩
      · obtain ⟨rfl, rfl⟩ := called
        exact used

theorem TcacheState.CacheEffect.keeps_used (sound : state.CachesSound)
    (effect : state.CacheEffect outcome next) (stored : outcome.mapStored = true)
    (used : state.AllUsed) : next.AllUsed := by
  have through_used : ∀ {cache : Option (Tcache Thread)} {middle : TcacheState Thread},
      TcacheState.Through cache middle next → middle.AllUsed → next.AllUsed := by
    intro cache middle through middleUsed index exist nonzero
    rw [through.created] at exist
    obtain ⟨thread, partition, uses⟩ := middleUsed index exist nonzero
    refine ⟨thread, partition, ?_⟩
    unfold Uses at uses ⊢
    rwa [through.maps]
  cases effect with
  | exit spec =>
      intro index exist nonzero
      obtain ⟨before, unused⟩ := (spec.created index).mp exist
      obtain ⟨user, partition, uses⟩ := used index before nonzero
      refine ⟨user, partition, (spec.uses _ _ _).mpr ⟨?_, uses⟩⟩
      rintro rfl
      exact unused partition uses
  | flagged flag through => exact through_used through (sound.getTcacheFlag_used stored used flag)
  | plain through _ => exact through_used through used

/-- When every map could be stored and no thread is left that has one, every explicit cache has
been destroyed but the first one. -/
theorem cacheRun_other_caches_destroyed (partition : KindPtr → Nat)
    (allowZeroAllocs : KindPtr → Bool) (len : Nat) (kinds : KindPtr → ArenaKind)
    (calls : List (CacheCall Thread)) (stored : ∀ call ∈ calls, call.flagOutcome.mapStored = true)
    (ran : runSteps (cacheStep partition allowZeroAllocs len) (TcacheState.initial Thread kinds)
      calls = some state)
    (ended : ∀ thread, state.tcacheMap thread = none) (index : Nat) :
    state.created index = true ↔ index = 0 ∧ 0 < state.tcaches.fresh := by
  have kept : ∀ (call : CacheCall Thread) (before after : TcacheState Thread),
      call.flagOutcome.mapStored = true → before.CachesSound ∧ before.AllUsed →
      cacheStep partition allowZeroAllocs len call before = some after →
      after.CachesSound ∧ after.AllUsed := by
    rintro call before after isStored ⟨sound, used⟩ stepped
    obtain ⟨ptr, called⟩ := cacheStep_eq_some stepped
    have effect := cacheCall_effect sound called
    exact ⟨(effect.keeps_first sound).1, effect.keeps_used sound isStored used⟩
  have start : (TcacheState.initial Thread kinds).AllUsed := nofun
  obtain ⟨sound, used⟩ := runSteps_invariant_of_valid _ kept ⟨.initial kinds, start⟩ stored ran
  constructor
  · intro exist
    have zero : index = 0 := by
      by_contra nonzero
      obtain ⟨thread, place, -, map, found, -⟩ := used index exist nonzero
      rw [ended thread] at found
      cases found
    subst zero
    exact ⟨rfl, sound.known 0 exist⟩
  · rintro ⟨rfl, created⟩
    exact sound.first created

theorem cacheRun_other_caches_destroyed_sharedBlocks :
    ∃ state : TcacheState Bool,
      runSteps (cacheStep builtPartition (fun _ => false) 2)
        (TcacheState.initial Bool fun _ => ⟨.thread, 0, 0, 0⟩) sharedBlocks = some state ∧
      0 < state.tcaches.fresh ∧
      ∀ index, state.created index = true ↔ index = 0 ∧ 0 < state.tcaches.fresh := by
  have enabled : ((runSteps (cacheStep builtPartition (fun _ => false) 2)
      (TcacheState.initial Bool fun _ => ⟨.thread, 0, 0, 0⟩) sharedBlocks).filter fun state =>
        0 < state.tcaches.fresh ∧ ∀ thread, state.tcacheMap thread = none).isSome := by
    decide +kernel
  obtain ⟨state, found⟩ := Option.isSome_iff_exists.mp enabled
  obtain ⟨ran, ended⟩ := Option.filter_eq_some_iff.mp found
  obtain ⟨created, ended⟩ := decide_eq_true_iff.mp ended
  exact ⟨state, ran, created, cacheRun_other_caches_destroyed _ _ 2 _ sharedBlocks
    (by decide +kernel) ran ended⟩

end Memkind
