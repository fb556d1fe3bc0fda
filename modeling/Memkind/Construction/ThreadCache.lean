/-
This file embeds the thread caches of `memkind_arena.c` over the explicit caches of jemalloc, and
the calls that allocate, free and move blocks through them.
-/

import Memkind.Construction.HeapManager
import Memkind.Construction.KindCalls
import Memkind.Library.CachedHeap

namespace Memkind

open Library

/-- `MALLOCX_TCACHE_MAX` -/
def mallocxTcacheMax : Nat := 2 ^ 12 - 3

/-- The caches of jemalloc: every thread has one, and `tcache.create` makes more. -/
inductive Tcache (Thread : Type) where
  | automatic (thread : Thread)
  | explicit (index : Nat)
  deriving DecidableEq

/-- The arenas and the kinds that have some, the blocks outside of the arenas, the explicit caches
(`tcaches_past`, `tcaches_avail` and whether an element has a cache), and the map of each thread
that `tcache_key` leads to. -/
structure TcacheState (Thread : Type) where
  arena : ArenaState
  initialized : KindPtr → Bool
  blocks : CachedHeap Nat (Tcache Thread)
  tcaches : IndexPool
  created : Nat → Bool
  tcacheMap : Thread → Option (Nat → Nat)

/-- A process that has made no call. The first explicit cache gets the index 0. -/
def TcacheState.initial (Thread : Type) (kinds : KindPtr → ArenaKind) : TcacheState Thread where
  arena := ⟨⟨⟨autoArenas + 1, []⟩, fun _ => false⟩, fun _ => none, kinds⟩
  initialized _ := false
  blocks := .empty
  tcaches := ⟨0, []⟩
  created _ := false
  tcacheMap _ := none

/-- What the calls of `get_tcache_flag` return: whether there is memory for the map, whether
`pthread_setspecific` keeps it, and whether jemalloc can make a cache. -/
structure FlagOutcome where
  mapAllocated : Bool
  mapStored : Bool
  tcacheCreated : Bool

/-- What decides about one call: the arena of the thread and whether `ops->get_arena` finds it, the
calls for the thread cache, and what jemalloc does with the request or with the old block. -/
structure CacheOutcome where
  choice : ArenaChoice
  getArena : Bool
  flag : FlagOutcome
  supply : Supply
  restock : Restock
  relocation : Relocation

section Jemalloc

variable {Thread : Type} [DecidableEq Thread]

/-- `tcaches_create` -/
def TcacheState.tcachesCreate (granted : Bool) (state : TcacheState Thread) :
    Option Nat × TcacheState Thread :=
  if granted && state.tcaches.next ≤ mallocxTcacheMax then
    (some state.tcaches.next, { state with
      tcaches := state.tcaches.take
      created := Function.update state.created state.tcaches.next true })
  else (none, state)

/-- `tcaches_destroy` empties the cache. An element without a cache would enter the list of the
available ones twice. -/
def TcacheState.tcachesDestroy (index : Nat) (state : TcacheState Thread) :
    Option (TcacheState Thread) :=
  if state.created index then
    some { state with
      blocks := state.blocks.flush (.explicit index)
      tcaches := state.tcaches.give index
      created := Function.update state.created index false }
  else none

/-- `tcaches_get` needs an element with a cache. -/
def TcacheState.available (cache : Option (Tcache Thread)) (state : TcacheState Thread) : Bool :=
  match cache with
  | some (.explicit index) => state.created index
  | _ => true

/-- `jemk_mallocx` with `MALLOCX_ARENA` and a cache or `MALLOCX_TCACHE_NONE`. -/
def TcacheState.jemkMallocx (size : SizeT) (arena : Nat) (cache : Option (Tcache Thread))
    (supply : Supply) (state : TcacheState Thread) : Option (Address × TcacheState Thread) :=
  if state.available cache then
    (state.blocks.request arena cache size supply).map fun (ptr, blocks) =>
      (ptr, { state with blocks })
  else none

/-- `jemk_dallocx` -/
def TcacheState.jemkDallocx (ptr : Address) (cache : Option (Tcache Thread)) (restock : Restock)
    (state : TcacheState Thread) : Option (TcacheState Thread) :=
  if state.available cache then
    (state.blocks.release cache ptr restock).map fun blocks => { state with blocks }
  else none

/-- `jemk_rallocx` -/
def TcacheState.jemkRallocx (ptr : Address) (size : SizeT) (arena : Nat)
    (cache : Option (Tcache Thread)) (relocation : Relocation) (state : TcacheState Thread) :
    Option (Address × TcacheState Thread) :=
  if state.available cache then
    (state.blocks.reallocate arena cache ptr size relocation).map fun (new, blocks) =>
      (new, { state with blocks })
  else none

/-- `jemk_malloc` takes one of the automatic arenas and the cache of the thread. -/
def TcacheState.jemkMalloc (thread : Thread) (size : SizeT) (outcome : CacheOutcome)
    (state : TcacheState Thread) : Option (Address × TcacheState Thread) :=
  if outcome.choice.automatic ≤ autoArenas then
    state.jemkMallocx size outcome.choice.automatic (some (.automatic thread)) outcome.supply
  else none

/-- `jemk_free` -/
def TcacheState.jemkFree (thread : Thread) (ptr : Address) (outcome : CacheOutcome)
    (state : TcacheState Thread) : Option (TcacheState Thread) :=
  if ptr = 0 then some state
  else state.jemkDallocx ptr (some (.automatic thread)) outcome.restock

/-- `jemk_realloc`, where the size 0 frees a block. -/
def TcacheState.jemkRealloc (thread : Thread) (ptr : Address) (size : SizeT)
    (outcome : CacheOutcome) (state : TcacheState Thread) :
    Option (Address × TcacheState Thread) :=
  if ptr = 0 then state.jemkMalloc thread size outcome
  else if size = 0 then (state.jemkFree thread ptr outcome).map (0, ·)
  else if outcome.choice.automatic ≤ autoArenas then
    state.jemkRallocx ptr size outcome.choice.automatic (some (.automatic thread))
      outcome.relocation
  else none

/-- `jemk_arenalookupx` -/
def TcacheState.arenalookupx (state : TcacheState Thread) (ptr : Address) : Nat :=
  ((state.blocks.held ptr).map fun block => block.tag.home).getD 0

/-- `memkind_arena_detect_kind` -/
def TcacheState.detectKind (ptr : Address) (state : TcacheState Thread) :
    Option (Option KindPtr) :=
  memkindArenaDetectKind state.arenalookupx ptr state.arena

end Jemalloc

section Caches

variable {Thread : Type} [DecidableEq Thread]

/-- The end of `get_tcache_flag`, with the map of the thread and whether `tcache_key` leads to it.
The entry 0 stands for a cache that has not been created. -/
def TcacheState.tcacheOfMap (thread : Thread) (map : Nat → Nat) (kept : Bool) (partition : Nat)
    (outcome : FlagOutcome) (state : TcacheState Thread) :
    Option (Tcache Thread) × TcacheState Thread :=
  if map partition = 0 then
    match state.tcachesCreate outcome.tcacheCreated with
    | (none, state) => (none, state)
    | (some index, state) =>
        (some (.explicit index), if kept then
          { state with
            tcacheMap := Function.update state.tcacheMap thread
              (some (Function.update map partition index)) }
          else state)
  else (some (.explicit (map partition)), state)

/-- `get_tcache_flag`, where `none` is `MALLOCX_TCACHE_NONE`. -/
def TcacheState.getTcacheFlag (thread : Thread) (partition : Nat) (size : SizeT)
    (outcome : FlagOutcome) (state : TcacheState Thread) :
    Option (Tcache Thread) × TcacheState Thread :=
  if tcacheMax < size ∨ numStaticKinds ≤ partition then (none, state)
  else
    match state.tcacheMap thread with
    | some map => state.tcacheOfMap thread map true partition outcome
    | none =>
        if outcome.mapAllocated then
          -- The result of `pthread_setspecific` is ignored.
          TcacheState.tcacheOfMap thread (fun _ => 0) outcome.mapStored partition outcome
            (if outcome.mapStored then
              { state with tcacheMap := Function.update state.tcacheMap thread (some fun _ => 0) }
            else state)
        else (none, state)

/-- The loop of `tcache_finalize`. -/
def destroyTcaches (map : Nat → Nat) :
    (remaining i : Nat) → TcacheState Thread → Option (TcacheState Thread)
  | 0, _, state => some state
  | remaining + 1, i, state =>
      if map i ≠ 0 then
        (state.tcachesDestroy (map i)).bind (destroyTcaches map remaining (i + 1))
      else destroyTcaches map remaining (i + 1) state

/-- A thread ends: `tcache_finalize` destroys the caches of its map, and jemalloc empties the cache
of the thread. -/
def TcacheState.exit (thread : Thread) (state : TcacheState Thread) :
    Option (TcacheState Thread) :=
  let cleared := { state with
    blocks := state.blocks.flush (.automatic thread)
    tcacheMap := Function.update state.tcacheMap thread none }
  match state.tcacheMap thread with
  | none => some cleared
  | some map => destroyTcaches map numStaticKinds 0 cleared

end Caches

/-- The calls for a new block. -/
inductive NewBlock where
  | malloc (size : SizeT)
  | calloc (num size : SizeT)
  | posixMemalign (alignment size : SizeT)
  deriving DecidableEq

section Calls

variable {Thread : Type} [DecidableEq Thread] (partition : KindPtr → Nat)
  (allowZeroAllocs : KindPtr → Bool)

/-- `jemk_mallocx_check` -/
def TcacheState.jemkMallocxCheck (size : SizeT) (arena : Nat) (cache : Option (Tcache Thread))
    (allowZero : Bool) (supply : Supply) (state : TcacheState Thread) :
    Option (Address × TcacheState Thread) :=
  if !allowZero && size = 0 then some (0, state) else state.jemkMallocx size arena cache supply

/-- The body that the arena functions for a new block share: the size for the thread cache and the
size of the request need not agree. -/
def TcacheState.arenaRequest (thread : Thread) (kind : KindPtr) (flagSize size : SizeT)
    (outcome : CacheOutcome) (state : TcacheState Thread) :
    Option (Address × TcacheState Thread) :=
  if outcome.getArena then
    let (cache, next) := state.getTcacheFlag thread (partition kind) flagSize outcome.flag
    next.jemkMallocxCheck size ((state.arena.kinds kind).choose outcome.choice) cache
      (allowZeroAllocs kind) outcome.supply
  else some (0, state)

/-- `memkind_arena_malloc`, `memkind_arena_calloc` and `memkind_arena_posix_memalign`, the last with
the content of `*memptr`. -/
def TcacheState.memkindArenaNew (thread : Thread) (kind : KindPtr) (call : NewBlock)
    (outcome : CacheOutcome) (state : TcacheState Thread) :
    Option (Address × TcacheState Thread) :=
  match call with
  | .malloc size => state.arenaRequest partition allowZeroAllocs thread kind size size outcome
  | .calloc num size =>
      state.arenaRequest partition allowZeroAllocs thread kind size (num * size) outcome
  | .posixMemalign alignment size =>
      if !outcome.getArena then some (0, state)
      else if memkindPosixCheckAlignment alignment ≠ .success then some (0, state)
      else if !allowZeroAllocs kind && sizeOutOfBounds size then some (0, state)
      else state.arenaRequest partition allowZeroAllocs thread kind size size outcome

/-- `memkind_default_malloc`, `memkind_default_calloc` and `memkind_default_posix_memalign`. jemalloc
refuses a product that does not fit. -/
def TcacheState.memkindDefaultNew (thread : Thread) (call : NewBlock) (outcome : CacheOutcome)
    (state : TcacheState Thread) : Option (Address × TcacheState Thread) :=
  match call with
  | .malloc size =>
      if !allowZeroAllocs memkindDefault && sizeOutOfBounds size then some (0, state)
      else state.jemkMalloc thread size outcome
  | .calloc num size =>
      if !allowZeroAllocs memkindDefault && (sizeOutOfBounds num || sizeOutOfBounds size) then
        some (0, state)
      else if 2 ^ 64 ≤ num.toNat * size.toNat then some (0, state)
      else state.jemkMalloc thread (num * size) outcome
  | .posixMemalign _ size =>
      if !allowZeroAllocs memkindDefault && sizeOutOfBounds size then some (0, state)
      else state.jemkMalloc thread size outcome

/-- `ops->malloc`, `ops->calloc` and `ops->posix_memalign` of a kind whose arenas exist. -/
def TcacheState.allocate (thread : Thread) (kind : KindPtr) (call : NewBlock)
    (outcome : CacheOutcome) (state : TcacheState Thread) :
    Option (Address × TcacheState Thread) :=
  if kind = memkindDefault then state.memkindDefaultNew allowZeroAllocs thread call outcome
  else if state.initialized kind then
    state.memkindArenaNew partition allowZeroAllocs thread kind call outcome
  else none

/-- `memkind_arena_free` -/
def TcacheState.memkindArenaFree (thread : Thread) (kind : KindPtr) (ptr : Address)
    (outcome : CacheOutcome) (state : TcacheState Thread) : Option (TcacheState Thread) :=
  if kind = memkindDefault then state.jemkFree thread ptr outcome
  else if ptr ≠ 0 then
    let (cache, next) := state.getTcacheFlag thread (partition kind) 0 outcome.flag
    next.jemkDallocx ptr cache outcome.restock
  else some state

/-- `memkind_free`: without a kind, the arena of the block tells it. -/
def TcacheState.free (thread : Thread) (kind : Option KindPtr) (ptr : Address)
    (outcome : CacheOutcome) (state : TcacheState Thread) : Option (TcacheState Thread) :=
  match kind with
  | some kind => state.memkindArenaFree partition thread kind ptr outcome
  | none => (state.detectKind ptr).bind fun kind =>
      match kind with
      | some kind => state.memkindArenaFree partition thread kind ptr outcome
      | none => some state

/-- `memkind_arena_realloc` -/
def TcacheState.memkindArenaRealloc (thread : Thread) (kind : KindPtr) (ptr : Address)
    (size : SizeT) (outcome : CacheOutcome) (state : TcacheState Thread) :
    Option (Address × TcacheState Thread) :=
  if size = 0 ∧ ptr ≠ 0 then
    let (cache, next) := state.getTcacheFlag thread (partition kind) 0 outcome.flag
    (next.jemkDallocx ptr cache outcome.restock).map (0, ·)
  else if !outcome.getArena then some (0, state)
  else if ptr = 0 then
    state.arenaRequest partition allowZeroAllocs thread kind size size outcome
  else if !allowZeroAllocs kind && size = 0 then some (0, state)
  else
    let (cache, next) := state.getTcacheFlag thread (partition kind) size outcome.flag
    next.jemkRallocx ptr size ((state.arena.kinds kind).choose outcome.choice) cache
      outcome.relocation

/-- `memkind_default_realloc` -/
def TcacheState.memkindDefaultRealloc (thread : Thread) (ptr : Address) (size : SizeT)
    (outcome : CacheOutcome) (state : TcacheState Thread) :
    Option (Address × TcacheState Thread) :=
  if !allowZeroAllocs memkindDefault && sizeOutOfBounds size then
    (state.jemkFree thread ptr outcome).map (0, ·)
  else state.jemkRealloc thread ptr size outcome

/-- `ops->realloc` of a kind whose arenas exist. -/
def TcacheState.reallocKind (thread : Thread) (kind : KindPtr) (ptr : Address) (size : SizeT)
    (outcome : CacheOutcome) (state : TcacheState Thread) :
    Option (Address × TcacheState Thread) :=
  if kind = memkindDefault then
    state.memkindDefaultRealloc allowZeroAllocs thread ptr size outcome
  else if state.initialized kind then
    state.memkindArenaRealloc partition allowZeroAllocs thread kind ptr size outcome
  else none

/-- `memkind_realloc`: without a kind, `memkind_arena_realloc_with_kind_detect` refuses `NULL`. -/
def TcacheState.realloc (thread : Thread) (kind : Option KindPtr) (ptr : Address) (size : SizeT)
    (outcome : CacheOutcome) (state : TcacheState Thread) :
    Option (Address × TcacheState Thread) :=
  match kind with
  | some kind => state.reallocKind partition allowZeroAllocs thread kind ptr size outcome
  | none => (state.detectKind ptr).bind fun kind =>
      match kind with
      | some kind => state.reallocKind partition allowZeroAllocs thread kind ptr size outcome
      | none => some (0, state)

/-- `memkind_arena_malloc_no_tcache` -/
def TcacheState.memkindArenaMallocNoTcache (kind : KindPtr) (size : SizeT)
    (outcome : CacheOutcome) (state : TcacheState Thread) :
    Option (Address × TcacheState Thread) :=
  if kind = memkindDefault then
    if outcome.choice.automatic ≤ autoArenas then
      state.jemkMallocxCheck size outcome.choice.automatic none (allowZeroAllocs kind)
        outcome.supply
    else none
  else if outcome.getArena then
    state.jemkMallocxCheck size ((state.arena.kinds kind).choose outcome.choice) none
      (allowZeroAllocs kind) outcome.supply
  else some (0, state)

/-- `memkind_arena_defrag_reallocate`, where `checked` is the result of `jemk_check_reallocatex`. -/
def TcacheState.memkindArenaDefragReallocate (kind : KindPtr) (ptr : Address) (checked : Bool)
    (outcome : CacheOutcome) (state : TcacheState Thread) :
    Option (Address × TcacheState Thread) :=
  if ptr = 0 then some (0, state)
  else if checked then some (0, state)
  else
    (state.blocks.held ptr).bind fun block =>
      (state.memkindArenaMallocNoTcache allowZeroAllocs kind block.usable outcome).bind
        fun (new, next) =>
          if new = 0 then some (0, next)
          else (next.jemkDallocx ptr none outcome.restock).map (new, ·)

/-- `memkind_defrag_reallocate` of a kind whose arenas exist, or of the kind of the block. -/
def TcacheState.defragReallocate (kind : Option KindPtr) (ptr : Address) (checked : Bool)
    (outcome : CacheOutcome) (state : TcacheState Thread) :
    Option (Address × TcacheState Thread) :=
  match kind with
  | some kind =>
      if kind = memkindDefault ∨ state.initialized kind then
        state.memkindArenaDefragReallocate allowZeroAllocs kind ptr checked outcome
      else none
  | none => (state.detectKind ptr).bind fun kind =>
      match kind with
      | some kind => state.memkindArenaDefragReallocate allowZeroAllocs kind ptr checked outcome
      | none => some (0, state)

/-- The arenas of a kind are created: at the first call for a static kind, and by its creation for
a dynamic one. Every kind has `len` arenas. -/
def TcacheState.createMap (len : Nat) (settings : ArenaSettings) (metadataUseHooks : Bool)
    (outcome : Nat → ArenaOutcome) (kind : KindPtr) (state : TcacheState Thread) :
    Option (TcacheState Thread) :=
  if state.initialized kind ∨ kind = memkindDefault then none
  else
    match memkindArenaCreateMap settings .success metadataUseHooks outcome kind state.arena with
    | some (.success, _, arena) =>
        if (arena.kinds kind).arenaMapLen = len then
          some { state with arena, initialized := Function.update state.initialized kind true }
        else none
    | _ => none

/-- `memkind_arena_destroy` of a dynamic kind. The blocks that callers hold from its arenas are gone,
and no cache is told. -/
def TcacheState.destroyMap (len : Nat) (address : Address) (state : TcacheState Thread) :
    Option (TcacheState Thread) :=
  if state.initialized (.heap address) then
    (memkindArenaDestroy (.heap address) state.arena).map fun arena =>
      { state with
        arena
        initialized := Function.update state.initialized (.heap address) false
        blocks := state.blocks.abandon fun index =>
          (state.arena.kinds (.heap address)).arenaZero ≤ index ∧
            index < (state.arena.kinds (.heap address)).arenaZero + len }
  else none

/-- The calls of the threads of a process. -/
inductive CacheCall (Thread : Type) where
  | create (settings : ArenaSettings) (metadataUseHooks : Bool) (outcome : Nat → ArenaOutcome)
      (kind : KindPtr)
  | destroy (address : Address)
  | allocate (thread : Thread) (kind : KindPtr) (call : NewBlock) (outcome : CacheOutcome)
  | free (thread : Thread) (kind : Option KindPtr) (ptr : Address) (outcome : CacheOutcome)
  | realloc (thread : Thread) (kind : Option KindPtr) (ptr : Address) (size : SizeT)
      (outcome : CacheOutcome)
  | defragReallocate (kind : Option KindPtr) (ptr : Address) (checked : Bool)
      (outcome : CacheOutcome)
  | exit (thread : Thread)

/-- One call, with the pointer that it returns. -/
def cacheCall (len : Nat) (call : CacheCall Thread) (state : TcacheState Thread) :
    Option (Address × TcacheState Thread) :=
  match call with
  | .create settings metadataUseHooks outcome kind =>
      (state.createMap len settings metadataUseHooks outcome kind).map (0, ·)
  | .destroy address => (state.destroyMap len address).map (0, ·)
  | .allocate thread kind call outcome =>
      state.allocate partition allowZeroAllocs thread kind call outcome
  | .free thread kind ptr outcome => (state.free partition thread kind ptr outcome).map (0, ·)
  | .realloc thread kind ptr size outcome =>
      state.realloc partition allowZeroAllocs thread kind ptr size outcome
  | .defragReallocate kind ptr checked outcome =>
      state.defragReallocate allowZeroAllocs kind ptr checked outcome
  | .exit thread => (state.exit thread).map (0, ·)

def cacheStep (len : Nat) (call : CacheCall Thread) (state : TcacheState Thread) :
    Option (TcacheState Thread) :=
  (cacheCall partition allowZeroAllocs len call state).map Prod.snd

end Calls

end Memkind
