/-
This file embeds `heap_manager.c`: the choice of the heap manager, the initialization of kinds by
it, and the detection of kinds, with the blocks that the kinds have allocated.
-/

import Memkind.Construction.Arena
import Memkind.Construction.LibMemtier

namespace Memkind

open Library

/-- `arena_heap_manager_g` and `tbb_heap_manager_g` -/
inductive HeapManager where
  | arena
  | tbb
  deriving DecidableEq

/-- `set_heap_manager` with the content of `MEMKIND_HEAP_MANAGER`. -/
def setHeapManager (env : Option String) : HeapManager :=
  if env = some "TBB" then .tbb else .arena

/-- Where a block comes from: an arena of jemalloc, or a memory pool of TBB. -/
inductive BlockHome where
  | arena (index : Nat)
  | pool (address : Address)
  deriving DecidableEq

/-- A block has the kind that it was allocated from. -/
structure BlockOwner where
  kind : KindPtr
  home : BlockHome
  deriving DecidableEq

/-- The environment of the process, the registered kinds, and the address of the function
`pool_identify`, which `load_tbb_symbols` requires to exist. -/
structure HeapMachine where
  env : Option String
  partitionMap : Slot → Option KindPtr
  poolIdentify : Address
  loaded : poolIdentify ≠ 0

/-- The manager of a process. -/
def HeapMachine.manager (machine : HeapMachine) : HeapManager := setHeapManager machine.env

/-- The arenas, the field `priv` of the kinds, the kinds that are initialized, the live blocks and
the byte counters. -/
structure ManagedHeap where
  arena : ArenaState
  priv : KindPtr → Address
  initialized : KindPtr → Bool
  heap : BlockHeap BlockOwner
  counters : Counters

/-- A process that has initialized no kind. -/
def ManagedHeap.initial (kinds : KindPtr → ArenaKind) : ManagedHeap where
  arena := ⟨⟨⟨autoArenas + 1, []⟩, fun _ => false⟩, fun _ => none, kinds⟩
  priv _ := 0
  initialized _ := false
  heap := .empty
  counters := .zero

/-- What the calls below `heap_manager_init` return. -/
structure InitOutcome where
  settings : ArenaSettings
  arenaConfigInit : Status
  arenas : Nat → ArenaOutcome
  poolCreate : Address

/-- `memkind_arena_init` aborts when the arenas cannot be created. -/
def memkindArenaInit (kind : KindPtr) (outcome : InitOutcome) (state : ArenaState) :
    Option ArenaState :=
  if kind = memkindDefault then some state
  else
    match memkindArenaCreateMap outcome.settings outcome.arenaConfigInit true outcome.arenas kind
        state with
    | some (.success, _, state) => some state
    | _ => none

/-- `tbb_initialize` aborts without a pool. A pool is not at the address of a function. -/
def tbbInitialize (machine : HeapMachine) (kind : KindPtr) (outcome : InitOutcome)
    (priv : KindPtr → Address) : Option (KindPtr → Address) :=
  if outcome.poolCreate = 0 ∨ outcome.poolCreate = machine.poolIdentify then none
  else some (Function.update priv kind outcome.poolCreate)

/-- `heap_manager_init`, which `pthread_once` runs at most once for a kind. -/
def heapManagerInit (machine : HeapMachine) (kind : KindPtr) (outcome : InitOutcome)
    (state : ManagedHeap) : Option ManagedHeap :=
  if state.initialized kind then none
  else
    let initialized := Function.update state.initialized kind true
    match machine.manager with
    | .arena => (memkindArenaInit kind outcome state.arena).map fun arena =>
        { state with arena, initialized }
    | .tbb => (tbbInitialize machine kind outcome state.priv).map fun priv =>
        { state with priv, initialized }

/-- What decides about the arena of a block: the hash of the thread, the build, and for the default
kind the arena that jemalloc takes. -/
structure ArenaChoice where
  hash : BitVec 64
  tls : Bool
  automatic : Nat

/-- `ops->get_arena` -/
def ArenaKind.choose (kind : ArenaKind) (choice : ArenaChoice) : Nat :=
  match kind.getArena with
  | .bijective => memkindBijectiveGetArena kind
  | .thread => if choice.tls then threadArenaTls kind choice.hash else threadArena kind choice.hash

/-- The place that the manager allocates a block from. `jemk_malloc` uses the automatic arenas. -/
def ManagedHeap.home (machine : HeapMachine) (kind : KindPtr) (choice : ArenaChoice)
    (state : ManagedHeap) : Option BlockHome :=
  match machine.manager with
  | .tbb => some (.pool (state.priv kind))
  | .arena =>
      if kind = memkindDefault then
        if choice.automatic ≤ autoArenas then some (.arena choice.automatic) else none
      else some (.arena ((state.arena.kinds kind).choose choice))

/-- A successful `memkind_malloc` from an initialized kind. -/
def ManagedHeap.malloc (machine : HeapMachine) (kind : KindPtr) (choice : ArenaChoice)
    (granted : Grant) (state : ManagedHeap) : Option ManagedHeap :=
  if state.initialized kind then
    (state.home machine kind choice).bind fun home =>
      (state.heap.place ⟨granted.ptr, granted.usable, ⟨kind, home⟩⟩).map fun heap =>
        { state with heap }
  else none

/-- The arena of a home. -/
def BlockHome.arenaIndex : BlockHome → Nat
  | .arena index => index
  | .pool _ => 0

/-- `jemk_arenalookupx` -/
def ManagedHeap.arenalookupx (state : ManagedHeap) (ptr : Address) : Nat :=
  ((state.heap.find ptr).map fun block => block.tag.home.arenaIndex).getD 0

/-- `memkind_kind_by_priv` -/
def memkindKindByPriv (machine : HeapMachine) (priv : KindPtr → Address) (wanted : Address) :
    Option KindPtr :=
  (List.finRange maxKind).findSome? fun slot =>
    (machine.partitionMap slot).filter fun kind => priv kind = wanted

/-- `tbb_detect_kind` asks for the kind whose `priv` is the function `pool_identify`. -/
def tbbDetectKind (machine : HeapMachine) (ptr : Address) (priv : KindPtr → Address) :
    Option KindPtr :=
  if ptr = 0 then none else memkindKindByPriv machine priv machine.poolIdentify

/-- `memkind_detect_kind`, where `NULL` is the inner `none`. -/
def ManagedHeap.detectKind (machine : HeapMachine) (ptr : Address) (state : ManagedHeap) :
    Option (Option KindPtr) :=
  match machine.manager with
  | .arena => memkindArenaDetectKind state.arenalookupx ptr state.arena
  | .tbb => some (tbbDetectKind machine ptr state.priv)

/-- `ops->free` of either manager releases a live block. -/
def ManagedHeap.free (ptr : Address) (state : ManagedHeap) : Option ManagedHeap :=
  (state.heap.find ptr).map fun block => { state with heap := state.heap.erase block }

section Free

variable (partition : KindPtr → Nat) (bucket : Bucket) (machine : HeapMachine)

/-- The counters without the usable size of a block. -/
def ManagedHeap.uncount (kind : KindPtr) (ptr : Address) (state : ManagedHeap) : ManagedHeap :=
  { state with
    counters := decrementAllocSize state.counters (partition kind) bucket
      (usableSize ((state.heap.find ptr).map HeapBlock.usable)) }

/-- `memtier_free`: without a kind nothing happens. -/
def ManagedHeap.memtierFree (ptr : Address) (state : ManagedHeap) : Option ManagedHeap :=
  (state.detectKind machine ptr).bind fun kind =>
    kind.elim (some state) fun kind => (state.uncount partition bucket kind ptr).free ptr

/-- The calls of a process. -/
inductive HeapCall where
  | init (kind : KindPtr) (outcome : InitOutcome)
  | malloc (kind : KindPtr) (choice : ArenaChoice) (granted : Grant)
  | free (ptr : Address)
  | memtierFree (ptr : Address)

def heapStep (call : HeapCall) (state : ManagedHeap) : Option ManagedHeap :=
  match call with
  | .init kind outcome => heapManagerInit machine kind outcome state
  | .malloc kind choice granted => state.malloc machine kind choice granted
  | .free ptr => state.free ptr
  | .memtierFree ptr => state.memtierFree partition bucket machine ptr

end Free

end Memkind
