/-
This file embeds the interposed allocation calls of `tiering/memtier.c` and the calls of
`memkind_memtier.c` below them, over a heap of live blocks.
-/

import Memkind.Construction.Memtier
import Memkind.Construction.Statistics
import Memkind.Library.BlockHeap

namespace Memkind

open Library

/-- What the model remembers about a block: the kind that `memkind_detect_kind` finds, and whether
its size was added to the counters when it was allocated. -/
structure BlockTag where
  kind : KindPtr
  counted : Bool
  deriving DecidableEq

/-- The block that jemalloc returns when a call requests one. -/
structure Grant where
  ptr : Address
  usable : SizeT

/-- The globals of libmemtier, the flag of each kind, the heap and the byte counters. -/
structure LibMemtier where
  currentMemory : Option MemtierMemory
  destructed : Bool
  allowZeroAllocs : KindPtr → Bool
  heap : BlockHeap BlockTag
  counters : Counters

/-- The library is loaded and `memtier_init` has not run. -/
def LibMemtier.initial : LibMemtier where
  currentMemory := none
  destructed := false
  allowZeroAllocs _ := false
  heap := .empty
  counters := .zero

/-- A block or `NULL`, with the library after the call. -/
abbrev Returned := Option (HeapBlock BlockTag) × LibMemtier

/-- jemalloc returns the granted block. -/
def LibMemtier.grant (library : LibMemtier) (tag : BlockTag) (granted : Grant) : Option Returned :=
  (library.heap.place ⟨granted.ptr, granted.usable, tag⟩).map fun heap =>
    (some ⟨granted.ptr, granted.usable, tag⟩, { library with heap })

/-- The common body of the allocations from a kind: a refused request returns `NULL`. -/
def kindAllocate (refused : Bool) (kind : KindPtr) (counted : Bool) (granted : Grant)
    (library : LibMemtier) : Option Returned :=
  if !library.allowZeroAllocs kind && refused then some (none, library)
  else library.grant ⟨kind, counted⟩ granted

/-- `memkind_malloc` of the kinds of a tier: `memkind_default_malloc` and `memkind_arena_malloc`. -/
def memkindMalloc (kind : KindPtr) (size : SizeT) :=
  kindAllocate (size = 0) kind

/-- `memkind_calloc`: `memkind_default_calloc` tests its two arguments, `memkind_arena_calloc` their
product. -/
def memkindCallocBlock (kind : KindPtr) (num size : SizeT) :=
  kindAllocate (if kind = memkindDefault then num = 0 ∨ size = 0 else num * size = 0) kind

/-- `memkind_posix_memalign` with a valid alignment. -/
def memkindPosixMemalign (kind : KindPtr) (_alignment size : SizeT) :=
  kindAllocate (size = 0) kind

/-- `memkind_free`. To free a pointer that is not live has no meaning. -/
def memkindFree (ptr : Address) (library : LibMemtier) : Option LibMemtier :=
  if ptr = 0 then some library
  else (library.heap.find ptr).map fun block => { library with heap := library.heap.erase block }

/-- `memkind_realloc`: without a pointer it allocates, with the size 0 it frees, and otherwise it
moves the block. -/
def memkindRealloc (kind : KindPtr) (ptr : Address) (size : SizeT) (counted : Bool)
    (granted : Grant) (library : LibMemtier) : Option Returned :=
  if ptr = 0 then memkindMalloc kind size counted granted library
  else if size = 0 then (memkindFree ptr library).map fun library => (none, library)
  else (memkindFree ptr library).bind fun library => library.grant ⟨kind, counted⟩ granted

/-- `memkind_detect_kind` -/
def memkindDetectKind (ptr : Address) (library : LibMemtier) : Option KindPtr :=
  (library.heap.find ptr).map fun block => block.tag.kind

/-- `jemk_malloc_usable_size` -/
def jemkMallocUsableSize (ptr : Address) (library : LibMemtier) : SizeT :=
  usableSize ((library.heap.find ptr).map HeapBlock.usable)

section Tier

variable (partition : KindPtr → Nat) (bucket : Bucket)

/-- The call of `increment_alloc_size` for the block that a kind returned. -/
def countReturned (kind : KindPtr) (returned : Returned) : Returned :=
  (returned.1, { returned.2 with
    counters := countBlock (partition kind) bucket (returned.1.map HeapBlock.usable)
      returned.2.counters })

/-- `memtier_kind_malloc` on the heap. -/
def memtierKindMallocBlock (kind : KindPtr) (size : SizeT) (granted : Grant)
    (library : LibMemtier) : Option Returned :=
  (memkindMalloc kind size true granted library).map (countReturned partition bucket kind)

/-- `memtier_kind_calloc` on the heap. -/
def memtierKindCallocBlock (kind : KindPtr) (num size : SizeT) (granted : Grant)
    (library : LibMemtier) : Option Returned :=
  (memkindCallocBlock kind num size true granted library).map (countReturned partition bucket kind)

/-- `memtier_kind_posix_memalign` on the heap. -/
def memtierKindPosixMemalignBlock (kind : KindPtr) (alignment size : SizeT) (granted : Grant)
    (library : LibMemtier) : Option Returned :=
  (memkindPosixMemalign kind alignment size true granted library).map
    (countReturned partition bucket kind)

/-- The call of `decrement_alloc_size` for the usable size of a pointer. -/
def uncountPointer (kind : KindPtr) (ptr : Address) (library : LibMemtier) : LibMemtier :=
  { library with
    counters := decrementAllocSize library.counters (partition kind) bucket
      (jemkMallocUsableSize ptr library) }

/-- `memtier_kind_realloc` -/
def memtierKindRealloc (kind : KindPtr) (ptr : Address) (size : SizeT) (granted : Grant)
    (library : LibMemtier) : Option Returned :=
  if size = 0 ∧ ptr ≠ 0 then
    (memkindFree ptr (uncountPointer partition bucket kind ptr library)).map fun library =>
      (none, library)
  else if ptr = 0 then memtierKindMallocBlock partition bucket kind size granted library
  else (memkindRealloc kind ptr size true granted
    (uncountPointer partition bucket kind ptr library)).map (countReturned partition bucket kind)

/-- `memtier_kind_free` -/
def memtierKindFree (kind : Option KindPtr) (ptr : Address) (library : LibMemtier) :
    Option LibMemtier :=
  match kind with
  | some kind => memkindFree ptr (uncountPointer partition bucket kind ptr library)
  | none =>
      match memkindDetectKind ptr library with
      | none => if ptr = 0 then some library else none
      | some kind => memkindFree ptr (uncountPointer partition bucket kind ptr library)

/-- `memtier_free` -/
def memtierFree (ptr : Address) (library : LibMemtier) : Option LibMemtier :=
  memtierKindFree partition bucket none ptr library

/-- The call of `memory->get_kind`, which reads the global counters. -/
def LibMemtier.getKind (library : LibMemtier) (memory : MemtierMemory) (size : SizeT) :
    Option KindPtr :=
  memory.getKind (fun kind => library.counters.gAllocSize (partition kind)) size

/-- The call of `memory->update_cfg` at the end of every call on a memory. -/
def updateAfter (memory : MemtierMemory) (returned : Returned) : Option Returned :=
  (memory.updateCfg (memory.tierReads fun kind =>
    returned.2.counters.gAllocSize (partition kind))).map fun memory =>
      (returned.1, { returned.2 with currentMemory := some memory })

/-- The common body of the allocations from a memory. -/
def memtierAllocate (memory : MemtierMemory) (size : SizeT)
    (allocate : KindPtr → LibMemtier → Option Returned) (library : LibMemtier) : Option Returned :=
  (library.getKind partition memory size).bind fun kind =>
    (allocate kind library).bind (updateAfter partition memory)

/-- `memtier_realloc` -/
def memtierRealloc (memory : MemtierMemory) (ptr : Address) (size : SizeT) (granted : Grant)
    (library : LibMemtier) : Option Returned :=
  if ptr ≠ 0 then
    (memkindDetectKind ptr library).bind fun kind =>
      (memtierKindRealloc partition bucket kind ptr size granted library).bind
        (updateAfter partition memory)
  else memtierAllocate partition memory size
    (fun kind => memtierKindMallocBlock partition bucket kind size granted) library

/-- The common shape of the interposed calls: the memory serves them once it is set, and
`MEMKIND_DEFAULT` does before. -/
def LibMemtier.interpose (library : LibMemtier) (tiered : MemtierMemory → Option Returned)
    (plain : Option Returned) : Option Returned :=
  match library.currentMemory with
  | some memory => tiered memory
  | none => if !library.destructed then plain else some (none, library)

/-- `malloc` -/
def libMalloc (size : SizeT) (granted : Grant) (library : LibMemtier) : Option Returned :=
  library.interpose
    (fun memory => memtierAllocate partition memory size
      (fun kind => memtierKindMallocBlock partition bucket kind size granted) library)
    (memkindMalloc memkindDefault size false granted library)

/-- `calloc` -/
def libCalloc (num size : SizeT) (granted : Grant) (library : LibMemtier) : Option Returned :=
  library.interpose
    (fun memory => memtierAllocate partition memory size
      (fun kind => memtierKindCallocBlock partition bucket kind num size granted) library)
    (memkindCallocBlock memkindDefault num size false granted library)

/-- `realloc` -/
def libRealloc (ptr : Address) (size : SizeT) (granted : Grant) (library : LibMemtier) :
    Option Returned :=
  library.interpose (fun memory => memtierRealloc partition bucket memory ptr size granted library)
    (memkindRealloc memkindDefault ptr size false granted library)

/-- `posix_memalign` -/
def libPosixMemalign (alignment size : SizeT) (granted : Grant) (library : LibMemtier) :
    Option Returned :=
  library.interpose
    (fun memory => memtierAllocate partition memory size
      (fun kind => memtierKindPosixMemalignBlock partition bucket kind alignment size granted)
      library)
    (memkindPosixMemalign memkindDefault alignment size false granted library)

/-- `free`, where `granted` is the block that a request of size 0 would get. -/
def libFree (ptr : Address) (granted : Grant) (library : LibMemtier) : Option LibMemtier :=
  (library.interpose (fun memory => memtierRealloc partition bucket memory ptr 0 granted library)
    ((memkindFree ptr library).map fun library => (none, library))).map Prod.snd

end Tier

/-- `set_allow_zero_allocs` passes the behaviour of `__libc_malloc(0)` to the kinds of the tiers. -/
def setAllowZeroAllocs (cfg : List TierCfg) (allowZeroAllocs : Bool) (flags : KindPtr → Bool) :
    KindPtr → Bool :=
  fun kind => if kind ∈ cfg.map TierCfg.kind then allowZeroAllocs else flags kind

/-- `memtier_init` with the memory that was built from the environment. -/
def memtierInit (memory : MemtierMemory) (libcAllowsZero : Bool) (library : LibMemtier) :
    LibMemtier :=
  { library with
    currentMemory := some memory
    allowZeroAllocs := setAllowZeroAllocs memory.cfg libcAllowsZero library.allowZeroAllocs }

/-- The interposed calls and the start of the library. -/
inductive LibCall where
  | malloc (bucket : Bucket) (size : SizeT) (granted : Grant)
  | calloc (bucket : Bucket) (num size : SizeT) (granted : Grant)
  | realloc (bucket : Bucket) (ptr : Address) (size : SizeT) (granted : Grant)
  | posixMemalign (bucket : Bucket) (alignment size : SizeT) (granted : Grant)
  | free (bucket : Bucket) (ptr : Address) (granted : Grant)
  | memtierInit (memory : MemtierMemory) (libcAllowsZero : Bool)

/-- One call. `memtier_init` runs once, and a call that uses a pointer which is not live has no
meaning. -/
def libStep (partition : KindPtr → Nat) (call : LibCall) (library : LibMemtier) :
    Option LibMemtier :=
  match call with
  | .malloc bucket size granted =>
      (libMalloc partition bucket size granted library).map Prod.snd
  | .calloc bucket num size granted =>
      (libCalloc partition bucket num size granted library).map Prod.snd
  | .realloc bucket ptr size granted =>
      (libRealloc partition bucket ptr size granted library).map Prod.snd
  | .posixMemalign bucket alignment size granted =>
      (libPosixMemalign partition bucket alignment size granted library).map Prod.snd
  | .free bucket ptr granted => libFree partition bucket ptr granted library
  | .memtierInit memory libcAllowsZero =>
      if library.currentMemory.isSome then none
      else some (memtierInit memory libcAllowsZero library)

end Memkind
