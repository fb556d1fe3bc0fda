/-
This file embeds the reallocation and the aligned allocation of `memkind_memtier.c` with every
answer of jemalloc, in particular the refusal of a request, and the aligned allocation of TBB.
-/

import Memkind.Construction.BackEnd
import Memkind.Construction.LibMemtier

namespace Memkind

open Library

/-- jemalloc returns the block, or `NULL` when it has none. -/
def LibMemtier.answer (library : LibMemtier) (tag : BlockTag) : Option Grant → Option Returned
  | none => some (none, library)
  | some granted => library.grant tag granted

/-- `memkind_malloc` with the answer of jemalloc. -/
def memkindMallocAnswer (kind : KindPtr) (size : SizeT) (counted : Bool) (answer : Option Grant)
    (library : LibMemtier) : Option Returned :=
  if !library.allowZeroAllocs kind && size = 0 then some (none, library)
  else library.answer ⟨kind, counted⟩ answer

/-- `memkind_realloc` with the answer of jemalloc: a refused block stays where it is. -/
def memkindReallocAnswer (kind : KindPtr) (ptr : Address) (size : SizeT) (counted : Bool)
    (answer : Option Grant) (library : LibMemtier) : Option Returned :=
  if ptr = 0 then memkindMallocAnswer kind size counted answer library
  else if size = 0 then (memkindFree ptr library).map fun library => (none, library)
  else
    match answer with
    | none => (library.heap.find ptr).map fun _ => (none, library)
    | some granted =>
        (memkindFree ptr library).bind fun library => library.grant ⟨kind, counted⟩ granted

/-- What the calls below `memkind_posix_memalign` return. -/
structure MemalignOutcome where
  /-- The status of `ops->get_arena`. -/
  getArena : Status
  /-- The error of `jemk_posix_memalign`, or its block. -/
  posixMemalign : Except ℕ+ Grant
  /-- The block of `jemk_mallocx`, or `NULL`. -/
  mallocx : Option Grant

/-- The status of an aligned allocation, the content of `*memptr` and the library after it. -/
structure Aligned where
  status : Status
  memptr : Address
  library : LibMemtier

/-- `ENOMEM` and `EINVAL` -/
def enomemCode : ℕ+ := 12
def enomem : Status := .errno enomemCode
def einval : Status := .errno 22

/-- `memkind_posix_check_alignment` -/
def memkindPosixCheckAlignment (alignment : SizeT) : Status :=
  if alignment < 8 ∨ (alignment - 1) &&& alignment ≠ 0 then einval else .success

/-- `memkind_default_posix_memalign`. An error of jemalloc leaves `*memptr` as it was. -/
def memkindDefaultPosixMemalign (memptr : Address) (size : SizeT) (counted : Bool)
    (outcome : MemalignOutcome) (library : LibMemtier) : Option Aligned :=
  if !library.allowZeroAllocs memkindDefault && size = 0 then some ⟨.success, 0, library⟩
  else
    match outcome.posixMemalign with
    | .error code => some ⟨.errno code, memptr, library⟩
    | .ok granted => (library.grant ⟨memkindDefault, counted⟩ granted).map fun returned =>
        ⟨.success, granted.ptr, returned.2⟩

/-- `memkind_arena_posix_memalign` clears `*memptr` first. -/
def memkindArenaPosixMemalign (kind : KindPtr) (alignment size : SizeT) (counted : Bool)
    (outcome : MemalignOutcome) (library : LibMemtier) : Option Aligned :=
  if outcome.getArena ≠ .success then some ⟨outcome.getArena, 0, library⟩
  else if memkindPosixCheckAlignment alignment ≠ .success then
    some ⟨memkindPosixCheckAlignment alignment, 0, library⟩
  else if !library.allowZeroAllocs kind && size = 0 then some ⟨.success, 0, library⟩
  else
    match outcome.mallocx with
    | none => some ⟨enomem, 0, library⟩
    | some granted => (library.grant ⟨kind, counted⟩ granted).map fun returned =>
        ⟨.success, granted.ptr, returned.2⟩

/-- `memkind_posix_memalign`: every kind but `MEMKIND_DEFAULT` has the function of the arenas. -/
def memkindPosixMemalignAnswer (kind : KindPtr) (memptr : Address) (alignment size : SizeT)
    (counted : Bool) (outcome : MemalignOutcome) (library : LibMemtier) : Option Aligned :=
  if kind = memkindDefault then memkindDefaultPosixMemalign memptr size counted outcome library
  else memkindArenaPosixMemalign kind alignment size counted outcome library

/-- `tbb_pool_posix_memalign` with the block of `pool_aligned_malloc`. -/
def tbbPoolPosixMemalign (kind : KindPtr) (memptr : Address) (alignment size : SizeT)
    (counted : Bool) (poolAlignedMalloc : Option Grant) (library : LibMemtier) : Option Aligned :=
  if alignment = 0 ∧ alignment &&& (alignment - 8) ≠ 0 then some ⟨einval, memptr, library⟩
  else if alignment &&& (alignment - 1) ≠ 0 then some ⟨einval, memptr, library⟩
  else if sizeOutOfBounds size then some ⟨.success, 0, library⟩
  else
    match poolAlignedMalloc with
    | none => some ⟨enomem, memptr, library⟩
    | some granted => (library.grant ⟨kind, counted⟩ granted).map fun returned =>
        ⟨.success, granted.ptr, returned.2⟩

/-- The functions that `ops->posix_memalign` names. -/
def BackEnd.posixMemalign (backEnd : BackEnd) (kind : KindPtr) (memptr : Address)
    (alignment size : SizeT) (counted : Bool) (outcome : MemalignOutcome)
    (poolAlignedMalloc : Option Grant) (library : LibMemtier) : Option Aligned :=
  match backEnd with
  | .arena => memkindArenaPosixMemalign kind alignment size counted outcome library
  | .default => memkindDefaultPosixMemalign memptr size counted outcome library
  | .tbb => tbbPoolPosixMemalign kind memptr alignment size counted poolAlignedMalloc library

section Tier

variable (partition : KindPtr → Nat) (bucket : Bucket)

/-- `memtier_kind_realloc` with the answer of jemalloc. The old size is subtracted first. -/
def memtierKindReallocAnswer (kind : KindPtr) (ptr : Address) (size : SizeT)
    (answer : Option Grant) (library : LibMemtier) : Option Returned :=
  if size = 0 ∧ ptr ≠ 0 then
    (memkindFree ptr (uncountPointer partition bucket kind ptr library)).map fun library =>
      (none, library)
  else if ptr = 0 then
    (memkindMallocAnswer kind size true answer library).map (countReturned partition bucket kind)
  else (memkindReallocAnswer kind ptr size true answer
    (uncountPointer partition bucket kind ptr library)).map (countReturned partition bucket kind)

/-- `memtier_realloc` with the answer of jemalloc. -/
def memtierReallocAnswer (memory : MemtierMemory) (ptr : Address) (size : SizeT)
    (answer : Option Grant) (library : LibMemtier) : Option Returned :=
  if ptr ≠ 0 then
    (memkindDetectKind ptr library).bind fun kind =>
      (memtierKindReallocAnswer partition bucket kind ptr size answer library).bind
        (updateAfter partition memory)
  else memtierAllocate partition memory size
    (fun kind library => (memkindMallocAnswer kind size true answer library).map
      (countReturned partition bucket kind)) library

/-- `memtier_kind_posix_memalign` adds the usable size of `*memptr`, also after an error. -/
def memtierKindPosixMemalignAnswer (kind : KindPtr) (memptr : Address) (alignment size : SizeT)
    (outcome : MemalignOutcome) (library : LibMemtier) : Option Aligned :=
  (memkindPosixMemalignAnswer kind memptr alignment size true outcome library).map fun aligned =>
    { aligned with
      library := { aligned.library with
        counters := incrementAllocSize aligned.library.counters (partition kind) bucket
          (jemkMallocUsableSize aligned.memptr aligned.library) } }

/-- `memtier_posix_memalign` -/
def memtierPosixMemalignAnswer (memory : MemtierMemory) (memptr : Address)
    (alignment size : SizeT) (outcome : MemalignOutcome) (library : LibMemtier) : Option Aligned :=
  (library.getKind partition memory size).bind fun kind =>
    (memtierKindPosixMemalignAnswer partition bucket kind memptr alignment size outcome
      library).bind fun aligned =>
        (updateAfter partition memory (none, aligned.library)).map fun updated =>
          { aligned with library := updated.2 }

end Tier

end Memkind
