/-
This file embeds the tables of extent hooks of `memkind_arena.c` and `memkind_pmem.c` over the
memory of a process. The results of system calls are inputs.
-/

import Memkind.Construction.ExtentAlloc
import Memkind.Construction.Extents
import Memkind.Construction.Pmem

namespace Memkind

open Library

section Memory

/-- What an address is mapped to: memory of the process, or a byte of a shared file. -/
inductive Backing where
  | anonymous (byte : UInt8)
  | shared (file offset : Nat)
  deriving DecidableEq

/-- The mapped addresses of a process, and the bytes of the files by their offsets. -/
structure ProcessMemory where
  pages : Nat → Option Backing
  content : Nat → Nat → UInt8

/-- The byte at an address. -/
def ProcessMemory.read (memory : ProcessMemory) (address : Nat) : Option UInt8 :=
  match memory.pages address with
  | none => none
  | some (.anonymous byte) => some byte
  | some (.shared file offset) => some (memory.content file offset)

/-- A store. At an address that is not mapped nothing is stored. -/
def ProcessMemory.write (memory : ProcessMemory) (address : Nat) (byte : UInt8) : ProcessMemory :=
  match memory.pages address with
  | none => memory
  | some (.anonymous _) =>
      { memory with pages := Function.update memory.pages address (some (.anonymous byte)) }
  | some (.shared file offset) =>
      { memory with
        content := Function.update memory.content file
          (Function.update (memory.content file) offset byte) }

/-- The addresses of a range get a new mapping. -/
def ProcessMemory.remap (memory : ProcessMemory) (start length : Nat)
    (mapping : Nat → Option Backing) : ProcessMemory :=
  { memory with
    pages := fun address =>
      if start ≤ address ∧ address < start + length then mapping address
      else memory.pages address }

variable (page : PageSize)

/-- `mmap` of new memory, and `munmap`, which refuses what `MapEvent.apply` refuses. -/
def ProcessMemory.applyEvent (memory : ProcessMemory) : MapEvent → ProcessMemory
  | .map start length =>
      memory.remap start (roundUp page.size length) fun _ => some (.anonymous 0)
  | .unmap start length =>
      if page.size ∣ start ∧ start + length < 2 ^ 64 then
        memory.remap start (roundUp page.size length) fun _ => none
      else memory

/-- The memory after some calls. -/
def ProcessMemory.applyEvents (memory : ProcessMemory) (events : List MapEvent) : ProcessMemory :=
  events.foldl (ProcessMemory.applyEvent page) memory

/-- `mmap` of a range of a file with `MAP_SHARED`. -/
def ProcessMemory.mapShared (memory : ProcessMemory) (start length file offset : Nat) :
    ProcessMemory :=
  memory.remap start (roundUp page.size length) fun address =>
    some (.shared file (offset + (address - start)))

/-- `madvise` with `MADV_DONTNEED` drops the bytes of the process in a range. -/
def ProcessMemory.dontneed (memory : ProcessMemory) (start length : Nat) : ProcessMemory :=
  memory.remap start length fun address =>
    match memory.pages address with
    | some (.anonymous _) => some (.anonymous 0)
    | other => other

/-- `madvise` with `MADV_REMOVE` drops the bytes of files that are mapped in a range. -/
def ProcessMemory.remove (memory : ProcessMemory) (start length : Nat) : ProcessMemory :=
  { memory with
    content := fun file offset =>
      if ∃ index ∈ List.range length,
          memory.pages (start + index) = some (.shared file offset) then 0
      else memory.content file offset }

end Memory

section Arena

/-- What the calls inside the hooks of an arena kind return. -/
structure ArenaHookOutcome where
  unavailable : Bool
  direct : MmapOutcome
  slow : MmapOutcome
  madviseFailed : Bool

/-- `HUGE_PAGE_SIZE` -/
def hugePageSize : SizeT := 1 <<< 21

/-- The size for which `arena_extent_alloc_hugetlb` calls `arena_extent_alloc`. -/
def roundupHugePage (size : SizeT) : SizeT := (size + (hugePageSize - 1)) &&& ~~~(hugePageSize - 1)

/-- The hooks of a kind of `memkind_arena.c`, where `allocSize` is the size that its hook for
extents asks for. No extent is given back, committed memory stays committed, extents may be split
and merged, and there is no `destroy`. -/
def arenaHookTable (page : PageSize) (ops : MmapOps) (allocSize : SizeT → SizeT) (hog : Bool) :
    ExtentHooks ProcessMemory ArenaHookOutcome where
  alloc newAddr size alignment zero commit outcome memory :=
    let extent := arenaExtentAlloc ops outcome.unavailable outcome.direct outcome.slow
      (BitVec.ofNat 64 newAddr) (allocSize (BitVec.ofNat 64 size)) (BitVec.ofNat 64 alignment) zero
      commit
    some (if extent.addr = 0 then none else some ⟨extent.addr.toNat, extent.zero, extent.commit⟩,
      memory.applyEvents page extent.events)
  dalloc _ _ _ memory := some (true, memory)
  commit _ _ _ _ := false
  decommit _ _ _ _ := true
  purgeLazy addr _ offset length outcome memory :=
    if hog then (true, memory)
    else (outcome.madviseFailed,
      if outcome.madviseFailed then memory else memory.dontneed (addr + offset) length)
  split _ _ _ _ := false
  merge _ _ _ _ := false
  destroy := none

/-- `arena_extent_hooks` -/
def arenaExtentHooks (page : PageSize) (ops : MmapOps) := arenaHookTable page ops id false

/-- `arena_extent_hooks_hog_memory` -/
def arenaExtentHooksHogMemory (page : PageSize) (ops : MmapOps) := arenaHookTable page ops id true

/-- `arena_extent_hooks_hugetlb` -/
def arenaExtentHooksHugetlb (page : PageSize) (ops : MmapOps) :=
  arenaHookTable page ops roundupHugePage false

/-- `arena_extent_hooks_hugetlb_hog_memory` -/
def arenaExtentHooksHugetlbHogMemory (page : PageSize) (ops : MmapOps) :=
  arenaHookTable page ops roundupHugePage true

/-- `get_extent_hooks_by_kind` for a kind that is one of huge pages or not. -/
def getExtentHooksByKind (page : PageSize) (ops : MmapOps) (hugetlb hogMemory : Bool) :
    ExtentHooks ProcessMemory ArenaHookOutcome :=
  if hugetlb then
    if hogMemory then arenaExtentHooksHugetlbHogMemory page ops else arenaExtentHooksHugetlb page ops
  else if hogMemory then arenaExtentHooksHogMemory page ops
  else arenaExtentHooks page ops

/-- The bytes of a process. -/
def processBytes : ByteMemory ProcessMemory := ⟨ProcessMemory.read, ProcessMemory.write⟩

end Arena

section Pmem

/-- A pmem kind and the memory of the process. -/
structure PmemKind where
  priv : PmemPriv
  files : Files
  memory : ProcessMemory

/-- What the calls inside the hooks of a pmem kind return. The last one is the `munmap` of
`pmem_extent_destroy`. -/
structure PmemHookOutcome where
  mmap : PmemOutcome
  dalloc : DallocOutcome
  destroyUnmapped : Bool

/-- `pmem_extent_alloc` with its mapping. -/
def PmemKind.extentAlloc (page : PageSize) (newAddr size : Nat) (outcome : PmemHookOutcome)
    (kind : PmemKind) : Option (Option ExtentGrant × PmemKind) :=
  (pmemExtentAlloc (BitVec.ofNat 64 newAddr) (BitVec.ofNat 64 size) outcome.mmap kind.priv
    kind.files).map fun (mapping, priv, files) =>
      match mapping with
      | none => (none, { kind with priv := priv, files := files })
      | some mapping =>
          (some ⟨mapping.address.toNat, true, true⟩,
            { priv := priv
              files := files
              memory := kind.memory.mapShared page mapping.address.toNat size mapping.file
                mapping.offset.toNat })

/-- `pmem_extent_dalloc` with what it does to the memory. -/
def PmemKind.extentDalloc (page : PageSize) (addr size : Nat) (outcome : PmemHookOutcome)
    (kind : PmemKind) : Option (Bool × PmemKind) :=
  (pmemExtentDalloc (BitVec.ofNat 64 addr) (BitVec.ofNat 64 size) outcome.dalloc kind.priv).map
    fun (failed, priv) =>
      let removed :=
        if outcome.dalloc.madvise = .success then kind.memory.remove addr size else kind.memory
      let unmapped :=
        if outcome.dalloc.unmapped then removed.applyEvent page (.unmap addr size) else removed
      (failed, { kind with priv := priv, memory := unmapped })

/-- `pmem_extent_destroy`, which only logs an error. -/
def PmemKind.extentDestroy (page : PageSize) (addr size : Nat) (outcome : PmemHookOutcome)
    (kind : PmemKind) : PmemKind :=
  if outcome.destroyUnmapped then
    { kind with memory := kind.memory.applyEvent page (.unmap addr size) }
  else kind

/-- The hooks of `memkind_pmem.c` around a hook `dalloc`. -/
def pmemHookTable (page : PageSize)
    (dalloc : (addr size : Nat) → PmemHookOutcome → PmemKind → Option (Bool × PmemKind)) :
    ExtentHooks PmemKind PmemHookOutcome where
  alloc newAddr size _ _ _ outcome kind := kind.extentAlloc page newAddr size outcome
  dalloc := dalloc
  commit _ _ _ _ := false
  decommit _ _ _ _ := true
  purgeLazy _ _ _ _ _ kind := (true, kind)
  split _ _ _ _ := false
  merge _ _ _ _ := false
  destroy := some fun addr size outcome kind => kind.extentDestroy page addr size outcome

/-- `pmem_extent_hooks` -/
def pmemExtentHooks (page : PageSize) :=
  pmemHookTable page fun addr size outcome kind => kind.extentDalloc page addr size outcome

/-- `pmem_extent_hooks_hog_memory` with `pmem_extent_dalloc_hog_memory` -/
def pmemExtentHooksHogMemory (page : PageSize) :=
  pmemHookTable page fun _ _ _ kind => some (true, kind)

/-- The table that `memkind_pmem_create` passes on. -/
def pmemHooksOf (page : PageSize) (hogMemory : Bool) : ExtentHooks PmemKind PmemHookOutcome :=
  if hogMemory then pmemExtentHooksHogMemory page else pmemExtentHooks page

/-- The bytes of the process of a pmem kind. -/
def pmemBytes : ByteMemory PmemKind :=
  ⟨fun kind => kind.memory.read,
    fun kind address byte => { kind with memory := kind.memory.write address byte }⟩

end Pmem

end Memkind
