/-
This file embeds the allocation calls of `memkind_memtier.c`, which choose a tier, count the
usable size of the new block and then update the thresholds.
-/

import Memkind.Construction.Tiering

namespace Memkind

/-- A memory object and the byte counters of the kinds. -/
structure TierSystem where
  memory : MemtierMemory
  counters : Counters

/-- `jemk_malloc_usable_size` of a block or of `NULL`. -/
def usableSize (block : Option SizeT) : SizeT := block.getD 0

/-- The common body of the allocations from a given kind, after the kind has returned `block`. -/
def countBlock (partition : Nat) (bucket : Bucket) (block : Option SizeT) (counters : Counters) :
    Counters :=
  incrementAllocSize counters partition bucket (usableSize block)

/-- `memtier_kind_malloc` -/
def memtierKindMalloc := countBlock

/-- `memtier_kind_calloc` -/
def memtierKindCalloc := countBlock

/-- `memtier_kind_posix_memalign`, where `block` is what `*memptr` holds after the call. -/
def memtierKindPosixMemalign := countBlock

/-- The global counters of the two tiers next to threshold `i`. -/
def MemtierMemory.tierReads (memory : MemtierMemory) (allocated : KindPtr → SizeT) (i : Nat) :
    SizeT × SizeT :=
  let read (j : Nat) : SizeT := (memory.cfg[j]?).elim 0 fun tier => allocated tier.kind
  (read i, read (i + 1))

/-- The common body of the allocations from a memory: the size chooses the kind, the kind counts
the block, and the memory updates its configuration. -/
def TierSystem.allocate (partition : KindPtr → Nat) (size : SizeT)
    (count : Nat → Counters → Counters) (system : TierSystem) : Option (KindPtr × TierSystem) :=
  (system.memory.getKind (fun kind => system.counters.gAllocSize (partition kind)) size).bind
    fun kind =>
      let counters := count (partition kind) system.counters
      (system.memory.updateCfg (system.memory.tierReads fun kind =>
        counters.gAllocSize (partition kind))).map fun memory => (kind, ⟨memory, counters⟩)

/-- `memtier_malloc` -/
def memtierMalloc (partition : KindPtr → Nat) (bucket : Bucket) (size : SizeT)
    (block : Option SizeT) (system : TierSystem) : Option (KindPtr × TierSystem) :=
  system.allocate partition size fun kind => memtierKindMalloc kind bucket block

/-- `memtier_calloc` chooses the kind by the size of one element. -/
def memtierCalloc (partition : KindPtr → Nat) (bucket : Bucket) (_num size : SizeT)
    (block : Option SizeT) (system : TierSystem) : Option (KindPtr × TierSystem) :=
  system.allocate partition size fun kind => memtierKindCalloc kind bucket block

/-- `memtier_posix_memalign` -/
def memtierPosixMemalign (partition : KindPtr → Nat) (bucket : Bucket) (_alignment size : SizeT)
    (block : Option SizeT) (system : TierSystem) : Option (KindPtr × TierSystem) :=
  system.allocate partition size fun kind => memtierKindPosixMemalign kind bucket block

end Memkind
