/-
This file decides when a refused reallocation or a refused aligned allocation leaves the byte
counters as they were.
-/

import Memkind.Construction.KindCalls
import Memkind.Proof.LibMemtier.Free

namespace Memkind

open Library

variable {partition : KindPtr → Nat} {bucket : Bucket}

section Realloc

/-- The block that lives on after `memkind_realloc`: the old one, unless there is a new one. -/
def survivor (block : HeapBlock BlockTag) : Option Grant → HeapBlock BlockTag
  | none => block
  | some granted => ⟨granted.ptr, granted.usable, ⟨block.tag.kind, true⟩⟩

/-- The change of the total that belongs to a reallocation. -/
def reallocChange (block : HeapBlock BlockTag) : Option Grant → SizeT
  | none => 0
  | some granted => granted.usable - block.usable

/-- The total of the kind changes by the sizes of the blocks. When it counted this block alone, it
is zero after the surviving block has been freed. -/
structure ReallocAccounted (partition : KindPtr → Nat) (block : HeapBlock BlockTag)
    (answer : Option Grant) (library after : LibMemtier) : Prop where
  total : after.counters.stored (partition block.tag.kind) =
    library.counters.stored (partition block.tag.kind) + reallocChange block answer
  freed : ∀ freeBucket final, library.counters.stored (partition block.tag.kind) = block.usable →
    memtierFree partition freeBucket (survivor block answer).ptr after = some final →
    final.counters.stored (partition block.tag.kind) = 0

variable {library : LibMemtier} {ptr : Address} {size : SizeT} {block : HeapBlock BlockTag}
  {answer : Option Grant} {returned : Returned}

/-- A refused reallocation returns `NULL` and keeps the block. -/
theorem memtierKindReallocAnswer_none (found : library.heap.find ptr = some block)
    (nonZero : size ≠ 0) :
    memtierKindReallocAnswer partition bucket block.tag.kind ptr size none library =
      some (countReturned partition bucket block.tag.kind
        (none, uncountPointer partition bucket block.tag.kind ptr library)) := by
  obtain ⟨member, atPtr⟩ := BlockHeap.find_eq_some found
  have nonNull : ptr ≠ 0 := atPtr ▸ library.heap.nonNull block member
  have kept : (uncountPointer partition bucket block.tag.kind ptr library).heap.find ptr =
      some block := found
  unfold memtierKindReallocAnswer memkindReallocAnswer
  rw [if_neg (fun both => nonZero both.1), if_neg nonNull, if_neg nonNull, if_neg nonZero]
  simp only [kept, Option.map_some]

/-- A granted reallocation moves the block. -/
theorem memtierKindReallocAnswer_granted {granted : Grant}
    (found : library.heap.find ptr = some block) (nonZero : size ≠ 0) :
    memtierKindReallocAnswer partition bucket block.tag.kind ptr size (some granted) library =
      ((library.without partition bucket block).grant ⟨block.tag.kind, true⟩ granted).map
        (countReturned partition bucket block.tag.kind) := by
  obtain ⟨member, atPtr⟩ := BlockHeap.find_eq_some found
  have nonNull : ptr ≠ 0 := atPtr ▸ library.heap.nonNull block member
  unfold memtierKindReallocAnswer memkindReallocAnswer
  rw [if_neg (fun both => nonZero both.1), if_neg nonNull, if_neg nonNull, if_neg nonZero]
  simp only [memkindFree_uncounted found, Option.bind_some]

theorem countReturned_stored (kind : KindPtr) (returned : Returned) :
    (countReturned partition bucket kind returned).2.counters.stored (partition kind) =
      returned.2.counters.stored (partition kind) +
        usableSize (returned.1.map HeapBlock.usable) := by
  rw [countReturned, countBlock, incrementAllocSize_stored, if_pos rfl]

/-- `memtier_kind_realloc` of a live block subtracts the old size and adds the size of the block
that it returns. -/
theorem memtierKindReallocAnswer_stored (found : library.heap.find ptr = some block)
    (nonZero : size ≠ 0)
    (called : memtierKindReallocAnswer partition bucket block.tag.kind ptr size answer library =
      some returned) :
    returned.2.counters.stored (partition block.tag.kind) =
      library.counters.stored (partition block.tag.kind) - block.usable +
        usableSize (answer.map Grant.usable) := by
  cases answer with
  | none =>
      rw [memtierKindReallocAnswer_none found nonZero] at called
      obtain rfl := Option.some.inj called
      rw [countReturned_stored, uncountPointer, decrementAllocSize_stored, if_pos rfl,
        jemkMallocUsableSize_live found]
      rfl
  | some granted =>
      rw [memtierKindReallocAnswer_granted found nonZero] at called
      obtain ⟨⟨new, next⟩, granting, rfl⟩ := Option.map_eq_some_iff.mp called
      obtain ⟨heap, placed, result⟩ := Option.map_eq_some_iff.mp granting
      obtain ⟨rfl, rfl⟩ := Prod.mk.inj result
      rw [countReturned_stored, LibMemtier.without, decrementAllocSize_stored, if_pos rfl]
      rfl

/-- The surviving block is live afterwards. -/
theorem memtierKindReallocAnswer_survivor (found : library.heap.find ptr = some block)
    (nonZero : size ≠ 0)
    (called : memtierKindReallocAnswer partition bucket block.tag.kind ptr size answer library =
      some returned) :
    returned.2.heap.find (survivor block answer).ptr = some (survivor block answer) := by
  cases answer with
  | none =>
      rw [memtierKindReallocAnswer_none found nonZero] at called
      obtain rfl := Option.some.inj called
      obtain ⟨-, atPtr⟩ := BlockHeap.find_eq_some found
      rw [survivor, atPtr]
      exact found
  | some granted =>
      rw [memtierKindReallocAnswer_granted found nonZero] at called
      obtain ⟨⟨new, next⟩, granting, rfl⟩ := Option.map_eq_some_iff.mp called
      obtain ⟨heap, placed, result⟩ := Option.map_eq_some_iff.mp granting
      obtain ⟨rfl, rfl⟩ := Prod.mk.inj result
      change heap.find granted.ptr = _
      rw [BlockHeap.find, (BlockHeap.place_eq_some placed).1, survivor]
      exact List.find?_cons_of_pos (decide_eq_true rfl)

/-- With the sizes of the blocks counted, the accounting is right exactly for a granted block. -/
theorem reallocAccounted_iff {after : LibMemtier} (nonempty : block.usable ≠ 0)
    (total : after.counters.stored (partition block.tag.kind) =
      library.counters.stored (partition block.tag.kind) - block.usable +
        usableSize (answer.map Grant.usable))
    (alive : after.heap.find (survivor block answer).ptr = some (survivor block answer)) :
    ReallocAccounted partition block answer library after ↔ answer.isSome := by
  constructor
  · intro accounted
    cases answer with
    | some granted => rfl
    | none =>
        -- The total is less by the usable size, which is not zero.
        have same := accounted.total
        rw [total] at same
        have zero : block.usable = 0 := by
          simpa [reallocChange, usableSize, sub_eq_add_neg] using same
        exact absurd zero nonempty
  · intro granting
    obtain ⟨granted, rfl⟩ := Option.isSome_iff_exists.mp granting
    constructor
    · rw [total]
      simp only [reallocChange, usableSize, Option.map_some, Option.getD_some]
      abel
    · intro freeBucket final alone called
      rw [memtierFree_live alive] at called
      obtain rfl := Option.some.inj called
      rw [LibMemtier.without]
      simp only [survivor]
      rw [decrementAllocSize_stored, if_pos rfl, total, alone]
      simp [usableSize]

end Realloc

/-- For every live block, every size above zero and every state of the counters, a reallocation
by `memtier_kind_realloc` or `memtier_realloc` is accounted exactly when jemalloc grants it. A
refused one returns `NULL` and keeps the heap. -/
theorem memtierRealloc_accounted_iff (partition : KindPtr → Nat) (bucket : Bucket)
    (library : LibMemtier) (ptr : Address) (size : SizeT) (block : HeapBlock BlockTag)
    (found : library.heap.find ptr = some block) (nonZero : size ≠ 0) (answer : Option Grant) :
    (∀ returned,
      memtierKindReallocAnswer partition bucket block.tag.kind ptr size answer library =
        some returned →
      (ReallocAccounted partition block answer library returned.2 ↔ answer.isSome)) ∧
    (∀ memory returned,
      memtierReallocAnswer partition bucket memory ptr size answer library = some returned →
      (ReallocAccounted partition block answer library returned.2 ↔ answer.isSome)) ∧
    ∃ returned,
      memtierKindReallocAnswer partition bucket block.tag.kind ptr size none library =
        some returned ∧ returned.1 = none ∧ returned.2.heap = library.heap := by
  obtain ⟨member, atPtr⟩ := BlockHeap.find_eq_some found
  have nonempty := library.heap.nonempty block member
  have nonNull : ptr ≠ 0 := atPtr ▸ library.heap.nonNull block member
  refine ⟨?_, ?_, ?_⟩
  · intro returned called
    exact reallocAccounted_iff nonempty (memtierKindReallocAnswer_stored found nonZero called)
      (memtierKindReallocAnswer_survivor found nonZero called)
  · intro memory returned called
    have detected : memkindDetectKind ptr library = some block.tag.kind :=
      Option.map_eq_some_iff.mpr ⟨block, found, rfl⟩
    rw [memtierReallocAnswer, if_pos nonNull, detected, Option.bind_some] at called
    obtain ⟨middle, moved, updated⟩ := Option.bind_eq_some_iff.mp called
    obtain ⟨memory, -, rfl⟩ := Option.map_eq_some_iff.mp updated
    have total := memtierKindReallocAnswer_stored found nonZero moved
    have alive := memtierKindReallocAnswer_survivor found nonZero moved
    exact reallocAccounted_iff nonempty total alive
  · exact ⟨_, memtierKindReallocAnswer_none found nonZero, rfl, rfl⟩

/-- The memory serves one block of `MEMKIND_DEFAULT`. -/
def servedCalls : List LibCall :=
  [.memtierInit dramMemory true, .malloc 0 4000 ⟨0x1000, 4096⟩]

def servedBlock : HeapBlock BlockTag := ⟨0x1000, 4096, ⟨memkindDefault, true⟩⟩

/-- The bytes of `MEMKIND_DEFAULT`. -/
def defaultBytes (library : LibMemtier) : SizeT :=
  (memtierKindAllocatedSize library.counters (samplePartition memkindDefault)).1

theorem defaultBytes_eq (library : LibMemtier) :
    defaultBytes library = library.counters.stored (samplePartition memkindDefault) := by
  rw [defaultBytes, memtierKindAllocatedSize_eq]

/-- The calls leave the block alone on the heap, and counted. -/
theorem servedCalls_reached :
    ∃ library, runSteps (libStep samplePartition) LibMemtier.initial servedCalls = some library ∧
      library.heap.find 0x1000 = some servedBlock ∧ library.heap.live = [servedBlock] ∧
      defaultBytes library = 4096 := by
  have computed : ((runSteps (libStep samplePartition) LibMemtier.initial servedCalls).map
      fun library => (library.heap.live, library.counters)) =
      some ([servedBlock],
        incrementAllocSize .zero (samplePartition memkindDefault) 0 4096) := rfl
  obtain ⟨library, ran, values⟩ := Option.map_eq_some_iff.mp computed
  obtain ⟨live, counters⟩ := Prod.mk.inj values
  refine ⟨library, ran, ?_, live, ?_⟩
  · rw [BlockHeap.find, live]
    rfl
  · rw [defaultBytes_eq, counters, incrementAllocSize_stored, if_pos rfl, Counters.zero_stored]
    rfl

/-- The block can grow. -/
theorem memtierRealloc_accounted_grown :
    ∃ library returned,
      runSteps (libStep samplePartition) LibMemtier.initial servedCalls = some library ∧
      memtierKindReallocAnswer samplePartition 0 memkindDefault 0x1000 8000
        (some ⟨0x4000, 8192⟩) library = some returned ∧
      ReallocAccounted samplePartition servedBlock (some ⟨0x4000, 8192⟩) library returned.2 := by
  have computed : ((runSteps (libStep samplePartition) LibMemtier.initial servedCalls).map
      fun library => (library.heap.find 0x1000,
        (memtierKindReallocAnswer samplePartition 0 memkindDefault 0x1000 8000
          (some ⟨0x4000, 8192⟩) library).isSome)) = some (some servedBlock, true) := by
    decide +kernel
  obtain ⟨library, ran, values⟩ := Option.map_eq_some_iff.mp computed
  obtain ⟨found, called⟩ := Prod.mk.inj values
  obtain ⟨returned, called⟩ := Option.isSome_iff_exists.mp called
  obtain ⟨accounted, -, -⟩ := memtierRealloc_accounted_iff samplePartition 0 library 0x1000 8000
    servedBlock found (by decide) (some ⟨0x4000, 8192⟩)
  exact ⟨library, returned, ran, called, (accounted returned called).mpr rfl⟩

/-- A refused reallocation takes the block out of the counters, and the later free takes it out
once more. -/
theorem refusedRealloc_wraps :
    ∃ library returned final,
      runSteps (libStep samplePartition) LibMemtier.initial servedCalls = some library ∧
      library.heap.live = [servedBlock] ∧ defaultBytes library = 4096 ∧
      memtierKindReallocAnswer samplePartition 0 memkindDefault 0x1000 8000 none library =
        some returned ∧
      returned.1 = none ∧ returned.2.heap.live = [servedBlock] ∧ defaultBytes returned.2 = 0 ∧
      memtierFree samplePartition 0 0x1000 returned.2 = some final ∧ final.heap.live = [] ∧
      defaultBytes final = -4096 ∧
      ¬ReallocAccounted samplePartition servedBlock none library returned.2 := by
  obtain ⟨library, ran, found, live, before⟩ := servedCalls_reached
  have called : memtierKindReallocAnswer samplePartition 0 servedBlock.tag.kind 0x1000 8000 none
      library = some _ := memtierKindReallocAnswer_none found (by decide)
  have after := memtierKindReallocAnswer_stored found (by decide) called
  have alive := memtierKindReallocAnswer_survivor found (by decide) called
  rw [defaultBytes_eq] at before
  change _ = library.counters.stored (samplePartition memkindDefault) - 4096 + 0 at after
  rw [before] at after
  refine ⟨library, _, _, ran, live, (defaultBytes_eq library).trans before, called, rfl, live,
    (defaultBytes_eq _).trans after, memtierFree_live alive, ?_, ?_, ?_⟩
  · change library.heap.live.erase servedBlock = []
    rw [live]
    rfl
  · rw [defaultBytes_eq, LibMemtier.without, decrementAllocSize_stored]
    change Counters.stored _ (samplePartition servedBlock.tag.kind) - 4096 = _
    rw [after]
    rfl
  · intro accounted
    have total := accounted.total
    rw [after] at total
    change _ = library.counters.stored (samplePartition memkindDefault) + 0 at total
    rw [before] at total
    exact absurd total (by decide)

section Memalign

variable {library : LibMemtier} {kind : KindPtr} {memptr : Address} {alignment size : SizeT}
  {outcome : MemalignOutcome} {aligned : Aligned}

/-- A failed `memkind_posix_memalign` keeps the library. `*memptr` is `NULL` afterwards, except
that `MEMKIND_DEFAULT` does not touch it. -/
theorem memkindPosixMemalignAnswer_failed {counted : Bool}
    (called : memkindPosixMemalignAnswer kind memptr alignment size counted outcome library =
      some aligned) (failed : aligned.status ≠ .success) :
    aligned.library = library ∧ aligned.memptr = if kind = memkindDefault then memptr else 0 := by
  unfold memkindPosixMemalignAnswer at called
  split at called
  · rename_i default
    rw [if_pos default]
    unfold memkindDefaultPosixMemalign at called
    split at called
    · obtain rfl := Option.some.inj called
      exact absurd rfl failed
    · split at called
      · obtain rfl := Option.some.inj called
        exact ⟨rfl, rfl⟩
      · obtain ⟨returned, -, rfl⟩ := Option.map_eq_some_iff.mp called
        exact absurd rfl failed
  · rename_i arena
    rw [if_neg arena]
    unfold memkindArenaPosixMemalign at called
    split at called
    · obtain rfl := Option.some.inj called
      exact ⟨rfl, rfl⟩
    · split at called
      · obtain rfl := Option.some.inj called
        exact ⟨rfl, rfl⟩
      · split at called
        · obtain rfl := Option.some.inj called
          exact absurd rfl failed
        · split at called
          · obtain rfl := Option.some.inj called
            exact ⟨rfl, rfl⟩
          · obtain ⟨returned, -, rfl⟩ := Option.map_eq_some_iff.mp called
            exact absurd rfl failed

/-- After an error of jemalloc `memtier_kind_posix_memalign` of `MEMKIND_DEFAULT` counts what
`*memptr` held before. -/
theorem memtierKindPosixMemalignAnswer_error {code : ℕ+} (nonZero : size ≠ 0)
    (refused : outcome.posixMemalign = .error code) :
    memtierKindPosixMemalignAnswer partition bucket memkindDefault memptr alignment size outcome
        library =
      some ⟨.errno code, memptr, { library with
        counters := incrementAllocSize library.counters (partition memkindDefault) bucket
          (jemkMallocUsableSize memptr library) }⟩ := by
  rw [memtierKindPosixMemalignAnswer, memkindPosixMemalignAnswer, if_pos rfl,
    memkindDefaultPosixMemalign, if_neg (by simpa using fun _ => nonZero), refused]
  rfl

/-- The usable size of a pointer that is `NULL` or live is zero exactly for `NULL`. -/
theorem jemkMallocUsableSize_eq_zero_iff
    (held : memptr = 0 ∨ ∃ block, library.heap.find memptr = some block) :
    jemkMallocUsableSize memptr library = 0 ↔ memptr = 0 := by
  obtain rfl | ⟨block, found⟩ := held
  · rw [jemkMallocUsableSize, library.find_null]
    exact iff_of_true rfl rfl
  · obtain ⟨member, atPtr⟩ := BlockHeap.find_eq_some found
    rw [jemkMallocUsableSize_live found]
    exact iff_of_false (library.heap.nonempty block member)
      (atPtr ▸ library.heap.nonNull block member)

/-- A failed `memtier_kind_posix_memalign` adds the size of what `*memptr` holds. -/
theorem memtierKindPosixMemalignAnswer_failed
    (held : memptr = 0 ∨ ∃ block, library.heap.find memptr = some block)
    (called : memtierKindPosixMemalignAnswer partition bucket kind memptr alignment size outcome
      library = some aligned) (failed : aligned.status ≠ .success) :
    (memtierKindAllocatedSize aligned.library.counters (partition kind)).1 =
        (memtierKindAllocatedSize library.counters (partition kind)).1 ↔
      kind ≠ memkindDefault ∨ memptr = 0 := by
  obtain ⟨before, answered, rfl⟩ := Option.map_eq_some_iff.mp called
  obtain ⟨kept, content⟩ := memkindPosixMemalignAnswer_failed answered failed
  rw [memtierKindAllocatedSize_eq, memtierKindAllocatedSize_eq]
  simp only [kept, content]
  rw [incrementAllocSize_stored, if_pos rfl, add_eq_left]
  by_cases default : kind = memkindDefault
  · rw [if_pos default, jemkMallocUsableSize_eq_zero_iff held]
    simp [default]
  · rw [if_neg default, jemkMallocUsableSize_eq_zero_iff (.inl rfl)]
    simp [default]

end Memalign

/-- For every kind, alignment and size and every `NULL` or live content of `*memptr`, a failed
aligned allocation leaves the allocated size of the kind unchanged exactly when the kind is not
`MEMKIND_DEFAULT` or `*memptr` was `NULL`. -/
theorem memtierPosixMemalign_failed_iff (partition : KindPtr → Nat) (bucket : Bucket)
    (library : LibMemtier) (kind : KindPtr) (memptr : Address) (alignment size : SizeT)
    (held : memptr = 0 ∨ ∃ block, library.heap.find memptr = some block)
    (outcome : MemalignOutcome) :
    (∀ aligned,
      memtierKindPosixMemalignAnswer partition bucket kind memptr alignment size outcome library =
        some aligned → aligned.status ≠ .success →
      ((memtierKindAllocatedSize aligned.library.counters (partition kind)).1 =
          (memtierKindAllocatedSize library.counters (partition kind)).1 ↔
        kind ≠ memkindDefault ∨ memptr = 0)) ∧
    ∀ memory aligned, library.getKind partition memory size = some kind →
      memtierPosixMemalignAnswer partition bucket memory memptr alignment size outcome library =
        some aligned → aligned.status ≠ .success →
      ((memtierKindAllocatedSize aligned.library.counters (partition kind)).1 =
          (memtierKindAllocatedSize library.counters (partition kind)).1 ↔
        kind ≠ memkindDefault ∨ memptr = 0) := by
  constructor
  · intro aligned called failed
    exact memtierKindPosixMemalignAnswer_failed held called failed
  · intro memory aligned chosen called failed
    rw [memtierPosixMemalignAnswer, chosen, Option.bind_some] at called
    obtain ⟨middle, answered, called⟩ := Option.bind_eq_some_iff.mp called
    obtain ⟨updated, updating, rfl⟩ := Option.map_eq_some_iff.mp called
    obtain ⟨after, -, rfl⟩ := Option.map_eq_some_iff.mp updating
    have exact_step := memtierKindPosixMemalignAnswer_failed held answered failed
    exact exact_step

/-- jemalloc has no block for the aligned request. -/
def outOfMemory : MemalignOutcome := ⟨.success, .error enomemCode, none⟩

theorem memtierPosixMemalign_failed_null :
    ∃ library aligned,
      runSteps (libStep samplePartition) LibMemtier.initial servedCalls = some library ∧
      memtierKindPosixMemalignAnswer samplePartition 0 memkindDefault 0 64 8000 outOfMemory
        library = some aligned ∧
      aligned.status ≠ .success ∧ defaultBytes aligned.library = defaultBytes library := by
  have computed : ((runSteps (libStep samplePartition) LibMemtier.initial servedCalls).bind
      fun library =>
        (memtierKindPosixMemalignAnswer samplePartition 0 memkindDefault 0 64 8000 outOfMemory
          library).map Aligned.status) = some enomem := by
    decide +kernel
  obtain ⟨library, ran, computed⟩ := Option.bind_eq_some_iff.mp computed
  obtain ⟨aligned, called, status⟩ := Option.map_eq_some_iff.mp computed
  have failed : aligned.status ≠ .success := by
    rw [status]
    decide
  obtain ⟨unchanged, -⟩ := memtierPosixMemalign_failed_iff samplePartition 0 library
    memkindDefault 0 64 8000 (.inl rfl) outOfMemory
  exact ⟨library, aligned, ran, called, failed, (unchanged aligned called failed).mpr (.inr rfl)⟩

/-- The address of a live block in `*memptr` is counted once more. -/
theorem failedMemalign_counts_again :
    ∃ library aligned,
      runSteps (libStep samplePartition) LibMemtier.initial servedCalls = some library ∧
      library.heap.find 0x1000 = some servedBlock ∧ defaultBytes library = 4096 ∧
      memtierKindPosixMemalignAnswer samplePartition 0 memkindDefault 0x1000 64 8000 outOfMemory
        library = some aligned ∧
      aligned.status = enomem ∧ aligned.library.heap = library.heap ∧
      defaultBytes aligned.library = 8192 := by
  obtain ⟨library, ran, found, -, before⟩ := servedCalls_reached
  have called : memtierKindPosixMemalignAnswer samplePartition 0 memkindDefault 0x1000 64 8000
      outOfMemory library = some _ := memtierKindPosixMemalignAnswer_error (by decide) rfl
  refine ⟨library, _, ran, found, before, called, rfl, rfl, ?_⟩
  rw [defaultBytes_eq] at before
  rw [defaultBytes_eq, incrementAllocSize_stored, if_pos rfl, jemkMallocUsableSize_live found,
    before]
  rfl

end Memkind
