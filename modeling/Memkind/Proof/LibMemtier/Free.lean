/-
This file compares the interposed `free` with `memtier_free`.
-/

import Memkind.Proof.LibMemtier.Accounting

namespace Memkind

open Library

variable {ptr : Address} {library next : LibMemtier} {bucket : Bucket} {partition : KindPtr → Nat}

/-- The bytes that the release of a pointer takes from the allocated size of a kind. -/
def releasedBytes (partition : KindPtr → Nat) (ptr : Address) (library : LibMemtier)
    (kind : KindPtr) : SizeT :=
  match library.heap.find ptr with
  | none => 0
  | some block => if partition block.tag.kind = partition kind then block.usable else 0

/-- The block of the pointer is gone and every other block is there, and the allocated size of its
kind is less by its usable size. -/
structure ReleasesExactly (partition : KindPtr → Nat) (ptr : Address) (library next : LibMemtier) :
    Prop where
  live : ∀ block, block ∈ next.heap.live ↔ block ∈ library.heap.live ∧ block.ptr ≠ ptr
  allocated : ∀ kind, (memtierKindAllocatedSize next.counters (partition kind)).1 =
    (memtierKindAllocatedSize library.counters (partition kind)).1 -
      releasedBytes partition ptr library kind

/-- Two states have the same live blocks and the same allocated size for every kind. -/
def SameHeapAndSizes (partition : KindPtr → Nat) (first second : LibMemtier) : Prop :=
  (∀ block, block ∈ first.heap.live ↔ block ∈ second.heap.live) ∧
    ∀ kind, (memtierKindAllocatedSize first.counters (partition kind)).1 =
      (memtierKindAllocatedSize second.counters (partition kind)).1

theorem LibMemtier.find_null (library : LibMemtier) : library.heap.find 0 = none := by
  cases found : library.heap.find 0 with
  | none => rfl
  | some block =>
      obtain ⟨member, null⟩ := BlockHeap.find_eq_some found
      exact absurd null (library.heap.nonNull block member)

/-- The state after a live block has been uncounted and freed. -/
def LibMemtier.without (library : LibMemtier) (partition : KindPtr → Nat) (bucket : Bucket)
    (block : HeapBlock BlockTag) : LibMemtier :=
  { library with
    heap := library.heap.erase block
    counters := decrementAllocSize library.counters (partition block.tag.kind) bucket block.usable }

section Live

variable {bucket : Bucket} {ptr : Address} {library : LibMemtier} {block : HeapBlock BlockTag}

/-- `memkind_free` after `decrement_alloc_size`, as all the release paths have it. -/
theorem memkindFree_uncounted (found : library.heap.find ptr = some block) :
    memkindFree ptr (uncountPointer partition bucket block.tag.kind ptr library) =
      some (library.without partition bucket block) := by
  obtain ⟨member, rfl⟩ := BlockHeap.find_eq_some found
  rw [memkindFree, if_neg (library.heap.nonNull block member), uncountPointer,
    jemkMallocUsableSize_live found]
  exact Option.map_eq_some_iff.mpr ⟨block, found, rfl⟩

theorem memtierFree_live (found : library.heap.find ptr = some block) :
    memtierFree partition bucket ptr library = some (library.without partition bucket block) := by
  have detected : memkindDetectKind ptr library = some block.tag.kind :=
    Option.map_eq_some_iff.mpr ⟨block, found, rfl⟩
  rw [memtierFree, memtierKindFree]
  simp only [detected]
  exact memkindFree_uncounted found

theorem memtierFree_null : memtierFree partition bucket 0 library = some library := by
  have detected : memkindDetectKind 0 library = none := by
    rw [memkindDetectKind, library.find_null]
    rfl
  rw [memtierFree, memtierKindFree]
  simp only [detected, if_true]

theorem LibMemtier.without_releases (found : library.heap.find ptr = some block) :
    ReleasesExactly partition ptr library (library.without partition bucket block) := by
  obtain ⟨member, rfl⟩ := BlockHeap.find_eq_some found
  constructor
  · intro other
    exact BlockHeap.mem_erase_iff member
  · intro kind
    rw [memtierKindAllocatedSize_eq, memtierKindAllocatedSize_eq, releasedBytes, found]
    exact decrementAllocSize_stored _ _ _ _ _

end Live

/-- The allocated sizes and the live blocks do not depend on the memory. -/
theorem ReleasesExactly.of_memory (releases : ReleasesExactly partition ptr library next)
    (memory : Option MemtierMemory) :
    ReleasesExactly partition ptr library { next with currentMemory := memory } :=
  ⟨releases.live, releases.allocated⟩

/-- To release `NULL` is to change nothing. -/
theorem SameHeapAndSizes.releases_null (same : SameHeapAndSizes partition next library) :
    ReleasesExactly partition 0 library next := by
  constructor
  · intro block
    rw [same.1 block]
    exact ⟨fun member => ⟨member, library.heap.nonNull block member⟩, And.left⟩
  · intro kind
    rw [same.2 kind, releasedBytes, library.find_null, sub_zero]

/-- `memtier_free` releases exactly its argument. -/
theorem memtierFree_releases (called : memtierFree partition bucket ptr library = some next) :
    ReleasesExactly partition ptr library next := by
  cases found : library.heap.find ptr with
  | some block =>
      rw [memtierFree_live found] at called
      obtain rfl := Option.some.inj called
      exact LibMemtier.without_releases found
  | none =>
      have null : ptr = 0 := by
        by_contra nonNull
        have detected : memkindDetectKind ptr library = none := by
          rw [memkindDetectKind, found]
          rfl
        rw [memtierFree, memtierKindFree] at called
        simp only [detected, if_neg nonNull] at called
        cases called
      subst null
      rw [memtierFree_null] at called
      obtain rfl := Option.some.inj called
      exact SameHeapAndSizes.releases_null ⟨fun _ => Iff.rfl, fun _ => rfl⟩

/-- The interposed `free` of a live block is `memtier_free` followed by `memory->update_cfg`. -/
theorem libFree_live {memory : MemtierMemory} {granted : Grant} {block : HeapBlock BlockTag}
    (set : library.currentMemory = some memory) (found : library.heap.find ptr = some block)
    (called : libFree partition bucket ptr granted library = some next) :
    ∃ updated, next = { library.without partition bucket block with currentMemory := updated } := by
  obtain ⟨member, atPtr⟩ := BlockHeap.find_eq_some found
  have nonNull : ptr ≠ 0 := atPtr ▸ library.heap.nonNull block member
  have detected : memkindDetectKind ptr library = some block.tag.kind :=
    Option.map_eq_some_iff.mpr ⟨block, found, rfl⟩
  obtain ⟨returned, interposed, rfl⟩ := Option.map_eq_some_iff.mp called
  rw [LibMemtier.interpose_set set] at interposed
  simp only [memtierRealloc, if_pos nonNull, detected, Option.bind_some, memtierKindRealloc,
    true_and, memkindFree_uncounted found, Option.map_some] at interposed
  obtain ⟨updated, -, rfl⟩ := Option.map_eq_some_iff.mp interposed
  exact ⟨some updated, rfl⟩

/-- The interposed `free(NULL)` is an allocation of size 0 from the kind that the memory chooses. -/
theorem libFree_null {memory : MemtierMemory} {granted : Grant}
    (set : library.currentMemory = some memory)
    (called : libFree partition bucket 0 granted library = some next) :
    ∃ kind returned updated, library.getKind partition memory 0 = some kind ∧
      memtierKindMallocBlock partition bucket kind 0 granted library = some returned ∧
      next = { returned.2 with currentMemory := updated } := by
  obtain ⟨returned, interposed, rfl⟩ := Option.map_eq_some_iff.mp called
  rw [LibMemtier.interpose_set set] at interposed
  simp only [memtierRealloc, ne_eq, not_true_eq_false, if_false] at interposed
  obtain ⟨kind, chosen, afterChoice⟩ := Option.bind_eq_some_iff.mp interposed
  obtain ⟨middle, allocated, afterBlock⟩ := Option.bind_eq_some_iff.mp afterChoice
  obtain ⟨updated, -, rfl⟩ := Option.map_eq_some_iff.mp afterBlock
  exact ⟨kind, middle, some updated, chosen, allocated, rfl⟩

section Zero

variable {bucket : Bucket} {kind : KindPtr} {granted : Grant} {library : LibMemtier}
  {returned : Option (HeapBlock BlockTag) × LibMemtier}

/-- A request of size 0 that is refused changes nothing: `NULL` adds no bytes. -/
theorem memtierKindMallocBlock_refused (refuses : library.allowZeroAllocs kind = false)
    (allocated : memtierKindMallocBlock partition bucket kind 0 granted library = some returned) :
    SameHeapAndSizes partition returned.2 library := by
  obtain ⟨⟨block, middle⟩, malloced, rfl⟩ := Option.map_eq_some_iff.mp allocated
  obtain ⟨rfl, rfl⟩ : none = block ∧ library = middle := by
    simpa [memkindMalloc, kindAllocate, refuses] using malloced
  refine ⟨fun _ => Iff.rfl, ?_⟩
  intro other
  rw [memtierKindAllocatedSize_eq, memtierKindAllocatedSize_eq]
  change (countBlock (partition kind) bucket none library.counters).stored _ = _
  rw [countBlock, incrementAllocSize_stored]
  simp [usableSize]

/-- A request of size 0 that is granted makes a block that was not there. -/
theorem memtierKindMallocBlock_granted (allows : library.allowZeroAllocs kind = true)
    (allocated : memtierKindMallocBlock partition bucket kind 0 granted library = some returned) :
    ∃ block ∈ returned.2.heap.live, block ∉ library.heap.live := by
  obtain ⟨⟨block, middle⟩, malloced, rfl⟩ := Option.map_eq_some_iff.mp allocated
  have granting : library.grant ⟨kind, true⟩ granted = some (block, middle) := by
    simpa [memkindMalloc, kindAllocate, allows] using malloced
  obtain ⟨heap, placed, result⟩ := Option.map_eq_some_iff.mp granting
  obtain ⟨rfl, rfl⟩ := Prod.mk.inj result
  obtain ⟨live, fresh, -⟩ := BlockHeap.place_eq_some placed
  refine ⟨⟨granted.ptr, granted.usable, ⟨kind, true⟩⟩, ?_, ?_⟩
  · change _ ∈ heap.live
    rw [live]
    exact List.mem_cons_self
  · intro member
    exact fresh (List.mem_map_of_mem member)

end Zero

/-- With the memory set, the interposed `free` releases exactly its argument and does to the heap
and to the accounting what `memtier_free` does, exactly when the argument is not `NULL` or the kind
that the memory chooses for the size 0 does not allow zero allocations. -/
theorem libFree_releases_iff (bucket : Bucket) (ptr : Address) (library next : LibMemtier)
    (memory : MemtierMemory) (granted : Grant) (set : library.currentMemory = some memory)
    (valid : ptr = 0 ∨ (library.heap.find ptr).isSome)
    (called : libFree partition bucket ptr granted library = some next) :
    (ReleasesExactly partition ptr library next ∧
      ∃ freed, memtierFree partition bucket ptr library = some freed ∧
        SameHeapAndSizes partition next freed) ↔
      ptr ≠ 0 ∨ ∀ kind, library.getKind partition memory 0 = some kind →
        library.allowZeroAllocs kind = false := by
  by_cases null : ptr = 0
  · subst null
    obtain ⟨kind, returned, updated, chosen, allocated, rfl⟩ := libFree_null set called
    cases allows : library.allowZeroAllocs kind with
    | false =>
        have same := memtierKindMallocBlock_refused allows allocated
        refine iff_of_true ⟨same.releases_null.of_memory updated, library, memtierFree_null, same⟩
          (.inr ?_)
        intro other otherChosen
        rw [chosen] at otherChosen
        obtain rfl := Option.some.inj otherChosen
        exact allows
    | true =>
        obtain ⟨block, appears, fresh⟩ := memtierKindMallocBlock_granted allows allocated
        apply iff_of_false
        · rintro ⟨releases, -⟩
          exact fresh ((releases.live block).mp appears).1
        · rintro (nonNull | refuses)
          · exact nonNull rfl
          · rw [refuses kind chosen] at allows
            cases allows
  · obtain ⟨block, found⟩ := Option.isSome_iff_exists.mp (valid.resolve_left null)
    obtain ⟨updated, rfl⟩ := libFree_live set found called
    refine iff_of_true ⟨(LibMemtier.without_releases found).of_memory updated, ?_⟩ (.inl null)
    exact ⟨_, memtierFree_live found, fun _ => Iff.rfl, fun _ => rfl⟩

/-- A block of the tier is released. -/
theorem libFree_releases_one_block :
    ∃ library next,
      runSteps (libStep samplePartition) LibMemtier.initial
        [.memtierInit dramMemory true, .malloc 0 100 ⟨0x1000, 112⟩] = some library ∧
      libFree samplePartition 0 0x1000 ⟨0x2000, 8⟩ library = some next ∧
      ReleasesExactly samplePartition 0x1000 library next := by
  have computed : ((runSteps (libStep samplePartition) LibMemtier.initial
      [.memtierInit dramMemory true, .malloc 0 100 ⟨0x1000, 112⟩]).map fun library =>
        (library.currentMemory.isSome, (library.heap.find 0x1000).isSome,
          (libFree samplePartition 0 0x1000 ⟨0x2000, 8⟩ library).isSome)) =
      some (true, true, true) := by
    decide +kernel
  obtain ⟨library, ran, values⟩ := Option.map_eq_some_iff.mp computed
  rw [Prod.mk.injEq, Prod.mk.injEq] at values
  obtain ⟨memory, set⟩ := Option.isSome_iff_exists.mp values.1
  obtain ⟨next, called⟩ := Option.isSome_iff_exists.mp values.2.2
  have exact := (libFree_releases_iff 0 0x1000 library next memory _ set (.inr values.2.1)
    called).mpr (.inl (by decide))
  exact ⟨library, next, ran, called, exact.1⟩

/-- Where `malloc(0)` of the C library returns a block, `free(NULL)` leaves a counted block behind
that nothing points to. -/
theorem freeNull_leaves_block :
    ∃ library next,
      runSteps (libStep samplePartition) LibMemtier.initial [.memtierInit dramMemory true] =
        some library ∧
      libFree samplePartition 0 0 ⟨0x1000, 8⟩ library = some next ∧
      library.heap.live = [] ∧ next.heap.live = [⟨0x1000, 8, ⟨memkindDefault, true⟩⟩] ∧
      (memtierKindAllocatedSize next.counters (samplePartition memkindDefault)).1 = 8 ∧
      ¬ ReleasesExactly samplePartition 0 library next := by
  have computed : ((runSteps (libStep samplePartition) LibMemtier.initial
      [.memtierInit dramMemory true]).map fun library =>
        (library.heap.live, (libFree samplePartition 0 0 ⟨0x1000, 8⟩ library).map fun next =>
          (next.heap.live, next.counters))) =
      some ([], some ([⟨0x1000, 8, ⟨memkindDefault, true⟩⟩],
        incrementAllocSize .zero (samplePartition memkindDefault) 0 8)) := rfl
  obtain ⟨library, ran, values⟩ := Option.map_eq_some_iff.mp computed
  obtain ⟨empty, freed⟩ := Prod.mk.inj values
  obtain ⟨next, called, after⟩ := Option.map_eq_some_iff.mp freed
  obtain ⟨live, counters⟩ := Prod.mk.inj after
  have allocated :
      (memtierKindAllocatedSize next.counters (samplePartition memkindDefault)).1 = 8 := by
    rw [memtierKindAllocatedSize_eq, counters, incrementAllocSize_stored, if_pos rfl,
      Counters.zero_stored]
    rfl
  refine ⟨library, next, ran, called, empty, live, allocated, ?_⟩
  intro releases
  have member : ⟨0x1000, 8, ⟨memkindDefault, true⟩⟩ ∈ next.heap.live := by
    rw [live]
    exact List.mem_cons_self
  have appears := (releases.live _).mp member
  rw [empty] at appears
  exact absurd appears.1 List.not_mem_nil

end Memkind
