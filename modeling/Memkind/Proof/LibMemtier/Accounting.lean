/-
This file compares the counters of libmemtier with the blocks that were counted.
-/

import Memkind.Construction.LibMemtier
import Memkind.Proof.Accounting.GlobalCounter

namespace Memkind

open Library

variable {block : HeapBlock BlockTag} {kind : KindPtr} {size : SizeT} {library next : LibMemtier}
  {bucket : Bucket} {granted : Grant} {call : LibCall} {ptr : Address} {returned : Returned}
  {memory : MemtierMemory}

/-- The usable bytes of the live blocks that were counted for a partition. -/
def countedBytes (partition : KindPtr → Nat) (heap : BlockHeap BlockTag) (part : Nat) : Nat :=
  heap.bytesWhere fun block => block.tag.counted && partition block.tag.kind = part

/-- What the counters of a partition hold beyond its counted blocks, modulo the word size. -/
def LibMemtier.drift (partition : KindPtr → Nat) (library : LibMemtier) (part : Nat) : SizeT :=
  library.counters.stored part - BitVec.ofNat 64 (countedBytes partition library.heap part)

section Parts

variable (partition : KindPtr → Nat)

theorem incrementAllocSize_stored (counters : Counters) (kindId : Nat) (bucket : Bucket)
    (size : SizeT) (part : Nat) :
    (incrementAllocSize counters kindId bucket size).stored part =
      counters.stored part + if kindId = part then size else 0 := by
  have counted := BlockCall.count_stored id (.incrementAllocSize bucket kindId size) counters part
  simpa [BlockCall.count, BlockCall.kindId, BlockCall.change] using counted

theorem decrementAllocSize_stored (counters : Counters) (kindId : Nat) (bucket : Bucket)
    (size : SizeT) (part : Nat) :
    (decrementAllocSize counters kindId bucket size).stored part =
      counters.stored part - if kindId = part then size else 0 := by
  have counted := BlockCall.count_stored id (.decrementAllocSize bucket ⟨kindId, size, bucket⟩)
    counters part
  rw [show (decrementAllocSize counters kindId bucket size).stored part =
    (BlockCall.count id (.decrementAllocSize bucket ⟨kindId, size, bucket⟩) counters).stored part
    from rfl, counted]
  by_cases same : kindId = part
  · simp [BlockCall.kindId, BlockCall.change, same, sub_eq_add_neg]
  · simp [BlockCall.kindId, same]

/-- A granted block that is to be counted is missing in the counters. -/
theorem LibMemtier.grant_drift {tag : BlockTag} {block : Option (HeapBlock BlockTag)}
    (called : library.grant tag granted = some (block, next)) (part : Nat) :
    block = some ⟨granted.ptr, granted.usable, tag⟩ ∧
      next.drift partition part = library.drift partition part -
        if tag.counted && partition tag.kind = part then granted.usable else 0 := by
  obtain ⟨heap, placed, result⟩ := Option.map_eq_some_iff.mp called
  obtain ⟨rfl, rfl⟩ := Prod.mk.inj result
  refine ⟨rfl, ?_⟩
  simp only [drift, countedBytes, BlockHeap.bytesWhere_place placed]
  split
  · rw [BitVec.ofNat_add, BitVec.ofNat_toNat, BitVec.setWidth_eq]
    abel
  · rw [zero_add, sub_zero]

/-- `increment_alloc_size` adds the usable size of the returned block. -/
theorem countReturned_drift (bucket : Bucket) (kind : KindPtr) (returned : Returned) (part : Nat) :
    (countReturned partition bucket kind returned).2.drift partition part =
      returned.2.drift partition part +
        if partition kind = part then usableSize (returned.1.map HeapBlock.usable) else 0 := by
  simp only [countReturned, LibMemtier.drift, countBlock, incrementAllocSize_stored]
  abel

/-- `decrement_alloc_size` removes the usable size of the pointer. -/
theorem uncountPointer_drift (bucket : Bucket) (kind : KindPtr) (ptr : Address)
    (library : LibMemtier) (part : Nat) :
    (uncountPointer partition bucket kind ptr library).drift partition part =
      library.drift partition part -
        if partition kind = part then jemkMallocUsableSize ptr library else 0 := by
  simp only [uncountPointer, LibMemtier.drift, decrementAllocSize_stored]
  abel

/-- A freed block that was counted is left over in the counters. -/
theorem LibMemtier.erase_drift (library : LibMemtier) (member : block ∈ library.heap.live)
    (part : Nat) :
    LibMemtier.drift partition { library with heap := library.heap.erase block } part =
      library.drift partition part +
        if block.tag.counted && partition block.tag.kind = part then block.usable else 0 := by
  simp only [drift, countedBytes, BlockHeap.bytesWhere_erase member]
  split
  · rw [BitVec.ofNat_add, BitVec.ofNat_toNat, BitVec.setWidth_eq]
    abel
  · rw [zero_add, add_zero]

/-- An allocation that is counted changes no drift. -/
theorem kindAllocate_counted {refused : Bool}
    (called : (kindAllocate refused kind true granted library).map
      (countReturned partition bucket kind) = some returned) (part : Nat) :
    returned.2.drift partition part = library.drift partition part := by
  obtain ⟨⟨block, next⟩, allocated, rfl⟩ := Option.map_eq_some_iff.mp called
  rw [countReturned_drift]
  unfold kindAllocate at allocated
  split at allocated
  · obtain ⟨rfl, rfl⟩ := Prod.mk.inj (Option.some.inj allocated)
    simp [usableSize]
  · obtain ⟨rfl, moved⟩ := LibMemtier.grant_drift partition allocated part
    rw [moved]
    simp [usableSize]

/-- The bytes that a released block takes from the drift of a partition: nothing for a counted
block. -/
def uncountedBytes (found : Option (HeapBlock BlockTag)) (part : Nat) : SizeT :=
  match found with
  | none => 0
  | some block =>
      if !block.tag.counted && partition block.tag.kind = part then block.usable else 0

theorem jemkMallocUsableSize_live (found : library.heap.find ptr = some block) :
    jemkMallocUsableSize ptr library = block.usable := by
  rw [jemkMallocUsableSize, found]
  rfl

/-- A released block changes the drift when it was not counted. -/
theorem released_drift (found : library.heap.find ptr = some block)
    (called : memkindFree ptr (uncountPointer partition bucket block.tag.kind ptr library) =
      some next) (part : Nat) :
    next.drift partition part =
      library.drift partition part - uncountedBytes partition (some block) part := by
  obtain ⟨member, rfl⟩ := BlockHeap.find_eq_some found
  have nonNull := library.heap.nonNull block member
  have erased : memkindFree block.ptr (uncountPointer partition bucket block.tag.kind block.ptr
      library) = some { uncountPointer partition bucket block.tag.kind block.ptr library with
        heap := library.heap.erase block } := by
    rw [memkindFree, if_neg nonNull]
    exact Option.map_eq_some_iff.mpr ⟨block, found, rfl⟩
  rw [erased] at called
  obtain rfl := Option.some.inj called
  have freed := LibMemtier.erase_drift partition
    (uncountPointer partition bucket block.tag.kind block.ptr library) member part
  refine freed.trans ?_
  rw [uncountPointer_drift, jemkMallocUsableSize_live found]
  by_cases here : partition block.tag.kind = part
  · cases counted : block.tag.counted with
    | true => simp [uncountedBytes, here, counted]
    | false => simp [uncountedBytes, here, counted]
  · simp [uncountedBytes, here]

/-- `memtier_kind_realloc` on the kind of a live block changes the drift by its release. -/
theorem memtierKindRealloc_drift (found : library.heap.find ptr = some block)
    (called : memtierKindRealloc partition bucket block.tag.kind ptr size granted library =
      some returned) (part : Nat) :
    returned.2.drift partition part =
      library.drift partition part - uncountedBytes partition (some block) part := by
  obtain ⟨member, atPtr⟩ := BlockHeap.find_eq_some found
  have nonNull : ptr ≠ 0 := atPtr ▸ library.heap.nonNull block member
  unfold memtierKindRealloc at called
  split at called
  · obtain ⟨next, freed, rfl⟩ := Option.map_eq_some_iff.mp called
    exact released_drift partition found freed part
  · rename_i sized
    have nonZero : size ≠ 0 := fun zero => sized ⟨zero, nonNull⟩
    rw [memkindRealloc, if_neg nonNull, if_neg nonZero] at called
    obtain ⟨⟨new, next⟩, moved, rfl⟩ := Option.map_eq_some_iff.mp called
    obtain ⟨middle, freed, granting⟩ := Option.bind_eq_some_iff.mp moved
    obtain ⟨rfl, placed⟩ := LibMemtier.grant_drift partition granting part
    rw [countReturned_drift, placed, released_drift partition found freed part]
    simp [usableSize]

/-- `memory->update_cfg` changes no drift and keeps the memory. -/
theorem updateAfter_drift {before after : Returned}
    (called : updateAfter partition memory before = some after) :
    after.2.currentMemory.isSome ∧ after.2.drift partition = before.2.drift partition := by
  obtain ⟨updated, -, rfl⟩ := Option.map_eq_some_iff.mp called
  exact ⟨rfl, rfl⟩

/-- A counted allocation from a memory changes no drift. -/
theorem memtierAllocate_drift (refused : KindPtr → Bool)
    (called : memtierAllocate partition memory size (fun kind library =>
      (kindAllocate (refused kind) kind true granted library).map
        (countReturned partition bucket kind)) library = some returned) :
    returned.2.currentMemory.isSome ∧ returned.2.drift partition = library.drift partition := by
  obtain ⟨kind, -, called⟩ := Option.bind_eq_some_iff.mp called
  obtain ⟨middle, allocated, updated⟩ := Option.bind_eq_some_iff.mp called
  obtain ⟨served, same⟩ := updateAfter_drift partition updated
  refine ⟨served, same.trans ?_⟩
  funext part
  exact kindAllocate_counted partition allocated part

/-- `memtier_realloc` changes the drift by the release of its block. -/
theorem memtierRealloc_drift
    (called : memtierRealloc partition bucket memory ptr size granted library = some returned) :
    returned.2.currentMemory.isSome ∧ ∀ part, returned.2.drift partition part =
      library.drift partition part - uncountedBytes partition (library.heap.find ptr) part := by
  unfold memtierRealloc at called
  split at called
  · obtain ⟨kind, detected, called⟩ := Option.bind_eq_some_iff.mp called
    obtain ⟨block, found, rfl⟩ := Option.map_eq_some_iff.mp detected
    obtain ⟨middle, moved, updated⟩ := Option.bind_eq_some_iff.mp called
    obtain ⟨served, same⟩ := updateAfter_drift partition updated
    refine ⟨served, fun part => ?_⟩
    rw [same, found]
    exact memtierKindRealloc_drift partition found moved part
  · rename_i null
    have nothing : library.heap.find ptr = none := by
      cases found : library.heap.find ptr with
      | none => rfl
      | some block =>
          obtain ⟨member, atPtr⟩ := BlockHeap.find_eq_some found
          exact absurd (atPtr ▸ library.heap.nonNull block member) null
    obtain ⟨served, same⟩ := memtierAllocate_drift partition (fun _ => size = 0) called
    refine ⟨served, fun part => ?_⟩
    rw [same, nothing, uncountedBytes, sub_zero]

/-- No live block was counted. -/
def LibMemtier.Uncounted (library : LibMemtier) : Prop :=
  ∀ block ∈ library.heap.live, block.tag.counted = false

/-- Before the memory is set no block is counted. -/
def LibMemtier.PlainStart (library : LibMemtier) : Prop :=
  library.currentMemory = none → library.Uncounted

/-- A freed block that was not counted changes no drift. -/
theorem memkindFree_plain (uncounted : library.Uncounted)
    (called : memkindFree ptr library = some next) :
    next.Uncounted ∧ next.drift partition = library.drift partition := by
  unfold memkindFree at called
  split at called
  · obtain rfl := Option.some.inj called
    exact ⟨uncounted, rfl⟩
  · obtain ⟨block, found, rfl⟩ := Option.map_eq_some_iff.mp called
    obtain ⟨member, -⟩ := BlockHeap.find_eq_some found
    constructor
    · intro other stays
      exact uncounted other (List.mem_of_mem_erase stays)
    · funext part
      rw [LibMemtier.erase_drift partition library member part, uncounted block member]
      simp

/-- A granted block that is not to be counted changes no drift. -/
theorem LibMemtier.grant_plain (uncounted : library.Uncounted)
    (called : library.grant ⟨kind, false⟩ granted = some returned) :
    returned.2.Uncounted ∧ returned.2.drift partition = library.drift partition := by
  constructor
  · obtain ⟨heap, placed, rfl⟩ := Option.map_eq_some_iff.mp called
    intro block member
    simp only [(BlockHeap.place_eq_some placed).1] at member
    obtain rfl | member := List.mem_cons.mp member
    · rfl
    · exact uncounted block member
  · funext part
    rw [(LibMemtier.grant_drift partition called part).2]
    simp

theorem kindAllocate_plain {refused : Bool} (uncounted : library.Uncounted)
    (called : kindAllocate refused kind false granted library = some returned) :
    returned.2.Uncounted ∧ returned.2.drift partition = library.drift partition := by
  unfold kindAllocate at called
  split at called
  · obtain rfl := Option.some.inj called
    exact ⟨uncounted, rfl⟩
  · exact LibMemtier.grant_plain partition uncounted called

theorem memkindRealloc_plain (uncounted : library.Uncounted)
    (called : memkindRealloc kind ptr size false granted library = some returned) :
    returned.2.Uncounted ∧ returned.2.drift partition = library.drift partition := by
  unfold memkindRealloc at called
  split at called
  · exact kindAllocate_plain partition uncounted called
  · split at called
    · obtain ⟨next, freed, rfl⟩ := Option.map_eq_some_iff.mp called
      exact memkindFree_plain partition uncounted freed
    · obtain ⟨middle, freed, granting⟩ := Option.bind_eq_some_iff.mp called
      obtain ⟨between, same⟩ := memkindFree_plain partition uncounted freed
      obtain ⟨after, equal⟩ := LibMemtier.grant_plain partition between granting
      exact ⟨after, equal.trans same⟩

/-- The state after a call: no block is counted before the memory is set, and the drift changes
only by an uncounted block that the memory released. -/
structure DriftStep (library next : LibMemtier) (released : Option (HeapBlock BlockTag)) :
    Prop where
  start : next.PlainStart
  drift : ∀ part, next.drift partition part = library.drift partition part -
    if library.currentMemory.isSome then uncountedBytes partition released part else 0

omit partition in
theorem LibMemtier.interpose_set {tiered : MemtierMemory → Option Returned}
    {plain : Option Returned} (set : library.currentMemory = some memory) :
    library.interpose tiered plain = tiered memory := by
  unfold interpose
  rw [set]

/-- An interposed call takes one of its two paths. -/
theorem interpose_drift {tiered : MemtierMemory → Option Returned} {plain : Option Returned}
    (released : Option (HeapBlock BlockTag)) (start : library.PlainStart)
    (tieredDrift : ∀ memory, tiered memory = some returned →
      returned.2.currentMemory.isSome ∧ ∀ part, returned.2.drift partition part =
        library.drift partition part - uncountedBytes partition released part)
    (plainDrift : library.Uncounted → plain = some returned →
      returned.2.Uncounted ∧ returned.2.drift partition = library.drift partition)
    (called : library.interpose tiered plain = some returned) :
    DriftStep partition library returned.2 released := by
  cases memory : library.currentMemory with
  | some current =>
      rw [LibMemtier.interpose_set memory] at called
      obtain ⟨served, drift⟩ := tieredDrift current called
      constructor
      · intro unset
        rw [unset] at served
        cases served
      · intro part
        rw [memory, drift part]
        rfl
  | none =>
      unfold LibMemtier.interpose at called
      rw [memory] at called
      have both : returned.2.Uncounted ∧
          returned.2.drift partition = library.drift partition := by
        simp only at called
        split at called
        · exact plainDrift (start memory) called
        · obtain rfl := Option.some.inj called
          exact ⟨start memory, rfl⟩
      constructor
      · intro _
        exact both.1
      · intro part
        rw [memory, both.2]
        simp

/-- The block that a call hands back to the allocator. -/
def LibCall.released (library : LibMemtier) : LibCall → Option (HeapBlock BlockTag)
  | .realloc _ ptr _ _ => library.heap.find ptr
  | .free _ ptr _ => library.heap.find ptr
  | _ => none

/-- Every call of libmemtier is a drift step. -/
theorem libStep_drift (start : library.PlainStart)
    (stepped : libStep partition call library = some next) :
    DriftStep partition library next (call.released library) := by
  -- An allocation from the memory is counted in full.
  have allocation (bucket : Bucket) (size : SizeT) (refused : KindPtr → Bool) (granted : Grant)
      (returned : Returned) (memory : MemtierMemory)
      (called : memtierAllocate partition memory size (fun kind library =>
        (kindAllocate (refused kind) kind true granted library).map
          (countReturned partition bucket kind)) library = some returned) :
      returned.2.currentMemory.isSome ∧ ∀ part, returned.2.drift partition part =
        library.drift partition part - uncountedBytes partition none part := by
    obtain ⟨served, same⟩ := memtierAllocate_drift partition refused called
    refine ⟨served, fun part => ?_⟩
    rw [same, uncountedBytes, sub_zero]
  cases call with
  | malloc bucket size granted =>
      obtain ⟨returned, called, rfl⟩ := Option.map_eq_some_iff.mp stepped
      apply interpose_drift partition none start _ _ called
      · intro memory tiered
        exact allocation bucket size (fun _ => size = 0) granted returned memory tiered
      · intro uncounted plain
        exact kindAllocate_plain partition uncounted plain
  | calloc bucket num size granted =>
      obtain ⟨returned, called, rfl⟩ := Option.map_eq_some_iff.mp stepped
      apply interpose_drift partition none start _ _ called
      · intro memory tiered
        exact allocation bucket size _ granted returned memory tiered
      · intro uncounted plain
        exact kindAllocate_plain partition uncounted plain
  | realloc bucket ptr size granted =>
      obtain ⟨returned, called, rfl⟩ := Option.map_eq_some_iff.mp stepped
      apply interpose_drift partition _ start _ _ called
      · intro memory tiered
        exact memtierRealloc_drift partition tiered
      · intro uncounted plain
        exact memkindRealloc_plain partition uncounted plain
  | posixMemalign bucket alignment size granted =>
      obtain ⟨returned, called, rfl⟩ := Option.map_eq_some_iff.mp stepped
      apply interpose_drift partition none start _ _ called
      · intro memory tiered
        exact allocation bucket size (fun _ => size = 0) granted returned memory tiered
      · intro uncounted plain
        exact kindAllocate_plain partition uncounted plain
  | free bucket ptr granted =>
      obtain ⟨returned, called, rfl⟩ := Option.map_eq_some_iff.mp stepped
      apply interpose_drift partition _ start _ _ called
      · intro memory tiered
        exact memtierRealloc_drift partition tiered
      · intro uncounted plain
        obtain ⟨next, freed, rfl⟩ := Option.map_eq_some_iff.mp plain
        exact memkindFree_plain partition uncounted freed
  | memtierInit memory libcAllowsZero =>
      simp only [libStep] at stepped
      split at stepped
      · cases stepped
      · rename_i unset
        obtain rfl := Option.some.inj stepped
        constructor
        · intro unset
          cases unset
        · intro part
          rw [if_neg unset, sub_zero]
          rfl

/-- `memtier_kind_allocated_size` of every kind is the number of usable bytes in the live blocks
that were counted for it. -/
def LibMemtier.Accounted (library : LibMemtier) : Prop :=
  ∀ kind, (memtierKindAllocatedSize library.counters (partition kind)).1.toNat =
    countedBytes partition library.heap (partition kind)

/-- The counters agree with the counted blocks when they do so modulo the word size. -/
theorem LibMemtier.accounted_iff (library : LibMemtier) :
    library.Accounted partition ↔ ∀ kind, library.drift partition (partition kind) = 0 := by
  apply forall_congr'
  intro kind
  have fits : countedBytes partition library.heap (partition kind) < 2 ^ 64 :=
    library.heap.bytesWhere_lt _
  rw [memtierKindAllocatedSize_eq, drift, sub_eq_zero, ← BitVec.toNat_inj, BitVec.toNat_ofNat,
    Nat.mod_eq_of_lt fits]

/-- A block that the memory releases was counted when it was allocated. -/
def LibCall.ReleasesCounted (call : LibCall) (library : LibMemtier) : Prop :=
  library.currentMemory.isSome → ∀ block, call.released library = some block →
    block.tag.counted = true

/-- The bytes that a release takes from the counters without having been added vanish exactly for
a counted block. -/
theorem uncountedBytes_eq_zero_iff {heap : BlockHeap BlockTag} (member : block ∈ heap.live) :
    (∀ kind, uncountedBytes partition (some block) (partition kind) = 0) ↔
      block.tag.counted = true := by
  constructor
  · intro nothing
    have here := nothing block.tag.kind
    by_contra uncounted
    have bytes : uncountedBytes partition (some block) (partition block.tag.kind) =
        block.usable := by
      simp [uncountedBytes, uncounted]
    exact heap.nonempty block member (bytes.symm.trans here)
  · intro counted kind
    simp [uncountedBytes, counted]

theorem LibCall.released_mem (released : call.released library = some block) :
    block ∈ library.heap.live := by
  cases call with
  | realloc bucket ptr size granted => exact (BlockHeap.find_eq_some released).1
  | free bucket ptr granted => exact (BlockHeap.find_eq_some released).1
  | _ => cases released

/-- From a state in which the counters agree, a call keeps the agreement exactly when it releases
no uncounted block through the memory. -/
theorem libStep_accounted_iff (start : library.PlainStart) (before : library.Accounted partition)
    (stepped : libStep partition call library = some next) :
    next.Accounted partition ↔ call.ReleasesCounted library := by
  have step := libStep_drift partition start stepped
  rw [LibMemtier.accounted_iff] at before
  rw [LibMemtier.accounted_iff]
  simp only [step.drift, before, zero_sub, neg_eq_zero]
  cases served : library.currentMemory.isSome with
  | false => simp [LibCall.ReleasesCounted, served]
  | true =>
      cases released : call.released library with
      | none => simp [LibCall.ReleasesCounted, released, uncountedBytes]
      | some block =>
          simp only [if_true]
          rw [uncountedBytes_eq_zero_iff partition (LibCall.released_mem released)]
          simp [LibCall.ReleasesCounted, served, released]

theorem LibMemtier.initial_accounted : LibMemtier.initial.Accounted partition := by
  rw [accounted_iff]
  intro kind
  simp [drift, initial, Counters.zero_stored, countedBytes, BlockHeap.bytesWhere,
    BlockHeap.empty, weightWhere]

/-- In a run of interposed calls with `memtier_init` at any point, the allocated size of every kind
is the size of its counted live blocks in every state exactly when the memory never releases a
block that was allocated before it was set. -/
theorem libRun_accounted_iff (calls : List LibCall) :
    Always (libStep partition) (fun library => library.Accounted partition) LibMemtier.initial
        calls ↔
      Guarded (libStep partition) LibCall.ReleasesCounted LibMemtier.initial calls := by
  have started : LibMemtier.initial.PlainStart := fun _ => nofun
  refine always_iff_guarded_of_invariant (libStep partition) ?_ ?_ started ?_
  · intro call library next start before stepped
    exact libStep_accounted_iff partition start before stepped
  · intro call library next start _ stepped _
    exact (libStep_drift partition start stepped).start
  · exact LibMemtier.initial_accounted partition

end Parts

/-- The static kinds count in the partitions of their slots. -/
def samplePartition : KindPtr → Nat
  | .library index => index.val
  | .heap address => numStaticKinds + address.toNat

/-- One tier of `MEMKIND_DEFAULT`. -/
def dramMemory : MemtierMemory :=
  ⟨.single, [⟨memkindDefault, .finite 1⟩], [], 0, 0, .finite 0, .finite 0⟩

/-- A block is allocated before `memtier_init` and freed after it. -/
def straddlingBlock : List LibCall :=
  [.malloc 0 100 ⟨0x1000, 112⟩, .memtierInit dramMemory true, .free 0 0x1000 ⟨0x2000, 8⟩]

/-- The counter of `MEMKIND_DEFAULT` falls below zero, with no live block left. -/
theorem straddlingBlock_wraps :
    ∃ final, runSteps (libStep samplePartition) LibMemtier.initial straddlingBlock = some final ∧
      final.heap.live = [] ∧
      (memtierKindAllocatedSize final.counters (samplePartition memkindDefault)).1.toNat =
        2 ^ 64 - 112 ∧
      ¬ final.Accounted samplePartition := by
  have computed : ((runSteps (libStep samplePartition) LibMemtier.initial straddlingBlock).map
      fun final => (final.heap.live, final.counters)) =
      some ([], decrementAllocSize .zero (samplePartition memkindDefault) 0 112) := rfl
  obtain ⟨final, ran, values⟩ := Option.map_eq_some_iff.mp computed
  obtain ⟨live, counters⟩ := Prod.mk.inj values
  have allocated : (memtierKindAllocatedSize final.counters
      (samplePartition memkindDefault)).1.toNat = 2 ^ 64 - 112 := by
    rw [memtierKindAllocatedSize_eq, counters, decrementAllocSize_stored, if_pos rfl,
      Counters.zero_stored]
    rfl
  refine ⟨final, ran, live, allocated, ?_⟩
  intro accounted
  have equal := accounted memkindDefault
  have nothing : countedBytes samplePartition final.heap (samplePartition memkindDefault) = 0 := by
    rw [countedBytes, BlockHeap.bytesWhere, live]
    rfl
  rw [nothing, allocated] at equal
  omega

end Memkind
