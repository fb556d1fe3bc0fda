/-
This file follows the live blocks of a heap in a 64-bit address space.
-/

import Memkind.Library.Ledger
import Mathlib.Algebra.Order.BigOperators.Group.List
import Mathlib.Algebra.Order.Group.Nat

namespace Memkind.Library

/-- A block has an address, a number of usable bytes, and what its owner remembers about it. -/
structure HeapBlock (Tag : Type*) where
  ptr : BitVec 64
  usable : BitVec 64
  tag : Tag
  deriving DecidableEq

/-- The live blocks have distinct addresses, at least one byte each, and fit together into the
address space. -/
structure BlockHeap (Tag : Type*) where
  live : List (HeapBlock Tag)
  distinct : (live.map HeapBlock.ptr).Nodup
  nonNull : ∀ block ∈ live, block.ptr ≠ 0
  nonempty : ∀ block ∈ live, block.usable ≠ 0
  fits : (live.map fun block => block.usable.toNat).sum < 2 ^ 64

namespace BlockHeap

variable {Tag : Type*} {block : HeapBlock Tag} {heap : BlockHeap Tag}

def empty : BlockHeap Tag where
  live := []
  distinct := List.nodup_nil
  nonNull := nofun
  nonempty := nofun
  fits := Nat.two_pow_pos 64

/-- The block at an address. -/
def find (heap : BlockHeap Tag) (ptr : BitVec 64) : Option (HeapBlock Tag) :=
  heap.live.find? fun block => block.ptr = ptr

/-- An allocator can return the block. -/
def Placeable (heap : BlockHeap Tag) (block : HeapBlock Tag) : Prop :=
  block.ptr ∉ heap.live.map HeapBlock.ptr ∧ block.ptr ≠ 0 ∧ block.usable ≠ 0 ∧
    block.usable.toNat + (heap.live.map fun block => block.usable.toNat).sum < 2 ^ 64

instance (heap : BlockHeap Tag) (block : HeapBlock Tag) : Decidable (heap.Placeable block) :=
  inferInstanceAs (Decidable (_ ∧ _))

/-- The heap with a new block, when an allocator can return it. -/
def place (heap : BlockHeap Tag) (block : HeapBlock Tag) : Option (BlockHeap Tag) :=
  if valid : heap.Placeable block then
    some {
      live := block :: heap.live
      distinct := List.nodup_cons.mpr ⟨valid.1, heap.distinct⟩
      nonNull := List.forall_mem_cons.mpr ⟨valid.2.1, heap.nonNull⟩
      nonempty := List.forall_mem_cons.mpr ⟨valid.2.2.1, heap.nonempty⟩
      fits := by
        rw [List.map_cons, List.sum_cons]
        exact valid.2.2.2 }
  else none

variable [DecidableEq Tag]

/-- The heap without one of its blocks. -/
def erase (heap : BlockHeap Tag) (block : HeapBlock Tag) : BlockHeap Tag where
  live := heap.live.erase block
  distinct := (List.erase_sublist.map HeapBlock.ptr).nodup heap.distinct
  nonNull other member := heap.nonNull other (List.mem_of_mem_erase member)
  nonempty other member := heap.nonempty other (List.mem_of_mem_erase member)
  fits := lt_of_le_of_lt
    ((List.erase_sublist.map fun block : HeapBlock Tag => block.usable.toNat).sum_le_sum
      fun _ _ => Nat.zero_le _)
    heap.fits

/-- The bytes of the live blocks that meet a test. -/
def bytesWhere (heap : BlockHeap Tag) (test : HeapBlock Tag → Bool) : Nat :=
  weightWhere (fun block => block.usable.toNat) test heap.live

omit [DecidableEq Tag] in
theorem find_eq_some {ptr : BitVec 64} (found : heap.find ptr = some block) :
    block ∈ heap.live ∧ block.ptr = ptr :=
  ⟨List.mem_of_find?_eq_some found, by simpa using List.find?_some found⟩

omit [DecidableEq Tag] in
/-- An address has at most one block. -/
theorem eq_of_ptr_eq (heap : BlockHeap Tag) {first second : HeapBlock Tag}
    (atFirst : first ∈ heap.live) (atSecond : second ∈ heap.live) (same : first.ptr = second.ptr) :
    first = second :=
  List.inj_on_of_nodup_map heap.distinct atFirst atSecond same

omit [DecidableEq Tag] in
theorem find_of_mem (heap : BlockHeap Tag) (member : block ∈ heap.live) :
    heap.find block.ptr = some block := by
  have some : (heap.find block.ptr).isSome := by
    rw [find, List.find?_isSome]
    exact ⟨block, member, decide_eq_true rfl⟩
  obtain ⟨other, found⟩ := Option.isSome_iff_exists.mp some
  obtain ⟨otherMember, same⟩ := find_eq_some found
  rw [found, heap.eq_of_ptr_eq otherMember member same]

omit [DecidableEq Tag] in
theorem place_eq_some {next : BlockHeap Tag} (placed : heap.place block = some next) :
    next.live = block :: heap.live ∧ heap.Placeable block := by
  unfold place at placed
  split at placed
  · rename_i valid
    obtain rfl := Option.some.inj placed
    exact ⟨rfl, valid⟩
  · cases placed

/-- The blocks at other addresses stay. -/
theorem mem_erase_iff {other : HeapBlock Tag} (member : block ∈ heap.live) :
    other ∈ (heap.erase block).live ↔ other ∈ heap.live ∧ other.ptr ≠ block.ptr := by
  have nodup : heap.live.Nodup := List.Nodup.of_map HeapBlock.ptr heap.distinct
  rw [erase, nodup.mem_erase_iff, and_comm]
  constructor
  · rintro ⟨stays, different⟩
    exact ⟨stays, fun same => different (heap.eq_of_ptr_eq stays member same)⟩
  · rintro ⟨stays, different⟩
    exact ⟨stays, fun same => different (congrArg HeapBlock.ptr same)⟩

omit [DecidableEq Tag] in
theorem bytesWhere_place {next : BlockHeap Tag} (placed : heap.place block = some next)
    (test : HeapBlock Tag → Bool) :
    next.bytesWhere test =
      (if test block then block.usable.toNat else 0) + heap.bytesWhere test := by
  rw [bytesWhere, (place_eq_some placed).1, weightWhere_cons]
  rfl

theorem bytesWhere_erase (member : block ∈ heap.live) (test : HeapBlock Tag → Bool) :
    heap.bytesWhere test =
      (if test block then block.usable.toNat else 0) + (heap.erase block).bytesWhere test :=
  weightWhere_erase _ test member

omit [DecidableEq Tag] in
theorem bytesWhere_lt (heap : BlockHeap Tag) (test : HeapBlock Tag → Bool) :
    heap.bytesWhere test < 2 ^ 64 :=
  lt_of_le_of_lt (weightWhere_le _ test heap.live) heap.fits

end BlockHeap

end Memkind.Library
