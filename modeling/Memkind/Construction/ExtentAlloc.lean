/-
This file embeds the allocation of extents by `memkind_arena.c` over `memkind_default_mmap`, with
the mappings that it makes and removes.
-/

import Memkind.Construction.Types
import Memkind.Library.AddressSpace

namespace Memkind

open Library

/-- The entries of the table of a kind that `memkind_default_mmap` looks for. The tables of the
kinds with `arena_extent_alloc` have no `mmap`. -/
structure MmapOps where
  getMmapFlags : Bool
  mbind : Bool
  madvise : Bool

/-- What the calls below `memkind_default_mmap` return: the errors, and the address of `mmap` unless
it fails. -/
structure MmapOutcome where
  getMmapFlags : Bool
  mmap : Option Address
  mbind : Bool
  madvise : Bool

/-- A pointer with the mappings that were made and removed on the way to it. -/
abbrev Mapping := Address × List MapEvent

/-- The call of `munmap`. -/
def munmap (addr : Address) (size : SizeT) : MapEvent := .unmap addr.toNat size.toNat

/-- An error after `mmap` gives the mapping back. -/
def Mapping.checked (err : Bool) (size : SizeT) (mapping : Mapping) : Mapping :=
  if err then (mapFailed, mapping.2 ++ [munmap mapping.1 size]) else mapping

/-- `memkind_default_mmap`. Without flags nothing is mapped, but `mbind` and `madvise` are called
for `MAP_FAILED`. -/
def memkindDefaultMmap (ops : MmapOps) (outcome : MmapOutcome) (size : SizeT) : Mapping :=
  let bound (mapping : Mapping) : Mapping :=
    (mapping.checked (ops.mbind && outcome.mbind) size).checked (ops.madvise && outcome.madvise) size
  if ops.getMmapFlags && outcome.getMmapFlags then bound (mapFailed, [])
  else
    match outcome.mmap with
    | none => (mapFailed, [])
    | some addr => bound (addr, [.map addr.toNat size.toNat])

/-- The call of `munmap` for a head or a tail that is not empty. -/
def munmapRest (addr : Address) (length : SizeT) : List MapEvent :=
  if 0 < length then [munmap addr length] else []

/-- `alloc_aligned_slow` -/
def allocAlignedSlow (ops : MmapOps) (outcome : MmapOutcome) (size alignment : SizeT) : Mapping :=
  let extendedSize := size + alignment
  let mapping := memkindDefaultMmap ops outcome extendedSize
  if mapping.1 = mapFailed then (0, mapping.2)
  else
    let addr := mapping.1
    let alignedAddr := (addr + alignment) &&& ~~~(alignment - 1)
    (alignedAddr, mapping.2 ++
      munmapRest addr (alignedAddr - addr) ++
      munmapRest (alignedAddr + size) ((addr + extendedSize) - (alignedAddr + size)))

/-- The result of `arena_extent_alloc` with `*zero` and `*commit`. -/
structure ExtentAlloc where
  addr : Address
  zero : Bool
  commit : Bool
  events : List MapEvent

/-- The pointer of the second attempt: `*zero` and `*commit` are only set for an extent. -/
def ExtentAlloc.ofRetry (zero commit : Bool) (retry : Mapping) : ExtentAlloc :=
  if retry.1 = 0 then ⟨0, zero, commit, retry.2⟩ else ⟨retry.1, true, true, retry.2⟩

/-- `arena_extent_alloc`, where `unavailable` is the error of `memkind_check_available`, and the
calls of `memkind_default_mmap` have their own outcomes. -/
def arenaExtentAlloc (ops : MmapOps) (unavailable : Bool) (direct slow : MmapOutcome)
    (newAddr : Address) (size alignment : SizeT) (zero commit : Bool) : ExtentAlloc :=
  if unavailable then ⟨0, zero, commit, []⟩
  else
    let mapping := memkindDefaultMmap ops direct size
    let addr := mapping.1
    if addr = mapFailed then ⟨0, zero, commit, mapping.2⟩
    else if newAddr ≠ 0 ∧ addr ≠ newAddr then
      ⟨0, zero, commit, mapping.2 ++ [munmap addr size]⟩
    else if addr &&& (alignment - 1) ≠ 0 then
      let retry := allocAlignedSlow ops slow size alignment
      .ofRetry zero commit (retry.1, mapping.2 ++ [munmap addr size] ++ retry.2)
    else ⟨addr, true, true, mapping.2⟩

theorem ExtentAlloc.ofRetry_eq (zero commit : Bool) (retry : Mapping) :
    ((ofRetry zero commit retry).addr, (ofRetry zero commit retry).events) = retry := by
  rw [ofRetry]
  split
  · rename_i null
    rw [← null]
  · rfl

end Memkind
