/-
This file embeds the zeroed allocation of the three back-ends: the arenas, the default kind and
the memory pools of TBB.
-/

import Memkind.Construction.Types

namespace Memkind

/-- A block with the number of its usable bytes. -/
structure Block where
  ptr : Address
  usable : Nat
  deriving DecidableEq

/-- The flags of `jemk_mallocx`: the arena, `MALLOCX_ZERO`, and a thread cache unless the flag is
`MALLOCX_TCACHE_NONE`. -/
structure MallocxFlags where
  arena : Nat
  zero : Bool
  tcache : Option Nat

/-- The allocators below the back-ends. A granted block has the requested bytes, and
`jemk_calloc` refuses a product that does not fit. -/
structure Allocators where
  mallocx : SizeT → MallocxFlags → Option Block
  calloc : SizeT → SizeT → Option Block
  poolMalloc : SizeT → Option Block
  mallocx_enough : ∀ size flags block, mallocx size flags = some block →
    size.toNat ≤ block.usable
  calloc_enough : ∀ num size block, calloc num size = some block →
    num.toNat * size.toNat ≤ block.usable
  calloc_checked : ∀ num size, 2 ^ 64 ≤ num.toNat * size.toNat → calloc num size = none
  poolMalloc_enough : ∀ size block, poolMalloc size = some block → size.toNat ≤ block.usable

/-- The functions that `ops->calloc` names. -/
inductive BackEnd where
  | arena
  | default
  | tbb
  deriving DecidableEq

/-- The fields of `struct memkind` that an allocation reads. The results of `ops->get_arena` and
of the thread caches depend on the calling thread. -/
structure AllocKind where
  backEnd : BackEnd
  partition : Nat
  allowZeroAllocs : Bool
  getArena : SizeT → Option Nat
  tcache : Option Nat

/-- `TCACHE_MAX` -/
def tcacheMax : SizeT := 4096

/-- `size_out_of_bounds` -/
def sizeOutOfBounds (size : SizeT) : Bool := size = 0

/-- `get_tcache_flag` -/
def getTcacheFlag (kind : AllocKind) (size : SizeT) : Option Nat :=
  if tcacheMax < size ∨ numStaticKinds ≤ kind.partition then none else kind.tcache

/-- `jemk_mallocx_check` -/
def jemkMallocxCheck (allocators : Allocators) (size : SizeT) (flags : MallocxFlags)
    (allowZeroAllocs : Bool) : Option Block :=
  if !allowZeroAllocs && size = 0 then none else allocators.mallocx size flags

/-- The flags of the request of `memkind_arena_calloc`. -/
def arenaCallocFlags (kind : AllocKind) (arena : Nat) (size : SizeT) : MallocxFlags :=
  ⟨arena, true, getTcacheFlag kind size⟩

/-- `memkind_arena_calloc` -/
def memkindArenaCalloc (allocators : Allocators) (kind : AllocKind) (num size : SizeT) :
    Option Block :=
  (kind.getArena size).bind fun arena =>
    jemkMallocxCheck allocators (num * size) (arenaCallocFlags kind arena size)
      kind.allowZeroAllocs

/-- `memkind_default_calloc` -/
def memkindDefaultCalloc (allocators : Allocators) (kind : AllocKind) (num size : SizeT) :
    Option Block :=
  if !kind.allowZeroAllocs && (sizeOutOfBounds num || sizeOutOfBounds size) then none
  else allocators.calloc num size

/-- `tbb_pool_calloc` -/
def tbbPoolCalloc (allocators : Allocators) (num size : SizeT) : Option Block :=
  if sizeOutOfBounds num || sizeOutOfBounds size then none
  else if (num * size) / num ≠ size then none
  else allocators.poolMalloc (num * size)

/-- `memkind_calloc` -/
def memkindCalloc (allocators : Allocators) (kind : AllocKind) (num size : SizeT) :
    Option Block :=
  match kind.backEnd with
  | .arena => memkindArenaCalloc allocators kind num size
  | .default => memkindDefaultCalloc allocators kind num size
  | .tbb => tbbPoolCalloc allocators num size

end Memkind
