/-
This file embeds `memkind_capacity.c`, which finds the nodes of highest capacity for two kinds and
owns a bitmask for each of them.
-/

import Memkind.Construction.Bitmask
import Memkind.Library.Allocations

namespace Memkind

open Library

/-- What libnuma tells about the machine: the size of each node, where -1 is an error, and whether
it has memory for the bitmask of a variant. -/
structure HiCapMachine where
  maxNode : Nat
  nodeSize : Nat → Int
  bitmaskAlloc : NodeVariant → Bool

/-- A bitmask of libnuma and the nodes in it. -/
structure NumaBitmask where
  object : Nat
  nodes : Finset Nat

/-- `struct hi_cap_numanodes_t` -/
structure HiCapNumanodes where
  initErr : Option DiscoveryError
  numaNodes : Option NumaBitmask

/-- `memkind_hi_cap_numanodes_g`, `memkind_hi_cap_numanodes_once_g` and the bitmasks. -/
structure HiCapState where
  numanodes : NodeVariant → HiCapNumanodes
  once : NodeVariant → Bool
  bitmasks : Allocations

/-- The state of a program that has just started. -/
def HiCapState.initial : HiCapState where
  numanodes _ := ⟨none, none⟩
  once _ := false
  bitmasks := .empty

/-- The body of the loop of `memkind_hi_cap_find`, with `best` and the nodes in the bitmask. -/
def hiCapStep (machine : HiCapMachine) (state : Int × Finset Nat) (node : Nat) :
    Int × Finset Nat :=
  let current := machine.nodeSize node
  if current = -1 then state
  else
    let cleared := if state.1 < current then (current, ∅) else state
    if current = cleared.1 then (cleared.1, insert node cleared.2) else cleared

/-- The nodes in the bitmask after the loop. -/
def hiCapNodes (machine : HiCapMachine) : Finset Nat :=
  ((List.range (machine.maxNode + 1)).foldl (hiCapStep machine) (0, ∅)).2

/-- `memkind_hi_cap_find`. The two failing exits free the bitmask and keep its pointer. -/
def memkindHiCapFind (machine : HiCapMachine) (variant : NodeVariant) (bitmasks : Allocations) :
    HiCapNumanodes × Allocations :=
  if !machine.bitmaskAlloc variant then (⟨some .malloc, none⟩, bitmasks)
  else
    let bitmask : NumaBitmask := ⟨bitmasks.fresh, hiCapNodes machine⟩
    if (hiCapNodes machine).card = 0 then
      (⟨some .memtypeNotAvailable, some bitmask⟩, bitmasks.alloc.free bitmask.object)
    else if variant = .single ∧ 1 < (hiCapNodes machine).card then
      (⟨some .memtypeNotAvailable, some bitmask⟩, bitmasks.alloc.free bitmask.object)
    else (⟨none, some bitmask⟩, bitmasks.alloc)

/-- The call of `pthread_once` with `memkind_hi_cap_numanodes_init` or
`memkind_hi_cap_preferred_numanodes_init`. -/
def hiCapInit (machine : HiCapMachine) (variant : NodeVariant) (state : HiCapState) : HiCapState :=
  if state.once variant then state
  else
    { numanodes := Function.update state.numanodes variant
        (memkindHiCapFind machine variant state.bitmasks).1
      once := Function.update state.once variant true
      bitmasks := (memkindHiCapFind machine variant state.bitmasks).2 }

/-- The common body of the `get_mbind_nodemask` operations. The mask of the caller has `maxnode`
bits. To copy from `NULL` has no meaning. -/
def hiCapGetMbindNodemask (variant : NodeVariant) (machine : HiCapMachine) (maxnode : Nat)
    (state : HiCapState) : Option (Except DiscoveryError (Finset Nat)) × HiCapState :=
  let state := hiCapInit machine variant state
  let g := state.numanodes variant
  (match g.initErr with
    | some err => some (.error err)
    | none => g.numaNodes.map fun bitmask => .ok (bitmask.nodes.filter fun node => node < maxnode),
    state)

/-- `memkind_hi_cap_get_mbind_nodemask` -/
def memkindHiCapGetMbindNodemask := hiCapGetMbindNodemask .multiple

/-- `memkind_hi_cap_preferred_get_mbind_nodemask` -/
def memkindHiCapPreferredGetMbindNodemask := hiCapGetMbindNodemask .single

/-- `MEMKIND_HIGHEST_CAPACITY` and `MEMKIND_HIGHEST_CAPACITY_PREFERRED` -/
inductive HiCapKind where
  | highestCapacity
  | highestCapacityPreferred
  deriving DecidableEq

/-- `ops->get_mbind_nodemask` -/
def HiCapKind.getMbindNodemask : HiCapKind → HiCapMachine → Nat → HiCapState →
    Option (Except DiscoveryError (Finset Nat)) × HiCapState
  | .highestCapacity => memkindHiCapGetMbindNodemask
  | .highestCapacityPreferred => memkindHiCapPreferredGetMbindNodemask

/-- `memkind_hi_cap_check_available` -/
def memkindHiCapCheckAvailable (kind : HiCapKind) (machine : HiCapMachine) (state : HiCapState) :
    Option (Except DiscoveryError (Finset Nat)) × HiCapState :=
  kind.getMbindNodemask machine 0 state

/-- The common body of the `finalize` operations, without the arenas of the kind. -/
def hiCapFree (variant : NodeVariant) (state : HiCapState) : HiCapState :=
  { state with
    bitmasks := state.bitmasks.freePointer
      ((state.numanodes variant).numaNodes.map NumaBitmask.object) }

/-- `memkind_hi_cap_finalize` frees the bitmask of the other kind. -/
def memkindHiCapFinalize := hiCapFree .single

/-- `memkind_hi_cap_preferred_finalize` frees the bitmask of the other kind. -/
def memkindHiCapPreferredFinalize := hiCapFree .multiple

/-- The calls that can initialise a variant. -/
inductive HiCapCall where
  | getMbindNodemask (kind : HiCapKind) (maxnode : Nat)
  | checkAvailable (kind : HiCapKind)

/-- The state after a call. -/
def HiCapCall.run (machine : HiCapMachine) (state : HiCapState) : HiCapCall → HiCapState
  | .getMbindNodemask kind maxnode => (kind.getMbindNodemask machine maxnode state).2
  | .checkAvailable kind => (memkindHiCapCheckAvailable kind machine state).2

/-- The state after some calls. -/
def hiCapCalls (machine : HiCapMachine) (calls : List HiCapCall) : HiCapState :=
  calls.foldl (HiCapCall.run machine) .initial

/-- `memkind_finalize` runs both `finalize` operations. -/
def hiCapFinalize (preferredFirst : Bool) (state : HiCapState) : HiCapState :=
  if preferredFirst then memkindHiCapFinalize (memkindHiCapPreferredFinalize state)
  else memkindHiCapPreferredFinalize (memkindHiCapFinalize state)

end Memkind
