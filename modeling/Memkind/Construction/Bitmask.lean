/-
This file embeds `memkind_bitmask.c`, which finds the closest nodes of every CPU, and the vectors
of `vec.h` that it fills.
-/

import Memkind.Construction.Arena
import Mathlib.Data.Finset.Card

namespace Memkind

section Vectors

/-- A vector of `vec.h`: the elements in use, and the number of cells behind them. -/
structure Vec (Element : Type) where
  items : List Element
  spare : Nat

variable {Element : Type}

def vecInitSize : Nat := 8

/-- `VEC_INITIALIZER` -/
def Vec.initializer : Vec Element := ⟨[], 0⟩

def Vec.size (vec : Vec Element) : Nat := vec.items.length

def Vec.capacity (vec : Vec Element) : Nat := vec.size + vec.spare

/-- `VEC_CLEAR` keeps the buffer. -/
def Vec.clear (vec : Vec Element) : Vec Element := ⟨[], vec.capacity⟩

/-- `vec_reserve`, where `granted` tells whether `realloc` returns a buffer of that capacity. The
callers never ask for less than the elements in use. -/
def Vec.reserve (granted : Nat → Bool) (ncapacity : Nat) (vec : Vec Element) :
    Option (Vec Element) :=
  let ncap := if ncapacity = 0 then vecInitSize else ncapacity
  if granted ncap then some { vec with spare := ncap - vec.size } else none

/-- `VEC_PUSH_BACK`. Its status is ignored by the callers. The test of `VEC_RESERVE` always holds
here, because the doubled capacity is larger than the size unless both are zero. -/
def Vec.pushBack (granted : Nat → Bool) (vec : Vec Element) (element : Element) : Vec Element :=
  if vec.capacity = vec.size then
    match vec.reserve granted (vec.capacity * 2) with
    | none => vec
    | some grown => ⟨grown.items ++ [element], grown.spare - 1⟩
  else ⟨vec.items ++ [element], vec.spare - 1⟩

end Vectors

/-- `memkind_node_variant_t` -/
inductive NodeVariant where
  | multiple
  | single
  | all
  deriving DecidableEq

/-- What libnuma tells about the machine. A node that does not exist has no answer, and a CPU
belongs to one node at most. The distances are of type `int`. -/
structure NumaTopology where
  maxNode : Nat
  configuredCpus : Nat
  nodeToCpus : Nat → Option (Finset Nat)
  distance : Nat → Nat → Nat
  oneNode : ∀ cpu first second firstCpus secondCpus, nodeToCpus first = some firstCpus →
    nodeToCpus second = some secondCpus → cpu ∈ firstCpus → cpu ∈ secondCpus → first = second
  distanceInt : ∀ first second, distance first second ≤ intMax

/-- The results of `get_bitmask` and of the allocations. -/
structure NumaOutcome where
  getBitmask : Except Status (Finset Nat)
  cpuMask : Bool
  nodeArr : Bool
  vec : Nat → Bool

/-- All allocations succeed. -/
def NumaOutcome.granted (destNodes : Finset Nat) : NumaOutcome :=
  ⟨.ok destNodes, true, true, fun _ => true⟩

/-- The lists of destination nodes by CPU. -/
abbrev NodeArr := Nat → Vec Nat

section Loops

variable (granted : Nat → Bool)

/-- The body of the loop over the destination nodes of the node `initNode`, with `min_distance` and
`current_dest_nodes`. -/
def closestStep (topology : NumaTopology) (variant : NodeVariant) (destNodes : Finset Nat)
    (initNode : Nat) (state : Nat × Vec Nat) (destNode : Nat) : Nat × Vec Nat :=
  if destNode ∈ destNodes then
    if variant = .all then (state.1, state.2.pushBack granted destNode)
    else
      let dist := topology.distance initNode destNode
      if dist < state.1 then (dist, state.2.clear.pushBack granted destNode)
      else if dist = state.1 then (state.1, state.2.pushBack granted destNode)
      else state
  else state

/-- The loop over the destination nodes. -/
def closestNodes (topology : NumaTopology) (variant : NodeVariant) (destNodes : Finset Nat)
    (initNode : Nat) (current : Vec Nat) : Vec Nat :=
  ((List.range (topology.maxNode + 1)).foldl
    (closestStep granted topology variant destNodes initNode) (intMax, current.clear)).2

/-- The body of the loop over the CPUs appends the nodes to the list of a CPU in the mask. -/
def fillCpu (cpus : Finset Nat) (current : Vec Nat) (arr : NodeArr) (cpu : Nat) : NodeArr :=
  if cpu ∈ cpus then
    Function.update arr cpu (current.items.foldl (fun vec node => vec.pushBack granted node)
      (arr cpu))
  else arr

/-- The loop over the CPUs. -/
def fillCpus (configuredCpus : Nat) (cpus : Finset Nat) (current : Vec Nat) (arr : NodeArr) :
    NodeArr :=
  (List.range configuredCpus).foldl (fillCpu granted cpus current) arr

/-- The loop over the initiators. Missing nodes and nodes without CPUs are skipped. -/
def closestLoop (topology : NumaTopology) (variant : NodeVariant) (destNodes : Finset Nat) :
    List Nat → Vec Nat → NodeArr → Except Status NodeArr
  | [], _, arr => .ok arr
  | initNode :: rest, current, arr =>
      match topology.nodeToCpus initNode with
      | none => closestLoop topology variant destNodes rest current arr
      | some cpus =>
          if cpus.card = 0 then closestLoop topology variant destNodes rest current arr
          else
            let current := closestNodes granted topology variant destNodes initNode current
            if variant = .single ∧ 1 < current.size then .error .errorRuntime
            else
              closestLoop topology variant destNodes rest current
                (fillCpus granted topology.configuredCpus cpus current arr)

end Loops

/-- `set_closest_numanode` returns an error or the array for `*numanode`. -/
def setClosestNumanode (topology : NumaTopology) (outcome : NumaOutcome) (variant : NodeVariant) :
    Except Status NodeArr :=
  match outcome.getBitmask with
  | .error status => .error status
  | .ok destNodes =>
      if !outcome.cpuMask then .error .errorMalloc
      else if !outcome.nodeArr then .error .errorMalloc
      else
        closestLoop outcome.vec topology variant destNodes (List.range (topology.maxNode + 1))
          Vec.initializer (fun _ => Vec.initializer)

/-- `set_bitmask_for_current_numanode` with the CPU of `sched_getcpu`. The mask has `maxnode`
bits. -/
def setBitmaskForCurrentNumanode (maxnode cpu : Nat) (numanode : NodeArr) : Finset Nat :=
  (numanode cpu).items.foldl (fun mask node => if node < maxnode then insert node mask else mask) ∅

end Memkind
