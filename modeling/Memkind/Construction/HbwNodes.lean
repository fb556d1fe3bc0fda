/-
This file embeds how `memkind_hbw.c` finds the nodes of high bandwidth: by the bandwidths of hwloc
with `set_closest_numanode_mem_attr`, by an environment variable, or by the nodes without CPUs.
-/

import Memkind.Construction.MemAttributes
import Memkind.Library.Numerals

namespace Memkind

open Library

/-- The errors of the search for nodes. -/
inductive NodeSearchError where
  | status (status : Status)
  | discovery (error : DiscoveryError)
  deriving DecidableEq

section Attributes

/-- A NUMA node of hwloc. -/
structure HwlocNumanode where
  osIndex : Nat
  cpuset : Finset Nat

/-- What hwloc and libnuma tell about the NUMA nodes, in the order of hwloc: the bandwidth between
the CPUs of a node and another node, which may be unreadable, and the distances, which are of type
`int`. The CPUs are among the configured ones, which index the array for `*numanode`. -/
structure BandwidthTopology where
  configuredCpus : Nat
  nodes : List HwlocNumanode
  bandwidth : HwlocNumanode → HwlocNumanode → Option (BitVec 64)
  distance : Nat → Nat → Nat
  cpusConfigured : ∀ node ∈ nodes, ∀ cpu ∈ node.cpuset, cpu < configuredCpus
  distanceInt : ∀ first second, distance first second ≤ intMax

/-- The results of the calls that load the topology, and of the allocations. -/
structure BandwidthOutcome where
  topologyInit : Bool
  topologyLoad : Bool
  nodeCpus : Bool
  nodeArr : Bool
  vec : Nat → Bool

/-- `MEMKIND_HBW_THRESHOLD_DEFAULT` -/
def hbwThresholdDefault : Nat := 200 * 1024

/-- The value of `MEMKIND_HBW_THRESHOLD`. -/
def hbwThreshold (env : Option (List Char)) : Option Nat :=
  match env with
  | none => some hbwThresholdDefault
  | some text => decimalUpTo uintMax text

variable (granted : Nat → Bool) (topology : BandwidthTopology) (variant : NodeVariant)
  (threshold : Nat)

/-- The body of the loop over the targets, with `min_distance` and `current_dest_nodes`. -/
def targetStep (initNode : HwlocNumanode) (state : Nat × Vec Nat) (target : HwlocNumanode) :
    Nat × Vec Nat :=
  match topology.bandwidth initNode target with
  | none => state
  | some bandwidth =>
      if threshold ≤ bandwidth.toNat then
        if variant = .all then (state.1, state.2.pushBack granted target.osIndex)
        else
          let dist := topology.distance initNode.osIndex target.osIndex
          if dist < state.1 then (dist, state.2.clear.pushBack granted target.osIndex)
          else if dist = state.1 then (state.1, state.2.pushBack granted target.osIndex)
          else state
      else state

/-- The loop over the targets. -/
def destNodes (initNode : HwlocNumanode) (current : Vec Nat) : Vec Nat :=
  (topology.nodes.foldl (targetStep granted topology variant threshold initNode)
    (intMax, current.clear)).2

/-- The loop over the initiators, with the CPUs that it has seen in `node_cpus`. -/
def memAttrLoop : List HwlocNumanode → Finset Nat → Vec Nat → NodeArr →
    Except NodeSearchError NodeArr
  | [], _, _, arr => .ok arr
  | initNode :: rest, nodeCpus, current, arr =>
      if initNode.cpuset ⊆ nodeCpus then memAttrLoop rest nodeCpus current arr
      else
        let current := destNodes granted topology variant threshold initNode current
        if current.size = 0 then .error (.discovery .memtypeNotAvailable)
        else if variant = .single ∧ 1 < current.size then .error (.status .errorRuntime)
        else
          memAttrLoop rest (nodeCpus ∪ initNode.cpuset) current
            (fillCpus granted topology.configuredCpus initNode.cpuset current arr)

end Attributes

/-- `set_closest_numanode_mem_attr` with the content of `MEMKIND_HBW_THRESHOLD`. -/
def setClosestNumanodeMemAttr (env : Option (List Char)) (topology : BandwidthTopology)
    (outcome : BandwidthOutcome) (variant : NodeVariant) : Except NodeSearchError NodeArr :=
  match hbwThreshold env with
  | none => .error (.status .errorEnviron)
  | some threshold =>
      if !outcome.topologyInit then .error (.discovery .unavailable)
      else if !outcome.topologyLoad then .error (.discovery .unavailable)
      else if !outcome.nodeCpus then .error (.discovery .unavailable)
      else if !outcome.nodeArr then .error (.status .errorMalloc)
      else
        memAttrLoop outcome.vec topology variant threshold topology.nodes ∅ Vec.initializer
          fun _ => Vec.initializer

section Legacy

/-- The answers that `get_legacy_hbw_nodes_mask` needs: the number of configured nodes, whether the
two masks can be allocated, and what a failed `numa_node_to_cpus` leaves in the mask. -/
structure LegacyOutcome where
  configuredNodes : Nat
  nodeCpumask : Bool
  hbwNodeMask : Bool
  failedCpus : Nat → Finset Nat

/-- `get_legacy_hbw_nodes_mask`: the nodes without CPUs are half of the nodes. -/
def getLegacyHbwNodesMask (topology : NumaTopology) (outcome : LegacyOutcome) :
    Except DiscoveryError (Finset Nat) :=
  if outcome.configuredNodes ≠ 2 ∧ outcome.configuredNodes ≠ 4 ∧ outcome.configuredNodes ≠ 8 then
    .error .unavailable
  else if !outcome.nodeCpumask then .error .unavailable
  else if !outcome.hbwNodeMask then .error .unavailable
  else
    let mask := (Finset.range (topology.maxNode + 1)).filter fun node =>
      ((topology.nodeToCpus node).getD (outcome.failedCpus node)).card = 0
    if 2 * mask.card = outcome.configuredNodes then .ok mask else .error .unavailable

/-- `is_hbm_legacy_supported` with the register `eax` of the first leaf of `cpuid`: a processor of
the family 6 with the model of Knights Landing or Knights Mill. -/
def isHbmLegacySupported (eax : BitVec 32) : Bool :=
  let model := (eax >>> 4) &&& 0xf
  let modelExt := (eax >>> 16) &&& 0xf
  let family := (eax >>> 8) &&& 0xf
  family = 0x06 && ((model ||| (modelExt <<< 4)) = 0x57 || (model ||| (modelExt <<< 4)) = 0x85)

end Legacy

/-- A machine and its environment, as the kinds of high bandwidth see them. The variable
`MEMKIND_HBW_NODES` holds a text, of which `numa_parse_nodestring` may make a mask. -/
structure HbwMachine where
  hbwNodes : Option (Option (Finset Nat))
  hbwThreshold : Option (List Char)
  eax : BitVec 32
  topology : NumaTopology
  legacy : LegacyOutcome
  numa : NumaOutcome
  bandwidth : BandwidthTopology
  hwloc : BandwidthOutcome

/-- `memkind_hbw_get_nodemask` -/
def HbwMachine.getNodemask (machine : HbwMachine) : Except NodeSearchError (Finset Nat) :=
  match machine.hbwNodes with
  | some (some mask) => .ok mask
  | some none => .error (.status .errorEnviron)
  | none => (getLegacyHbwNodesMask machine.topology machine.legacy).mapError .discovery

/-- `is_hmat_supported` -/
def HbwMachine.isHmatSupported (machine : HbwMachine) : Bool :=
  !(machine.hbwNodes.isSome || isHbmLegacySupported machine.eax)

/-- `memkind_hbw_closest_numanode_init`, `memkind_hbw_closest_preferred_numanode_init` and
`memkind_hbw_all_numanode_init` -/
def HbwMachine.numanodeInit (machine : HbwMachine) (variant : NodeVariant) :
    Except NodeSearchError NodeArr :=
  if !machine.isHmatSupported then
    match machine.getNodemask with
    | .error err => .error err
    | .ok mask =>
        (setClosestNumanode machine.topology { machine.numa with getBitmask := .ok mask }
          variant).mapError .status
  else
    setClosestNumanodeMemAttr machine.hbwThreshold machine.bandwidth machine.hwloc variant

/-- `memkind_hbw_get_mbind_nodemask`, `memkind_hbw_get_preferred_mbind_nodemask` and
`memkind_hbw_all_get_mbind_nodemask` on the CPU of `sched_getcpu`. -/
def HbwMachine.getMbindNodemask (machine : HbwMachine) (variant : NodeVariant)
    (maxnode cpu : Nat) : Except NodeSearchError (Finset Nat) :=
  (machine.numanodeInit variant).map (setBitmaskForCurrentNumanode maxnode cpu)

end Memkind
