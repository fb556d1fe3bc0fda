/-
This file embeds `get_per_cpu_local_nodes_mask` of `memkind_mem_attributes.c`, which finds the best
local node of every CPU, and the node masks of the kinds of `memkind_local.c`.
-/

import Memkind.Construction.Bitmask

namespace Memkind

/-- `memory_attribute_t` -/
inductive MemoryAttribute where
  | capacity
  | bandwidth
  | latency
  deriving DecidableEq

/-- What hwloc and libnuma tell about a local node of an initiator. An attribute that cannot be
read is `none`. The distance from the initiator is of type `int`. -/
structure LocalNode where
  osIndex : Nat
  localMemory : SizeT
  distance : Nat
  bandwidth : Option (BitVec 64)
  latency : Option (BitVec 64)
  distanceInt : distance ≤ intMax

/-- `numa_distance` as a `size_t`. -/
def LocalNode.distanceSize (node : LocalNode) : SizeT := BitVec.ofNat 64 node.distance

/-- `best_mem_attr`, `unpreferred_val` and `attr_loc_mask`. -/
structure NodeChoice where
  bestMemAttr : BitVec 64
  unpreferredVal : SizeT
  attrLocMask : Finset Nat

/-- The body of the loops over the local nodes. A node without a value is skipped. Otherwise its
value and, for equal values, its second value decide whether it becomes the only node. -/
def chooseStep (value : LocalNode → Option (BitVec 64)) (second : LocalNode → SizeT)
    (better : BitVec 64 → BitVec 64 → Bool) (preferred : SizeT → SizeT → Bool)
    (choice : NodeChoice) (node : LocalNode) : NodeChoice :=
  match value node with
  | none => choice
  | some memAttr =>
      if better memAttr choice.bestMemAttr then ⟨memAttr, second node, {node.osIndex}⟩
      else if memAttr = choice.bestMemAttr ∧ preferred (second node) choice.unpreferredVal then
        { choice with unpreferredVal := second node, attrLocMask := {node.osIndex} }
      else choice

/-- The value that an attribute compares first. A node without memory has no capacity. -/
def MemoryAttribute.value : MemoryAttribute → LocalNode → Option (BitVec 64)
  | .capacity, node => if node.localMemory = 0 then none else some node.localMemory
  | .bandwidth, node => node.bandwidth
  | .latency, node => node.latency

/-- The value that an attribute compares second. -/
def MemoryAttribute.second : MemoryAttribute → LocalNode → SizeT
  | .capacity => LocalNode.distanceSize
  | .bandwidth => LocalNode.localMemory
  | .latency => LocalNode.localMemory

/-- The body of the loop of each attribute. -/
def MemoryAttribute.step (attr : MemoryAttribute) : NodeChoice → LocalNode → NodeChoice :=
  match attr with
  | .capacity => chooseStep attr.value attr.second (fun a b => b < a) (fun a b => b < a)
  | .bandwidth => chooseStep attr.value attr.second (fun a b => b < a) (fun a b => a < b)
  | .latency => chooseStep attr.value attr.second (fun a b => a < b) (fun a b => a < b)

/-- `SIZE_MAX` -/
def sizeMax : SizeT := BitVec.allOnes 64

/-- The variables before the loop of each attribute. -/
def MemoryAttribute.start : MemoryAttribute → NodeChoice
  | .capacity => ⟨0, 0, ∅⟩
  | .bandwidth => ⟨0, sizeMax, ∅⟩
  | .latency => ⟨BitVec.ofNat 64 intMax, sizeMax, ∅⟩

/-- `attr_loc_mask` after the `switch`. -/
def MemoryAttribute.attrLocMask (attr : MemoryAttribute) (localNodes : List LocalNode) :
    Finset Nat :=
  (localNodes.foldl attr.step attr.start).attrLocMask

/-- A NUMA node as an initiator: its CPUs, and what `hwloc_get_local_numanode_objs` returns for
them. -/
structure InitNode where
  cpuset : Finset Nat
  localNodes : Option (List LocalNode)

/-- The NUMA nodes of hwloc in their order. The CPUs are among the configured ones, which index
`*nodes_mask`. -/
structure HwlocTopology where
  configuredCpus : Nat
  initNodes : List InitNode
  cpusConfigured : ∀ node ∈ initNodes, ∀ cpu ∈ node.cpuset, cpu < configuredCpus

/-- The results of the calls that need memory, and of the calls that load the topology. -/
structure HwlocOutcome where
  topologyInit : Bool
  topologyLoad : Bool
  nodesMask : Bool
  localNodes : Bool
  nodeCpus : Bool
  attrLocMask : Bool
  /-- `hwloc_nodeset_to_linux_libnuma_bitmask` for each CPU. -/
  libnumaBitmask : Nat → Bool

/-- The masks by CPU, which are `NULL` at first. -/
abbrev NodesMask := Nat → Option (Finset Nat)

section Loops

variable (granted : Nat → Bool)

/-- The loop over the CPUs of an initiator. -/
def populateCpus (mask : Finset Nat) : List Nat → NodesMask → Except DiscoveryError NodesMask
  | [], masks => .ok masks
  | cpu :: rest, masks =>
      if granted cpu then populateCpus mask rest (Function.update masks cpu (some mask))
      else .error .malloc

/-- The loop over the NUMA nodes, with the CPUs that it has seen in `node_cpus`. -/
def localNodesLoop (configuredCpus : Nat) (attr : MemoryAttribute) :
    List InitNode → Finset Nat → NodesMask → Except DiscoveryError NodesMask
  | [], _, masks => .ok masks
  | node :: rest, nodeCpus, masks =>
      if node.cpuset ⊆ nodeCpus then localNodesLoop configuredCpus attr rest nodeCpus masks
      else
        match node.localNodes with
        | none => .error .unavailable
        | some localNodes =>
            if (attr.attrLocMask localNodes).card = 0 then .error .memtypeNotAvailable
            else
              match populateCpus granted (attr.attrLocMask localNodes)
                  ((List.range configuredCpus).filter fun cpu => cpu ∈ node.cpuset) masks with
              | .error err => .error err
              | .ok masks =>
                  localNodesLoop configuredCpus attr rest (nodeCpus ∪ node.cpuset) masks

end Loops

/-- `get_per_cpu_local_nodes_mask` returns an error or the array for `*nodes_mask`. -/
def getPerCpuLocalNodesMask (topology : HwlocTopology) (outcome : HwlocOutcome)
    (attr : MemoryAttribute) : Except DiscoveryError NodesMask :=
  if !outcome.topologyInit then .error .unavailable
  else if !outcome.topologyLoad then .error .unavailable
  else if !outcome.nodesMask then .error .malloc
  else if !outcome.localNodes then .error .malloc
  else if !outcome.nodeCpus then .error .malloc
  else if !outcome.attrLocMask then .error .malloc
  else
    localNodesLoop outcome.libnumaBitmask topology.configuredCpus attr topology.initNodes ∅
      (fun _ => none)

/-- A `struct loc_numanodes_t`, which holds nothing before `pthread_once` has filled it. -/
abbrev LocNumanodes := Option (Except DiscoveryError NodesMask)

/-- The common body of the `get_mbind_nodemask` operations of `memkind_local.c` on the CPU of
`sched_getcpu`. The mask of the caller has `maxnode` bits. A CPU without a mask has no meaning. -/
def locGetMbindNodemask (attr : MemoryAttribute) (topology : HwlocTopology)
    (outcome : HwlocOutcome) (maxnode cpu : Nat) (g : LocNumanodes) :
    Option (Except DiscoveryError (Finset Nat) × LocNumanodes) :=
  match g.getD (getPerCpuLocalNodesMask topology outcome attr) with
  | .error initErr => some (.error initErr, some (.error initErr))
  | .ok masks => (masks cpu).map fun mask =>
      (.ok (mask.filter fun node => node < maxnode), some (.ok masks))

/-- `memkind_hi_cap_loc_get_mbind_nodemask` -/
def memkindHiCapLocGetMbindNodemask := locGetMbindNodemask .capacity

/-- `memkind_hi_cap_loc_preferred_get_mbind_nodemask`, which has a structure of its own. -/
def memkindHiCapLocPreferredGetMbindNodemask := locGetMbindNodemask .capacity

/-- `memkind_low_lat_loc_get_mbind_nodemask` -/
def memkindLowLatLocGetMbindNodemask := locGetMbindNodemask .latency

/-- `memkind_low_lat_loc_preferred_get_mbind_nodemask` -/
def memkindLowLatLocPreferredGetMbindNodemask := locGetMbindNodemask .latency

/-- `memkind_hi_bw_loc_get_mbind_nodemask` -/
def memkindHiBwLocGetMbindNodemask := locGetMbindNodemask .bandwidth

/-- `memkind_hi_bw_loc_preferred_get_mbind_nodemask` -/
def memkindHiBwLocPreferredGetMbindNodemask := locGetMbindNodemask .bandwidth

/-- The kinds of `memkind_local.c`. -/
inductive LocalKind where
  | highestCapacityLocal
  | highestCapacityLocalPreferred
  | lowestLatencyLocal
  | lowestLatencyLocalPreferred
  | highestBandwidthLocal
  | highestBandwidthLocalPreferred
  deriving DecidableEq

/-- `ops->get_mbind_nodemask` of a local kind. -/
def LocalKind.getMbindNodemask : LocalKind → HwlocTopology → HwlocOutcome → Nat → Nat →
    LocNumanodes → Option (Except DiscoveryError (Finset Nat) × LocNumanodes)
  | .highestCapacityLocal => memkindHiCapLocGetMbindNodemask
  | .highestCapacityLocalPreferred => memkindHiCapLocPreferredGetMbindNodemask
  | .lowestLatencyLocal => memkindLowLatLocGetMbindNodemask
  | .lowestLatencyLocalPreferred => memkindLowLatLocPreferredGetMbindNodemask
  | .highestBandwidthLocal => memkindHiBwLocGetMbindNodemask
  | .highestBandwidthLocalPreferred => memkindHiBwLocPreferredGetMbindNodemask

end Memkind
