/-
This file shows that `get_per_cpu_local_nodes_mask` gives every CPU of an initiator the first of
its best local nodes.
-/

import Memkind.Construction.MemAttributes
import Memkind.Library.FirstBest
import Mathlib.Data.Prod.Lex
import Mathlib.Data.Int.ConditionallyCompleteOrder
import Mathlib.Order.ConditionallyCompleteLattice.Basic

namespace Memkind

open Library

variable {node : LocalNode} {nodes : List InitNode} {memAttr : BitVec 64} {choice : NodeChoice}
  {localNodes : List LocalNode}

section Choice

/-- The values of a node in the order of the attribute, where the better node has the higher rank:
large capacities and then large distances, large bandwidths and then small capacities, small
latencies and then small capacities. A node that the attribute skips has no rank. -/
def MemoryAttribute.rank : MemoryAttribute → LocalNode → WithBot (ℤ ×ₗ ℤ)
  | .capacity, node =>
      if node.localMemory = 0 then ⊥
      else (toLex ((node.localMemory.toNat : ℤ), (node.distance : ℤ)) : ℤ ×ₗ ℤ)
  | .bandwidth, node => node.bandwidth.elim ⊥ fun bandwidth =>
      (toLex ((bandwidth.toNat : ℤ), -(node.localMemory.toNat : ℤ)) : ℤ ×ₗ ℤ)
  | .latency, node => node.latency.elim ⊥ fun latency =>
      (toLex (-(latency.toNat : ℤ), -(node.localMemory.toNat : ℤ)) : ℤ ×ₗ ℤ)

/-- The values lie below the sentinels of the loops. -/
structure LocalNode.Small (node : LocalNode) : Prop where
  memory : node.localMemory.toNat < 2 ^ 64 - 1
  latency : ∀ latency, node.latency = some latency → latency.toNat ≤ intMax

variable (attr : MemoryAttribute)

/-- The comparison of a node with the best values so far. -/
def MemoryAttribute.Beats (memAttr : BitVec 64) (second : SizeT) (choice : NodeChoice) : Prop :=
  match attr with
  | .capacity => choice.bestMemAttr < memAttr ∨
      memAttr = choice.bestMemAttr ∧ choice.unpreferredVal < second
  | .bandwidth => choice.bestMemAttr < memAttr ∨
      memAttr = choice.bestMemAttr ∧ second < choice.unpreferredVal
  | .latency => memAttr < choice.bestMemAttr ∨
      memAttr = choice.bestMemAttr ∧ second < choice.unpreferredVal

theorem MemoryAttribute.step_skipped (skipped : attr.value node = none) :
    attr.step choice node = choice := by
  cases attr <;> simp only [step, chooseStep, skipped]

theorem MemoryAttribute.step_beaten (found : attr.value node = some memAttr)
    (beats : attr.Beats memAttr (attr.second node) choice) :
    attr.step choice node = ⟨memAttr, attr.second node, {node.osIndex}⟩ := by
  cases attr <;> simp only [step, chooseStep, found] <;> simp only [Beats] at beats <;> grind

theorem MemoryAttribute.step_kept (found : attr.value node = some memAttr)
    (beaten : ¬attr.Beats memAttr (attr.second node) choice) : attr.step choice node = choice := by
  cases attr <;> simp only [step, chooseStep, found] <;> simp only [Beats] at beaten <;> grind

theorem LocalNode.distanceSize_toNat (node : LocalNode) :
    node.distanceSize.toNat = node.distance := by
  have bound := node.distanceInt
  unfold intMax at bound
  rw [distanceSize, BitVec.toNat_ofNat, Nat.mod_eq_of_lt (by omega)]

/-- A node has a rank exactly when the attribute does not skip it. -/
theorem MemoryAttribute.bot_lt_rank_iff (node : LocalNode) :
    ⊥ < attr.rank node ↔ (attr.value node).isSome := by
  cases attr with
  | capacity =>
      simp only [rank, value]
      split
      · simp
      · simp
  | bandwidth =>
      simp only [rank, value]
      cases node.bandwidth <;> simp
  | latency =>
      simp only [rank, value]
      cases node.latency <;> simp

/-- The comparison with the values of a node is the order of the ranks. -/
theorem MemoryAttribute.beats_iff_rank_lt {best : LocalNode} {bestAttr : BitVec 64}
    (found : attr.value node = some memAttr) (bestFound : attr.value best = some bestAttr)
    (mask : Finset Nat) :
    attr.Beats memAttr (attr.second node) ⟨bestAttr, attr.second best, mask⟩ ↔
      attr.rank best < attr.rank node := by
  cases attr with
  | capacity =>
      simp only [value, Option.ite_none_left_eq_some, Option.some.injEq] at found bestFound
      obtain ⟨nonzero, rfl⟩ := found
      obtain ⟨bestNonzero, rfl⟩ := bestFound
      simp only [rank, if_neg nonzero, if_neg bestNonzero, WithBot.coe_lt_coe,
        Prod.Lex.toLex_lt_toLex]
      simp only [Beats, second, BitVec.lt_def, LocalNode.distanceSize_toNat, ← BitVec.toNat_inj]
      omega
  | bandwidth =>
      simp only [value] at found bestFound
      simp only [rank, found, bestFound, Option.elim_some, WithBot.coe_lt_coe,
        Prod.Lex.toLex_lt_toLex]
      simp only [Beats, second, BitVec.lt_def, ← BitVec.toNat_inj]
      omega
  | latency =>
      simp only [value] at found bestFound
      simp only [rank, found, bestFound, Option.elim_some, WithBot.coe_lt_coe,
        Prod.Lex.toLex_lt_toLex]
      simp only [Beats, second, BitVec.lt_def, ← BitVec.toNat_inj]
      omega

/-- The first node that is not skipped beats the sentinels. -/
theorem MemoryAttribute.beats_start (small : node.Small) (found : attr.value node = some memAttr) :
    attr.Beats memAttr (attr.second node) attr.start := by
  have memory := small.memory
  cases attr with
  | capacity =>
      simp only [value, Option.ite_none_left_eq_some, Option.some.injEq] at found
      obtain ⟨nonzero, rfl⟩ := found
      have positive : node.localMemory.toNat ≠ 0 := fun zero =>
        nonzero (BitVec.eq_of_toNat_eq zero)
      exact Or.inl (BitVec.lt_def.mpr (Nat.pos_of_ne_zero positive))
  | bandwidth =>
      simp only [Beats, start, second, sizeMax, BitVec.lt_def, ← BitVec.toNat_inj,
        BitVec.toNat_allOnes, BitVec.ofNat_eq_ofNat, BitVec.toNat_ofNat]
      omega
  | latency =>
      have bound := small.latency memAttr found
      simp only [Beats, start, second, sizeMax, BitVec.lt_def, ← BitVec.toNat_inj,
        BitVec.toNat_allOnes, BitVec.toNat_ofNat]
      unfold intMax at bound ⊢
      omega

/-- The variables of the loop after it has found a node or none. -/
def MemoryAttribute.chosen (best : Option LocalNode) : NodeChoice :=
  best.elim attr.start fun node =>
    ⟨(attr.value node).getD 0, attr.second node, {node.osIndex}⟩

/-- One iteration keeps the better node. -/
theorem MemoryAttribute.step_chosen {best : Option LocalNode}
    (ranked : ∀ node, best = some node → ⊥ < attr.rank node) (small : node.Small) :
    attr.step (attr.chosen best) node = attr.chosen (keepBest attr.rank best node) ∧
      ∀ kept, keepBest attr.rank best node = some kept → ⊥ < attr.rank kept := by
  have same : ∀ memAttr, attr.value node = some memAttr →
      (attr.Beats memAttr (attr.second node) (attr.chosen best) ↔
        foundRank attr.rank best < attr.rank node) := by
    intro memAttr found
    cases best with
    | none =>
        refine iff_of_true (attr.beats_start small found) ?_
        exact (attr.bot_lt_rank_iff node).mpr (by rw [found, Option.isSome_some])
    | some other =>
        obtain ⟨bestAttr, bestFound⟩ :=
          Option.isSome_iff_exists.mp ((attr.bot_lt_rank_iff other).mp (ranked other rfl))
        simp only [chosen, Option.elim_some, bestFound, Option.getD_some]
        exact attr.beats_iff_rank_lt found bestFound _
  cases found : attr.value node with
  | none =>
      have unranked : ¬foundRank attr.rank best < attr.rank node := by
        intro higher
        have value := (attr.bot_lt_rank_iff node).mp (lt_of_le_of_lt bot_le higher)
        rw [found] at value
        cases value
      rw [keepBest, if_neg unranked]
      exact ⟨attr.step_skipped found, ranked⟩
  | some memAttr =>
      by_cases higher : foundRank attr.rank best < attr.rank node
      · rw [keepBest, if_pos higher, attr.step_beaten found ((same memAttr found).mpr higher)]
        refine ⟨by simp [chosen, found], ?_⟩
        intro kept equal
        obtain rfl := Option.some.inj equal
        exact lt_of_le_of_lt bot_le higher
      · rw [keepBest, if_neg higher,
          attr.step_kept found fun beats => higher ((same memAttr found).mp beats)]
        exact ⟨rfl, ranked⟩

/-- The loop over the local nodes keeps the first of the best nodes. -/
theorem MemoryAttribute.foldl_step (small : ∀ node ∈ localNodes, node.Small)
    {best : Option LocalNode} (ranked : ∀ node, best = some node → ⊥ < attr.rank node) :
    localNodes.foldl attr.step (attr.chosen best) =
      attr.chosen (localNodes.foldl (keepBest attr.rank) best) := by
  induction localNodes generalizing best with
  | nil => rfl
  | cons node rest ih =>
      obtain ⟨smallNode, smallRest⟩ := List.forall_mem_cons.mp small
      obtain ⟨stepped, kept⟩ := attr.step_chosen ranked smallNode
      rw [List.foldl_cons, List.foldl_cons, stepped]
      exact ih smallRest kept

/-- The mask holds what a pass for the first of the best local nodes finds. -/
theorem MemoryAttribute.attrLocMask_found (small : ∀ node ∈ localNodes, node.Small) :
    ∃ best, Found attr.rank localNodes best ∧
      attr.attrLocMask localNodes = best.elim ∅ fun node => {node.osIndex} := by
  refine ⟨_, found_foldl attr.rank localNodes, ?_⟩
  have looped : attr.attrLocMask localNodes =
      (attr.chosen (localNodes.foldl (keepBest attr.rank) none)).attrLocMask :=
    congrArg NodeChoice.attrLocMask
      (@foldl_step localNodes attr small none (by intro node absent; cases absent))
  rw [looped]
  cases localNodes.foldl (keepBest attr.rank) none with
  | none => cases attr <;> rfl
  | some node => rfl

/-- The attribute does not skip the node: it has memory, or the attribute can be read. -/
def MemoryAttribute.Eligible (node : LocalNode) : Prop :=
  match attr with
  | .capacity => node.localMemory ≠ 0
  | .bandwidth => node.bandwidth.isSome
  | .latency => node.latency.isSome

theorem MemoryAttribute.eligible_iff (node : LocalNode) :
    attr.Eligible node ↔ ⊥ < attr.rank node := by
  rw [bot_lt_rank_iff]
  cases attr with
  | capacity =>
      simp only [Eligible, value]
      split
      · rename_i zero
        exact iff_of_false (fun nonzero => nonzero zero) (by simp)
      · rename_i nonzero
        exact iff_of_true nonzero rfl
  | bandwidth => exact Iff.rfl
  | latency => exact Iff.rfl

theorem MemoryAttribute.attrLocMask_card_iff (small : ∀ node ∈ localNodes, node.Small) :
    (attr.attrLocMask localNodes).card ≠ 0 ↔ ∃ node ∈ localNodes, attr.Eligible node := by
  obtain ⟨best, found, mask⟩ := attr.attrLocMask_found small
  simp only [eligible_iff]
  rw [mask, ← found.isSome_iff]
  cases best with
  | none => simp
  | some node => simp

end Choice

section Loops

variable (granted : Nat → Bool) (attr : MemoryAttribute)

theorem populateCpus_eq (mask : Finset Nat) (cpus : List Nat) (masks : NodesMask) :
    populateCpus granted mask cpus masks =
      if ∀ cpu ∈ cpus, granted cpu then
        .ok fun cpu => if cpu ∈ cpus then some mask else masks cpu
      else .error .malloc := by
  induction cpus generalizing masks with
  | nil => simp [populateCpus]
  | cons cpu rest ih =>
      rw [populateCpus]
      cases grant : granted cpu with
      | false =>
          rw [if_neg (by simp), if_neg (fun all => by simp [grant] at all)]
      | true =>
          rw [if_pos rfl, ih]
          simp only [List.forall_mem_cons, grant, true_and]
          congr 2
          funext other
          by_cases same : other = cpu
          · simp [same]
          · simp [same]

/-- The local nodes are known, one of them is eligible, and there is memory for the masks. -/
structure InitNode.Served (node : InitNode) : Prop where
  eligible : ∃ localNodes, node.localNodes = some localNodes ∧
    ∃ target ∈ localNodes, attr.Eligible target
  granted : ∀ cpu ∈ node.cpuset, granted cpu

/-- The values of all local nodes lie below the sentinels. -/
def InitNode.Small (node : InitNode) : Prop :=
  ∀ localNodes, node.localNodes = some localNodes → ∀ target ∈ localNodes, target.Small

/-- The mask for the CPUs of an initiator. -/
def InitNode.mask (node : InitNode) : Finset Nat := attr.attrLocMask (node.localNodes.getD [])

/-- The masks after the iteration of an initiator. -/
def InitNode.fill (node : InitNode) (masks : NodesMask) : NodesMask :=
  fun cpu => if cpu ∈ node.cpuset then some (node.mask attr) else masks cpu

variable {granted attr} {configuredCpus : Nat} {node : InitNode} {rest : List InitNode}
  {nodeCpus : Finset Nat} {masks : NodesMask}

/-- An iteration over an initiator fills its masks or ends the loop. -/
theorem localNodesLoop_initiator (small : node.Small)
    (configured : ∀ cpu ∈ node.cpuset, cpu < configuredCpus)
    (initiator : ¬node.cpuset ⊆ nodeCpus) :
    (node.Served granted attr → localNodesLoop granted configuredCpus attr (node :: rest) nodeCpus
        masks = localNodesLoop granted configuredCpus attr rest (nodeCpus ∪ node.cpuset)
          (node.fill attr masks)) ∧
    (¬node.Served granted attr → ∃ err, localNodesLoop granted configuredCpus attr (node :: rest)
        nodeCpus masks = .error err) := by
  have listed : ∀ cpu, cpu ∈ (List.range configuredCpus).filter (fun cpu => cpu ∈ node.cpuset) ↔
      cpu ∈ node.cpuset := by
    intro cpu
    rw [List.mem_filter, List.mem_range, decide_eq_true_iff]
    exact ⟨And.right, fun member => ⟨configured cpu member, member⟩⟩
  rw [localNodesLoop, if_neg initiator]
  cases known : node.localNodes with
  | none =>
      refine ⟨?_, fun _ => ⟨_, rfl⟩⟩
      intro served
      obtain ⟨localNodes, found, -⟩ := served.eligible
      rw [known] at found
      cases found
  | some localNodes =>
      have eligible := attr.attrLocMask_card_iff (small localNodes known)
      simp only [populateCpus_eq, listed]
      constructor
      · intro served
        obtain ⟨found, equal, target⟩ := served.eligible
        rw [known] at equal
        obtain rfl := Option.some.inj equal
        have filled : node.fill attr masks = fun cpu =>
            if cpu ∈ node.cpuset then some (attr.attrLocMask localNodes) else masks cpu := by
          funext cpu
          rw [InitNode.fill, InitNode.mask, known, Option.getD_some]
        rw [if_neg (eligible.mpr target), if_pos served.granted, filled]
      · intro unserved
        by_cases none : (attr.attrLocMask localNodes).card = 0
        · exact ⟨_, if_pos none⟩
        · have refused : ¬∀ cpu ∈ node.cpuset, granted cpu := fun all =>
            unserved ⟨⟨localNodes, known, eligible.mp none⟩, all⟩
          rw [if_neg none, if_neg refused]
          exact ⟨_, rfl⟩

/-- The nodes that are not skipped when `nodeCpus` are covered already. -/
def initiators : List InitNode → Finset Nat → List InitNode
  | [], _ => []
  | node :: rest, nodeCpus =>
      if node.cpuset ⊆ nodeCpus then initiators rest nodeCpus
      else node :: initiators rest (nodeCpus ∪ node.cpuset)

/-- The initiators have their masks, and the other CPUs keep theirs. -/
structure Filled (attr : MemoryAttribute) (nodes : List InitNode) (masks filled : NodesMask) :
    Prop where
  initiator : ∀ node ∈ nodes, ∀ cpu ∈ node.cpuset, filled cpu = some (node.mask attr)
  other : ∀ cpu, (∀ node ∈ nodes, cpu ∉ node.cpuset) → filled cpu = masks cpu

theorem Filled.cons {filled : NodesMask} (later : Filled attr nodes (node.fill attr masks) filled)
    (apart : ∀ other ∈ nodes, Disjoint node.cpuset other.cpuset) :
    Filled attr (node :: nodes) masks filled := by
  constructor
  · intro other member cpu inside
    obtain rfl | member := List.mem_cons.mp member
    · rw [later.other cpu fun next listed shared =>
        Finset.disjoint_left.mp (apart next listed) inside shared]
      exact if_pos inside
    · exact later.initiator other member cpu inside
  · intro cpu outside
    obtain ⟨notNode, notLater⟩ := List.forall_mem_cons.mp outside
    rw [later.other cpu notLater]
    exact if_neg notNode

/-- The loop succeeds exactly when every initiator is served. -/
theorem localNodesLoop_ok_iff (small : ∀ node ∈ initiators nodes nodeCpus, node.Small)
    (configured : ∀ node ∈ nodes, ∀ cpu ∈ node.cpuset, cpu < configuredCpus) :
    (∃ filled, localNodesLoop granted configuredCpus attr nodes nodeCpus masks = .ok filled) ↔
      ∀ node ∈ initiators nodes nodeCpus, node.Served granted attr := by
  induction nodes generalizing nodeCpus masks with
  | nil => exact iff_of_true ⟨masks, rfl⟩ (by intro node member; cases member)
  | cons node rest ih =>
      obtain ⟨configuredNode, configuredRest⟩ := List.forall_mem_cons.mp configured
      by_cases skipped : node.cpuset ⊆ nodeCpus
      · rw [initiators, if_pos skipped] at small ⊢
        rw [localNodesLoop, if_pos skipped]
        exact ih small configuredRest
      · rw [initiators, if_neg skipped] at small ⊢
        obtain ⟨smallNode, smallRest⟩ := List.forall_mem_cons.mp small
        obtain ⟨goesOn, ends⟩ := @localNodesLoop_initiator granted attr configuredCpus node rest
          nodeCpus masks smallNode configuredNode skipped
        rw [List.forall_mem_cons]
        by_cases served : node.Served granted attr
        · rw [goesOn served, and_iff_right served]
          exact ih smallRest configuredRest
        · obtain ⟨err, ended⟩ := ends served
          refine iff_of_false ?_ fun both => served both.1
          rw [ended]
          intro ⟨filled, answered⟩
          cases answered

/-- A loop that succeeds fills the masks of initiators without common CPUs. -/
theorem localNodesLoop_filled {filled : NodesMask}
    (small : ∀ node ∈ initiators nodes nodeCpus, node.Small)
    (configured : ∀ node ∈ nodes, ∀ cpu ∈ node.cpuset, cpu < configuredCpus)
    (disjoint : (initiators nodes nodeCpus).Pairwise fun first second =>
      Disjoint first.cpuset second.cpuset)
    (looped : localNodesLoop granted configuredCpus attr nodes nodeCpus masks = .ok filled) :
    Filled attr (initiators nodes nodeCpus) masks filled := by
  induction nodes generalizing nodeCpus masks with
  | nil =>
      obtain rfl := Except.ok.inj looped
      constructor
      · intro node member
        cases member
      · intro cpu outside
        rfl
  | cons node rest ih =>
      obtain ⟨configuredNode, configuredRest⟩ := List.forall_mem_cons.mp configured
      by_cases skipped : node.cpuset ⊆ nodeCpus
      · rw [localNodesLoop, if_pos skipped] at looped
        rw [initiators, if_pos skipped] at small disjoint ⊢
        exact ih small configuredRest disjoint looped
      · rw [initiators, if_neg skipped] at small disjoint ⊢
        obtain ⟨smallNode, smallRest⟩ := List.forall_mem_cons.mp small
        obtain ⟨goesOn, ends⟩ := @localNodesLoop_initiator granted attr configuredCpus node rest
          nodeCpus masks smallNode configuredNode skipped
        obtain ⟨apart, laterDisjoint⟩ := List.pairwise_cons.mp disjoint
        by_cases served : node.Served granted attr
        · rw [goesOn served] at looped
          exact (ih smallRest configuredRest laterDisjoint looped).cons apart
        · obtain ⟨err, ended⟩ := ends served
          rw [ended] at looped
          cases looped

end Loops

section Result

/-- The NUMA nodes that the loop does not skip. -/
def HwlocTopology.initiators (topology : HwlocTopology) : List InitNode :=
  Memkind.initiators topology.initNodes ∅

/-- No CPU belongs to two initiators. -/
def HwlocTopology.SeparateCpus (topology : HwlocTopology) : Prop :=
  topology.initiators.Pairwise fun first second => Disjoint first.cpuset second.cpuset

/-- The topology is loaded, and there is memory for the array, the bitmaps and the masks. -/
structure HwlocOutcome.Granted (outcome : HwlocOutcome) (topology : HwlocTopology) : Prop where
  topologyInit : outcome.topologyInit = true
  topologyLoad : outcome.topologyLoad = true
  nodesMask : outcome.nodesMask = true
  localNodes : outcome.localNodes = true
  nodeCpus : outcome.nodeCpus = true
  attrLocMask : outcome.attrLocMask = true
  libnumaBitmask : ∀ node ∈ topology.initiators, ∀ cpu ∈ node.cpuset,
    outcome.libnumaBitmask cpu = true

/-- The attribute of a local kind. -/
def LocalKind.attribute : LocalKind → MemoryAttribute
  | .highestCapacityLocal => .capacity
  | .highestCapacityLocalPreferred => .capacity
  | .lowestLatencyLocal => .latency
  | .lowestLatencyLocalPreferred => .latency
  | .highestBandwidthLocal => .bandwidth
  | .highestBandwidthLocalPreferred => .bandwidth

theorem LocalKind.getMbindNodemask_eq (kind : LocalKind) :
    kind.getMbindNodemask = locGetMbindNodemask kind.attribute := by
  cases kind <;> rfl

variable {topology : HwlocTopology} {outcome : HwlocOutcome} {attr : MemoryAttribute}

/-- A call that succeeds has run the loop over the nodes. -/
theorem getPerCpuLocalNodesMask_ok_iff {masks : NodesMask} :
    getPerCpuLocalNodesMask topology outcome attr = .ok masks ↔
      (outcome.topologyInit = true ∧ outcome.topologyLoad = true ∧ outcome.nodesMask = true ∧
        outcome.localNodes = true ∧ outcome.nodeCpus = true ∧ outcome.attrLocMask = true) ∧
      localNodesLoop outcome.libnumaBitmask topology.configuredCpus attr topology.initNodes ∅
        (fun _ => none) = .ok masks := by
  unfold getPerCpuLocalNodesMask
  grind

/-- The first call on a CPU that has a mask copies the mask. -/
theorem locGetMbindNodemask_masked {masks : NodesMask} {cpu maxnode node : Nat}
    (found : getPerCpuLocalNodesMask topology outcome attr = .ok masks)
    (masked : masks cpu = some {node}) (fits : node < maxnode) :
    locGetMbindNodemask attr topology outcome maxnode cpu none =
      some (.ok {node}, some (.ok masks)) := by
  have copied : ({node} : Finset Nat).filter (fun node => node < maxnode) = {node} := by
    rw [Finset.filter_singleton, if_pos fits]
  rw [locGetMbindNodemask, Option.getD_none, found]
  simp only [masked, Option.map_some, copied]

/-- `get_per_cpu_local_nodes_mask` succeeds exactly when every initiator has an eligible local node,
up to the calls that need memory, and then every CPU of an initiator gets the first of its best
local nodes, also through the operations of the local kinds. -/
theorem getPerCpuLocalNodesMask_firstBest (topology : HwlocTopology) (outcome : HwlocOutcome)
    (attr : MemoryAttribute) (separate : topology.SeparateCpus)
    (small : ∀ node ∈ topology.initiators, node.Small) :
    ((∃ masks, getPerCpuLocalNodesMask topology outcome attr = .ok masks) ↔
      outcome.Granted topology ∧
        ∀ node ∈ topology.initiators, ∃ localNodes, node.localNodes = some localNodes ∧
          ∃ target ∈ localNodes, attr.Eligible target) ∧
    ∀ masks, getPerCpuLocalNodesMask topology outcome attr = .ok masks →
      ∀ node ∈ topology.initiators, ∃ localNodes target, node.localNodes = some localNodes ∧
        FirstBest attr.rank localNodes target ∧
        ∀ cpu ∈ node.cpuset, masks cpu = some {target.osIndex} ∧
          ∀ kind : LocalKind, kind.attribute = attr → ∀ maxnode, target.osIndex < maxnode →
            kind.getMbindNodemask topology outcome maxnode cpu none =
              some (.ok {target.osIndex}, some (.ok masks)) := by
  have looped := @localNodesLoop_ok_iff topology.initNodes outcome.libnumaBitmask attr
    topology.configuredCpus ∅ (fun _ => none) small topology.cpusConfigured
  constructor
  · simp only [getPerCpuLocalNodesMask_ok_iff, exists_and_left]
    rw [looped]
    constructor
    · intro ⟨⟨init, load, array, nodes, cpus, mask⟩, served⟩
      exact ⟨⟨init, load, array, nodes, cpus, mask, fun node member => (served node member).granted⟩,
        fun node member => (served node member).eligible⟩
    · intro ⟨granted, eligible⟩
      refine ⟨⟨granted.topologyInit, granted.topologyLoad, granted.nodesMask, granted.localNodes,
        granted.nodeCpus, granted.attrLocMask⟩, ?_⟩
      intro node member
      exact ⟨eligible node member, granted.libnumaBitmask node member⟩
  · intro masks answered node member
    have ran := (getPerCpuLocalNodesMask_ok_iff.mp answered).2
    have filled := localNodesLoop_filled small topology.cpusConfigured separate ran
    obtain ⟨localNodes, known, target, listed, eligible⟩ :=
      (looped.mp ⟨masks, ran⟩ node member).eligible
    obtain ⟨best, found, single⟩ := attr.attrLocMask_found (small node member localNodes known)
    cases found with
    | nothing unranked =>
        exact absurd (unranked target listed) ((attr.eligible_iff target).mp eligible).ne'
    | @chosen best first =>
        refine ⟨localNodes, best, known, first, ?_⟩
        intro cpu inside
        have masked : masks cpu = some {best.osIndex} := by
          rw [filled.initiator node member cpu inside, InitNode.mask, known, Option.getD_some,
            single, Option.elim_some]
        refine ⟨masked, ?_⟩
        rintro kind rfl maxnode fits
        rw [kind.getMbindNodemask_eq]
        exact locGetMbindNodemask_masked answered masked fits

/-- Two sockets with a large and a fast node each, and a node without CPUs. Two local nodes of the
second socket have the highest bandwidth and the same memory. -/
def twoSockets : HwlocTopology where
  configuredCpus := 4
  initNodes :=
    [⟨{0, 1}, some [⟨0, 0x1000000, 10, some 100, some 90, by decide⟩,
        ⟨2, 0x400000, 20, some 300, none, by decide⟩]⟩,
      ⟨{2, 3}, some [⟨1, 0x1000000, 10, none, some 90, by decide⟩,
        ⟨3, 0x400000, 20, some 300, some 120, by decide⟩,
        ⟨4, 0x400000, 21, some 300, some 120, by decide⟩]⟩,
      ⟨∅, none⟩]
  cpusConfigured := by decide

/-- Every call succeeds. -/
def hwlocGranted : HwlocOutcome := ⟨true, true, true, true, true, true, fun _ => true⟩

theorem getPerCpuLocalNodesMask_firstBest_twoSockets :
    ∃ masks, getPerCpuLocalNodesMask twoSockets hwlocGranted .bandwidth = .ok masks ∧
      ∀ node ∈ twoSockets.initiators, ∃ localNodes target, node.localNodes = some localNodes ∧
        FirstBest (MemoryAttribute.rank .bandwidth) localNodes target ∧
        ∀ cpu ∈ node.cpuset, masks cpu = some {target.osIndex} := by
  have separate : twoSockets.SeparateCpus := by
    unfold HwlocTopology.SeparateCpus
    decide
  have values : ∀ node ∈ twoSockets.initiators, ∀ target ∈ node.localNodes.getD [],
      target.localMemory.toNat < 2 ^ 64 - 1 ∧ (target.latency.getD 0).toNat ≤ intMax := by
    decide
  have small : ∀ node ∈ twoSockets.initiators, node.Small := by
    intro node member localNodes known target listed
    have bounds := values node member target (by rwa [known])
    refine ⟨bounds.1, fun latency read => ?_⟩
    rw [read] at bounds
    exact bounds.2
  have eligible : ∀ node ∈ twoSockets.initiators, ∃ target ∈ node.localNodes.getD [],
      target.bandwidth.isSome := by
    decide
  obtain ⟨succeeds, best⟩ :=
    getPerCpuLocalNodesMask_firstBest twoSockets hwlocGranted .bandwidth separate small
  obtain ⟨masks, answered⟩ := succeeds.mpr ⟨⟨rfl, rfl, rfl, rfl, rfl, rfl, fun _ _ _ _ => rfl⟩, by
    intro node member
    obtain ⟨target, listed, read⟩ := eligible node member
    cases known : node.localNodes with
    | none =>
        rw [known] at listed
        cases listed
    | some localNodes =>
        rw [known] at listed
        exact ⟨localNodes, rfl, target, listed, read⟩⟩
  refine ⟨masks, answered, fun node member => ?_⟩
  obtain ⟨localNodes, target, known, first, masked⟩ := best masks answered node member
  exact ⟨localNodes, target, known, first, fun cpu inside => (masked cpu inside).1⟩

end Result

end Memkind
