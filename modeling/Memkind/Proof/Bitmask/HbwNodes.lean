/-
This file shows which nodes of high bandwidth every CPU gets, what remains of them when there is no
memory for a list, and that the three variants of the search agree.
-/

import Memkind.Construction.HbwNodes
import Memkind.Proof.Bitmask.Closest

namespace Memkind

open Library

variable {variant : NodeVariant} {mask : Finset Nat} {cpu dest : Nat} {current : Vec Nat}
  {arr : NodeArr} {lists : Nat → List Nat} {machine : HbwMachine}

section Vectors

variable {granted : Nat → Bool} {kept : List Nat → List Nat → Prop}

/-- How the elements of a vector relate to the list that it should hold. -/
structure VecKeeps (granted : Nat → Bool) (kept : List Nat → List Nat → Prop) : Prop where
  nil : kept [] []
  push : ∀ (vec : Vec Nat) (items : List Nat) (element : Nat), kept vec.items items →
    kept (vec.pushBack granted element).items (items ++ [element])
  extend : ∀ {held front back full : List Nat}, kept held (front ++ back) → kept back full →
    kept held (front ++ full)

/-- With memory for every list, nothing is lost. -/
theorem vecKeeps_eq : VecKeeps (fun _ => true) Eq where
  nil := rfl
  push vec items element same := by rw [Vec.pushBack_items, same]
  extend held back := by rw [held, back]

theorem Vec.reserve_items {vec grown : Vec Nat} {ncapacity : Nat}
    (reserved : vec.reserve granted ncapacity = some grown) : grown.items = vec.items := by
  unfold reserve at reserved
  obtain ⟨-, same⟩ := Option.ite_none_right_eq_some.mp reserved
  obtain rfl := Option.some.inj same
  rfl

/-- Without memory an element is lost, and the others keep their order. -/
theorem vecKeeps_sublist (granted : Nat → Bool) : VecKeeps granted List.Sublist where
  nil := List.Sublist.slnil
  push vec items element sub := by
    have lost : vec.items.Sublist (items ++ [element]) :=
      sub.trans (List.sublist_append_left _ _)
    unfold Vec.pushBack
    split
    · split
      · exact lost
      · rename_i grown isGrown
        rw [Vec.reserve_items isGrown]
        exact sub.append (List.Sublist.refl _)
    · exact sub.append (List.Sublist.refl _)
  extend held back := held.trans ((List.Sublist.refl _).append back)

theorem VecKeeps.pushAll (keeps : VecKeeps granted kept) (elements : List Nat) {vec : Vec Nat}
    {items : List Nat} (held : kept vec.items items) :
    kept (elements.foldl (fun vec element => vec.pushBack granted element) vec).items
      (items ++ elements) := by
  induction elements generalizing vec items with
  | nil => simpa using held
  | cons element rest ih =>
      have tail := ih (keeps.push vec items element held)
      rwa [List.append_assoc] at tail

/-- The loop over the CPUs. -/
theorem VecKeeps.fillCpus (keeps : VecKeeps granted kept) (cpus : Finset Nat) {chosen : List Nat}
    (isChosen : kept current.items chosen) (held : ∀ cpu, kept (arr cpu).items (lists cpu))
    (configuredCpus cpu : Nat) :
    kept (Memkind.fillCpus granted configuredCpus cpus current arr cpu).items
      (lists cpu ++ if cpu < configuredCpus ∧ cpu ∈ cpus then chosen else []) := by
  unfold Memkind.fillCpus
  induction configuredCpus with
  | zero => simpa using held cpu
  | succ configuredCpus ih =>
      rw [List.range_succ, List.foldl_append, List.foldl_cons, List.foldl_nil, fillCpu]
      by_cases same : cpu = configuredCpus
      · subst same
        rw [if_neg (fun both => Nat.lt_irrefl _ both.1), List.append_nil] at ih
        by_cases member : cpu ∈ cpus
        · rw [if_pos member, if_pos ⟨Nat.lt_succ_self cpu, member⟩, Function.update_self]
          exact keeps.extend (keeps.pushAll current.items ih) isChosen
        · rw [if_neg member, if_neg fun both => member both.2, List.append_nil]
          exact ih
      · have bound : cpu < configuredCpus + 1 ↔ cpu < configuredCpus := by omega
        simp only [bound]
        split
        · rw [Function.update_of_ne same]
          exact ih
        · exact ih

end Vectors

section Passes

variable {Item : Type} {granted : Nat → Bool} {kept : List Nat → List Nat → Prop}

/-- What both searches do with a node that counts. -/
def closerStep (granted : Nat → Bool) (variant : NodeVariant) (dist index : Item → Nat)
    (state : Nat × Vec Nat) (item : Item) : Nat × Vec Nat :=
  if variant = .all then (state.1, state.2.pushBack granted (index item))
  else if dist item < state.1 then (dist item, state.2.clear.pushBack granted (index item))
  else if dist item = state.1 then (state.1, state.2.pushBack granted (index item))
  else state

/-- The nodes that a pass is for. -/
def closer (variant : NodeVariant) (dist index : Item → Nat) (items : List Item) : List Nat :=
  if variant = .all then items.map index else (minimizers dist items).map index

/-- A pass finds the closest nodes, up to what the vector loses. -/
theorem VecKeeps.pass (keeps : VecKeeps granted kept) (variant : NodeVariant)
    {dist index : Item → Nat} {items : List Item} (small : ∀ item ∈ items, dist item ≤ intMax)
    (current : Vec Nat) :
    kept (items.foldl (closerStep granted variant dist index) (intMax, current.clear)).2.items
      (closer variant dist index items) := by
  unfold closer
  by_cases all : variant = .all
  · have pushed : ∀ (items : List Item) (state : Nat × Vec Nat),
        (items.foldl (closerStep granted variant dist index) state).2 =
          (items.map index).foldl (fun vec node => vec.pushBack granted node) state.2 := by
      intro items
      induction items with
      | nil => exact fun _ => rfl
      | cons item rest ih =>
          intro state
          rw [List.foldl_cons, ih, closerStep, if_pos all]
          rfl
    have empty : kept current.clear.items [] := keeps.nil
    rw [if_pos all, pushed]
    exact keeps.pushAll _ empty
  · -- The distances are those of a pass over a list, and the vector keeps what it can of the list.
    have running : ∀ (items : List Item) (state : Nat × Vec Nat) (found : List Item),
        kept state.2.items (found.map index) →
        kept (items.foldl (closerStep granted variant dist index) state).2.items
          ((items.foldl (runningStep dist) (state.1, found)).2.map index) := by
      intro items
      induction items with
      | nil => exact fun _ _ held => held
      | cons item rest ih =>
          intro state found held
          rw [List.foldl_cons, List.foldl_cons, runningStep, closerStep, if_neg all]
          split
          · exact ih _ [item] (keeps.push state.2.clear [] (index item) keeps.nil)
          · split
            · refine ih _ (found ++ [item]) ?_
              rw [List.map_append]
              exact keeps.push state.2 _ (index item) held
            · exact ih state found held
    have result := running items (intMax, current.clear) [] keeps.nil
    rw [foldl_runningStep dist small] at result
    rw [if_neg all]
    exact result

/-- The closest nodes are among all of them. -/
theorem closer_subset (variant : NodeVariant) (dist index : Item → Nat) (items : List Item) :
    closer variant dist index items ⊆ closer .all dist index items := by
  unfold closer
  rw [if_pos rfl]
  split
  · exact List.Subset.refl _
  · refine List.map_subset index ?_
    intro item member
    exact List.mem_of_mem_filter member

theorem closer_eq_nil_iff (variant : NodeVariant) (dist index : Item → Nat) (items : List Item) :
    closer variant dist index items = [] ↔ items = [] := by
  unfold closer
  split
  · exact List.map_eq_nil_iff
  · rw [List.map_eq_nil_iff, minimizers_eq_nil_iff]

theorem mem_closer {dist index : Item → Nat} {items : List Item} {node : Nat} :
    node ∈ closer variant dist index items ↔
      ∃ item ∈ items, index item = node ∧
        (variant ≠ .all → ∀ other ∈ items, dist item ≤ dist other) := by
  unfold closer
  split
  · rename_i all
    simp [all]
  · rename_i several
    simp only [List.mem_map, minimizers, List.mem_filter, decide_eq_true_iff, and_assoc]
    refine exists_congr fun item => and_congr_right fun _ => ?_
    rw [and_comm]
    exact and_congr_right fun _ => ⟨fun least _ => least, fun least => least several⟩

end Passes

section Targets

variable (topology : BandwidthTopology) (variant : NodeVariant) (threshold : Nat)

/-- The bandwidth from an initiator to a node reaches the threshold. -/
def BandwidthTopology.Reaches (initNode target : HwlocNumanode) : Prop :=
  ∃ bandwidth, topology.bandwidth initNode target = some bandwidth ∧ threshold ≤ bandwidth.toNat

instance (initNode target : HwlocNumanode) :
    Decidable (topology.Reaches threshold initNode target) :=
  decidable_of_iff ((topology.bandwidth initNode target).any fun bandwidth =>
    threshold ≤ bandwidth.toNat) (by simp [BandwidthTopology.Reaches, Option.any_eq_true])

/-- The nodes of high bandwidth for an initiator. -/
def BandwidthTopology.targets (initNode : HwlocNumanode) : List HwlocNumanode :=
  topology.nodes.filter fun target => topology.Reaches threshold initNode target

/-- The nodes for the CPUs of an initiator. -/
def BandwidthTopology.chosen (initNode : HwlocNumanode) : List Nat :=
  closer variant (fun target => topology.distance initNode.osIndex target.osIndex)
    HwlocNumanode.osIndex (topology.targets threshold initNode)

variable {granted : Nat → Bool} {kept : List Nat → List Nat → Prop}

theorem targetStep_eq (initNode : HwlocNumanode) (state : Nat × Vec Nat)
    (target : HwlocNumanode) :
    targetStep granted topology variant threshold initNode state target =
      if topology.Reaches threshold initNode target then
        closerStep granted variant
          (fun target => topology.distance initNode.osIndex target.osIndex)
          HwlocNumanode.osIndex state target
      else state := by
  unfold targetStep
  split
  · rename_i unread
    have below : ¬topology.Reaches threshold initNode target := by
      rintro ⟨bandwidth, read, -⟩
      rw [unread] at read
      cases read
    rw [if_neg below]
  · rename_i bandwidth read
    by_cases reached : threshold ≤ bandwidth.toNat
    · have enough : topology.Reaches threshold initNode target := ⟨bandwidth, read, reached⟩
      rw [if_pos reached, if_pos enough]
      rfl
    · have below : ¬topology.Reaches threshold initNode target := by
        rintro ⟨other, same, enough⟩
        rw [read] at same
        obtain rfl := Option.some.inj same
        exact reached enough
      rw [if_neg reached, if_neg below]

/-- The loop over the targets. -/
theorem destNodes_chosen (keeps : VecKeeps granted kept) (initNode : HwlocNumanode)
    (current : Vec Nat) :
    kept (destNodes granted topology variant threshold initNode current).items
      (topology.chosen variant threshold initNode) := by
  have filtered : destNodes granted topology variant threshold initNode current =
      ((topology.targets threshold initNode).foldl (closerStep granted variant
        (fun target => topology.distance initNode.osIndex target.osIndex)
        HwlocNumanode.osIndex) (intMax, current.clear)).2 := by
    rw [BandwidthTopology.targets, List.foldl_filter, destNodes]
    congr 2
    funext state target
    rw [targetStep_eq]
    simp only [decide_eq_true_iff]
  rw [filtered]
  exact keeps.pass variant (fun target _ => topology.distanceInt _ _) current

end Targets

section Libnuma

variable (topology : NumaTopology) (variant : NodeVariant) (mask : Finset Nat)
  {granted : Nat → Bool} {kept : List Nat → List Nat → Prop}

theorem NumaTopology.chosen_eq_closer (initNode : Nat) :
    topology.chosen variant mask initNode =
      closer variant (topology.distance initNode) id (topology.destinations mask) := by
  unfold NumaTopology.chosen closer
  simp

/-- The loop of `set_closest_numanode` over the destination nodes. -/
theorem closestNodes_chosen (keeps : VecKeeps granted kept) (initNode : Nat)
    (current : Vec Nat) :
    kept (closestNodes granted topology variant mask initNode current).items
      (topology.chosen variant mask initNode) := by
  have filtered : closestNodes granted topology variant mask initNode current =
      ((topology.destinations mask).foldl
        (closerStep granted variant (topology.distance initNode) id) (intMax, current.clear)).2 := by
    rw [NumaTopology.destinations, List.foldl_filter, closestNodes]
    congr 2
    funext state node
    simp only [closestStep, closerStep, decide_eq_true_iff, id]
  rw [filtered, topology.chosen_eq_closer]
  exact keeps.pass variant (fun node _ => topology.distanceInt _ _) current

/-- When `set_closest_numanode` succeeds, the CPUs have what the nodes add, up to what the vectors
lose. -/
theorem closestLoop_lists (keeps : VecKeeps granted kept) {nodes : List Nat} {final : NodeArr}
    (held : ∀ cpu, kept (arr cpu).items (lists cpu))
    (looped : closestLoop granted topology variant mask nodes current arr = .ok final) (cpu : Nat) :
    kept (final cpu).items (lists cpu ++ nodes.flatMap (topology.given variant mask cpu)) := by
  induction nodes generalizing current arr lists with
  | nil =>
      obtain rfl := Except.ok.inj looped
      simpa using held cpu
  | cons node rest ih =>
      have skipped : topology.cpusOf node = ∅ →
          closestLoop granted topology variant mask rest current arr = .ok final →
          kept (final cpu).items
            (lists cpu ++ (node :: rest).flatMap (topology.given variant mask cpu)) := by
        intro empty later
        rw [List.flatMap_cons, NumaTopology.given, empty, if_neg (by simp), List.nil_append]
        exact ih held later
      rw [closestLoop] at looped
      split at looped
      · rename_i missing
        exact skipped (by rw [NumaTopology.cpusOf, missing]; rfl) looped
      · rename_i cpus found
        have owns : topology.cpusOf node = cpus := by rw [NumaTopology.cpusOf, found]; rfl
        split at looped
        · rename_i empty
          exact skipped (owns.trans (Finset.card_eq_zero.mp empty)) looped
        · dsimp only at looped
          split at looped
          · cases looped
          · have chosen := closestNodes_chosen topology variant mask keeps node current
            have filled := keeps.fillCpus cpus chosen held topology.configuredCpus
            have tail := ih filled looped
            rw [List.flatMap_cons, ← List.append_assoc, NumaTopology.given, owns]
            exact tail

end Libnuma

section Initiators

variable (topology : BandwidthTopology) (variant : NodeVariant) (threshold : Nat)

/-- The nodes that the loop does not skip: each has a CPU that no earlier one has. -/
def BandwidthTopology.initiatorsOf : List HwlocNumanode → Finset Nat → List HwlocNumanode
  | [], _ => []
  | initNode :: rest, nodeCpus =>
      if initNode.cpuset ⊆ nodeCpus then initiatorsOf rest nodeCpus
      else initNode :: initiatorsOf rest (nodeCpus ∪ initNode.cpuset)

/-- The nodes that act as initiators. -/
def BandwidthTopology.initiators : List HwlocNumanode :=
  BandwidthTopology.initiatorsOf topology.nodes ∅

theorem BandwidthTopology.mem_of_mem_initiatorsOf {initNode : HwlocNumanode}
    {nodes : List HwlocNumanode} {nodeCpus : Finset Nat}
    (member : initNode ∈ initiatorsOf nodes nodeCpus) : initNode ∈ nodes := by
  induction nodes generalizing nodeCpus with
  | nil => exact member
  | cons first rest ih =>
      rw [initiatorsOf] at member
      split at member
      · exact List.mem_cons_of_mem _ (ih member)
      · rcases List.mem_cons.mp member with rfl | later
        · exact List.mem_cons_self
        · exact List.mem_cons_of_mem _ (ih later)

/-- What an initiator adds to the list of a CPU. -/
def BandwidthTopology.given (cpu : Nat) (initNode : HwlocNumanode) : List Nat :=
  if cpu < topology.configuredCpus ∧ cpu ∈ initNode.cpuset then
    topology.chosen variant threshold initNode
  else []

/-- The variant can choose for an initiator. -/
def BandwidthTopology.Served (initNode : HwlocNumanode) : Prop :=
  topology.chosen variant threshold initNode ≠ [] ∧
    ¬(variant = .single ∧ 1 < (topology.chosen variant threshold initNode).length)

variable {granted : Nat → Bool} {kept : List Nat → List Nat → Prop}

/-- When the loop succeeds, the CPUs have what the initiators add, up to what the vectors lose. -/
theorem memAttrLoop_lists (keeps : VecKeeps granted kept) {nodes : List HwlocNumanode}
    {nodeCpus : Finset Nat} {final : NodeArr} (held : ∀ cpu, kept (arr cpu).items (lists cpu))
    (looped : memAttrLoop granted topology variant threshold nodes nodeCpus current arr =
      .ok final) (cpu : Nat) :
    kept (final cpu).items (lists cpu ++ (BandwidthTopology.initiatorsOf nodes nodeCpus).flatMap
      (topology.given variant threshold cpu)) := by
  induction nodes generalizing nodeCpus current arr lists with
  | nil =>
      obtain rfl := Except.ok.inj looped
      simpa [BandwidthTopology.initiatorsOf] using held cpu
  | cons initNode rest ih =>
      rw [memAttrLoop] at looped
      rw [BandwidthTopology.initiatorsOf]
      split
      · rename_i skipped
        rw [if_pos skipped] at looped
        exact ih held looped
      · rename_i fresh
        rw [if_neg fresh] at looped
        dsimp only at looped
        split at looped
        · cases looped
        · split at looped
          · cases looped
          · have chosen := destNodes_chosen topology variant threshold keeps initNode current
            have filled := keeps.fillCpus initNode.cpuset chosen held topology.configuredCpus
            have tail := ih filled looped
            rw [List.flatMap_cons, ← List.append_assoc]
            exact tail

/-- With memory for the lists, the loop succeeds exactly when every initiator is served. -/
theorem memAttrLoop_ok_iff (nodes : List HwlocNumanode) (nodeCpus : Finset Nat)
    (current : Vec Nat) (arr : NodeArr) :
    (∃ final, memAttrLoop (fun _ => true) topology variant threshold nodes nodeCpus current arr =
      .ok final) ↔
    ∀ initNode ∈ BandwidthTopology.initiatorsOf nodes nodeCpus,
      topology.Served variant threshold initNode := by
  induction nodes generalizing nodeCpus current arr with
  | nil => simp [memAttrLoop, BandwidthTopology.initiatorsOf]
  | cons initNode rest ih =>
      rw [memAttrLoop, BandwidthTopology.initiatorsOf]
      split
      · exact ih _ _ _
      · have chosen := destNodes_chosen topology variant threshold vecKeeps_eq initNode current
        rw [List.forall_mem_cons, BandwidthTopology.Served, ← chosen]
        dsimp only
        unfold Vec.size
        have fails : ∀ err : NodeSearchError, ¬∃ final : NodeArr,
            (Except.error err : Except NodeSearchError NodeArr) = .ok final := by
          rintro err ⟨final, same⟩
          cases same
        split
        · rename_i empty
          exact iff_of_false (fails _) fun served =>
            served.1.1 (List.length_eq_zero_iff.mp empty)
        · rename_i nonempty
          split
          · rename_i undecided
            exact iff_of_false (fails _) fun served => served.1.2 undecided
          · rename_i decided
            rw [ih]
            refine (and_iff_right ⟨?_, decided⟩).symm
            exact fun empty => nonempty (List.length_eq_zero_iff.mpr empty)

theorem memAttrLoop_ne_environ (nodes : List HwlocNumanode) (nodeCpus : Finset Nat)
    (current : Vec Nat) (arr : NodeArr) :
    memAttrLoop granted topology variant threshold nodes nodeCpus current arr ≠
      .error (.status .errorEnviron) := by
  induction nodes generalizing nodeCpus current arr with
  | nil => exact nofun
  | cons initNode rest ih =>
      rw [memAttrLoop]
      split
      · exact ih _ _ _
      · dsimp only
        split
        · exact nofun
        · split
          · exact nofun
          · exact ih _ _ _

end Initiators

section Bandwidths

variable {topology : BandwidthTopology} {variant : NodeVariant} {threshold : Nat}

/-- A node of high bandwidth that no other one is closer than, unless all of them are wanted. -/
def BandwidthTopology.Best (topology : BandwidthTopology) (variant : NodeVariant)
    (threshold : Nat) (initNode : HwlocNumanode) (dest : Nat) : Prop :=
  ∃ target ∈ topology.nodes, topology.Reaches threshold initNode target ∧
    target.osIndex = dest ∧
    (variant ≠ .all → ∀ other ∈ topology.nodes, topology.Reaches threshold initNode other →
      topology.distance initNode.osIndex target.osIndex ≤
        topology.distance initNode.osIndex other.osIndex)

theorem BandwidthTopology.mem_chosen {initNode : HwlocNumanode} :
    dest ∈ topology.chosen variant threshold initNode ↔
      topology.Best variant threshold initNode dest := by
  simp only [chosen, mem_closer, Best, targets, List.mem_filter, decide_eq_true_iff, and_assoc,
    and_imp]

/-- The lists of the initiators hold the best nodes for a CPU. -/
theorem BandwidthTopology.mem_given :
    dest ∈ topology.initiators.flatMap (topology.given variant threshold cpu) ↔
      ∃ initNode ∈ topology.initiators, cpu ∈ initNode.cpuset ∧
        topology.Best variant threshold initNode dest := by
  rw [List.mem_flatMap]
  refine exists_congr fun initNode => and_congr_right fun member => ?_
  have configured : cpu ∈ initNode.cpuset → cpu < topology.configuredCpus :=
    topology.cpusConfigured initNode (mem_of_mem_initiatorsOf member) cpu
  rw [given]
  split
  · rename_i own
    rw [mem_chosen]
    exact (and_iff_right own.2).symm
  · rename_i foreign
    refine iff_of_false List.not_mem_nil ?_
    rintro ⟨own, -⟩
    exact foreign ⟨configured own, own⟩

/-- The lists of a successful search. -/
theorem setClosestNumanodeMemAttr_lists {env : Option (List Char)} {outcome : BandwidthOutcome}
    {kept : List Nat → List Nat → Prop} (keeps : VecKeeps outcome.vec kept) {numanode : NodeArr}
    (found : setClosestNumanodeMemAttr env topology outcome variant = .ok numanode) :
    ∃ threshold, hbwThreshold env = some threshold ∧ ∀ cpu, kept (numanode cpu).items
      (topology.initiators.flatMap (topology.given variant threshold cpu)) := by
  unfold setClosestNumanodeMemAttr at found
  split at found
  · cases found
  · rename_i threshold read
    refine ⟨threshold, read, ?_⟩
    split at found
    · cases found
    · split at found
      · cases found
      · split at found
        · cases found
        · split at found
          · cases found
          · exact memAttrLoop_lists topology variant threshold keeps (fun _ => keeps.nil) found

/-- Every call that `set_closest_numanode_mem_attr` makes succeeds. -/
def BandwidthOutcome.granted : BandwidthOutcome := ⟨true, true, true, true, fun _ => true⟩

theorem setClosestNumanodeMemAttr_granted {env : Option (List Char)}
    (read : hbwThreshold env = some threshold) (topology : BandwidthTopology)
    (variant : NodeVariant) :
    setClosestNumanodeMemAttr env topology .granted variant =
      memAttrLoop (fun _ => true) topology variant threshold topology.nodes ∅ Vec.initializer
        fun _ => Vec.initializer := by
  unfold setClosestNumanodeMemAttr
  rw [read]
  rfl

end Bandwidths

/-- With memory for its lists, `set_closest_numanode_mem_attr` rejects a bad threshold, succeeds
exactly when every initiator has a node of high bandwidth and `NODE_VARIANT_SINGLE` has no choice,
and then gives every CPU the closest nodes of high bandwidth. -/
theorem setClosestNumanodeMemAttr_best (env : Option (List Char)) (topology : BandwidthTopology)
    (variant : NodeVariant) :
    (setClosestNumanodeMemAttr env topology .granted variant = .error (.status .errorEnviron) ↔
      hbwThreshold env = none) ∧
    ∀ threshold, hbwThreshold env = some threshold →
      ((∃ numanode, setClosestNumanodeMemAttr env topology .granted variant = .ok numanode) ↔
        ∀ initNode ∈ topology.initiators, topology.Served variant threshold initNode) ∧
      ∀ numanode, setClosestNumanodeMemAttr env topology .granted variant = .ok numanode →
        ∀ cpu dest, dest ∈ (numanode cpu).items ↔
          ∃ initNode ∈ topology.initiators, cpu ∈ initNode.cpuset ∧
            topology.Best variant threshold initNode dest := by
  refine ⟨⟨?_, ?_⟩, ?_⟩
  · intro rejected
    cases read : hbwThreshold env with
    | none => rfl
    | some threshold =>
        rw [setClosestNumanodeMemAttr_granted read] at rejected
        exact absurd rejected (memAttrLoop_ne_environ _ _ _ _ _ _ _)
  · intro unread
    unfold setClosestNumanodeMemAttr
    rw [unread]
  · intro threshold read
    refine ⟨?_, ?_⟩
    · rw [setClosestNumanodeMemAttr_granted read]
      exact memAttrLoop_ok_iff topology variant threshold _ _ _ _
    · intro numanode found cpu dest
      obtain ⟨same, isRead, lists⟩ := setClosestNumanodeMemAttr_lists vecKeeps_eq found
      rw [read] at isRead
      obtain rfl := Option.some.inj isRead
      rw [lists cpu, BandwidthTopology.mem_given]

/-- The nodes that the search on a machine is meant to give to a CPU. -/
def HbwMachine.Allows (machine : HbwMachine) (variant : NodeVariant) (cpu dest : Nat) : Prop :=
  if machine.isHmatSupported then
    ∃ threshold, Memkind.hbwThreshold machine.hbwThreshold = some threshold ∧
      ∃ initNode ∈ machine.bandwidth.initiators, cpu ∈ initNode.cpuset ∧
        machine.bandwidth.Best variant threshold initNode dest
  else
    ∃ mask, machine.getNodemask = .ok mask ∧ ∃ node ≤ machine.topology.maxNode,
      cpu ∈ machine.topology.cpusOf node ∧ dest ≤ machine.topology.maxNode ∧ dest ∈ mask ∧
        (variant ≠ .all → machine.topology.Closest mask node dest)

/-- The lists of `set_closest_numanode` with a mask of destination nodes. -/
theorem setClosestNumanode_lists {topology : NumaTopology} {outcome : NumaOutcome}
    {kept : List Nat → List Nat → Prop} (keeps : VecKeeps outcome.vec kept) {numanode : NodeArr}
    (found : setClosestNumanode topology { outcome with getBitmask := .ok mask } variant =
      .ok numanode) (cpu : Nat) :
    kept (numanode cpu).items
      ((List.range (topology.maxNode + 1)).flatMap (topology.given variant mask cpu)) := by
  unfold setClosestNumanode at found
  dsimp only at found
  split at found
  · cases found
  · split at found
    · cases found
    · exact closestLoop_lists topology variant mask keeps (fun _ => keeps.nil) found cpu

/-- A node from the lists of libnuma is a destination node, and the closest if that is wanted. -/
theorem NumaTopology.of_mem_given {topology : NumaTopology}
    (member : dest ∈ (List.range (topology.maxNode + 1)).flatMap
      (topology.given variant mask cpu)) :
    ∃ node ≤ topology.maxNode, cpu ∈ topology.cpusOf node ∧ dest ≤ topology.maxNode ∧
      dest ∈ mask ∧ (variant ≠ .all → topology.Closest mask node dest) := by
  obtain ⟨node, listed, given⟩ := List.mem_flatMap.mp member
  rw [NumaTopology.given] at given
  split at given
  · rename_i own
    refine ⟨node, Nat.le_of_lt_succ (List.mem_range.mp listed), own.2, ?_⟩
    have wanted : dest ≤ topology.maxNode ∧ dest ∈ mask := by
      rw [topology.chosen_eq_closer] at given
      have inAll := closer_subset variant _ _ _ given
      rw [closer, if_pos rfl, List.map_id] at inAll
      exact (topology.mem_destinations mask).mp inAll
    exact ⟨wanted.1, wanted.2, fun several => (topology.mem_chosen variant mask several node dest).mp
      given⟩
  · cases given

/-- Whatever the calls for memory return: a CPU never gets a node that the search does not allow. -/
theorem hbwNumanodeInit_allows (machine : HbwMachine) (variant : NodeVariant) (numanode : NodeArr)
    (found : machine.numanodeInit variant = .ok numanode) (cpu dest : Nat)
    (member : dest ∈ (numanode cpu).items) : machine.Allows variant cpu dest := by
  unfold HbwMachine.numanodeInit at found
  unfold HbwMachine.Allows
  cases supported : machine.isHmatSupported with
  | true =>
      simp only [supported, Bool.not_true, Bool.false_eq_true, if_false] at found
      obtain ⟨threshold, read, lists⟩ :=
        setClosestNumanodeMemAttr_lists (vecKeeps_sublist machine.hwloc.vec) found
      rw [if_pos rfl]
      exact ⟨threshold, read, BandwidthTopology.mem_given.mp ((lists cpu).subset member)⟩
  | false =>
      simp only [supported, Bool.not_false, if_true] at found
      rw [if_neg Bool.false_ne_true]
      split at found
      · cases found
      · rename_i mask isMask
        cases searched : setClosestNumanode machine.topology
            { machine.numa with getBitmask := .ok mask } variant with
        | error err =>
            rw [searched] at found
            cases found
        | ok arr =>
            rw [searched] at found
            obtain rfl := Except.ok.inj found
            have lists := setClosestNumanode_lists (vecKeeps_sublist machine.numa.vec) searched cpu
            exact ⟨mask, isMask, NumaTopology.of_mem_given (lists.subset member)⟩

/-- Every call for memory and every call that loads the topology succeeds. -/
structure HbwMachine.Granted (machine : HbwMachine) : Prop where
  cpuMask : machine.numa.cpuMask = true
  nodeArr : machine.numa.nodeArr = true
  vec : machine.numa.vec = fun _ => true
  hwloc : machine.hwloc = .granted

/-- What the search of a machine finds for a variant: whether it succeeds, and its lists. -/
structure HbwMachine.Finds (machine : HbwMachine) (variant : NodeVariant) (succeeds : Prop)
    (lists : Nat → List Nat) : Prop where
  ok : succeeds → ∃ numanode, machine.numanodeInit variant = .ok numanode ∧
    ∀ cpu, (numanode cpu).items = lists cpu
  error : ¬succeeds → ∃ err, machine.numanodeInit variant = .error err

theorem HbwMachine.Granted.finds_bandwidth (granted : machine.Granted)
    (supported : machine.isHmatSupported = true) {threshold : Nat}
    (read : Memkind.hbwThreshold machine.hbwThreshold = some threshold) (variant : NodeVariant) :
    machine.Finds variant
      (∀ initNode ∈ machine.bandwidth.initiators,
        machine.bandwidth.Served variant threshold initNode)
      fun cpu => machine.bandwidth.initiators.flatMap
        (machine.bandwidth.given variant threshold cpu) := by
  have init : machine.numanodeInit variant =
      setClosestNumanodeMemAttr machine.hbwThreshold machine.bandwidth .granted variant := by
    rw [numanodeInit, supported, granted.hwloc]
    rfl
  have searched := setClosestNumanodeMemAttr_granted read machine.bandwidth variant
  have served := memAttrLoop_ok_iff machine.bandwidth variant threshold machine.bandwidth.nodes ∅
    Vec.initializer fun _ => Vec.initializer
  rw [← searched] at served
  constructor
  · intro all
    obtain ⟨numanode, found⟩ := served.mpr all
    obtain ⟨same, isRead, lists⟩ := setClosestNumanodeMemAttr_lists vecKeeps_eq found
    rw [read] at isRead
    obtain rfl := Option.some.inj isRead
    exact ⟨numanode, init.trans found, lists⟩
  · intro unserved
    cases result : setClosestNumanodeMemAttr machine.hbwThreshold machine.bandwidth .granted
        variant with
    | ok numanode => exact absurd (served.mp ⟨numanode, result⟩) unserved
    | error err => exact ⟨err, init.trans result⟩

theorem HbwMachine.Granted.finds_libnuma (granted : machine.Granted)
    (unsupported : machine.isHmatSupported = false) (isMask : machine.getNodemask = .ok mask)
    (variant : NodeVariant) :
    machine.Finds variant
      (∀ node ∈ List.range (machine.topology.maxNode + 1),
        ¬Undecided machine.topology variant mask node)
      fun cpu => (List.range (machine.topology.maxNode + 1)).flatMap
        (machine.topology.given variant mask cpu) := by
  have init : machine.numanodeInit variant =
      (closestLoop (fun _ => true) machine.topology variant mask
        (List.range (machine.topology.maxNode + 1)) Vec.initializer
          fun _ => Vec.initializer).mapError .status := by
    simp only [numanodeInit, unsupported, Bool.not_false, if_true, isMask, setClosestNumanode,
      granted.cpuMask, granted.nodeArr, granted.vec, Bool.not_true, Bool.false_eq_true, if_false]
  obtain ⟨fails, succeeds⟩ := closestLoop_eq machine.topology variant mask
    (List.range (machine.topology.maxNode + 1)) Vec.initializer fun _ => Vec.initializer
  constructor
  · intro decided
    obtain ⟨numanode, looped, lists⟩ := succeeds decided
    refine ⟨numanode, ?_, lists⟩
    rw [init, looped]
    rfl
  · intro undecided
    simp only [not_forall, not_not] at undecided
    obtain ⟨node, listed, isUndecided⟩ := undecided
    refine ⟨.status .errorRuntime, ?_⟩
    rw [init, fails ⟨node, listed, isUndecided⟩]
    rfl

/-- A search that cannot begin fails for every variant. -/
theorem HbwMachine.finds_nothing {err : NodeSearchError}
    (failed : machine.numanodeInit variant = .error err) (lists : Nat → List Nat) :
    machine.Finds variant False lists :=
  ⟨False.elim, fun _ => ⟨err, failed⟩⟩

/-- How the variants of a search relate. -/
structure VariantsAgree (succeeds : NodeVariant → Prop) (lists : NodeVariant → Nat → List Nat) :
    Prop where
  single : succeeds .single → succeeds .multiple
  same : ∀ cpu, lists .single cpu = lists .multiple cpu
  all : succeeds .multiple ↔ succeeds .all
  subset : ∀ cpu, lists .multiple cpu ⊆ lists .all cpu

theorem BandwidthTopology.variantsAgree (topology : BandwidthTopology) (threshold : Nat) :
    VariantsAgree
      (fun variant => ∀ initNode ∈ topology.initiators,
        topology.Served variant threshold initNode)
      fun variant cpu => topology.initiators.flatMap (topology.given variant threshold cpu) where
  single served initNode member := ⟨(served initNode member).1, fun both => nomatch both.1⟩
  same _ := rfl
  all := by
    refine forall_congr' fun initNode => forall_congr' fun _ => ?_
    unfold Served chosen
    rw [ne_eq, ne_eq, closer_eq_nil_iff, closer_eq_nil_iff]
    exact and_congr_right fun _ =>
      iff_of_true (fun both => nomatch both.1) fun both => nomatch both.1
  subset cpu dest member := by
    obtain ⟨initNode, listed, given⟩ := List.mem_flatMap.mp member
    refine List.mem_flatMap.mpr ⟨initNode, listed, ?_⟩
    unfold BandwidthTopology.given at given ⊢
    split at given
    · rename_i own
      rw [if_pos own]
      exact closer_subset .multiple _ _ _ given
    · cases given

theorem NumaTopology.variantsAgree (topology : NumaTopology) (mask : Finset Nat) :
    VariantsAgree
      (fun variant => ∀ node ∈ List.range (topology.maxNode + 1),
        ¬Undecided topology variant mask node)
      fun variant cpu =>
        (List.range (topology.maxNode + 1)).flatMap (topology.given variant mask cpu) where
  single _ _ _ := fun undecided => nomatch undecided.1
  same _ := rfl
  all := iff_of_true (fun _ _ undecided => nomatch undecided.1)
    fun _ _ undecided => nomatch undecided.1
  subset cpu dest member := by
    obtain ⟨node, listed, given⟩ := List.mem_flatMap.mp member
    refine List.mem_flatMap.mpr ⟨node, listed, ?_⟩
    unfold NumaTopology.given at given ⊢
    split at given
    · rename_i own
      rw [if_pos own]
      rw [topology.chosen_eq_closer] at given ⊢
      exact closer_subset .multiple _ _ _ given
    · cases given

theorem HbwMachine.Finds.getMbindNodemask {succeeds : Prop}
    (finds : machine.Finds variant succeeds lists) (holds : succeeds) (maxnode cpu : Nat) :
    ∃ mask, machine.getMbindNodemask variant maxnode cpu = .ok mask ∧
      ∀ node, node ∈ mask ↔ node < maxnode ∧ node ∈ lists cpu := by
  obtain ⟨numanode, found, items⟩ := finds.ok holds
  refine ⟨setBitmaskForCurrentNumanode maxnode cpu numanode, ?_, fun node => ?_⟩
  · rw [HbwMachine.getMbindNodemask, found]
    rfl
  · rw [mem_setBitmaskForCurrentNumanode, items]

theorem HbwMachine.Finds.succeeds_of_ok {succeeds : Prop}
    (finds : machine.Finds variant succeeds lists) {maxnode : Nat}
    (called : machine.getMbindNodemask variant maxnode cpu = .ok mask) : succeeds := by
  by_contra fails
  obtain ⟨err, failed⟩ := finds.error fails
  rw [HbwMachine.getMbindNodemask, failed] at called
  cases called

/-- On every machine there are lists for the three variants, and they agree. -/
theorem HbwMachine.Granted.variants (granted : machine.Granted) :
    ∃ succeeds lists, (∀ variant, machine.Finds variant (succeeds variant) (lists variant)) ∧
      VariantsAgree succeeds lists := by
  have nothing : VariantsAgree (fun _ => False) fun _ _ => [] :=
    ⟨id, fun _ => rfl, Iff.rfl, fun _ => List.Subset.refl _⟩
  cases supported : machine.isHmatSupported with
  | true =>
      cases read : Memkind.hbwThreshold machine.hbwThreshold with
      | none =>
          refine ⟨_, _, fun variant => ?_, nothing⟩
          have failed : machine.numanodeInit variant = .error (.status .errorEnviron) := by
            rw [numanodeInit, supported, granted.hwloc]
            simp only [Bool.not_true, Bool.false_eq_true, if_false]
            rw [setClosestNumanodeMemAttr, read]
          exact HbwMachine.finds_nothing failed _
      | some threshold =>
          exact ⟨_, _, granted.finds_bandwidth supported read,
            machine.bandwidth.variantsAgree threshold⟩
  | false =>
      cases isMask : machine.getNodemask with
      | error err =>
          refine ⟨_, _, fun variant => ?_, nothing⟩
          have failed : machine.numanodeInit variant = .error err := by
            rw [numanodeInit, supported, isMask]
            rfl
          exact HbwMachine.finds_nothing failed _
      | ok mask =>
          exact ⟨_, _, granted.finds_libnuma supported isMask,
            machine.topology.variantsAgree mask⟩

/-- On every machine with memory for the search: when `MEMKIND_HBW_PREFERRED` has a node on a CPU,
`MEMKIND_HBW` has the same node, and `MEMKIND_HBW` is available exactly when `MEMKIND_HBW_ALL` is,
which has all of its nodes. -/
theorem hbwVariants_agree (machine : HbwMachine) (granted : machine.Granted) (maxnode cpu : Nat) :
    (∀ mask, machine.getMbindNodemask .single maxnode cpu = .ok mask →
      machine.getMbindNodemask .multiple maxnode cpu = .ok mask) ∧
    (∀ mask, machine.getMbindNodemask .multiple maxnode cpu = .ok mask →
      ∃ full, machine.getMbindNodemask .all maxnode cpu = .ok full ∧ mask ⊆ full) ∧
    ∀ full, machine.getMbindNodemask .all maxnode cpu = .ok full →
      ∃ mask, machine.getMbindNodemask .multiple maxnode cpu = .ok mask := by
  obtain ⟨succeeds, lists, finds, agree⟩ := granted.variants
  refine ⟨fun mask called => ?_, fun mask called => ?_, fun full called => ?_⟩
  · have holds := (finds .single).succeeds_of_ok called
    obtain ⟨single, singleCalled, inSingle⟩ := (finds .single).getMbindNodemask holds maxnode cpu
    obtain ⟨multiple, multipleCalled, inMultiple⟩ :=
      (finds .multiple).getMbindNodemask (agree.single holds) maxnode cpu
    obtain rfl : single = mask := Except.ok.inj (singleCalled.symm.trans called)
    obtain rfl : multiple = single := by
      ext node
      rw [inSingle, inMultiple, agree.same]
    exact multipleCalled
  · have holds := (finds .multiple).succeeds_of_ok called
    obtain ⟨multiple, multipleCalled, inMultiple⟩ :=
      (finds .multiple).getMbindNodemask holds maxnode cpu
    obtain ⟨full, fullCalled, inFull⟩ :=
      (finds .all).getMbindNodemask (agree.all.mp holds) maxnode cpu
    obtain rfl : multiple = mask := Except.ok.inj (multipleCalled.symm.trans called)
    refine ⟨full, fullCalled, fun node member => ?_⟩
    obtain ⟨below, listed⟩ := (inMultiple node).mp member
    exact (inFull node).mpr ⟨below, agree.subset cpu listed⟩
  · have holds := agree.all.mpr ((finds .all).succeeds_of_ok called)
    obtain ⟨mask, multipleCalled, -⟩ := (finds .multiple).getMbindNodemask holds maxnode cpu
    exact ⟨mask, multipleCalled⟩

/-- A machine of two nodes, the second of which has no CPUs and a high bandwidth. -/
def flatMachine : HbwMachine where
  hbwNodes := none
  hbwThreshold := none
  eax := 0
  topology := {
    maxNode := 1
    configuredCpus := 2
    nodeToCpus := fun node => if node = 0 then some {0, 1} else some ∅
    distance := fun _ _ => 10
    oneNode := by
      intro cpu first second firstCpus secondCpus isFirst isSecond inFirst inSecond
      have isZero : ∀ (node : Nat) (cpus : Finset Nat),
          (if node = 0 then some {0, 1} else some ∅) = some cpus → cpu ∈ cpus → node = 0 := by
        intro node cpus isNode member
        by_contra other
        rw [if_neg other] at isNode
        exact Finset.notMem_empty cpu (Option.some.inj isNode ▸ member)
      rw [isZero first firstCpus isFirst inFirst, isZero second secondCpus isSecond inSecond]
    distanceInt := fun _ _ => by decide }
  legacy := ⟨2, true, true, fun _ => ∅⟩
  numa := ⟨.ok ∅, true, true, fun _ => true⟩
  bandwidth := {
    configuredCpus := 2
    nodes := [⟨0, {0, 1}⟩, ⟨1, ∅⟩]
    bandwidth := fun _ target => some (if target.osIndex = 1 then 400000 else 100000)
    distance := fun first second => if first = second then 10 else 31
    cpusConfigured := by
      decide
    distanceInt := fun first second => by
      split <;> decide }
  hwloc := .granted

theorem flatMachine_granted : flatMachine.Granted := ⟨rfl, rfl, rfl, rfl⟩

theorem hbwNumanodeInit_allows_flatMachine :
    ∃ numanode, flatMachine.numanodeInit .multiple = .ok numanode ∧
      (∃ dest, dest ∈ (numanode 0).items) ∧
      ∀ dest ∈ (numanode 0).items, flatMachine.Allows .multiple 0 dest := by
  have listed : (match flatMachine.numanodeInit .multiple with
      | .ok numanode => decide (1 ∈ (numanode 0).items)
      | .error _ => false) = true := by decide +kernel
  cases found : flatMachine.numanodeInit .multiple with
  | error err =>
      rw [found] at listed
      cases listed
  | ok numanode =>
      rw [found] at listed
      exact ⟨numanode, rfl, ⟨1, of_decide_eq_true listed⟩,
        hbwNumanodeInit_allows flatMachine .multiple numanode found 0⟩

theorem hbwVariants_agree_flatMachine :
    flatMachine.getMbindNodemask .single 2 0 = .ok {1} ∧
      flatMachine.getMbindNodemask .multiple 2 0 = .ok {1} := by
  have single : flatMachine.getMbindNodemask .single 2 0 = .ok {1} := by decide +kernel
  exact ⟨single, (hbwVariants_agree flatMachine flatMachine_granted 2 0).1 _ single⟩

end Memkind
