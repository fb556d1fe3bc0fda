/-
This file shows that `set_closest_numanode` gives every CPU the destination nodes that are closest
to it.
-/

import Memkind.Construction.Bitmask
import Memkind.Library.Minimizers

namespace Memkind

open Library

section Vectors

variable {Element : Type} (vec : Vec Element)

@[simp] theorem Vec.clear_items : vec.clear.items = [] := rfl

@[simp] theorem Vec.pushBack_items (element : Element) :
    (vec.pushBack (fun _ => true) element).items = vec.items ++ [element] := by
  unfold pushBack reserve
  split
  · rfl
  · rfl

theorem Vec.foldl_pushBack_items (elements : List Element) :
    (elements.foldl (fun vec element => vec.pushBack (fun _ => true) element) vec).items =
      vec.items ++ elements := by
  induction elements generalizing vec with
  | nil => rw [List.foldl_nil, List.append_nil]
  | cons element rest ih =>
      rw [List.foldl_cons, ih, pushBack_items, List.append_assoc]
      rfl

end Vectors

section Nodes

variable (topology : NumaTopology) (variant : NodeVariant) (destNodes : Finset Nat)

/-- The destination nodes in ascending order. -/
def NumaTopology.destinations : List Nat :=
  (List.range (topology.maxNode + 1)).filter fun node => node ∈ destNodes

/-- The nodes for the CPUs of a node. -/
def NumaTopology.chosen (node : Nat) : List Nat :=
  if variant = .all then topology.destinations destNodes
  else minimizers (topology.distance node) (topology.destinations destNodes)

theorem NumaTopology.mem_destinations {node : Nat} :
    node ∈ topology.destinations destNodes ↔ node ≤ topology.maxNode ∧ node ∈ destNodes := by
  rw [destinations, List.mem_filter, List.mem_range, decide_eq_true_iff, Nat.lt_succ_iff]

theorem NumaTopology.destinations_ascending :
    (topology.destinations destNodes).Pairwise (· < ·) :=
  List.pairwise_lt_range.filter _

theorem NumaTopology.chosen_ascending (node : Nat) :
    (topology.chosen variant destNodes node).Pairwise (· < ·) := by
  unfold chosen
  split
  · exact topology.destinations_ascending destNodes
  · exact (topology.destinations_ascending destNodes).filter _

/-- On the destination nodes the body of the loop is a step of a running minimum. -/
theorem closestStep_items (several : variant ≠ .all) (initNode : Nat) (state : Nat × Vec Nat)
    (destNode : Nat) (member : destNode ∈ destNodes) :
    ((closestStep (fun _ => true) topology variant destNodes initNode state destNode).1,
        (closestStep (fun _ => true) topology variant destNodes initNode state destNode).2.items) =
      runningStep (topology.distance initNode) (state.1, state.2.items) destNode := by
  unfold closestStep runningStep
  rw [if_pos member, if_neg several]
  dsimp only
  split
  · simp
  · split
    · simp
    · rfl

theorem closestStep_outside (initNode : Nat) (state : Nat × Vec Nat) {destNode : Nat}
    (outside : destNode ∉ destNodes) :
    closestStep (fun _ => true) topology variant destNodes initNode state destNode = state :=
  if_neg outside

/-- The loop over the nodes only looks at the destination nodes. -/
theorem foldl_closestStep_filter (initNode : Nat) (nodes : List Nat) (state : Nat × Vec Nat) :
    nodes.foldl (closestStep (fun _ => true) topology variant destNodes initNode) state =
      (nodes.filter fun node => node ∈ destNodes).foldl
        (closestStep (fun _ => true) topology variant destNodes initNode) state := by
  rw [List.foldl_filter]
  congr 1
  funext state node
  by_cases member : node ∈ destNodes
  · rw [if_pos (decide_eq_true member)]
  · rw [if_neg (by simpa using member), closestStep_outside topology variant destNodes _ _ member]

theorem foldl_closestStep_running (several : variant ≠ .all) (initNode : Nat) {nodes : List Nat}
    (inside : ∀ node ∈ nodes, node ∈ destNodes) (state : Nat × Vec Nat) :
    (nodes.foldl (closestStep (fun _ => true) topology variant destNodes initNode) state).2.items =
      (nodes.foldl (runningStep (topology.distance initNode)) (state.1, state.2.items)).2 := by
  induction nodes generalizing state with
  | nil => rfl
  | cons node rest ih =>
      obtain ⟨member, others⟩ := List.forall_mem_cons.mp inside
      rw [List.foldl_cons, List.foldl_cons, ih others,
        ← closestStep_items topology variant destNodes several initNode state node member]

theorem foldl_closestStep_all (initNode : Nat) {nodes : List Nat}
    (inside : ∀ node ∈ nodes, node ∈ destNodes) (state : Nat × Vec Nat) :
    (nodes.foldl (closestStep (fun _ => true) topology .all destNodes initNode) state).2.items =
      state.2.items ++ nodes := by
  induction nodes generalizing state with
  | nil => rw [List.foldl_nil, List.append_nil]
  | cons node rest ih =>
      obtain ⟨member, others⟩ := List.forall_mem_cons.mp inside
      rw [List.foldl_cons, ih others, closestStep, if_pos member, if_pos rfl,
        Vec.pushBack_items, List.append_assoc]
      rfl

/-- The loop over the destination nodes chooses the closest ones, whatever the vector held. -/
theorem closestNodes_items (initNode : Nat) (current : Vec Nat) :
    (closestNodes (fun _ => true) topology variant destNodes initNode current).items =
      topology.chosen variant destNodes initNode := by
  have inside : ∀ node ∈ topology.destinations destNodes, node ∈ destNodes := by
    intro node member
    exact ((topology.mem_destinations destNodes).mp member).2
  rw [closestNodes, foldl_closestStep_filter, ← NumaTopology.destinations]
  unfold NumaTopology.chosen
  split
  · rename_i all
    rw [all, foldl_closestStep_all topology destNodes initNode inside, Vec.clear_items,
      List.nil_append]
  · rename_i several
    rw [foldl_closestStep_running topology variant destNodes several initNode inside]
    exact foldl_runningStep _ fun node _ => topology.distanceInt initNode node

end Nodes

section Cpus

theorem fillCpu_items (cpus : Finset Nat) (current : Vec Nat) (arr : NodeArr) (last cpu : Nat) :
    (fillCpu (fun _ => true) cpus current arr last cpu).items =
      if cpu = last ∧ cpu ∈ cpus then (arr cpu).items ++ current.items else (arr cpu).items := by
  unfold fillCpu
  by_cases same : cpu = last
  · subst same
    by_cases member : cpu ∈ cpus
    · rw [if_pos member, if_pos ⟨rfl, member⟩, Function.update_self, Vec.foldl_pushBack_items]
    · rw [if_neg member, if_neg fun both => member both.2]
  · have other : ¬(cpu = last ∧ cpu ∈ cpus) := fun both => same both.1
    rw [if_neg other]
    split
    · rw [Function.update_of_ne same]
    · rfl

/-- The nodes are appended to the lists of the CPUs in the mask. -/
theorem fillCpus_items (cpus : Finset Nat) (current : Vec Nat) (arr : NodeArr)
    (configuredCpus cpu : Nat) :
    (fillCpus (fun _ => true) configuredCpus cpus current arr cpu).items =
      if cpu < configuredCpus ∧ cpu ∈ cpus then (arr cpu).items ++ current.items
      else (arr cpu).items := by
  unfold fillCpus
  induction configuredCpus with
  | zero => simp
  | succ configuredCpus ih =>
      rw [List.range_succ, List.foldl_append, List.foldl_cons, List.foldl_nil, fillCpu_items,
        ih]
      by_cases same : cpu = configuredCpus
      · simp [same]
      · have bound : cpu < configuredCpus + 1 ↔ cpu < configuredCpus := by omega
        simp only [same, bound, false_and, if_false]

end Cpus

section Initiators

variable (topology : NumaTopology) (variant : NodeVariant) (destNodes : Finset Nat)

/-- The CPUs of a node. A missing node has none. -/
def NumaTopology.cpusOf (node : Nat) : Finset Nat := (topology.nodeToCpus node).getD ∅

theorem NumaTopology.cpusOf_unique {topology : NumaTopology} {cpu first second : Nat}
    (inFirst : cpu ∈ topology.cpusOf first) (inSecond : cpu ∈ topology.cpusOf second) :
    first = second := by
  unfold cpusOf at inFirst inSecond
  cases firstAnswer : topology.nodeToCpus first with
  | none =>
      rw [firstAnswer] at inFirst
      exact absurd inFirst (Finset.notMem_empty cpu)
  | some firstCpus =>
      cases secondAnswer : topology.nodeToCpus second with
      | none =>
          rw [secondAnswer] at inSecond
          exact absurd inSecond (Finset.notMem_empty cpu)
      | some secondCpus =>
          rw [firstAnswer] at inFirst
          rw [secondAnswer] at inSecond
          exact topology.oneNode cpu first second firstCpus secondCpus firstAnswer secondAnswer
            inFirst inSecond

/-- A node with CPUs for which `NODE_VARIANT_SINGLE` cannot choose. -/
def Undecided (node : Nat) : Prop :=
  variant = .single ∧ topology.cpusOf node ≠ ∅ ∧ 1 < (topology.chosen variant destNodes node).length

/-- What a node adds to the list of a CPU. -/
def NumaTopology.given (cpu node : Nat) : List Nat :=
  if cpu < topology.configuredCpus ∧ cpu ∈ topology.cpusOf node then
    topology.chosen variant destNodes node
  else []

/-- One iteration of the loop over the initiators. -/
theorem closestLoop_cons (node : Nat) (rest : List Nat) (current : Vec Nat) (arr : NodeArr) :
    ∃ next filled,
      (∀ cpu, (filled cpu).items =
        (arr cpu).items ++ topology.given variant destNodes cpu node) ∧
      (Undecided topology variant destNodes node →
        closestLoop (fun _ => true) topology variant destNodes (node :: rest) current arr =
          .error .errorRuntime) ∧
      (¬Undecided topology variant destNodes node →
        closestLoop (fun _ => true) topology variant destNodes (node :: rest) current arr =
          closestLoop (fun _ => true) topology variant destNodes rest next filled) := by
  by_cases empty : topology.cpusOf node = ∅
  · refine ⟨current, arr, ?_, fun undecided => absurd empty undecided.2.1, fun _ => ?_⟩
    · intro cpu
      rw [NumaTopology.given, empty, if_neg (by simp), List.append_nil]
    · rw [NumaTopology.cpusOf] at empty
      rw [closestLoop]
      split
      · rfl
      · rename_i cpus found
        rw [found, Option.getD_some] at empty
        rw [empty, Finset.card_empty, if_pos rfl]
  · have found : topology.nodeToCpus node = some (topology.cpusOf node) := by
      unfold NumaTopology.cpusOf at empty ⊢
      cases answer : topology.nodeToCpus node with
      | none => exact absurd (by rw [answer]; rfl) empty
      | some cpus => rfl
    have nonzero : (topology.cpusOf node).card ≠ 0 :=
      fun zero => empty (Finset.card_eq_zero.mp zero)
    have chosen := closestNodes_items topology variant destNodes node current
    have size : (closestNodes (fun _ => true) topology variant destNodes node current).size =
        (topology.chosen variant destNodes node).length := congrArg List.length chosen
    refine ⟨closestNodes (fun _ => true) topology variant destNodes node current,
      fillCpus (fun _ => true) topology.configuredCpus (topology.cpusOf node)
        (closestNodes (fun _ => true) topology variant destNodes node current) arr, ?_, ?_, ?_⟩
    · intro cpu
      rw [fillCpus_items, chosen, NumaTopology.given]
      split
      · rfl
      · rw [List.append_nil]
    · rintro ⟨single, -, several⟩
      rw [closestLoop, found]
      dsimp only
      rw [if_neg nonzero, size, if_pos ⟨single, several⟩]
    · intro decided
      rw [closestLoop, found]
      dsimp only
      rw [if_neg nonzero, size, if_neg fun both => decided ⟨both.1, empty, both.2⟩]

/-- The loop over the initiators fails at the first undecided node, and otherwise gives every CPU
what the nodes add to its list. -/
theorem closestLoop_eq (nodes : List Nat) (current : Vec Nat) (arr : NodeArr) :
    ((∃ node ∈ nodes, Undecided topology variant destNodes node) →
      closestLoop (fun _ => true) topology variant destNodes nodes current arr =
        .error .errorRuntime) ∧
    ((∀ node ∈ nodes, ¬Undecided topology variant destNodes node) →
      ∃ final, closestLoop (fun _ => true) topology variant destNodes nodes current arr =
          .ok final ∧
        ∀ cpu, (final cpu).items =
          (arr cpu).items ++ nodes.flatMap (topology.given variant destNodes cpu)) := by
  induction nodes generalizing current arr with
  | nil =>
      refine ⟨fun none => absurd none (by simp), fun _ => ⟨arr, rfl, fun cpu => ?_⟩⟩
      rw [List.flatMap_nil, List.append_nil]
  | cons node rest ih =>
      obtain ⟨next, filled, items, undecided, decided⟩ :=
        closestLoop_cons topology variant destNodes node rest current arr
      obtain ⟨fails, succeeds⟩ := ih next filled
      by_cases first : Undecided topology variant destNodes node
      · refine ⟨fun _ => undecided first, fun none => ?_⟩
        exact absurd first (none node List.mem_cons_self)
      · rw [decided first]
        constructor
        · rintro ⟨other, member, later⟩
          obtain rfl | inside := List.mem_cons.mp member
          · exact absurd later first
          · exact fails ⟨other, inside, later⟩
        · intro none
          obtain ⟨final, looped, lists⟩ :=
            succeeds fun other member => none other (List.mem_cons_of_mem _ member)
          refine ⟨final, looped, fun cpu => ?_⟩
          rw [lists, items, List.flatMap_cons, List.append_assoc]

/-- A CPU of a node is given what this node adds, because no other node has it. -/
theorem flatMap_given {nodes : List Nat} (distinct : nodes.Nodup) {cpu node : Nat}
    (listed : node ∈ nodes) (member : cpu ∈ topology.cpusOf node) :
    nodes.flatMap (topology.given variant destNodes cpu) =
      topology.given variant destNodes cpu node := by
  have others : ∀ other, other ≠ node → topology.given variant destNodes cpu other = [] := by
    intro other different
    apply if_neg
    rintro ⟨-, inside⟩
    exact different (NumaTopology.cpusOf_unique inside member)
  induction nodes with
  | nil => exact absurd listed List.not_mem_nil
  | cons first rest ih =>
      obtain ⟨fresh, distinct⟩ := List.nodup_cons.mp distinct
      rw [List.flatMap_cons]
      by_cases same : first = node
      · have none : rest.flatMap (topology.given variant destNodes cpu) = [] := by
          apply List.flatMap_eq_nil_iff.mpr
          intro other inside
          apply others
          intro equal
          rw [same, ← equal] at fresh
          exact fresh inside
        rw [none, List.append_nil, same]
      · have later : node ∈ rest := by
          obtain equal | inside := List.mem_cons.mp listed
          · exact absurd equal.symm same
          · exact inside
        rw [others first same, List.nil_append, ih distinct later]

end Initiators

section Selection

variable (topology : NumaTopology) (variant : NodeVariant) (destNodes : Finset Nat)

/-- A destination node at minimal distance from a node. -/
def NumaTopology.Closest (node dest : Nat) : Prop :=
  dest ≤ topology.maxNode ∧ dest ∈ destNodes ∧
    ∀ other ≤ topology.maxNode, other ∈ destNodes →
      topology.distance node dest ≤ topology.distance node other

/-- Some node with CPUs has more than one destination node at minimal distance. -/
def NumaTopology.Ambiguous : Prop :=
  ∃ node ≤ topology.maxNode, topology.cpusOf node ≠ ∅ ∧
    ∃ first second, first ≠ second ∧
      topology.Closest destNodes node first ∧ topology.Closest destNodes node second

/-- What the array of `set_closest_numanode` holds. -/
structure ClosestLists (numanode : NodeArr) : Prop where
  ascending : ∀ cpu, (numanode cpu).items.Pairwise (· < ·)
  all : variant = .all → ∀ node ≤ topology.maxNode, ∀ cpu ∈ topology.cpusOf node,
    cpu < topology.configuredCpus →
    ∀ dest, dest ∈ (numanode cpu).items ↔ dest ≤ topology.maxNode ∧ dest ∈ destNodes
  closest : variant ≠ .all → ∀ node ≤ topology.maxNode, ∀ cpu ∈ topology.cpusOf node,
    cpu < topology.configuredCpus →
    ∀ dest, dest ∈ (numanode cpu).items ↔ topology.Closest destNodes node dest
  stray : ∀ cpu, (∀ node ≤ topology.maxNode, cpu ∉ topology.cpusOf node) →
    (numanode cpu).items = []

theorem NumaTopology.mem_chosen_all (node dest : Nat) :
    dest ∈ topology.chosen .all destNodes node ↔ dest ≤ topology.maxNode ∧ dest ∈ destNodes :=
  topology.mem_destinations destNodes

theorem NumaTopology.mem_chosen (several : variant ≠ .all) (node dest : Nat) :
    dest ∈ topology.chosen variant destNodes node ↔ topology.Closest destNodes node dest := by
  unfold chosen
  rw [if_neg several, minimizers, List.mem_filter, decide_eq_true_iff, mem_destinations, and_assoc]
  refine and_congr_right fun _ => and_congr_right fun _ => ?_
  constructor
  · intro least other bound member
    exact least other ((topology.mem_destinations destNodes).mpr ⟨bound, member⟩)
  · intro least other listed
    obtain ⟨bound, member⟩ := (topology.mem_destinations destNodes).mp listed
    exact least other bound member

theorem one_lt_length_iff {items : List Nat} (ascending : items.Pairwise (· < ·)) :
    1 < items.length ↔ ∃ first second, first ≠ second ∧ first ∈ items ∧ second ∈ items := by
  have distinct : items.Nodup := ascending.imp Nat.ne_of_lt
  rw [← List.toFinset_card_of_nodup distinct, Finset.one_lt_card]
  constructor
  · rintro ⟨first, firstMember, second, secondMember, different⟩
    exact ⟨first, second, different, List.mem_toFinset.mp firstMember,
      List.mem_toFinset.mp secondMember⟩
  · rintro ⟨first, second, different, firstMember, secondMember⟩
    exact ⟨first, List.mem_toFinset.mpr firstMember, second, List.mem_toFinset.mpr secondMember,
      different⟩

theorem undecided_iff (node : Nat) :
    Undecided topology variant destNodes node ↔
      variant = .single ∧ topology.cpusOf node ≠ ∅ ∧ ∃ first second, first ≠ second ∧
        topology.Closest destNodes node first ∧ topology.Closest destNodes node second := by
  unfold Undecided
  apply and_congr_right
  intro single
  have several : variant ≠ .all := by
    intro all
    rw [single] at all
    cases all
  rw [one_lt_length_iff (topology.chosen_ascending variant destNodes node)]
  simp only [topology.mem_chosen variant destNodes several]

theorem exists_undecided_iff :
    (∃ node ∈ List.range (topology.maxNode + 1), Undecided topology variant destNodes node) ↔
      variant = .single ∧ topology.Ambiguous destNodes := by
  constructor
  · rintro ⟨node, listed, undecided⟩
    obtain ⟨single, cpus, tie⟩ := (undecided_iff topology variant destNodes node).mp undecided
    exact ⟨single, node, Nat.le_of_lt_succ (List.mem_range.mp listed), cpus, tie⟩
  · rintro ⟨single, node, bound, cpus, tie⟩
    exact ⟨node, List.mem_range.mpr (Nat.lt_succ_of_le bound),
      (undecided_iff topology variant destNodes node).mpr ⟨single, cpus, tie⟩⟩

/-- The lists that the nodes give to the CPUs are the ones wanted. -/
theorem closestLists_of_given {numanode : NodeArr}
    (lists : ∀ cpu, (numanode cpu).items =
      (List.range (topology.maxNode + 1)).flatMap (topology.given variant destNodes cpu)) :
    ClosestLists topology variant destNodes numanode := by
  have owned : ∀ node ≤ topology.maxNode, ∀ cpu ∈ topology.cpusOf node,
      cpu < topology.configuredCpus →
      (numanode cpu).items = topology.chosen variant destNodes node := by
    intro node bound cpu member configured
    rw [lists, flatMap_given topology variant destNodes List.nodup_range
      (List.mem_range.mpr (Nat.lt_succ_of_le bound)) member]
    exact if_pos ⟨configured, member⟩
  have stray : ∀ cpu, (∀ node ≤ topology.maxNode,
      topology.given variant destNodes cpu node = []) → (numanode cpu).items = [] := by
    intro cpu none
    rw [lists]
    apply List.flatMap_eq_nil_iff.mpr
    intro node listed
    exact none node (Nat.le_of_lt_succ (List.mem_range.mp listed))
  constructor
  · intro cpu
    by_cases owner : ∃ node ≤ topology.maxNode,
        cpu < topology.configuredCpus ∧ cpu ∈ topology.cpusOf node
    · obtain ⟨node, bound, configured, member⟩ := owner
      rw [owned node bound cpu member configured]
      exact topology.chosen_ascending variant destNodes node
    · rw [stray cpu fun node bound => if_neg fun both => owner ⟨node, bound, both⟩]
      exact List.Pairwise.nil
  · intro all node bound cpu member configured dest
    rw [owned node bound cpu member configured, all]
    exact topology.mem_chosen_all destNodes node dest
  · intro several node bound cpu member configured dest
    rw [owned node bound cpu member configured]
    exact topology.mem_chosen variant destNodes several node dest
  · intro cpu none
    exact stray cpu fun node bound => if_neg fun both => none node bound both.2

theorem mem_setBitmaskForCurrentNumanode (maxnode cpu node : Nat) (numanode : NodeArr) :
    node ∈ setBitmaskForCurrentNumanode maxnode cpu numanode ↔
      node < maxnode ∧ node ∈ (numanode cpu).items := by
  have fold : ∀ (items : List Nat) (mask : Finset Nat),
      node ∈ items.foldl (fun mask item => if item < maxnode then insert item mask else mask)
        mask ↔ node ∈ mask ∨ node < maxnode ∧ node ∈ items := by
    intro items
    induction items with
    | nil => simp
    | cons item rest ih =>
        intro mask
        rw [List.foldl_cons, ih, List.mem_cons]
        split
        · grind
        · grind
  rw [setBitmaskForCurrentNumanode, fold]
  simp

/-- `set_closest_numanode` gives every CPU the closest destination nodes, and it fails exactly when
one node is asked for and two are equally close. -/
theorem setClosestNumanode_closest :
    (setClosestNumanode topology (.granted destNodes) variant = .error .errorRuntime ↔
      variant = .single ∧ topology.Ambiguous destNodes) ∧
    (¬(variant = .single ∧ topology.Ambiguous destNodes) →
      ∃ numanode, setClosestNumanode topology (.granted destNodes) variant = .ok numanode ∧
        ClosestLists topology variant destNodes numanode) := by
  obtain ⟨fails, succeeds⟩ := closestLoop_eq topology variant destNodes
    (List.range (topology.maxNode + 1)) Vec.initializer (fun _ => Vec.initializer)
  have filled : ¬(variant = .single ∧ topology.Ambiguous destNodes) →
      ∃ numanode, setClosestNumanode topology (.granted destNodes) variant = .ok numanode ∧
        ClosestLists topology variant destNodes numanode := by
    intro clear
    rw [← exists_undecided_iff] at clear
    obtain ⟨numanode, looped, lists⟩ :=
      succeeds fun node listed undecided => clear ⟨node, listed, undecided⟩
    exact ⟨numanode, looped, closestLists_of_given topology variant destNodes lists⟩
  refine ⟨⟨?_, ?_⟩, filled⟩
  · intro failed
    by_contra clear
    obtain ⟨numanode, answered, -⟩ := filled clear
    rw [failed] at answered
    cases answered
  · intro tied
    exact fails ((exists_undecided_iff topology variant destNodes).mpr tied)

end Selection

end Memkind
