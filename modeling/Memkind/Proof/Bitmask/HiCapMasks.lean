/-
This file determines when the bitmasks of the kinds of highest capacity are freed exactly once.
-/

import Memkind.Construction.HiCap
import Memkind.Library.Minimizers
import Mathlib.Algebra.Order.Group.Int

namespace Memkind

open Library

section Nodes

variable (machine : HiCapMachine)

/-- The node has the highest capacity among the nodes whose size is known. -/
structure HiCapMachine.Highest (node : Nat) : Prop where
  present : node ≤ machine.maxNode
  known : 0 ≤ machine.nodeSize node
  highest : ∀ other, other ≤ machine.maxNode → machine.nodeSize other ≤ machine.nodeSize node

/-- Some node has the highest capacity and, when only one node is asked for, no other one has. -/
def HiCapMachine.Determined (variant : NodeVariant) : Prop :=
  ∃ node, machine.Highest node ∧ (variant = .single → ∀ other, machine.Highest other → other = node)

/-- The loop of `memkind_hi_cap_find` is a pass for the least negated size. -/
theorem hiCapStep_eq (state : Int × List Nat) (node : Nat) :
    hiCapStep machine (-state.1, state.2.toFinset) node =
      let next := if machine.nodeSize node ≠ -1 then
        runningStep (fun node => -machine.nodeSize node) state node else state
      (-next.1, next.2.toFinset) := by
  unfold hiCapStep runningStep
  by_cases error : machine.nodeSize node = -1
  · simp [error]
  · rcases lt_trichotomy (-machine.nodeSize node) state.1 with higher | equal | lower
    · have above : -state.1 < machine.nodeSize node := by omega
      simp [error, higher, above]
    · have same : machine.nodeSize node = -state.1 := by omega
      have known : state.1 ≠ 1 := by omega
      simp [same, known]
    · have below : ¬-state.1 < machine.nodeSize node := by omega
      have different : machine.nodeSize node ≠ -state.1 := by omega
      have notLess : ¬-machine.nodeSize node < state.1 := by omega
      have notEqual : -machine.nodeSize node ≠ state.1 := by omega
      simp [error, below, different, notLess, notEqual]

theorem foldl_hiCapStep (nodes : List Nat) (state : Int × List Nat) :
    nodes.foldl (hiCapStep machine) (-state.1, state.2.toFinset) =
      let last := (nodes.filter fun node => machine.nodeSize node ≠ -1).foldl
        (runningStep fun node => -machine.nodeSize node) state
      (-last.1, last.2.toFinset) := by
  induction nodes generalizing state with
  | nil => rfl
  | cons first rest ih =>
      rw [List.foldl_cons, hiCapStep_eq, ih, List.filter_cons]
      by_cases error : machine.nodeSize first = -1
      · simp [error]
      · simp [error]

/-- The bitmask holds the nodes of highest capacity. -/
theorem mem_hiCapNodes {node : Nat} : node ∈ hiCapNodes machine ↔ machine.Highest node := by
  have running := (@RunningMinimum.start Nat Int _ (fun node => -machine.nodeSize node) 0).fold
    ((List.range (machine.maxNode + 1)).filter fun node => machine.nodeSize node ≠ -1)
  have bound := foldl_runningStep_le (fun node => -machine.nodeSize node) (0, [])
    ((List.range (machine.maxNode + 1)).filter fun node => machine.nodeSize node ≠ -1)
  have looped : hiCapNodes machine = _ :=
    congrArg Prod.snd (foldl_hiCapStep machine (List.range (machine.maxNode + 1)) (0, []))
  dsimp only at looped bound
  generalize List.foldl (runningStep fun node => -machine.nodeSize node) (0, [])
    ((List.range (machine.maxNode + 1)).filter fun node => machine.nodeSize node ≠ -1) = last
    at running looped bound
  have least := running.least
  have reached := running.reached
  have found := running.found
  simp only [List.nil_append, List.mem_filter, List.mem_range, decide_eq_true_iff] at least reached
  rw [looped, found]
  simp only [List.nil_append, List.mem_toFinset, List.mem_filter, List.mem_range,
    decide_eq_true_iff]
  constructor
  · intro ⟨⟨inside, known⟩, equal⟩
    refine ⟨by omega, by omega, fun other below => ?_⟩
    by_cases error : machine.nodeSize other = -1
    · omega
    · have cost := least other ⟨by omega, error⟩
      omega
  · intro ⟨inside, known, highest⟩
    refine ⟨⟨by omega, by omega⟩, ?_⟩
    have cost := least node ⟨by omega, by omega⟩
    obtain unchanged | ⟨other, ⟨below, -⟩, equal⟩ := reached
    · omega
    · have lower := highest other (by omega)
      omega

/-- The search leaves its failing exits aside exactly when the nodes are determined. -/
theorem HiCapMachine.determined_iff (variant : NodeVariant) :
    machine.Determined variant ↔
      (hiCapNodes machine).card ≠ 0 ∧ ¬(variant = .single ∧ 1 < (hiCapNodes machine).card) := by
  rw [Finset.card_ne_zero, not_and, not_lt, Determined]
  simp only [← mem_hiCapNodes]
  constructor
  · intro ⟨node, member, unique⟩
    refine ⟨⟨node, member⟩, fun single => ?_⟩
    apply Finset.card_le_one.mpr
    intro first firstMember second secondMember
    rw [unique single first firstMember, unique single second secondMember]
  · intro ⟨⟨node, member⟩, atMostOne⟩
    refine ⟨node, member, fun single other otherMember => ?_⟩
    exact Finset.card_le_one.mp (atMostOne single) other otherMember node member

end Nodes

section Ownership

/-- The bitmask that a variant points to. -/
def HiCapState.pointer (state : HiCapState) (variant : NodeVariant) : Option Nat :=
  (state.numanodes variant).numaNodes.map NumaBitmask.object

/-- What is known about the bitmasks while the kinds are used. A search that fails has freed its
bitmask once. -/
structure HiCapSound (machine : HiCapMachine) (state : HiCapState) : Prop where
  heap : state.bitmasks.Sound
  pointer : ∀ variant, (state.pointer variant).isSome ↔
    state.once variant = true ∧ machine.bitmaskAlloc variant = true
  known : ∀ variant object, state.pointer variant = some object →
    object < state.bitmasks.allocated
  determined : ∀ variant object, state.pointer variant = some object →
    (state.bitmasks.frees object = 0 ∧ machine.Determined variant ∨
      state.bitmasks.frees object = 1 ∧ ¬machine.Determined variant)
  separate : ∀ first second object, state.pointer first = some object →
    state.pointer second = some object → first = second
  owned : ∀ object, object < state.bitmasks.allocated →
    ∃ variant, variant ≠ .all ∧ state.pointer variant = some object

variable {machine : HiCapMachine} {state : HiCapState}

theorem HiCapState.initial_sound : HiCapSound machine .initial := by
  refine ⟨Allocations.sound_empty, ?_, ?_, ?_, ?_, ?_⟩
  · intro variant
    exact iff_of_false (by simp [pointer, initial]) (by simp [initial])
  · intro variant object absent
    cases absent
  · intro variant object absent
    cases absent
  · intro first second object absent
    cases absent
  · intro object below
    exact absurd below (Nat.not_lt_zero object)

/-- What the initialisation of a variant does. A search that allocates its bitmask frees it exactly
when it fails. -/
structure HiCapInitialised (machine : HiCapMachine) (variant : NodeVariant)
    (state next : HiCapState) : Prop where
  once : next.once = Function.update state.once variant true
  other : ∀ other, other ≠ variant → next.pointer other = state.pointer other
  search : (machine.bitmaskAlloc variant = false ∧ next.pointer variant = none ∧
      next.bitmasks = state.bitmasks) ∨
    (machine.bitmaskAlloc variant = true ∧
      next.pointer variant = some state.bitmasks.allocated ∧
      (next.bitmasks = state.bitmasks.alloc ∧ machine.Determined variant ∨
        next.bitmasks = state.bitmasks.alloc.free state.bitmasks.allocated ∧
          ¬machine.Determined variant))

theorem hiCapInit_done {variant : NodeVariant} (done : state.once variant = true) :
    hiCapInit machine variant state = state := by
  rw [hiCapInit, if_pos done]

theorem hiCapInit_initialised {variant : NodeVariant} (idle : state.once variant = false) :
    HiCapInitialised machine variant state (hiCapInit machine variant state) := by
  rw [hiCapInit, if_neg (by simp [idle])]
  refine ⟨rfl, ?_, ?_⟩
  · intro other different
    simp only [HiCapState.pointer, Function.update_of_ne different]
  · simp only [HiCapState.pointer, Function.update_self]
    have determined := machine.determined_iff variant
    unfold memkindHiCapFind
    cases granted : machine.bitmaskAlloc variant with
    | false => exact Or.inl ⟨rfl, rfl, rfl⟩
    | true =>
        refine Or.inr ⟨rfl, ?_⟩
        rw [if_neg (by simp)]
        by_cases empty : (hiCapNodes machine).card = 0
        · rw [if_pos empty]
          exact ⟨rfl, Or.inr ⟨rfl, fun holds => (determined.mp holds).1 empty⟩⟩
        · rw [if_neg empty]
          by_cases several : variant = .single ∧ 1 < (hiCapNodes machine).card
          · rw [if_pos several]
            exact ⟨rfl, Or.inr ⟨rfl, fun holds => (determined.mp holds).2 several⟩⟩
          · rw [if_neg several]
            exact ⟨rfl, Or.inl ⟨rfl, determined.mpr ⟨empty, several⟩⟩⟩

/-- A refused bitmask changes no pointer. -/
theorem HiCapSound.refused (sound : HiCapSound machine state) {next : HiCapState}
    {variant : NodeVariant} (initialised : HiCapInitialised machine variant state next)
    (idle : state.once variant = false) (refused : machine.bitmaskAlloc variant = false)
    (null : next.pointer variant = none) (same : next.bitmasks = state.bitmasks) :
    HiCapSound machine next := by
  have pointers : next.pointer = state.pointer := by
    funext other
    by_cases equal : other = variant
    · rw [equal, null, eq_comm, ← Option.not_isSome_iff_eq_none, sound.pointer]
      simp [idle]
    · exact initialised.other other equal
  refine ⟨?_, ?_, ?_, ?_, ?_, ?_⟩
  · rw [same]
    exact sound.heap
  · intro other
    rw [pointers, sound.pointer, initialised.once]
    by_cases equal : other = variant
    · simp [equal, refused]
    · rw [Function.update_of_ne equal]
  · rw [pointers, same]
    exact sound.known
  · rw [pointers, same]
    exact sound.determined
  · rw [pointers]
    exact sound.separate
  · rw [pointers, same]
    exact sound.owned

/-- A new bitmask belongs to its variant. -/
theorem HiCapSound.granted (sound : HiCapSound machine state) {next : HiCapState}
    {variant : NodeVariant} (used : variant ≠ .all)
    (initialised : HiCapInitialised machine variant state next)
    (idle : state.once variant = false) (granted : machine.bitmaskAlloc variant = true)
    (found : next.pointer variant = some state.bitmasks.allocated)
    (searched : next.bitmasks = state.bitmasks.alloc ∧ machine.Determined variant ∨
      next.bitmasks = state.bitmasks.alloc.free state.bitmasks.allocated ∧
        ¬machine.Determined variant) :
    HiCapSound machine next := by
  obtain ⟨heap, allocated, others, own⟩ := sound.heap.alloc_or_free searched
  have pointers : ∀ other object, next.pointer other = some object →
      other = variant ∧ object = state.bitmasks.allocated ∨
        other ≠ variant ∧ state.pointer other = some object ∧
          object ≠ state.bitmasks.allocated := by
    intro other object pointed
    by_cases equal : other = variant
    · rw [equal, found] at pointed
      exact Or.inl ⟨equal, (Option.some.inj pointed).symm⟩
    · rw [initialised.other other equal] at pointed
      exact Or.inr ⟨equal, pointed, (sound.known other object pointed).ne⟩
  refine ⟨heap, ?_, ?_, ?_, ?_, ?_⟩
  · intro other
    rw [initialised.once]
    by_cases equal : other = variant
    · simp [equal, found, granted]
    · rw [initialised.other other equal, sound.pointer, Function.update_of_ne equal]
  · intro other object pointed
    rw [allocated]
    obtain ⟨-, rfl⟩ | ⟨-, before, -⟩ := pointers other object pointed
    · exact Nat.lt_succ_self _
    · exact (sound.known other object before).trans (Nat.lt_succ_self _)
  · intro other object pointed
    obtain ⟨rfl, rfl⟩ | ⟨-, before, different⟩ := pointers other object pointed
    · exact own
    · rw [others object different]
      exact sound.determined other object before
  · intro first second object firstPointed secondPointed
    obtain ⟨rfl, rfl⟩ | ⟨-, firstBefore, firstOld⟩ := pointers first object firstPointed
    · obtain ⟨rfl, -⟩ | ⟨-, -, secondOld⟩ := pointers second _ secondPointed
      · rfl
      · exact absurd rfl secondOld
    · obtain ⟨-, rfl⟩ | ⟨-, secondBefore, -⟩ := pointers second object secondPointed
      · exact absurd rfl firstOld
      · exact sound.separate first second object firstBefore secondBefore
  · intro object below
    rw [allocated] at below
    obtain old | rfl := Nat.lt_succ_iff_lt_or_eq.mp below
    · obtain ⟨owner, owns, pointed⟩ := sound.owned object old
      refine ⟨owner, owns, ?_⟩
      rw [initialised.other owner ?_, pointed]
      intro equal
      have done := ((sound.pointer variant).mp (by rw [← equal, pointed, Option.isSome_some])).1
      rw [idle] at done
      cases done
    · exact ⟨variant, used, found⟩

/-- The initialisation of a variant keeps the invariant. -/
theorem HiCapSound.init (sound : HiCapSound machine state) {variant : NodeVariant}
    (used : variant ≠ .all) : HiCapSound machine (hiCapInit machine variant state) := by
  cases done : state.once variant with
  | true =>
      rw [hiCapInit_done done]
      exact sound
  | false =>
      have initialised := @hiCapInit_initialised machine state variant done
      obtain ⟨refused, null, same⟩ | ⟨granted, found, searched⟩ := initialised.search
      · exact sound.refused initialised done refused null same
      · exact sound.granted used initialised done granted found searched

end Ownership

section Runs

/-- The variant of a kind. -/
def HiCapKind.variant : HiCapKind → NodeVariant
  | .highestCapacity => .multiple
  | .highestCapacityPreferred => .single

theorem HiCapKind.variant_ne_all (kind : HiCapKind) : kind.variant ≠ .all := by
  cases kind
  · exact NodeVariant.noConfusion
  · exact NodeVariant.noConfusion

/-- The kind that a call uses. -/
def HiCapCall.kind : HiCapCall → HiCapKind
  | .getMbindNodemask kind _ => kind
  | .checkAvailable kind => kind

variable {machine : HiCapMachine}

theorem HiCapCall.run_eq (state : HiCapState) (call : HiCapCall) :
    call.run machine state = hiCapInit machine call.kind.variant state := by
  obtain ⟨kind, maxnode⟩ | ⟨kind⟩ := call
  · cases kind <;> rfl
  · cases kind <;> rfl

theorem hiCapInit_once (state : HiCapState) (variant other : NodeVariant) :
    (hiCapInit machine variant state).once other = true ↔
      state.once other = true ∨ other = variant := by
  cases done : state.once variant with
  | true =>
      rw [hiCapInit_done done]
      exact ⟨Or.inl, fun either => either.elim id fun equal => equal ▸ done⟩
  | false =>
      rw [(hiCapInit_initialised done).once]
      by_cases equal : other = variant
      · simp [equal]
      · simp [equal]

/-- The calls keep the invariant and initialise the variants of their kinds. -/
theorem hiCapCalls_sound (calls : List HiCapCall) :
    HiCapSound machine (hiCapCalls machine calls) ∧
      ∀ variant, (hiCapCalls machine calls).once variant = true ↔
        ∃ call ∈ calls, call.kind.variant = variant := by
  unfold hiCapCalls
  induction calls using List.reverseRecOn with
  | nil => exact ⟨HiCapState.initial_sound, fun variant => by simp [HiCapState.initial]⟩
  | append_singleton calls call ih =>
      obtain ⟨sound, once⟩ := ih
      rw [List.foldl_append, List.foldl_cons, List.foldl_nil, HiCapCall.run_eq]
      refine ⟨sound.init call.kind.variant_ne_all, fun variant => ?_⟩
      rw [hiCapInit_once, once]
      simp [or_and_right, exists_or, eq_comm]

/-- No variant points to a bitmask that was freed. -/
def HiCapState.NoDangling (state : HiCapState) : Prop :=
  ∀ variant object, state.pointer variant = some object → state.bitmasks.frees object = 0

theorem HiCapSound.noDangling_iff {state : HiCapState} (sound : HiCapSound machine state) :
    state.NoDangling ↔ ∀ variant, (state.pointer variant).isSome → machine.Determined variant := by
  constructor
  · intro noDangling variant pointed
    obtain ⟨object, points⟩ := Option.isSome_iff_exists.mp pointed
    have unfreed := noDangling variant object points
    obtain ⟨-, holds⟩ | ⟨freed, -⟩ := sound.determined variant object points
    · exact holds
    · omega
  · intro determined variant object points
    obtain ⟨unfreed, -⟩ | ⟨-, fails⟩ := sound.determined variant object points
    · exact unfreed
    · exact absurd (determined variant (by rw [points, Option.isSome_some])) fails

theorem hiCapFinalize_bitmasks (preferredFirst : Bool) (state : HiCapState) (object : Nat) :
    (hiCapFinalize preferredFirst state).bitmasks.allocated = state.bitmasks.allocated ∧
      (hiCapFinalize preferredFirst state).bitmasks.frees object = state.bitmasks.frees object +
        ((if state.pointer .single = some object then 1 else 0) +
          if state.pointer .multiple = some object then 1 else 0) := by
  cases preferredFirst with
  | false =>
      have freed : (hiCapFinalize false state).bitmasks =
          (state.bitmasks.freePointer (state.pointer .single)).freePointer
            (state.pointer .multiple) := rfl
      rw [freed, Allocations.allocated_freePointer, Allocations.allocated_freePointer,
        Allocations.frees_freePointer, Allocations.frees_freePointer]
      exact ⟨rfl, Nat.add_assoc _ _ _⟩
  | true =>
      have freed : (hiCapFinalize true state).bitmasks =
          (state.bitmasks.freePointer (state.pointer .multiple)).freePointer
            (state.pointer .single) := rfl
      rw [freed, Allocations.allocated_freePointer, Allocations.allocated_freePointer,
        Allocations.frees_freePointer, Allocations.frees_freePointer]
      exact ⟨rfl, by omega⟩

/-- The `finalize` operations free the bitmask of each variant once more. -/
theorem HiCapSound.finalize_frees {state : HiCapState} (sound : HiCapSound machine state)
    (preferredFirst : Bool) {variant : NodeVariant} (used : variant ≠ .all) {object : Nat}
    (points : state.pointer variant = some object) :
    (hiCapFinalize preferredFirst state).bitmasks.frees object =
      state.bitmasks.frees object + 1 := by
  rw [(hiCapFinalize_bitmasks preferredFirst state object).2]
  have only : ∀ other, other ≠ variant → state.pointer other ≠ some object :=
    fun other different pointed => different (sound.separate other variant object pointed points)
  cases variant with
  | multiple => rw [if_neg (only .single (by decide)), if_pos points]
  | single => rw [if_pos points, if_neg (only .multiple (by decide))]
  | all => exact absurd rfl used

theorem HiCapSound.freedOnce_iff {state : HiCapState} (sound : HiCapSound machine state)
    (preferredFirst : Bool) :
    (hiCapFinalize preferredFirst state).bitmasks.FreedOnce ↔
      ∀ variant, variant ≠ .all → (state.pointer variant).isSome → machine.Determined variant := by
  constructor
  · intro once variant used pointed
    obtain ⟨object, points⟩ := Option.isSome_iff_exists.mp pointed
    have frees := once object (by
      rw [(hiCapFinalize_bitmasks preferredFirst state object).1]
      exact sound.known variant object points)
    rw [sound.finalize_frees preferredFirst used points] at frees
    obtain ⟨-, holds⟩ | ⟨freed, -⟩ := sound.determined variant object points
    · exact holds
    · omega
  · intro determined object below
    rw [(hiCapFinalize_bitmasks preferredFirst state object).1] at below
    obtain ⟨variant, used, points⟩ := sound.owned object below
    rw [sound.finalize_frees preferredFirst used points]
    obtain ⟨unfreed, -⟩ | ⟨-, fails⟩ := sound.determined variant object points
    · rw [unfreed]
    · exact absurd (determined variant used (by rw [points, Option.isSome_some])) fails

/-- The searches of the calls do not fail after they have allocated their bitmask. -/
def HiCapMachine.DeterminedFor (machine : HiCapMachine) (calls : List HiCapCall) : Prop :=
  ∀ call ∈ calls, machine.bitmaskAlloc call.kind.variant = true →
    machine.Determined call.kind.variant

theorem hiCapCalls_determined_iff (calls : List HiCapCall) :
    (∀ variant, ((hiCapCalls machine calls).pointer variant).isSome →
      machine.Determined variant) ↔ machine.DeterminedFor calls := by
  obtain ⟨sound, once⟩ := @hiCapCalls_sound machine calls
  constructor
  · intro determined call member granted
    exact determined _ ((sound.pointer _).mpr ⟨(once _).mpr ⟨call, member, rfl⟩, granted⟩)
  · intro determined variant pointed
    obtain ⟨done, granted⟩ := (sound.pointer variant).mp pointed
    obtain ⟨call, member, rfl⟩ := (once variant).mp done
    exact determined call member granted

/-- After any calls and both `finalize` operations every bitmask has been freed exactly once, and no
variant has pointed to a freed one before, exactly when no search of the calls has failed with its
bitmask allocated. -/
theorem hiCapMasks_freedOnce_iff (machine : HiCapMachine) (calls : List HiCapCall)
    (preferredFirst : Bool) :
    ((hiCapFinalize preferredFirst (hiCapCalls machine calls)).bitmasks.FreedOnce ↔
      machine.DeterminedFor calls) ∧
    ((∀ earlier, earlier <+: calls → (hiCapCalls machine earlier).NoDangling) ↔
      machine.DeterminedFor calls) := by
  obtain ⟨sound, once⟩ := @hiCapCalls_sound machine calls
  constructor
  · rw [sound.freedOnce_iff, ← hiCapCalls_determined_iff]
    constructor
    · intro determined variant pointed
      apply determined variant _ pointed
      intro equal
      obtain ⟨call, -, used⟩ := (once variant).mp ((sound.pointer variant).mp pointed).1
      exact call.kind.variant_ne_all (used.trans equal)
    · intro determined variant _
      exact determined variant
  · constructor
    · intro noDangling
      rw [← hiCapCalls_determined_iff, ← sound.noDangling_iff]
      exact noDangling calls (List.prefix_refl calls)
    · intro determined earlier isPrefix
      rw [(hiCapCalls_sound earlier).1.noDangling_iff, hiCapCalls_determined_iff]
      exact fun call member => determined call (isPrefix.subset member)

/-- Both nodes have the same capacity. -/
def twoEqualNodes : HiCapMachine := ⟨1, fun _ => 0x40000000, fun _ => true⟩

/-- The preferred kind is not available on two equal nodes, and its bitmask is freed twice. -/
theorem hiCapMasks_freedTwice :
    ¬(hiCapFinalize false (hiCapCalls twoEqualNodes
      [.checkAvailable .highestCapacityPreferred])).bitmasks.FreedOnce ∧
    ((hiCapFinalize false (hiCapCalls twoEqualNodes
      [.checkAvailable .highestCapacityPreferred])).bitmasks.frees 0) = 2 := by
  have twice : (hiCapFinalize false (hiCapCalls twoEqualNodes
      [.checkAvailable .highestCapacityPreferred])).bitmasks.frees 0 = 2 := by
    decide
  refine ⟨fun once => ?_, twice⟩
  have frees := once 0 (by decide)
  rw [twice] at frees
  cases frees

end Runs

end Memkind
