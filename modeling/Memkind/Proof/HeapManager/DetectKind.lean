/-
This file decides under which heap manager the kind of a live block is detected.
-/

import Memkind.Construction.HeapManager
import Memkind.Proof.Arena.Ownership

namespace Memkind

open Library

variable {kind : KindPtr} {outcome : InitOutcome}

/-- The arena at an index leads back to a kind. -/
structure LeadsTo (state : ArenaState) (index : Nat) (kind : KindPtr) : Prop where
  handedOut : index < state.jemalloc.pool.fresh
  inside : index < mallocxArenaMax
  found : (state.arenaRegistry index).getD memkindDefault = kind

/-- Every arena that a kind can choose leads back to the kind. -/
structure OwnsArenas (state : ArenaState) (kind : KindPtr) : Prop where
  nonempty : 0 < (state.kinds kind).arenaMapLen
  mask : (state.kinds kind).arenaMapMask = (state.kinds kind).arenaMapLen - 1
  range : ∀ index, (state.kinds kind).arenaZero ≤ index →
    index < (state.kinds kind).arenaZero + (state.kinds kind).arenaMapLen →
    LeadsTo state index kind

/-- The arenas of a process that only creates arenas: the automatic ones have no kind, no index has
come back, and the kinds own theirs. -/
structure ArenasOwned (state : ArenaState) (initialized : KindPtr → Bool) : Prop where
  started : autoArenas < state.jemalloc.pool.fresh
  returned : state.jemalloc.pool.returned = []
  automatic : ∀ index ≤ autoArenas, state.arenaRegistry index = none
  owned : ∀ kind, initialized kind = true → kind ≠ memkindDefault → OwnsArenas state kind

section Arenas

variable {state next : ArenaState} {initialized : KindPtr → Bool} {kind : KindPtr}

theorem OwnsArenas.chosen (owns : OwnsArenas state kind) (choice : ArenaChoice) :
    LeadsTo state ((state.kinds kind).choose choice) kind := by
  have nonempty := owns.nonempty
  have last := (owns.range ((state.kinds kind).arenaZero + (state.kinds kind).arenaMapLen - 1)
    (by omega) (by omega)).inside
  unfold mallocxArenaMax at last
  unfold ArenaKind.choose
  cases (state.kinds kind).getArena with
  | bijective => exact owns.range _ (Nat.le_refl _) (Nat.lt_add_of_pos_right nonempty)
  | thread =>
      dsimp only
      split
      · have reduced := Nat.mod_lt choice.hash.toNat nonempty
        unfold threadArenaTls
        exact owns.range _ (by omega) (by omega)
      · have masked : choice.hash.toNat &&& (state.kinds kind).arenaMapMask ≤
            (state.kinds kind).arenaMapMask := Nat.and_le_right
        rw [owns.mask] at masked
        unfold threadArena
        rw [owns.mask]
        exact owns.range _ (by omega) (by omega)

/-- An automatic arena leads to the default kind. -/
theorem ArenasOwned.automatic_leadsTo (owned : ArenasOwned state initialized) {index : Nat}
    (automatic : index ≤ autoArenas) : LeadsTo state index memkindDefault := by
  have started := owned.started
  refine ⟨by omega, ?_, ?_⟩
  · unfold autoArenas at automatic
    unfold mallocxArenaMax
    omega
  · rw [owned.automatic index automatic, Option.getD_none]

/-- What a creation changes: new indices behind the old ones get the new kind. -/
structure ArenasAdded (kind : KindPtr) (state next : ArenaState) : Prop where
  fresh : state.jemalloc.pool.fresh ≤ next.jemalloc.pool.fresh
  returned : next.jemalloc.pool.returned = []
  registry : ∀ index < state.jemalloc.pool.fresh,
    next.arenaRegistry index = state.arenaRegistry index
  others : ∀ other, other ≠ kind → next.kinds other = state.kinds other
  owns : OwnsArenas next kind

theorem ArenasAdded.leadsTo (added : ArenasAdded kind state next) {index : Nat} {other : KindPtr}
    (leads : LeadsTo state index other) : LeadsTo next index other where
  handedOut := Nat.lt_of_lt_of_le leads.handedOut added.fresh
  inside := leads.inside
  found := by
    rw [added.registry index leads.handedOut]
    exact leads.found

theorem ArenasAdded.owned (added : ArenasAdded kind state next)
    (owned : ArenasOwned state initialized) :
    ArenasOwned next (Function.update initialized kind true) where
  started := Nat.lt_of_lt_of_le owned.started added.fresh
  returned := added.returned
  automatic := by
    intro index automatic
    rw [added.registry index (Nat.lt_of_le_of_lt automatic owned.started)]
    exact owned.automatic index automatic
  owned := by
    intro other found notDefault
    by_cases same : other = kind
    · rw [same]
      exact added.owns
    · rw [Function.update_of_ne same] at found
      have before := owned.owned other found notDefault
      have kinds := added.others other same
      constructor
      · rw [kinds]
        exact before.nonempty
      · rw [kinds]
        exact before.mask
      · intro index low high
        rw [kinds] at low high
        exact added.leadsTo (before.range index low high)

/-- A successful creation adds arenas. -/
theorem memkindArenaInit_added (notDefault : kind ≠ memkindDefault)
    (returned : state.jemalloc.pool.returned = [])
    (called : memkindArenaInit kind outcome state = some next) : ArenasAdded kind state next := by
  rw [memkindArenaInit, if_neg notDefault] at called
  split at called
  · rename_i created arena mapped
    obtain rfl := Option.some.inj called
    obtain ⟨sized, len, effect⟩ := memkindArenaCreateMap_success mapped
    obtain ⟨positive, -, mask, -⟩ := memkindSetArenaMapLen_success len
    have taken : state.jemalloc.pool.takeMany sized.arenaMapLen = (created, arena.jemalloc.pool) :=
      effect.taken
    rw [IndexPool.takeMany_fresh _ _ returned] at taken
    obtain ⟨rfl, pool⟩ := Prod.mk.inj taken
    have member : ∀ index, index ∈ List.range' state.jemalloc.pool.fresh sized.arenaMapLen ↔
        state.jemalloc.pool.fresh ≤ index ∧
          index < state.jemalloc.pool.fresh + sized.arenaMapLen := fun index => List.mem_range'_1
    have newKind : arena.kinds kind = { sized with arenaZero := state.jemalloc.pool.fresh } := by
      rw [effect.kinds, Function.update_self]
      simp only [Function.update_self]
      have last := effect.within (state.jemalloc.pool.fresh + sized.arenaMapLen - 1)
        ((member _).mpr (by omega))
      rw [foldl_min_block positive member (by unfold mallocxArenaMax at last; unfold uintMax; omega)]
    constructor
    · rw [← pool]
      exact Nat.le_add_right _ _
    · rw [← pool]
      exact returned
    · intro index below
      rw [effect.registry, if_neg]
      rw [member]
      omega
    · intro other different
      rw [effect.kinds, Function.update_of_ne different]
      exact Function.update_of_ne different _ _
    · constructor
      · rw [newKind]
        exact positive
      · rw [newKind]
        exact mask
      · intro index low high
        rw [newKind] at low high
        have inside := (member index).mpr ⟨low, high⟩
        refine ⟨?_, effect.within index inside, ?_⟩
        · rw [← pool]
          exact high
        · rw [effect.registry, if_pos inside, Option.getD_some]
  · cases called

end Arenas

section Heap

variable {partition : KindPtr → Nat} {bucket : Bucket} {machine : HeapMachine}
  {state next : ManagedHeap}

/-- A step that at most releases blocks. -/
structure OnlyReleases (state next : ManagedHeap) : Prop where
  arena : next.arena = state.arena
  priv : next.priv = state.priv
  initialized : next.initialized = state.initialized
  live : ∀ block ∈ next.heap.live, block ∈ state.heap.live

theorem OnlyReleases.refl (state : ManagedHeap) : OnlyReleases state state :=
  ⟨rfl, rfl, rfl, fun _ member => member⟩

theorem OnlyReleases.free {ptr : Address} (freed : state.free ptr = some next) :
    OnlyReleases state next := by
  obtain ⟨block, -, rfl⟩ := Option.map_eq_some_iff.mp freed
  exact ⟨rfl, rfl, rfl, fun _ member => List.mem_of_mem_erase member⟩

theorem OnlyReleases.memtierFree {ptr : Address}
    (freed : state.memtierFree partition bucket machine ptr = some next) :
    OnlyReleases state next := by
  obtain ⟨kind, -, freed⟩ := Option.bind_eq_some_iff.mp freed
  cases kind with
  | none =>
      obtain rfl := Option.some.inj freed
      exact .refl state
  | some kind =>
      have released := OnlyReleases.free freed
      exact ⟨released.arena, released.priv, released.initialized, released.live⟩

/-- Every live block of the arena manager comes from an arena that leads back to its kind. -/
structure BlocksOwned (state : ManagedHeap) : Prop where
  arenas : ArenasOwned state.arena state.initialized
  blocks : ∀ block ∈ state.heap.live, ∃ index, block.tag.home = .arena index ∧
    LeadsTo state.arena index block.tag.kind

theorem OnlyReleases.blocksOwned (releases : OnlyReleases state next) (owned : BlocksOwned state) :
    BlocksOwned next where
  arenas := by
    rw [releases.arena, releases.initialized]
    exact owned.arenas
  blocks block member := by
    rw [releases.arena]
    exact owned.blocks block (releases.live block member)

theorem blocksOwned_initial (kinds : KindPtr → ArenaKind) :
    BlocksOwned (ManagedHeap.initial kinds) where
  arenas := by
    refine ⟨Nat.lt_succ_self _, rfl, fun _ _ => rfl, ?_⟩
    intro kind initialized
    cases initialized
  blocks block member := by cases member

/-- The initialization of a kind keeps the arenas of the others. -/
theorem heapManagerInit_blocksOwned (manager : machine.manager = .arena)
    (owned : BlocksOwned state) (called : heapManagerInit machine kind outcome state = some next) :
    BlocksOwned next := by
  rw [heapManagerInit, manager] at called
  split at called
  · cases called
  · obtain ⟨arena, created, rfl⟩ := Option.map_eq_some_iff.mp called
    by_cases default : kind = memkindDefault
    · rw [memkindArenaInit, if_pos default] at created
      obtain rfl := Option.some.inj created
      refine ⟨⟨owned.arenas.started, owned.arenas.returned, owned.arenas.automatic, ?_⟩,
        owned.blocks⟩
      intro other initialized notDefault
      have different : other ≠ kind := fun same => notDefault (same.trans default)
      exact owned.arenas.owned other ((Function.update_of_ne different _ _).symm.trans initialized)
        notDefault
    · have added := memkindArenaInit_added default owned.arenas.returned created
      refine ⟨added.owned owned.arenas, ?_⟩
      intro block member
      obtain ⟨index, home, leads⟩ := owned.blocks block member
      exact ⟨index, home, added.leadsTo leads⟩

/-- A block comes from an arena that leads back to its kind. -/
theorem malloc_blocksOwned (manager : machine.manager = .arena) {choice : ArenaChoice}
    {granted : Grant} (owned : BlocksOwned state)
    (called : state.malloc machine kind choice granted = some next) : BlocksOwned next := by
  unfold ManagedHeap.malloc at called
  split at called
  · rename_i initialized
    obtain ⟨home, chosen, called⟩ := Option.bind_eq_some_iff.mp called
    obtain ⟨heap, placed, rfl⟩ := Option.map_eq_some_iff.mp called
    refine ⟨owned.arenas, ?_⟩
    intro block member
    rw [(BlockHeap.place_eq_some placed).1] at member
    obtain rfl | before := List.mem_cons.mp member
    · rw [ManagedHeap.home, manager] at chosen
      dsimp only at chosen ⊢
      split at chosen
      · rename_i default
        split at chosen
        · rename_i automatic
          obtain rfl := Option.some.inj chosen
          rw [default]
          exact ⟨_, rfl, owned.arenas.automatic_leadsTo automatic⟩
        · cases chosen
      · rename_i notDefault
        obtain rfl := Option.some.inj chosen
        exact ⟨_, rfl, (owned.arenas.owned kind initialized notDefault).chosen choice⟩
    · exact owned.blocks block before
  · cases called

theorem heapStep_blocksOwned (manager : machine.manager = .arena) {call : HeapCall}
    (owned : BlocksOwned state) (stepped : heapStep partition bucket machine call state = some next) :
    BlocksOwned next := by
  cases call with
  | init kind outcome => exact heapManagerInit_blocksOwned manager owned stepped
  | malloc kind choice granted => exact malloc_blocksOwned manager owned stepped
  | free ptr => exact (OnlyReleases.free stepped).blocksOwned owned
  | memtierFree ptr => exact (OnlyReleases.memtierFree stepped).blocksOwned owned

/-- No kind has the function `pool_identify` as its pool. -/
def NoPoolIdentified (machine : HeapMachine) (state : ManagedHeap) : Prop :=
  ∀ kind, state.priv kind ≠ machine.poolIdentify

/-- The pool of a new kind is not the function. -/
theorem tbbInitialize_noPoolIdentified {priv : KindPtr → Address}
    (none : NoPoolIdentified machine state)
    (created : tbbInitialize machine kind outcome state.priv = some priv) (other : KindPtr) :
    priv other ≠ machine.poolIdentify := by
  unfold tbbInitialize at created
  split at created
  · cases created
  · rename_i valid
    obtain rfl := Option.some.inj created
    by_cases same : other = kind
    · rw [same, Function.update_self]
      exact (not_or.mp valid).2
    · rw [Function.update_of_ne same]
      exact none other

theorem heapManagerInit_noPoolIdentified (none : NoPoolIdentified machine state)
    (called : heapManagerInit machine kind outcome state = some next) :
    NoPoolIdentified machine next := by
  unfold heapManagerInit at called
  split at called
  · cases called
  · dsimp only at called
    split at called
    · obtain ⟨arena, -, rfl⟩ := Option.map_eq_some_iff.mp called
      exact none
    · obtain ⟨priv, created, rfl⟩ := Option.map_eq_some_iff.mp called
      exact tbbInitialize_noPoolIdentified none created

theorem malloc_priv {choice : ArenaChoice} {granted : Grant}
    (called : state.malloc machine kind choice granted = some next) : next.priv = state.priv := by
  unfold ManagedHeap.malloc at called
  split at called
  · obtain ⟨home, -, placed⟩ := Option.bind_eq_some_iff.mp called
    obtain ⟨heap, -, rfl⟩ := Option.map_eq_some_iff.mp placed
    rfl
  · cases called

theorem heapStep_noPoolIdentified {call : HeapCall} (none : NoPoolIdentified machine state)
    (stepped : heapStep partition bucket machine call state = some next) :
    NoPoolIdentified machine next := by
  cases call with
  | init kind outcome => exact heapManagerInit_noPoolIdentified none stepped
  | malloc kind choice granted =>
      intro other
      rw [malloc_priv stepped]
      exact none other
  | free ptr =>
      intro other
      rw [(OnlyReleases.free stepped).priv]
      exact none other
  | memtierFree ptr =>
      intro other
      rw [(OnlyReleases.memtierFree stepped).priv]
      exact none other

/-- `memkind_detect_kind` finds the kind of a live block, and `memtier_free` releases the block. -/
def DetectedAndReleased (partition : KindPtr → Nat) (bucket : Bucket) (machine : HeapMachine)
    (state : ManagedHeap) (block : HeapBlock BlockOwner) : Prop :=
  state.detectKind machine block.ptr = some (some block.tag.kind) ∧
    ∃ next, state.memtierFree partition bucket machine block.ptr = some next ∧
      next.heap = state.heap.erase block

/-- The arena of a live block leads back to its kind. -/
theorem BlocksOwned.detected (manager : machine.manager = .arena) (owned : BlocksOwned state)
    {block : HeapBlock BlockOwner} (live : block ∈ state.heap.live) :
    state.detectKind machine block.ptr = some (some block.tag.kind) := by
  obtain ⟨index, home, leads⟩ := owned.blocks block live
  have inside := leads.inside
  have lookup : state.arenalookupx block.ptr % 2 ^ 32 = index := by
    rw [ManagedHeap.arenalookupx, state.heap.find_of_mem live, Option.map_some, Option.getD_some,
      home, BlockHome.arenaIndex]
    unfold mallocxArenaMax at inside
    exact Nat.mod_eq_of_lt (by omega)
  rw [ManagedHeap.detectKind, manager]
  dsimp only
  rw [memkindArenaDetectKind, if_neg (state.heap.nonNull block live), lookup, getKindByArena,
    if_pos inside, Option.map_some]
  exact congrArg (fun kind => some (some kind)) leads.found

theorem DetectedAndReleased.of_detected {block : HeapBlock BlockOwner}
    (live : block ∈ state.heap.live)
    (detected : state.detectKind machine block.ptr = some (some block.tag.kind)) :
    DetectedAndReleased partition bucket machine state block := by
  refine ⟨detected, { state.uncount partition bucket block.tag.kind block.ptr with
    heap := state.heap.erase block }, ?_, rfl⟩
  rw [ManagedHeap.memtierFree, detected, Option.bind_some, Option.elim_some, ManagedHeap.free]
  change (state.heap.find block.ptr).map _ = _
  rw [state.heap.find_of_mem live]
  rfl

/-- Under TBB no kind is found. -/
theorem NoPoolIdentified.undetected (manager : machine.manager = .tbb)
    (none : NoPoolIdentified machine state) (ptr : Address) :
    state.detectKind machine ptr = some Option.none := by
  rw [ManagedHeap.detectKind, manager]
  dsimp only
  rw [tbbDetectKind, memkindKindByPriv]
  split
  · rfl
  · rw [List.findSome?_eq_none_iff.mpr]
    intro slot _
    rw [Option.filter_eq_none_iff]
    intro kind _
    rw [decide_eq_true_iff]
    exact none kind

end Heap

/-- In every run of initializations, allocations and releases, the kind of a live block is detected
and the block released exactly when the heap manager is not TBB. -/
theorem liveBlock_detected_iff (partition : KindPtr → Nat) (bucket : Bucket)
    (machine : HeapMachine) (kinds : KindPtr → ArenaKind) (calls : List HeapCall)
    (final : ManagedHeap)
    (ran : runSteps (heapStep partition bucket machine) (ManagedHeap.initial kinds) calls =
      some final)
    (block : HeapBlock BlockOwner) (live : block ∈ final.heap.live) :
    DetectedAndReleased partition bucket machine final block ↔ machine.env ≠ some "TBB" := by
  by_cases tbb : machine.env = some "TBB"
  · have manager : machine.manager = .tbb := if_pos tbb
    have none : NoPoolIdentified machine final := runSteps_invariant _ (NoPoolIdentified machine)
      (fun _ _ _ none stepped => heapStep_noPoolIdentified none stepped)
      (fun _ => machine.loaded.symm) ran
    refine iff_of_false ?_ (not_not_intro tbb)
    intro ⟨detected, _⟩
    rw [none.undetected manager block.ptr] at detected
    cases detected
  · have manager : machine.manager = .arena := if_neg tbb
    have owned : BlocksOwned final := runSteps_invariant _ BlocksOwned
      (fun _ _ _ owned stepped => heapStep_blocksOwned manager owned stepped)
      (blocksOwned_initial kinds) ran
    exact iff_of_true (.of_detected live (owned.detected manager live)) tbb

/-- A process with a manager, where `pool_identify` is at a fixed address. -/
def heapMachineExample (env : Option String) : HeapMachine where
  env := env
  partitionMap slot := if below : slot.val < numStaticKinds then some (.library ⟨slot.val, below⟩)
    else none
  poolIdentify := 0x7000
  loaded := by decide

/-- The kind `MEMKIND_HBW` is initialized, and a block is allocated from it. -/
def oneBlock : List HeapCall :=
  [.init (.library 1) ⟨twoArenas, .success, fun _ => ⟨true, none⟩, 0x5000⟩,
    .malloc (.library 1) ⟨3, false, 0⟩ ⟨0x6000, 64⟩]

theorem liveBlock_detected_arena :
    ∃ final, runSteps (heapStep (fun _ => 0) 0 (heapMachineExample none))
        (ManagedHeap.initial fun _ => ⟨.thread, 0, 0, 0⟩) oneBlock = some final ∧
      ⟨0x6000, 64, ⟨.library 1, .arena 258⟩⟩ ∈ final.heap.live ∧
      DetectedAndReleased (fun _ => 0) 0 (heapMachineExample none) final
        ⟨0x6000, 64, ⟨.library 1, .arena 258⟩⟩ := by
  have computed : ((runSteps (heapStep (fun _ => 0) 0 (heapMachineExample none))
      (ManagedHeap.initial fun _ => ⟨.thread, 0, 0, 0⟩) oneBlock).map fun final =>
        final.heap.live) = some [⟨0x6000, 64, ⟨.library 1, .arena 258⟩⟩] := by
    decide +kernel
  obtain ⟨final, ran, blocks⟩ := Option.map_eq_some_iff.mp computed
  have live : ⟨0x6000, 64, ⟨.library 1, .arena 258⟩⟩ ∈ final.heap.live := by
    rw [blocks]
    exact List.mem_cons_self
  exact ⟨final, ran, live, (liveBlock_detected_iff _ _ _ _ oneBlock final ran _ live).mpr
    (by decide)⟩

/-- Under TBB the detection returns `NULL`, and `memtier_free` leaves the block where it is. -/
theorem liveBlock_undetected_tbb :
    ((runSteps (heapStep (fun _ => 0) 0 (heapMachineExample (some "TBB")))
      (ManagedHeap.initial fun _ => ⟨.thread, 0, 0, 0⟩) oneBlock).bind fun final =>
        (final.memtierFree (fun _ => 0) 0 (heapMachineExample (some "TBB")) 0x6000).map fun next =>
          (final.detectKind (heapMachineExample (some "TBB")) 0x6000, next.heap.live)) =
      some (some none, [⟨0x6000, 64, ⟨.library 1, .pool 0x5000⟩⟩]) := by
  decide +kernel

end Memkind
