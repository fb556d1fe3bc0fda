/-
This file follows the explicit caches: which thread uses which of them for which kind, and which of
them are free to be created again.
-/

import Memkind.Construction.ThreadCache

namespace Memkind

open Library

variable {Thread : Type} {state : TcacheState Thread}

/-- The map of the thread leads from the partition to the cache. The entry 0 leads to none. -/
def TcacheState.Uses (state : TcacheState Thread) (thread : Thread) (partition index : Nat) :
    Prop :=
  index ≠ 0 ∧ ∃ map, state.tcacheMap thread = some map ∧ map partition = index

/-- The caches in use exist and have one user each, and the pool holds the others. -/
structure TcacheState.CachesSound (state : TcacheState Thread) : Prop where
  exists_of_uses : ∀ thread partition index, state.Uses thread partition index →
    state.created index = true ∧ partition < numStaticKinds
  apart : ∀ thread other partition otherPartition index, state.Uses thread partition index →
    state.Uses other otherPartition index → thread = other ∧ partition = otherPartition
  returned : state.tcaches.returned.Nodup
  spare : ∀ index ∈ state.tcaches.returned,
    index < state.tcaches.fresh ∧ state.created index = false
  known : ∀ index, state.created index = true → index < state.tcaches.fresh
  /-- The first cache exists from its creation on. -/
  first : 0 < state.tcaches.fresh → state.created 0 = true

namespace TcacheState.CachesSound

theorem initial (kinds : KindPtr → ArenaKind) : (TcacheState.initial Thread kinds).CachesSound := by
  have unused : ∀ thread partition index,
      ¬(TcacheState.initial Thread kinds).Uses thread partition index := by
    rintro thread partition index ⟨-, map, found, -⟩
    cases found
  constructor
  · intro thread partition index uses
    exact absurd uses (unused thread partition index)
  · intro thread other partition otherPartition index uses
    exact absurd uses (unused thread partition index)
  · exact List.nodup_nil
  · intro index member
    cases member
  · intro index created
    cases created
  · intro positive
    cases positive

/-- The caches do not depend on the arenas and the blocks. -/
theorem of_same {next : TcacheState Thread} (sound : state.CachesSound)
    (tcaches : next.tcaches = state.tcaches) (created : next.created = state.created)
    (maps : next.tcacheMap = state.tcacheMap) : next.CachesSound := by
  obtain ⟨arena, initialized, blocks, pool, exist, map⟩ := next
  obtain rfl : pool = state.tcaches := tcaches
  obtain rfl : exist = state.created := created
  obtain rfl : map = state.tcacheMap := maps
  exact ⟨sound.exists_of_uses, sound.apart, sound.returned, sound.spare, sound.known, sound.first⟩

/-- The next index of the pool has no cache. -/
theorem next_absent (sound : state.CachesSound) : state.created state.tcaches.next = false := by
  cases stack : state.tcaches.returned with
  | nil =>
      rw [IndexPool.next, stack, List.headD_nil]
      by_contra exist
      have below := sound.known _ (Bool.eq_true_of_not_eq_false exist)
      omega
  | cons index rest =>
      rw [IndexPool.next, stack, List.headD_cons]
      exact (sound.spare index (stack ▸ List.mem_cons_self)).2

theorem next_unused (sound : state.CachesSound) (thread : Thread) (partition : Nat) :
    ¬state.Uses thread partition state.tcaches.next := by
  intro uses
  have exist := (sound.exists_of_uses _ _ _ uses).1
  rw [sound.next_absent] at exist
  cases exist

/-- Once a cache has been created, 0 is not the index of the next one. -/
theorem next_ne_zero (sound : state.CachesSound) (later : 0 < state.tcaches.fresh) :
    state.tcaches.next ≠ 0 := by
  intro zero
  have absent := sound.next_absent
  rw [zero, sound.first later] at absent
  cases absent

/-- `tcaches_create` -/
theorem create (sound : state.CachesSound) :
    TcacheState.CachesSound { state with
      tcaches := state.tcaches.take
      created := Function.update state.created state.tcaches.next true } := by
  have absent := sound.next_absent
  constructor
  · intro thread partition index uses
    obtain ⟨exist, inside⟩ := sound.exists_of_uses thread partition index uses
    refine ⟨?_, inside⟩
    show Function.update state.created state.tcaches.next true index = true
    rw [Function.update_apply, exist, ite_self]
  · exact sound.apart
  · cases stack : state.tcaches.returned with
    | nil => simp [IndexPool.take, stack]
    | cons index rest =>
        have distinct := sound.returned
        rw [stack] at distinct
        simpa [IndexPool.take, stack] using (List.nodup_cons.mp distinct).2
  · intro index member
    cases stack : state.tcaches.returned with
    | nil => simp [IndexPool.take, stack] at member
    | cons top rest =>
        have distinct := sound.returned
        rw [stack] at distinct
        simp only [IndexPool.take, stack] at member ⊢
        obtain ⟨below, free⟩ := sound.spare index (stack ▸ List.mem_cons_of_mem top member)
        have different : index ≠ state.tcaches.next := by
          rw [IndexPool.next, stack, List.headD_cons]
          rintro rfl
          exact (List.nodup_cons.mp distinct).1 member
        exact ⟨below, (Function.update_of_ne different _ _).trans free⟩
  · intro index exist
    have grown : state.tcaches.fresh ≤ state.tcaches.take.fresh := by
      rw [IndexPool.take]
      split
      · exact Nat.le_succ _
      · exact le_refl _
    by_cases same : index = state.tcaches.next
    · subst same
      cases stack : state.tcaches.returned with
      | nil => simp [IndexPool.take, IndexPool.next, stack]
      | cons top rest =>
          have below := (sound.spare top (stack ▸ List.mem_cons_self)).1
          simpa [IndexPool.take, IndexPool.next, stack] using below
    · have before : state.created index = true :=
        (Function.update_of_ne same _ _).symm.trans exist
      exact lt_of_lt_of_le (sound.known index before) grown
  · intro _
    show Function.update state.created state.tcaches.next true 0 = true
    rcases Nat.eq_zero_or_pos state.tcaches.fresh with none | some
    · have stack : state.tcaches.returned = [] := by
        apply List.eq_nil_iff_forall_not_mem.mpr
        intro index member
        have below := (sound.spare index member).1
        omega
      have zero : state.tcaches.next = 0 := by
        rw [IndexPool.next, stack, List.headD_nil, none]
      rw [zero, Function.update_self]
    · rw [Function.update_of_ne (sound.next_ne_zero some).symm]
      exact sound.first some

/-- The caches with fewer users. -/
theorem fewer (sound : state.CachesSound) {maps : Thread → Option (Nat → Nat)}
    (fewer : ∀ thread partition index,
      TcacheState.Uses { state with tcacheMap := maps } thread partition index →
        state.Uses thread partition index) :
    TcacheState.CachesSound { state with tcacheMap := maps } where
  exists_of_uses thread partition index uses :=
    sound.exists_of_uses thread partition index (fewer _ _ _ uses)
  apart _ _ _ _ _ uses otherUses := sound.apart _ _ _ _ _ (fewer _ _ _ uses) (fewer _ _ _ otherUses)
  returned := sound.returned
  spare := sound.spare
  known := sound.known
  first := sound.first

/-- `tcaches_destroy` of a cache that nobody uses. -/
theorem destroy (sound : state.CachesSound) {index : Nat} (exist : state.created index = true)
    (nonzero : index ≠ 0) (unused : ∀ thread partition, ¬state.Uses thread partition index)
    (blocks : CachedHeap Nat (Tcache Thread)) :
    TcacheState.CachesSound { state with
      blocks
      tcaches := state.tcaches.give index
      created := Function.update state.created index false } where
  exists_of_uses thread partition target uses := by
    have different : target ≠ index := by
      rintro rfl
      exact unused thread partition uses
    obtain ⟨before, inside⟩ := sound.exists_of_uses thread partition target uses
    exact ⟨(Function.update_of_ne different _ _).trans before, inside⟩
  apart := sound.apart
  returned := by
    refine List.nodup_cons.mpr ⟨fun member => ?_, sound.returned⟩
    have absent := (sound.spare index member).2
    rw [exist] at absent
    cases absent
  spare := by
    intro target member
    rcases List.mem_cons.mp member with rfl | member
    · exact ⟨sound.known target exist, Function.update_self _ _ _⟩
    · obtain ⟨below, absent⟩ := sound.spare target member
      refine ⟨below, ?_⟩
      show Function.update state.created index false target = false
      rw [Function.update_apply, absent, ite_self]
  known := by
    intro target still
    have before : state.created target = true := by
      by_cases same : target = index
      · rw [same]
        exact exist
      · exact (Function.update_of_ne same _ _).symm.trans still
    exact sound.known target before
  first := by
    intro positive
    exact (Function.update_of_ne nonzero.symm _ _).trans (sound.first positive)

variable [DecidableEq Thread]

/-- The map of a thread gets an entry for a cache that nobody uses. -/
theorem record (sound : state.CachesSound) {thread : Thread} {map : Nat → Nat}
    {partition index : Nat} (found : state.tcacheMap thread = some map) (blank : map partition = 0)
    (inside : partition < numStaticKinds) (exist : state.created index = true)
    (unused : ∀ other otherPartition, ¬state.Uses other otherPartition index) :
    (∀ other otherPartition target,
      TcacheState.Uses { state with
        tcacheMap := Function.update state.tcacheMap thread
          (some (Function.update map partition index)) } other otherPartition target ↔
        state.Uses other otherPartition target ∨
          other = thread ∧ otherPartition = partition ∧ target = index ∧ index ≠ 0) ∧
      TcacheState.CachesSound { state with
        tcacheMap := Function.update state.tcacheMap thread
          (some (Function.update map partition index)) } := by
  have uses_iff : ∀ other otherPartition target,
      TcacheState.Uses { state with
        tcacheMap := Function.update state.tcacheMap thread
          (some (Function.update map partition index)) } other otherPartition target ↔
        state.Uses other otherPartition target ∨
          other = thread ∧ otherPartition = partition ∧ target = index ∧ index ≠ 0 := by
    intro other otherPartition target
    unfold Uses
    by_cases sameThread : other = thread
    · subst sameThread
      by_cases samePartition : otherPartition = partition
      · subst samePartition
        simp only [Function.update_self, Option.some.injEq, exists_eq_left', found, blank,
          true_and]
        grind
      · simp [found, samePartition]
    · simp [sameThread]
  refine ⟨uses_iff, ?_⟩
  constructor
  · intro other otherPartition target uses
    rcases (uses_iff other otherPartition target).mp uses with before | ⟨-, rfl, rfl, -⟩
    · exact sound.exists_of_uses other otherPartition target before
    · exact ⟨exist, inside⟩
  · intro first second firstPartition secondPartition target usesFirst usesSecond
    rcases (uses_iff _ _ _).mp usesFirst with before | ⟨rfl, rfl, rfl, -⟩
    · rcases (uses_iff _ _ _).mp usesSecond with after | ⟨rfl, rfl, rfl, -⟩
      · exact sound.apart _ _ _ _ _ before after
      · exact absurd before (unused _ _)
    · rcases (uses_iff _ _ _).mp usesSecond with after | ⟨rfl, rfl, -, -⟩
      · exact absurd after (unused _ _)
      · exact ⟨rfl, rfl⟩
  · exact sound.returned
  · exact sound.spare
  · exact sound.known
  · exact sound.first

end TcacheState.CachesSound

/-- What `get_tcache_flag` does: only the caches change, and a cache that it returns has the thread
and the partition as its only user or was just created. -/
structure TcacheState.FlagSpec (thread : Thread) (partition : Nat) (cache : Option (Tcache Thread))
    (state next : TcacheState Thread) : Prop where
  arena : next.arena = state.arena
  initialized : next.initialized = state.initialized
  blocks : next.blocks = state.blocks
  sound : next.CachesSound
  kept : ∀ index, state.created index = true → next.created index = true
  usesKept : ∀ other otherPartition index, state.Uses other otherPartition index →
    next.Uses other otherPartition index
  usesNew : ∀ other otherPartition index, next.Uses other otherPartition index →
    state.Uses other otherPartition index ∨
      cache = some (.explicit index) ∧ state.created index = false
  usable : ∀ target, cache = some target → ∃ index, target = .explicit index ∧
    partition < numStaticKinds ∧ next.created index = true ∧
    (∀ other otherPartition, next.Uses other otherPartition index →
      other = thread ∧ otherPartition = partition) ∧
    (next.Uses thread partition index ∨ state.created index = false)

/-- Nothing changes when no cache is returned. -/
theorem TcacheState.CachesSound.flagSpec_none (sound : state.CachesSound) (thread : Thread)
    (partition : Nat) : state.FlagSpec thread partition none state where
  arena := rfl
  initialized := rfl
  blocks := rfl
  sound := sound
  kept _ exist := exist
  usesKept _ _ _ uses := uses
  usesNew _ _ _ uses := Or.inl uses
  usable := nofun

theorem TcacheState.tcachesCreate_eq (granted : Bool) (state : TcacheState Thread) :
    state.tcachesCreate granted = (none, state) ∨
      state.tcachesCreate granted = (some state.tcaches.next, { state with
        tcaches := state.tcaches.take
        created := Function.update state.created state.tcaches.next true }) := by
  unfold tcachesCreate
  split
  · exact Or.inr rfl
  · exact Or.inl rfl

variable [DecidableEq Thread] {next : TcacheState Thread} {thread : Thread} {partition : Nat}
  {outcome : FlagOutcome} {cache : Option (Tcache Thread)}

/-- The map belongs to the thread, or it is empty and nobody will find it again. -/
theorem TcacheState.CachesSound.tcacheOfMap_spec (sound : state.CachesSound) {map : Nat → Nat}
    {kept : Bool} (inside : partition < numStaticKinds)
    (called : state.tcacheOfMap thread map kept partition outcome = (cache, next))
    (found : kept = true → state.tcacheMap thread = some map)
    (empty : kept = false → map = fun _ => 0) :
    state.FlagSpec thread partition cache next := by
  unfold tcacheOfMap at called
  split at called
  · rename_i blank
    rcases state.tcachesCreate_eq outcome.tcacheCreated with refused | granted
    · rw [refused] at called
      obtain ⟨rfl, rfl⟩ := called
      exact sound.flagSpec_none thread partition
    · have absent := sound.next_absent
      have created := sound.create
      have exist : Function.update state.created state.tcaches.next true state.tcaches.next =
          true := Function.update_self _ _ _
      have stays : ∀ index, state.created index = true →
          Function.update state.created state.tcaches.next true index = true := by
        intro index before
        rw [Function.update_apply, before, ite_self]
      rw [granted] at called
      cases kept with
      | false =>
          obtain ⟨rfl, rfl⟩ := called
          refine ⟨rfl, rfl, rfl, created, stays, fun _ _ _ uses => uses,
            fun _ _ _ uses => Or.inl uses, ?_⟩
          rintro target ⟨⟩
          exact ⟨_, rfl, inside, exist, fun other otherPartition uses =>
            absurd uses (sound.next_unused other otherPartition), Or.inr absent⟩
      | true =>
          obtain ⟨rfl, rfl⟩ := called
          obtain ⟨uses_iff, recorded⟩ := created.record (found rfl) blank inside exist
            (fun other otherPartition => sound.next_unused other otherPartition)
          refine ⟨rfl, rfl, rfl, recorded, stays, ?_, ?_, ?_⟩
          · intro other otherPartition index uses
            exact (uses_iff other otherPartition index).mpr (Or.inl uses)
          · intro other otherPartition index uses
            rcases (uses_iff other otherPartition index).mp uses with before | ⟨-, -, rfl, -⟩
            · exact Or.inl before
            · exact Or.inr ⟨rfl, absent⟩
          · rintro target ⟨⟩
            refine ⟨_, rfl, inside, exist, ?_, Or.inr absent⟩
            intro other otherPartition uses
            rcases (uses_iff other otherPartition _).mp uses with before | ⟨rfl, rfl, -, -⟩
            · exact absurd before (sound.next_unused other otherPartition)
            · exact ⟨rfl, rfl⟩
  · rename_i nonzero
    obtain ⟨rfl, rfl⟩ := called
    cases kept with
    | false =>
        rw [empty rfl] at nonzero
        exact absurd rfl nonzero
    | true =>
        have uses : state.Uses thread partition (map partition) := ⟨nonzero, map, found rfl, rfl⟩
        refine ⟨rfl, rfl, rfl, sound, fun _ exist => exist, fun _ _ _ uses => uses,
          fun _ _ _ uses => Or.inl uses, ?_⟩
        rintro target ⟨⟩
        refine ⟨_, rfl, inside, (sound.exists_of_uses _ _ _ uses).1, ?_, Or.inl uses⟩
        intro other otherPartition otherUses
        exact sound.apart _ _ _ _ _ otherUses uses

/-- An empty map has no users. -/
theorem TcacheState.uses_emptyMap (absent : state.tcacheMap thread = none)
    (other : Thread) (otherPartition index : Nat) :
    TcacheState.Uses { state with
      tcacheMap := Function.update state.tcacheMap thread (some fun _ => 0) } other otherPartition
        index ↔ state.Uses other otherPartition index := by
  unfold Uses
  by_cases same : other = thread
  · subst same
    simp only [Function.update_self, Option.some.injEq, exists_eq_left', absent, reduceCtorEq,
      false_and, exists_false, and_false, iff_false, not_and]
    exact fun nonzero zero => nonzero zero.symm
  · simp [same]

theorem TcacheState.CachesSound.getTcacheFlag_spec (sound : state.CachesSound) {size : SizeT}
    (called : state.getTcacheFlag thread partition size outcome = (cache, next)) :
    state.FlagSpec thread partition cache next := by
  unfold getTcacheFlag at called
  split at called
  · obtain ⟨rfl, rfl⟩ := called
    exact sound.flagSpec_none thread partition
  · rename_i cached
    have inside : partition < numStaticKinds := by
      rw [not_or] at cached
      exact Nat.lt_of_not_le cached.2
    split at called
    · rename_i map found
      exact sound.tcacheOfMap_spec inside called (fun _ => found) nofun
    · rename_i absent
      split at called
      · cases stored : outcome.mapStored with
        | false =>
            rw [stored, if_neg Bool.false_ne_true] at called
            exact sound.tcacheOfMap_spec inside called nofun (fun _ => rfl)
        | true =>
            rw [stored, if_pos rfl] at called
            have uses_iff := state.uses_emptyMap absent
            have blank : TcacheState.CachesSound { state with
                tcacheMap := Function.update state.tcacheMap thread (some fun _ => 0) } :=
              sound.fewer fun _ _ _ uses => (uses_iff _ _ _).mp uses
            have spec := blank.tcacheOfMap_spec inside called
              (fun _ => Function.update_self _ _ _) nofun
            exact {
              arena := spec.arena
              initialized := spec.initialized
              blocks := spec.blocks
              sound := spec.sound
              kept := spec.kept
              usesKept := fun _ _ _ uses => spec.usesKept _ _ _ ((uses_iff _ _ _).mpr uses)
              usesNew := fun _ _ _ uses =>
                (spec.usesNew _ _ _ uses).imp_left (uses_iff _ _ _).mp
              usable := spec.usable }
      · obtain ⟨rfl, rfl⟩ := called
        exact sound.flagSpec_none thread partition

/-- The cache stands in a part of the map. -/
def Listed (map : Nat → Nat) (start count index : Nat) : Prop :=
  index ≠ 0 ∧ ∃ i, start ≤ i ∧ i < start + count ∧ map i = index

/-- What the loop of `tcache_finalize` does to caches that nobody uses any more. -/
structure TcacheState.DestroySpec (listed : Nat → Prop) (state next : TcacheState Thread) :
    Prop where
  arena : next.arena = state.arena
  initialized : next.initialized = state.initialized
  maps : next.tcacheMap = state.tcacheMap
  held : next.blocks.held = state.blocks.held
  sound : next.CachesSound
  created : ∀ index, next.created index = true ↔ state.created index = true ∧ ¬listed index
  emptied : ∀ index ptr, listed index → next.blocks.waiting (.explicit index) ptr = none
  waiting : ∀ target, (∀ index, listed index → target ≠ .explicit index) →
    next.blocks.waiting target = state.blocks.waiting target

/-- One cache is destroyed before the others. -/
theorem TcacheState.DestroySpec.cons {listed rest : Nat → Prop} {index : Nat}
    (member : ∀ target, listed target ↔ target = index ∨ rest target)
    (destroyed : TcacheState.DestroySpec rest { state with
      blocks := state.blocks.flush (.explicit index)
      tcaches := state.tcaches.give index
      created := Function.update state.created index false } next) :
    TcacheState.DestroySpec listed state next := by
  obtain ⟨flushHeld, flushWaiting⟩ := CachedHeap.flush_spec (.explicit index) state.blocks
  have kept : ∀ target, target ≠ .explicit index →
      (state.blocks.flush (.explicit index)).waiting target = state.blocks.waiting target := by
    intro target different
    rw [flushWaiting, if_neg different]
  have flushed : ∀ ptr, (state.blocks.flush (.explicit index)).waiting (.explicit index) ptr =
      none := by
    intro ptr
    rw [flushWaiting, if_pos rfl]
  refine ⟨destroyed.arena, destroyed.initialized, destroyed.maps, ?_, destroyed.sound, ?_, ?_, ?_⟩
  · exact destroyed.held.trans flushHeld
  · intro target
    rw [destroyed.created, member, not_or]
    by_cases same : target = index
    · simp [same]
    · simp [same]
  · intro target ptr isListed
    by_cases later : rest target
    · exact destroyed.emptied target ptr later
    · have same : target = index := ((member target).mp isListed).resolve_right later
      have untouched := destroyed.waiting (.explicit target) (by
        rintro other isRest ⟨⟩
        exact later isRest)
      rw [untouched, same]
      exact flushed ptr
  · intro target away
    have untouched := destroyed.waiting target
      (fun other isRest => away other ((member other).mpr (Or.inr isRest)))
    rw [untouched]
    exact kept target (away index ((member index).mpr (Or.inl rfl)))

/-- The loop of `tcache_finalize` destroys every cache of the map once. -/
theorem TcacheState.CachesSound.destroyTcaches_spec {map : Nat → Nat} {remaining i : Nat}
    (sound : state.CachesSound)
    (exist : ∀ index, Listed map i remaining index → state.created index = true)
    (unused : ∀ index, Listed map i remaining index → ∀ thread partition,
      ¬state.Uses thread partition index)
    (once : ∀ j k, i ≤ j → j < k → k < i + remaining → map j ≠ 0 → map j ≠ map k) :
    ∃ next, destroyTcaches map remaining i state = some next ∧
      TcacheState.DestroySpec (Listed map i remaining) state next := by
  induction remaining generalizing i state with
  | zero =>
      have none : ∀ index, ¬Listed map i 0 index := by
        rintro index ⟨-, j, low, high, -⟩
        omega
      exact ⟨state, rfl, rfl, rfl, rfl, rfl, sound, fun index => by simp [none],
        fun index ptr isListed => absurd isListed (none index), fun _ _ => rfl⟩
  | succ remaining ih =>
      have later : ∀ index, Listed map (i + 1) remaining index → Listed map i (remaining + 1) index := by
        rintro index ⟨nonzero, j, low, high, same⟩
        exact ⟨nonzero, j, by omega, by omega, same⟩
      have laterOnce : ∀ j k, i + 1 ≤ j → j < k → k < i + 1 + remaining → map j ≠ 0 →
          map j ≠ map k :=
        fun j k low less high nonzero => once j k (by omega) less (by omega) nonzero
      have member : ∀ index, Listed map i (remaining + 1) index ↔
          (map i ≠ 0 ∧ index = map i) ∨ Listed map (i + 1) remaining index := by
        intro index
        constructor
        · rintro ⟨nonzero, j, low, high, rfl⟩
          by_cases same : j = i
          · subst same
            exact Or.inl ⟨nonzero, rfl⟩
          · exact Or.inr ⟨nonzero, j, by omega, by omega, rfl⟩
        · rintro (⟨nonzero, rfl⟩ | isLater)
          · exact ⟨nonzero, i, le_refl _, by omega, rfl⟩
          · exact later index isLater
      by_cases blank : map i = 0
      · obtain ⟨next, looped, spec⟩ := ih sound (fun index isLater => exist index (later index isLater))
          (fun index isLater => unused index (later index isLater)) laterOnce
        have same : Listed map i (remaining + 1) = Listed map (i + 1) remaining := by
          funext index
          rw [member]
          simp [blank]
        refine ⟨next, ?_, same ▸ spec⟩
        rw [destroyTcaches, if_neg (not_not_intro blank), looped]
      · have first : Listed map i (remaining + 1) (map i) := (member _).mpr (Or.inl ⟨blank, rfl⟩)
        have different : ∀ index, Listed map (i + 1) remaining index → index ≠ map i := by
          rintro index ⟨-, j, low, high, rfl⟩ same
          exact once i j (le_refl _) (by omega) (by omega) blank same.symm
        obtain ⟨next, looped, spec⟩ := ih
          (sound.destroy (exist _ first) blank (unused _ first)
            (state.blocks.flush (.explicit (map i))))
          (fun index isLater => (Function.update_of_ne (different index isLater) _ _).trans
            (exist index (later index isLater)))
          (fun index isLater => unused index (later index isLater)) laterOnce
        refine ⟨next, ?_, spec.cons ?_⟩
        · rw [destroyTcaches, if_pos blank, tcachesDestroy, if_pos (exist _ first), Option.bind_some,
            looped]
        · intro index
          rw [member]
          simp [blank]

/-- What the end of a thread does: its caches are empty and destroyed, and nothing else changes. -/
structure TcacheState.ExitSpec (thread : Thread) (state next : TcacheState Thread) : Prop where
  arena : next.arena = state.arena
  initialized : next.initialized = state.initialized
  held : next.blocks.held = state.blocks.held
  sound : next.CachesSound
  uses : ∀ other partition index, next.Uses other partition index ↔
    other ≠ thread ∧ state.Uses other partition index
  created : ∀ index, next.created index = true ↔
    state.created index = true ∧ ∀ partition, ¬state.Uses thread partition index
  waiting : ∀ target ptr block, next.blocks.waiting target ptr = some block →
    state.blocks.waiting target ptr = some block ∧ target ≠ .automatic thread ∧
      ∀ index, target = .explicit index → ∀ partition, ¬state.Uses thread partition index
  unused : ∀ index, (∀ partition, ¬state.Uses thread partition index) →
    next.blocks.waiting (.explicit index) = state.blocks.waiting (.explicit index)

theorem TcacheState.CachesSound.exit_spec (sound : state.CachesSound) (thread : Thread) :
    ∃ next, state.exit thread = some next ∧ state.ExitSpec thread next := by
  obtain ⟨flushHeld, flushWaiting⟩ := CachedHeap.flush_spec (.automatic thread) state.blocks
  let cleared : TcacheState Thread := { state with
    blocks := state.blocks.flush (.automatic thread)
    tcacheMap := Function.update state.tcacheMap thread none }
  have clearedUses : ∀ other partition index, cleared.Uses other partition index ↔
      other ≠ thread ∧ state.Uses other partition index := by
    intro other partition index
    unfold Uses
    by_cases same : other = thread
    · simp [cleared, same]
    · simp [cleared, same]
  have clearedSound : cleared.CachesSound :=
    (sound.fewer fun other partition index uses =>
      ((clearedUses other partition index).mp uses).2).of_same rfl rfl rfl
  have clearedWaiting : ∀ target ptr block, cleared.blocks.waiting target ptr = some block →
      state.blocks.waiting target ptr = some block ∧ target ≠ .automatic thread := by
    intro target ptr block waits
    rw [flushWaiting] at waits
    split at waits
    · cases waits
    · rename_i different
      exact ⟨waits, different⟩
  have clearedExplicit : ∀ index,
      cleared.blocks.waiting (.explicit index) = state.blocks.waiting (.explicit index) := by
    intro index
    exact (flushWaiting _).trans (if_neg nofun)
  cases found : state.tcacheMap thread with
  | none =>
      have unused : ∀ partition index, ¬state.Uses thread partition index := by
        rintro partition index ⟨-, map, known, -⟩
        rw [found] at known
        cases known
      have called : state.exit thread = some cleared := by
        unfold TcacheState.exit
        rw [found]
      exact ⟨cleared, called, rfl, rfl, flushHeld, clearedSound, clearedUses,
        fun index => (and_iff_left fun partition => unused partition index).symm,
        fun target ptr block waits => ⟨(clearedWaiting target ptr block waits).1,
          (clearedWaiting target ptr block waits).2, fun index _ partition => unused partition index⟩,
        fun index _ => clearedExplicit index⟩
  | some map =>
      have listed_iff : ∀ index, Listed map 0 numStaticKinds index ↔
          ∃ partition, state.Uses thread partition index := by
        intro index
        constructor
        · rintro ⟨nonzero, i, -, -, same⟩
          exact ⟨i, nonzero, map, found, same⟩
        · rintro ⟨partition, uses⟩
          have inside := (sound.exists_of_uses _ _ _ uses).2
          obtain ⟨nonzero, other, known, same⟩ := uses
          rw [found] at known
          obtain rfl := Option.some.inj known
          exact ⟨nonzero, partition, Nat.zero_le _, by omega, same⟩
      have exist : ∀ index, Listed map 0 numStaticKinds index → cleared.created index = true := by
        intro index isListed
        obtain ⟨partition, uses⟩ := (listed_iff index).mp isListed
        exact (sound.exists_of_uses _ _ _ uses).1
      have unused : ∀ index, Listed map 0 numStaticKinds index → ∀ other otherPartition,
          ¬cleared.Uses other otherPartition index := by
        intro index isListed other otherPartition otherUses
        obtain ⟨partition, uses⟩ := (listed_iff index).mp isListed
        obtain ⟨different, otherBefore⟩ := (clearedUses _ _ _).mp otherUses
        exact different (sound.apart _ _ _ _ _ otherBefore uses).1
      have once : ∀ j k, 0 ≤ j → j < k → k < 0 + numStaticKinds → map j ≠ 0 → map j ≠ map k := by
        intro j k _ less _ nonzero same
        have equal := (sound.apart thread thread j k (map j) ⟨nonzero, map, found, rfl⟩
          ⟨nonzero, map, found, same.symm⟩).2
        omega
      obtain ⟨next, looped, spec⟩ := clearedSound.destroyTcaches_spec exist unused once
      have called : state.exit thread = destroyTcaches map numStaticKinds 0 cleared := by
        unfold TcacheState.exit
        rw [found]
      refine ⟨next, called.trans looped, spec.arena, spec.initialized, spec.held.trans flushHeld,
        spec.sound, ?_, ?_, ?_, ?_⟩
      · intro other partition index
        rw [← clearedUses]
        unfold Uses
        rw [spec.maps]
      · intro index
        rw [spec.created, listed_iff, not_exists]
      · intro target ptr block waits
        have away : ∀ index, target = .explicit index → ¬Listed map 0 numStaticKinds index := by
          rintro index rfl isListed
          rw [spec.emptied index ptr isListed] at waits
          cases waits
        rw [spec.waiting target (fun index isListed same => away index same isListed)] at waits
        refine ⟨(clearedWaiting target ptr block waits).1, (clearedWaiting target ptr block waits).2, ?_⟩
        intro index same partition uses
        exact away index same ((listed_iff index).mpr ⟨partition, uses⟩)
      · intro index unused
        rw [spec.waiting (.explicit index), clearedExplicit]
        rintro other isListed ⟨⟩
        obtain ⟨partition, uses⟩ := (listed_iff index).mp isListed
        exact unused partition uses

end Memkind
