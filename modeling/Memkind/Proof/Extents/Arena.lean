/-
This file shows what an arena of jemalloc keeps over every table of extent hooks that honours a
contract: its extents are the memory that the hooks gave, and they are aligned and zero as asked for.
-/

import Memkind.Construction.Extents
import Memkind.Library.Run
import Memkind.Library.Tiling

namespace Memkind

open Library

variable {zero : Bool} {points fewer : Set Nat} {rest : List Edata} {size alignment : Nat}
  {cached : Edata}

/-- The addresses of an extent. -/
def Edata.range (extent : Edata) : Set Nat := Set.Ico extent.start extent.past

/-- The addresses of all the extents of an arena. -/
abbrev ExtentArena.held {σ : Type} (arena : ExtentArena σ) : Set Nat :=
  coverage Edata.range arena.extents

section Contract

variable {σ ω : Type} (memory : ByteMemory σ) (hooks : ExtentHooks σ ω) (page : Nat)

/-- Two states have the same bytes at some addresses. -/
def ByteMemory.Keeps (points : Set Nat) (state next : σ) : Prop :=
  ∀ address ∈ points, memory.read next address = memory.read state address

/-- A state has only zeros at some addresses. -/
def ByteMemory.Zero (points : Set Nat) (state : σ) : Prop :=
  ∀ address ∈ points, memory.read state address = some 0

/-- What a call of a hook leaves: it backs the addresses that are held then, and the bytes that were
held before and are not those of the call are the same. -/
structure HookEffect (backs : σ → Set Nat → Prop) (others held : Set Nat) (state next : σ) :
    Prop where
  backed : backs next held
  keeps : memory.Keeps others state next

/-- What an arena may rely on when the state of a kind backs the addresses that it holds. A request
comes with an outcome of the system calls that is possible, and the outcomes when extents are given
back and destroyed may be restricted. The memory that `alloc` gives may be zero, and may be
aligned. -/
structure HookContract (request : (newAddr size alignment : Nat) → ω → σ → Prop)
    (returns released : ω → Prop) (backs : σ → Set Nat → Prop) (zeroes aligns : Prop) : Prop where
  granted : ∀ {newAddr size alignment zero commit outcome state next grant held},
    backs state held → page ∣ size → request newAddr size alignment outcome state →
    hooks.alloc newAddr size alignment zero commit outcome state = some (some grant, next) →
    HookEffect memory backs held (Set.Ico grant.addr (grant.addr + size) ∪ held) state next ∧
      Disjoint (Set.Ico grant.addr (grant.addr + size)) held ∧ page ∣ grant.addr ∧
      grant.commit = true ∧ (aligns → alignment ∣ grant.addr) ∧
      (zeroes → memory.Zero (Set.Ico grant.addr (grant.addr + size)) next)
  refused : ∀ {newAddr size alignment zero commit outcome state next held},
    backs state held → page ∣ size → request newAddr size alignment outcome state →
    hooks.alloc newAddr size alignment zero commit outcome state = some (none, next) →
    HookEffect memory backs held held state next
  dalloc : ∀ {addr size outcome state failed next held}, returns outcome →
    backs state held → page ∣ addr → page ∣ size → Set.Ico addr (addr + size) ⊆ held →
    hooks.dalloc addr size outcome state = some (failed, next) →
    HookEffect memory backs (held \ Set.Ico addr (addr + size))
      (if failed then held else held \ Set.Ico addr (addr + size)) state next
  purge : ∀ {addr size outcome state held}, backs state held →
    Set.Ico addr (addr + size) ⊆ held →
    HookEffect memory backs (held \ Set.Ico addr (addr + size)) held state
      (hooks.purgeLazy addr size 0 size outcome state).2
  destroy : ∀ {addr size outcome state held}, released outcome → backs state held →
    page ∣ addr → page ∣ size → Set.Ico addr (addr + size) ⊆ held →
    HookEffect memory backs (held \ Set.Ico addr (addr + size))
      (held \ Set.Ico addr (addr + size)) state (hooks.runDestroy addr size outcome state)
  write : ∀ {address byte state held}, backs state held → address ∈ held →
    HookEffect memory backs (held \ {address}) held state (memory.write state address byte) ∧
      memory.read (memory.write state address byte) address = some byte
  decommits : ∀ addr size offset length, hooks.decommit addr size offset length = true
  splits : ∀ addr size sizeA sizeB, hooks.split addr size sizeA sizeB = false

/-- The requests of jemalloc are for whole pages, and the outcomes of the hooks are possible. -/
def ExtentCall.Valid (request : (newAddr size alignment : Nat) → ω → σ → Prop)
    (returns released : ω → Prop) (call : ExtentCall ω) (arena : ExtentArena σ) : Prop :=
  match call with
  | .growRetained allocSize size alignment _ outcome =>
      page ∣ allocSize ∧ page ∣ size ∧ 0 < alignment ∧ page ∣ alignment ∧
        request 0 allocSize page outcome arena.state
  | .allocWrapper newAddr size alignment _ outcome =>
      page ∣ size ∧ request newAddr size alignment outcome arena.state
  | .recycle _ size alignment _ => page ∣ size ∧ 0 < alignment ∧ page ∣ alignment
  | .shrink _ size => page ∣ size
  | .expand _ _ outcome _ => returns outcome
  | .dallocWrapper _ outcome _ => returns outcome
  | .destroy _ outcome => released outcome
  | _ => True

/-- An extent of whole pages, which is committed and, when it is marked so in a cache, zero. -/
structure Edata.Good (zeroes : Prop) (state : σ) (extent : Edata) : Prop where
  start : page ∣ extent.start
  size : page ∣ extent.size
  committed : extent.committed = true
  dirty : extent.state = .dirty → extent.zeroed = false
  clean : zeroes → extent.state ≠ .active → extent.zeroed = true → memory.Zero extent.range state

/-- An extent is returned as it was asked for. -/
structure ReturnedExtent.Delivered (zeroes aligns : Prop) (arena : ExtentArena σ)
    (returned : ReturnedExtent) : Prop where
  held : returned.extent ∈ arena.extents
  aligned : aligns ∨ returned.fromHook = false → returned.alignment ∣ returned.extent.start
  zero : zeroes → returned.zero = true → memory.Zero returned.extent.range arena.state

/-- The extents of an arena do not overlap, and the hooks back them. -/
structure ExtentArena.Sound (backs : σ → Set Nat → Prop) (zeroes aligns : Prop)
    (arena : ExtentArena σ) : Prop where
  backed : backs arena.state arena.held
  tiles : Tiling Edata.range arena.extents arena.held
  good : ∀ extent ∈ arena.extents, extent.Good memory page zeroes arena.state
  delivered : ∀ returned, arena.returned = some returned →
    returned.Delivered memory zeroes aligns arena

end Contract

section Parts

variable {σ ω : Type} {memory : ByteMemory σ} {hooks : ExtentHooks σ ω} {page : Nat}
  {zeroes aligns : Prop} {state next : σ} {extent part : Edata}

theorem ByteMemory.Zero.mono (zero : memory.Zero points state) (subset : fewer ⊆ points) :
    memory.Zero fewer state :=
  fun address member => zero address (subset member)

theorem ByteMemory.Keeps.mono (keeps : memory.Keeps points state next) (subset : fewer ⊆ points) :
    memory.Keeps fewer state next :=
  fun address member => keeps address (subset member)

theorem ByteMemory.Zero.keeps (zero : memory.Zero points state)
    (keeps : memory.Keeps points state next) : memory.Zero points next :=
  fun address member => (keeps address member).trans (zero address member)

theorem Edata.Good.keeps (good : extent.Good memory page zeroes state)
    (keeps : memory.Keeps extent.range state next) : extent.Good memory page zeroes next :=
  ⟨good.start, good.size, good.committed, good.dirty,
    fun zero cached marked => (good.clean zero cached marked).keeps keeps⟩

/-- A part of an extent in the cache of the extent. -/
theorem Edata.Good.of_subset (good : extent.Good memory page zeroes state) (start : page ∣ part.start)
    (size : page ∣ part.size) (inside : part.range ⊆ extent.range)
    (sameState : part.state = extent.state) (sameZeroed : part.zeroed = extent.zeroed)
    (sameCommitted : part.committed = extent.committed) : part.Good memory page zeroes state := by
  refine ⟨start, size, sameCommitted.trans good.committed, fun dirty => ?_,
    fun zero cached marked => ?_⟩
  · exact sameZeroed.trans (good.dirty (sameState ▸ dirty))
  · rw [sameState] at cached
    rw [sameZeroed] at marked
    exact (good.clean zero cached marked).mono inside

/-- An extent in use or without a mark. -/
theorem Edata.Good.unmarked (start : page ∣ part.start) (size : page ∣ part.size)
    (committed : part.committed = true) (unmarked : part.state = .active ∨ part.zeroed = false) :
    part.Good memory page zeroes state := by
  refine ⟨start, size, committed, fun dirty => ?_, fun _ cached marked => ?_⟩
  · refine unmarked.resolve_left fun active => ?_
    rw [active] at dirty
    cases dirty
  · obtain active | clear := unmarked
    · exact absurd active cached
    · rw [clear] at marked
      cases marked

theorem tiling_unlessEmpty (part : Edata) : Tiling Edata.range part.unlessEmpty part.range := by
  unfold Edata.unlessEmpty
  split
  · exact Tiling.single
  · rename_i empty
    have none : part.range = ∅ := by
      rw [Edata.range, Edata.past, not_not.mp empty, Nat.add_zero, Set.Ico_self]
    rw [none]
    exact Tiling.nil

theorem Edata.mem_unlessEmpty {piece : Edata} (member : piece ∈ part.unlessEmpty) :
    piece = part := by
  unfold Edata.unlessEmpty at member
  split at member
  · exact List.mem_singleton.mp member
  · cases member

theorem le_roundUp (positive : 0 < alignment) (address : Nat) :
    address ≤ roundUp alignment address := by
  have division := Nat.div_add_mod (address + alignment - 1) alignment
  have remainder := Nat.mod_lt (address + alignment - 1) positive
  rw [Nat.mul_comm] at division
  unfold roundUp
  omega

theorem dvd_roundUp (alignment address : Nat) : alignment ∣ roundUp alignment address :=
  Nat.dvd_mul_left alignment _

/-- The parts of a split tile the extent, and they stay in its cache. -/
structure SplitParts (page : Nat) (cached extent : Edata) (rest : List Edata)
    (size alignment : Nat) : Prop where
  tiles : Tiling Edata.range (extent :: rest) cached.range
  size : extent.size = size
  aligned : alignment ∣ extent.start
  same : ∀ part ∈ extent :: rest, part.state = cached.state ∧ part.zeroed = cached.zeroed ∧
    part.committed = cached.committed
  paged : ∀ part ∈ extent :: rest, page ∣ part.start ∧ page ∣ part.size

theorem extentSplitInterior_ok (positive : 0 < alignment) (start : page ∣ cached.start)
    (whole : page ∣ cached.size) (sizePages : page ∣ size) (alignmentPages : page ∣ alignment)
    (split : extentSplitInterior hooks cached size alignment = .ok extent rest) :
    SplitParts page cached extent rest size alignment := by
  have above := le_roundUp positive cached.start
  have rounded : page ∣ roundUp alignment cached.start :=
    Nat.dvd_trans alignmentPages (dvd_roundUp alignment cached.start)
  have lead : page ∣ roundUp alignment cached.start - cached.start := Nat.dvd_sub rounded start
  have aligned := dvd_roundUp alignment cached.start
  unfold extentSplitInterior at split
  dsimp only at split
  generalize roundUp alignment cached.start = low at split above rounded lead aligned
  split at split
  · cases split
  · rename_i room
    split at split
    · cases split
    · split at split
      · cases split
      · injection split with isExtent isRest
        have trail : page ∣ cached.size - (low - cached.start) - size :=
          Nat.dvd_sub (Nat.dvd_sub whole lead) sizePages
        have first : cached.start + (low - cached.start) = low := by omega
        rw [first] at isExtent isRest
        subst isExtent isRest
        refine ⟨?_, rfl, aligned, ?_, ?_⟩
        · have leadTiles := tiling_unlessEmpty { cached with size := low - cached.start }
          have trailTiles := tiling_unlessEmpty
            { cached with
              start := low + size
              size := cached.size - (low - cached.start) - size }
          have middleTiles : Tiling Edata.range [{ cached with start := low, size := size }]
              (Edata.range { cached with start := low, size := size }) := Tiling.single
          have outer := leadTiles.append trailTiles (by
            refine Set.disjoint_left.mpr fun address inLead inTrail => ?_
            simp only [Edata.range, Edata.past, Set.mem_Ico] at inLead inTrail
            omega)
          have all := middleTiles.append outer (by
            refine Set.disjoint_left.mpr fun address inMiddle inOuter => ?_
            simp only [Edata.range, Edata.past, Set.mem_Ico, Set.mem_union] at inMiddle inOuter
            omega)
          have covers : cached.range =
              Edata.range { cached with start := low, size := size } ∪
                (Edata.range { cached with size := low - cached.start } ∪
                  Edata.range
                    { cached with
                      start := low + size
                      size := cached.size - (low - cached.start) - size }) := by
            ext address
            simp only [Edata.range, Edata.past, Set.mem_Ico, Set.mem_union]
            omega
          rw [covers]
          exact all
        · intro part member
          obtain rfl | inRest := List.mem_cons.mp member
          · exact ⟨rfl, rfl, rfl⟩
          · obtain inLead | inTrail := List.mem_append.mp inRest
            · rw [Edata.mem_unlessEmpty inLead]
              exact ⟨rfl, rfl, rfl⟩
            · rw [Edata.mem_unlessEmpty inTrail]
              exact ⟨rfl, rfl, rfl⟩
        · intro part member
          obtain rfl | inRest := List.mem_cons.mp member
          · exact ⟨rounded, sizePages⟩
          · obtain inLead | inTrail := List.mem_append.mp inRest
            · rw [Edata.mem_unlessEmpty inLead]
              exact ⟨start, lead⟩
            · rw [Edata.mem_unlessEmpty inTrail]
              exact ⟨Nat.dvd_add rounded sizePages, trail⟩

theorem extentSplitInterior_ne_error {salvage : List Edata}
    (splits : ∀ addr size sizeA sizeB, hooks.split addr size sizeA sizeB = false) :
    extentSplitInterior hooks cached size alignment ≠ .error salvage := by
  unfold extentSplitInterior
  simp only [splits, Bool.false_eq_true, and_false, if_false]
  split <;> nofun

end Parts

section Steps

variable {σ ω : Type} {memory : ByteMemory σ} {hooks : ExtentHooks σ ω} {page : Nat}
  {request : (newAddr size alignment : Nat) → ω → σ → Prop} {returns released : ω → Prop}
  {backs : σ → Set Nat → Prop} {zeroes aligns : Prop} {arena : ExtentArena σ} {state next : σ}
  {extent : Edata} {extents old pieces others : List Edata}

/-- An arena without extents. -/
theorem ExtentArena.Sound.initial (backed : backs state ∅) :
    ExtentArena.Sound memory page backs zeroes aligns ⟨state, [], none⟩ := by
  refine ⟨?_, ⟨List.Pairwise.nil, rfl⟩, fun _ member => (nomatch member), nofun⟩
  show backs state (coverage Edata.range [])
  rw [coverage_nil]
  exact backed

/-- The order of the extents does not matter. -/
theorem ExtentArena.Sound.perm (sound : arena.Sound memory page backs zeroes aligns)
    (same : arena.extents.Perm extents) :
    ExtentArena.Sound memory page backs zeroes aligns ⟨arena.state, extents, none⟩ := by
  have tiles := sound.tiles.perm same
  refine ⟨?_, ⟨tiles.apart, rfl⟩, ?_, nofun⟩
  · show backs arena.state (coverage Edata.range extents)
    rw [tiles.covers]
    exact sound.backed
  · intro extent member
    exact sound.good extent (same.mem_iff.mpr member)

/-- Some extents are replaced by others with the same addresses. -/
theorem ExtentArena.Sound.replace
    (sound : ExtentArena.Sound memory page backs zeroes aligns ⟨state, old ++ others, none⟩)
    (tiles : Tiling Edata.range pieces (coverage Edata.range old))
    (backed : backs next (coverage Edata.range (old ++ others)))
    (keeps : memory.Keeps (coverage Edata.range others) state next)
    (goods : ∀ piece ∈ pieces, piece.Good memory page zeroes next) :
    ExtentArena.Sound memory page backs zeroes aligns ⟨next, pieces ++ others, none⟩ := by
  have replaced := sound.tiles.replace (List.Perm.refl _) tiles
  refine ⟨?_, ⟨replaced.apart, rfl⟩, ?_, nofun⟩
  · show backs next (coverage Edata.range (pieces ++ others))
    rw [replaced.covers]
    exact backed
  · intro extent member
    obtain inPieces | inOthers := List.mem_append.mp member
    · exact goods extent inPieces
    · exact (sound.good extent (List.mem_append_right _ inOthers)).keeps
        (keeps.mono (span_subset_coverage inOthers))

/-- Some extents are given back. -/
theorem ExtentArena.Sound.remove
    (sound : ExtentArena.Sound memory page backs zeroes aligns ⟨state, old ++ others, none⟩)
    (backed : backs next (coverage Edata.range (old ++ others) \ coverage Edata.range old))
    (keeps : memory.Keeps (coverage Edata.range others) state next) :
    ExtentArena.Sound memory page backs zeroes aligns ⟨next, others, none⟩ := by
  have left := sound.tiles.remove (List.Perm.refl _)
  refine ⟨?_, ⟨left.apart, rfl⟩, ?_, nofun⟩
  · show backs next (coverage Edata.range others)
    rw [left.covers]
    exact backed
  · intro extent inOthers
    exact (sound.good extent (List.mem_append_right _ inOthers)).keeps
      (keeps.mono (span_subset_coverage inOthers))

/-- The hooks give a new extent. -/
theorem ExtentArena.Sound.insert (sound : arena.Sound memory page backs zeroes aligns)
    (effect : HookEffect memory backs arena.held (extent.range ∪ arena.held) arena.state next)
    (fresh : Disjoint extent.range arena.held) (good : extent.Good memory page zeroes next) :
    ExtentArena.Sound memory page backs zeroes aligns ⟨next, extent :: arena.extents, none⟩ := by
  have tiles : Tiling Edata.range (extent :: arena.extents) (extent.range ∪ arena.held) :=
    Tiling.single.append sound.tiles fresh
  refine ⟨?_, ⟨tiles.apart, rfl⟩, ?_, nofun⟩
  · show backs next (coverage Edata.range (extent :: arena.extents))
    rw [tiles.covers]
    exact effect.backed
  · intro other member
    obtain rfl | inArena := List.mem_cons.mp member
    · exact good
    · exact (sound.good other inArena).keeps (effect.keeps.mono (span_subset_coverage inArena))

/-- A call that returns an extent. -/
theorem ExtentArena.Sound.deliver {returned : ReturnedExtent}
    (sound : ExtentArena.Sound memory page backs zeroes aligns ⟨state, extents, none⟩)
    (delivered : returned.Delivered memory zeroes aligns ⟨state, extents, some returned⟩) :
    ExtentArena.Sound memory page backs zeroes aligns ⟨state, extents, some returned⟩ :=
  ⟨sound.backed, sound.tiles, sound.good, fun _ isReturned => Option.some.inj isReturned ▸ delivered⟩

/-- A call that changes the bytes of one extent. -/
theorem ExtentArena.Sound.keeps_others
    (sound : ExtentArena.Sound memory page backs zeroes aligns ⟨state, extent :: others, none⟩)
    (keeps : memory.Keeps (coverage Edata.range (extent :: others) \ extent.range) state next) :
    memory.Keeps (coverage Edata.range others) state next := by
  have parted : Tiling Edata.range ([extent] ++ others) _ := sound.tiles
  have apart := parted.of_append.2.2
  rw [coverage_singleton] at apart
  refine keeps.mono fun address covered => ⟨?_, ?_⟩
  · rw [coverage_cons]
    exact Or.inr covered
  · exact fun inside => Set.disjoint_left.mp apart inside covered

/-- One extent is replaced, and only its bytes change. -/
theorem ExtentArena.Sound.replaceOne
    (sound : ExtentArena.Sound memory page backs zeroes aligns ⟨state, extent :: others, none⟩)
    (tiles : Tiling Edata.range pieces extent.range)
    (effect : HookEffect memory backs (coverage Edata.range (extent :: others) \ extent.range)
      (coverage Edata.range (extent :: others)) state next)
    (goods : ∀ piece ∈ pieces, piece.Good memory page zeroes next) :
    ExtentArena.Sound memory page backs zeroes aligns ⟨next, pieces ++ others, none⟩ := by
  have keeps := sound.keeps_others effect.keeps
  have parted : ExtentArena.Sound memory page backs zeroes aligns
      ⟨state, [extent] ++ others, none⟩ := sound
  refine parted.replace ?_ effect.backed keeps goods
  rw [coverage_singleton]
  exact tiles

/-- A call that changes nothing but the extents. -/
theorem HookEffect.refl {held : Set Nat} (backed : backs state held) (fewer : Set Nat) :
    HookEffect memory backs fewer held state state :=
  ⟨backed, fun _ _ => rfl⟩

theorem HookEffect.trans {last : σ} {held : Set Nat}
    (first : HookEffect memory backs fewer held state next)
    (second : HookEffect memory backs fewer held next last) :
    HookEffect memory backs fewer held state last :=
  ⟨second.backed, fun address member =>
    (second.keeps address member).trans (first.keeps address member)⟩

/-- A call that keeps all the extents and their bytes. -/
theorem ExtentArena.Sound.unchanged (sound : arena.Sound memory page backs zeroes aligns)
    (effect : HookEffect memory backs arena.held arena.held arena.state next) :
    ExtentArena.Sound memory page backs zeroes aligns ⟨next, arena.extents, none⟩ :=
  ⟨effect.backed, sound.tiles,
    fun extent member =>
      (sound.good extent member).keeps (effect.keeps.mono (span_subset_coverage member)),
    nofun⟩

/-- `memset` writes zeros to the addresses of an extent and leaves the others alone. -/
theorem HookContract.clear
    (contract : HookContract memory hooks page request returns released backs zeroes aligns)
    {held : Set Nat} (backed : backs state held) {start : Nat}
    (inside : Set.Ico start (start + size) ⊆ held) :
    HookEffect memory backs (held \ Set.Ico start (start + size)) held state
        (memory.clear start size state) ∧
      memory.Zero (Set.Ico start (start + size)) (memory.clear start size state) := by
  induction size with
  | zero => exact ⟨HookEffect.refl backed _, fun address member => by
      simp only [Nat.add_zero, Set.Ico_self] at member
      cases member⟩
  | succ size ih =>
      have fewer : Set.Ico start (start + size) ⊆ held :=
        (Set.Ico_subset_Ico_right (by omega)).trans inside
      obtain ⟨before, zero⟩ := ih fewer
      have last : start + size ∈ held := inside ⟨by omega, by omega⟩
      have cleared : memory.clear start (size + 1) state =
          memory.write (memory.clear start size state) (start + size) 0 := by
        rw [ByteMemory.clear, List.range_succ, List.foldl_append]
        rfl
      rw [cleared]
      obtain ⟨after, written⟩ : HookEffect memory backs (held \ {start + size}) held
          (memory.clear start size state)
          (memory.write (memory.clear start size state) (start + size) 0) ∧ _ :=
        contract.write before.backed last
      refine ⟨⟨after.backed, fun address member => ?_⟩, fun address member => ?_⟩
      · obtain ⟨isHeld, outside⟩ := member
        simp only [Set.mem_Ico] at outside
        have kept := before.keeps address ⟨isHeld, by simp only [Set.mem_Ico]; omega⟩
        rw [← kept]
        exact after.keeps address ⟨isHeld, by simp only [Set.mem_singleton_iff]; omega⟩
      · by_cases isLast : address = start + size
        · rw [isLast]
          exact written
        · have isHeld := inside member
          simp only [Set.mem_Ico] at member
          have kept := after.keeps address ⟨isHeld, isLast⟩
          rw [kept]
          exact zero address ⟨member.1, by omega⟩

/-- `extent_commit_zero` returns the wanted part of an extent of a cache. -/
theorem ExtentArena.Sound.commitZero
    (contract : HookContract memory hooks page request returns released backs zeroes aligns)
    (sound : ExtentArena.Sound memory page backs zeroes aligns ⟨state, cached :: others, none⟩)
    (isCached : cached.state ≠ .active)
    (parts : SplitParts page cached extent rest size alignment) :
    (extentCommitZero memory hooks cached.state extent rest others alignment zero state).Sound memory
      page backs zeroes aligns := by
  have cachedGood := sound.good cached List.mem_cons_self
  have committed : extent.committed = true :=
    (parts.same extent List.mem_cons_self).2.2.trans cachedGood.committed
  have partGood : ∀ part ∈ extent :: rest, part.Good memory page zeroes state := by
    intro part member
    obtain ⟨sameState, sameZeroed, sameCommitted⟩ := parts.same part member
    obtain ⟨start, whole⟩ := parts.paged part member
    have inside : part.range ⊆ cached.range := parts.tiles.covers ▸ span_subset_coverage member
    exact cachedGood.of_subset start whole inside sameState sameZeroed sameCommitted
  have split : ExtentArena.Sound memory page backs zeroes aligns
      ⟨state, extent :: rest ++ others, none⟩ :=
    sound.replaceOne parts.tiles (.refl sound.backed _) partGood
  have inside : extent.range ⊆ coverage Edata.range (extent :: (rest ++ others)) :=
    span_subset_coverage List.mem_cons_self
  -- The bytes are zero already, or `memset` makes them zero.
  have cleared : ∃ next, next = (if zero && !extent.zeroed then
        memory.clear extent.start extent.size state else state) ∧
      HookEffect memory backs (coverage Edata.range (extent :: (rest ++ others)) \ extent.range)
        (coverage Edata.range (extent :: (rest ++ others))) state next ∧
      (zeroes → zero = true → memory.Zero extent.range next) := by
    refine ⟨_, rfl, ?_⟩
    split
    · obtain ⟨effect, zeros⟩ := contract.clear split.backed inside
      exact ⟨effect, fun _ _ => zeros⟩
    · rename_i unmarked
      refine ⟨.refl split.backed _, fun zeroed asked => ?_⟩
      have marked : extent.zeroed = true := by
        rw [asked] at unmarked
        simpa using unmarked
      have same := (parts.same extent List.mem_cons_self).1
      exact (partGood extent List.mem_cons_self).clean zeroed (same ▸ isCached) marked
  obtain ⟨next, isNext, effect, zeros⟩ := cleared
  unfold extentCommitZero
  rw [committed, ← isNext]
  simp only [Bool.not_true, Bool.false_and, Bool.false_eq_true, if_false]
  have good := partGood extent List.mem_cons_self
  have active : ExtentArena.Sound memory page backs zeroes aligns
      ⟨next, [{ extent with state := .active, committed := true }] ++ (rest ++ others), none⟩ :=
    split.replaceOne Tiling.single effect fun piece member => by
      obtain rfl := List.mem_singleton.mp member
      exact .unmarked good.start good.size rfl (Or.inl rfl)
  exact active.deliver ⟨List.mem_cons_self, fun _ => parts.aligned, zeros⟩

variable (contract : HookContract memory hooks page request returns released backs zeroes aligns)
  (sound : arena.Sound memory page backs zeroes aligns) {after : ExtentArena σ}

include contract sound

theorem extentGrowRetained_sound {allocSize : Nat} {outcome : ω} (allocPages : page ∣ allocSize)
    (sizePages : page ∣ size) (positive : 0 < alignment) (alignmentPages : page ∣ alignment)
    (asked : request 0 allocSize page outcome arena.state)
    (called : extentGrowRetained memory hooks page allocSize size alignment zero outcome arena =
      some after) : after.Sound memory page backs zeroes aligns := by
  obtain ⟨⟨granted, next⟩, allocated, rest⟩ := Option.bind_eq_some_iff.mp called
  cases granted with
  | none =>
      obtain rfl := Option.some.inj rest
      exact sound.unchanged (contract.refused sound.backed allocPages asked allocated)
  | some grant =>
      obtain ⟨effect, fresh, paged, committed, -, zeros⟩ :=
        contract.granted sound.backed allocPages asked allocated
      have inserted : ExtentArena.Sound memory page backs zeroes aligns
          ⟨next, ⟨grant.addr, allocSize, .retained, grant.zero, grant.commit⟩ :: arena.extents,
            none⟩ :=
        sound.insert effect fresh
          ⟨paged, allocPages, committed, nofun, fun zero _ _ => zeros zero⟩
      dsimp only at rest
      split at rest
      · cases rest
      · rename_i salvage failed
        exact absurd failed (extentSplitInterior_ne_error contract.splits)
      · rename_i extent parts split
        obtain rfl := Option.some.inj rest
        exact ExtentArena.Sound.commitZero contract inserted nofun
          (extentSplitInterior_ok positive paged allocPages sizePages alignmentPages split)

theorem extentAllocWrapper_sound {newAddr : Nat} {outcome : ω} (sizePages : page ∣ size)
    (asked : request newAddr size alignment outcome arena.state)
    (called : extentAllocWrapper hooks newAddr size alignment zero outcome arena = some after) :
    after.Sound memory page backs zeroes aligns := by
  obtain ⟨⟨granted, next⟩, allocated, rfl⟩ := Option.map_eq_some_iff.mp called
  cases granted with
  | none => exact sound.unchanged (contract.refused sound.backed sizePages asked allocated)
  | some grant =>
      obtain ⟨effect, fresh, paged, committed, aligned, zeros⟩ :=
        contract.granted sound.backed sizePages asked allocated
      have inserted : ExtentArena.Sound memory page backs zeroes aligns
          ⟨next, ⟨grant.addr, size, .active, grant.zero, grant.commit⟩ :: arena.extents, none⟩ :=
        sound.insert effect fresh (.unmarked paged sizePages committed (Or.inl rfl))
      exact inserted.deliver ⟨List.mem_cons_self, fun given => aligned (given.resolve_right nofun),
        fun zero _ => zeros zero⟩

theorem extentRecycle_sound (sizePages : page ∣ size) (positive : 0 < alignment)
    (alignmentPages : page ∣ alignment)
    (called : extentRecycle memory hooks cached size alignment zero arena = some after) :
    after.Sound memory page backs zeroes aligns := by
  unfold extentRecycle at called
  split at called
  · rename_i given
    have good := sound.good cached given.1
    have taken := sound.perm (List.perm_cons_erase given.1)
    dsimp only at called
    split at called
    · cases called
    · rename_i salvage failed
      exact absurd failed (extentSplitInterior_ne_error contract.splits)
    · rename_i extent rest split
      obtain rfl := Option.some.inj called
      exact ExtentArena.Sound.commitZero contract taken given.2
        (extentSplitInterior_ok positive good.start good.size sizePages alignmentPages split)
  · cases called

omit contract in
/-- Two neighbours become one extent. -/
theorem ExtentArena.Sound.merge {first second : Edata} (isFirst : first ∈ arena.extents)
    (isSecond : second ∈ arena.extents.erase first) (adjacent : first.past = second.start)
    (same : first.state = second.state) :
    ExtentArena.Sound memory page backs zeroes aligns
      ⟨arena.state, first.merged second :: (arena.extents.erase first).erase second, none⟩ := by
  have parts : arena.extents.Perm
      ([first, second] ++ (arena.extents.erase first).erase second) :=
    (List.perm_cons_erase isFirst).trans ((List.perm_cons_erase isSecond).cons first)
  have firstGood := sound.good first isFirst
  have secondGood := sound.good second (List.mem_of_mem_erase isSecond)
  have covers : coverage Edata.range [first, second] = (first.merged second).range := by
    unfold Edata.past at adjacent
    ext address
    simp only [coverage_cons, coverage_nil, Edata.range, Edata.past, Edata.merged, Set.mem_union,
      Set.mem_Ico, Set.mem_empty_iff_false, or_false]
    omega
  have joined : ExtentArena.Sound memory page backs zeroes aligns
      ⟨arena.state, [first.merged second] ++ (arena.extents.erase first).erase second, none⟩ := by
    have taken := sound.perm parts
    refine taken.replace (covers ▸ Tiling.single) taken.backed (fun _ _ => rfl) ?_
    intro piece member
    obtain rfl := List.mem_singleton.mp member
    refine ⟨firstGood.start, Nat.dvd_add firstGood.size secondGood.size, firstGood.committed,
      fun dirty => ?_, fun zero cached marked address inside => ?_⟩
    · show (first.zeroed && second.zeroed) = false
      rw [firstGood.dirty dirty, Bool.false_and]
    obtain ⟨firstMarked, secondMarked⟩ := Bool.and_eq_true_iff.mp marked
    rw [← covers] at inside
    simp only [coverage_cons, coverage_nil, Set.union_empty] at inside
    obtain inFirst | inSecond := inside
    · exact firstGood.clean zero cached firstMarked address inFirst
    · exact secondGood.clean zero (same ▸ cached) secondMarked address inSecond
  exact joined

omit contract in
theorem extentCoalesce_sound {first second : Edata}
    (called : extentCoalesce hooks first second arena = some after) :
    after.Sound memory page backs zeroes aligns := by
  unfold extentCoalesce at called
  split at called
  · rename_i given
    obtain ⟨isFirst, isSecond, -, same, -, adjacent⟩ := given
    split at called
    · obtain rfl := Option.some.inj called
      exact sound.unchanged (.refl sound.backed _)
    · obtain rfl := Option.some.inj called
      exact sound.merge isFirst isSecond adjacent same
  · cases called

omit contract in
theorem ecacheDalloc_sound (called : ecacheDalloc extent arena = some after) :
    after.Sound memory page backs zeroes aligns := by
  unfold ecacheDalloc at called
  split at called
  · rename_i given
    obtain rfl := Option.some.inj called
    have good := sound.good extent given.1
    have taken := sound.perm (List.perm_cons_erase given.1)
    have tiles : Tiling Edata.range [{ extent with state := .dirty, zeroed := false }]
        extent.range := Tiling.single
    exact taken.replaceOne tiles (.refl taken.backed _) fun piece member => by
      obtain rfl := List.mem_singleton.mp member
      exact .unmarked good.start good.size good.committed (Or.inr rfl)
  · cases called

omit contract in
theorem pacShrink_sound (sizePages : page ∣ size)
    (called : pacShrink hooks extent size arena = some after) :
    after.Sound memory page backs zeroes aligns := by
  unfold pacShrink at called
  split at called
  · rename_i given
    obtain ⟨member, active, smaller⟩ := given
    dsimp only at called
    split at called
    · obtain rfl := Option.some.inj called
      exact sound.unchanged (.refl sound.backed _)
    · obtain rfl := Option.some.inj called
      have good := sound.good extent member
      have taken := sound.perm (List.perm_cons_erase member)
      have tiles : Tiling Edata.range
          [{ extent with size := size },
            { extent with
              start := extent.start + size
              size := extent.size - size
              state := .dirty
              zeroed := false }] extent.range := by
        refine ⟨List.pairwise_pair.mpr (Set.disjoint_left.mpr fun address inFirst inTrail => ?_), ?_⟩
        · simp only [Edata.range, Edata.past, Set.mem_Ico] at inFirst inTrail
          omega
        · ext address
          simp only [coverage_cons, coverage_nil, Edata.range, Edata.past, Set.mem_Ico,
            Set.mem_union, Set.mem_empty_iff_false, or_false]
          omega
      exact taken.replaceOne tiles (.refl taken.backed _) fun piece inPieces => by
        simp only [List.mem_cons, List.not_mem_nil, or_false] at inPieces
        obtain rfl | rfl := inPieces
        · exact .unmarked good.start sizePages good.committed (Or.inl active)
        · exact .unmarked (Nat.dvd_add good.start sizePages) (Nat.dvd_sub good.size sizePages)
            good.committed (Or.inr rfl)
  · cases called

theorem extentDallocWrapper_sound {outcome purge : ω} (isReturned : returns outcome)
    (called : extentDallocWrapper hooks extent outcome purge arena = some after) :
    after.Sound memory page backs zeroes aligns := by
  unfold extentDallocWrapper at called
  split at called
  · rename_i given
    have good := sound.good extent given.1
    have taken := sound.perm (List.perm_cons_erase given.1)
    have inside : extent.range ⊆ coverage Edata.range (extent :: arena.extents.erase extent) :=
      span_subset_coverage List.mem_cons_self
    obtain ⟨⟨failed, next⟩, dalloced, isAfter⟩ := Option.map_eq_some_iff.mp called
    have effect := contract.dalloc isReturned taken.backed good.start good.size inside dalloced
    rw [good.committed, contract.decommits] at isAfter
    cases failed with
    | false =>
        obtain rfl := isAfter
        have parted : ExtentArena.Sound memory page backs zeroes aligns
            ⟨arena.state, [extent] ++ arena.extents.erase extent, none⟩ := taken
        refine parted.remove ?_ (taken.keeps_others effect.keeps)
        rw [coverage_singleton]
        exact effect.backed
    | true =>
        obtain rfl := isAfter
        have purged : HookEffect memory backs
            (coverage Edata.range (extent :: arena.extents.erase extent) \ extent.range)
            (coverage Edata.range (extent :: arena.extents.erase extent)) arena.state
            (if extent.state = .muzzy then next
              else (hooks.purgeLazy extent.start extent.size 0 extent.size purge next).2) := by
          have kept : HookEffect memory backs
              (coverage Edata.range (extent :: arena.extents.erase extent) \ extent.range)
              (coverage Edata.range (extent :: arena.extents.erase extent)) arena.state next :=
            effect
          split
          · exact kept
          · exact kept.trans (contract.purge kept.backed inside)
        have tiles : Tiling Edata.range
            [{ extent with state := .retained, zeroed := false, committed := true }]
            extent.range := Tiling.single
        exact taken.replaceOne tiles purged fun piece member => by
          obtain rfl := List.mem_singleton.mp member
          exact .unmarked good.start good.size rfl (Or.inr rfl)
  · cases called

theorem pacExpand_sound {trail : Edata} {outcome purge : ω} (isReturned : returns outcome)
    (called : pacExpand hooks extent trail outcome purge arena = some after) :
    after.Sound memory page backs zeroes aligns := by
  unfold pacExpand at called
  split at called
  · rename_i given
    obtain ⟨isExtent, isTrail, active, trailActive, adjacent⟩ := given
    split at called
    · exact extentDallocWrapper_sound contract sound isReturned called
    · obtain rfl := Option.some.inj called
      exact sound.merge isExtent isTrail adjacent (active.trans trailActive.symm)
  · cases called

theorem pacPurge_sound {outcome : ω} (called : pacPurge hooks extent outcome arena = some after) :
    after.Sound memory page backs zeroes aligns := by
  unfold pacPurge at called
  split at called
  · rename_i given
    have good := sound.good extent given.1
    have taken := sound.perm (List.perm_cons_erase given.1)
    have inside : extent.range ⊆ coverage Edata.range (extent :: arena.extents.erase extent) :=
      span_subset_coverage List.mem_cons_self
    have effect : HookEffect memory backs _ _ arena.state
        (hooks.purgeLazy extent.start extent.size 0 extent.size outcome arena.state).2 :=
      contract.purge taken.backed inside
    -- A dirty extent has no mark, whatever the purge does to its bytes.
    have purged : ∀ kept : ExtentState, ExtentArena.Sound memory page backs zeroes aligns
        ⟨(hooks.purgeLazy extent.start extent.size 0 extent.size outcome arena.state).2,
          [{ extent with state := kept, zeroed := false }] ++ arena.extents.erase extent, none⟩ := by
      intro kept
      have tiles : Tiling Edata.range [{ extent with state := kept, zeroed := false }]
          extent.range := Tiling.single
      exact taken.replaceOne tiles effect fun piece member => by
        obtain rfl := List.mem_singleton.mp member
        exact .unmarked good.start good.size good.committed (Or.inr rfl)
    dsimp only at called
    split at called
    · obtain rfl := Option.some.inj called
      have same : ({ extent with state := .dirty, zeroed := false } : Edata) = extent := by
        rw [← given.2, ← good.dirty given.2]
      have back := purged .dirty
      rw [same] at back
      exact back.perm (List.perm_cons_erase given.1).symm
    · obtain rfl := Option.some.inj called
      exact purged .muzzy
  · cases called

theorem extentDestroyWrapper_sound {outcome : ω} (isReleased : released outcome)
    (called : extentDestroyWrapper hooks extent outcome arena = some after) :
    after.Sound memory page backs zeroes aligns := by
  unfold extentDestroyWrapper at called
  split at called
  · rename_i given
    obtain rfl := Option.some.inj called
    have good := sound.good extent given.1
    have taken : ExtentArena.Sound memory page backs zeroes aligns
        ⟨arena.state, [extent] ++ arena.extents.erase extent, none⟩ :=
      sound.perm (List.perm_cons_erase given.1)
    have inside : extent.range ⊆ coverage Edata.range ([extent] ++ arena.extents.erase extent) :=
      span_subset_coverage List.mem_cons_self
    have effect := contract.destroy isReleased taken.backed good.start good.size inside
    refine taken.remove ?_ (ExtentArena.Sound.keeps_others taken effect.keeps)
    rw [coverage_singleton]
    exact effect.backed
  · cases called

theorem userStore_sound {addr : Nat} {byte : UInt8}
    (called : userStore memory addr byte arena = some after) :
    after.Sound memory page backs zeroes aligns := by
  unfold userStore at called
  split at called
  · rename_i given
    obtain ⟨extent, member, active, above, below⟩ := given
    obtain rfl := Option.some.inj called
    have good := sound.good extent member
    have taken := sound.perm (List.perm_cons_erase member)
    have inside : addr ∈ extent.range := ⟨above, below⟩
    obtain ⟨effect, -⟩ : HookEffect memory backs _ _ arena.state
        (memory.write arena.state addr byte) ∧ _ :=
      contract.write taken.backed (span_subset_coverage List.mem_cons_self inside)
    have stored : ExtentArena.Sound memory page backs zeroes aligns
        ⟨memory.write arena.state addr byte, [extent] ++ arena.extents.erase extent, none⟩ := by
      refine taken.replaceOne Tiling.single ⟨effect.backed, effect.keeps.mono ?_⟩ ?_
      · refine Set.sdiff_subset_sdiff_right ?_
        exact Set.singleton_subset_iff.mpr inside
      · intro piece isPiece
        obtain rfl := List.mem_singleton.mp isPiece
        exact .unmarked good.start good.size good.committed (Or.inl active)
    exact stored.perm (List.perm_cons_erase member).symm
  · cases called

/-- Every call keeps the arena sound. -/
theorem extentStep_sound {call : ExtentCall ω} (valid : call.Valid page request returns released arena)
    (stepped : extentStep memory hooks page call arena = some after) :
    after.Sound memory page backs zeroes aligns := by
  cases call with
  | growRetained allocSize size alignment zero outcome =>
      obtain ⟨allocPages, sizePages, positive, alignmentPages, asked⟩ := valid
      exact extentGrowRetained_sound contract sound allocPages sizePages positive alignmentPages
        asked stepped
  | allocWrapper newAddr size alignment zero outcome =>
      exact extentAllocWrapper_sound contract sound valid.1 valid.2 stepped
  | recycle cached size alignment zero =>
      exact extentRecycle_sound contract sound valid.1 valid.2.1 valid.2.2 stepped
  | coalesce first second => exact extentCoalesce_sound sound stepped
  | cacheDalloc extent => exact ecacheDalloc_sound sound stepped
  | shrink extent size => exact pacShrink_sound sound valid stepped
  | expand extent trail outcome purge => exact pacExpand_sound contract sound valid stepped
  | purge extent outcome => exact pacPurge_sound contract sound stepped
  | dallocWrapper extent outcome purge => exact extentDallocWrapper_sound contract sound valid stepped
  | destroy extent outcome => exact extentDestroyWrapper_sound contract sound valid stepped
  | store addr byte => exact userStore_sound contract sound stepped

omit sound in
/-- In every run over hooks with a contract the arena stays sound. -/
theorem extentRun_sound {start : ExtentArena σ}
    (initial : start.Sound memory page backs zeroes aligns) {calls : List (ExtentCall ω)}
    (valid : Guarded (extentStep memory hooks page) (ExtentCall.Valid page request returns released) start
      calls) :
    Always (extentStep memory hooks page)
      (ExtentArena.Sound memory page backs zeroes aligns) start calls :=
  always_of_guarded _ (fun _ _ _ sound valid stepped => extentStep_sound contract sound valid stepped)
    initial valid

end Steps

section Returned

variable {σ ω : Type} {memory : ByteMemory σ} {hooks : ExtentHooks σ ω} {page : Nat}
  {arena after : ExtentArena σ} {returned : ReturnedExtent}

/-- An extent of `extent_commit_zero` is a part of one that the arena has. -/
theorem extentCommitZero_fromHook {cache : ExtentState} {extent : Edata} {others : List Edata}
    {state : σ}
    (isReturned : (extentCommitZero memory hooks cache extent rest others alignment zero
      state).returned = some returned) : returned.fromHook = false := by
  unfold extentCommitZero at isReturned
  split at isReturned
  · cases isReturned
  · obtain rfl := Option.some.inj isReturned
    rfl

/-- `extent_dalloc_wrapper` returns no extent. -/
theorem extentDallocWrapper_returned {extent : Edata} {outcome purge : ω}
    (called : extentDallocWrapper hooks extent outcome purge arena = some after) :
    after.returned = none := by
  unfold extentDallocWrapper at called
  split at called
  · obtain ⟨⟨failed, next⟩, -, rfl⟩ := Option.map_eq_some_iff.mp called
    dsimp only
    split_ifs <;> rfl
  · cases called

/-- Only `extent_alloc_wrapper` returns an extent straight from the hook. -/
theorem extentStep_returned {call : ExtentCall ω}
    (stepped : extentStep memory hooks page call arena = some after)
    (isReturned : after.returned = some returned) :
    returned.fromHook = false ∨ ∃ newAddr size alignment zero outcome grant,
      call = .allocWrapper newAddr size alignment zero outcome ∧
        hooks.alloc newAddr size alignment zero true outcome arena.state =
          some (some grant, after.state) ∧
        returned.extent.start = grant.addr ∧ returned.alignment = alignment := by
  cases call with
  | growRetained allocSize size alignment zero outcome =>
      obtain ⟨⟨granted, next⟩, -, rest⟩ := Option.bind_eq_some_iff.mp stepped
      dsimp only at rest
      split at rest
      · obtain rfl := Option.some.inj rest
        cases isReturned
      · split at rest
        · cases rest
        · obtain rfl := Option.some.inj rest
          cases isReturned
        · obtain rfl := Option.some.inj rest
          exact Or.inl (extentCommitZero_fromHook isReturned)
  | allocWrapper newAddr size alignment zero outcome =>
      obtain ⟨⟨granted, next⟩, allocated, rfl⟩ := Option.map_eq_some_iff.mp stepped
      cases granted with
      | none => cases isReturned
      | some grant =>
          obtain rfl := Option.some.inj isReturned
          exact Or.inr ⟨newAddr, size, alignment, zero, outcome, grant, rfl, allocated, rfl, rfl⟩
  | recycle cached size alignment zero =>
      change extentRecycle memory hooks cached size alignment zero arena = some after at stepped
      unfold extentRecycle at stepped
      split at stepped
      · dsimp only at stepped
        split at stepped
        · cases stepped
        · obtain rfl := Option.some.inj stepped
          cases isReturned
        · obtain rfl := Option.some.inj stepped
          exact Or.inl (extentCommitZero_fromHook isReturned)
      · cases stepped
  | expand extent trail outcome purge =>
      change pacExpand hooks extent trail outcome purge arena = some after at stepped
      unfold pacExpand at stepped
      split at stepped
      · split at stepped
        · rw [extentDallocWrapper_returned stepped] at isReturned
          cases isReturned
        · obtain rfl := Option.some.inj stepped
          cases isReturned
      · cases stepped
  | dallocWrapper extent outcome purge =>
      rw [extentDallocWrapper_returned stepped] at isReturned
      cases isReturned
  | coalesce | cacheDalloc | shrink | purge | destroy | store =>
      -- These calls return no extent.
      refine absurd isReturned ?_
      simp only [extentStep, extentCoalesce, ecacheDalloc, pacShrink, pacPurge, extentDestroyWrapper,
        userStore] at stepped
      split at stepped
      · try split at stepped
        all_goals
          obtain rfl := Option.some.inj stepped
          nofun
      · cases stepped

end Returned

section Pages

/-- A page of four is used. -/
def usedPage {ω : Type} (outcome : ω) : List (ExtentCall ω) :=
  [.growRetained 0x4000 0x1000 0x1000 false outcome, .store 0x10010 7]

/-- A page that was used is freed, and then taken again for a request of zeros. -/
def reusedPage {ω : Type} (outcome : ω) : List (ExtentCall ω) :=
  usedPage outcome ++ [.cacheDalloc ⟨0x10000, 0x1000, .active, true, true⟩,
    .recycle ⟨0x10000, 0x1000, .dirty, false, true⟩ 0x1000 0x1000 true]

variable {σ ω : Type} {memory : ByteMemory σ} {hooks : ExtentHooks σ ω}
  {request : (newAddr size alignment : Nat) → ω → σ → Prop} {returns released : ω → Prop}
  {outcome : ω} {state : σ} (asked : request 0 0x4000 0x1000 outcome state)

include asked

theorem usedPage_valid :
    Guarded (extentStep memory hooks 0x1000) (ExtentCall.Valid 0x1000 request returns released)
      ⟨state, [], none⟩ (usedPage outcome) :=
  fun _ _ => ⟨⟨by decide, by decide, by decide, by decide, asked⟩, fun _ _ => ⟨trivial, trivial⟩⟩

theorem reusedPage_valid :
    Guarded (extentStep memory hooks 0x1000) (ExtentCall.Valid 0x1000 request returns released)
      ⟨state, [], none⟩ (reusedPage outcome) :=
  (usedPage_valid asked).append _ fun _ _ => fun _ _ => ⟨trivial, fun _ _ =>
    ⟨⟨by decide, by decide, by decide⟩, trivial⟩⟩

end Pages

end Memkind
