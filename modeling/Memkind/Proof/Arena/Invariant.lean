/-
This file states the ownership of arenas and derives it from the invariant of the arenas.
-/

import Memkind.Proof.Arena.Steps

namespace Memkind

open Library

variable {run : ArenaRun} {pointer : KindPtr} {len first : Nat} {free : List Nat}

/-- The arenas together with the indices that were created for each live kind. -/
structure ArenaRun where
  arena : ArenaState
  created : KindPtr → Option (List Nat)

/-- A kind is live from the creation of its arenas to their destruction. -/
def ArenaRun.Live (run : ArenaRun) (pointer : KindPtr) : Prop :=
  (run.created pointer).isSome

/-- The index lies in the range that `arena_zero` and the number of arenas describe. -/
def ArenaRun.InRange (run : ArenaRun) (len : Nat) (pointer : KindPtr) (index : Nat) : Prop :=
  (run.arena.kinds pointer).arenaZero ≤ index ∧
    index < (run.arena.kinds pointer).arenaZero + len

/-- Every thread of a kind uses an arena that leads back to the kind. -/
def ArenaRun.DetectsKind (run : ArenaRun) (pointer : KindPtr) : Prop :=
  ∀ hash arena, arena = threadArena (run.arena.kinds pointer) hash ∨
      arena = threadArenaTls (run.arena.kinds pointer) hash →
    getKindByArena run.arena arena = some (some pointer) ∧
      ∀ arenalookupx ptr, ptr ≠ 0 → arenalookupx ptr = arena →
        memkindArenaDetectKind arenalookupx ptr run.arena = some (some pointer)

/-- The live kinds own disjoint ranges of arenas, and the registry describes them. -/
structure ArenaRun.Ownership (len : Nat) (run : ArenaRun) : Prop where
  created : ∀ pointer created, run.created pointer = some created →
    ∀ index, index ∈ created ↔ run.InRange len pointer index
  disjoint : ∀ pointer other index, run.Live pointer → run.Live other → pointer ≠ other →
    run.InRange len pointer index → ¬run.InRange len other index
  registered : ∀ pointer index, run.Live pointer → run.InRange len pointer index →
    run.arena.arenaRegistry index = some pointer
  unregistered : ∀ index, (∀ pointer, run.Live pointer → ¬run.InRange len pointer index) →
    run.arena.arenaRegistry index = none
  detects : ∀ pointer, run.Live pointer → run.DetectsKind pointer

/-- The base of the range of each live kind. -/
def ArenaRun.bases (run : ArenaRun) (pointer : KindPtr) : Option Nat :=
  (run.created pointer).map fun _ => (run.arena.kinds pointer).arenaZero

/-- The invariant of the arenas, with the blocks that the pool holds. -/
structure ArenaRun.Sound (len first : Nat) (run : ArenaRun) (free : List Nat) : Prop where
  blocks : BlocksSound len first run.arena.jemalloc.pool run.bases free
  low : first ≤ run.arena.jemalloc.pool.fresh
  created : ∀ pointer created, run.created pointer = some created →
    ∀ index, index ∈ created ↔ run.InRange len pointer index
  sized : ∀ pointer, run.Live pointer → 0 < len ∧ len < 2 ^ 32 ∧
    (run.arena.kinds pointer).arenaMapLen = len ∧
    (run.arena.kinds pointer).arenaMapMask = len - 1
  within : ∀ pointer, run.Live pointer →
    (run.arena.kinds pointer).arenaZero + len ≤ mallocxArenaMax
  initialized : ∀ pointer index, run.Live pointer → run.InRange len pointer index →
    run.arena.jemalloc.initialized index = true
  registered : ∀ pointer index, run.Live pointer → run.InRange len pointer index →
    run.arena.arenaRegistry index = some pointer
  unregistered : ∀ index, (∀ pointer, run.Live pointer → ¬run.InRange len pointer index) →
    run.arena.arenaRegistry index = none

theorem ArenaRun.bases_eq_some (live : run.Live pointer) :
    run.bases pointer = some (run.arena.kinds pointer).arenaZero := by
  obtain ⟨created, found⟩ := Option.isSome_iff_exists.mp live
  rw [bases, found, Option.map_some]

theorem ArenaRun.Sound.disjoint (sound : run.Sound len first free) {other : KindPtr} {index : Nat}
    (live : run.Live pointer) (otherLive : run.Live other) (different : pointer ≠ other)
    (inside : run.InRange len pointer index) : ¬run.InRange len other index := by
  intro otherInside
  have apart := sound.blocks.heldApart pointer other _ _ different (bases_eq_some live)
    (bases_eq_some otherLive)
  unfold InRange at inside otherInside
  unfold Apart at apart
  omega

/-- A masked or reduced hash is an offset of the range. -/
theorem ArenaRun.Sound.thread_inRange (sound : run.Sound len first free) (live : run.Live pointer)
    (hash : BitVec 64) :
    run.InRange len pointer (threadArena (run.arena.kinds pointer) hash) ∧
      run.InRange len pointer (threadArenaTls (run.arena.kinds pointer) hash) := by
  obtain ⟨positive, -, mapLen, mask⟩ := sound.sized pointer live
  have within := sound.within pointer live
  unfold mallocxArenaMax at within
  constructor
  · have masked : hash.toNat &&& (len - 1) ≤ len - 1 := Nat.and_le_right
    unfold threadArena InRange
    rw [mask]
    omega
  · have reduced := Nat.mod_lt hash.toNat positive
    unfold threadArenaTls InRange
    rw [mapLen]
    omega

/-- The arenas of every thread lead back to the kind. -/
theorem ArenaRun.Sound.detects (sound : run.Sound len first free) (live : run.Live pointer) :
    run.DetectsKind pointer := by
  intro hash arena chosen
  have inside : run.InRange len pointer arena := by
    obtain ⟨plain, tls⟩ := sound.thread_inRange live hash
    rcases chosen with rfl | rfl
    · exact plain
    · exact tls
  have within := sound.within pointer live
  have bound : arena < mallocxArenaMax := by
    have high := inside.2
    omega
  have found : getKindByArena run.arena arena = some (some pointer) := by
    rw [getKindByArena, if_pos bound, sound.registered pointer arena live inside]
  refine ⟨found, ?_⟩
  intro arenalookupx ptr nonzero lookup
  have word : arenalookupx ptr % 2 ^ 32 = arena := by
    unfold mallocxArenaMax at bound
    omega
  rw [memkindArenaDetectKind, if_neg nonzero, word, found]
  rfl

/-- The invariant gives the ownership. -/
theorem ArenaRun.Sound.ownership (sound : run.Sound len first free) : run.Ownership len where
  created := sound.created
  disjoint _ _ _ live otherLive different inside :=
    sound.disjoint live otherLive different inside
  registered := sound.registered
  unregistered := sound.unregistered
  detects _ live := sound.detects live

end Memkind
