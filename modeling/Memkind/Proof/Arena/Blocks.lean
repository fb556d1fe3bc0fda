/-
This file shows that the invariant of the arenas survives when a kind gains or loses its block.
-/

import Memkind.Proof.Arena.Invariant

namespace Memkind

open Library

variable {arenas rest : List Nat} {len base first : Nat} {run next : ArenaRun}
  {pointer other : KindPtr}

/-- What changes when a kind gains a block of arenas. -/
structure ArenaRun.Gained (len : Nat) (run next : ArenaRun) (pointer : KindPtr) (base : Nat)
    (arenas : List Nat) : Prop where
  positive : 0 < len
  bounded : len < 2 ^ 32
  idle : run.created pointer = none
  createdNew : next.created pointer = some arenas
  createdOther : ∀ other, other ≠ pointer → next.created other = run.created other
  kindOther : ∀ other, other ≠ pointer → next.arena.kinds other = run.arena.kinds other
  block : ∀ index, index ∈ arenas ↔ base ≤ index ∧ index < base + len
  zero : (next.arena.kinds pointer).arenaZero = base
  mapLen : (next.arena.kinds pointer).arenaMapLen = len
  mask : (next.arena.kinds pointer).arenaMapMask = len - 1
  within : base + len ≤ mallocxArenaMax
  initialized : ∀ index, next.arena.jemalloc.initialized index =
    (decide (index ∈ arenas) || run.arena.jemalloc.initialized index)
  registry : ∀ index, next.arena.arenaRegistry index =
    if index ∈ arenas then some pointer else run.arena.arenaRegistry index

/-- A kind that is live afterwards is the new one or another one that was live before. -/
theorem ArenaRun.Gained.live_cases (gained : ArenaRun.Gained len run next pointer base arenas)
    (live : next.Live other) : other = pointer ∨ (other ≠ pointer ∧ run.Live other) := by
  by_cases same : other = pointer
  · exact Or.inl same
  · rw [Live, gained.createdOther other same] at live
    exact Or.inr ⟨same, live⟩

theorem ArenaRun.Gained.inRange_new (gained : ArenaRun.Gained len run next pointer base arenas)
    (index : Nat) :
    next.InRange len pointer index ↔ index ∈ arenas := by
  rw [InRange, gained.zero, gained.block]

theorem ArenaRun.Gained.inRange_other (gained : ArenaRun.Gained len run next pointer base arenas)
    (different : other ≠ pointer) (index : Nat) :
    next.InRange len other index ↔ run.InRange len other index := by
  rw [InRange, InRange, gained.kindOther other different]

theorem ArenaRun.Gained.bases_eq (gained : ArenaRun.Gained len run next pointer base arenas) :
    next.bases = Function.update run.bases pointer (some base) := by
  funext other
  by_cases same : other = pointer
  · subst same
    rw [bases, gained.createdNew, gained.zero, Option.map_some, Function.update_self]
  · rw [Function.update_of_ne same, bases, bases, gained.createdOther other same,
      gained.kindOther other same]

/-- The gained arenas are not in the range of another live kind. -/
theorem ArenaRun.Gained.not_mem_of_other {index : Nat}
    (gained : ArenaRun.Gained len run next pointer base arenas)
    (blocks : BlocksSound len first next.arena.jemalloc.pool
      (Function.update run.bases pointer (some base)) rest) (different : other ≠ pointer)
    (live : run.Live other) (inside : run.InRange len other index) :
    index ∉ arenas := by
  intro member
  have range := (gained.block index).mp member
  have apart := blocks.heldApart pointer other base _ different.symm (Function.update_self _ _ _)
    ((Function.update_of_ne different _ _).trans (bases_eq_some live))
  unfold InRange at inside
  unfold Apart at apart
  omega

/-- A gained block keeps the invariant. -/
theorem ArenaRun.Sound.gained_kept {free : List Nat} (sound : run.Sound len first free)
    (gained : ArenaRun.Gained len run next pointer base arenas)
    (low : first ≤ next.arena.jemalloc.pool.fresh)
    (blocks : BlocksSound len first next.arena.jemalloc.pool
      (Function.update run.bases pointer (some base)) rest) :
    next.Sound len first rest where
  blocks := by
    rw [gained.bases_eq]
    exact blocks
  low := low
  created := by
    intro other list found index
    by_cases same : other = pointer
    · subst same
      rw [gained.createdNew] at found
      obtain rfl := Option.some.inj found
      exact (gained.inRange_new index).symm
    · rw [gained.createdOther other same] at found
      rw [gained.inRange_other same]
      exact sound.created other list found index
  sized := by
    intro other live
    rcases gained.live_cases live with rfl | ⟨different, before⟩
    · exact ⟨gained.positive, gained.bounded, gained.mapLen, gained.mask⟩
    · rw [gained.kindOther other different]
      exact sound.sized other before
  within := by
    intro other live
    rcases gained.live_cases live with rfl | ⟨different, before⟩
    · rw [gained.zero]
      exact gained.within
    · rw [gained.kindOther other different]
      exact sound.within other before
  initialized := by
    intro other index live inside
    rw [gained.initialized]
    rcases gained.live_cases live with rfl | ⟨different, before⟩
    · rw [decide_eq_true ((gained.inRange_new index).mp inside), Bool.true_or]
    · rw [gained.inRange_other different] at inside
      rw [sound.initialized other index before inside, Bool.or_true]
  registered := by
    intro other index live inside
    rw [gained.registry]
    rcases gained.live_cases live with rfl | ⟨different, before⟩
    · rw [if_pos ((gained.inRange_new index).mp inside)]
    · rw [gained.inRange_other different] at inside
      rw [if_neg (gained.not_mem_of_other blocks different before inside)]
      exact sound.registered other index before inside
  unregistered := by
    intro index outside
    have new : index ∉ arenas := by
      intro member
      apply outside pointer _ ((gained.inRange_new index).mpr member)
      rw [Live, gained.createdNew, Option.isSome_some]
    rw [gained.registry, if_neg new]
    apply sound.unregistered index
    intro other live inside
    have different : other ≠ pointer := by
      intro equal
      subst equal
      rw [Live, gained.idle] at live
      cases live
    apply outside other _ ((gained.inRange_other different index).mpr inside)
    rw [Live, gained.createdOther other different]
    exact live

/-- What changes when a kind loses its block of arenas. -/
structure ArenaRun.Lost (len : Nat) (run next : ArenaRun) (pointer : KindPtr) : Prop where
  live : run.Live pointer
  createdNone : next.created pointer = none
  createdOther : ∀ other, other ≠ pointer → next.created other = run.created other
  kinds : next.arena.kinds = run.arena.kinds
  initialized : ∀ index, ¬run.InRange len pointer index →
    next.arena.jemalloc.initialized index = run.arena.jemalloc.initialized index
  inside : ∀ index, run.InRange len pointer index → next.arena.arenaRegistry index = none
  outside : ∀ index, ¬run.InRange len pointer index →
    next.arena.arenaRegistry index = run.arena.arenaRegistry index

/-- A kind that is live afterwards is another one that was live before. -/
theorem ArenaRun.Lost.live_before (lost : ArenaRun.Lost len run next pointer)
    (live : next.Live other) :
    other ≠ pointer ∧ run.Live other := by
  have different : other ≠ pointer := by
    intro equal
    subst equal
    rw [Live, lost.createdNone] at live
    cases live
  rw [Live, lost.createdOther other different] at live
  exact ⟨different, live⟩

theorem ArenaRun.Lost.inRange_iff (lost : ArenaRun.Lost len run next pointer) (other : KindPtr)
    (index : Nat) :
    next.InRange len other index ↔ run.InRange len other index := by
  rw [InRange, InRange, lost.kinds]

theorem ArenaRun.Lost.bases_eq (lost : ArenaRun.Lost len run next pointer) :
    next.bases = Function.update run.bases pointer none := by
  funext other
  by_cases same : other = pointer
  · subst same
    rw [bases, lost.createdNone, Option.map_none, Function.update_self]
  · rw [Function.update_of_ne same, bases, bases, lost.createdOther other same, lost.kinds]

/-- A lost block keeps the invariant. -/
theorem ArenaRun.Sound.lost_kept {free : List Nat} (sound : run.Sound len first free)
    (lost : ArenaRun.Lost len run next pointer) (low : first ≤ next.arena.jemalloc.pool.fresh)
    (blocks : BlocksSound len first next.arena.jemalloc.pool
      (Function.update run.bases pointer none) rest) :
    next.Sound len first rest where
  blocks := by
    rw [lost.bases_eq]
    exact blocks
  low := low
  created := by
    intro other list found index
    have different : other ≠ pointer := by
      intro equal
      subst equal
      rw [lost.createdNone] at found
      cases found
    rw [lost.createdOther other different] at found
    rw [lost.inRange_iff]
    exact sound.created other list found index
  sized := by
    intro other live
    rw [lost.kinds]
    exact sound.sized other (lost.live_before live).2
  within := by
    intro other live
    rw [lost.kinds]
    exact sound.within other (lost.live_before live).2
  initialized := by
    intro other index live inside
    obtain ⟨different, before⟩ := lost.live_before live
    rw [lost.inRange_iff] at inside
    rw [lost.initialized index (sound.disjoint before lost.live different inside)]
    exact sound.initialized other index before inside
  registered := by
    intro other index live inside
    obtain ⟨different, before⟩ := lost.live_before live
    rw [lost.inRange_iff] at inside
    rw [lost.outside index (sound.disjoint before lost.live different inside)]
    exact sound.registered other index before inside
  unregistered := by
    intro index outside
    by_cases own : run.InRange len pointer index
    · exact lost.inside index own
    · rw [lost.outside index own]
      apply sound.unregistered index
      intro other live inside
      have different : other ≠ pointer := by
        intro equal
        subst equal
        exact own inside
      apply outside other _ ((lost.inRange_iff other index).mpr inside)
      rw [Live, lost.createdOther other different]
      exact live

end Memkind
