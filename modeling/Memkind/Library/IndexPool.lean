/-
This file follows a pool of indices that hands out the most recently returned index first, and
owners that take and return whole blocks of indices.
-/

import Mathlib.Data.List.Nodup
import Mathlib.Data.List.Perm.Subperm
import Mathlib.Data.List.Range
import Mathlib.Logic.Function.Basic

namespace Memkind.Library

/-- The returned indices, the last one first, and the first index that was never handed out. -/
structure IndexPool where
  fresh : Nat
  returned : List Nat

/-- The index that the pool hands out next. -/
def IndexPool.next (pool : IndexPool) : Nat := pool.returned.headD pool.fresh

/-- The pool after it has handed out one index. -/
def IndexPool.take (pool : IndexPool) : IndexPool :=
  match pool.returned with
  | [] => { pool with fresh := pool.fresh + 1 }
  | _ :: rest => { pool with returned := rest }

/-- The pool after one index has come back. -/
def IndexPool.give (pool : IndexPool) (index : Nat) : IndexPool :=
  { pool with returned := index :: pool.returned }

/-- The indices of several requests and the pool after them. -/
def IndexPool.takeMany (pool : IndexPool) : Nat → List Nat × IndexPool
  | 0 => ([], pool)
  | count + 1 => (pool.next :: (pool.take.takeMany count).1, (pool.take.takeMany count).2)

/-- A pool with returned indices hands them out from the front. -/
theorem IndexPool.takeMany_returned (pool : IndexPool) (front rest : List Nat)
    (returned : pool.returned = front ++ rest) :
    pool.takeMany front.length = (front, { pool with returned := rest }) := by
  induction front generalizing pool with
  | nil =>
      obtain ⟨fresh, returnedList⟩ := pool
      obtain rfl : returnedList = rest := returned
      rfl
  | cons index front ih =>
      have taken : pool.take = { pool with returned := front ++ rest } := by
        rw [take, returned, List.cons_append]
      have first : pool.next = index := by
        rw [next, returned, List.cons_append, List.headD_cons]
      have tail := ih pool.take (by rw [taken])
      rw [List.length_cons, takeMany, tail, first, taken]

/-- A pool without returned indices hands out consecutive fresh ones. -/
theorem IndexPool.takeMany_fresh (pool : IndexPool) (count : Nat) (empty : pool.returned = []) :
    pool.takeMany count =
      (List.range' pool.fresh count, { pool with fresh := pool.fresh + count }) := by
  induction count generalizing pool with
  | zero => rfl
  | succ count ih =>
      have taken : pool.take = { pool with fresh := pool.fresh + 1 } := by
        rw [take, empty]
      have first : pool.next = pool.fresh := by
        rw [next, empty, List.headD_nil]
      have tail := ih pool.take (by rw [taken, empty])
      rw [takeMany, tail, first, taken, List.range'_succ, Nat.add_right_comm, Nat.add_assoc]

/-- The returned indices are handed out first and the fresh ones after them. -/
theorem IndexPool.takeMany_indices (pool : IndexPool) (count : Nat) :
    (pool.takeMany count).1 = pool.returned.take count ++
      List.range' pool.fresh (count - pool.returned.length) := by
  induction count generalizing pool with
  | zero => simp [takeMany]
  | succ count ih =>
      obtain ⟨fresh, returned⟩ := pool
      cases returned with
      | nil =>
          rw [takeMany, ih]
          simp [take, next, List.range'_succ]
      | cons index rest =>
          rw [takeMany, ih]
          simp [take, next]

/-- A pool whose returned indices are distinct and were handed out before hands out distinct
indices. -/
theorem IndexPool.takeMany_nodup {pool : IndexPool} (distinct : pool.returned.Nodup)
    (below : ∀ index ∈ pool.returned, index < pool.fresh) (count : Nat) :
    (pool.takeMany count).1.Nodup := by
  rw [takeMany_indices]
  apply List.Nodup.append
  · exact distinct.take
  · exact List.nodup_range'
  · intro index old new
    have low := below index (List.mem_of_mem_take old)
    have high := (List.mem_range'_1.mp new).1
    omega

theorem IndexPool.takeMany_length (pool : IndexPool) (count : Nat) :
    (pool.takeMany count).1.length = count := by
  rw [takeMany_indices, List.length_append, List.length_take, List.length_range']
  omega

/-- The next indices of a pool form one range. -/
def IndexPool.Contiguous (pool : IndexPool) (count : Nat) : Prop :=
  ∃ base, ∀ index, index ∈ (pool.takeMany count).1 ↔ base ≤ index ∧ index < base + count

/-- The index that the pool hands out after `count` others: a returned one, or a fresh one behind
all of them. -/
def IndexPool.nth (pool : IndexPool) (count : Nat) : Nat :=
  pool.returned.getD count (pool.fresh + (count - pool.returned.length))

@[simp] theorem IndexPool.nth_zero (pool : IndexPool) : pool.nth 0 = pool.next := by
  obtain ⟨fresh, returned⟩ := pool
  cases returned <;> simp [nth, next]

@[simp] theorem IndexPool.take_nth (pool : IndexPool) (count : Nat) :
    pool.take.nth count = pool.nth (count + 1) := by
  obtain ⟨fresh, returned⟩ := pool
  cases returned with
  | nil =>
      simp only [nth, take, List.getD_nil, List.length_nil]
      omega
  | cons index rest => simp [nth, take]

/-- One more index comes after the others. -/
theorem IndexPool.takeMany_succ (pool : IndexPool) (count : Nat) :
    (pool.takeMany (count + 1)).1 = (pool.takeMany count).1 ++ [pool.nth count] := by
  induction count generalizing pool with
  | zero => simp [takeMany]
  | succ count ih =>
      rw [takeMany, ih pool.take, take_nth]
      rfl

/-- The index on top of the returned ones is not needed: where the next two or more indices form a
range, it is the lowest of them, and the range goes on with the index behind them. -/
def IndexPool.TopSpare (pool : IndexPool) : Prop :=
  pool.returned = [] ∨ ∀ count base, 2 ≤ count →
    (∀ index, index ∈ (pool.takeMany count).1 ↔ base ≤ index ∧ index < base + count) →
      pool.next = base ∧ pool.nth count = base + count

section Spare

variable {pool : IndexPool} (distinct : pool.returned.Nodup)
  (below : ∀ index ∈ pool.returned, index < pool.fresh)

include distinct below

/-- Without the first index the others move up by one. -/
theorem IndexPool.mem_take_takeMany (count index : Nat) :
    index ∈ (pool.take.takeMany count).1 ↔
      (index ∈ (pool.takeMany count).1 ∨ index = pool.nth count) ∧ index ≠ pool.next := by
  have unique := takeMany_nodup distinct below (count + 1)
  have split : pool.next :: (pool.take.takeMany count).1 =
      (pool.takeMany count).1 ++ [pool.nth count] := pool.takeMany_succ count
  have same : index = pool.next ∨ index ∈ (pool.take.takeMany count).1 ↔
      index ∈ (pool.takeMany count).1 ∨ index = pool.nth count := by
    rw [← List.mem_cons, split, List.mem_append, List.mem_singleton]
  have first : pool.next ∉ (pool.take.takeMany count).1 := (List.nodup_cons.mp unique).1
  rw [← same]
  constructor
  · intro member
    exact ⟨.inr member, fun top => first (top ▸ member)⟩
  · rintro ⟨top | member, different⟩
    · exact absurd top different
    · exact member

/-- Two ranges that differ by the first index and the one behind them. -/
theorem IndexPool.range_moved {count base other : Nat} (several : 2 ≤ count)
    (range : ∀ index, index ∈ (pool.takeMany count).1 ↔ base ≤ index ∧ index < base + count)
    (moved : ∀ index, index ∈ (pool.take.takeMany count).1 ↔
      other ≤ index ∧ index < other + count) :
    pool.next = base ∧ pool.nth count = base + count ∨
      pool.next + 1 = base + count ∧ pool.nth count + 1 = base := by
  have unique := takeMany_nodup distinct below (count + 1)
  rw [takeMany_succ] at unique
  have last : pool.nth count ∉ (pool.takeMany count).1 := by
    intro member
    exact (List.nodup_append.mp unique).2.2 _ member _ (List.mem_singleton_self _) rfl
  have step : ∀ index, (other ≤ index ∧ index < other + count) ↔
      ((base ≤ index ∧ index < base + count) ∨ index = pool.nth count) ∧ index ≠ pool.next := by
    intro index
    rw [← moved, ← range]
    exact mem_take_takeMany distinct below count index
  have first : pool.next ∈ (pool.takeMany count).1 := by
    obtain ⟨fewer, rfl⟩ := Nat.exists_eq_add_of_le' (Nat.le_of_succ_le several)
    exact List.mem_cons_self
  rw [range] at last first
  have lowest := step base
  have second := step (base + 1)
  have highest := step (base + count - 1)
  have beforeHighest := step (base + count - 2)
  have behind := step (pool.nth count)
  omega

/-- A pool can lose its top index exactly when every range that it would have handed out stays
one. -/
theorem IndexPool.topSpare_iff :
    pool.TopSpare ↔ ∀ count, pool.Contiguous count →
      IndexPool.Contiguous { pool with returned := pool.returned.tail } count := by
  by_cases empty : pool.returned = []
  · refine iff_of_true (.inl empty) fun count range => ?_
    rwa [empty, List.tail_nil, ← empty]
  have taken : { pool with returned := pool.returned.tail } = pool.take := by
    obtain ⟨top, rest, returned⟩ := List.exists_cons_of_ne_nil empty
    rw [take, returned, List.tail_cons]
  rw [taken, TopSpare, or_iff_right empty]
  constructor
  · rintro spare count ⟨base, range⟩
    obtain rfl | rfl | several : count = 0 ∨ count = 1 ∨ 2 ≤ count := by omega
    · exact ⟨0, fun index => iff_of_false List.not_mem_nil (by omega)⟩
    · refine ⟨pool.take.next, fun index => ?_⟩
      rw [takeMany, takeMany, List.mem_singleton]
      omega
    · obtain ⟨first, behind⟩ := spare count base several range
      refine ⟨base + 1, fun index => ?_⟩
      rw [mem_take_takeMany distinct below, range, first, behind]
      omega
  · intro keeps
    -- A top index above its range would push the ranges down for ever.
    have never : ∀ base count, 2 ≤ count →
        (∀ index, index ∈ (pool.takeMany count).1 ↔ base ≤ index ∧ index < base + count) →
        pool.next + 1 ≠ base + count := by
      intro base
      induction base with
      | zero =>
          intro count several range top
          obtain ⟨other, moved⟩ := keeps count ⟨0, range⟩
          have cases := range_moved distinct below several range moved
          omega
      | succ base ih =>
          intro count several range top
          obtain ⟨other, moved⟩ := keeps count ⟨base + 1, range⟩
          have cases := range_moved distinct below several range moved
          refine ih (count + 1) (by omega) (fun index => ?_) (by omega)
          rw [takeMany_succ, List.mem_append, List.mem_singleton, range]
          omega
    intro count base several range
    obtain ⟨other, moved⟩ := keeps count ⟨base, range⟩
    obtain spare | ⟨top, -⟩ := range_moved distinct below several range moved
    · exact spare
    · exact absurd top (never base count several range)

end Spare

/-- Distinct indices between two bounds are no more than the distance of the bounds. -/
theorem length_le_of_nodup {indices : List Nat} {low high : Nat} (distinct : indices.Nodup)
    (above : ∀ index ∈ indices, low ≤ index) (below : ∀ index ∈ indices, index < high) :
    indices.length ≤ high - low := by
  have inside : indices ⊆ List.range' low (high - low) := by
    intro index member
    have lower := above index member
    have upper := below index member
    rw [List.mem_range'_1]
    omega
  have shorter := (distinct.subperm inside).length_le
  rwa [List.length_range'] at shorter

/-- The pool after several indices have come back in order. -/
def IndexPool.giveMany (pool : IndexPool) (indices : List Nat) : IndexPool :=
  indices.foldl IndexPool.give pool

theorem IndexPool.giveMany_eq (pool : IndexPool) (indices : List Nat) :
    pool.giveMany indices = { pool with returned := indices.reverse ++ pool.returned } := by
  induction indices generalizing pool with
  | nil => rfl
  | cons index rest ih =>
      have tail := ih (pool.give index)
      rw [giveMany] at tail
      rw [giveMany, List.foldl_cons, tail, give, List.reverse_cons, List.append_assoc,
        List.singleton_append]

/-- The block of a base in the order in which it comes back last in, first out. -/
def returnedBlock (size base : Nat) : List Nat := (List.range' base size).reverse

/-- Two blocks of one size do not overlap. -/
def Apart (size first second : Nat) : Prop := first + size ≤ second ∨ second + size ≤ first

theorem Apart.symm {size first second : Nat} (apart : Apart size first second) :
    Apart size second first := by
  unfold Apart at *
  omega

/-- The returned indices are whole blocks, and no two blocks of owners or of the pool overlap. -/
structure BlocksSound {Owner : Type*} (size first : Nat) (pool : IndexPool)
    (held : Owner → Option Nat) (bases : List Nat) : Prop where
  returned : pool.returned = bases.flatMap (returnedBlock size)
  basesApart : bases.Pairwise (Apart size)
  heldApart : ∀ owner other base otherBase, owner ≠ other → held owner = some base →
    held other = some otherBase → Apart size base otherBase
  crossApart : ∀ owner base, held owner = some base → ∀ free ∈ bases, Apart size base free
  basesWithin : ∀ free ∈ bases, first ≤ free ∧ free + size ≤ pool.fresh
  heldWithin : ∀ owner base, held owner = some base → first ≤ base ∧ base + size ≤ pool.fresh

section Blocks

variable {Owner : Type*} {size first : Nat} {pool : IndexPool}
  {held : Owner → Option Nat} {bases : List Nat}

/-- Fresh indices that are handed out touch no block. -/
theorem BlocksSound.grow (sound : BlocksSound size first pool held bases) (count : Nat) :
    BlocksSound size first { pool with fresh := pool.fresh + count } held bases := by
  refine ⟨sound.returned, sound.basesApart, sound.heldApart, sound.crossApart, ?_, ?_⟩
  · intro free member
    have bounds := sound.basesWithin free member
    exact ⟨bounds.1, Nat.le_add_right_of_le bounds.2⟩
  · intro owner base holds
    have bounds := sound.heldWithin owner base holds
    exact ⟨bounds.1, Nat.le_add_right_of_le bounds.2⟩

/-- The block on top of the pool may leave it. -/
theorem BlocksSound.pop {base : Nat} (sound : BlocksSound size first pool held (base :: bases)) :
    BlocksSound size first { pool with returned := bases.flatMap (returnedBlock size) } held
      bases := by
  refine ⟨rfl, (List.pairwise_cons.mp sound.basesApart).2, sound.heldApart, ?_, ?_,
    sound.heldWithin⟩
  · intro owner block holds free member
    exact sound.crossApart owner block holds free (List.mem_cons_of_mem base member)
  · intro free member
    exact sound.basesWithin free (List.mem_cons_of_mem base member)

variable [DecidableEq Owner]

/-- An owner may hold a block that is apart from all the others. -/
theorem BlocksSound.hold (sound : BlocksSound size first pool held bases) {owner : Owner}
    {base : Nat}
    (apart : ∀ other otherBase, held other = some otherBase → Apart size base otherBase)
    (freeApart : ∀ free ∈ bases, Apart size base free) (low : first ≤ base)
    (high : base + size ≤ pool.fresh) :
    BlocksSound size first pool (Function.update held owner (some base)) bases := by
  have cases_held : ∀ {taker : Owner} {block : Nat},
      Function.update held owner (some base) taker = some block →
      (taker = owner ∧ block = base) ∨ held taker = some block := by
    intro taker block heldTaker
    by_cases new : taker = owner
    · subst new
      rw [Function.update_self] at heldTaker
      exact Or.inl ⟨rfl, (Option.some.inj heldTaker).symm⟩
    · rw [Function.update_of_ne new] at heldTaker
      exact Or.inr heldTaker
  refine ⟨sound.returned, sound.basesApart, ?_, ?_, sound.basesWithin, ?_⟩
  · intro taker other block otherBlock different heldTaker heldOther
    rcases cases_held heldTaker with ⟨rfl, rfl⟩ | before
    · rcases cases_held heldOther with ⟨rfl, rfl⟩ | otherBefore
      · exact absurd rfl different
      · exact apart other otherBlock otherBefore
    · rcases cases_held heldOther with ⟨-, rfl⟩ | otherBefore
      · exact (apart taker block before).symm
      · exact sound.heldApart taker other block otherBlock different before otherBefore
  · intro taker block heldTaker
    rcases cases_held heldTaker with ⟨rfl, rfl⟩ | heldTaker
    · exact freeApart
    · exact sound.crossApart taker block heldTaker
  · intro taker block heldTaker
    rcases cases_held heldTaker with ⟨rfl, rfl⟩ | heldTaker
    · exact ⟨low, high⟩
    · exact sound.heldWithin taker block heldTaker

/-- An owner that takes as many indices as a block has gets one whole block. -/
theorem BlocksSound.takeBlock (sound : BlocksSound size first pool held bases)
    (low : first ≤ pool.fresh) (owner : Owner) :
    ∃ base rest, (∀ index, index ∈ (pool.takeMany size).1 ↔ base ≤ index ∧ index < base + size) ∧
      pool.fresh ≤ (pool.takeMany size).2.fresh ∧
      BlocksSound size first (pool.takeMany size).2 (Function.update held owner (some base))
        rest := by
  cases bases with
  | nil =>
      rw [pool.takeMany_fresh size sound.returned]
      refine ⟨pool.fresh, [], ?_, Nat.le_add_right _ _, ?_⟩
      · intro index
        exact List.mem_range'_1
      · apply (sound.grow size).hold _ _ low (le_refl _)
        · intro other otherBase holds
          exact Or.inr (sound.heldWithin other otherBase holds).2
        · intro free member
          cases member
  | cons base rest =>
      have returned := sound.returned
      rw [List.flatMap_cons] at returned
      have taken := pool.takeMany_returned _ _ returned
      rw [returnedBlock, List.length_reverse, List.length_range'] at taken
      rw [taken]
      have bounds := sound.basesWithin base List.mem_cons_self
      refine ⟨base, rest, ?_, le_refl _, ?_⟩
      · intro index
        rw [List.mem_reverse, List.mem_range'_1]
      · apply sound.pop.hold _ _ bounds.1 bounds.2
        · intro other otherBase holds
          exact (sound.crossApart other otherBase holds base List.mem_cons_self).symm
        · intro free member
          exact (List.pairwise_cons.mp sound.basesApart).1 free member

/-- A block that comes back index by index becomes the block on top of the pool. -/
theorem BlocksSound.giveBlock (sound : BlocksSound size first pool held bases) {owner : Owner}
    {base : Nat} (holds : held owner = some base) :
    BlocksSound size first (pool.giveMany (List.range' base size))
      (Function.update held owner none) (base :: bases) := by
  have still : ∀ {other : Owner} {block : Nat},
      Function.update held owner none other = some block → other ≠ owner ∧ held other = some block := by
    intro other block heldOther
    by_cases same : other = owner
    · subst same
      rw [Function.update_self] at heldOther
      cases heldOther
    · rw [Function.update_of_ne same] at heldOther
      exact ⟨same, heldOther⟩
  rw [IndexPool.giveMany_eq]
  constructor
  · rw [List.flatMap_cons, ← sound.returned, returnedBlock]
  · exact List.pairwise_cons.mpr ⟨sound.crossApart owner base holds, sound.basesApart⟩
  · intro taker other block otherBlock different heldTaker heldOther
    exact sound.heldApart taker other block otherBlock different (still heldTaker).2
      (still heldOther).2
  · intro taker block heldTaker free member
    obtain ⟨different, heldBefore⟩ := still heldTaker
    rcases List.mem_cons.mp member with rfl | member
    · exact sound.heldApart taker owner block free different heldBefore holds
    · exact sound.crossApart taker block heldBefore free member
  · intro free member
    rcases List.mem_cons.mp member with rfl | member
    · exact sound.heldWithin owner free holds
    · exact sound.basesWithin free member
  · intro taker block heldTaker
    exact sound.heldWithin taker block (still heldTaker).2

end Blocks

end Memkind.Library
