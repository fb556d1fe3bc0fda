/-
This file stacks extents in one direction, so that no two of them overlap.
-/

import Mathlib.Data.List.Basic

namespace Memkind.Library

/-- A range of consecutive positions. -/
structure Extent where
  start : Nat
  size : Nat
  deriving DecidableEq

/-- The position behind the last one. -/
def Extent.stop (extent : Extent) : Nat := extent.start + extent.size

/-- Two extents have no position in common. -/
def Extent.Apart (first second : Extent) : Prop :=
  first.stop ≤ second.start ∨ second.stop ≤ first.start

/-- The extents lie between two positions and do not overlap. -/
structure Stacked (low high : Nat) (extents : List Extent) : Prop where
  within : ∀ extent ∈ extents, low ≤ extent.start ∧ extent.stop ≤ high
  apart : extents.Pairwise Extent.Apart

theorem Stacked.empty (low high : Nat) : Stacked low high [] :=
  ⟨by simp, List.Pairwise.nil⟩

/-- The room above a stack may be skipped. -/
theorem Stacked.skip {low high next : Nat} {extents : List Extent}
    (stacked : Stacked low high extents) (rises : high ≤ next) : Stacked low next extents := by
  refine ⟨?_, stacked.apart⟩
  intro extent member
  have bounds := stacked.within extent member
  exact ⟨bounds.1, Nat.le_trans bounds.2 rises⟩

/-- An extent above all the others extends the stack. -/
theorem Stacked.push {low high next : Nat} {extents : List Extent}
    (stacked : Stacked low high extents) {extent : Extent} (rises : low ≤ high)
    (above : high ≤ extent.start) (below : extent.stop ≤ next) :
    Stacked low next (extent :: extents) := by
  unfold Extent.stop at below
  constructor
  · intro other member
    rcases List.mem_cons.mp member with rfl | member
    · exact ⟨by omega, below⟩
    · have bounds := stacked.within other member
      exact ⟨bounds.1, by omega⟩
  · apply List.pairwise_cons.mpr
    refine ⟨?_, stacked.apart⟩
    intro other member
    have bounds := stacked.within other member
    exact Or.inr (by omega)

end Memkind.Library
