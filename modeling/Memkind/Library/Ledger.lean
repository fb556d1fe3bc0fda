/-
This file moves amounts between the places of a ledger.
-/

import Mathlib.Algebra.BigOperators.Group.Finset.Piecewise
import Mathlib.Algebra.BigOperators.Group.List.Basic
import Mathlib.Data.BitVec
import Mathlib.Tactic.Abel

namespace Memkind.Library

variable {Place Amount : Type*} [Fintype Place] [DecidableEq Place] [AddCommGroup Amount]

/-- One changed place changes the sum by the difference of its amounts. -/
theorem sum_update (ledger : Place → Amount) (place : Place) (amount : Amount) :
    ∑ other, Function.update ledger place amount other =
      ∑ other, ledger other + (amount - ledger place) := by
  rw [Finset.sum_update_of_mem (Finset.mem_univ place), Finset.sdiff_singleton_eq_erase,
    ← Finset.add_sum_erase Finset.univ ledger (Finset.mem_univ place)]
  abel

/-- A marked place that takes an amount changes the marked sum by the difference of its marks. -/
theorem sum_mark_update {Label : Type*} (mark : Label → Amount) (labels : Place → Label)
    (place : Place) (label : Label) :
    ∑ other, mark (Function.update labels place label other) =
      ∑ other, mark (labels other) + (mark label - mark (labels place)) := by
  have marked : (fun other => mark (Function.update labels place label other)) =
      Function.update (fun other => mark (labels other)) place (mark label) := by
    funext other
    exact Function.apply_update (fun _ => mark) labels place label other
  rw [marked, sum_update]

/-- A sum of words is the sum of their numbers modulo the word size. -/
theorem toNat_sum {Index : Type*} {width : Nat} (indices : Finset Index)
    (words : Index → BitVec width) :
    (∑ index ∈ indices, words index).toNat =
      (∑ index ∈ indices, (words index).toNat) % 2 ^ width := by
  classical
  induction indices using Finset.induction_on with
  | empty => simp
  | insert index rest outside ih =>
      rw [Finset.sum_insert outside, Finset.sum_insert outside, BitVec.toNat_add, ih,
        Nat.add_mod_mod]

/-- The weights of the items that meet a test, added up. -/
def weightWhere {Item : Type*} (weight : Item → Nat) (test : Item → Bool) (items : List Item) :
    Nat :=
  ((items.filter test).map weight).sum

section Weights

variable {Item : Type*} (weight : Item → Nat) (test : Item → Bool)

theorem weightWhere_cons (item : Item) (items : List Item) :
    weightWhere weight test (item :: items) =
      (if test item then weight item else 0) + weightWhere weight test items := by
  unfold weightWhere
  rw [List.filter_cons]
  split
  · rw [List.map_cons, List.sum_cons]
  · rw [zero_add]

theorem weightWhere_erase [DecidableEq Item] {item : Item} {items : List Item}
    (member : item ∈ items) :
    weightWhere weight test items =
      (if test item then weight item else 0) + weightWhere weight test (items.erase item) := by
  rw [← weightWhere_cons]
  exact (((List.perm_cons_erase member).filter test).map weight).sum_eq

/-- The items that meet a test weigh no more than all items. -/
theorem weightWhere_le (items : List Item) :
    weightWhere weight test items ≤ (items.map weight).sum := by
  induction items with
  | nil => exact Nat.le_refl 0
  | cons item rest ih =>
      rw [weightWhere_cons, List.map_cons, List.sum_cons]
      split
      · exact Nat.add_le_add_left ih _
      · rw [zero_add]
        exact Nat.le_add_left_of_le ih

end Weights

end Memkind.Library
