/-
This file routes values by a list of cut points and bounds the position that a value gets.
-/

import Mathlib.Order.Lattice
import Mathlib.Data.List.Basic

namespace Memkind.Library

variable {Value : Type*} [LinearOrder Value]

/-- The position of the first cut above a value. -/
def route (value : Value) : List Value → Nat
  | [] => 0
  | cut :: rest => if value < cut then 0 else route value rest + 1

theorem route_le_length (value : Value) (cuts : List Value) :
    route value cuts ≤ cuts.length := by
  induction cuts with
  | nil => exact Nat.le_refl 0
  | cons cut rest ih =>
      rw [route, List.length_cons]
      split
      · exact Nat.zero_le _
      · exact Nat.succ_le_succ ih

/-- A larger value never gets an earlier position. -/
theorem route_mono {value larger : Value} (ordered : value ≤ larger) (cuts : List Value) :
    route value cuts ≤ route larger cuts := by
  induction cuts with
  | nil => exact Nat.le_refl 0
  | cons cut rest ih =>
      rw [route, route]
      by_cases below : value < cut
      · rw [if_pos below]
        exact Nat.zero_le _
      · rw [if_neg below, if_neg (fun lower => below (lt_of_le_of_lt ordered lower))]
        exact Nat.succ_le_succ ih

/-- Two values get the same position exactly when the first cut above the smaller one is above the
larger one. -/
theorem route_eq_iff {value larger : Value} (ordered : value ≤ larger) (cuts : List Value) :
    route value cuts = route larger cuts ↔
      ∀ cut, cuts.find? (fun cut => value < cut) = some cut → larger < cut := by
  induction cuts with
  | nil => simp [route]
  | cons first rest ih =>
      rw [route, route]
      by_cases below : value < first
      · have found : (first :: rest).find? (fun cut => value < cut) = some first := by
          simp [below]
        rw [if_pos below, found]
        constructor
        · intro same cut equal
          obtain rfl := Option.some.inj equal
          by_contra passed
          rw [if_neg passed] at same
          cases same
        · intro above
          rw [if_pos (above first rfl)]
      · have passed : ¬larger < first := fun lower => below (lt_of_le_of_lt ordered lower)
        have later : (first :: rest).find? (fun cut => value < cut) =
            rest.find? fun cut => value < cut := by
          simp [below]
        rw [if_neg below, if_neg passed, Nat.add_right_cancel_iff, ih, later]

/-- With ascending cuts a value goes behind every cut that it reaches. -/
theorem lt_route {value cut : Value} {cuts : List Value} (ascending : cuts.Pairwise (· ≤ ·))
    {index : Nat} (found : cuts[index]? = some cut) (reached : cut ≤ value) :
    index < route value cuts := by
  induction cuts generalizing index with
  | nil => simp at found
  | cons first rest ih =>
      obtain ⟨before, ascending⟩ := List.pairwise_cons.mp ascending
      have notBelow : ¬value < first := by
        rw [not_lt]
        cases index with
        | zero =>
            obtain rfl := Option.some.inj found
            exact reached
        | succ index => exact (before cut (List.mem_of_getElem? found)).trans reached
      rw [route, if_neg notBelow]
      cases index with
      | zero => exact Nat.succ_pos _
      | succ index => exact Nat.succ_lt_succ (ih ascending found)

/-- A value goes no further than the first cut above it. -/
theorem route_le {value cut : Value} {cuts : List Value} {index : Nat}
    (found : cuts[index]? = some cut) (below : value < cut) : route value cuts ≤ index := by
  induction cuts generalizing index with
  | nil => simp at found
  | cons first rest ih =>
      rw [route]
      split
      · exact Nat.zero_le _
      · rename_i passed
        cases index with
        | zero =>
            obtain rfl := Option.some.inj found
            exact absurd below passed
        | succ index => exact Nat.succ_le_succ (ih found)

section Windows

variable {Item : Type*} (low cut high : Item → Value)

/-- When no cut lies below its window, a value passes only windows that start at it or before. -/
theorem route_le_count_low (value : Value) {items : List Item}
    (inside : ∀ item ∈ items, low item ≤ cut item) :
    route value (items.map cut) ≤ items.countP fun item => low item ≤ value := by
  induction items with
  | nil => exact Nat.le_refl 0
  | cons item rest ih =>
      obtain ⟨first, others⟩ := List.forall_mem_cons.mp inside
      rw [List.map_cons, route]
      split
      · exact Nat.zero_le _
      · rename_i passed
        have started : low item ≤ value := first.trans (not_lt.mp passed)
        rw [List.countP_cons, if_pos (decide_eq_true started)]
        exact Nat.succ_le_succ (ih others)

/-- A value below the first of the ascending ends is below all of them. -/
theorem countP_high_eq_zero {value : Value} {item : Item} {rest : List Item}
    (ascending : (item :: rest).Pairwise fun first second => high first ≤ high second)
    (below : value < high item) :
    ((item :: rest).countP fun item => high item ≤ value) = 0 := by
  rw [List.countP_eq_zero]
  intro other member
  rw [decide_eq_true_iff, not_le]
  obtain rfl | later := List.mem_cons.mp member
  · exact below
  · exact lt_of_lt_of_le below ((List.pairwise_cons.mp ascending).1 other later)

/-- When no cut lies above its window and the windows ascend, a value passes every window that
ends at it or before. -/
theorem count_high_le_route (value : Value) {items : List Item}
    (inside : ∀ item ∈ items, cut item ≤ high item)
    (ascending : items.Pairwise fun first second => high first ≤ high second) :
    (items.countP fun item => high item ≤ value) ≤ route value (items.map cut) := by
  induction items with
  | nil => exact Nat.le_refl 0
  | cons item rest ih =>
      obtain ⟨first, others⟩ := List.forall_mem_cons.mp inside
      rw [List.map_cons, route]
      split
      · rename_i below
        exact Nat.le_of_eq (countP_high_eq_zero high ascending (lt_of_lt_of_le below first))
      · have later := ih others ascending.of_cons
        rw [List.countP_cons]
        split
        · exact Nat.succ_le_succ later
        · exact Nat.le_succ_of_le later

end Windows

end Memkind.Library
