/-
This file finds the items of least cost in one pass over a list.
-/

import Mathlib.Order.Lattice
import Mathlib.Data.List.Basic
import Mathlib.Data.List.MinMax

namespace Memkind.Library

variable {Item Cost : Type*} [LinearOrder Cost] (cost : Item → Cost)

/-- The items of least cost in their order. -/
def minimizers (items : List Item) : List Item :=
  items.filter fun item => ∀ other ∈ items, cost item ≤ cost other

/-- A cheaper item replaces what was found, and an equal one joins it. -/
def runningStep (state : Cost × List Item) (item : Item) : Cost × List Item :=
  if cost item < state.1 then (cost item, [item])
  else if cost item = state.1 then (state.1, state.2 ++ [item])
  else state

theorem runningStep_le (state : Cost × List Item) (item : Item) :
    (runningStep cost state item).1 ≤ state.1 := by
  unfold runningStep
  split
  · rename_i cheaper
    exact le_of_lt cheaper
  · split
    · exact le_rfl
    · exact le_rfl

/-- The cost of a pass never rises. -/
theorem foldl_runningStep_le (state : Cost × List Item) (items : List Item) :
    (items.foldl (runningStep cost) state).1 ≤ state.1 := by
  induction items generalizing state with
  | nil => exact le_rfl
  | cons item rest ih =>
      rw [List.foldl_cons]
      exact (ih _).trans (runningStep_le cost state item)

/-- What a pass that starts with the cost `bound` knows after the items `seen`. -/
structure RunningMinimum (bound : Cost) (seen : List Item) (state : Cost × List Item) : Prop where
  least : ∀ item ∈ seen, state.1 ≤ cost item
  reached : state.1 = bound ∨ ∃ item ∈ seen, cost item = state.1
  found : state.2 = seen.filter fun item => cost item = state.1

namespace RunningMinimum

variable {cost} {bound : Cost} {seen : List Item} {state : Cost × List Item}

theorem start (bound : Cost) : RunningMinimum cost bound [] (bound, []) :=
  ⟨nofun, Or.inl rfl, rfl⟩

theorem step (running : RunningMinimum cost bound seen state) (item : Item) :
    RunningMinimum cost bound (seen ++ [item]) (runningStep cost state item) := by
  unfold runningStep
  split
  · rename_i cheaper
    constructor
    · intro other member
      obtain before | same := List.mem_append.mp member
      · exact le_of_lt (lt_of_lt_of_le cheaper (running.least other before))
      · rw [List.mem_singleton.mp same]
    · exact Or.inr ⟨item, List.mem_append_right _ List.mem_cons_self, rfl⟩
    · have none : seen.filter (fun other => cost other = cost item) = [] := by
        apply List.filter_eq_nil_iff.mpr
        intro other before
        rw [decide_eq_true_iff]
        exact ne_of_gt (lt_of_lt_of_le cheaper (running.least other before))
      simp [none]
  · rename_i dearer
    have least : ∀ other ∈ seen ++ [item], state.1 ≤ cost other := by
      intro other member
      obtain before | same := List.mem_append.mp member
      · exact running.least other before
      · rw [List.mem_singleton.mp same]
        exact not_lt.mp dearer
    have reached : state.1 = bound ∨ ∃ other ∈ seen ++ [item], cost other = state.1 := by
      obtain unchanged | ⟨other, before, equal⟩ := running.reached
      · exact Or.inl unchanged
      · exact Or.inr ⟨other, List.mem_append_left _ before, equal⟩
    split
    · rename_i equal
      refine ⟨least, reached, ?_⟩
      simp [running.found, equal]
    · rename_i different
      refine ⟨least, reached, ?_⟩
      simp [running.found, different]

theorem fold (running : RunningMinimum cost bound seen state) (items : List Item) :
    RunningMinimum cost bound (seen ++ items) (items.foldl (runningStep cost) state) := by
  induction items generalizing seen state with
  | nil => rwa [List.append_nil]
  | cons item rest ih =>
      have later := ih (running.step item)
      rwa [List.append_assoc] at later

/-- When no cost is above the bound, the pass finds the items of least cost. -/
theorem minimizers_eq (running : RunningMinimum cost bound seen state)
    (small : ∀ item ∈ seen, cost item ≤ bound) : state.2 = minimizers cost seen := by
  rw [running.found]
  apply List.filter_congr
  intro item member
  rw [decide_eq_decide]
  constructor
  · intro equal other before
    rw [equal]
    exact running.least other before
  · intro cheapest
    apply le_antisymm _ (running.least item member)
    obtain unchanged | ⟨other, before, equal⟩ := running.reached
    · rw [unchanged]
      exact small item member
    · rw [← equal]
      exact cheapest other before

end RunningMinimum

theorem foldl_runningStep {bound : Cost} {items : List Item}
    (small : ∀ item ∈ items, cost item ≤ bound) :
    (items.foldl (runningStep cost) (bound, [])).2 = minimizers cost items :=
  ((RunningMinimum.start bound).fold items).minimizers_eq small

/-- Among some items there is one of least cost. -/
theorem minimizers_eq_nil_iff {items : List Item} : minimizers cost items = [] ↔ items = [] := by
  constructor
  · intro none
    cases least : items.argmin cost with
    | none => exact List.argmin_eq_none.mp least
    | some item =>
        have cheapest : item ∈ minimizers cost items := by
          rw [minimizers, List.mem_filter, decide_eq_true_iff]
          exact ⟨List.argmin_mem least, fun other member => List.le_of_mem_argmin member least⟩
        rw [none] at cheapest
        cases cheapest
  · rintro rfl
    rfl

end Memkind.Library
