/-
This file reasons about a loop over a list that a step can leave.
-/

import Mathlib.Algebra.Group.Nat.Defs
import Mathlib.Order.Lattice

namespace Memkind.Library

variable {α σ τ : Type} {step : σ → α → Except τ σ} {holds : List α → σ → Prop}
  {left : List α → τ → Prop} {good : Nat → Prop}

/-- What is good from the next position on is good from this one on. -/
theorem good_from_first {first bound : Nat} (good_first : good first)
    (later : ∀ k, first + 1 ≤ k → k < bound → good k) : ∀ k, first ≤ k → k < bound → good k := by
  intro k above below
  obtain rfl | more := Nat.eq_or_lt_of_le above
  · exact good_first
  · exact later k more below

/-- A loop whose steps are good keeps its invariant up to the end, and otherwise it is left at the
first step that is not good. -/
theorem foldlM_keeps_or_leaves
    (keeps : ∀ done item state, holds done state → good done.length →
      ∃ next, step state item = .ok next ∧ holds (done ++ [item]) next)
    (leaves : ∀ done item state, holds done state → ¬good done.length →
      ∃ stop, step state item = .error stop ∧ left done stop)
    (items done : List α) {state : σ} (held : holds done state) :
    ((∀ k, done.length ≤ k → k < (done ++ items).length → good k) ∧
      ∃ next, items.foldlM step state = .ok next ∧ holds (done ++ items) next) ∨
    ∃ before, (done ++ before).length < (done ++ items).length ∧
      (∀ k, done.length ≤ k → k < (done ++ before).length → good k) ∧
      ¬good (done ++ before).length ∧
      ∃ stop, items.foldlM step state = .error stop ∧ left (done ++ before) stop := by
  induction items generalizing done state with
  | nil =>
      refine Or.inl ⟨fun k above below => ?_, state, rfl, ?_⟩
      · rw [List.append_nil] at below
        omega
      · rw [List.append_nil]
        exact held
  | cons item rest ih =>
      by_cases first : good done.length
      · obtain ⟨next, stepped, held⟩ := keeps done item state held first
        have loop : (item :: rest).foldlM step state = rest.foldlM step next := by
          rw [List.foldlM_cons, stepped]
          rfl
        have later := ih (done ++ [item]) held
        have next : (done ++ [item]).length = done.length + 1 := List.length_append
        rw [next] at later
        rw [loop, List.append_cons]
        obtain ⟨all, ended⟩ | ⟨before, short, earlier, ended⟩ := later
        · exact Or.inl ⟨good_from_first first all, ended⟩
        · refine Or.inr ⟨item :: before, ?_⟩
          rw [List.append_cons done item before]
          exact ⟨short, good_from_first first earlier, ended⟩
      · obtain ⟨stop, stepped, ended⟩ := leaves done item state held first
        refine Or.inr ⟨[], ?_, ?_, ?_, stop, ?_, ?_⟩
        · rw [List.append_nil, List.length_append, List.length_cons]
          omega
        · intro k above below
          rw [List.append_nil] at below
          omega
        · rw [List.append_nil]
          exact first
        · rw [List.foldlM_cons, stepped]
          rfl
        · rw [List.append_nil]
          exact ended

end Memkind.Library
