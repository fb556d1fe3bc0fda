/-
This file finds the first item of highest rank in one pass over a list.
-/

import Mathlib.Order.WithBot
import Mathlib.Data.List.Basic

namespace Memkind.Library

variable {Item Rank : Type*} [LinearOrder Rank] (rank : Item → WithBot Rank)

/-- The item has a rank, no item has a higher one, and the items before it have lower ones. -/
structure FirstBest (items : List Item) (item : Item) : Prop where
  ranked : ⊥ < rank item
  first : ∃ before after, items = before ++ item :: after ∧
    (∀ other ∈ before, rank other < rank item) ∧ ∀ other ∈ after, rank other ≤ rank item

/-- The rank of what a pass has found, which is `⊥` when it has found nothing. -/
def foundRank (best : Option Item) : WithBot Rank := best.elim ⊥ rank

/-- An item of higher rank replaces what was found. An item without a rank never does. -/
def keepBest (best : Option Item) (item : Item) : Option Item :=
  if foundRank rank best < rank item then some item else best

/-- What a pass over the items has found: nothing when none of them has a rank, and the first item
of highest rank otherwise. -/
inductive Found (items : List Item) : Option Item → Prop where
  | nothing (unranked : ∀ item ∈ items, rank item = ⊥) : Found items none
  | chosen {item} (best : FirstBest rank items item) : Found items (some item)

namespace Found

variable {rank} {seen : List Item} {best : Option Item}

theorem le_foundRank (found : Found rank seen best) :
    ∀ item ∈ seen, rank item ≤ foundRank rank best := by
  intro item member
  cases found with
  | nothing unranked => exact (unranked item member).le
  | chosen best =>
      obtain ⟨before, after, rfl, lower, notHigher⟩ := best.first
      obtain earlier | same | later :=
        (List.mem_append.mp member).imp_right List.mem_cons.mp
      · exact (lower item earlier).le
      · rw [same]
        exact le_rfl
      · exact notHigher item later

theorem step (found : Found rank seen best) (item : Item) :
    Found rank (seen ++ [item]) (keepBest rank best item) := by
  unfold keepBest
  split
  · rename_i higher
    refine .chosen ⟨lt_of_le_of_lt bot_le higher, seen, [], rfl, ?_, ?_⟩
    · intro other member
      exact lt_of_le_of_lt (found.le_foundRank other member) higher
    · intro other member
      cases member
  · rename_i notHigher
    have bound := not_lt.mp notHigher
    cases found with
    | nothing unranked =>
        apply Found.nothing
        intro other member
        obtain before | same := List.mem_append.mp member
        · exact unranked other before
        · rw [List.mem_singleton.mp same]
          exact le_bot_iff.mp bound
    | chosen best =>
        obtain ⟨before, after, rfl, lower, later⟩ := best.first
        refine .chosen ⟨best.ranked, before, after ++ [item], by simp, lower, ?_⟩
        intro other member
        obtain old | same := List.mem_append.mp member
        · exact later other old
        · rw [List.mem_singleton.mp same]
          exact bound

theorem fold (found : Found rank seen best) (items : List Item) :
    Found rank (seen ++ items) (items.foldl (keepBest rank) best) := by
  induction items generalizing seen best with
  | nil => rwa [List.append_nil]
  | cons item rest ih =>
      have later := ih (found.step item)
      rwa [List.append_assoc] at later

/-- A pass finds something exactly when some item has a rank. -/
theorem isSome_iff (found : Found rank seen best) :
    best.isSome ↔ ∃ item ∈ seen, ⊥ < rank item := by
  cases found with
  | nothing unranked =>
      refine iff_of_false (by simp) ?_
      intro ⟨item, member, ranked⟩
      exact ranked.ne' (unranked item member)
  | chosen best =>
      refine iff_of_true rfl ⟨_, ?_, best.ranked⟩
      obtain ⟨before, after, rfl, -, -⟩ := best.first
      exact List.mem_append_right before List.mem_cons_self

end Found

/-- A pass over a list finds its first item of highest rank. -/
theorem found_foldl (items : List Item) : Found rank items (items.foldl (keepBest rank) none) := by
  have start : Found rank [] none := by
    apply Found.nothing
    intro item member
    cases member
  exact start.fold items

end Memkind.Library
