/-
This file describes the calls that map and unmap ranges of an address space in pages.
-/

import Mathlib.Algebra.Group.Nat.Defs
import Mathlib.Data.Set.BooleanAlgebra
import Mathlib.Order.CompletePartialOrder
import Mathlib.Order.Interval.Set.Basic
import Mathlib.Order.Lattice

namespace Memkind.Library

/-- A successful mapping of new memory, or a request to unmap a range. -/
inductive MapEvent where
  | map (start length : Nat)
  | unmap (start length : Nat)
  deriving DecidableEq

/-- The least multiple of a page that holds so many bytes. -/
def roundUp (page length : Nat) : Nat := (length + page - 1) / page * page

section Pages

variable (page top : Nat)

/-- The mapped addresses after a call. A range to unmap is refused when it does not begin at a page
or leaves the address space. -/
def MapEvent.apply (space : Set Nat) : MapEvent → Set Nat
  | .map start length => space ∪ Set.Ico start (start + roundUp page length)
  | .unmap start length =>
      if page ∣ start ∧ start + length < top then
        space \ Set.Ico start (start + roundUp page length)
      else space

/-- New memory is not empty, begins at a page that is not the first, ends within the address space,
and was not in use. -/
def MapEvent.Allowed (space : Set Nat) : MapEvent → Prop
  | .map start length => page ∣ start ∧ 0 < start ∧ 0 < length ∧ start + length < top ∧
      Disjoint (Set.Ico start (start + roundUp page length)) space
  | .unmap _ _ => True

/-- The addresses that a call maps or unmaps. -/
def MapEvent.range : MapEvent → Set Nat
  | .map start length => Set.Ico start (start + roundUp page length)
  | .unmap start length =>
      if page ∣ start ∧ start + length < top then Set.Ico start (start + roundUp page length)
      else ∅

/-- The addresses that some calls map or unmap. -/
def touched (events : List MapEvent) : Set Nat :=
  {address | ∃ event ∈ events, address ∈ event.range page top}

/-- The mapped addresses after some calls. -/
def applyEvents (events : List MapEvent) (space : Set Nat) : Set Nat :=
  events.foldl (MapEvent.apply page top) space

/-- Every call is allowed when it is made. -/
def AllowedEvents : List MapEvent → Set Nat → Prop
  | [], _ => True
  | event :: rest, space =>
      event.Allowed page top space ∧ AllowedEvents rest (event.apply page top space)

end Pages

variable {page top : Nat} {space : Set Nat}

theorem roundUp_of_dvd {length : Nat} (positive : 0 < page) (multiple : page ∣ length) :
    roundUp page length = length := by
  obtain ⟨count, rfl⟩ := multiple
  have quotient : (page * count + page - 1) / page = count := by
    rw [Nat.add_sub_assoc positive, Nat.mul_add_div positive, Nat.div_eq_of_lt (by omega)]
    rfl
  rw [roundUp, quotient, Nat.mul_comm]

theorem applyEvents_append (first second : List MapEvent) :
    applyEvents page top (first ++ second) space =
      applyEvents page top second (applyEvents page top first space) :=
  List.foldl_append

theorem allowedEvents_append {first second : List MapEvent} :
    AllowedEvents page top (first ++ second) space ↔
      AllowedEvents page top first space ∧
        AllowedEvents page top second (applyEvents page top first space) := by
  induction first generalizing space with
  | nil => exact (and_iff_right trivial).symm
  | cons event rest ih =>
      rw [List.cons_append, AllowedEvents, AllowedEvents, ih, and_assoc]
      rfl

@[simp] theorem touched_nil : touched page top [] = ∅ := by
  simp [touched]

@[simp] theorem touched_cons {event : MapEvent} {events : List MapEvent} :
    touched page top (event :: events) = event.range page top ∪ touched page top events := by
  ext address
  simp [touched]

@[simp] theorem touched_append {first second : List MapEvent} :
    touched page top (first ++ second) = touched page top first ∪ touched page top second := by
  ext address
  simp [touched, or_and_right, exists_or]

/-- A call changes only the addresses of its range. -/
theorem mem_apply_of_notMem {event : MapEvent} {address : Nat}
    (outside : address ∉ event.range page top) :
    address ∈ event.apply page top space ↔ address ∈ space := by
  cases event with
  | map start length => exact or_iff_left outside
  | unmap start length =>
      rw [MapEvent.range] at outside
      rw [MapEvent.apply]
      split
      · rename_i accepted
        rw [if_pos accepted] at outside
        exact and_iff_left outside
      · exact Iff.rfl

/-- Calls change only the addresses that they touch. -/
theorem mem_applyEvents_of_notMem {events : List MapEvent} {address : Nat}
    (outside : address ∉ touched page top events) :
    address ∈ applyEvents page top events space ↔ address ∈ space := by
  induction events generalizing space with
  | nil => exact Iff.rfl
  | cons event rest ih =>
      rw [touched_cons] at outside
      exact (ih fun inside => outside (Or.inr inside)).trans
        (mem_apply_of_notMem fun inside => outside (Or.inl inside))

/-- A range of whole pages that is unmapped. -/
theorem apply_unmap {start length : Nat} (positive : 0 < page) (aligned : page ∣ start)
    (multiple : page ∣ length) (fits : start + length < top) :
    MapEvent.apply page top space (.unmap start length) =
      space \ Set.Ico start (start + length) := by
  rw [MapEvent.apply, if_pos ⟨aligned, fits⟩, roundUp_of_dvd positive multiple]

/-- New memory that loses its head and its tail. -/
theorem trim_mapped {start low high stop : Nat} (below : start ≤ low) (order : low ≤ high)
    (above : high ≤ stop) (fresh : Disjoint (Set.Ico start stop) space) :
    ((space ∪ Set.Ico start stop) \ Set.Ico start low) \ Set.Ico high stop =
      space ∪ Set.Ico low high := by
  ext address
  have used : address ∈ space → ¬(start ≤ address ∧ address < stop) := fun member mapped =>
    Set.disjoint_left.mp fresh mapped member
  simp only [Set.mem_sdiff, Set.mem_union, Set.mem_Ico]
  constructor
  · intro ⟨⟨mapped, head⟩, tail⟩
    exact mapped.imp_right fun inside => by omega
  · intro kept
    obtain member | inside := kept
    · have outside := used member
      exact ⟨⟨Or.inl member, by omega⟩, by omega⟩
    · exact ⟨⟨Or.inr (by omega), by omega⟩, by omega⟩

/-- New memory that is unmapped again. -/
theorem unmap_mapped {start stop : Nat} (fresh : Disjoint (Set.Ico start stop) space) :
    (space ∪ Set.Ico start stop) \ Set.Ico start stop = space :=
  Set.union_sdiff_cancel_right (Set.disjoint_iff.mp fresh.symm)

end Memkind.Library
