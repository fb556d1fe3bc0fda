/-
This file numbers allocated objects and counts how often each one is freed.
-/

import Mathlib.Data.List.Count

namespace Memkind.Library

/-- The objects are numbered in the order of their allocation. The list holds an object once for
each time it was freed. -/
structure Allocations where
  allocated : Nat
  freed : List Nat

namespace Allocations

def empty : Allocations := ⟨0, []⟩

/-- The next object. -/
def fresh (heap : Allocations) : Nat := heap.allocated

/-- The heap after the allocation of the next object. -/
def alloc (heap : Allocations) : Allocations := { heap with allocated := heap.allocated + 1 }

def free (heap : Allocations) (object : Nat) : Allocations :=
  { heap with freed := object :: heap.freed }

/-- How often an object was freed. -/
def frees (heap : Allocations) (object : Nat) : Nat := heap.freed.count object

/-- Every object was freed exactly once. -/
def FreedOnce (heap : Allocations) : Prop :=
  ∀ object, object < heap.allocated → heap.frees object = 1

/-- No object was freed before its allocation. -/
def Sound (heap : Allocations) : Prop :=
  ∀ object, heap.allocated ≤ object → heap.frees object = 0

variable {heap : Allocations} {object other : Nat}

@[simp] theorem frees_alloc : heap.alloc.frees object = heap.frees object := rfl

@[simp] theorem allocated_free : (heap.free object).allocated = heap.allocated := rfl

@[simp] theorem allocated_alloc : heap.alloc.allocated = heap.allocated + 1 := rfl

@[simp] theorem frees_free_self : (heap.free object).frees object = heap.frees object + 1 :=
  List.count_cons_self

theorem frees_free_of_ne (different : other ≠ object) :
    (heap.free object).frees other = heap.frees other :=
  List.count_cons_of_ne different.symm

theorem sound_empty : empty.Sound := fun _ _ => rfl

theorem Sound.alloc (sound : heap.Sound) : heap.alloc.Sound := by
  intro object beyond
  exact sound object (Nat.le_of_succ_le beyond)

theorem Sound.free (sound : heap.Sound) (known : object < heap.allocated) :
    (heap.free object).Sound := by
  intro other beyond
  rw [allocated_free] at beyond
  rw [frees_free_of_ne (by omega)]
  exact sound other beyond

/-- A new object that is freed at once unless it is kept. -/
theorem Sound.alloc_or_free {next : Allocations} {kept : Prop} (sound : heap.Sound)
    (outcome : next = heap.alloc ∧ kept ∨ next = heap.alloc.free heap.allocated ∧ ¬kept) :
    next.Sound ∧ next.allocated = heap.allocated + 1 ∧
      (∀ object, object ≠ heap.allocated → next.frees object = heap.frees object) ∧
      (next.frees heap.allocated = 0 ∧ kept ∨ next.frees heap.allocated = 1 ∧ ¬kept) := by
  have unfreed : heap.frees heap.allocated = 0 := sound _ (Nat.le_refl _)
  obtain ⟨rfl, holds⟩ | ⟨rfl, fails⟩ := outcome
  · exact ⟨sound.alloc, rfl, fun _ _ => rfl, Or.inl ⟨unfreed, holds⟩⟩
  · refine ⟨sound.alloc.free (Nat.lt_succ_self _), rfl, ?_, Or.inr ⟨?_, fails⟩⟩
    · intro object different
      exact frees_free_of_ne different
    · rw [frees_free_self, frees_alloc, unfreed]

/-- The object at a pointer is freed, and `NULL` is not. -/
def freePointer (heap : Allocations) (pointer : Option Nat) : Allocations :=
  pointer.elim heap heap.free

@[simp] theorem allocated_freePointer (pointer : Option Nat) :
    (heap.freePointer pointer).allocated = heap.allocated := by
  cases pointer <;> rfl

theorem frees_freePointer (pointer : Option Nat) :
    (heap.freePointer pointer).frees object =
      heap.frees object + if pointer = some object then 1 else 0 := by
  cases pointer with
  | none => simp [freePointer]
  | some target =>
      by_cases same : target = object
      · subst same
        simp [freePointer]
      · rw [if_neg (fun equal => same (Option.some.inj equal)), Nat.add_zero]
        exact frees_free_of_ne (Ne.symm same)

end Allocations

end Memkind.Library
