/-
This file models the descriptors of a process, each of which leads to at most one file. Files are
numbered in the order of their creation, so a new file differs from every earlier one.
-/

import Mathlib.Logic.Function.Basic

namespace Memkind.Library

variable {Fd : Type*} [DecidableEq Fd]

/-- A table of open descriptors. No file is open twice. -/
structure Descriptors (Fd : Type*) where
  opened : Fd → Option Nat
  created : Nat
  older : ∀ fd file, opened fd = some file → file < created
  single : ∀ first second file, opened first = some file → opened second = some file →
    first = second

variable {table next : Descriptors Fd} {fd : Fd}

/-- The table before the first file. -/
def Descriptors.empty (Fd : Type*) : Descriptors Fd where
  opened := fun _ => none
  created := 0
  older := by simp
  single := by simp

/-- A new file appears behind a descriptor that is not in use. -/
def Descriptors.create (fd : Fd) (table : Descriptors Fd) : Option (Descriptors Fd) :=
  if table.opened fd = none then
    some
      { opened := Function.update table.opened fd (some table.created)
        created := table.created + 1
        older := by
          intro other file holds
          rw [Function.update_apply] at holds
          split at holds
          · cases holds
            exact Nat.lt_succ_self _
          · exact Nat.lt_succ_of_lt (table.older other file holds)
        single := by
          intro first second file atFirst atSecond
          rw [Function.update_apply] at atFirst atSecond
          split at atFirst <;> split at atSecond
          · simp_all
          · cases atFirst
            exact absurd (table.older second _ atSecond) (Nat.lt_irrefl _)
          · cases atSecond
            exact absurd (table.older first _ atFirst) (Nat.lt_irrefl _)
          · exact table.single first second file atFirst atSecond }
  else none

/-- A closed descriptor leads nowhere. -/
def Descriptors.close (fd : Fd) (table : Descriptors Fd) : Descriptors Fd where
  opened := Function.update table.opened fd none
  created := table.created
  older := by
    intro other file holds
    rw [Function.update_apply] at holds
    split at holds
    · cases holds
    · exact table.older other file holds
  single := by
    intro first second file atFirst atSecond
    rw [Function.update_apply] at atFirst atSecond
    split at atFirst
    · cases atFirst
    · split at atSecond
      · cases atSecond
      · exact table.single first second file atFirst atSecond

theorem Descriptors.created_create (created : table.create fd = some next) :
    next.created = table.created + 1 := by
  unfold Descriptors.create at created
  split at created
  · cases created
    rfl
  · cases created

/-- A new file is open behind its descriptor, and no other descriptor changes. -/
theorem Descriptors.opened_create (created : table.create fd = some next) :
    table.opened fd = none ∧
      next.opened = Function.update table.opened fd (some table.created) := by
  unfold Descriptors.create at created
  split at created
  · rename_i unused
    cases created
    exact ⟨unused, rfl⟩
  · cases created

/-- A new file that is closed again leaves the descriptors as they were. -/
theorem Descriptors.close_create (created : table.create fd = some next) :
    (next.close fd).opened = table.opened := by
  obtain ⟨unused, opened⟩ := Descriptors.opened_create created
  change Function.update next.opened fd none = table.opened
  rw [opened, Function.update_idem, ← unused, Function.update_eq_self]

/-- An earlier file that is open after a creation was open before it. -/
theorem Descriptors.opened_of_create {other : Fd} {file : Nat}
    (created : table.create fd = some next) (earlier : file < table.created)
    (holds : next.opened other = some file) : table.opened other = some file := by
  unfold Descriptors.create at created
  split at created
  · cases created
    dsimp only at holds
    rw [Function.update_apply] at holds
    split at holds
    · cases holds
      exact absurd earlier (Nat.lt_irrefl _)
    · exact holds
  · cases created

/-- A file that is open after closing a descriptor was open before, behind another one. -/
theorem Descriptors.opened_of_close {other : Fd} {file : Nat}
    (holds : (table.close fd).opened other = some file) :
    other ≠ fd ∧ table.opened other = some file := by
  unfold Descriptors.close at holds
  dsimp only at holds
  rw [Function.update_apply] at holds
  split at holds
  · cases holds
  · rename_i different
    exact ⟨different, holds⟩

end Memkind.Library
