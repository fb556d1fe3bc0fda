/-
This file reads named settings of which each is taken at most once, so that their order does not
matter.
-/

import Memkind.Library.Parsed

namespace Memkind.Library

section Fold

variable {ε σ τ ι : Type}

/-- A fold of steps that commute does not depend on the order of its items. -/
theorem foldlM_perm {step : σ → ι → Parsed ε σ} {items others : List ι}
    (commutes : ∀ state first second,
      (step state first >>= fun next => step next second) =
        step state second >>= fun next => step next first)
    (perm : items.Perm others) (start : σ) :
    items.foldlM step start = others.foldlM step start := by
  induction perm generalizing start with
  | nil => rfl
  | cons item _ ih =>
      rw [List.foldlM_cons, List.foldlM_cons]
      congr 1
      funext next
      exact ih next
  | swap second first rest =>
      simp only [List.foldlM_cons, ← bind_assoc]
      rw [commutes]
  | trans _ _ firstHypothesis secondHypothesis =>
      exact (firstHypothesis start).trans (secondHypothesis start)

/-- A fold follows another one on a projection of its state when each step does. -/
theorem foldlM_project {step : σ → ι → Parsed ε σ} {follow : τ → ι → Parsed ε τ} (project : σ → τ)
    (follows : ∀ state item,
      (step state item >>= fun next => .accept (project next)) = follow (project state) item)
    (items : List ι) (start : σ) :
    (items.foldlM step start >>= fun final => .accept (project final)) =
      items.foldlM follow (project start) := by
  induction items generalizing start with
  | nil => rfl
  | cons item rest ih =>
      rw [List.foldlM_cons, List.foldlM_cons, ← follows, bind_assoc, bind_assoc]
      congr 1
      funext next
      exact ih next

end Fold

/-- Settings have a key and a value. A setting is not taken after another one with its key, and
settings with different keys do not interfere. -/
structure Settings (σ κ ν : Type) where
  takes : σ → κ → ν → Bool
  change : κ → ν → σ → σ
  once : ∀ state key value other, takes state key value = true →
    takes (change key value state) key other = false
  kept : ∀ state first second value other, first ≠ second →
    takes (change first value state) second other = takes state second other
  comm : ∀ state first second value other, first ≠ second →
    change second other (change first value state) =
      change first value (change second other state)

namespace Settings

variable {ε σ κ ν η : Type} (settings : Settings σ κ ν) (error : ε)

/-- One setting is taken or refused. -/
def take (state : σ) (key : κ) (value : ν) : Parsed ε σ :=
  if settings.takes state key value then .accept (settings.change key value state)
  else .reject error

theorem take_of_takes {state : σ} {key : κ} {value : ν}
    (taken : settings.takes state key value = true) :
    settings.take error state key value = .accept (settings.change key value state) :=
  if_pos taken

theorem take_of_not_takes {state : σ} {key : κ} {value : ν}
    (refused : settings.takes state key value = false) :
    settings.take error state key value = .reject error := if_neg (by rw [refused]; decide)

theorem take_reject (state : σ) (key : κ) (value : ν) :
    (settings.take error state key value >>= fun _ => (.reject error : Parsed ε σ)) =
      .reject error := by
  unfold take
  split <;> rfl

/-- A second setting with the same key is refused. -/
theorem take_twice (state : σ) (key : κ) (value other : ν) :
    (settings.take error state key value >>= fun next => settings.take error next key other) =
      .reject error := by
  cases taken : settings.takes state key value with
  | false => rw [take_of_not_takes settings error taken, Parsed.reject_bind]
  | true =>
      rw [take_of_takes settings error taken, Parsed.accept_bind]
      exact take_of_not_takes settings error (settings.once state key value other taken)

theorem take_comm (state : σ) (first second : κ) (value other : ν) :
    (settings.take error state first value >>= fun next =>
        settings.take error next second other) =
      settings.take error state second other >>= fun next =>
        settings.take error next first value := by
  by_cases same : first = second
  · subst same
    rw [take_twice, take_twice]
  · have firstKept := settings.kept state first second value other same
    have secondKept := settings.kept state second first other value (Ne.symm same)
    cases firstTaken : settings.takes state first value <;>
      cases secondTaken : settings.takes state second other <;>
        simp [take, firstTaken, secondTaken, firstKept, secondKept,
          settings.comm state first second value other same]

variable (find : η → Option κ)

/-- A setting is found by its name. One with an unknown name is refused. -/
def read (state : σ) (item : η × ν) : Parsed ε σ :=
  (find item.1).elim (.reject error) fun key => settings.take error state key item.2

theorem read_comm (state : σ) (first second : η × ν) :
    (settings.read error find state first >>= fun next => settings.read error find next second) =
      settings.read error find state second >>= fun next =>
        settings.read error find next first := by
  unfold read
  cases find first.1 with
  | none =>
      cases find second.1 with
      | none => rfl
      | some key => exact (settings.take_reject error state key second.2).symm
  | some key =>
      cases find second.1 with
      | none => exact settings.take_reject error state key first.2
      | some other => exact settings.take_comm error state key other first.2 second.2

/-- Settings can be read in any order. -/
theorem foldlM_read_perm {items others : List (η × ν)} (perm : items.Perm others) (start : σ) :
    items.foldlM (settings.read error find) start =
      others.foldlM (settings.read error find) start :=
  foldlM_perm (settings.read_comm error find) perm start

end Settings

end Memkind.Library
