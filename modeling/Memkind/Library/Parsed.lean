/-
This file gives results to parsers that can also run into undefined behaviour.
-/

import Mathlib.Logic.Basic

namespace Memkind.Library

/-- A parser uses an invalid pointer, refuses its input, or returns a value. -/
inductive Parsed (ε α : Type) where
  | crash
  | reject (error : ε)
  | accept (value : α)
  deriving DecidableEq

namespace Parsed

variable {ε α β σ ι : Type} {parsed : Parsed ε α} {items : List ι} {start : σ}

protected def bind : Parsed ε α → (α → Parsed ε β) → Parsed ε β
  | .crash, _ => .crash
  | .reject error, _ => .reject error
  | .accept value, next => next value

instance : Monad (Parsed ε) where
  pure := .accept
  bind := Parsed.bind

/-- The same result with another error. -/
def withError {δ : Type} (error : δ) : Parsed ε α → Parsed δ α
  | .crash => .crash
  | .reject _ => .reject error
  | .accept value => .accept value

@[simp] theorem pure_eq (value : α) : (pure value : Parsed ε α) = .accept value := rfl

@[simp] theorem crash_bind (next : α → Parsed ε β) : (.crash : Parsed ε α) >>= next = .crash := rfl

@[simp] theorem reject_bind (error : ε) (next : α → Parsed ε β) :
    (.reject error : Parsed ε α) >>= next = .reject error := rfl

@[simp] theorem accept_bind (value : α) (next : α → Parsed ε β) :
    (.accept value : Parsed ε α) >>= next = next value := rfl

instance : LawfulMonad (Parsed ε) :=
  LawfulMonad.mk' (Parsed ε)
    (fun parsed => by cases parsed <;> rfl)
    (fun _ _ => rfl)
    (fun parsed _ _ => by cases parsed <;> rfl)

theorem bind_eq_accept {next : α → Parsed ε β} {result : β} :
    parsed >>= next = .accept result ↔
      ∃ value, parsed = .accept value ∧ next value = .accept result := by
  cases parsed <;> simp

theorem bind_eq_crash {next : α → Parsed ε β} :
    parsed >>= next = .crash ↔
      parsed = .crash ∨ ∃ value, parsed = .accept value ∧ next value = .crash := by
  cases parsed <;> simp

@[simp] theorem withError_eq_accept {δ : Type} {error : δ} {value : α} :
    parsed.withError error = .accept value ↔ parsed = .accept value := by
  cases parsed <;> simp [withError]

@[simp] theorem withError_eq_crash {δ : Type} {error : δ} :
    parsed.withError error = .crash ↔ parsed = .crash := by
  cases parsed <;> simp [withError]

section Fold

variable {step : σ → ι → Parsed ε σ}

/-- A fold accepts one more item when it accepts the items before and the item itself. -/
theorem foldlM_concat_eq_accept {item : ι} {final : σ} :
    (items ++ [item]).foldlM step start = .accept final ↔
      ∃ middle, items.foldlM step start = .accept middle ∧ step middle item = .accept final := by
  rw [List.foldlM_append, bind_eq_accept]
  simp only [List.foldlM_cons, List.foldlM_nil, bind_pure]

/-- A fold crashes at the first item that crashes after accepted items. -/
theorem foldlM_eq_crash :
    items.foldlM step start = .crash ↔
      ∃ before item after middle, items = before ++ item :: after ∧
        before.foldlM step start = .accept middle ∧ step middle item = .crash := by
  induction items generalizing start with
  | nil => simp
  | cons item items ih =>
      rw [List.foldlM_cons, bind_eq_crash]
      constructor
      · rintro (crashed | ⟨next, stepped, crashed⟩)
        · exact ⟨[], item, items, start, rfl, rfl, crashed⟩
        · obtain ⟨before, failing, after, middle, rfl, accepted, crashed⟩ :=
            ih.mp crashed
          refine ⟨item :: before, failing, after, middle, rfl, ?_, crashed⟩
          rw [List.foldlM_cons, stepped]
          exact accepted
      · rintro ⟨before, failing, after, middle, split, accepted, crashed⟩
        cases before with
        | nil =>
            obtain ⟨rfl, rfl⟩ := List.cons.inj split
            obtain rfl : start = middle := Parsed.accept.inj accepted
            exact .inl crashed
        | cons first before =>
            obtain ⟨rfl, rfl⟩ := List.cons.inj split
            rw [List.foldlM_cons, bind_eq_accept] at accepted
            obtain ⟨next, stepped, accepted⟩ := accepted
            exact .inr ⟨next, stepped, ih.mpr
              ⟨before, failing, after, middle, rfl, accepted, crashed⟩⟩

/-- Every item that a fold reaches is good. -/
def Reached (step : σ → ι → Parsed ε σ) (good : σ → ι → Prop) : List ι → σ → Prop
  | [], _ => True
  | item :: items, state =>
      good state item ∧ ∀ next, step state item = .accept next → Reached step good items next

theorem foldlM_ne_crash_iff :
    items.foldlM step start ≠ .crash ↔
      Reached step (fun state item => step state item ≠ .crash) items start := by
  induction items generalizing start with
  | nil => simp [Reached]
  | cons item items ih =>
      rw [List.foldlM_cons, ne_eq, bind_eq_crash, not_or, Reached]
      refine and_congr_right fun _ => ?_
      constructor
      · intro safe next stepped
        exact ih.mp fun crashed => safe ⟨next, stepped, crashed⟩
      · rintro reached ⟨next, stepped, crashed⟩
        exact ih.mpr (reached next stepped) crashed

section Passes

variable {passes : ι → Prop}
  (passes_iff : ∀ state item, (∃ next, step state item = .accept next) ↔ passes item)

include passes_iff

/-- A fold that looks only at its items accepts them when each one passes. -/
theorem foldlM_accept_iff :
    (∃ final, items.foldlM step start = .accept final) ↔ ∀ item ∈ items, passes item := by
  induction items generalizing start with
  | nil => exact iff_of_true ⟨start, rfl⟩ nofun
  | cons item items ih =>
      simp only [List.foldlM_cons, bind_eq_accept, List.forall_mem_cons]
      rw [← passes_iff start item]
      constructor
      · rintro ⟨final, next, stepped, rest⟩
        exact ⟨⟨next, stepped⟩, ih.mp ⟨final, rest⟩⟩
      · rintro ⟨⟨next, stepped⟩, rest⟩
        obtain ⟨final, accepted⟩ := (@ih next).mpr rest
        exact ⟨final, next, stepped, accepted⟩

end Passes

end Fold

end Parsed

end Memkind.Library
