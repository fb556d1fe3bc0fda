/-
This file lists the positions between two bounds at a fixed distance from each other.
-/

import Mathlib.Data.List.Range

namespace Memkind.Library

/-- The positions `start`, `start + stride` and so on below `stop`. -/
def strides (stride start stop : Nat) : List Nat :=
  List.range' start ((stop - start + stride - 1) / stride) stride

variable {stride start stop : Nat}

theorem strides_nil (reached : stop ≤ start) (positive : 0 < stride) :
    strides stride start stop = [] := by
  have none : (stop - start + stride - 1) / stride = 0 := by
    apply Nat.div_eq_of_lt
    omega
  rw [strides, none, List.range'_zero]

theorem strides_cons (below : start < stop) (positive : 0 < stride) :
    strides stride start stop = start :: strides stride (start + stride) stop := by
  have count : (stop - start + stride - 1) / stride =
      (stop - (start + stride) + stride - 1) / stride + 1 := by
    by_cases last : stop ≤ start + stride
    · have one : stop - start + stride - 1 = (stop - start - 1) + stride := by omega
      have zero : (stop - start - 1) / stride = 0 := Nat.div_eq_of_lt (by omega)
      have none : (stop - (start + stride) + stride - 1) / stride = 0 :=
        Nat.div_eq_of_lt (by omega)
      rw [one, Nat.add_div_right _ positive, zero, none]
    · have shifted : stop - start + stride - 1 =
          (stop - (start + stride) + stride - 1) + stride := by omega
      rw [shifted, Nat.add_div_right _ positive]
  rw [strides, count, List.range'_succ]
  rfl

/-- A progression up to a limit has at most as many positions as strides fit below the limit. -/
theorem strides_length_le {count : Nat} (positive : 0 < stride)
    (short : stop ≤ start + count * stride) : (strides stride start stop).length ≤ count := by
  rw [strides, List.length_range']
  apply Nat.lt_succ_iff.mp
  apply (Nat.div_lt_iff_lt_mul positive).mpr
  rw [Nat.succ_mul]
  omega

/-- The position behind the last one is not below the limit. -/
theorem le_strides_stop (positive : 0 < stride) :
    stop ≤ start + (strides stride start stop).length * stride := by
  rw [strides, List.length_range']
  have last : stop - start + stride - 1 <
      (stop - start + stride - 1) / stride * stride + stride := Nat.lt_div_mul_add positive
  omega

/-- Strides that end at the limit fill it. -/
theorem strides_length_mul (positive : 0 < stride) (count : Nat) :
    (strides stride start (start + count * stride)).length = count := by
  apply Nat.le_antisymm (strides_length_le positive (Nat.le_refl _))
  have reached := @le_strides_stop stride start (start + count * stride) positive
  exact Nat.le_of_mul_le_mul_right (Nat.le_of_add_le_add_left reached) positive

/-- A progression goes on behind a limit where it has stopped. -/
theorem strides_append {limit : Nat} (positive : 0 < stride) (below : limit ≤ stop) :
    strides stride start stop = strides stride start limit ++
      strides stride (start + (strides stride start limit).length * stride) stop := by
  generalize bound : limit - start = distance
  induction distance using Nat.strongRecOn generalizing start with
  | ind distance ih =>
      by_cases reached : limit ≤ start
      · rw [strides_nil reached positive]
        simp
      · have inside : start < limit := Nat.lt_of_not_le reached
        have rest := ih (limit - (start + stride)) (by omega) rfl
        have next : start + ((strides stride (start + stride) limit).length + 1) * stride =
            start + stride + (strides stride (start + stride) limit).length * stride := by
          rw [Nat.succ_mul]
          omega
        rw [strides_cons (by omega) positive, strides_cons inside positive, List.cons_append,
          List.length_cons, next]
        exact congrArg (List.cons start) rest

end Memkind.Library
