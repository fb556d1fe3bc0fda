/-
This file approximates a quotient of two numbers by the nearest fraction with a given denominator.
-/

import Mathlib.Tactic.Linarith
import Mathlib.Tactic.Ring

namespace Memkind.Library

variable {high low numerator denominator : Nat}

/-- The integer nearest to `high * denominator / low`, where halves are rounded up. -/
def nearest (high low denominator : Nat) : Nat := (2 * (high * denominator) + low) / (2 * low)

/-- The fraction `numerator / denominator` misses `high / low` by one part in `parts` at most. -/
def Close (parts high low numerator denominator : Nat) : Prop :=
  parts * (numerator * low) ≤ (parts + 1) * (high * denominator) ∧
    parts * (high * denominator) ≤ (parts + 1) * (numerator * low)

instance (parts high low numerator denominator : Nat) :
    Decidable (Close parts high low numerator denominator) :=
  inferInstanceAs (Decidable (_ ∧ _))

theorem nearest_mul_le (high low denominator : Nat) :
    2 * (nearest high low denominator * low) ≤ 2 * (high * denominator) + low := by
  have floor := Nat.div_mul_le_self (2 * (high * denominator) + low) (2 * low)
  calc 2 * (nearest high low denominator * low)
      = nearest high low denominator * (2 * low) := by ring
    _ ≤ 2 * (high * denominator) + low := floor

theorem lt_nearest_mul (positive : 0 < low) (high denominator : Nat) :
    2 * (high * denominator) + low < 2 * (nearest high low denominator * low) + 2 * low := by
  have ceiling := Nat.lt_mul_div_succ (2 * (high * denominator) + low)
    (Nat.mul_pos Nat.two_pos positive)
  calc 2 * (high * denominator) + low < 2 * low * (nearest high low denominator + 1) := ceiling
    _ = 2 * (nearest high low denominator * low) + 2 * low := by ring

theorem denominator_le_nearest (positive : 0 < low) (ordered : low ≤ high) (denominator : Nat) :
    denominator ≤ nearest high low denominator := by
  rw [nearest, Nat.le_div_iff_mul_le (Nat.mul_pos Nat.two_pos positive)]
  have larger : low * denominator ≤ high * denominator := Nat.mul_le_mul_right _ ordered
  calc denominator * (2 * low) = 2 * (low * denominator) := by ring
    _ ≤ 2 * (high * denominator) + low := by omega

/-- The rounding moves the numerator by one half at most, which does not matter for a large
numerator. -/
theorem close_nearest {parts : Nat} (positive : 0 < low)
    (large : (parts + 1) * low ≤ 2 * (high * denominator)) :
    Close parts high low (nearest high low denominator) denominator := by
  have below := nearest_mul_le high low denominator
  have above := lt_nearest_mul positive high denominator
  constructor
  · nlinarith
  · nlinarith

section Divisor

/-- A count is recovered from the part that it leaves to each. -/
theorem div_div_eq {total count : Nat} (positive : 0 < count) (small : count * count ≤ total) :
    total / (total / count) = count := by
  have large : count ≤ total / count := (Nat.le_div_iff_mul_le positive).mpr small
  have floor := Nat.div_add_mod total count
  have remainder := Nat.mod_lt total positive
  apply Nat.div_eq_of_lt_le
  · exact Nat.mul_div_le total count
  · calc total = count * (total / count) + total % count := floor.symm
      _ < count * (total / count) + total / count := by omega
      _ = (count + 1) * (total / count) := by ring

variable (ordered : low ≤ high) (positive : 0 < denominator) (proper : denominator ≤ numerator)
  (small : 16 * (numerator * denominator) ≤ low)

include positive proper small

/-- The part of the smaller number is the divisor when the fraction is not too large. -/
theorem div_lowPart (below : numerator * low ≤ high * denominator)
    (above : 2 * (high * denominator) + low < 2 * (numerator * low) + 2 * low) :
    high / (low / denominator) = numerator ∧ low / (low / denominator) = denominator := by
  have square : denominator * denominator ≤ numerator * denominator :=
    Nat.mul_le_mul_right _ proper
  have floor := Nat.div_add_mod low denominator
  have remainder := Nat.mod_lt low positive
  constructor
  · apply Nat.div_eq_of_lt_le
    · apply Nat.le_of_mul_le_mul_right _ positive
      calc numerator * (low / denominator) * denominator
          = numerator * (denominator * (low / denominator)) := by ring
        _ ≤ numerator * low := Nat.mul_le_mul_left _ (Nat.mul_div_le low denominator)
        _ ≤ high * denominator := below
    · -- The remainder of `low` counts `numerator + 1` times, which is less than half of `low`.
      apply Nat.lt_of_mul_lt_mul_right (a := denominator)
      have lost : (numerator + 1) * (low % denominator) ≤ 2 * (numerator * denominator) := by
        nlinarith
      have total : (numerator + 1) * low =
          (numerator + 1) * (low / denominator) * denominator +
            (numerator + 1) * (low % denominator) := by
        calc (numerator + 1) * low
            = (numerator + 1) * (denominator * (low / denominator) + low % denominator) := by
              rw [floor]
          _ = _ := by ring
      have expanded : (numerator + 1) * low = numerator * low + low := by ring
      omega
  · exact div_div_eq positive (by omega)

include ordered

/-- The part of the larger number is the divisor when the fraction is too large. -/
theorem div_highPart (above : high * denominator < numerator * low)
    (below : 2 * (numerator * low) ≤ 2 * (high * denominator) + low) :
    high / (high / numerator) = numerator ∧ low / (high / numerator) = denominator := by
  have numeratorPositive : 0 < numerator := Nat.lt_of_lt_of_le positive proper
  have square : numerator * numerator ≤ high := by
    apply Nat.le_of_mul_le_mul_right _ positive
    nlinarith
  have floor := Nat.div_add_mod high numerator
  have remainder := Nat.mod_lt high numeratorPositive
  constructor
  · exact div_div_eq numeratorPositive square
  · apply Nat.div_eq_of_lt_le
    · apply Nat.le_of_mul_le_mul_right _ numeratorPositive
      calc denominator * (high / numerator) * numerator
          = denominator * (numerator * (high / numerator)) := by ring
        _ ≤ denominator * high := Nat.mul_le_mul_left _ (Nat.mul_div_le high numerator)
        _ ≤ low * numerator := by nlinarith
    · apply Nat.lt_of_mul_lt_mul_right (a := numerator)
      have lost : (denominator + 1) * (high % numerator) ≤ 2 * (numerator * denominator) := by
        nlinarith
      have total : (denominator + 1) * high =
          (denominator + 1) * (high / numerator) * numerator +
            (denominator + 1) * (high % numerator) := by
        calc (denominator + 1) * high
            = (denominator + 1) * (numerator * (high / numerator) + high % numerator) := by
              rw [floor]
          _ = _ := by ring
      have expanded : (denominator + 1) * high = high * denominator + high := by ring
      have swapped : low * numerator = numerator * low := Nat.mul_comm _ _
      omega

/-- The smaller part divides both numbers into the fraction. -/
theorem div_smallerPart (below : 2 * (numerator * low) ≤ 2 * (high * denominator) + low)
    (above : 2 * (high * denominator) + low < 2 * (numerator * low) + 2 * low) :
    high / min (high / numerator) (low / denominator) = numerator ∧
      low / min (high / numerator) (low / denominator) = denominator := by
  have numeratorPositive : 0 < numerator := Nat.lt_of_lt_of_le positive proper
  by_cases exceeds : high * denominator < numerator * low
  · have smaller : high / numerator ≤ low / denominator := by
      rw [Nat.le_div_iff_mul_le positive]
      apply Nat.le_of_mul_le_mul_right _ numeratorPositive
      calc high / numerator * denominator * numerator
          = numerator * (high / numerator) * denominator := by ring
        _ ≤ high * denominator := Nat.mul_le_mul_right _ (Nat.mul_div_le high numerator)
        _ ≤ low * numerator := by nlinarith
    rw [Nat.min_eq_left smaller]
    exact div_highPart ordered positive proper small exceeds below
  · have smaller : low / denominator ≤ high / numerator := by
      rw [Nat.le_div_iff_mul_le numeratorPositive]
      apply Nat.le_of_mul_le_mul_right _ positive
      calc low / denominator * numerator * denominator
          = denominator * (low / denominator) * numerator := by ring
        _ ≤ low * numerator := Nat.mul_le_mul_right _ (Nat.mul_div_le low denominator)
        _ ≤ high * denominator := by nlinarith
    rw [Nat.min_eq_right smaller]
    exact div_lowPart positive proper small (Nat.le_of_not_lt exceeds) above

end Divisor

end Memkind.Library
