/-
This file reads words that are masked below a power of two, and recognizes the powers of two.
-/

import Mathlib.Algebra.Group.Nat.Defs
import Mathlib.Data.BitVec
import Mathlib.Data.Nat.Bitwise

namespace Memkind.Library

variable {width exponent : Nat}

/-- The word whose only bit is at `exponent`. -/
def powerWord (width exponent : Nat) : BitVec width := BitVec.ofNat width (2 ^ exponent)

theorem powerWord_toNat (fits : exponent < width) :
    (powerWord width exponent).toNat = 2 ^ exponent := by
  rw [powerWord, BitVec.toNat_ofNat, Nat.mod_eq_of_lt (Nat.pow_lt_pow_right (by decide) fits)]

/-- The bits below a power of two. -/
theorem powerWord_sub_one (fits : exponent < width) :
    powerWord width exponent - 1 = BitVec.ofNat width (2 ^ exponent - 1) := by
  have bound : 2 ^ exponent < 2 ^ width := Nat.pow_lt_pow_right (by decide) fits
  have positive := Nat.two_pow_pos exponent
  have one : (1 : BitVec width).toNat = 1 := BitVec.toNat_one (by omega)
  apply BitVec.eq_of_toNat_eq
  rw [BitVec.toNat_sub_of_le (by rw [BitVec.le_def, powerWord_toNat fits, one]; omega), one,
    powerWord_toNat fits, BitVec.toNat_ofNat, Nat.mod_eq_of_lt (by omega)]

/-- The low bits of a word are its remainder. -/
theorem toNat_and_low (fits : exponent < width) (word : BitVec width) :
    (word &&& (powerWord width exponent - 1)).toNat = word.toNat % 2 ^ exponent := by
  have bound : 2 ^ exponent < 2 ^ width := Nat.pow_lt_pow_right (by decide) fits
  have positive := Nat.two_pow_pos exponent
  rw [powerWord_sub_one fits, BitVec.toNat_and, BitVec.toNat_ofNat,
    Nat.mod_eq_of_lt (by omega), Nat.and_two_pow_sub_one_eq_mod]

/-- Clearing the low bits of a word rounds it down to a multiple of the power. -/
theorem toNat_and_high (fits : exponent < width) (word : BitVec width) :
    (word &&& ~~~(powerWord width exponent - 1)).toNat =
      word.toNat / 2 ^ exponent * 2 ^ exponent := by
  have shifted : word &&& ~~~(powerWord width exponent - 1) = word >>> exponent <<< exponent := by
    apply BitVec.eq_of_getLsbD_eq
    intro index below
    rw [powerWord_sub_one fits]
    simp only [BitVec.getLsbD_and, BitVec.getLsbD_not, BitVec.getLsbD_ofNat,
      Nat.testBit_two_pow_sub_one, BitVec.getLsbD_shiftLeft, BitVec.getLsbD_ushiftRight]
    by_cases low : index < exponent
    · simp [low, below]
    · simp [low, below, Nat.add_sub_cancel' (Nat.le_of_not_lt low)]
  have rounded : word.toNat / 2 ^ exponent * 2 ^ exponent < 2 ^ width :=
    lt_of_le_of_lt (Nat.div_mul_le_self _ _) word.isLt
  rw [shifted, BitVec.toNat_shiftLeft, BitVec.toNat_ushiftRight, Nat.shiftLeft_eq,
    Nat.shiftRight_eq_div_pow, Nat.mod_eq_of_lt rounded]

/-- A word that is a power of two. -/
theorem eq_powerWord {power : BitVec width} (isPower : power.toNat.isPowerOfTwo) :
    ∃ exponent < width, power = powerWord width exponent ∧ power.toNat = 2 ^ exponent := by
  obtain ⟨exponent, equal⟩ := isPower
  have bound := power.isLt
  rw [equal] at bound
  refine ⟨exponent, (Nat.pow_lt_pow_iff_right (by decide)).mp bound, ?_, equal⟩
  rw [powerWord, ← equal, BitVec.ofNat_toNat, BitVec.setWidth_eq]

/-- The remainder of a word by a power of two. -/
theorem toNat_and_pred {power : BitVec width} (isPower : power.toNat.isPowerOfTwo)
    (word : BitVec width) : (word &&& (power - 1)).toNat = word.toNat % power.toNat := by
  obtain ⟨exponent, fits, equal, value⟩ := eq_powerWord isPower
  rw [value, equal, toNat_and_low fits]

/-- A word rounded down to a multiple of a power of two. -/
theorem toNat_and_not_pred {power : BitVec width} (isPower : power.toNat.isPowerOfTwo)
    (word : BitVec width) :
    (word &&& ~~~(power - 1)).toNat = word.toNat / power.toNat * power.toNat := by
  obtain ⟨exponent, fits, equal, value⟩ := eq_powerWord isPower
  rw [value, equal, toNat_and_high fits]

/-- A number and its predecessor share a bit unless the number is a power of two. -/
theorem and_pred_eq_zero_iff {number : Nat} (positive : 0 < number) :
    number &&& (number - 1) = 0 ↔ number.isPowerOfTwo := by
  constructor
  · intro disjoint
    refine ⟨Nat.log2 number, ?_⟩
    by_contra other
    have lower : 2 ^ Nat.log2 number ≤ number := Nat.log2_self_le (by omega)
    have upper : number < 2 ^ (Nat.log2 number + 1) := Nat.lt_log2_self
    have power := Nat.two_pow_pos (Nat.log2 number)
    have same : Nat.log2 (number - 1) = Nat.log2 number :=
      (Nat.log2_eq_iff (by omega)).mpr ⟨by omega, by omega⟩
    have first := Nat.testBit_log2 (show number ≠ 0 by omega)
    have second := Nat.testBit_log2 (show number - 1 ≠ 0 by omega)
    rw [same] at second
    have shared := Nat.testBit_and number (number - 1) (Nat.log2 number)
    rw [disjoint, first, second, Nat.zero_testBit] at shared
    cases shared
  · intro ⟨exponent, equal⟩
    rw [equal, Nat.and_two_pow_sub_one_eq_mod, Nat.mod_self]

theorem word_and_pred_eq_zero_iff (word : BitVec width) :
    word &&& (word - 1) = 0 ↔ word = 0 ∨ word.toNat.isPowerOfTwo := by
  by_cases zero : word = 0
  · rw [zero]
    exact iff_of_true BitVec.zero_and (Or.inl rfl)
  · have positive : 0 < word.toNat := by
      rw [Nat.pos_iff_ne_zero]
      exact fun none => zero (BitVec.eq_of_toNat_eq (none.trans BitVec.toNat_zero.symm))
    have one : (1 : BitVec width).toNat = 1 := by
      apply BitVec.toNat_one
      by_contra empty
      obtain rfl : width = 0 := by omega
      exact zero (Subsingleton.elim _ _)
    have pred : (word - 1).toNat = word.toNat - 1 := by
      rw [BitVec.toNat_sub_of_le (by rw [BitVec.le_def, one]; exact positive), one]
    rw [or_iff_right zero, ← and_pred_eq_zero_iff positive, ← pred, ← BitVec.toNat_and,
      ← BitVec.toNat_inj]
    exact Iff.rfl

end Memkind.Library
