/-
This file gives floating-point numbers exact arithmetic and the special values of the standard.
-/

import Mathlib.Data.Rat.Floor

namespace Memkind.Library

/-- A float is an exact number, a signed infinity, or not a number. Zero has no sign. -/
inductive ExactFloat where
  | finite (value : ℚ)
  | infinite (negative : Bool)
  | nan
  deriving DecidableEq

namespace ExactFloat

def ofNat (value : Nat) : ExactFloat := .finite value

def sub : ExactFloat → ExactFloat → ExactFloat
  | .nan, _ => .nan
  | _, .nan => .nan
  | .finite first, .finite second => .finite (first - second)
  | .finite _, .infinite negative => .infinite !negative
  | .infinite negative, .finite _ => .infinite negative
  | .infinite first, .infinite second => if first = second then .nan else .infinite first

def mul : ExactFloat → ExactFloat → ExactFloat
  | .nan, _ => .nan
  | _, .nan => .nan
  | .finite first, .finite second => .finite (first * second)
  | .finite value, .infinite negative =>
      if value = 0 then .nan else .infinite (negative ^^ decide (value < 0))
  | .infinite negative, .finite value =>
      if value = 0 then .nan else .infinite (negative ^^ decide (value < 0))
  | .infinite first, .infinite second => .infinite (first ^^ second)

def div : ExactFloat → ExactFloat → ExactFloat
  | .nan, _ => .nan
  | _, .nan => .nan
  | .finite first, .finite second =>
      if second ≠ 0 then .finite (first / second)
      else if first = 0 then .nan
      else .infinite (decide (first < 0))
  | .finite _, .infinite _ => .finite 0
  | .infinite negative, .finite value => .infinite (negative ^^ decide (value < 0))
  | .infinite _, .infinite _ => .nan

def abs : ExactFloat → ExactFloat
  | .finite value => .finite |value|
  | .infinite _ => .infinite false
  | .nan => .nan

/-- No comparison with `nan` holds. -/
def lt : ExactFloat → ExactFloat → Bool
  | .nan, _ => false
  | _, .nan => false
  | .finite first, .finite second => first < second
  | .finite _, .infinite negative => !negative
  | .infinite negative, .finite _ => negative
  | .infinite first, .infinite second => first && !second

/-- The ceiling of a number. -/
def ceil : ExactFloat → Option ℤ
  | .finite value => some ⌈value⌉
  | .infinite _ => none
  | .nan => none

end ExactFloat

section Single

/-- The distance of two neighbours among the `float` numbers, which have 24 significant bits. -/
def singleUnit (value : Nat) : Nat := 2 ^ (value.log2 - 23)

/-- The nearest `float`, and the even one of two that are equally near. -/
def roundSingle (value : Nat) : Nat :=
  let unit := singleUnit value
  let below := value / unit
  let rest := value % unit
  (if unit < 2 * rest ∨ unit = 2 * rest ∧ below % 2 = 1 then below + 1 else below) * unit

/-- The conversion of an unsigned number to `float`. -/
def ExactFloat.ofUnsigned (value : Nat) : ExactFloat := .ofNat (roundSingle value)

@[simp] theorem ExactFloat.ofNat_inj {first second : Nat} :
    ExactFloat.ofNat first = .ofNat second ↔ first = second := by
  rw [ofNat, ofNat, finite.injEq, Nat.cast_inj]

/-- A number is kept exactly when it fits into the significant bits. -/
theorem roundSingle_eq_self {value : Nat} :
    roundSingle value = value ↔ singleUnit value ∣ value := by
  have positive : 0 < singleUnit value := Nat.two_pow_pos _
  have split := Nat.div_add_mod' value (singleUnit value)
  have small := Nat.mod_lt value positive
  have above := Nat.add_one_mul (value / singleUnit value) (singleUnit value)
  rw [Nat.dvd_iff_mod_eq_zero, roundSingle]
  constructor
  · intro same
    split at same
    · omega
    · omega
  · intro divides
    rw [if_neg (by omega)]
    omega

end Single

end Memkind.Library
