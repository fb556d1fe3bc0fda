/-
This file reads unsigned numbers as the C library does.
-/

import Mathlib.Algebra.Group.Nat.Defs
import Mathlib.Data.List.TakeWhile
import Mathlib.Data.List.Induction
import Mathlib.Data.List.Basic

namespace Memkind.Library

/-- `isspace` -/
def isSpace (char : Char) : Bool := char = ' ' || (9 ≤ char.toNat && char.toNat ≤ 13)

/-- The value of a digit in the bases up to 36. Other characters have a value that is too large. -/
def digitValue (char : Char) : Nat :=
  if char.isDigit then char.toNat - 48
  else if 97 ≤ char.toNat ∧ char.toNat ≤ 122 then char.toNat - 87
  else if 65 ≤ char.toNat ∧ char.toNat ≤ 90 then char.toNat - 55
  else 36

def isDigitIn (base : Nat) (char : Char) : Bool := digitValue char < base

def numeralValue (base : Nat) (digits : List Char) : Nat :=
  digits.foldl (fun value digit => base * value + digitValue digit) 0

/-- The base that the start of a number selects, and the text from its digits on. -/
def numeralBase : List Char → Nat × List Char
  | '0' :: mark :: digit :: rest =>
      if (mark = 'x' ∨ mark = 'X') ∧ isDigitIn 16 digit then (16, digit :: rest)
      else (8, '0' :: mark :: digit :: rest)
  | '0' :: rest => (8, '0' :: rest)
  | text => (10, text)

/-- What `strtoul` returns: the number, whether `errno` is `ERANGE`, and the text after it. -/
structure Numeral where
  value : BitVec 64
  outOfRange : Bool
  rest : List Char
  deriving DecidableEq

/-- `strtoul(text, &end, 0)`, or `none` when there is no number and `end` is the start. -/
def strtoul (text : List Char) : Option Numeral :=
  let unspaced := text.dropWhile isSpace
  let unsigned := if unspaced.head? = some '-' ∨ unspaced.head? = some '+' then unspaced.tail
    else unspaced
  let base := (numeralBase unsigned).1
  let digits := (numeralBase unsigned).2
  let value := numeralValue base (digits.takeWhile (isDigitIn base))
  if digits.takeWhile (isDigitIn base) = [] then none
  else some
    { value :=
        if 2 ^ 64 ≤ value then BitVec.allOnes 64
        else if unspaced.head? = some '-' then -BitVec.ofNat 64 value
        else BitVec.ofNat 64 value
      outOfRange := decide (2 ^ 64 ≤ value)
      rest := digits.dropWhile (isDigitIn base) }

/-- `strtoll(text, &end, 10)` with the end. Without a number it returns zero and the start. -/
def strtoll (text : List Char) : BitVec 64 × List Char :=
  let unspaced := text.dropWhile isSpace
  let unsigned := if unspaced.head? = some '-' ∨ unspaced.head? = some '+' then unspaced.tail
    else unspaced
  let value := numeralValue 10 (unsigned.takeWhile Char.isDigit)
  if unsigned.takeWhile Char.isDigit = [] then (0, text)
  else
    (if unspaced.head? = some '-' then -BitVec.ofNat 64 (min value (2 ^ 63))
      else BitVec.ofNat 64 (min value (2 ^ 63 - 1)),
      unsigned.dropWhile Char.isDigit)

/-- `strtoul(text, &end, 10)` with the end. Without a number it returns zero and the start. -/
def strtoulDecimal (text : List Char) : Numeral :=
  let unspaced := text.dropWhile isSpace
  let unsigned := if unspaced.head? = some '-' ∨ unspaced.head? = some '+' then unspaced.tail
    else unspaced
  let value := numeralValue 10 (unsigned.takeWhile Char.isDigit)
  if unsigned.takeWhile Char.isDigit = [] then ⟨0, false, text⟩
  else
    { value :=
        if 2 ^ 64 ≤ value then BitVec.allOnes 64
        else if unspaced.head? = some '-' then -BitVec.ofNat 64 value
        else BitVec.ofNat 64 value
      outOfRange := decide (2 ^ 64 ≤ value)
      rest := unsigned.dropWhile Char.isDigit }

/-- A number of at most a limit that is the whole text. -/
def decimalUpTo (limit : Nat) (text : List Char) : Option Nat :=
  let number := strtoulDecimal text
  if limit < number.value.toNat ∨ number.rest ≠ [] ∨ number.outOfRange = true then none
  else some number.value.toNat

/-- A decimal number has only digits and does not start with a zero. -/
def plainDecimal (text : List Char) : Bool :=
  text ≠ [] && text.all Char.isDigit && text.head? ≠ some '0'

section Decimal

variable {char : Char} {text : List Char}

theorem isDigit_range (digit : char.isDigit) : 48 ≤ char.toNat ∧ char.toNat ≤ 57 := by
  rw [Char.isDigit, Bool.and_eq_true, decide_eq_true_iff, decide_eq_true_iff] at digit
  exact ⟨UInt32.le_iff_toNat_le.mp digit.1, UInt32.le_iff_toNat_le.mp digit.2⟩

theorem isSpace_of_isDigit (digit : char.isDigit) : isSpace char = false := by
  have range := isDigit_range digit
  rw [isSpace, Bool.or_eq_false_iff, decide_eq_false_iff_not, ← Bool.not_eq_true,
    Bool.and_eq_true, decide_eq_true_iff, decide_eq_true_iff]
  refine ⟨?_, by omega⟩
  rintro rfl
  exact absurd range.1 (by decide)

/-- A number that starts with a digit has no sign. -/
theorem no_sign_of_isDigit (digit : char.isDigit) :
    ¬ ((char :: text).head? = some '-' ∨ (char :: text).head? = some '+') := by
  have range := isDigit_range digit
  rintro (sign | sign)
  · obtain rfl := Option.some.inj sign
    exact absurd range.1 (by decide)
  · obtain rfl := Option.some.inj sign
    exact absurd range.1 (by decide)

theorem digitValue_of_isDigit (digit : char.isDigit) : digitValue char = char.toNat - 48 :=
  if_pos digit

theorem isDigitIn_ten_iff : isDigitIn 10 char = char.isDigit := by
  rw [isDigitIn, Bool.eq_iff_iff, decide_eq_true_iff]
  constructor
  · intro small
    by_contra noDigit
    rw [digitValue, if_neg noDigit] at small
    split at small
    · omega
    · split at small <;> omega
  · intro digit
    have range := isDigit_range digit
    rw [digitValue_of_isDigit digit]
    omega

/-- The decimal digits have the same value as in the standard library. -/
theorem numeralValue_ten (digits : ∀ digit ∈ text, digit.isDigit) :
    numeralValue 10 text = Nat.ofDigitChars 10 text 0 := by
  rw [numeralValue, Nat.ofDigitChars]
  generalize 0 = start
  induction text generalizing start with
  | nil => rfl
  | cons first others ih =>
      rw [List.foldl_cons, List.foldl_cons,
        ih fun digit member => digits digit (List.mem_cons_of_mem _ member),
        digitValue_of_isDigit (digits first List.mem_cons_self)]
      rfl

/-- Further digits make a number no smaller. -/
theorem le_foldl_digits {base : Nat} (positive : 0 < base) (digits : List Char) (start : Nat) :
    start ≤ digits.foldl (fun value digit => base * value + digitValue digit) start := by
  induction digits generalizing start with
  | nil => exact Nat.le_refl start
  | cons first others ih =>
      have grown := Nat.le_mul_of_pos_left start positive
      exact Nat.le_trans (by omega) (ih (base * start + digitValue first))

/-- A smaller base and fewer digits give no larger number. -/
theorem numeralValue_takeWhile_le {small large : Nat} (le : small ≤ large) (positive : 0 < large)
    (inside : Char → Bool) (digits : List Char) :
    numeralValue small (digits.takeWhile inside) ≤ numeralValue large digits := by
  have steps : ∀ lower upper, lower ≤ upper →
      (digits.takeWhile inside).foldl (fun value digit => small * value + digitValue digit) lower ≤
        digits.foldl (fun value digit => large * value + digitValue digit) upper := by
    induction digits with
    | nil => exact fun _ _ start => start
    | cons first others ih =>
        intro lower upper start
        by_cases taken : inside first = true
        · rw [List.takeWhile_cons_of_pos taken]
          exact ih _ _ (Nat.add_le_add_right (Nat.mul_le_mul le start) _)
        · rw [List.takeWhile_cons_of_neg taken]
          exact Nat.le_trans start (le_foldl_digits positive _ _)
  exact steps 0 0 (Nat.le_refl 0)

theorem plainDecimal_iff : plainDecimal text = true ↔
    text ≠ [] ∧ (∀ digit ∈ text, digit.isDigit) ∧ text.head? ≠ some '0' := by
  simp [plainDecimal, and_assoc]

/-- A plain decimal number is read up to its end in base ten. -/
theorem strtoul_plainDecimal (plain : plainDecimal text) :
    strtoul text = some
      { value := if 2 ^ 64 ≤ Nat.ofDigitChars 10 text 0 then BitVec.allOnes 64
          else BitVec.ofNat 64 (Nat.ofDigitChars 10 text 0)
        outOfRange := decide (2 ^ 64 ≤ Nat.ofDigitChars 10 text 0)
        rest := [] } := by
  obtain ⟨nonempty, digits, noZero⟩ := plainDecimal_iff.mp plain
  obtain ⟨first, others, rfl⟩ := List.exists_cons_of_ne_nil nonempty
  have firstDigit := digits first List.mem_cons_self
  have notZero : first ≠ '0' := fun same => noZero (by rw [same]; rfl)
  have unspaced : (first :: others).dropWhile isSpace = first :: others :=
    List.dropWhile_cons_of_neg (by simp [isSpace_of_isDigit firstDigit])
  have noSign := (no_sign_of_isDigit firstDigit : ¬ ((first :: others).head? = _ ∨ _))
  have decimal : numeralBase (first :: others) = (10, first :: others) := by
    unfold numeralBase
    split
    · rename_i shape
      exact absurd (List.cons.inj shape).1 notZero
    · rename_i shape
      exact absurd (List.cons.inj shape).1 notZero
    · rfl
  have inside : ∀ digit ∈ first :: others, isDigitIn 10 digit := by
    intro digit member
    rw [isDigitIn_ten_iff]
    exact digits digit member
  have taken : (first :: others).takeWhile (isDigitIn 10) = first :: others :=
    List.takeWhile_eq_self_iff.mpr inside
  have dropped : (first :: others).dropWhile (isDigitIn 10) = [] :=
    List.dropWhile_eq_nil_iff.mpr inside
  simp only [strtoul, unspaced, if_neg noSign, decimal, taken, dropped, if_neg nonempty,
    numeralValue_ten digits, if_neg fun sign => noSign (.inl sign)]

/-- A zero in front of the digits selects the base eight. The number ends at the first digit that
the base does not have. -/
theorem strtoul_octal (digits : ∀ digit ∈ text, digit.isDigit) :
    strtoul ('0' :: text) = some
      { value :=
          if 2 ^ 64 ≤ numeralValue 8 (('0' :: text).takeWhile (isDigitIn 8)) then BitVec.allOnes 64
          else BitVec.ofNat 64 (numeralValue 8 (('0' :: text).takeWhile (isDigitIn 8)))
        outOfRange := decide (2 ^ 64 ≤ numeralValue 8 (('0' :: text).takeWhile (isDigitIn 8)))
        rest := ('0' :: text).dropWhile (isDigitIn 8) } := by
  have octal : numeralBase ('0' :: text) = (8, '0' :: text) := by
    unfold numeralBase
    split
    · rename_i mark digit rest shape
      obtain ⟨-, rfl⟩ := List.cons.inj shape
      rw [if_neg]
      rintro ⟨rfl | rfl, -⟩
      · exact absurd (digits 'x' List.mem_cons_self) (by decide)
      · exact absurd (digits 'X' List.mem_cons_self) (by decide)
    · rename_i shape
      obtain ⟨-, rfl⟩ := List.cons.inj shape
      rfl
    · rename_i notZero
      exact absurd rfl (notZero text)
  have unspaced : ('0' :: text).dropWhile isSpace = '0' :: text :=
    List.dropWhile_cons_of_neg (by decide)
  have noSign : ¬(('0' :: text).head? = some '-' ∨ ('0' :: text).head? = some '+') :=
    no_sign_of_isDigit (by decide)
  have taken : ('0' :: text).takeWhile (isDigitIn 8) ≠ [] := by
    rw [List.takeWhile_cons_of_pos (by decide)]
    exact List.cons_ne_nil _ _
  simp only [strtoul, unspaced, if_neg noSign, octal, if_neg taken,
    if_neg fun sign => noSign (.inl sign)]

theorem head_toDigits {number : Nat} (positive : 0 < number) :
    (Nat.toDigits 10 number).head? ≠ some '0' := by
  induction number using Nat.strongRecOn with
  | ind number ih =>
      by_cases small : number < 10
      · rw [Nat.toDigits_of_lt_base small]
        simpa using Nat.ne_of_gt positive
      · rw [Nat.toDigits_of_base_le (by decide) (Nat.le_of_not_lt small),
          List.head?_append_of_ne_nil _ Nat.toDigits_ne_nil]
        exact ih (number / 10) (by omega) (by omega)

end Decimal

end Memkind.Library
