/-
This file shows that the ratio `memtier` guesses from the capacities is a close fraction with a
small denominator.
-/

import Memkind.Construction.MemtierTool
import Memkind.Library.NearestFraction

namespace Memkind

open Library

/-- The capacities of real machines. -/
structure Capacities (high low : Nat) : Prop where
  lower : 2 ^ 20 ≤ low
  ordered : low ≤ high
  upper : high ≤ 2 ^ 50
  spread : high ≤ 2 ^ 16 * low

/-- The fraction with this denominator misses the quotient by five percent at most. -/
def Accurate (high low b : Nat) : Prop := Close 20 high low (nearest high low b) b

instance (high low b : Nat) : Decidable (Accurate high low b) :=
  inferInstanceAs (Decidable (Close _ _ _ _ _))

/-- No value of the iteration with the denominator `b` is reduced. -/
structure NoOverflow (high low b : Nat) : Prop where
  doubled : 2 * (high * b) + low < 2 ^ 64
  expected : high * b * 21 < 2 ^ 64
  rounded : nearest high low b * low * 21 < 2 ^ 64

section Words

variable {high low : Nat}

theorem Capacities.positive (capacities : Capacities high low) : 0 < low :=
  Nat.lt_of_lt_of_le (by decide) capacities.lower

theorem Capacities.noOverflow (capacities : Capacities high low) {b : Nat} (bound : b ≤ 11) :
    NoOverflow high low b := by
  have product : high * b ≤ 2 ^ 50 * 11 := Nat.mul_le_mul capacities.upper bound
  have rounding := nearest_mul_le high low b
  have ordered := capacities.ordered
  have upper := capacities.upper
  constructor
  · omega
  · omega
  · omega

theorem Capacities.accurate_eleven (capacities : Capacities high low) : Accurate high low 11 := by
  apply close_nearest capacities.positive
  have ordered := capacities.ordered
  omega

variable {x y b : SizeT} (fits : NoOverflow x.toNat y.toNat b.toNat)

include fits

theorem NoOverflow.toNat_numerator :
    ((2 * x * b + y) / y / 2).toNat = nearest x.toNat y.toNat b.toNat := by
  have sum : (2 * x * b + y).toNat = 2 * (x.toNat * b.toNat) + y.toNat := by
    rw [BitVec.toNat_add, BitVec.toNat_mul, BitVec.toNat_mul, Nat.mod_mul_mod, Nat.mod_add_mod,
      Nat.mul_assoc]
    exact Nat.mod_eq_of_lt fits.doubled
  have two : (2 : SizeT).toNat = 2 := rfl
  rw [BitVec.toNat_udiv, BitVec.toNat_udiv, sum, two, Nat.div_div_eq_div_mul, nearest,
    Nat.mul_comm y.toNat]

theorem NoOverflow.toNat_expected : (x * b).toNat = x.toNat * b.toNat := by
  have expected := fits.expected
  exact BitVec.toNat_mul_of_lt (by omega)

theorem NoOverflow.toNat_rounded :
    ((2 * x * b + y) / y / 2 * y).toNat = nearest x.toNat y.toNat b.toNat * y.toNat := by
  have rounded := fits.rounded
  rw [BitVec.toNat_mul, fits.toNat_numerator]
  exact Nat.mod_eq_of_lt (by omega)

omit fits in
theorem toNat_accuracy {value : SizeT} (fits : value.toNat * 21 < 2 ^ 64) :
    (accuracy value).toNat = value.toNat * 21 / 20 := by
  rw [accuracy, BitVec.toNat_udiv, BitVec.toNat_mul]
  have factor : (21 : SizeT).toNat = 21 := rfl
  rw [factor, Nat.mod_eq_of_lt fits]
  rfl

/-- The truncated divisions of the two tests lose nothing. -/
theorem NoOverflow.accurate_iff :
    Accurate x.toNat y.toNat b.toNat ↔
      ¬accuracy (x * b) < (2 * x * b + y) / y / 2 * y ∧
        ¬accuracy ((2 * x * b + y) / y / 2 * y) < x * b := by
  have expected : (x * b).toNat * 21 < 2 ^ 64 := fits.toNat_expected ▸ fits.expected
  have rounded : ((2 * x * b + y) / y / 2 * y).toNat * 21 < 2 ^ 64 :=
    fits.toNat_rounded ▸ fits.rounded
  rw [BitVec.lt_def, BitVec.lt_def, toNat_accuracy expected, toNat_accuracy rounded,
    fits.toNat_expected, fits.toNat_rounded]
  unfold Accurate Close
  omega

omit fits in
/-- The divisor for the denominator `b`. -/
def friendlyDivisor (x y b : SizeT) : SizeT :=
  if x / ((2 * x * b + y) / y / 2) < y / b then x / ((2 * x * b + y) / y / 2) else y / b

theorem NoOverflow.toNat_friendlyDivisor :
    (friendlyDivisor x y b).toNat =
      min (x.toNat / nearest x.toNat y.toNat b.toNat) (y.toNat / b.toNat) := by
  have highPart : (x / ((2 * x * b + y) / y / 2)).toNat =
      x.toNat / nearest x.toNat y.toNat b.toNat := by
    rw [BitVec.toNat_udiv, fits.toNat_numerator]
  have lowPart : (y / b).toNat = y.toNat / b.toNat := BitVec.toNat_udiv
  rw [← highPart, ← lowPart]
  unfold friendlyDivisor
  split
  · rename_i smaller
    rw [Nat.min_eq_left (Nat.le_of_lt smaller)]
  · rename_i larger
    rw [Nat.min_eq_right (Nat.le_of_not_lt larger)]

/-- One iteration of the loop. -/
theorem NoOverflow.humanFriendlyLoop_succ (positive : 0 < b.toNat)
    (numerator : 0 < nearest x.toNat y.toNat b.toNat) (fuel : Nat) :
    humanFriendlyLoop x y (fuel + 1) b =
      if Accurate x.toNat y.toNat b.toNat then some (friendlyDivisor x y b)
      else humanFriendlyLoop x y fuel (b + 1) := by
  have defined : ¬((2 * x * b + y) / y / 2 = 0 ∨ b = 0) := by
    rintro (zero | zero)
    · rw [← fits.toNat_numerator, zero] at numerator
      exact absurd numerator (by decide)
    · rw [zero] at positive
      exact absurd positive (by decide)
  rw [humanFriendlyLoop, if_neg defined, ← apply_ite some, ← friendlyDivisor]
  split
  · rename_i much
    rw [if_neg fun accurate => (fits.accurate_iff.mp accurate).1 much]
  · rename_i notMuch
    split
    · rename_i little
      rw [if_neg fun accurate => (fits.accurate_iff.mp accurate).2 little]
    · rename_i notLittle
      rw [if_pos (fits.accurate_iff.mpr ⟨notMuch, notLittle⟩)]

end Words

section Search

variable {x y : SizeT} (capacities : Capacities x.toNat y.toNat)

include capacities

/-- The loop stops at the least accurate denominator. -/
theorem Capacities.humanFriendlyLoop_eq {least : Nat} (bound : least ≤ 11)
    (accurate : Accurate x.toNat y.toNat least)
    (minimal : ∀ b, 0 < b → b < least → ¬Accurate x.toNat y.toNat b) (fuel : Nat) {b : Nat}
    (positive : 0 < b) (before : b ≤ least) :
    humanFriendlyLoop x y fuel (BitVec.ofNat 64 b) =
      if least < b + fuel then some (friendlyDivisor x y (BitVec.ofNat 64 least)) else none := by
  induction fuel generalizing b with
  | zero => rw [if_neg (by omega), humanFriendlyLoop]
  | succ fuel ih =>
      have word : (BitVec.ofNat 64 b).toNat = b := by
        rw [BitVec.toNat_ofNat]
        exact Nat.mod_eq_of_lt (by omega)
      have fits : NoOverflow x.toNat y.toNat (BitVec.ofNat 64 b).toNat := by
        rw [word]
        exact capacities.noOverflow (by omega)
      have numerator : b ≤ nearest x.toNat y.toNat b :=
        denominator_le_nearest capacities.positive capacities.ordered b
      rw [fits.humanFriendlyLoop_succ (by omega) (by rw [word]; omega), word]
      by_cases here : b = least
      · rw [here, if_pos accurate, if_pos (by omega)]
      · have next : BitVec.ofNat 64 b + 1 = BitVec.ofNat 64 (b + 1) :=
          (BitVec.ofNat_add b 1).symm
        rw [if_neg (minimal b positive (by omega)), next,
          ih (by omega) (by omega)]
        congr 1
        rw [eq_iff_iff]
        omega

omit capacities in
/-- The product of the numerator and the denominator stays small, because the first denominator is
accurate when the capacities are far apart. -/
theorem Capacities.numerator_mul_denominator {high low : Nat} (capacities : Capacities high low)
    {least : Nat} (positive : 0 < least) (bound : least ≤ 11)
    (minimal : ∀ b, 0 < b → b < least → ¬Accurate high low b) :
    16 * (nearest high low least * least) ≤ low := by
  have lower := capacities.lower
  have rounding := nearest_mul_le high low least
  by_cases first : least = 1
  · have numerator : nearest high low least ≤ 2 ^ 16 := by
      have spread := capacities.spread
      by_contra larger
      have product : (2 ^ 16 + 1) * low ≤ nearest high low least * low :=
        Nat.mul_le_mul_right _ (by omega)
      rw [first] at rounding product
      omega
    rw [first] at numerator ⊢
    omega
  · have near : 2 * high < 21 * low := by
      by_contra far
      exact minimal 1 (by omega) (by omega) (close_nearest capacities.positive (by omega))
    have numerator : nearest high low least ≤ 116 := by
      by_contra larger
      have product : 117 * low ≤ nearest high low least * low :=
        Nat.mul_le_mul_right _ (by omega)
      have scaled : high * least ≤ high * 11 := Nat.mul_le_mul_left _ bound
      omega
    have product : nearest high low least * least ≤ 116 * 11 := Nat.mul_le_mul numerator bound
    omega

end Search

/-- What `memtier` gets from two capacities with the denominator `b` and the divisor `d`. -/
structure FriendlyRatio (high low b d : Nat) : Prop where
  positive : 1 ≤ b
  bound : b ≤ 11
  accurate : Accurate high low b
  least : ∀ c, 1 ≤ c → c < b → ¬Accurate high low c
  noOverflow : ∀ c ≤ b, NoOverflow high low c
  divisor : 1 ≤ d
  pair : high / d = nearest high low b ∧ low / d = b

section Order

variable {x y : SizeT}

/-- The capacities in their order. -/
theorem Capacities.friendlyRatio (capacities : Capacities x.toNat y.toNat) :
    ∃ (b : Nat) (d : SizeT), FriendlyRatio x.toNat y.toNat b d.toNat ∧
      ∀ fuel, humanFriendlyLoop x y fuel 1 = if b ≤ fuel then some d else none := by
  have found : ∃ b, 0 < b ∧ Accurate x.toNat y.toNat b :=
    ⟨11, by decide, capacities.accurate_eleven⟩
  have bound : Nat.find found ≤ 11 := Nat.find_min' found ⟨by decide, capacities.accurate_eleven⟩
  obtain ⟨positive, accurate⟩ := Nat.find_spec found
  have minimal : ∀ b, 0 < b → b < Nat.find found → ¬Accurate x.toNat y.toNat b := by
    intro b above below good
    exact Nat.find_min found below ⟨above, good⟩
  generalize Nat.find found = least at *
  have word : (BitVec.ofNat 64 least).toNat = least := by
    rw [BitVec.toNat_ofNat]
    exact Nat.mod_eq_of_lt (by omega)
  have fits : NoOverflow x.toNat y.toNat (BitVec.ofNat 64 least).toNat := by
    rw [word]
    exact capacities.noOverflow bound
  have divisor := fits.toNat_friendlyDivisor
  have pair := div_smallerPart capacities.ordered positive
    (denominator_le_nearest capacities.positive capacities.ordered least)
    (capacities.numerator_mul_denominator positive bound minimal) (nearest_mul_le _ _ _)
    (lt_nearest_mul capacities.positive _ _)
  rw [word] at divisor
  rw [← divisor] at pair
  refine ⟨least, friendlyDivisor x y (BitVec.ofNat 64 least), ?_, fun fuel => ?_⟩
  · refine ⟨positive, bound, accurate, minimal, ?_, ?_, pair⟩
    · intro c before
      exact capacities.noOverflow (Nat.le_trans before bound)
    · apply Nat.pos_of_ne_zero
      intro zero
      rw [zero, Nat.div_zero, Nat.div_zero] at pair
      omega
  · have one : (1 : SizeT) = BitVec.ofNat 64 1 := rfl
    rw [one, capacities.humanFriendlyLoop_eq bound accurate minimal fuel Nat.one_pos positive]
    congr 1
    rw [eq_iff_iff]
    omega

/-- The arguments are exchanged when the first one is smaller. -/
theorem humanFriendlyRatio_eq (fuel : Nat) (positive : 0 < min x.toNat y.toNat) :
    humanFriendlyRatio fuel x y =
      if x < y then humanFriendlyLoop y x fuel 1 else humanFriendlyLoop x y fuel 1 := by
  have nonzero : ∀ {word : SizeT}, 0 < word.toNat → word ≠ 0 := by
    intro word above zero
    rw [zero] at above
    exact absurd above (by decide)
  by_cases swapped : x < y
  · rw [humanFriendlyRatio, if_pos swapped, if_pos swapped]
    exact if_neg (nonzero (by omega))
  · rw [humanFriendlyRatio, if_neg swapped, if_neg swapped]
    exact if_neg (nonzero (by omega))

/-- Capacities are positive as signed numbers. -/
theorem not_sle_zero (word : BitVec 64) (positive : 0 < word.toNat) (small : word.toNat ≤ 2 ^ 50) :
    word.slt 0 = false ∧ word.sle 0 = false := by
  have signed : word.toInt = word.toNat := BitVec.toInt_eq_toNat_of_lt (by omega)
  have zero : (0 : BitVec 64).toInt = 0 := rfl
  constructor
  · rw [BitVec.slt_eq_decide, signed, zero, decide_eq_false_iff_not]
    omega
  · rw [BitVec.sle_eq_decide, signed, zero, decide_eq_false_iff_not]
    omega

end Order

/-- The loop of `human_friendly_ratio` stops after eleven iterations at most, and the emitted pair is
the first fraction within five percent. -/
theorem humanFriendlyRatio_friendly (x y : SizeT)
    (capacities : Capacities (max x.toNat y.toNat) (min x.toNat y.toNat)) :
    ∃ (b : Nat) (d : SizeT),
      FriendlyRatio (max x.toNat y.toNat) (min x.toNat y.toNat) b d.toNat ∧
      (∀ fuel, humanFriendlyRatio fuel x y = if b ≤ fuel then some d else none) ∧
      ∀ fuel, b ≤ fuel → guessRatio fuel x y = some (.ok ⟨x / d, y / d⟩) := by
  have positive := capacities.positive
  have found : ∃ (b : Nat) (d : SizeT),
      FriendlyRatio (max x.toNat y.toNat) (min x.toNat y.toNat) b d.toNat ∧
      ∀ fuel, humanFriendlyRatio fuel x y = if b ≤ fuel then some d else none := by
    simp only [humanFriendlyRatio_eq _ positive]
    by_cases swapped : x < y
    · have order : x.toNat < y.toNat := swapped
      rw [Nat.max_eq_right (Nat.le_of_lt order), Nat.min_eq_left (Nat.le_of_lt order)]
        at capacities ⊢
      simp only [if_pos swapped]
      exact capacities.friendlyRatio
    · have order : y.toNat ≤ x.toNat := Nat.le_of_not_lt swapped
      rw [Nat.max_eq_left order, Nat.min_eq_right order] at capacities ⊢
      simp only [if_neg swapped]
      exact capacities.friendlyRatio
  obtain ⟨b, d, friendly, stops⟩ := found
  refine ⟨b, d, friendly, stops, fun fuel enough => ?_⟩
  have divisor : d ≠ 0 := by
    intro zero
    have above := friendly.divisor
    rw [zero] at above
    exact absurd above (by decide)
  have upper := capacities.upper
  have dram := (not_sle_zero x (by omega) (by omega)).1
  have pmem := (not_sle_zero y (by omega) (by omega)).2
  simp only [guessRatio, dram, pmem, stops, if_pos enough, if_neg divisor, Bool.false_eq_true,
    if_false, Option.bind_eq_bind, Option.bind_some]

/-- Capacities of 2 GiB and 3 GiB. -/
theorem humanFriendlyRatio_friendly_gibibytes :
    Capacities 3221225472 2147483648 ∧
      ∃ (b : Nat) (d : SizeT), FriendlyRatio 3221225472 2147483648 b d.toNat ∧
        (∀ fuel, humanFriendlyRatio fuel 2147483648 3221225472 =
          if b ≤ fuel then some d else none) ∧
        ∀ fuel, b ≤ fuel → guessRatio fuel 2147483648 3221225472 =
          some (.ok ⟨2147483648 / d, 3221225472 / d⟩) := by
  have capacities : Capacities 3221225472 2147483648 :=
    ⟨by decide, by decide, by decide, by decide⟩
  exact ⟨capacities, humanFriendlyRatio_friendly 2147483648 3221225472 capacities⟩

end Memkind
