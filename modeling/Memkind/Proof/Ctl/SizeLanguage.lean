/-
This file compares the sizes that `ctl_parse_size` reads with the sizes that are written.
-/

import Memkind.Proof.Ctl.TierQuery

namespace Memkind

open Library

section Sizes

/-- The text of an optional suffix. -/
def unitText (unit : Option SizeSuffix) : CString := unit.elim [] SizeSuffix.suff

/-- What an optional suffix multiplies by. -/
def unitMagnitude (unit : Option SizeSuffix) : Nat := unit.elim 1 fun suffix => suffix.mag.toNat

/-- The token is a decimal number with an optional suffix, and their product is the size. -/
def DenotesSize (token : CString) (size : SizeT) : Prop :=
  ∃ digits unit, digits ≠ [] ∧ (∀ digit ∈ digits, digit.isDigit) ∧
    token = digits ++ unitText unit ∧ numeralValue 10 digits * unitMagnitude unit = size.toNat

/-- The call returns the size that the token denotes, and refuses a token that denotes none. -/
structure SizeExact (token : CString) : Prop where
  accepts : ∀ size, DenotesSize token size → ctlParseSize (some token) = .accept size
  rejects : (∀ size, ¬DenotesSize token size) → ctlParseSize (some token) = .reject ()

/-- The unit with the given text. -/
def unitOf (text : CString) : Option (Option SizeSuffix) :=
  if text = [] then some none else (keyword SizeSuffix.all SizeSuffix.suff text).map some

theorem unitOf_eq_some_iff {text : CString} {unit : Option SizeSuffix} :
    unitOf text = some unit ↔ text = unitText unit := by
  have injective : Function.Injective SizeSuffix.suff := by
    intro first second
    cases first <;> cases second <;> decide
  have complete : ∀ suffix : SizeSuffix, suffix ∈ SizeSuffix.all := by
    intro suffix
    cases suffix <;> decide
  unfold unitOf
  by_cases empty : text = []
  · subst empty
    rw [if_pos rfl, Option.some.injEq]
    cases unit with
    | none => exact iff_of_true rfl rfl
    | some suffix => cases suffix <;> decide
  · rw [if_neg empty, Option.map_eq_some_iff]
    cases unit with
    | none => simp [unitText, empty]
    | some suffix => simp [keyword_eq_some_iff complete injective, unitText, eq_comm]

theorem unitText_injective : Function.Injective unitText := by
  intro first second same
  have read := unitOf_eq_some_iff.mpr (rfl : unitText first = unitText first)
  rw [unitOf_eq_some_iff.mpr same] at read
  exact (Option.some.inj read).symm

theorem unitMagnitude_pos (unit : Option SizeSuffix) : 0 < unitMagnitude unit := by
  cases unit with
  | none => exact Nat.one_pos
  | some suffix => cases suffix <;> decide

/-- The product, where it is a `size_t`. -/
def sizeProduct (value : Nat) (unit : Option SizeSuffix) : Option SizeT :=
  if value * unitMagnitude unit < 2 ^ 64 then
    some (BitVec.ofNat 64 (value * unitMagnitude unit))
  else none

/-- The size that a token denotes. -/
def denotedSize (token : CString) : Option SizeT :=
  if token.takeWhile Char.isDigit = [] then none
  else (unitOf (token.dropWhile Char.isDigit)).bind
    (sizeProduct (numeralValue 10 (token.takeWhile Char.isDigit)))

/-- The digits of a token end where its suffix starts. -/
theorem digits_unitText {digits : CString} (allDigits : ∀ digit ∈ digits, digit.isDigit)
    (unit : Option SizeSuffix) :
    (digits ++ unitText unit).takeWhile Char.isDigit = digits ∧
      (digits ++ unitText unit).dropWhile Char.isDigit = unitText unit := by
  have stops : (unitText unit).takeWhile Char.isDigit = [] ∧
      (unitText unit).dropWhile Char.isDigit = unitText unit := by
    cases unit with
    | none => decide
    | some suffix => cases suffix <;> decide
  rw [List.takeWhile_append_of_pos allDigits, List.dropWhile_append_of_pos allDigits, stops.1,
    stops.2, List.append_nil]
  exact ⟨rfl, rfl⟩

theorem sizeProduct_eq_some_iff {value : Nat} {unit : Option SizeSuffix} {size : SizeT} :
    sizeProduct value unit = some size ↔ value * unitMagnitude unit = size.toNat := by
  unfold sizeProduct
  constructor
  · intro product
    split at product
    · rename_i fits
      obtain rfl := Option.some.inj product
      rw [BitVec.toNat_ofNat, Nat.mod_eq_of_lt fits]
    · cases product
  · intro product
    rw [product, if_pos size.isLt, BitVec.ofNat_toNat, BitVec.setWidth_eq]

theorem denotesSize_iff {token : CString} {size : SizeT} :
    DenotesSize token size ↔ denotedSize token = some size := by
  unfold denotedSize
  constructor
  · rintro ⟨digits, unit, nonempty, allDigits, rfl, product⟩
    obtain ⟨taken, dropped⟩ := digits_unitText allDigits unit
    rw [taken, dropped, if_neg nonempty, unitOf_eq_some_iff.mpr rfl, Option.bind_some]
    exact sizeProduct_eq_some_iff.mpr product
  · intro denoted
    split at denoted
    · cases denoted
    · rename_i nonempty
      obtain ⟨unit, shown, product⟩ := Option.bind_eq_some_iff.mp denoted
      refine ⟨_, unit, nonempty, fun digit member => List.mem_takeWhile_imp member, ?_,
        sizeProduct_eq_some_iff.mp product⟩
      rw [← unitOf_eq_some_iff.mp shown, List.takeWhile_append_dropWhile]

end Sizes

section Reading

/-- The number in the base that its first digit selects. -/
def selectedValue (digits : CString) : Nat :=
  if digits.head? = some '0' then numeralValue 8 (digits.takeWhile (isDigitIn 8))
  else numeralValue 10 digits

/-- What the conversion `%2s` stores. -/
def unitWord (text : CString) : CString := ((text.dropWhile isSpace).takeWhile (!isSpace ·)).take 2

/-- The size that is read from a token. -/
def readSize (token : CString) : Option SizeT :=
  if token.takeWhile Char.isDigit = [] ∨ 31 < (token.takeWhile Char.isDigit).length then none
  else (unitOf (unitWord (token.dropWhile Char.isDigit))).bind
    (sizeProduct (selectedValue (token.takeWhile Char.isDigit)))

/-- The number is stored unless it is out of range. -/
theorem numeral_stored (value : Nat) (rest : CString) :
    (some { value := if 2 ^ 64 ≤ value then BitVec.allOnes 64 else BitVec.ofNat 64 value
            outOfRange := decide (2 ^ 64 ≤ value), rest } : Option Numeral).bind
        (fun number => if number.outOfRange then none else some number.value) =
      if value < 2 ^ 64 then some (BitVec.ofNat 64 value) else none := by
  rw [Option.bind_some]
  dsimp only
  by_cases fits : value < 2 ^ 64
  · have inside : ¬2 ^ 64 ≤ value := Nat.not_le.mpr fits
    rw [decide_eq_false inside, if_neg inside, if_pos fits]
    rfl
  · rw [decide_eq_true (Nat.not_lt.mp fits), if_neg fits]
    rfl

/-- Digits are read in the base that their first one selects. -/
theorem strtoul_digits {digits : CString} (nonempty : digits ≠ [])
    (allDigits : ∀ digit ∈ digits, digit.isDigit) :
    ∃ rest, strtoul digits = some
      { value := if 2 ^ 64 ≤ selectedValue digits then BitVec.allOnes 64
          else BitVec.ofNat 64 (selectedValue digits)
        outOfRange := decide (2 ^ 64 ≤ selectedValue digits), rest } := by
  obtain ⟨first, others, rfl⟩ := List.exists_cons_of_ne_nil nonempty
  unfold selectedValue
  by_cases zero : first = '0'
  · subst zero
    rw [strtoul_octal fun digit member => allDigits digit (List.mem_cons_of_mem _ member),
      List.head?_cons, if_pos rfl]
    exact ⟨_, rfl⟩
  · have noZero : (first :: others).head? ≠ some '0' := by simpa using zero
    rw [strtoul_plainDecimal (plainDecimal_iff.mpr ⟨nonempty, allDigits, noZero⟩), if_neg noZero,
      numeralValue_ten allDigits]
    exact ⟨_, rfl⟩

theorem ctlParseSizeT_digits {digits : CString} (nonempty : digits ≠ [])
    (allDigits : ∀ digit ∈ digits, digit.isDigit) :
    ctlParseSizeT digits = if selectedValue digits < 2 ^ 64 then
      some (BitVec.ofNat 64 (selectedValue digits)) else none := by
  obtain ⟨first, others, rfl⟩ := List.exists_cons_of_ne_nil nonempty
  have noSign : (first :: others).head? ≠ some '-' := by
    intro sign
    exact no_sign_of_isDigit (allDigits first List.mem_cons_self) (.inl sign)
  obtain ⟨rest, read⟩ := strtoul_digits nonempty allDigits
  rw [ctlParseSizeT, if_neg noSign, read, numeral_stored]

/-- The division rules out a product that does not fit. -/
theorem suffix_product {value : Nat} (fits : value < 2 ^ 64) (suffix : SizeSuffix) :
    (if BitVec.ofNat 64 value ≤ BitVec.allOnes 64 / suffix.mag then
        some (BitVec.ofNat 64 value * suffix.mag) else none) =
      sizeProduct value (some suffix) := by
  have positive : 0 < suffix.mag.toNat := unitMagnitude_pos (some suffix)
  have bound : BitVec.ofNat 64 value ≤ BitVec.allOnes 64 / suffix.mag ↔
      value * suffix.mag.toNat < 2 ^ 64 := by
    rw [BitVec.le_def, BitVec.toNat_udiv, BitVec.toNat_allOnes, BitVec.toNat_ofNat,
      Nat.mod_eq_of_lt fits, Nat.le_div_iff_mul_le positive]
    omega
  have product : BitVec.ofNat 64 (value * suffix.mag.toNat) =
      BitVec.ofNat 64 value * suffix.mag := by
    rw [BitVec.ofNat_mul, BitVec.ofNat_toNat, BitVec.setWidth_eq]
  change _ = if value * suffix.mag.toNat < 2 ^ 64 then
    some (BitVec.ofNat 64 (value * suffix.mag.toNat)) else none
  rw [product]
  exact if_congr bound rfl rfl

/-- A unit is looked up behind the digits. -/
theorem sizeProduct_unit {value : Nat} {word : CString} :
    ((if value < 2 ^ 64 then some (BitVec.ofNat 64 value) else none).elim (.reject ()) fun size =>
        if word = [] then .accept size
        else (keyword SizeSuffix.all SizeSuffix.suff word).elim (.reject ()) fun suffix =>
          if size ≤ BitVec.allOnes 64 / suffix.mag then .accept (size * suffix.mag)
          else .reject () : Parsed Unit SizeT) =
      ((unitOf word).bind (sizeProduct value)).elim (.reject ()) .accept := by
  by_cases fits : value < 2 ^ 64
  · rw [if_pos fits, Option.elim_some]
    by_cases empty : word = []
    · have whole : sizeProduct value none = some (BitVec.ofNat 64 value) := by
        change (if value * 1 < 2 ^ 64 then some (BitVec.ofNat 64 (value * 1)) else none) = _
        rw [Nat.mul_one, if_pos fits]
      rw [if_pos empty, unitOf, if_pos empty, Option.bind_some, whole]
      rfl
    · rw [if_neg empty, unitOf, if_neg empty]
      cases keyword SizeSuffix.all SizeSuffix.suff word with
      | none => rfl
      | some suffix =>
          rw [Option.elim_some, Option.map_some, Option.bind_some, ← suffix_product fits suffix]
          split
          · rfl
          · rfl
  · have refused : ∀ unit, sizeProduct value unit = none := by
      intro unit
      have larger := Nat.le_mul_of_pos_right value (unitMagnitude_pos unit)
      exact if_neg (by omega)
    rw [if_neg fits]
    cases unitOf word with
    | none => rfl
    | some unit =>
        rw [Option.bind_some, refused]
        rfl

/-- No suffix starts with a digit. -/
theorem keyword_digit {first : Char} (digit : first.isDigit) (others : CString) :
    keyword SizeSuffix.all SizeSuffix.suff (first :: others) = none := by
  unfold keyword
  rw [List.find?_eq_none]
  intro suffix _ found
  have same := of_decide_eq_true found
  cases suffix with
  | k => exact absurd ((List.cons.inj same).1 ▸ digit) (by decide)
  | m => exact absurd ((List.cons.inj same).1 ▸ digit) (by decide)
  | g => exact absurd ((List.cons.inj same).1 ▸ digit) (by decide)

/-- Behind a digit that is left over, the unit starts with it. -/
theorem unitWord_digit {first : Char} (digit : first.isDigit) (others : CString) :
    ∃ word, unitWord (first :: others) = first :: word := by
  have solid := isSpace_of_isDigit digit
  refine ⟨((others.takeWhile (!isSpace ·)).take 1), ?_⟩
  rw [unitWord, List.dropWhile_cons_of_neg (by simp [solid]),
    List.takeWhile_cons_of_pos (by simp [solid]), List.take_succ_cons]

theorem ctlParseSize_read {token : CString} (free : ':' ∉ token) :
    ctlParseSize (some token) = (readSize token).elim (.reject ()) .accept := by
  by_cases empty : token = []
  · subst empty
    rfl
  have tokens : (nextToken ctlValueSeparator token).1 = some token := by
    have ended : ∀ item ∈ ([] : CString).head?, item = ctlValueSeparator := by simp
    have whole := nextToken_token empty free ended
    rw [List.append_nil] at whole
    exact congrArg Prod.fst whole
  have shape := (List.takeWhile_append_dropWhile : token.takeWhile Char.isDigit ++
    token.dropWhile Char.isDigit = token)
  have allDigits : ∀ digit ∈ token.takeWhile Char.isDigit, digit.isDigit :=
    fun digit member => List.mem_takeWhile_imp member
  unfold ctlParseSize readSize
  dsimp only
  rw [tokens]
  dsimp only
  generalize token.takeWhile Char.isDigit = digits at shape allDigits ⊢
  generalize token.dropWhile Char.isDigit = rest at shape ⊢
  by_cases none : digits = []
  · subst none
    have refused : ([] : CString) = [] ∨ 31 < ([] : CString).length := .inl rfl
    rw [if_pos refused]
    split
    · rfl
    · rfl
  have noSign : token.head? ≠ some '-' := by
    obtain ⟨first, others, rfl⟩ := List.exists_cons_of_ne_nil none
    rw [← shape]
    exact fun sign => no_sign_of_isDigit (allDigits first List.mem_cons_self) (.inl sign)
  rw [if_neg noSign]
  by_cases long : 31 < digits.length
  · -- The digit behind the 31 that are stored is taken for a unit.
    have left : digits.drop 31 ≠ [] := by
      intro nothing
      have length := congrArg List.length nothing
      rw [List.length_drop, List.length_nil] at length
      omega
    obtain ⟨first, others, dropped⟩ := List.exists_cons_of_ne_nil left
    have digit := allDigits first (List.mem_of_mem_drop (dropped ▸ List.mem_cons_self))
    have behind : token.drop (digits.take 31).length = first :: (others ++ rest) := by
      rw [← shape, List.length_take_of_le (Nat.le_of_lt long),
        List.drop_append_of_le_length (Nat.le_of_lt long), dropped]
      rfl
    obtain ⟨word, unit⟩ := unitWord_digit digit (others ++ rest)
    rw [unitWord] at unit
    rw [behind, unit, if_pos (.inr long)]
    split
    · rfl
    · rw [if_neg (List.cons_ne_nil _ _), keyword_digit digit]
      rfl
  · have short : digits.length ≤ 31 := Nat.not_lt.mp long
    have behind : token.drop digits.length = rest := by
      rw [← shape]
      exact List.drop_left
    rw [List.take_of_length_le short, behind, if_neg (not_or.mpr ⟨none, long⟩),
      ctlParseSizeT_digits none allDigits, ← sizeProduct_unit, unitWord]
    split
    · rename_i refused
      rw [refused]
      rfl
    · rename_i value stored
      rw [stored, Option.elim_some]
      split
      · rfl
      · split
        · rename_i unknown
          rw [unknown]
          rfl
        · rename_i suffix known
          rw [known]
          rfl

end Reading

/-- The tokens that are not read as what they are. -/
inductive SizeMisread (token : CString) : Prop where
  /-- More than 31 digits are refused, although zeros are in front. -/
  | long (unit : Option SizeSuffix) (digits : 31 < (token.takeWhile Char.isDigit).length)
      (written : token.dropWhile Char.isDigit = unitText unit)
      (fits : numeralValue 10 (token.takeWhile Char.isDigit) * unitMagnitude unit < 2 ^ 64)
  /-- Blanks around the suffix are passed over, and so is the text behind them. -/
  | blanks (unit : Option SizeSuffix) (digits : token.takeWhile Char.isDigit ≠ [])
      (short : (token.takeWhile Char.isDigit).length ≤ 31)
      (word : unitWord (token.dropWhile Char.isDigit) = unitText unit)
      (other : token.dropWhile Char.isDigit ≠ unitText unit)
      (fits : selectedValue (token.takeWhile Char.isDigit) * unitMagnitude unit < 2 ^ 64)
  /-- A zero in front selects the base eight. -/
  | octal (unit : Option SizeSuffix) (zero : (token.takeWhile Char.isDigit).head? = some '0')
      (short : (token.takeWhile Char.isDigit).length ≤ 31)
      (written : token.dropWhile Char.isDigit = unitText unit)
      (differs : selectedValue (token.takeWhile Char.isDigit) ≠
        numeralValue 10 (token.takeWhile Char.isDigit))
      (fits : selectedValue (token.takeWhile Char.isDigit) * unitMagnitude unit < 2 ^ 64)

section Exactness

variable {token : CString}

theorem sizeExact_iff_read (free : ':' ∉ token) :
    SizeExact token ↔ readSize token = denotedSize token := by
  have read := ctlParseSize_read free
  constructor
  · rintro ⟨accepts, rejects⟩
    cases denoted : denotedSize token with
    | none =>
        have refused := rejects fun size denotes => by
          rw [denotesSize_iff, denoted] at denotes
          cases denotes
        rw [read] at refused
        cases reads : readSize token with
        | none => rfl
        | some size =>
            rw [reads] at refused
            cases refused
    | some size =>
        have accepted := accepts size (denotesSize_iff.mpr denoted)
        rw [read] at accepted
        cases reads : readSize token with
        | none =>
            rw [reads] at accepted
            cases accepted
        | some other =>
            rw [reads] at accepted
            exact congrArg some (Parsed.accept.inj accepted)
  · intro same
    rw [same] at read
    refine ⟨?_, ?_⟩
    · intro size denotes
      rw [read, denotesSize_iff.mp denotes]
      rfl
    · intro nothing
      cases denoted : denotedSize token with
      | none =>
          rw [read, denoted]
          rfl
      | some size => exact absurd (denotesSize_iff.mpr denoted) (nothing size)

/-- A suffix that is written is read. -/
theorem unitWord_unitText (unit : Option SizeSuffix) : unitWord (unitText unit) = unitText unit := by
  cases unit with
  | none => rfl
  | some suffix => cases suffix <;> decide

theorem selectedValue_le (digits : CString) :
    selectedValue digits ≤ numeralValue 10 digits := by
  unfold selectedValue
  split
  · exact numeralValue_takeWhile_le (by decide) (by decide) _ _
  · exact Nat.le_refl _

/-- Too many digits are refused. -/
theorem readExact_long (long : 31 < (token.takeWhile Char.isDigit).length) :
    none = (unitOf (token.dropWhile Char.isDigit)).bind
        (sizeProduct (numeralValue 10 (token.takeWhile Char.isDigit))) ↔
      ¬SizeMisread token := by
  constructor
  · intro refused misread
    cases misread with
    | long unit _ written fits =>
        rw [unitOf_eq_some_iff.mpr written, Option.bind_some, sizeProduct, if_pos fits] at refused
        cases refused
    | blanks _ _ short => omega
    | octal _ _ short => omega
  · intro exactly
    cases read : unitOf (token.dropWhile Char.isDigit) with
    | none => rfl
    | some unit =>
        have written := unitOf_eq_some_iff.mp read
        exact (if_neg fun fits => exactly (.long unit long written fits)).symm

section Short

variable {unit : Option SizeSuffix} (digits : token.takeWhile Char.isDigit ≠ [])
  (short : (token.takeWhile Char.isDigit).length ≤ 31)

include short

/-- Behind a written unit the base is all that matters. -/
theorem readExact_written (written : token.dropWhile Char.isDigit = unitText unit) :
    sizeProduct (selectedValue (token.takeWhile Char.isDigit)) unit =
        sizeProduct (numeralValue 10 (token.takeWhile Char.isDigit)) unit ↔
      ¬SizeMisread token := by
  have positive := unitMagnitude_pos unit
  have word : unitWord (token.dropWhile Char.isDigit) = unitText unit := by
    rw [written, unitWord_unitText]
  constructor
  · intro same misread
    cases misread with
    | long _ long => omega
    | blanks _ _ _ word' other =>
        rw [word] at word'
        exact other (written.trans word')
    | octal unit' _ _ written' differs fits =>
        obtain rfl := unitText_injective (written'.symm.trans written)
        rw [sizeProduct, if_pos fits] at same
        have product := sizeProduct_eq_some_iff.mp same.symm
        rw [BitVec.toNat_ofNat, Nat.mod_eq_of_lt fits] at product
        exact differs (Nat.eq_of_mul_eq_mul_right positive product).symm
  · intro exactly
    by_cases same : selectedValue (token.takeWhile Char.isDigit) =
        numeralValue 10 (token.takeWhile Char.isDigit)
    · rw [same]
    · have zero : (token.takeWhile Char.isDigit).head? = some '0' := by
        by_contra other
        exact same (if_neg other)
      have large : ¬selectedValue (token.takeWhile Char.isDigit) * unitMagnitude unit < 2 ^ 64 :=
        fun fits => exactly (.octal unit zero short written same fits)
      have larger := Nat.mul_le_mul_right (unitMagnitude unit)
        (selectedValue_le (token.takeWhile Char.isDigit))
      rw [sizeProduct, if_neg large, sizeProduct, if_neg (by omega)]

include digits

/-- A unit that is read and not written is accepted with its product. -/
theorem readExact_blanks (word : unitWord (token.dropWhile Char.isDigit) = unitText unit)
    (other : token.dropWhile Char.isDigit ≠ unitText unit) :
    sizeProduct (selectedValue (token.takeWhile Char.isDigit)) unit = none ↔
      ¬SizeMisread token := by
  constructor
  · intro refused misread
    cases misread with
    | long _ long => omega
    | blanks unit' _ _ word' _ fits =>
        obtain rfl := unitText_injective (word'.symm.trans word)
        rw [sizeProduct, if_pos fits] at refused
        cases refused
    | octal unit' _ _ written =>
        rw [written, unitWord_unitText] at word
        exact other (written.trans word)
  · intro exactly
    exact if_neg fun fits => exactly (.blanks unit digits short word other fits)

end Short

end Exactness

/-- A token is read as the size that it denotes, unless it has a zero in front of other digits, or
blanks, or too many digits. -/
theorem sizeExact_iff (token : CString) (free : ':' ∉ token) :
    SizeExact token ↔ ¬SizeMisread token := by
  rw [sizeExact_iff_read free, readSize, denotedSize]
  by_cases none : token.takeWhile Char.isDigit = []
  · rw [if_pos (.inl none), if_pos none]
    refine iff_of_true rfl fun misread => ?_
    cases misread with
    | long _ digits =>
        rw [none, List.length_nil] at digits
        omega
    | blanks _ digits => exact digits none
    | octal _ zero =>
        rw [none] at zero
        cases zero
  rw [if_neg none]
  by_cases long : 31 < (token.takeWhile Char.isDigit).length
  · rw [if_pos (.inr long)]
    exact readExact_long long
  have short : (token.takeWhile Char.isDigit).length ≤ 31 := Nat.not_lt.mp long
  rw [if_neg (not_or.mpr ⟨none, long⟩)]
  cases read : unitOf (unitWord (token.dropWhile Char.isDigit)) with
  | none =>
      have unread : ∀ unit, unitWord (token.dropWhile Char.isDigit) ≠ unitText unit := by
        intro unit word
        rw [unitOf_eq_some_iff.mpr word] at read
        cases read
      have unwritten : ∀ unit, token.dropWhile Char.isDigit ≠ unitText unit := by
        intro unit written
        exact unread unit (by rw [written, unitWord_unitText])
      have refused : unitOf (token.dropWhile Char.isDigit) = Option.none :=
        Option.eq_none_iff_forall_ne_some.mpr fun unit shown =>
          unwritten unit (unitOf_eq_some_iff.mp shown)
      rw [refused]
      refine iff_of_true rfl fun misread => ?_
      cases misread with
      | long unit _ written => exact unwritten unit written
      | blanks unit _ _ word => exact unread unit word
      | octal unit _ _ written => exact unwritten unit written
  | some unit =>
      have word := unitOf_eq_some_iff.mp read
      rw [Option.bind_some]
      -- A unit that is written is also read, so that only the base can differ.
      by_cases written : token.dropWhile Char.isDigit = unitText unit
      · rw [unitOf_eq_some_iff.mpr written, Option.bind_some]
        exact readExact_written short written
      · have refused : unitOf (token.dropWhile Char.isDigit) = Option.none := by
          refine Option.eq_none_iff_forall_ne_some.mpr fun unit' shown => ?_
          have written' := unitOf_eq_some_iff.mp shown
          rw [written', unitWord_unitText] at word
          exact written (written'.trans word)
        rw [refused]
        exact readExact_blanks none short word written

theorem sizeExact_iff_mebibytes : SizeExact "64M".toList := by
  rw [sizeExact_iff _ (by decide)]
  intro misread
  cases misread with
  | long _ digits => exact absurd digits (by decide)
  | blanks _ _ _ word other =>
      have same : unitWord ("64M".toList.dropWhile Char.isDigit) =
          "64M".toList.dropWhile Char.isDigit := by decide
      exact other (same.symm.trans word)
  | octal _ zero => exact absurd zero (by decide)

/-- With a zero in front ten kibibytes are read as eight. -/
theorem ctlParseSize_not_exact :
    ctlParseSize (some "010K".toList) = .accept 8192 ∧ DenotesSize "010K".toList 10240 ∧
      ¬SizeExact "010K".toList := by
  have parsed : ctlParseSize (some "010K".toList) = .accept 8192 := by decide +kernel
  have denotes : DenotesSize "010K".toList 10240 :=
    ⟨"010".toList, some .k, by decide, List.all_eq_true.mp (by decide +kernel), by decide +kernel,
      by decide +kernel⟩
  refine ⟨parsed, denotes, fun holds => ?_⟩
  have accepted := holds.accepts _ denotes
  rw [parsed] at accepted
  exact absurd (Parsed.accept.inj accepted) (by decide)

end Memkind
