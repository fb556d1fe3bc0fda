/-
This file reads texts by formats as `sscanf` does.
-/

import Memkind.Library.Numerals

namespace Memkind.Library

variable {text : List Char} {width : Nat} {first : Char}

/-- The directives of a format: a character that is no blank, `%w[...]`, `%ws`, `%d` and `%n`. -/
inductive Directive where
  | literal (char : Char)
  | scanset (width : Nat) (inside : Char → Bool)
  | word (width : Nat)
  | decimal
  | position

/-- What the directives store, and what `sscanf` returns. -/
structure Scanned where
  text : Option (List Char) := none
  number : Option Int := none
  read : Option Nat := none
  ret : Int := 0
  deriving DecidableEq

/-- The end of the text before the first conversion is reported as `EOF`. -/
def Scanned.exhausted (scanned : Scanned) : Scanned :=
  if scanned.ret = 0 then { scanned with ret := -1 } else scanned

/-- The digits after the sign. -/
def unsignedText (text : List Char) : List Char :=
  if text.head? = some '-' ∨ text.head? = some '+' then text.tail else text

/-- The number that a text starts with. -/
def decimalValue (text : List Char) : Int :=
  let value := numeralValue 10 ((unsignedText text).takeWhile Char.isDigit)
  if text.head? = some '-' then -value else value

/-- The directives in turn, where `count` characters have been read. -/
def scanFrom : List Directive → (count : Nat) → (text : List Char) → Scanned → Scanned
  | [], _, _, scanned => scanned
  | .literal char :: format, count, text, scanned =>
      match text with
      | [] => scanned.exhausted
      | first :: rest => if first = char then scanFrom format (count + 1) rest scanned else scanned
  | .scanset width inside :: format, count, text, scanned =>
      let chars := (text.takeWhile inside).take width
      if text = [] then scanned.exhausted
      else if chars = [] then scanned
      else
        scanFrom format (count + chars.length) (text.drop chars.length)
          { scanned with text := some chars, ret := scanned.ret + 1 }
  | .word width :: format, count, text, scanned =>
      let unspaced := text.dropWhile isSpace
      let chars := (unspaced.takeWhile (!isSpace ·)).take width
      if unspaced = [] then scanned.exhausted
      else
        scanFrom format (count + (text.length - unspaced.length) + chars.length)
          (unspaced.drop chars.length) { scanned with text := some chars, ret := scanned.ret + 1 }
  | .decimal :: format, count, text, scanned =>
      let unspaced := text.dropWhile isSpace
      let rest := (unsignedText unspaced).dropWhile Char.isDigit
      if unspaced = [] then scanned.exhausted
      else if (unsignedText unspaced).takeWhile Char.isDigit = [] then scanned
      else
        scanFrom format (count + (text.length - rest.length)) rest
          { scanned with number := some (decimalValue unspaced), ret := scanned.ret + 1 }
  | .position :: format, count, text, scanned =>
      scanFrom format count text { scanned with read := some count }

/-- `sscanf` -/
def sscanf (text : List Char) (format : List Directive) : Scanned := scanFrom format 0 text {}

section Directives

variable {format : List Directive} {count : Nat} {scanned : Scanned}

/-- A text that starts with the literal characters of a format. -/
theorem scanFrom_literals (start rest : List Char) :
    scanFrom (start.map Directive.literal ++ format) count (start ++ rest) scanned =
      scanFrom format (count + start.length) rest scanned := by
  induction start generalizing count with
  | nil => rfl
  | cons first start ih =>
      simp only [List.map_cons, List.cons_append, scanFrom, if_true]
      rw [ih, List.length_cons, Nat.add_assoc, Nat.add_comm 1]

/-- A set takes the characters up to the first one outside. -/
theorem scanFrom_scanset {inside : Char → Bool} {chars : List Char} {next : Char}
    {rest : List Char} (nonempty : chars ≠ []) (within : ∀ char ∈ chars, inside char = true)
    (ended : inside next = false) (fits : chars.length ≤ width) :
    scanFrom (.scanset width inside :: format) count (chars ++ next :: rest) scanned =
      scanFrom format (count + chars.length) (next :: rest)
        { scanned with text := some chars, ret := scanned.ret + 1 } := by
  have taken : ((chars ++ next :: rest).takeWhile inside).take width = chars := by
    rw [List.takeWhile_append_of_pos within, List.takeWhile_cons_of_neg (by simp [ended]),
      List.append_nil, List.take_of_length_le fits]
  simp only [scanFrom, taken]
  rw [if_neg (by simp), if_neg nonempty, List.drop_left]

/-- A word takes the characters up to the end of the text. -/
theorem scanFrom_word {chars : List Char} (nonempty : chars ≠ [])
    (solid : ∀ char ∈ chars, isSpace char = false) (fits : chars.length ≤ width) :
    scanFrom [.word width] count chars scanned =
      { scanned with text := some chars, ret := scanned.ret + 1 } := by
  have unspaced : chars.dropWhile isSpace = chars := by
    obtain ⟨first, others, rfl⟩ := List.exists_cons_of_ne_nil nonempty
    exact List.dropWhile_cons_of_neg (by simp [solid first List.mem_cons_self])
  have taken : (chars.takeWhile (!isSpace ·)).take width = chars := by
    rw [List.takeWhile_eq_self_iff.mpr (by simpa using solid), List.take_of_length_le fits]
  simp only [scanFrom, unspaced, taken, if_neg nonempty]

/-- A number that is written without a sign is read up to its end. -/
theorem scanFrom_decimal {number : Nat} {next : Char} {rest : List Char}
    (ended : next.isDigit = false) :
    scanFrom (.decimal :: format) count (Nat.toDigits 10 number ++ next :: rest) scanned =
      scanFrom format (count + (Nat.toDigits 10 number).length) (next :: rest)
        { scanned with number := some number, ret := scanned.ret + 1 } := by
  have digits : ∀ digit ∈ Nat.toDigits 10 number, digit.isDigit = true := by
    intro digit member
    exact Nat.isDigit_of_mem_toDigits (by decide) (by decide) member
  have value := numeralValue_ten digits
  rw [Nat.ofDigitChars_ten_toDigits] at value
  generalize shape : Nat.toDigits 10 number = written at digits value ⊢
  obtain ⟨first, others, rfl⟩ := List.exists_cons_of_ne_nil (shape ▸ Nat.toDigits_ne_nil)
  have firstDigit := digits first List.mem_cons_self
  have unspaced : (first :: others ++ next :: rest).dropWhile isSpace =
      first :: others ++ next :: rest :=
    List.dropWhile_cons_of_neg (by simp [isSpace_of_isDigit firstDigit])
  have unsigned : unsignedText (first :: others ++ next :: rest) =
      first :: others ++ next :: rest := if_neg (no_sign_of_isDigit firstDigit)
  have taken : (first :: others ++ next :: rest).takeWhile Char.isDigit = first :: others := by
    rw [List.takeWhile_append_of_pos digits, List.takeWhile_cons_of_neg (by simp [ended]),
      List.append_nil]
  have dropped : (first :: others ++ next :: rest).dropWhile Char.isDigit = next :: rest := by
    rw [List.dropWhile_append_of_pos digits, List.dropWhile_cons_of_neg (by simp [ended])]
  have read : decimalValue (first :: others ++ next :: rest) = number := by
    rw [decimalValue, unsigned, taken, value]
    exact if_neg fun sign => no_sign_of_isDigit firstDigit (Or.inl sign)
  simp only [scanFrom, unspaced, unsigned, taken, dropped, read]
  rw [if_neg (by simp), if_neg (by simp), List.length_append, Nat.add_sub_cancel]

end Directives

section Whole

/-- The position behind the literal characters of a format is stored when the text starts with
them. -/
theorem sscanf_literals_read (start text : List Char) :
    (sscanf text (start.map Directive.literal ++ [.position])).read =
      if start <+: text then some start.length else none := by
  have steps : ∀ count, (scanFrom (start.map Directive.literal ++ [.position]) count text {}).read =
      if start <+: text then some (count + start.length) else none := by
    induction start generalizing text with
    | nil => intro count; simp [scanFrom]
    | cons first start ih =>
        intro count
        cases text with
        | nil => simp [scanFrom, Scanned.exhausted]
        | cons char rest =>
            rw [List.map_cons, List.cons_append, scanFrom]
            by_cases same : char = first
            · rw [if_pos same, ih, same, List.length_cons, Nat.add_right_comm,
                Nat.add_assoc]
              simp [List.cons_prefix_cons]
            · have different : ¬first :: start <+: char :: rest := by
                rw [List.cons_prefix_cons]
                exact fun both => same both.1.symm
              rw [if_neg same, if_neg different]
  have whole := steps 0
  rwa [Nat.zero_add] at whole

/-- A set of characters and its length. -/
theorem sscanf_scanset (width : Nat) (inside : Char → Bool) (text : List Char) :
    sscanf text [.scanset width inside, .position] =
      if text = [] then { ret := -1 }
      else if (text.takeWhile inside).take width = [] then {}
      else
        { text := some ((text.takeWhile inside).take width)
          read := some ((text.takeWhile inside).take width).length
          ret := 1 } := by
  simp only [sscanf, scanFrom, Scanned.exhausted, Nat.zero_add, if_true]
  rfl

/-- The digits of the number that a text starts with. -/
def numberDigits (text : List Char) : List Char :=
  (unsignedText (text.dropWhile isSpace)).takeWhile Char.isDigit

/-- The text behind that number. -/
def numberRest (text : List Char) : List Char :=
  (unsignedText (text.dropWhile isSpace)).dropWhile Char.isDigit

/-- The value of that number. -/
def numberValue (text : List Char) : Int := decimalValue (text.dropWhile isSpace)

/-- Without digits nothing is stored. -/
theorem sscanf_enclosed_none {last : Char} (noDigits : numberDigits text = []) :
    (sscanf (first :: text) [.literal first, .decimal, .literal last, .position]).number = none ∧
      (sscanf (first :: text) [.literal first, .decimal, .literal last, .position]).read =
        none := by
  rw [numberDigits] at noDigits
  rw [sscanf, scanFrom, if_pos rfl, scanFrom, noDigits, if_pos rfl]
  split
  · exact ⟨rfl, rfl⟩
  · exact ⟨rfl, rfl⟩

/-- A number between two characters. The position is stored behind the second one. -/
theorem sscanf_enclosed {last : Char} (digits : numberDigits text ≠ []) :
    (sscanf (first :: text) [.literal first, .decimal, .literal last, .position]).number =
        some (numberValue text) ∧
      (sscanf (first :: text) [.literal first, .decimal, .literal last, .position]).read =
        if (numberRest text).head? = some last then
          some (1 + (text.length - (numberRest text).length) + 1)
        else none := by
  have nonempty : text.dropWhile isSpace ≠ [] := by
    intro empty
    rw [numberDigits, empty] at digits
    exact digits rfl
  rw [numberDigits] at digits
  rw [sscanf, scanFrom, if_pos rfl, scanFrom, if_neg nonempty, if_neg digits, ← numberRest,
    ← numberValue]
  cases numberRest text with
  | nil => exact ⟨rfl, rfl⟩
  | cons next rest =>
      rw [scanFrom, List.head?_cons]
      by_cases same : next = last
      · rw [if_pos same, if_pos (congrArg some same), Nat.zero_add]
        exact ⟨rfl, rfl⟩
      · rw [if_neg same, if_neg fun equal => same (Option.some.inj equal)]
        exact ⟨rfl, rfl⟩

/-- A word behind a character. -/
theorem sscanf_after_none (blank : text.dropWhile isSpace = []) :
    (sscanf (first :: text) [.literal first, .word width]).text = none := by
  rw [sscanf, scanFrom, if_pos rfl, scanFrom, blank, if_pos rfl]
  rfl

theorem sscanf_after (solid : text.dropWhile isSpace ≠ []) :
    sscanf (first :: text) [.literal first, .word width] =
      { text := some (((text.dropWhile isSpace).takeWhile (!isSpace ·)).take width), ret := 1 } := by
  rw [sscanf, scanFrom, if_pos rfl, scanFrom, if_neg solid]
  rfl

end Whole

end Memkind.Library
