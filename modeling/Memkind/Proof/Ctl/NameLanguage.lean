/-
This file compares the names that `builder_dynamic_ctl_set` accepts with the names of the settings.
-/

import Memkind.Proof.Ctl.NameReading

namespace Memkind

open Library

section Names

/-- The text of a number, a field and what is between them. -/
def WritesThreshold (text : CString) (index : Nat) (field : ThresholdField) : Prop :=
  ∃ digits, digits ≠ [] ∧ (∀ digit ∈ digits, digit.isDigit) ∧ numeralValue 10 digits = index ∧
    text = digits ++ ']' :: '.' :: field.ctlName

/-- The name of the setting behind the common start. -/
def CtlTarget.Written (query : CString) : CtlTarget → Prop
  | .threshold index field => ∃ text, query = thresholdsWord ++ '[' :: text ∧
      WritesThreshold text index field
  | .param setting => query = setting.ctlName

/-- A setting of a builder with this number of tiers. -/
def IsSetting (tiers : Nat) (query : CString) : Prop :=
  ∃ target : CtlTarget, target.Written query ∧ target.Fits tiers

/-- The names of the settings. -/
def IsCtlName (tiers : Nat) (name : CString) : Prop :=
  ∃ query, name = dynamicThresholdPrefix ++ query ∧ IsSetting tiers query

/-- The call scans no position behind the end of the name. It returns `0` for exactly the names of
the settings, and with `-1` it leaves the builder as it was. -/
structure CtlExact (initial : CString) (builder : MemtierBuilder) (name : CString)
    (val : CtlValue) : Prop where
  answers : memtierCtlSetName initial builder name val ≠ none
  accepts : ∀ ret after, memtierCtlSetName initial builder name val = some (ret, after) →
    (ret = 0 ↔ IsCtlName builder.cfg.length name)
  keeps : ∀ after, memtierCtlSetName initial builder name val = some (-1, after) →
    after = builder

/-- A name is read as what it is: there is a setting where it is written. -/
def ReadExactly (reading : Option (Option CtlTarget)) (written : Prop) : Prop :=
  ∃ target, reading = some target ∧ (target.isSome ↔ written)

theorem not_readExactly_none (written : Prop) : ¬ReadExactly none written := by
  rintro ⟨_, same, _⟩
  cases same

theorem readExactly_some {target : Option CtlTarget} {written : Prop} :
    ReadExactly (some target) written ↔ (target.isSome ↔ written) := by
  constructor
  · rintro ⟨_, same, reads⟩
    cases same
    exact reads
  · intro reads
    exact ⟨target, rfl, reads⟩

theorem readExactly_refused {written : Prop} : ReadExactly (some none) written ↔ ¬written := by
  rw [readExactly_some]
  simp

theorem ctlExact_iff_readExactly {initial : CString} {builder : MemtierBuilder} {name : CString}
    {val : CtlValue} (dynamic : builder.policy = .dynamicThreshold) :
    CtlExact initial builder name val ↔
      ReadExactly (readName initial builder.cfg.length name)
        (IsCtlName builder.cfg.length name) := by
  have read := memtierCtlSetName_read builder val initial name dynamic
  cases reading : readName initial builder.cfg.length name with
  | none =>
      rw [reading, Option.map_none] at read
      exact ⟨fun holds => absurd read holds.answers, fun none => absurd none (not_readExactly_none _)⟩
  | some target =>
      rw [reading, Option.map_some] at read
      have answer : ReadExactly (some target) (IsCtlName builder.cfg.length name) ↔
          ((ctlAnswer builder val target).1 = 0 ↔ IsCtlName builder.cfg.length name) := by
        rw [readExactly_some]
        cases target <;> simp
      rw [answer]
      constructor
      · intro holds
        exact holds.accepts _ _ read
      · intro accepts
        refine ⟨?_, ?_, ?_⟩
        · rw [read]
          exact Option.some_ne_none _
        · intro ret after same
          rw [read] at same
          rw [← accepts, Option.some.inj same]
        · intro after same
          rw [read] at same
          cases target with
          | none => exact (Prod.mk.inj (Option.some.inj same)).2.symm
          | some target => cases (Prod.mk.inj (Option.some.inj same)).1

end Names

section Numbers

variable {text : CString}

/-- The number is written without blanks and without a sign. -/
def Plain (text : CString) : Prop := text.head?.any Char.isDigit

theorem Plain.cons (plain : Plain text) :
    ∃ first others, text = first :: others ∧ first.isDigit := by
  cases text with
  | nil => cases plain
  | cons first others => exact ⟨first, others, rfl, plain⟩

/-- A plain number has nothing in front of its digits. -/
theorem Plain.unsigned (plain : Plain text) :
    text.dropWhile isSpace = text ∧ unsignedText text = text ∧ text.head? ≠ some '-' := by
  obtain ⟨first, others, rfl, digit⟩ := plain.cons
  have noSign : ¬((first :: others).head? = some '-' ∨ (first :: others).head? = some '+') :=
    no_sign_of_isDigit digit
  refine ⟨List.dropWhile_cons_of_neg (by simp [isSpace_of_isDigit digit]), if_neg noSign, ?_⟩
  exact fun sign => noSign (Or.inl sign)

theorem Plain.number (plain : Plain text) :
    numberDigits text = text.takeWhile Char.isDigit ∧
      numberRest text = text.dropWhile Char.isDigit ∧
      numberValue text = numeralValue 10 (text.takeWhile Char.isDigit) := by
  obtain ⟨unspaced, unsigned, noSign⟩ := plain.unsigned
  rw [numberDigits, numberRest, numberValue, unspaced, decimalValue, unsigned, if_neg noSign]
  exact ⟨rfl, rfl, rfl⟩

theorem Plain.numberDigits_ne_nil (plain : Plain text) : numberDigits text ≠ [] := by
  rw [plain.number.1]
  obtain ⟨first, others, rfl, digit⟩ := plain.cons
  rw [List.takeWhile_cons_of_pos digit]
  exact List.cons_ne_nil _ _

/-- How the scan sees the text of a threshold. -/
theorem writesThreshold_iff {index : Nat} {field : ThresholdField} :
    WritesThreshold text index field ↔
      Plain text ∧ numberRest text = ']' :: '.' :: field.ctlName ∧ numberValue text = index := by
  constructor
  · rintro ⟨digits, nonempty, allDigits, value, rfl⟩
    have plain : Plain (digits ++ ']' :: '.' :: field.ctlName) := by
      obtain ⟨first, others, rfl⟩ := List.exists_cons_of_ne_nil nonempty
      exact allDigits first List.mem_cons_self
    obtain ⟨-, rest, number⟩ := plain.number
    have bracket : ¬Char.isDigit ']' = true := by decide
    refine ⟨plain, ?_, ?_⟩
    · rw [rest, List.dropWhile_append_of_pos allDigits, List.dropWhile_cons_of_neg bracket]
    · rw [number, List.takeWhile_append_of_pos allDigits, List.takeWhile_cons_of_neg bracket,
        List.append_nil, value]
  · rintro ⟨plain, rest, value⟩
    obtain ⟨digits, dropped, number⟩ := plain.number
    refine ⟨text.takeWhile Char.isDigit, ?_, ?_, ?_, ?_⟩
    · rw [← digits]
      exact plain.numberDigits_ne_nil
    · intro digit member
      exact List.mem_takeWhile_imp member
    · rw [number] at value
      exact_mod_cast value
    · rw [← rest, dropped, List.takeWhile_append_dropWhile]

end Numbers

section Texts

/-- The number at the start of the text is that of a threshold. -/
structure NumbersThreshold (tiers : Nat) (text : CString) : Prop where
  digits : numberDigits text ≠ []
  int : IsInt (numberValue text)
  low : 0 ≤ numberValue text
  high : numberValue text + 1 < tiers

/-- The texts behind `thresholds[` that are not read as what they are. -/
inductive TextMisread (tiers : Nat) (text : CString) : Prop where
  /-- The number is no `int`. -/
  | large (digits : numberDigits text ≠ []) (noInt : ¬IsInt (numberValue text))
  /-- Without its bracket the scan goes on at the tenth character, behind the end of the name. -/
  | beyond (number : NumbersThreshold tiers text) (unclosed : (numberRest text).head? ≠ some ']')
      (short : ('[' :: text).length < thresholdsWord.length)
  /-- It finds a field there. -/
  | skipped (number : NumbersThreshold tiers text) (unclosed : (numberRest text).head? ≠ some ']')
      (found : fieldAt (('[' :: text).drop thresholdsWord.length) ≠ none)
  /-- Blanks, a sign and the text behind the field are passed over. -/
  | loose (number : NumbersThreshold tiers text) (after : CString) (field : ThresholdField)
      (closed : numberRest text = ']' :: after) (short : closedPosition text < chrReadMax)
      (found : fieldAt after = some field) (other : ¬(Plain text ∧ after = '.' :: field.ctlName))
  /-- The number has too many digits. -/
  | long (number : NumbersThreshold tiers text) (field : ThresholdField) (plain : Plain text)
      (closed : numberRest text = ']' :: '.' :: field.ctlName)
      (long : chrReadMax ≤ closedPosition text)

/-- The text names a threshold of the builder. -/
def IsThresholdText (tiers : Nat) (text : CString) : Prop :=
  ∃ index field, WritesThreshold text index field ∧ index + 1 < tiers

theorem fieldAt_ctlName (field : ThresholdField) : fieldAt ('.' :: field.ctlName) = some field := by
  cases field <;> decide

variable {tiers : Nat} {text : CString}

theorem isThresholdText_iff :
    IsThresholdText tiers text ↔ Plain text ∧ numberValue text + 1 < tiers ∧
      ∃ field : ThresholdField, numberRest text = ']' :: '.' :: field.ctlName := by
  constructor
  · rintro ⟨index, field, writes, fits⟩
    obtain ⟨plain, rest, value⟩ := writesThreshold_iff.mp writes
    exact ⟨plain, by omega, field, rest⟩
  · rintro ⟨plain, fits, field, rest⟩
    have value := plain.number.2.2
    refine ⟨_, field, writesThreshold_iff.mpr ⟨plain, rest, value⟩, ?_⟩
    omega

theorem readExactly_thresholdAt {index : Nat} {query : CString} {written : Prop} :
    ReadExactly (some (thresholdAt index query)) written ↔ (fieldAt query ≠ none ↔ written) := by
  rw [readExactly_some, thresholdAt, Option.isSome_map, Option.isSome_iff_ne_none]

/-- A text without the number of a threshold is refused. -/
theorem not_textMisread (small : numberDigits text ≠ [] → IsInt (numberValue text))
    (outside : ¬NumbersThreshold tiers text) :
    ¬IsThresholdText tiers text ↔ ¬TextMisread tiers text := by
  apply iff_of_true
  · intro written
    obtain ⟨plain, fits, -⟩ := isThresholdText_iff.mp written
    have digits := plain.numberDigits_ne_nil
    have value := plain.number.2.2
    exact outside ⟨digits, small digits, by omega, fits⟩
  · intro misread
    cases misread with
    | large digits noInt => exact noInt (small digits)
    | beyond number => exact outside number
    | skipped number => exact outside number
    | loose number => exact outside number
    | long number => exact outside number

section Threshold

variable (number : NumbersThreshold tiers text)

include number

theorem readExactly_closed {after : CString} (closed : numberRest text = ']' :: after)
    (index : Nat) :
    ReadExactly (some (if closedPosition text < chrReadMax then thresholdAt index after else none))
      (IsThresholdText tiers text) ↔ ¬TextMisread tiers text := by
  have written : IsThresholdText tiers text ↔
      Plain text ∧ ∃ field : ThresholdField, after = '.' :: field.ctlName := by
    rw [isThresholdText_iff, closed]
    simp [number.high]
  have bracket : (numberRest text).head? = some ']' := by
    rw [closed]
    rfl
  by_cases short : closedPosition text < chrReadMax
  · rw [if_pos short, readExactly_thresholdAt, written]
    constructor
    · intro same misread
      cases misread with
      | large _ noInt => exact noInt number.int
      | beyond _ unclosed => exact unclosed bracket
      | skipped _ unclosed => exact unclosed bracket
      | loose _ behind field closed' _ found other =>
          rw [closed] at closed'
          cases closed'
          obtain ⟨plain, known, rfl⟩ := same.mp (by rw [found]; exact Option.some_ne_none field)
          rw [fieldAt_ctlName] at found
          cases found
          exact other ⟨plain, rfl⟩
      | long _ _ _ _ long => omega
    · intro exactly
      constructor
      · intro found
        obtain ⟨field, found⟩ := Option.ne_none_iff_exists'.mp found
        by_contra other
        exact exactly (.loose number after field closed short found
          fun both => other ⟨both.1, field, both.2⟩)
      · rintro ⟨-, field, rfl⟩
        rw [fieldAt_ctlName]
        exact Option.some_ne_none field
  · rw [if_neg short, readExactly_refused]
    constructor
    · intro unwritten misread
      cases misread with
      | large _ noInt => exact noInt number.int
      | beyond _ unclosed => exact unclosed bracket
      | skipped _ unclosed => exact unclosed bracket
      | loose _ _ _ _ short' => exact short short'
      | long _ field plain closed' =>
          exact unwritten (isThresholdText_iff.mpr ⟨plain, number.high, field, closed'⟩)
    · intro exactly isText
      obtain ⟨plain, -, field, closed'⟩ := isThresholdText_iff.mp isText
      exact exactly (.long number field plain closed' (Nat.not_lt.mp short))

theorem readExactly_open (unclosed : (numberRest text).head? ≠ some ']') (index : Nat) :
    ReadExactly (if ('[' :: text).length < thresholdsWord.length then none
        else some (thresholdAt index (('[' :: text).drop thresholdsWord.length)))
      (IsThresholdText tiers text) ↔ ¬TextMisread tiers text := by
  have unwritten : ¬IsThresholdText tiers text := by
    intro written
    obtain ⟨-, -, field, closed⟩ := isThresholdText_iff.mp written
    exact unclosed (by rw [closed]; rfl)
  by_cases short : ('[' :: text).length < thresholdsWord.length
  · rw [if_pos short]
    exact iff_of_false (not_readExactly_none _) (not_not.mpr (.beyond number unclosed short))
  · rw [if_neg short, readExactly_thresholdAt, iff_false_right unwritten]
    constructor
    · intro unfound misread
      cases misread with
      | large _ noInt => exact noInt number.int
      | beyond _ _ short' => exact short short'
      | skipped _ _ found => exact unfound found
      | loose _ _ _ closed => exact unclosed (by rw [closed]; rfl)
      | long _ _ _ closed => exact unclosed (by rw [closed]; rfl)
    · intro exactly found
      exact exactly (.skipped number unclosed found)

end Threshold

/-- A text is read as what it is, except for the misread ones. -/
theorem readThreshold_readExactly_iff :
    ReadExactly (readThreshold tiers text) (IsThresholdText tiers text) ↔
      ¬TextMisread tiers text := by
  -- The cases are those of the reading; each of them has its own way to be misread.
  unfold readThreshold
  dsimp only
  by_cases digits : numberDigits text = []
  · rw [if_pos digits, readExactly_refused]
    exact not_textMisread (fun some => absurd digits some) fun number => number.digits digits
  rw [if_neg digits]
  by_cases int : IsInt (numberValue text)
  · rw [if_neg (not_not.mpr int)]
    by_cases inside : 0 ≤ numberValue text ∧ numberValue text + 1 < tiers
    · have number : NumbersThreshold tiers text := ⟨digits, int, inside.1, inside.2⟩
      rw [if_neg (not_not.mpr inside)]
      by_cases closed : (numberRest text).head? = some ']'
      · rw [if_pos closed]
        exact readExactly_closed number (List.eq_cons_of_mem_head? closed) _
      · rw [if_neg closed]
        exact readExactly_open number closed _
    · rw [if_pos inside, readExactly_refused]
      exact not_textMisread (fun _ => int) fun number => inside ⟨number.low, number.high⟩
  · rw [if_pos int]
    exact iff_of_false (not_readExactly_none _) (not_not.mpr (.large digits int))

end Texts

section Queries

/-- The texts behind the common start that are not read as what they are. -/
inductive QueryMisread (tiers : Nat) (initial query : CString) : Prop where
  /-- Nothing is left to scan, and the array happens to hold a word. -/
  | stale (ended : query = [])
      (word : initial = thresholdsWord ∨ ∃ setting : CtlParam, initial = setting.ctlName)
  /-- A bracket behind a setting is passed over, with all that follows. -/
  | bracket (setting : CtlParam) (text : CString) (shown : query = setting.ctlName ++ '[' :: text)
  | threshold (text : CString) (shown : query = thresholdsWord ++ '[' :: text)
      (misread : TextMisread tiers text)

variable {tiers : Nat} {initial query : CString}

theorem readExactly_readParam {word : CString} {written : Prop} :
    ReadExactly (some (readParam word)) written ↔
      ((∃ setting : CtlParam, word = setting.ctlName) ↔ written) := by
  have spelled : (readParam word).isSome ↔ ∃ setting : CtlParam, word = setting.ctlName := by
    rw [readParam, Option.isSome_map, keyword, List.find?_isSome]
    constructor
    · rintro ⟨setting, -, found⟩
      exact ⟨setting, (of_decide_eq_true found).symm⟩
    · rintro ⟨setting, rfl⟩
      exact ⟨setting, by cases setting <;> decide, decide_eq_true rfl⟩
  rw [readExactly_some, spelled]

theorem bracket_not_mem_ctlName (setting : CtlParam) : '[' ∉ setting.ctlName := by
  cases setting <;> decide

theorem bracket_not_mem_thresholdsWord : '[' ∉ thresholdsWord := by decide

theorem thresholdsWord_ne_ctlName (setting : CtlParam) : thresholdsWord ≠ setting.ctlName := by
  cases setting <;> decide

/-- The word in front of the first bracket. -/
theorem takeWhile_bracket {word : CString} (plain : '[' ∉ word) (text : CString) :
    (word ++ '[' :: text).takeWhile (· ≠ '[') = word := by
  have others : ∀ char ∈ word, decide (char ≠ '[') = true := by
    intro char member
    exact decide_eq_true fun same => plain (same ▸ member)
  rw [List.takeWhile_append_of_pos others, List.takeWhile_cons_of_neg (by decide), List.append_nil]

theorem append_bracket_inj {word word' text text' : CString} (plain : '[' ∉ word)
    (plain' : '[' ∉ word') (same : word ++ '[' :: text = word' ++ '[' :: text') :
    word = word' ∧ text = text' := by
  have words := congrArg (List.takeWhile (· ≠ '[')) same
  rw [takeWhile_bracket plain, takeWhile_bracket plain'] at words
  subst words
  exact ⟨rfl, (List.cons.inj (List.append_cancel_left same)).2⟩

/-- Without a bracket the text is the name of a setting or of none. -/
theorem isSetting_plain (plain : '[' ∉ query) :
    IsSetting tiers query ↔ ∃ setting : CtlParam, query = setting.ctlName := by
  constructor
  · rintro ⟨target, written, -⟩
    cases target with
    | threshold index field =>
        obtain ⟨text, rfl, -⟩ := written
        exact absurd (List.mem_append_right _ List.mem_cons_self) plain
    | param setting => exact ⟨setting, written⟩
  · rintro ⟨setting, shown⟩
    exact ⟨.param setting, shown, trivial⟩

theorem isSetting_bracket {word text : CString} (plain : '[' ∉ word) :
    IsSetting tiers (word ++ '[' :: text) ↔ word = thresholdsWord ∧ IsThresholdText tiers text := by
  constructor
  · rintro ⟨target, written, fits⟩
    cases target with
    | threshold index field =>
        obtain ⟨text', same, writes⟩ := written
        obtain ⟨rfl, rfl⟩ := append_bracket_inj plain bracket_not_mem_thresholdsWord same
        exact ⟨rfl, index, field, writes, fits⟩
    | param setting =>
        refine absurd ?_ (bracket_not_mem_ctlName setting)
        rw [← (written : word ++ '[' :: text = setting.ctlName)]
        exact List.mem_append_right _ List.mem_cons_self
  · rintro ⟨rfl, index, field, writes, fits⟩
    exact ⟨.threshold index field, ⟨text, rfl, writes⟩, fits⟩

theorem queryMisread_plain (plain : '[' ∉ query) :
    QueryMisread tiers initial query ↔ query = [] ∧
      (initial = thresholdsWord ∨ ∃ setting : CtlParam, initial = setting.ctlName) := by
  constructor
  · intro misread
    cases misread with
    | stale ended word => exact ⟨ended, word⟩
    | bracket setting text shown =>
        rw [shown] at plain
        exact absurd (List.mem_append_right _ List.mem_cons_self) plain
    | threshold text shown =>
        rw [shown] at plain
        exact absurd (List.mem_append_right _ List.mem_cons_self) plain
  · rintro ⟨ended, word⟩
    exact .stale ended word

theorem queryMisread_bracket {word text : CString} (plain : '[' ∉ word) :
    QueryMisread tiers initial (word ++ '[' :: text) ↔
      (∃ setting : CtlParam, word = setting.ctlName) ∨
        (word = thresholdsWord ∧ TextMisread tiers text) := by
  constructor
  · intro misread
    cases misread with
    | stale ended => cases List.append_eq_nil_iff.mp ended |>.2
    | bracket setting text' shown =>
        exact .inl ⟨setting, (append_bracket_inj plain (bracket_not_mem_ctlName setting) shown).1⟩
    | threshold text' shown misread =>
        obtain ⟨rfl, rfl⟩ := append_bracket_inj plain bracket_not_mem_thresholdsWord shown
        exact .inr ⟨rfl, misread⟩
  · rintro (⟨setting, rfl⟩ | ⟨rfl, misread⟩)
    · exact .bracket setting text rfl
    · exact .threshold text rfl misread

theorem readQuery_plain (plain : '[' ∉ query) :
    ReadExactly (readQuery initial tiers query) (IsSetting tiers query) ↔
      ¬QueryMisread tiers initial query := by
  have word : query.takeWhile (· ≠ '[') = query := by
    rw [List.takeWhile_eq_self_iff]
    intro char member
    exact decide_eq_true fun same => plain (same ▸ member)
  rw [queryMisread_plain plain, isSetting_plain plain, readQuery, word]
  by_cases ended : query = []
  · subst ended
    have unwritten : ¬∃ setting : CtlParam, [] = setting.ctlName := by
      rintro ⟨setting, same⟩
      cases setting <;> cases same
    rw [if_pos rfl]
    by_cases stale : initial = thresholdsWord
    · rw [if_pos stale]
      exact iff_of_false (not_readExactly_none _) (not_not.mpr ⟨rfl, .inl stale⟩)
    · rw [if_neg stale, readExactly_readParam, iff_false_right unwritten]
      simp [stale]
  · rw [if_neg ended]
    by_cases thresholds : query = thresholdsWord
    · subst thresholds
      rw [if_pos rfl]
      have refused : readThreshold tiers (thresholdsWord.drop (thresholdsWord.length + 1)) =
          some none := rfl
      rw [refused, readExactly_refused]
      apply iff_of_true
      · rintro ⟨setting, same⟩
        exact thresholdsWord_ne_ctlName setting same
      · exact fun both => ended both.1
    · rw [if_neg thresholds, readExactly_readParam]
      exact iff_of_true Iff.rfl fun both => ended both.1

theorem readQuery_bracket {word text : CString} (plain : '[' ∉ word) :
    ReadExactly (readQuery initial tiers (word ++ '[' :: text))
        (IsSetting tiers (word ++ '[' :: text)) ↔
      ¬QueryMisread tiers initial (word ++ '[' :: text) := by
  rw [queryMisread_bracket plain, isSetting_bracket plain, readQuery, takeWhile_bracket plain,
    if_neg (by simp)]
  by_cases thresholds : word = thresholdsWord
  · subst thresholds
    have noSetting : ¬∃ setting : CtlParam, thresholdsWord = setting.ctlName := by
      rintro ⟨setting, same⟩
      exact thresholdsWord_ne_ctlName setting same
    rw [if_pos rfl, ← List.drop_drop, List.drop_left, or_iff_right noSetting]
    simp only [true_and]
    exact readThreshold_readExactly_iff
  · rw [if_neg thresholds, readExactly_readParam]
    simp [thresholds]

theorem readQuery_readExactly_iff :
    ReadExactly (readQuery initial tiers query) (IsSetting tiers query) ↔
      ¬QueryMisread tiers initial query := by
  by_cases bracket : '[' ∈ query
  · obtain ⟨word, text, rfl, plain⟩ := List.eq_append_cons_of_mem bracket
    exact readQuery_bracket plain
  · exact readQuery_plain bracket

/-- The text of a threshold is read as that threshold. -/
theorem WritesThreshold.read {index : Nat} {field : ThresholdField} {text : CString}
    (writes : WritesThreshold text index field) (fits : index + 1 < tiers)
    (exactly : ¬TextMisread tiers text) :
    readThreshold tiers text = some (some (.threshold index field)) := by
  obtain ⟨plain, closed, value⟩ := writesThreshold_iff.mp writes
  have digits := plain.numberDigits_ne_nil
  have int : IsInt (numberValue text) := by
    by_contra large
    exact exactly (.large digits large)
  have number : NumbersThreshold tiers text := ⟨digits, int, by omega, by omega⟩
  have short : closedPosition text < chrReadMax := by
    by_contra long
    exact exactly (.long number field plain closed (Nat.not_lt.mp long))
  unfold readThreshold
  dsimp only
  rw [if_neg digits, if_neg (not_not.mpr int), if_neg (not_not.mpr ⟨number.low, number.high⟩),
    closed, List.head?_cons, if_pos rfl, if_pos short, value, List.tail_cons, thresholdAt,
    fieldAt_ctlName]
  rfl

/-- A setting that is written and not misread is the one that is read. -/
theorem CtlTarget.Written.read {target : CtlTarget} (written : target.Written query)
    (fits : target.Fits tiers) (exactly : ¬QueryMisread tiers initial query) :
    readQuery initial tiers query = some (some target) := by
  cases target with
  | threshold index field =>
      obtain ⟨text, rfl, writes⟩ := written
      have text' : ¬TextMisread tiers text := fun misread => exactly (.threshold text rfl misread)
      rw [readQuery, if_neg (by simp), takeWhile_bracket bracket_not_mem_thresholdsWord, if_pos rfl,
        ← List.drop_drop, List.drop_left]
      exact writes.read fits text'
  | param setting =>
      obtain rfl := written
      cases setting <;> rfl

/-- The names that are not read as what they are. -/
def CtlMisread (tiers : Nat) (initial name : CString) : Prop :=
  ∃ query, name = dynamicThresholdPrefix ++ query ∧ QueryMisread tiers initial query

theorem readName_readExactly_iff {name : CString} :
    ReadExactly (readName initial tiers name) (IsCtlName tiers name) ↔
      ¬CtlMisread tiers initial name := by
  unfold readName
  by_cases start : dynamicThresholdPrefix <+: name
  · obtain ⟨query, rfl⟩ := start
    have isName : IsCtlName tiers (dynamicThresholdPrefix ++ query) ↔ IsSetting tiers query := by
      unfold IsCtlName
      simp
    have isMisread : CtlMisread tiers initial (dynamicThresholdPrefix ++ query) ↔
        QueryMisread tiers initial query := by
      unfold CtlMisread
      simp
    rw [if_pos (List.prefix_append _ _), List.drop_left, isName, isMisread]
    exact readQuery_readExactly_iff
  · rw [if_neg start, readExactly_refused]
    apply iff_of_true
    · rintro ⟨query, rfl, -⟩
      exact start (List.prefix_append _ _)
    · rintro ⟨query, rfl, -⟩
      exact start (List.prefix_append _ _)

/-- A name that is not misread sets the setting that it names. -/
theorem memtierCtlSetName_written {builder : MemtierBuilder} {target : CtlTarget}
    (dynamic : builder.policy = .dynamicThreshold) (written : target.Written query)
    (fits : target.Fits builder.cfg.length)
    (exactly : ¬CtlMisread builder.cfg.length initial (dynamicThresholdPrefix ++ query))
    (val : CtlValue) :
    memtierCtlSetName initial builder (dynamicThresholdPrefix ++ query) val =
      some (0, target.assign builder val) := by
  have read := written.read fits fun misread => exactly ⟨query, rfl, misread⟩
  rw [memtierCtlSetName_read _ _ _ _ dynamic, readName, if_pos (List.prefix_append _ _),
    List.drop_left, read, Option.map_some, ctlAnswer_some]

/-- On a dynamic builder `memtier_ctl_set` accepts exactly the names of its settings, as long as the
name is none of those that the scans pass over in part. -/
theorem ctlExact_iff (initial : CString) (builder : MemtierBuilder) (name : CString)
    (val : CtlValue) (dynamic : builder.policy = .dynamicThreshold) :
    CtlExact initial builder name val ↔ ¬CtlMisread builder.cfg.length initial name := by
  rw [ctlExact_iff_readExactly dynamic]
  exact readName_readExactly_iff

theorem ctlExact_iff_degree :
    CtlExact [] twoKinds "policy.dynamic_threshold.degree".toList ⟨64, 64, .finite 0⟩ := by
  have dynamic : twoKinds.policy = .dynamicThreshold := by decide +kernel
  rw [ctlExact_iff _ _ _ _ dynamic]
  rintro ⟨query, same, misread⟩
  have shown : "policy.dynamic_threshold.degree".toList =
      dynamicThresholdPrefix ++ "degree".toList := by decide +kernel
  rw [shown] at same
  rw [← List.append_cancel_left same, queryMisread_plain (by decide)] at misread
  cases misread.1

/-- A bracket behind the name of a setting is accepted. Behind `thresholds[0` the scan goes on at a
position that the name does not have. -/
theorem ctlSet_not_exact :
    ¬CtlExact [] twoKinds "policy.dynamic_threshold.check_cnt[0]".toList ⟨64, 64, .finite 0⟩ ∧
      memtierCtlSetName [] twoKinds "policy.dynamic_threshold.thresholds[0".toList
        ⟨64, 64, .finite 0⟩ = none := by
  have dynamic : twoKinds.policy = .dynamicThreshold := by decide +kernel
  refine ⟨?_, by decide +kernel⟩
  intro holds
  have shown : "policy.dynamic_threshold.check_cnt[0]".toList =
      dynamicThresholdPrefix ++ ("check_cnt".toList ++ '[' :: "0]".toList) := by decide +kernel
  obtain ⟨returned, accepted⟩ : ∃ after, memtierCtlSetName [] twoKinds
      "policy.dynamic_threshold.check_cnt[0]".toList ⟨64, 64, .finite 0⟩ = some (0, after) := by
    rw [memtierCtlSetName_read _ _ _ _ dynamic]
    exact ⟨_, rfl⟩
  obtain ⟨query, same, written⟩ := (holds.accepts _ _ accepted).mp rfl
  rw [shown] at same
  rw [← List.append_cancel_left same, isSetting_bracket (by decide)] at written
  exact absurd written.1 (by decide)

end Queries

end Memkind
