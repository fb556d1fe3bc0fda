/-
This file says how `builder_dynamic_ctl_set` reads a name: which setting each name stands for, and
which names lead beyond their end.
-/

import Memkind.Proof.Ctl.ControlName

namespace Memkind

open Library

section Settings

/-- The settings besides the thresholds. -/
inductive CtlParam where
  | checkCnt
  | trigger
  | degree
  deriving DecidableEq

def CtlParam.all : List CtlParam := [.checkCnt, .trigger, .degree]

def CtlParam.ctlName : CtlParam → CString
  | .checkCnt => "check_cnt".toList
  | .trigger => "trigger".toList
  | .degree => "degree".toList

def CtlParam.assign (builder : MemtierBuilder) (val : CtlValue) : CtlParam → MemtierBuilder
  | .checkCnt => { builder with checkCnt := val.unsigned }
  | .trigger => { builder with trigger := val.float }
  | .degree => { builder with degree := val.float }

/-- What a name stands for. -/
inductive CtlTarget where
  | threshold (index : Nat) (field : ThresholdField)
  | param (setting : CtlParam)
  deriving DecidableEq

def CtlTarget.assign (builder : MemtierBuilder) (val : CtlValue) : CtlTarget → MemtierBuilder
  | .threshold index field => builder.setThreshold index field val.sizeT
  | .param setting => setting.assign builder val

/-- A builder with this number of tiers has the setting. -/
def CtlTarget.Fits (tiers : Nat) : CtlTarget → Prop
  | .threshold index _ => index + 1 < tiers
  | .param _ => True

end Settings

section Fields

/-- The field that is read from a position of the name. -/
def fieldAt : CString → Option ThresholdField
  | '.' :: text =>
      keyword ThresholdField.all ThresholdField.ctlName
        ((text.dropWhile isSpace).takeWhile (!isSpace ·))
  | _ => none

theorem take_eq_short {text word : CString} {width : Nat} (short : word.length < width) :
    text.take width = word ↔ text = word := by
  constructor
  · intro taken
    rw [← taken]
    apply (List.take_of_length_le _).symm
    have length := congrArg List.length taken
    rw [List.length_take] at length
    omega
  · rintro rfl
    exact List.take_of_length_le (Nat.le_of_lt short)

/-- A width that no spelling reaches loses no word. -/
theorem keyword_take {ι : Type} {words : List ι} {spelling : ι → CString} {width : Nat}
    (short : ∀ word, (spelling word).length < width) (text : CString) :
    keyword words spelling (text.take width) = keyword words spelling text := by
  unfold keyword
  congr 1
  funext word
  rw [decide_eq_decide, eq_comm, take_eq_short (short word), eq_comm]

theorem ThresholdField.ctlName_length (field : ThresholdField) :
    field.ctlName.length < chrReadMax - 1 := by
  cases field <;> decide

theorem CtlParam.ctlName_length (setting : CtlParam) :
    setting.ctlName.length < chrReadMax - 1 := by
  cases setting <;> decide

end Fields

section Numbers

variable {text : CString}

theorem numberRest_suffix (text : CString) : numberRest text <:+ text := by
  have unspaced : text.dropWhile isSpace <:+ text := List.dropWhile_suffix _
  unfold numberRest unsignedText
  split
  · exact ((List.dropWhile_suffix _).trans (List.tail_suffix _)).trans unspaced
  · exact (List.dropWhile_suffix _).trans unspaced

/-- The position that the scan of the number stores. -/
def closedPosition (text : CString) : Nat := 1 + (text.length - (numberRest text).length) + 1

theorem drop_closedPosition {after : CString} (closed : numberRest text = ']' :: after) :
    closedPosition text ≤ ('[' :: text).length ∧
      ('[' :: text).drop (closedPosition text) = after := by
  have suffix := numberRest_suffix text
  have bound := suffix.length_le
  have dropped := List.suffix_iff_eq_drop.mp suffix
  rw [closed, List.length_cons] at bound dropped
  unfold closedPosition
  rw [closed, List.length_cons, List.length_cons]
  refine ⟨by omega, ?_⟩
  rw [Nat.add_comm 1, List.drop_succ_cons, ← List.drop_drop, ← dropped]
  rfl

end Numbers

section Thresholds

variable (builder : MemtierBuilder) (val : CtlValue)

/-- What is returned for the setting that is read. -/
def ctlAnswer (target : Option CtlTarget) : Int × MemtierBuilder :=
  target.elim (-1, builder) fun target => (0, target.assign builder val)

@[simp]
theorem ctlAnswer_none : ctlAnswer builder val none = (-1, builder) := rfl

@[simp]
theorem ctlAnswer_some (target : CtlTarget) :
    ctlAnswer builder val (some target) = (0, target.assign builder val) := rfl

/-- The setting that is read from a position behind the number. -/
def thresholdAt (index : Nat) (query : CString) : Option CtlTarget :=
  (fieldAt query).map (.threshold index)

theorem keyword_thresholdsWord :
    keyword ThresholdField.all ThresholdField.ctlName thresholdsWord = none := by
  decide +kernel

omit builder val in
/-- The last scan of the name. Without a word the array still holds `thresholds`. -/
theorem fieldScan_eq (query : CString) :
    keyword ThresholdField.all ThresholdField.ctlName
        ((sscanf query [.literal '.', .word (chrReadMax - 1)]).text.getD thresholdsWord) =
      fieldAt query ∧
    (fieldAt query ≠ none →
      (sscanf query [.literal '.', .word (chrReadMax - 1)]).ret ≠ 0) := by
  have noWord : (sscanf query [.literal '.', .word (chrReadMax - 1)]).text = none →
      fieldAt query = none →
      keyword ThresholdField.all ThresholdField.ctlName
          ((sscanf query [.literal '.', .word (chrReadMax - 1)]).text.getD thresholdsWord) =
        fieldAt query ∧
      (fieldAt query ≠ none →
        (sscanf query [.literal '.', .word (chrReadMax - 1)]).ret ≠ 0) := by
    intro unread noField
    rw [unread, Option.getD_none, keyword_thresholdsWord, noField]
    exact ⟨rfl, fun found => absurd rfl found⟩
  cases query with
  | nil => exact noWord rfl rfl
  | cons first text =>
      by_cases dot : first = '.'
      · subst dot
        by_cases blank : text.dropWhile isSpace = []
        · apply noWord (sscanf_after_none blank)
          rw [fieldAt, blank]
          decide
        · rw [sscanf_after blank, Option.getD_some, keyword_take ThresholdField.ctlName_length, fieldAt]
          exact ⟨rfl, fun _ => Int.one_ne_zero⟩
      · apply noWord
        · rw [sscanf, scanFrom, if_neg dot]
        · unfold fieldAt
          split
          · rename_i same
            exact absurd (List.cons.inj same).1 dot
          · rfl

/-- The number is an `int`. -/
abbrev IsInt (number : Int) : Prop := -(intMax + 1) ≤ number ∧ number ≤ intMax

/-- Without a number the threshold is refused. -/
theorem builderDynamicSetThreshold_noNumber {query : CString} (chrRead : Nat)
    (unread : (sscanf query [.literal '[', .decimal, .literal ']', .position]).number = none) :
    builderDynamicSetThreshold builder query chrRead val = some (-1, builder) := by
  unfold builderDynamicSetThreshold
  dsimp only
  rw [unread, Option.getD_none, if_neg (by decide), if_neg (by omega)]

variable {text : CString} (digits : numberDigits text ≠ [])

include digits

theorem builderDynamicSetThreshold_notInt (chrRead : Nat) (large : ¬IsInt (numberValue text)) :
    builderDynamicSetThreshold builder ('[' :: text) chrRead val = none := by
  unfold builderDynamicSetThreshold
  dsimp only
  rw [(sscanf_enclosed digits).1, Option.getD_some, if_pos]
  unfold IsInt at large
  omega

/-- A number that names no threshold of the builder. -/
theorem builderDynamicSetThreshold_outside (chrRead : Nat) (int : IsInt (numberValue text))
    (outside : ¬(0 ≤ numberValue text ∧ numberValue text + 1 < builder.cfg.length)) :
    builderDynamicSetThreshold builder ('[' :: text) chrRead val = some (-1, builder) := by
  obtain ⟨low, high⟩ := int
  unfold builderDynamicSetThreshold
  dsimp only
  rw [(sscanf_enclosed digits).1, Option.getD_some, if_neg (by omega)]
  split
  · rw [if_pos (by omega)]
  · rfl

variable (int : IsInt (numberValue text)) (low : 0 ≤ numberValue text)
  (high : numberValue text + 1 < builder.cfg.length)

include int low high

/-- From the position behind the number the field is read. -/
theorem builderDynamicSetThreshold_position {chrRead position : Nat}
    (read : (sscanf ('[' :: text) [.literal '[', .decimal, .literal ']', .position]).read.getD
      chrRead = position) (short : position < chrReadMax) :
    builderDynamicSetThreshold builder ('[' :: text) chrRead val =
      if ('[' :: text).length < position then none
      else some (ctlAnswer builder val
        (thresholdAt (numberValue text).toNat (('[' :: text).drop position))) := by
  obtain ⟨word, ret⟩ := fieldScan_eq (('[' :: text).drop position)
  unfold IsInt at int
  unfold builderDynamicSetThreshold
  dsimp only
  rw [(sscanf_enclosed digits).1, read, Option.getD_some, if_neg (by omega), if_pos ⟨low, short⟩,
    if_neg (by omega)]
  split
  · rfl
  · rw [word, ctlAnswer, thresholdAt]
    cases found : fieldAt (('[' :: text).drop position) with
    | none => rfl
    | some field =>
        dsimp only
        rw [if_pos (ret (by rw [found]; exact Option.some_ne_none field))]
        rfl

/-- A number that is closed by a bracket. -/
theorem builderDynamicSetThreshold_closed (chrRead : Nat) {after : CString}
    (closed : numberRest text = ']' :: after) :
    builderDynamicSetThreshold builder ('[' :: text) chrRead val =
      some (if closedPosition text < chrReadMax then
        ctlAnswer builder val (thresholdAt (numberValue text).toNat after) else (-1, builder)) := by
  obtain ⟨inside, dropped⟩ := drop_closedPosition closed
  have read : (sscanf ('[' :: text) [.literal '[', .decimal, .literal ']', .position]).read =
      some (closedPosition text) := by
    rw [(sscanf_enclosed digits).2, closed, if_pos (by rfl), ← closed]
    rfl
  by_cases short : closedPosition text < chrReadMax
  · rw [builderDynamicSetThreshold_position builder val digits int low high
      (by rw [read, Option.getD_some]) short, if_neg (Nat.not_lt.mpr inside), dropped,
      if_pos short]
  · unfold IsInt at int
    unfold builderDynamicSetThreshold
    dsimp only
    rw [(sscanf_enclosed digits).1, read, Option.getD_some, Option.getD_some, if_neg (by omega),
      if_neg fun both => short both.2, if_neg short]

/-- A number that is not closed by a bracket leaves the count of characters as it was. -/
theorem builderDynamicSetThreshold_open {chrRead : Nat} (short : chrRead < chrReadMax)
    (unclosed : (numberRest text).head? ≠ some ']') :
    builderDynamicSetThreshold builder ('[' :: text) chrRead val =
      if ('[' :: text).length < chrRead then none
      else some (ctlAnswer builder val
        (thresholdAt (numberValue text).toNat (('[' :: text).drop chrRead))) := by
  apply builderDynamicSetThreshold_position builder val digits int low high _ short
  rw [(sscanf_enclosed digits).2, if_neg unclosed, Option.getD_none]

end Thresholds

section Readings

/-- How the text behind `thresholds[` is read: `none` where the scan has no meaning, and no setting
where the name is refused. -/
def readThreshold (tiers : Nat) (text : CString) : Option (Option CtlTarget) :=
  let index := (numberValue text).toNat
  if numberDigits text = [] then some none
  else if ¬IsInt (numberValue text) then none
  else if ¬(0 ≤ numberValue text ∧ numberValue text + 1 < tiers) then some none
  else if (numberRest text).head? = some ']' then
    some (if closedPosition text < chrReadMax then thresholdAt index (numberRest text).tail else none)
  -- The position is still the length of the word.
  else if ('[' :: text).length < thresholdsWord.length then none
  else some (thresholdAt index (('[' :: text).drop thresholdsWord.length))

/-- The setting with this name. -/
def readParam (word : CString) : Option CtlTarget :=
  (keyword CtlParam.all CtlParam.ctlName word).map .param

/-- How the text behind the common start is read. -/
def readQuery (initial : CString) (tiers : Nat) (query : CString) : Option (Option CtlTarget) :=
  if query = [] then if initial = thresholdsWord then none else some (readParam initial)
  else if query.takeWhile (· ≠ '[') = thresholdsWord then
    readThreshold tiers (query.drop (thresholdsWord.length + 1))
  else some (readParam (query.takeWhile (· ≠ '[')))

/-- How a name is read. -/
def readName (initial : CString) (tiers : Nat) (name : CString) : Option (Option CtlTarget) :=
  if dynamicThresholdPrefix <+: name then
    readQuery initial tiers (name.drop dynamicThresholdPrefix.length)
  else some none

theorem readParam_fits {tiers : Nat} {word : CString} {target : CtlTarget}
    (read : readParam word = some target) : target.Fits tiers := by
  obtain ⟨setting, -, rfl⟩ := Option.map_eq_some_iff.mp read
  exact trivial

theorem readThreshold_fits {tiers : Nat} {text : CString} {target : CtlTarget}
    (read : readThreshold tiers text = some (some target)) : target.Fits tiers := by
  have inside : ∀ query, 0 ≤ numberValue text ∧ numberValue text + 1 < tiers →
      thresholdAt (numberValue text).toNat query = some target → target.Fits tiers := by
    intro query inside found
    obtain ⟨field, -, rfl⟩ := Option.map_eq_some_iff.mp found
    change (numberValue text).toNat + 1 < tiers
    omega
  unfold readThreshold at read
  dsimp only at read
  split at read
  · cases read
  · split at read
    · cases read
    · split at read
      · cases read
      · rename_i between
        split at read
        · split at read
          · exact inside _ (not_not.mp between) (Option.some.inj read)
          · cases read
        · split at read
          · cases read
          · exact inside _ (not_not.mp between) (Option.some.inj read)

/-- Only settings that the builder has are read. -/
theorem readName_fits {initial : CString} {tiers : Nat} {name : CString} {target : CtlTarget}
    (read : readName initial tiers name = some (some target)) : target.Fits tiers := by
  unfold readName readQuery at read
  split at read
  · split at read
    · split at read
      · cases read
      · exact readParam_fits (Option.some.inj read)
    · split at read
      · exact readThreshold_fits read
      · exact readParam_fits (Option.some.inj read)
  · cases read

variable (builder : MemtierBuilder) (val : CtlValue)

theorem builderDynamicSetThreshold_read (text : CString) :
    builderDynamicSetThreshold builder ('[' :: text) thresholdsWord.length val =
      (readThreshold builder.cfg.length text).map (ctlAnswer builder val) := by
  unfold readThreshold
  dsimp only
  by_cases digits : numberDigits text = []
  · rw [if_pos digits]
    exact builderDynamicSetThreshold_noNumber builder val _ (sscanf_enclosed_none digits).1
  rw [if_neg digits]
  by_cases int : IsInt (numberValue text)
  · rw [if_neg (not_not.mpr int)]
    by_cases inside : 0 ≤ numberValue text ∧ numberValue text + 1 < builder.cfg.length
    · rw [if_neg (not_not.mpr inside)]
      by_cases closed : (numberRest text).head? = some ']'
      · have rest := List.eq_cons_of_mem_head? closed
        rw [if_pos closed,
          builderDynamicSetThreshold_closed builder val digits int inside.1 inside.2 _ rest]
        split
        · rfl
        · rfl
      · rw [if_neg closed, builderDynamicSetThreshold_open builder val digits int inside.1 inside.2
          (by decide) closed]
        split
        · rfl
        · rfl
    · rw [if_pos inside]
      exact builderDynamicSetThreshold_outside builder val digits _ int inside
  · rw [if_pos int]
    exact builderDynamicSetThreshold_notInt builder val digits _ int

/-- The comparisons with the names of the settings. -/
theorem ctlAnswer_readParam {ret : Int} (read : ret ≠ 0) (word : CString) :
    (if ret ≠ 0 ∧ word = "check_cnt".toList then
        some (0, { builder with checkCnt := val.unsigned })
      else if ret ≠ 0 ∧ word = "trigger".toList then some (0, { builder with trigger := val.float })
      else if ret ≠ 0 ∧ word = "degree".toList then some (0, { builder with degree := val.float })
      else some (-1, builder)) = some (ctlAnswer builder val (readParam word)) := by
  by_cases checkCnt : word = "check_cnt".toList
  · subst checkCnt
    exact if_pos ⟨read, rfl⟩
  rw [if_neg fun both => checkCnt both.2]
  by_cases trigger : word = "trigger".toList
  · subst trigger
    exact if_pos ⟨read, rfl⟩
  rw [if_neg fun both => trigger both.2]
  by_cases degree : word = "degree".toList
  · subst degree
    exact if_pos ⟨read, rfl⟩
  rw [if_neg fun both => degree both.2]
  have unknown : keyword CtlParam.all CtlParam.ctlName word = none := by
    unfold keyword
    rw [List.find?_eq_none]
    intro setting _ found
    have spelled := of_decide_eq_true found
    cases setting with
    | checkCnt => exact checkCnt spelled.symm
    | trigger => exact trigger spelled.symm
    | degree => exact degree spelled.symm
  rw [readParam, unknown]
  rfl

theorem readParam_take (word : CString) : readParam (word.take (chrReadMax - 1)) = readParam word := by
  rw [readParam, keyword_take CtlParam.ctlName_length, readParam]

/-- The text behind the word `thresholds`. -/
theorem builderDynamicSetThreshold_afterWord {query : CString}
    (word : query.takeWhile (· ≠ '[') = thresholdsWord) :
    builderDynamicSetThreshold builder (query.drop thresholdsWord.length) thresholdsWord.length
        val =
      (readThreshold builder.cfg.length (query.drop (thresholdsWord.length + 1))).map
        (ctlAnswer builder val) := by
  have split : query = thresholdsWord ++ query.dropWhile (· ≠ '[') := by
    rw [← word, List.takeWhile_append_dropWhile]
  have dropped : query.drop thresholdsWord.length = query.dropWhile (· ≠ '[') := by
    conv_lhs => rw [split]
    exact List.drop_left
  rw [← List.drop_drop, dropped]
  have bracket := List.head?_dropWhile_not (· ≠ '[') query
  cases rest : query.dropWhile (· ≠ '[') with
  | nil =>
      have unread : (sscanf [] [.literal '[', .decimal, .literal ']', .position]).number = none := rfl
      exact builderDynamicSetThreshold_noNumber builder val _ unread
  | cons first text =>
      rw [rest, List.head?_cons] at bracket
      have same : first = '[' := by simpa using bracket
      subst same
      exact builderDynamicSetThreshold_read builder val text

theorem builderDynamicCtlSet_read (initial name : CString) :
    builderDynamicCtlSet initial builder name val =
      (readName initial builder.cfg.length name).map (ctlAnswer builder val) := by
  unfold builderDynamicCtlSet readName
  dsimp only
  rw [sscanf_literals_read]
  by_cases start : dynamicThresholdPrefix <+: name
  · rw [if_pos start, if_pos start, Option.getD_some, if_pos rfl, sscanf_scanset]
    generalize name.drop dynamicThresholdPrefix.length = query
    unfold readQuery
    by_cases ended : query = []
    · -- `sscanf` returns `EOF` here, and the comparisons see what the array held before.
      rw [if_pos ended, if_pos ended]
      subst ended
      dsimp only
      by_cases stale : initial = thresholdsWord
      · rw [if_pos stale, if_pos ⟨by decide, stale, by decide, by decide⟩, if_pos (by decide)]
        rfl
      · rw [if_neg stale, if_neg fun all => stale all.2.1]
        exact ctlAnswer_readParam builder val (by decide) initial
    · rw [if_neg ended, if_neg ended]
      have short : thresholdsWord.length < chrReadMax - 1 := by decide
      by_cases thresholds : query.takeWhile (· ≠ '[') = thresholdsWord
      · rw [if_pos thresholds, ← builderDynamicSetThreshold_afterWord builder val thresholds]
        have length : thresholdsWord.length ≤ query.length := by
          rw [← thresholds]
          exact (List.takeWhile_prefix _).length_le
        rw [(take_eq_short short).mpr thresholds, if_neg (show thresholdsWord ≠ [] by decide)]
        dsimp only
        rw [if_pos ⟨by decide, rfl, by decide, by decide⟩, Option.getD_some,
          if_neg (Nat.not_lt.mpr length)]
      · have other := mt (take_eq_short short).mp thresholds
        rw [if_neg thresholds, ← readParam_take]
        by_cases unread : (query.takeWhile (· ≠ '[')).take (chrReadMax - 1) = []
        · rw [if_pos unread, unread]
          rfl
        · rw [if_neg unread]
          dsimp only
          rw [Option.getD_some, if_neg fun all => other all.2.1]
          exact ctlAnswer_readParam builder val (by decide) _
  · rw [if_neg start, if_neg start, Option.getD_none, if_neg (by decide)]
    rfl

theorem memtierCtlSetName_read (initial name : CString)
    (dynamic : builder.policy = .dynamicThreshold) :
    memtierCtlSetName initial builder name val =
      (readName initial builder.cfg.length name).map (ctlAnswer builder val) := by
  rw [memtierCtlSetName, dynamic]
  exact builderDynamicCtlSet_read builder val initial name

end Readings

end Memkind
