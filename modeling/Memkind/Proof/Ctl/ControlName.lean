/-
This file shows that the builder reads the name that `ctl.c` prints for a field of a threshold.
-/

import Mathlib.Data.Nat.Digits.Defs
import Memkind.Construction.CtlSet

namespace Memkind

open Library

variable {builder : MemtierBuilder} {index : Nat}

section Scans

/-- The name after its start. -/
def thresholdQuery (index : Nat) (field : ThresholdField) : CString :=
  thresholdsWord ++ '[' :: (Nat.toDigits 10 index ++ ']' :: '.' :: field.ctlName)

theorem thresholdName_eq (index : Nat) (field : ThresholdField) :
    thresholdName index field = dynamicThresholdPrefix ++ thresholdQuery index field := by
  have start : "policy.dynamic_threshold.thresholds[".toList =
      dynamicThresholdPrefix ++ (thresholdsWord ++ ['[']) := by decide +kernel
  have separator : "].".toList = [']', '.'] := rfl
  have number : decimalText index = Nat.toDigits 10 index := by
    rw [decimalText, if_neg (Int.not_lt.mpr (Int.natCast_nonneg index)), Int.natAbs_natCast]
  unfold thresholdName thresholdQuery
  simp only [start, number, separator, List.append_assoc, List.cons_append, List.nil_append]

theorem length_toDigits_le (int : index ≤ intMax) :
    (Nat.toDigits 10 index).length ≤ 10 := by
  apply Nat.toDigits_length 10 _ 10 (by decide)
  exact Nat.lt_of_le_of_lt int (by decide)

/-- The name of a threshold is shorter than the buffer. -/
theorem thresholdName_length (int : index ≤ intMax) (field : ThresholdField) :
    (thresholdName index field).length < maxCtlName := by
  have digits := length_toDigits_le int
  have short : field.ctlName.length = 3 := by cases field <;> rfl
  have start : dynamicThresholdPrefix.length = 25 := rfl
  have word : thresholdsWord.length = 10 := rfl
  simp only [thresholdName_eq, thresholdQuery, List.length_append, List.length_cons, short, start,
    word, maxCtlName]
  omega

theorem sscanf_name (index : Nat) (field : ThresholdField) :
    (sscanf (dynamicThresholdPrefix ++ thresholdQuery index field)
      (dynamicThresholdPrefix.map .literal ++ [.position])).read =
        some dynamicThresholdPrefix.length := by
  rw [sscanf, scanFrom_literals, Nat.zero_add]
  rfl

theorem sscanf_word (index : Nat) (field : ThresholdField) :
    sscanf (thresholdQuery index field) [.scanset (chrReadMax - 1) (· ≠ '['), .position] =
      { text := some thresholdsWord, read := some thresholdsWord.length, ret := 1 } := by
  have nonempty : thresholdsWord ≠ [] := by decide +kernel
  have within : ∀ char ∈ thresholdsWord, decide (char ≠ '[') = true :=
    List.all_eq_true.mp (by decide +kernel)
  have fits : thresholdsWord.length ≤ chrReadMax - 1 := by decide +kernel
  rw [sscanf, thresholdQuery, scanFrom_scanset nonempty within (by decide) fits, Nat.zero_add]
  rfl

theorem sscanf_index (index : Nat) (field : ThresholdField) :
    sscanf ('[' :: (Nat.toDigits 10 index ++ ']' :: '.' :: field.ctlName))
        [.literal '[', .decimal, .literal ']', .position] =
      { number := some index, read := some (1 + (Nat.toDigits 10 index).length + 1), ret := 1 } := by
  rw [sscanf, scanFrom, if_pos rfl, scanFrom_decimal (by decide), scanFrom, if_pos rfl]
  simp [scanFrom]

theorem sscanf_field (field : ThresholdField) :
    sscanf ('.' :: field.ctlName) [.literal '.', .word (chrReadMax - 1)] =
      { text := some field.ctlName, ret := 1 } := by
  have nonempty : field.ctlName ≠ [] := by cases field <;> decide
  have solid : ∀ char ∈ field.ctlName, isSpace char = false := by
    have none : field.ctlName.all (!isSpace ·) = true := by cases field <;> decide
    simpa using none
  have fits : field.ctlName.length ≤ chrReadMax - 1 := by cases field <;> decide
  rw [sscanf, scanFrom, if_pos rfl, scanFrom_word nonempty solid fits]
  rfl

end Scans

theorem ThresholdField.ctlName_keyword (field : ThresholdField) :
    keyword ThresholdField.all ThresholdField.ctlName field.ctlName = some field := by
  cases field <;> decide

/-- The part of the name behind `thresholds` leads to the field. -/
theorem builderDynamicSetThreshold_eq (builder : MemtierBuilder) (int : index ≤ intMax)
    (field : ThresholdField) (chrRead : Nat) (val : CtlValue) :
    builderDynamicSetThreshold builder
        ('[' :: (Nat.toDigits 10 index ++ ']' :: '.' :: field.ctlName)) chrRead val =
      if builder.cfg.length ≤ index + 1 then some (-1, builder)
      else some (0, builder.setThreshold index field val.sizeT) := by
  have digits := length_toDigits_le int
  have isInt : ¬((index : Int) < -(intMax + 1) ∨ (intMax : Int) < index) := by omega
  have short : (0 : Int) ≤ index ∧ 1 + (Nat.toDigits 10 index).length + 1 < chrReadMax := by
    unfold chrReadMax
    omega
  have inside : ¬('[' :: (Nat.toDigits 10 index ++ ']' :: '.' :: field.ctlName)).length <
      1 + (Nat.toDigits 10 index).length + 1 := by
    simp only [List.length_cons, List.length_append]
    omega
  have rest : ('[' :: (Nat.toDigits 10 index ++ ']' :: '.' :: field.ctlName)).drop
      (1 + (Nat.toDigits 10 index).length + 1) = '.' :: field.ctlName := by
    rw [Nat.add_comm 1, List.drop_succ_cons, List.drop_length_add_append]
    rfl
  unfold builderDynamicSetThreshold
  simp only [sscanf_index, Option.getD_some]
  rw [if_neg isInt, if_pos short, Int.toNat_natCast, if_neg inside, rest, sscanf_field]
  simp only [Option.getD_some, ThresholdField.ctlName_keyword]
  rfl

/-- The builder reads the name of a threshold back. -/
theorem builderDynamicCtlSet_thresholdName (initial : CString) (builder : MemtierBuilder)
    (int : index ≤ intMax) (field : ThresholdField) (val : CtlValue) :
    builderDynamicCtlSet initial builder (thresholdName index field) val =
      if builder.cfg.length ≤ index + 1 then some (-1, builder)
      else some (0, builder.setThreshold index field val.sizeT) := by
  have length : thresholdsWord.length < chrReadMax ∧ 0 < thresholdsWord.length := by
    decide +kernel
  have inside : ¬(thresholdQuery index field).length < thresholdsWord.length := by
    rw [thresholdQuery, List.length_append]
    omega
  unfold builderDynamicCtlSet
  simp only [thresholdName_eq, sscanf_name, Option.getD_some, List.drop_left, sscanf_word]
  rw [if_pos trivial, if_pos ⟨by decide, trivial, length⟩, if_neg inside, thresholdQuery,
    List.drop_left]
  exact builderDynamicSetThreshold_eq builder int field _ val

theorem ctlSetThrCfgBuf_eq (int : index ≤ intMax) (field : ThresholdField) :
    ctlSetThrCfgBuf index field = thresholdName index field :=
  List.take_of_length_le (Nat.le_sub_one_of_lt (thresholdName_length int field))

/-- The builder has the threshold. -/
def MemtierBuilder.hasThreshold (builder : MemtierBuilder) (index : Nat) : Bool :=
  builder.policy = .dynamicThreshold && index + 1 < builder.cfg.length

theorem MemtierBuilder.hasThreshold_iff :
    builder.hasThreshold index = true ↔
      builder.policy = .dynamicThreshold ∧ index + 1 < builder.cfg.length := by
  rw [hasThreshold, Bool.and_eq_true, decide_eq_true_iff, decide_eq_true_iff]

theorem MemtierBuilder.not_hasThreshold (missing : builder.cfg.length ≤ index + 1) :
    ¬builder.hasThreshold index = true := by
  intro present
  exact absurd (hasThreshold_iff.mp present).2 (Nat.not_lt.mpr missing)

theorem memtierCtlSet_eq (builder : MemtierBuilder) (index : Nat) (field : ThresholdField)
    (value : SizeT) :
    memtierCtlSet builder index field value =
      if builder.hasThreshold index then some (builder.setThreshold index field value)
      else none := by
  unfold memtierCtlSet
  split
  · rename_i static
    rw [if_neg (by simp [MemtierBuilder.hasThreshold, static])]
  · rename_i dynamic
    by_cases missing : builder.cfg.length ≤ index + 1
    · rw [if_pos missing, if_neg (MemtierBuilder.not_hasThreshold missing)]
    · rw [if_neg missing, if_pos (MemtierBuilder.hasThreshold_iff.mpr ⟨dynamic, by omega⟩)]
      rfl

/-- With a printed name `memtier_ctl_set` does what it does with an index and a field. -/
theorem memtierCtlSetName_eq (initial : CString) (builder : MemtierBuilder) (int : index ≤ intMax)
    (field : ThresholdField) (val : CtlValue) :
    memtierCtlSetName initial builder (ctlSetThrCfgBuf index field) val =
      match memtierCtlSet builder index field val.sizeT with
      | none => some (-1, builder)
      | some next => some (0, next) := by
  rw [ctlSetThrCfgBuf_eq int, memtierCtlSet_eq]
  unfold memtierCtlSetName
  split
  · rename_i static
    rw [if_neg (by simp [MemtierBuilder.hasThreshold, static])]
  · rename_i dynamic
    rw [builderDynamicCtlSet_thresholdName initial builder int]
    by_cases missing : builder.cfg.length ≤ index + 1
    · rw [if_pos missing, if_neg (MemtierBuilder.not_hasThreshold missing)]
    · rw [if_neg missing, if_pos (MemtierBuilder.hasThreshold_iff.mpr ⟨dynamic, by omega⟩)]

/-- A builder differs from another one in one field of a threshold. -/
structure SetsOnly (builder next : MemtierBuilder) (index : Nat) (field : ThresholdField)
    (value : SizeT) : Prop where
  threshold : ∃ thres, builder.thres[index]? = some thres ∧
    next.thres[index]? = some (thres.set value field)
  others : ∀ other, other ≠ index → next.thres[other]? = builder.thres[other]?
  policy : next.policy = builder.policy
  cfg : next.cfg = builder.cfg
  checkCnt : next.checkCnt = builder.checkCnt
  trigger : next.trigger = builder.trigger
  degree : next.degree = builder.degree

theorem setThreshold_setsOnly (dynamic : builder.policy = .dynamicThreshold)
    (inside : index + 1 < builder.cfg.length) (field : ThresholdField) (value : SizeT) :
    SetsOnly builder (builder.setThreshold index field value) index field value where
  threshold := by
    have sized := builder.sized dynamic
    have present : index < builder.thres.length := by omega
    refine ⟨builder.thres[index], List.getElem?_eq_getElem present, ?_⟩
    change (builder.thres.modify index _)[index]? = _
    rw [List.getElem?_modify, List.getElem?_eq_getElem present]
    simp
  others := by
    intro other different
    change (builder.thres.modify index _)[other]? = _
    rw [List.getElem?_modify]
    simp [different.symm]
  policy := rfl
  cfg := rfl
  checkCnt := rfl
  trigger := rfl
  degree := rfl

/-- The name that `ctl_set_thr_cfg` prints fits into its buffer. With it `memtier_ctl_set` sets
exactly the field of a threshold that the builder has, and refuses one that it does not have,
whatever its array held before. -/
theorem controlName_roundTrip (initial : CString) (builder : MemtierBuilder)
    (dynamic : builder.policy = .dynamicThreshold) (index : Nat) (int : index ≤ intMax)
    (field : ThresholdField) (val : CtlValue) :
    (thresholdName index field).length < maxCtlName ∧
      ctlSetThrCfgBuf index field = thresholdName index field ∧
      (index + 1 < builder.cfg.length → ∃ next,
        memtierCtlSetName initial builder (ctlSetThrCfgBuf index field) val = some (0, next) ∧
          SetsOnly builder next index field val.sizeT) ∧
      (builder.cfg.length ≤ index + 1 →
        memtierCtlSetName initial builder (ctlSetThrCfgBuf index field) val = some (-1, builder)) := by
  have read := memtierCtlSetName_eq initial builder int field val
  rw [memtierCtlSet_eq] at read
  refine ⟨thresholdName_length int field, ctlSetThrCfgBuf_eq int field, ?_, ?_⟩
  · intro inside
    rw [if_pos (MemtierBuilder.hasThreshold_iff.mpr ⟨dynamic, inside⟩)] at read
    exact ⟨_, read, setThreshold_setsOnly dynamic inside field val.sizeT⟩
  · intro outside
    rwa [if_neg (MemtierBuilder.not_hasThreshold outside)] at read

/-- A builder with two kinds. -/
def twoKinds : MemtierBuilder :=
  let first := memtierBuilderAddTier ⟨true, true⟩ (memtierBuilderNew .dynamicThreshold)
    (some memkindDefault) 1
  (memtierBuilderAddTier ⟨true, true⟩ first.2 (some memkindDaxKmem) 2).2

theorem controlName_roundTrip_twoKinds :
    ctlSetThrCfgBuf 0 .val = "policy.dynamic_threshold.thresholds[0].val".toList ∧
      (∃ next, memtierCtlSetName [] twoKinds (ctlSetThrCfgBuf 0 .val) ⟨64, 64, .finite 0⟩ =
        some (0, next) ∧ SetsOnly twoKinds next 0 .val 64) ∧
      memtierCtlSetName [] twoKinds (ctlSetThrCfgBuf 1 .val) ⟨64, 64, .finite 0⟩ =
        some (-1, twoKinds) := by
  have dynamic : twoKinds.policy = .dynamicThreshold := by decide +kernel
  have tiers : twoKinds.cfg.length = 2 := by decide +kernel
  refine ⟨by decide +kernel, ?_, ?_⟩
  · refine (controlName_roundTrip [] twoKinds dynamic 0 (by decide) .val _).2.2.1 ?_
    rw [tiers]
    decide
  · refine (controlName_roundTrip [] twoKinds dynamic 1 (by decide) .val _).2.2.2 ?_
    rw [tiers]

end Memkind
