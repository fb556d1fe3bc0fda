/-
This file embeds the names of `memtier_ctl_set`: how `ctl.c` prints the name of a threshold, and
how the builder of `memkind_memtier.c` reads it.
-/

import Memkind.Library.Scan
import Memkind.Construction.Ctl

namespace Memkind

open Library

def maxCtlName : Nat := 64

/-- The text of `%d`. -/
def decimalText (number : Int) : CString :=
  if number < 0 then '-' :: Nat.toDigits 10 number.natAbs else Nat.toDigits 10 number.natAbs

/-- The names of the fields of a threshold. -/
def ThresholdField.ctlName : ThresholdField → CString
  | .val => "val".toList
  | .min => "min".toList
  | .max => "max".toList

/-- What the formats of `ctl_cmd` print. -/
def thresholdName (thId : Int) (field : ThresholdField) : CString :=
  "policy.dynamic_threshold.thresholds[".toList ++ decimalText thId ++ "].".toList ++ field.ctlName

/-- The buffer of `ctl_set_thr_cfg` after its `snprintf`. -/
def ctlSetThrCfgBuf (thId : Int) (field : ThresholdField) : CString :=
  (thresholdName thId field).take (maxCtlName - 1)

/-- The object behind `val`, read as each of the types that the names stand for. -/
structure CtlValue where
  sizeT : SizeT
  unsigned : BitVec 32
  float : ExactFloat

theorem MemtierBuilder.sized_setThreshold (builder : MemtierBuilder) (index : Nat)
    (field : ThresholdField) (value : SizeT) (dynamic : builder.policy = .dynamicThreshold) :
    builder.cfg.length ≤
      (builder.thres.modify index fun thres => thres.set value field).length + 1 := by
  rw [List.length_modify]
  exact builder.sized dynamic

/-- The builder with another value in one field of a threshold. -/
def MemtierBuilder.setThreshold (builder : MemtierBuilder) (index : Nat) (field : ThresholdField)
    (value : SizeT) : MemtierBuilder :=
  { builder with
    thres := builder.thres.modify index fun thres => thres.set value field
    sized := builder.sized_setThreshold index field value }

def chrReadMax : Nat := 256

/-- The start of every name. -/
def dynamicThresholdPrefix : CString := "policy.dynamic_threshold.".toList

/-- The word that the name of a threshold goes on with. -/
def thresholdsWord : CString := "thresholds".toList

/-- The part of `builder_dynamic_ctl_set` for `thresholds`, where `chrRead` still holds the length
of that word. A number that is no `int` has no meaning, and neither has a pointer beyond the end of
the name. -/
def builderDynamicSetThreshold (builder : MemtierBuilder) (query : CString) (chrRead : Nat)
    (val : CtlValue) : Option (Int × MemtierBuilder) :=
  let index := sscanf query [.literal '[', .decimal, .literal ']', .position]
  let chrRead := index.read.getD chrRead
  let thIndx := index.number.getD (-1)
  if thIndx < -(intMax + 1) ∨ intMax < thIndx then none
  else if 0 ≤ thIndx ∧ chrRead < chrReadMax then
    if builder.cfg.length ≤ thIndx.toNat + 1 then some (-1, builder)
    else if query.length < chrRead then none
    else
      let field := sscanf (query.drop chrRead) [.literal '.', .word (chrReadMax - 1)]
      -- Without a word the array keeps its content.
      let nameSubstr := field.text.getD thresholdsWord
      match keyword ThresholdField.all ThresholdField.ctlName nameSubstr with
      | none => some (-1, builder)
      | some name =>
          if field.ret ≠ 0 then some (0, builder.setThreshold thIndx.toNat name val.sizeT)
          else some (-1, builder)
  else some (-1, builder)

/-- `builder_dynamic_ctl_set` when the array `name_substr` starts with the content `initial`. At the
end of the name `sscanf` stores nothing and returns `EOF`, which counts as success. -/
def builderDynamicCtlSet (initial : CString) (builder : MemtierBuilder) (name : CString)
    (val : CtlValue) : Option (Int × MemtierBuilder) :=
  let chrRead :=
    (sscanf name (dynamicThresholdPrefix.map .literal ++ [.position])).read.getD 0
  if chrRead = dynamicThresholdPrefix.length then
    let query := name.drop chrRead
    let word := sscanf query [.scanset (chrReadMax - 1) (· ≠ '['), .position]
    let chrRead := word.read.getD chrRead
    let nameSubstr := word.text.getD initial
    if word.ret ≠ 0 ∧ nameSubstr = thresholdsWord ∧ chrRead < chrReadMax ∧ 0 < chrRead then
      if query.length < chrRead then none
      else builderDynamicSetThreshold builder (query.drop chrRead) chrRead val
    else if word.ret ≠ 0 ∧ nameSubstr = "check_cnt".toList then
      some (0, { builder with checkCnt := val.unsigned })
    else if word.ret ≠ 0 ∧ nameSubstr = "trigger".toList then
      some (0, { builder with trigger := val.float })
    else if word.ret ≠ 0 ∧ nameSubstr = "degree".toList then
      some (0, { builder with degree := val.float })
    else some (-1, builder)
  else some (-1, builder)

/-- `memtier_ctl_set` with the array of `builder_dynamic_ctl_set`. A static builder knows no name. -/
def memtierCtlSetName (initial : CString) (builder : MemtierBuilder) (name : CString)
    (val : CtlValue) : Option (Int × MemtierBuilder) :=
  match builder.policy with
  | .staticRatio => some (-1, builder)
  | .dynamicThreshold => builderDynamicCtlSet initial builder name val

end Memkind
