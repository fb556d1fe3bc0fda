/-
This file shows that the parameters of a tier query and of a threshold query can come in any order.
-/

import Memkind.Library.Settings
import Memkind.Proof.Ctl.ControlName
import Memkind.Proof.Ctl.TierQuery

namespace Memkind

open Library

/-- A parameter that can be written in a query. -/
structure NamedValue where
  name : CString
  value : CString
  named : name ≠ []
  nameFree : ctlValueSeparator ∉ name ∧ ctlParamSeparator ∉ name ∧ ctlStringQuerySeparator ∉ name
  valued : value ≠ []
  valueFree : ctlParamSeparator ∉ value ∧ ctlStringQuerySeparator ∉ value

def NamedValue.pair (param : NamedValue) : CString × CString := (param.name, param.value)

/-- The query with the given parameters. -/
def queryText (params : List NamedValue) : CString :=
  [ctlParamSeparator].intercalate (params.map fun param => paramText param.pair)

/-- The parser finds the parameters that were written. -/
theorem queryFields_queryText (params : List NamedValue) :
    queryFields (queryText params) =
      (params.map NamedValue.pair).map fun pair => (pair.1, some pair.2) := by
  have names : ∀ pair ∈ params.map NamedValue.pair, pair.1 ≠ [] ∧ ctlValueSeparator ∉ pair.1 := by
    intro pair member
    obtain ⟨param, -, rfl⟩ := List.mem_map.mp member
    exact ⟨param.named, param.nameFree.1⟩
  have values : ∀ pair ∈ params.map NamedValue.pair, pair.2 ≠ [] ∧ ctlParamSeparator ∉ pair.2 := by
    intro pair member
    obtain ⟨param, -, rfl⟩ := List.mem_map.mp member
    exact ⟨param.valued, param.valueFree.1⟩
  rw [queryFields, ← fields_intercalate _ names values, queryText, List.map_map]
  rfl

section Tier

variable {outcome : TierOutcome} {vars : TierVars} {value : CString}

/-- The flag of a parameter. -/
def TierVars.given (vars : TierVars) : TierParam → Bool
  | .kind => vars.kindSet
  | .path => vars.fsdaxPathSet
  | .pmemSizeLimit => vars.fsdaxSizeSet
  | .ratio => vars.ratioSet

/-- The value of a parameter is accepted when it is read. -/
def TierParam.valid (outcome : TierOutcome) (value : CString) : TierParam → Bool
  | .kind =>
      (keyword KindName.all KindName.text value).any fun name =>
        name ≠ .kmemDax || outcome.kmemGranted
  | .path | .pmemSizeLimit => true
  | .ratio => ctlParseRatio (some value) ≠ .reject ()

/-- What a parameter changes. -/
def TierParam.change (value : CString) (vars : TierVars) : TierParam → TierVars
  | .kind =>
      { vars with
        kind := ((keyword KindName.all KindName.text value).bind KindName.pointer).or vars.kind
        isFsdax := vars.isFsdax || decide (value = KindName.fsDax.text)
        kindSet := true }
  | .path => { vars with fsdaxPath := some value, fsdaxPathSet := true }
  | .pmemSizeLimit => { vars with fsdaxSizeStr := some value, fsdaxSizeSet := true }
  | .ratio =>
      match ctlParseRatio (some value) with
      | .accept (dest, saved) => { vars with ratio := dest, ratioStr := some saved, ratioSet := true }
      | _ => vars

theorem TierParam.given_change {param other : TierParam} (different : param ≠ other) :
    (param.change value vars).given other = vars.given other := by
  cases param <;> cases other <;> first
    | exact absurd rfl different
    | rfl
    | (simp only [change]; split <;> rfl)

theorem TierParam.given_change_self {param : TierParam}
    (accepted : param.valid outcome value = true) :
    (param.change value vars).given param = true := by
  cases param with
  | kind => rfl
  | path => rfl
  | pmemSizeLimit => rfl
  | ratio =>
      cases parsed : ctlParseRatio (some value) with
      | crash => cases ctlParseRatio_eq_crash.mp parsed
      | reject error => exact absurd parsed (of_decide_eq_true accepted)
      | accept read => simp only [change, parsed, TierVars.given]

theorem TierParam.change_comm {first second : TierParam} {other : CString}
    (different : first ≠ second) :
    second.change other (first.change value vars) = first.change value (second.change other vars) := by
  cases first <;> cases second <;> first
    | exact absurd rfl different
    | rfl
    | (simp only [change]; split <;> rfl)

/-- The parameters of a tier as settings. -/
def tierSettings (outcome : TierOutcome) : Settings TierVars TierParam CString where
  takes vars param value := !vars.given param && param.valid outcome value
  change param value vars := param.change value vars
  once := by
    intro vars param value other taken
    rw [Bool.and_eq_true] at taken
    rw [TierParam.given_change_self taken.2]
    rfl
  kept := by
    intro vars first second value other different
    rw [TierParam.given_change different]
  comm := by
    intro vars first second value other different
    exact TierParam.change_comm different

/-- The body of the loop over the parameters of a tier, on the settings. -/
abbrev readTierParam (outcome : TierOutcome) :
    TierVars → CString × CString → Parsed Unit TierVars :=
  (tierSettings outcome).read () (keyword TierParam.all TierParam.text)

theorem TierVars.setKind_eq (fresh : vars.kindSet = false) :
    vars.setKind outcome (some value) =
      if TierParam.kind.valid outcome value then .accept (TierParam.kind.change value vars)
      else .reject () := by
  unfold setKind
  rw [fresh, Option.bind_some, TierParam.valid, TierParam.change]
  cases named : keyword KindName.all KindName.text value with
  | none => rfl
  | some name =>
      have fsdax : decide (value = KindName.fsDax.text) = decide (name = .fsDax) := by
        rw [decide_eq_decide, eq_comm, ← KindName.keyword_iff, named, Option.some.injEq]
      rw [fsdax]
      cases name with
      | dram => simp [KindName.pointer]
      | kmemDax => cases granted : outcome.kmemGranted <;> simp [KindName.pointer]
      | fsDax => simp [KindName.pointer]

theorem TierVars.setRatio_eq (outcome : TierOutcome) (fresh : vars.ratioSet = false) :
    vars.setRatio (some value) =
      if TierParam.ratio.valid outcome value then .accept (TierParam.ratio.change value vars)
      else .reject () := by
  unfold setRatio
  rw [fresh, TierParam.valid, TierParam.change]
  cases parsed : ctlParseRatio (some value) with
  | crash => cases ctlParseRatio_eq_crash.mp parsed
  | reject error => simp
  | accept read => simp

/-- The body of the loop reads a setting. -/
theorem ctlTierParam_eq_read (vars : TierVars) (pair : CString × CString) :
    ctlTierParam outcome vars (pair.1, some pair.2) = readTierParam outcome vars pair := by
  obtain ⟨name, value⟩ := pair
  have known : ∀ param, keyword TierParam.all TierParam.text name = some param →
      readTierParam outcome vars (name, value) =
        if !vars.given param && param.valid outcome value then .accept (param.change value vars)
        else .reject () := by
    intro param named
    rw [readTierParam, Settings.read, named]
    rfl
  unfold ctlTierParam
  split
  · rename_i unknown
    dsimp only at unknown
    rw [readTierParam, Settings.read, unknown]
    rfl
  all_goals
    rename_i named
    rw [known _ named]
    dsimp only
  · cases fresh : vars.kindSet with
    | true => simp [TierVars.setKind, TierVars.given, fresh]
    | false => simp [TierVars.setKind_eq fresh, TierVars.given, fresh]
  · cases fresh : vars.fsdaxPathSet <;>
      simp [TierVars.setPath, TierVars.given, TierParam.valid, TierParam.change, fresh]
  · cases fresh : vars.fsdaxSizeSet <;>
      simp [TierVars.setSizeLimit, TierVars.given, TierParam.valid, TierParam.change, fresh]
  · cases fresh : vars.ratioSet with
    | true => simp [TierVars.setRatio, TierVars.given, fresh]
    | false => simp [TierVars.setRatio_eq outcome fresh, TierVars.given, fresh]

/-- The loop over the parameters of a tier reads settings. -/
theorem ctlParseTierQuery_queryText (registry : FsDaxRegistry) (params : List NamedValue) :
    ctlParseTierQuery outcome registry (some (queryText params)) =
      ((params.map NamedValue.pair).foldlM (readTierParam outcome) {}).withError registry >>=
        fun vars => vars.finish outcome registry := by
  have body : (fun vars (pair : CString × CString) =>
      ctlTierParam outcome vars (pair.1, some pair.2)) = readTierParam outcome := by
    funext vars pair
    exact ctlTierParam_eq_read vars pair
  rw [ctlParseTierQuery_eq, queryFields_queryText, List.foldlM_map, body]

end Tier

section Threshold

variable {thresholdId : Nat} {builder : MemtierBuilder}

theorem ThresholdCfg.set_comm (thres : ThresholdCfg) {first second : ThresholdField}
    (different : first ≠ second) (value other : SizeT) :
    (thres.set value first).set other second = (thres.set other second).set value first := by
  cases first <;> cases second <;> first
    | exact absurd rfl different
    | rfl

/-- Different fields of a threshold can be set in any order. -/
theorem MemtierBuilder.setThreshold_comm (builder : MemtierBuilder) (index : Nat)
    {first second : ThresholdField} (different : first ≠ second) (value other : SizeT) :
    (builder.setThreshold index first value).setThreshold index second other =
      (builder.setThreshold index second other).setThreshold index first value := by
  have swapped : (fun thres : ThresholdCfg => (thres.set value first).set other second) =
      fun thres => (thres.set other second).set value first := by
    funext thres
    exact thres.set_comm different value other
  unfold setThreshold
  simp only [List.modify_modify_eq, Function.comp_def, swapped]

/-- The bits of `ctl_opts` as a function, and the builder. -/
abbrev ThresholdState := (ThresholdField → Bool) × MemtierBuilder

/-- The value of a parameter is accepted. -/
def sizeGiven (value : CString) : Bool := ctlParseSize (some value) ≠ .reject ()

/-- The builder after a parameter, for a value that is accepted. -/
def MemtierBuilder.setText (builder : MemtierBuilder) (index : Nat) (field : ThresholdField)
    (value : CString) : MemtierBuilder :=
  match ctlParseSize (some value) with
  | .accept size => builder.setThreshold index field size
  | _ => builder

theorem MemtierBuilder.hasThreshold_setText (builder : MemtierBuilder) (index other : Nat)
    (field : ThresholdField) (value : CString) :
    (builder.setText index field value).hasThreshold other = builder.hasThreshold other := by
  unfold setText
  split <;> rfl

theorem MemtierBuilder.setText_comm (builder : MemtierBuilder) (index : Nat)
    {first second : ThresholdField} (different : first ≠ second) (value other : CString) :
    (builder.setText index first value).setText index second other =
      (builder.setText index second other).setText index first value := by
  unfold setText
  cases ctlParseSize (some value) <;> cases ctlParseSize (some other) <;> first
    | rfl
    | exact builder.setThreshold_comm index different _ _

/-- The parameters of a threshold as settings. -/
def thresholdSettings (thresholdId : Nat) : Settings ThresholdState ThresholdField CString where
  takes state field value :=
    !state.1 field && sizeGiven value && state.2.hasThreshold thresholdId
  change field value state :=
    (Function.update state.1 field true, state.2.setText thresholdId field value)
  once := by
    intro state field value other taken
    dsimp only
    rw [Function.update_self]
    rfl
  kept := by
    intro state first second value other different
    dsimp only
    rw [Function.update_of_ne different.symm, MemtierBuilder.hasThreshold_setText]
  comm := by
    intro state first second value other different
    exact Prod.ext (Function.update_comm different _ _ _)
      (MemtierBuilder.setText_comm _ _ different _ _)

/-- The body of the loop over the parameters of a threshold, on the settings. -/
abbrev readThresholdParam (thresholdId : Nat) :
    ThresholdState → CString × CString → Parsed Unit ThresholdState :=
  (thresholdSettings thresholdId).read () (keyword ThresholdField.all ThresholdField.text)

/-- The bits of `ctl_opts` without their order. -/
def thresholdState (vars : List ThresholdField × MemtierBuilder) : ThresholdState :=
  (fun field => decide (field ∈ vars.1), vars.2)

/-- The body of the loop reads a setting. -/
theorem ctlThresholdParam_eq_read (vars : List ThresholdField × MemtierBuilder)
    (pair : CString × CString) :
    (ctlThresholdParam thresholdId vars (pair.1, some pair.2) >>= fun next =>
        .accept (thresholdState next)) =
      readThresholdParam thresholdId (thresholdState vars) pair := by
  obtain ⟨name, value⟩ := pair
  unfold ctlThresholdParam
  split
  · rename_i unknown
    dsimp only at unknown
    rw [readThresholdParam, Settings.read, unknown]
    rfl
  · rename_i field named
    dsimp only at named
    rw [readThresholdParam, Settings.read, named]
    unfold ctlSetThrCfg
    by_cases twice : field ∈ vars.1
    · simp [Settings.take, thresholdSettings, thresholdState, twice]
    · rw [if_neg twice]
      cases parsed : ctlParseSize (some value) with
      | crash => cases ctlParseSize_eq_crash.mp parsed
      | reject error => simp [Settings.take, thresholdSettings, sizeGiven, parsed]
      | accept size =>
          rw [Parsed.accept_bind, memtierCtlSet_eq]
          cases has : vars.2.hasThreshold thresholdId with
          | false => simp [Settings.take, thresholdSettings, thresholdState, has]
          | true =>
              have bits : (fun other => decide (other ∈ field :: vars.1)) =
                  Function.update (fun other => decide (other ∈ vars.1)) field true := by
                funext other
                by_cases same : other = field <;> simp [same]
              simp [Settings.take, thresholdSettings, thresholdState, has, twice, sizeGiven, parsed,
                MemtierBuilder.setText, ← bits]

/-- The loop over the parameters of a threshold reads settings. -/
theorem ctlParseThresholdQuery_queryText (params : List NamedValue) :
    ctlParseThresholdQuery thresholdId builder (some (queryText params)) =
      if params = [] then .reject ()
      else (params.map NamedValue.pair).foldlM (readThresholdParam thresholdId)
        (thresholdState ([], builder)) >>= fun state => .accept state.2 := by
  have found : (nextToken ctlValueSeparator (queryText params)).1 = none ↔ params = [] := by
    constructor
    · intro exhausted
      have none : queryFields (queryText params) = [] := fields_of_none exhausted
      rw [queryFields_queryText] at none
      simpa using none
    · rintro rfl
      rfl
  simp only [ctlParseThresholdQuery, found]
  split
  · rfl
  · rw [readFields_eq]
    change ((queryFields (queryText params)).foldlM _ _ >>= _) >>= _ = _
    rw [queryFields_queryText, List.foldlM_map,
      ← foldlM_project thresholdState ctlThresholdParam_eq_read, bind_assoc, bind_assoc]
    rfl

end Threshold

/-- The order of the parameters does not matter: every permutation of a tier query or of a threshold
query has the same result. -/
theorem ctlParse_perm (params others : List NamedValue) (perm : params.Perm others) :
    (∀ outcome registry,
      ctlParseTierQuery outcome registry (some (queryText params)) =
        ctlParseTierQuery outcome registry (some (queryText others))) ∧
    ∀ thresholdId builder,
      ctlParseThresholdQuery thresholdId builder (some (queryText params)) =
        ctlParseThresholdQuery thresholdId builder (some (queryText others)) := by
  have pairs := perm.map NamedValue.pair
  constructor
  · intro outcome registry
    rw [ctlParseTierQuery_queryText, ctlParseTierQuery_queryText,
      Settings.foldlM_read_perm _ () _ pairs]
  · intro thresholdId builder
    have empty : params = [] ↔ others = [] := by
      constructor
      · rintro rfl
        exact perm.nil_eq.symm
      · rintro rfl
        exact perm.eq_nil
    simp only [ctlParseThresholdQuery_queryText, empty]
    rw [Settings.foldlM_read_perm _ () _ pairs]

def fsDaxParam : NamedValue :=
  ⟨"KIND".toList, "FS_DAX".toList, by decide, by decide, by decide, by decide⟩

def pathParam : NamedValue :=
  ⟨"PATH".toList, "/tmp/".toList, by decide, by decide, by decide, by decide⟩

def ratioParam : NamedValue :=
  ⟨"RATIO".toList, "1".toList, by decide, by decide, by decide, by decide⟩

theorem ctlParse_perm_fsDax :
    queryText [fsDaxParam, pathParam, ratioParam] = "KIND:FS_DAX,PATH:/tmp/,RATIO:1".toList ∧
      queryText [ratioParam, fsDaxParam, pathParam] = "RATIO:1,KIND:FS_DAX,PATH:/tmp/".toList ∧
      ∀ outcome registry,
        ctlParseTierQuery outcome registry
            (some (queryText [fsDaxParam, pathParam, ratioParam])) =
          ctlParseTierQuery outcome registry
            (some (queryText [ratioParam, fsDaxParam, pathParam])) := by
  have perm : [fsDaxParam, pathParam, ratioParam].Perm [ratioParam, fsDaxParam, pathParam] :=
    (List.perm_append_comm : ([fsDaxParam, pathParam] ++ [ratioParam]).Perm _)
  exact ⟨by decide, by decide, (ctlParse_perm _ _ perm).1⟩

end Memkind
