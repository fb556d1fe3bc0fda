/-
This file says for which environment variables the parser of `ctl.c` uses a pointer that is `NULL`.
-/

import Memkind.Proof.Ctl.TierQuery
import Memkind.Proof.Ctl.Create

namespace Memkind

open Library

variable {qbuf : Option CString} {error : FsDaxRegistry}

section Query

variable {outcome : TierOutcome} {registry : FsDaxRegistry} {query : CString} {tier : TierQuery}

/-- A complete query for `FS_DAX` has a size limit below `MEMKIND_PMEM_MIN_SIZE`: no kind is made,
and `NULL` goes to the registry. -/
def TierSmallLimit (outcome : TierOutcome) (query : CString) : Prop :=
  ∃ vars value size, (queryFields query).foldlM (ctlTierParam outcome) {} = .accept vars ∧
    (TierParam.kind.text, some KindName.fsDax.text) ∈ queryFields query ∧
    Names (queryFields query) .path ∧ Names (queryFields query) .ratio ∧
    (TierParam.pmemSizeLimit.text, some value) ∈ queryFields query ∧
    ctlParseSize (some value) = .accept size ∧ size ≠ 0 ∧ size < pmemMinSize ∧
    outcome.registryGrows = true

/-- The query is there, it uses no missing value, and it does not register `NULL`. -/
def TierSafe (outcome : TierOutcome) (qbuf : Option CString) : Prop :=
  ∃ query, qbuf = some query ∧ ¬ TierHazard outcome query ∧ ¬ TierSmallLimit outcome query

theorem ctlParseTierQuery_registry
    (accepted : ctlParseTierQuery outcome registry qbuf = .accept tier) :
    tier.registry = registry ∨ tier.registry = registry ++ [tier.kind] := by
  cases qbuf with
  | none => cases accepted
  | some query =>
      obtain ⟨vars, -, finished⟩ := ctlParseTierQuery_accept accepted
      obtain ⟨-, -, ⟨-, -, -, -, same⟩ | ⟨-, -, -, grown⟩⟩ := TierVars.finish_eq_accept.mp finished
      · exact .inl same
      · exact .inr grown

theorem TierVars.finish_reject {vars : TierVars}
    (rejected : vars.finish outcome registry = .reject error) : error = registry := by
  unfold finish at rejected
  split at rejected
  · exact (Parsed.reject.inj rejected).symm
  · split at rejected
    · cases made : vars.createFsdax outcome with
      | crash =>
          rw [made] at rejected
          cases rejected
      | reject missing =>
          rw [made] at rejected
          exact (Parsed.reject.inj rejected).symm
      | accept kind =>
          rw [made] at rejected
          change (if outcome.registryGrows = true then _ else _) = _ at rejected
          split at rejected
          · cases rejected
          · exact (Parsed.reject.inj rejected).symm
    · split at rejected
      · exact (Parsed.reject.inj rejected).symm
      · split at rejected
        · exact (Parsed.reject.inj rejected).symm
        · cases rejected

theorem ctlParseTierQuery_reject
    (rejected : ctlParseTierQuery outcome registry qbuf = .reject error) : error = registry := by
  cases qbuf with
  | none => cases rejected
  | some query =>
      rw [ctlParseTierQuery_eq] at rejected
      cases read : (queryFields query).foldlM (ctlTierParam outcome) {} with
      | crash =>
          rw [read] at rejected
          cases rejected
      | reject missing =>
          rw [read] at rejected
          exact (Parsed.reject.inj rejected).symm
      | accept vars =>
          rw [read] at rejected
          exact TierVars.finish_reject rejected

/-- `NULL` goes to the registry exactly for a limit that is too small. -/
theorem smallLimit_iff (registry : FsDaxRegistry) {vars : TierVars}
    (read : (queryFields query).foldlM (ctlTierParam outcome) {} = .accept vars) :
    TierSmallLimit outcome query ↔
      ∃ tier, vars.finish outcome registry = .accept tier ∧
        tier.registry = registry ++ [none] := by
  have reads := ctlTierParams_reads read
  constructor
  · rintro ⟨same, value, size, sameRead, fsdax, path, ratio, limit, parsed, positive, small, grows⟩
    obtain ⟨noKind, pathText, -, given⟩ := reads.fsdax (reads.isFsdax_iff.mpr fsdax) path
    refine ⟨⟨none, vars.ratio, registry ++ [none]⟩, ?_, rfl⟩
    refine TierVars.finish_eq_accept.mpr ⟨reads.ratioStr.mpr ratio, rfl, .inr
      ⟨reads.isFsdax_iff.mpr fsdax, ?_, grows, rfl⟩⟩
    refine (TierVars.createFsdax_eq_accept given).mpr ⟨reads.pathSet.mpr path, size, ?_, ?_⟩
    · rw [if_pos (reads.sizeSet.mpr (names_of_mem limit)), reads.size _ limit]
      exact parsed
    · rw [if_neg, noKind]
      rintro (zero | large)
      · exact positive zero
      · exact absurd large (BitVec.not_le.mpr small)
  · rintro ⟨tier, finished, grown⟩
    obtain ⟨ratio, -, ⟨-, -, -, -, same⟩ | ⟨fsdax, created, grows, registered⟩⟩ :=
      TierVars.finish_eq_accept.mp finished
    · rw [same] at grown
      exact absurd grown (by simp)
    · rw [grown] at registered
      have noKind : tier.kind = none := by simpa using registered.symm
      obtain ⟨path, size, given, parsed, made⟩ := reads.created fsdax created
      split at made
      · obtain ⟨pointer, -, some⟩ := made
        rw [noKind] at some
        cases some
      · rename_i range
        rw [not_or, BitVec.not_le] at range
        split at parsed
        · rename_i sizeSet
          obtain ⟨value, member⟩ := (reads.sizeSet.mp sizeSet).exists_value
          rw [reads.size value member] at parsed
          cases value with
          | none => cases parsed
          | some value =>
              exact ⟨vars, value, size, read, reads.isFsdax_iff.mp fsdax, names_of_mem given,
                reads.ratioStr.mp ratio, member, parsed, range.1, range.2, grows⟩
        · exact absurd parsed range.1

end Query

section Tiers

variable {outcome : Nat → TierOutcome} {table next : TierTable} {qbuf : Option CString}

theorem ctlParseTier_accept (accepted : ctlParseTier outcome table qbuf = .accept next) :
    ∃ tier, ctlParseTierQuery (outcome table.tempCfg.length) table.registry qbuf = .accept tier ∧
      next = ⟨tier.registry, table.tempCfg ++ [(tier.kind, tier.ratio)]⟩ := by
  obtain ⟨tier, queried, same⟩ := Parsed.bind_eq_accept.mp accepted
  exact ⟨tier, queried, (Parsed.accept.inj same).symm⟩

theorem ctlParseTier_reject (rejected : ctlParseTier outcome table qbuf = .reject error) :
    error = table.registry := by
  cases queried : ctlParseTierQuery (outcome table.tempCfg.length) table.registry qbuf with
  | crash =>
      rw [ctlParseTier, queried] at rejected
      cases rejected
  | reject registry =>
      rw [ctlParseTier, queried] at rejected
      obtain rfl := Parsed.reject.inj rejected
      exact ctlParseTierQuery_reject queried
  | accept tier =>
      rw [ctlParseTier, queried] at rejected
      cases rejected

/-- A safe query neither crashes nor registers `NULL`. -/
theorem tierSafe_iff (clean : none ∉ table.registry) :
    TierSafe (outcome table.tempCfg.length) qbuf ↔
      ctlParseTier outcome table qbuf ≠ .crash ∧
        ∀ next, ctlParseTier outcome table qbuf = .accept next → none ∉ next.registry := by
  have crash : ctlParseTier outcome table qbuf = .crash ↔
      ctlParseTierQuery (outcome table.tempCfg.length) table.registry qbuf = .crash := by
    rw [ctlParseTier, Parsed.bind_eq_crash]
    simp
  rw [ne_eq, crash, ctlParseTierQuery_eq_crash]
  cases qbuf with
  | none => simp [TierSafe]
  | some query =>
      simp only [TierSafe, Option.some.injEq, exists_eq_left', forall_eq']
      refine and_congr_right fun _ => ?_
      constructor
      · intro noSmall next accepted registered
        obtain ⟨tier, queried, rfl⟩ := ctlParseTier_accept accepted
        obtain ⟨vars, read, finished⟩ := ctlParseTierQuery_accept queried
        obtain same | grown := ctlParseTierQuery_registry queried
        · rw [same] at registered
          exact clean registered
        · have noKind : tier.kind = none := by simpa [grown, clean, eq_comm] using registered
          rw [noKind] at grown
          exact noSmall ((smallLimit_iff _ read).mpr ⟨tier, finished, grown⟩)
      · intro unregistered small
        obtain ⟨vars, value, size, read, -⟩ := id small
        obtain ⟨tier, finished, grown⟩ := (smallLimit_iff table.registry read).mp small
        refine unregistered ⟨tier.registry, table.tempCfg ++ [(tier.kind, tier.ratio)]⟩ ?_ ?_
        · rw [ctlParseTier, ctlParseTierQuery_eq, read]
          change (vars.finish _ _ >>= _) = _
          rw [finished]
          rfl
        · rw [grown]
          exact List.mem_append_right _ List.mem_cons_self

/-- The loop crashes, or it leaves `NULL` in the registry. -/
def Poisoned : Parsed FsDaxRegistry TierTable → Prop
  | .crash => True
  | .reject registry => none ∈ registry
  | .accept table => none ∈ table.registry

theorem poisoned_of_registered (registered : none ∈ table.registry)
    (qbufs : List (Option CString)) :
    Poisoned (qbufs.foldlM (ctlParseTier outcome) table) := by
  induction qbufs generalizing table with
  | nil => exact registered
  | cons qbuf qbufs ih =>
      rw [List.foldlM_cons]
      cases stepped : ctlParseTier outcome table qbuf with
      | crash => trivial
      | reject error =>
          rw [ctlParseTier_reject stepped]
          exact registered
      | accept next =>
          obtain ⟨tier, queried, rfl⟩ := ctlParseTier_accept stepped
          apply ih
          obtain same | grown := ctlParseTierQuery_registry queried
          · rw [same]
            exact registered
          · rw [grown]
            exact List.mem_append_left _ registered

/-- The loop is poisoned exactly when it reaches a query that is not safe. -/
theorem poisoned_iff (clean : none ∉ table.registry) (qbufs : List (Option CString)) :
    Poisoned (qbufs.foldlM (ctlParseTier outcome) table) ↔
      ¬ Parsed.Reached (ctlParseTier outcome)
        (fun table qbuf => TierSafe (outcome table.tempCfg.length) qbuf) qbufs table := by
  induction qbufs generalizing table with
  | nil => simpa [Poisoned, Parsed.Reached] using clean
  | cons qbuf qbufs ih =>
      rw [List.foldlM_cons, Parsed.Reached, tierSafe_iff clean]
      cases stepped : ctlParseTier outcome table qbuf with
      | crash => simp [Poisoned]
      | reject error =>
          rw [ctlParseTier_reject stepped]
          simp [Poisoned, clean]
      | accept next =>
          by_cases registered : none ∈ next.registry
          · have poisoned : Poisoned (qbufs.foldlM (ctlParseTier outcome) next) :=
              poisoned_of_registered registered qbufs
            simp [poisoned, registered]
          · rw [Parsed.accept_bind, ih registered]
            simp [registered]

end Tiers

section Thresholds

variable {thresholdId : Nat} {builder : MemtierBuilder} {query : CString}
  {vars : List ThresholdField × MemtierBuilder}

/-- The query ends in a parameter that is new and has no value. -/
def ThresholdHazard (thresholdId : Nat) (builder : MemtierBuilder) (query : CString) : Prop :=
  ∃ before field vars, queryFields query = before ++ [(ThresholdField.text field, none)] ∧
    before.foldlM (ctlThresholdParam thresholdId) ([], builder) = .accept vars ∧
    ThresholdField.text field ∉ before.map Prod.fst

/-- The query is there and uses no missing value. -/
def ThresholdSafe (state : Nat × MemtierBuilder) (qbuf : Option CString) : Prop :=
  ∃ query, qbuf = some query ∧ ¬ ThresholdHazard state.1 state.2 query

theorem ctlSetThrCfg_eq_crash {field : ThresholdField} {value : Option CString} :
    ctlSetThrCfg thresholdId field vars value = .crash ↔ value = none ∧ field ∉ vars.1 := by
  unfold ctlSetThrCfg
  split
  · rename_i twice
    simp [twice]
  · rename_i fresh
    rw [Parsed.bind_eq_crash, ctlParseSize_eq_crash]
    constructor
    · rintro (missing | ⟨val, -, crashed⟩)
      · exact ⟨missing, fresh⟩
      · split at crashed <;> cases crashed
    · intro missing
      exact .inl missing.1

theorem ctlThresholdParam_eq_crash {param : CString × Option CString} :
    ctlThresholdParam thresholdId vars param = .crash ↔
      ∃ field, param = (ThresholdField.text field, none) ∧ field ∉ vars.1 := by
  obtain ⟨name, value⟩ := param
  unfold ctlThresholdParam
  split
  · rename_i unknown
    simp only [reduceCtorEq, Prod.mk.injEq, false_iff]
    rintro ⟨field, ⟨rfl, -⟩, -⟩
    rw [ThresholdField.keyword_iff.mpr rfl] at unknown
    cases unknown
  · rename_i field found
    have same : ∀ other, name = ThresholdField.text other ↔ other = field := by
      intro other
      rw [eq_comm, ← ThresholdField.keyword_iff, found, Option.some.injEq, eq_comm]
    rw [ctlSetThrCfg_eq_crash]
    simp [same]

/-- The bits of `ctl_opts` are the names of the parameters. -/
theorem ctlThresholdParams_opts {params : List (CString × Option CString)}
    (accepted : params.foldlM (ctlThresholdParam thresholdId) ([], builder) = .accept vars)
    (field : ThresholdField) : field ∈ vars.1 ↔ field.text ∈ params.map Prod.fst := by
  induction params using List.reverseRecOn generalizing vars with
  | nil =>
      obtain rfl := Parsed.accept.inj accepted
      simp
  | append_singleton params param ih =>
      obtain ⟨middle, before, stepped⟩ := Parsed.foldlM_concat_eq_accept.mp accepted
      unfold ctlThresholdParam at stepped
      split at stepped
      · cases stepped
      · rename_i added found
        have spelled := ThresholdField.keyword_iff.mp found
        unfold ctlSetThrCfg at stepped
        split at stepped
        · cases stepped
        · obtain ⟨val, -, set⟩ := Parsed.bind_eq_accept.mp stepped
          split at set
          · cases set
          · obtain rfl := Parsed.accept.inj set
            have same : field.text = param.1 ↔ field = added := by
              rw [← ThresholdField.keyword_iff, found, Option.some.injEq, eq_comm]
            rw [List.mem_cons, ih before, List.map_append, List.mem_append,
              List.map_singleton, List.mem_singleton, same]
            exact or_comm

theorem ctlParseThresholdQuery_eq_crash :
    ctlParseThresholdQuery thresholdId builder qbuf = .crash ↔
      ∀ query, qbuf = some query → ThresholdHazard thresholdId builder query := by
  cases qbuf with
  | none => simp [ctlParseThresholdQuery]
  | some query =>
      simp only [Option.some.injEq, forall_eq', ctlParseThresholdQuery]
      split
      · rename_i empty
        have noFields : queryFields query = [] := fields_of_none empty
        simp [ThresholdHazard, noFields]
      · have loop : readFields ctlValueSeparator ctlParamSeparator (ctlThresholdParam thresholdId)
              query ([], builder) >>= (fun x => Parsed.accept x.1.2) = .crash ↔
            (queryFields query).foldlM (ctlThresholdParam thresholdId) ([], builder) = .crash := by
          rw [readFields_eq, Parsed.bind_eq_crash, Parsed.bind_eq_crash]
          simp
        rw [loop, Parsed.foldlM_eq_crash]
        constructor
        · rintro ⟨before, param, after, vars, split, accepted, crashed⟩
          obtain ⟨field, rfl, fresh⟩ := ctlThresholdParam_eq_crash.mp crashed
          obtain rfl := fields_valueless split
          rw [ctlThresholdParams_opts accepted] at fresh
          exact ⟨before, field, vars, split, accepted, fresh⟩
        · rintro ⟨before, field, vars, split, accepted, fresh⟩
          rw [← ctlThresholdParams_opts accepted] at fresh
          exact ⟨before, _, [], vars, split, accepted,
            ctlThresholdParam_eq_crash.mpr ⟨field, rfl, fresh⟩⟩

theorem ctlParseThreshold_ne_crash {state : Nat × MemtierBuilder} :
    ctlParseThreshold state qbuf ≠ .crash ↔ ThresholdSafe state qbuf := by
  rw [ctlParseThreshold, ne_eq, Parsed.bind_eq_crash, ctlParseThresholdQuery_eq_crash]
  cases qbuf <;> simp [ThresholdSafe]

/-- Where the thresholds are parsed, every query that is reached is safe. -/
def ThresholdsSafe (tierCount : Nat) (thresholds : Option CString) (builder : MemtierBuilder) :
    Prop :=
  ∀ text, thresholds.map (List.take (maxEnvString - 1)) = some text →
    builder.policy = .dynamicThreshold → text.count ctlStringQuerySeparator + 1 < tierCount →
    tokens ctlStringQuerySeparator text ≠ [] →
    Parsed.Reached ctlParseThreshold ThresholdSafe
      (loopTokens (text.count ctlStringQuerySeparator + 1) (tokens ctlStringQuerySeparator text))
      (0, builder)

theorem ctlSetThresholds_ne_crash {tierCount : Nat} {thresholds : Option CString} :
    ctlSetThresholds tierCount thresholds builder ≠ .crash ↔
      ThresholdsSafe tierCount thresholds builder := by
  cases thresholds with
  | none => simp [ctlSetThresholds, ThresholdsSafe]
  | some thresholds =>
      simp only [ctlSetThresholds, ThresholdsSafe, Option.map_some, Option.some.injEq, forall_eq',
        ← head_tokens, List.head?_eq_none_iff]
      split
      · rename_i otherPolicy
        simp [otherPolicy]
      · rename_i dynamic
        rw [not_not] at dynamic
        split
        · rename_i tooMany
          simp [dynamic, Nat.not_lt.mpr tooMany]
        · rename_i fewer
          split
          · rename_i empty
            simp [empty]
          · rename_i present
            simp only [dynamic, Nat.not_le.mp fewer, present, ne_eq, not_false_eq_true,
              forall_const]
            rw [tokenLoop_eq, bind_assoc, Parsed.bind_eq_crash]
            simp only [Parsed.accept_bind, reduceCtorEq, and_false, exists_false, or_false]
            rw [← ne_eq, Parsed.foldlM_ne_crash_iff]
            simp only [ctlParseThreshold_ne_crash]

end Thresholds

section Build

variable {outcome : CtlOutcome} {table : TierTable} {query : Option CString × CString}

theorem ctlBuildMemory_eq_crash {tierCount : Nat} {thresholds : Option CString} :
    ctlBuildMemory outcome tierCount thresholds table query = .crash ↔
      ∃ builder, ctlFillBuilder outcome table query = .accept builder ∧
        ¬ ThresholdsSafe tierCount thresholds builder := by
  rw [ctlBuildMemory, Parsed.bind_eq_crash, or_iff_right ctlFillBuilder_ne_crash]
  refine exists_congr fun builder => and_congr_right fun _ => ?_
  rw [← ctlSetThresholds_ne_crash, not_not, Parsed.bind_eq_crash]
  constructor
  · rintro (crashed | ⟨final, -, crashed⟩)
    · exact crashed
    · split at crashed <;> cases crashed
  · exact .inl

/-- A kind that is missing in the registry is missing in the table. -/
theorem tierTable_kinds {tiers : Nat → TierOutcome} {qbufs : List (Option CString)}
    (accepted : qbufs.foldlM (ctlParseTier tiers) ⟨[], []⟩ = .accept table)
    (registered : none ∈ table.registry) : none ∈ table.tempCfg.map Prod.fst := by
  induction qbufs using List.reverseRecOn generalizing table with
  | nil =>
      obtain rfl := Parsed.accept.inj accepted
      cases registered
  | append_singleton qbufs qbuf ih =>
      obtain ⟨middle, before, stepped⟩ := Parsed.foldlM_concat_eq_accept.mp accepted
      obtain ⟨tier, queried, rfl⟩ := ctlParseTier_accept stepped
      rw [List.map_append, List.mem_append, List.map_singleton, List.mem_singleton]
      obtain same | grown := ctlParseTierQuery_registry queried
      · rw [same] at registered
        exact .inl (ih before registered)
      · rw [grown, List.mem_append, List.mem_singleton] at registered
        exact registered.imp_left (ih before)

variable {envVarString : CString} {thresholds : Option CString}

/-- A table with `NULL` in the registry leads to a crash: the builder refuses the missing kind, and
the clean-up destroys it. -/
theorem ctlBuildMemory_of_registered (looped : parsedTiers outcome envVarString = .accept table)
    (registered : none ∈ table.registry) {tierCount : Nat} :
    ctlBuildMemory outcome tierCount thresholds table query = .crash ∨
      ctlBuildMemory outcome tierCount thresholds table query = .reject () := by
  cases built : ctlBuildMemory outcome tierCount thresholds table query with
  | crash => exact .inl rfl
  | reject => exact .inr rfl
  | accept memory =>
      obtain ⟨builder, filled, -⟩ := Parsed.bind_eq_accept.mp built
      exact absurd (tierTable_kinds looped registered) (ctlFillBuilder_kinds filled)

/-- With at least one tier the parser uses no `NULL` pointer exactly when its loop leaves none and
the thresholds are safe. -/
theorem ctlCreateTierMemoryFromEnv_ne_crash_iff (present : queries envVarString ≠ [])
    (several : tierCount envVarString ≠ 0) :
    ctlCreateTierMemoryFromEnv outcome envVarString thresholds ≠ .crash ↔
      ¬ Poisoned (parsedTiers outcome envVarString) ∧
      ∀ table builder, parsedTiers outcome envVarString = .accept table →
        ctlFillBuilder outcome table (policyQuery envVarString) = .accept builder →
        ThresholdsSafe (tierCount envVarString) thresholds builder := by
  rw [ne_eq, ctlCreateTierMemoryFromEnv_eq_crash]
  simp only [ne_eq, present, several, not_false_eq_true, true_and]
  cases looped : parsedTiers outcome envVarString with
  | crash => simp [Poisoned]
  | reject registry => simp [Poisoned]
  | accept table =>
      by_cases registered : none ∈ table.registry
      · apply iff_of_false
        · intro safe
          apply safe
          obtain crashed | rejected := ctlBuildMemory_of_registered looped registered
          · exact .inr (.inr ⟨table, rfl, .inl crashed⟩)
          · exact .inr (.inr ⟨table, rfl, .inr ⟨rejected, registered⟩⟩)
        · rintro ⟨clean, -⟩
          exact clean registered
      · simp only [Parsed.accept.injEq, reduceCtorEq, false_or, false_and, exists_false,
          exists_eq_left', registered, and_false, or_false, ctlBuildMemory_eq_crash, Poisoned,
          not_false_eq_true, true_and, not_exists, not_and, not_not]
        constructor
        · intro safe other builder same filled
          subst same
          exact safe builder filled
        · intro safe builder filled
          exact safe table builder rfl filled

end Build

/-- The text has no query at all; or every query that the loop over the tiers reaches is safe, and
so are the thresholds for the builder that the tiers fill. -/
def EnvSafe (outcome : CtlOutcome) (envVarString : CString) (thresholds : Option CString) : Prop :=
  queries envVarString = [] ∨
    Parsed.Reached (ctlParseTier outcome.tier)
        (fun table qbuf => TierSafe (outcome.tier table.tempCfg.length) qbuf)
        (loopTokens (tierCount envVarString) (queries envVarString)) ⟨[], []⟩ ∧
      ∀ table builder, parsedTiers outcome envVarString = .accept table →
        ctlFillBuilder outcome table (policyQuery envVarString) = .accept builder →
        ThresholdsSafe (tierCount envVarString) thresholds builder

/-- For all environment variables the parser uses no `NULL` pointer, and so returns a memory or
`NULL`, exactly when every query that it reaches is safe. -/
theorem ctlCreateTierMemoryFromEnv_safe_iff (outcome : CtlOutcome) (envVarString : CString)
    (thresholds : Option CString) :
    ctlCreateTierMemoryFromEnv outcome envVarString thresholds ≠ .crash ↔
      EnvSafe outcome envVarString thresholds := by
  rw [EnvSafe]
  by_cases empty : queries envVarString = []
  · rw [ctlCreateTierMemoryFromEnv_of_no_tiers (.inl empty)]
    simp [empty]
  rw [or_iff_right empty]
  by_cases single : tierCount envVarString = 0
  · rw [ctlCreateTierMemoryFromEnv_of_no_tiers (.inr single)]
    simp [single, loopTokens, Parsed.Reached, ThresholdsSafe]
  · rw [ctlCreateTierMemoryFromEnv_ne_crash_iff empty single, parsedTiers,
      poisoned_iff List.not_mem_nil, not_not]

instance (result : CtlReturn) : Decidable (result = .crash) :=
  match result with
  | .crash => isTrue rfl
  | .null _ => isFalse nofun
  | .memory _ => isFalse nofun

instance (result : CtlReturn) (kinds : List KindPtr) : Decidable (result = .null kinds) :=
  match result with
  | .crash => isFalse nofun
  | .null _ => decidable_of_iff _ (Iff.of_eq (CtlReturn.null.injEq _ kinds).symm)
  | .memory _ => isFalse nofun

/-- Every call succeeds. The pmem kinds of the tiers are different. -/
def everyCallSucceeds : CtlOutcome where
  tier i := ⟨true, fun _ => false, fun _ _ => some (.heap (BitVec.ofNat 64 (0x100 + i))), true⟩
  builder := true
  addTier _ := ⟨true, true⟩
  memory := ⟨true, true, true⟩

/-- A tier ends in `RATIO` without a value. -/
theorem ratioWithoutValue_crashes :
    ctlCreateTierMemoryFromEnv everyCallSucceeds "KIND:DRAM,RATIO;POLICY:STATIC_RATIO".toList none =
      .crash := by
  decide +kernel

end Memkind
