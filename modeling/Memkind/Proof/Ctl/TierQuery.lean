/-
This file says when a tier query is accepted and when it uses a pointer that is `NULL`.
-/

import Memkind.Proof.Ctl.Params

namespace Memkind

open Library

variable {kind : Option KindPtr} {vars : TierVars} {path : CString}
  {params : List (CString × Option CString)}

/-- The parameters of a tier query or of a threshold query. -/
abbrev queryFields (query : CString) : List (CString × Option CString) :=
  fields ctlValueSeparator ctlParamSeparator query

/-- `NAME:value` -/
def paramText (param : CString × CString) : CString := param.1 ++ ctlValueSeparator :: param.2

section Crash

variable {outcome : TierOutcome} {vars : TierVars} {value : Option CString}

theorem ctlParseSize_eq_crash : ctlParseSize value = .crash ↔ value = none := by
  cases value with
  | none => simp [ctlParseSize]
  | some text =>
      simp only [reduceCtorEq, iff_false]
      intro crashed
      simp only [ctlParseSize] at crashed
      split at crashed
      · cases crashed
      · split at crashed
        · cases crashed
        · split at crashed
          · cases crashed
          · split at crashed
            · cases crashed
            · split at crashed
              · cases crashed
              · split at crashed <;> cases crashed

theorem ctlParseRatio_eq_crash : ctlParseRatio value = .crash ↔ value = none := by
  cases value with
  | none => simp [ctlParseRatio]
  | some text =>
      simp only [reduceCtorEq, iff_false]
      intro crashed
      simp only [ctlParseRatio] at crashed
      split at crashed
      · cases crashed
      · split at crashed
        · cases crashed
        · split at crashed <;> cases crashed

theorem TierVars.setKind_ne_crash : vars.setKind outcome value ≠ .crash := by
  intro crashed
  unfold setKind at crashed
  split at crashed
  · cases crashed
  · split at crashed
    · cases crashed
    · cases crashed
    · split at crashed <;> cases crashed
    · cases crashed

theorem TierVars.setPath_ne_crash : vars.setPath value ≠ .crash := by
  intro crashed
  unfold setPath at crashed
  split at crashed
  · cases crashed
  · split at crashed <;> cases crashed

theorem TierVars.setSizeLimit_ne_crash : vars.setSizeLimit value ≠ .crash := by
  intro crashed
  unfold setSizeLimit at crashed
  split at crashed <;> cases crashed

theorem TierVars.setRatio_eq_crash :
    vars.setRatio value = .crash ↔ vars.ratioSet = false ∧ value = none := by
  unfold setRatio
  split
  · rename_i set
    simp [set]
  · rename_i unset
    rw [Parsed.bind_eq_crash, ctlParseRatio_eq_crash]
    simp [unset]

/-- Only `RATIO` uses its value before the end of the loop. -/
theorem ctlTierParam_eq_crash {param : CString × Option CString} :
    ctlTierParam outcome vars param = .crash ↔
      param = (TierParam.ratio.text, none) ∧ vars.ratioSet = false := by
  obtain ⟨name, value⟩ := param
  unfold ctlTierParam
  split
  · rename_i unknown
    simp only [reduceCtorEq, Prod.mk.injEq, false_iff]
    rintro ⟨⟨rfl, -⟩, -⟩
    rw [TierParam.keyword_iff.mpr rfl] at unknown
    cases unknown
  all_goals
    rename_i found
    obtain rfl := TierParam.keyword_iff.mp found
  · exact iff_of_false TierVars.setKind_ne_crash (by simp)
  · exact iff_of_false TierVars.setPath_ne_crash (by simp)
  · exact iff_of_false TierVars.setSizeLimit_ne_crash (by simp)
  · rw [TierVars.setRatio_eq_crash]
    simp [and_comm]

theorem TierVars.createPmem_ne_crash {failed : Bool} {size : SizeT} :
    vars.createPmem outcome failed path size ≠ .crash := by
  unfold createPmem
  split
  · split <;> nofun
  · split <;> nofun

theorem TierVars.createFsdax_eq_crash : vars.createFsdax outcome = .crash ↔
    vars.fsdaxPathSet = true ∧ vars.fsdaxSizeSet = true ∧ vars.fsdaxSizeStr = none := by
  unfold createFsdax
  cases vars.fsdaxPathSet with
  | false => simp
  | true =>
      cases vars.fsdaxSizeSet with
      | false =>
          simp only [Bool.not_true, Bool.false_eq_true, if_false, Parsed.accept_bind, false_and,
            and_false, iff_false]
          split
          · exact createPmem_ne_crash
          · split <;> nofun
      | true =>
          simp only [Bool.not_true, Bool.false_eq_true, if_false, if_true, true_and]
          rw [Parsed.bind_eq_crash, Parsed.bind_eq_crash, ctlParseSize_eq_crash]
          simp only [reduceCtorEq, and_false, exists_false, or_false, or_iff_left_iff_imp]
          rintro ⟨⟨failed, size⟩, -, crashed⟩
          split at crashed
          · exact absurd crashed createPmem_ne_crash
          · split at crashed <;> cases crashed

theorem TierVars.finish_eq_crash {registry : FsDaxRegistry} :
    vars.finish outcome registry = .crash ↔ vars.ratioStr ≠ none ∧ vars.isFsdax = true ∧
      vars.fsdaxPathSet = true ∧ vars.fsdaxSizeSet = true ∧ vars.fsdaxSizeStr = none := by
  unfold finish
  split
  · rename_i missing
    simp [missing]
  · rename_i present
    split
    · rename_i fsdax
      rw [Parsed.bind_eq_crash, Parsed.withError_eq_crash, createFsdax_eq_crash]
      have grown : ∀ kind, (if outcome.registryGrows = true
          then Parsed.accept ⟨kind, vars.ratio, registry ++ [kind]⟩
          else Parsed.reject registry) ≠ (Parsed.crash : Parsed FsDaxRegistry TierQuery) := by
        intro kind
        split <;> nofun
      simp [present, fsdax, grown]
    · rename_i noFsdax
      have never : (if vars.fsdaxPathSet = true then Parsed.reject registry
          else if vars.fsdaxSizeSet = true then Parsed.reject registry
          else Parsed.accept ⟨vars.kind, vars.ratio, registry⟩) ≠
            (Parsed.crash : Parsed FsDaxRegistry TierQuery) := by
        split
        · nofun
        · split <;> nofun
      simp [never, noFsdax]

end Crash

section Query

variable {outcome : TierOutcome} {registry : FsDaxRegistry} {query : CString}

/-- The last check of `ctl_parse_tier_query` is dead: the loop stops at the end of the query. -/
theorem ctlParseTierQuery_eq :
    ctlParseTierQuery outcome registry (some query) =
      ((queryFields query).foldlM (ctlTierParam outcome) {}).withError registry >>= fun vars =>
        vars.finish outcome registry := by
  rw [ctlParseTierQuery, readFields_eq]
  cases (queryFields query).foldlM (ctlTierParam outcome) {} with
  | crash => rfl
  | reject error => rfl
  | accept vars =>
      -- The saved pointer is exhausted, so the last check finds no token.
      exact bind_pure (vars.finish outcome registry)

/-- The query ends in a first `RATIO` without a value, or it is a complete query for `FS_DAX` with
`PMEM_SIZE_LIMIT` without a value. -/
def TierHazard (outcome : TierOutcome) (query : CString) : Prop :=
  (∃ before vars, queryFields query = before ++ [(TierParam.ratio.text, none)] ∧
    before.foldlM (ctlTierParam outcome) {} = .accept vars ∧ ¬ Names before .ratio) ∨
  ∃ vars, (queryFields query).foldlM (ctlTierParam outcome) {} = .accept vars ∧
    (TierParam.pmemSizeLimit.text, none) ∈ queryFields query ∧
    (TierParam.kind.text, some KindName.fsDax.text) ∈ queryFields query ∧
    Names (queryFields query) .path ∧ Names (queryFields query) .ratio

/-- The variables of a complete query for `FS_DAX`. -/
theorem TierVars.Reads.isFsdax_iff (reads : vars.Reads outcome params) :
    vars.isFsdax = true ↔ (TierParam.kind.text, some KindName.fsDax.text) ∈ params := by
  constructor
  · intro fsdax
    by_cases named : Names params .kind
    · obtain ⟨value, member⟩ := named.exists_value
      obtain ⟨name, rfl, -, -, isFsdax⟩ := reads.kind value member
      obtain rfl := isFsdax.mp fsdax
      exact member
    · rw [(reads.noKind named).2] at fsdax
      cases fsdax
  · intro member
    obtain ⟨name, spelled, -, -, isFsdax⟩ := reads.kind _ member
    exact isFsdax.mpr (KindName.text_inj (Option.some.inj spelled)).symm

theorem TierVars.Reads.sizeStr_none_iff (reads : vars.Reads outcome params) :
    vars.fsdaxSizeSet = true ∧ vars.fsdaxSizeStr = none ↔
      (TierParam.pmemSizeLimit.text, none) ∈ params := by
  constructor
  · rintro ⟨set, missing⟩
    obtain ⟨value, member⟩ := (reads.sizeSet.mp set).exists_value
    rw [reads.size value member] at missing
    exact missing ▸ member
  · intro member
    exact ⟨reads.sizeSet.mpr (names_of_mem member), reads.size none member⟩

theorem ctlTierParams_eq_crash :
    (queryFields query).foldlM (ctlTierParam outcome) {} = .crash ↔
      ∃ before vars, queryFields query = before ++ [(TierParam.ratio.text, none)] ∧
        before.foldlM (ctlTierParam outcome) {} = .accept vars ∧ ¬ Names before .ratio := by
  rw [Parsed.foldlM_eq_crash]
  constructor
  · rintro ⟨before, param, after, vars, split, accepted, crashed⟩
    obtain ⟨rfl, unset⟩ := ctlTierParam_eq_crash.mp crashed
    obtain rfl := fields_valueless split
    refine ⟨before, vars, split, accepted, ?_⟩
    rw [← (ctlTierParams_reads accepted).ratioSet, unset]
    decide
  · rintro ⟨before, vars, split, accepted, fresh⟩
    refine ⟨before, _, [], vars, split, accepted, ctlTierParam_eq_crash.mpr ⟨rfl, ?_⟩⟩
    rw [← (ctlTierParams_reads accepted).ratioSet] at fresh
    exact Bool.eq_false_iff.mpr fresh

/-- A tier query crashes when it is missing or has a parameter without a value that is used. -/
theorem ctlParseTierQuery_eq_crash {qbuf : Option CString} :
    ctlParseTierQuery outcome registry qbuf = .crash ↔
      ∀ query, qbuf = some query → TierHazard outcome query := by
  cases qbuf with
  | none => simp [ctlParseTierQuery]
  | some query =>
      rw [ctlParseTierQuery_eq, Parsed.bind_eq_crash, Parsed.withError_eq_crash,
        ctlTierParams_eq_crash]
      simp only [Parsed.withError_eq_accept, Option.some.injEq, forall_eq', TierHazard]
      refine or_congr_right (exists_congr fun vars => and_congr_right fun accepted => ?_)
      have reads := ctlTierParams_reads accepted
      rw [TierVars.finish_eq_crash, reads.ratioStr, reads.isFsdax_iff, reads.pathSet,
        reads.sizeStr_none_iff]
      tauto

theorem TierVars.createPmem_eq_accept {failed : Bool} {size : SizeT}
    (possible : size = 0 ∨ failed = false) :
    vars.createPmem outcome failed path size = .accept kind ↔
      if size = 0 ∨ pmemMinSize ≤ size then
        ∃ pointer, outcome.createPmem path size = some pointer ∧ kind = some pointer
      else kind = vars.kind := by
  unfold createPmem
  split
  · cases outcome.createPmem path size <;> simp [eq_comm]
  · rename_i small
    rw [possible.resolve_left fun zero => small (.inl zero)]
    simp [eq_comm]

/-- What an `FS_DAX` tier gets as kind. -/
theorem TierVars.createFsdax_eq_accept (given : vars.fsdaxPath = some path) :
    vars.createFsdax outcome = .accept kind ↔ vars.fsdaxPathSet = true ∧ ∃ size,
      (if vars.fsdaxSizeSet = true then ctlParseSize vars.fsdaxSizeStr = .accept size
        else size = 0) ∧
      if size = 0 ∨ pmemMinSize ≤ size then
        ∃ pointer, outcome.createPmem path size = some pointer ∧ kind = some pointer
      else kind = vars.kind := by
  unfold createFsdax
  rw [given]
  cases vars.fsdaxPathSet with
  | false => simp
  | true =>
      cases vars.fsdaxSizeSet with
      | false =>
          simp only [Bool.not_true, Bool.false_eq_true, if_false, Parsed.accept_bind, true_and,
            exists_eq_left]
          exact createPmem_eq_accept (.inl rfl)
      | true =>
          simp only [Bool.not_true, Bool.false_eq_true, if_false, if_true, true_and]
          rw [Parsed.bind_eq_accept]
          constructor
          · rintro ⟨⟨failed, size⟩, parsed, created⟩
            obtain ⟨value, read, same⟩ := Parsed.bind_eq_accept.mp parsed
            obtain ⟨rfl, rfl⟩ := Prod.mk.inj (Parsed.accept.inj same)
            exact ⟨value, read, (createPmem_eq_accept (.inr rfl)).mp created⟩
          · rintro ⟨size, read, created⟩
            refine ⟨(false, size), ?_, (createPmem_eq_accept (.inr rfl)).mpr created⟩
            rw [read]
            rfl

theorem TierVars.finish_eq_accept {tier : TierQuery} :
    vars.finish outcome registry = .accept tier ↔
      vars.ratioStr ≠ none ∧ tier.ratio = vars.ratio ∧
      (vars.isFsdax = false ∧ vars.fsdaxPathSet = false ∧ vars.fsdaxSizeSet = false ∧
          tier.kind = vars.kind ∧ tier.registry = registry ∨
        vars.isFsdax = true ∧ vars.createFsdax outcome = .accept tier.kind ∧
          outcome.registryGrows = true ∧ tier.registry = registry ++ [tier.kind]) := by
  obtain ⟨kind, ratio, after⟩ := tier
  unfold finish
  split
  · rename_i missing
    simp [missing]
  · rename_i present
    cases fsdax : vars.isFsdax with
    | true =>
        simp only [if_true, Parsed.bind_eq_accept, Parsed.withError_eq_accept]
        constructor
        · rintro ⟨made, created, grown⟩
          split at grown
          · rename_i grows
            obtain ⟨rfl, rfl, rfl⟩ := TierQuery.mk.inj (Parsed.accept.inj grown)
            exact ⟨present, rfl, .inr ⟨trivial, created, grows, rfl⟩⟩
          · cases grown
        · rintro ⟨-, rfl, ⟨noFsdax, -⟩ | ⟨-, created, grows, rfl⟩⟩
          · cases noFsdax
          · exact ⟨kind, created, by rw [if_pos grows]⟩
    | false =>
        simp only [Bool.false_eq_true, if_false, false_and, or_false, true_and]
        cases vars.fsdaxPathSet with
        | true => simp
        | false =>
            cases vars.fsdaxSizeSet with
            | true => simp
            | false =>
                simp only [Bool.false_eq_true, if_false, true_and, Parsed.accept.injEq,
                  TierQuery.mk.injEq]
                constructor
                · rintro ⟨rfl, rfl, rfl⟩
                  exact ⟨present, rfl, rfl, rfl⟩
                · rintro ⟨-, rfl, rfl, rfl⟩
                  exact ⟨rfl, rfl, rfl⟩

theorem ctlParseTierQuery_accept {tier : TierQuery}
    (accepted : ctlParseTierQuery outcome registry (some query) = .accept tier) :
    ∃ vars, (queryFields query).foldlM (ctlTierParam outcome) {} = .accept vars ∧
      vars.finish outcome registry = .accept tier := by
  rw [ctlParseTierQuery_eq] at accepted
  obtain ⟨vars, read, finished⟩ := Parsed.bind_eq_accept.mp accepted
  exact ⟨vars, Parsed.withError_eq_accept.mp read, finished⟩

/-- The variables of a query for `FS_DAX` hold its path and no kind. -/
theorem TierVars.Reads.fsdax (reads : vars.Reads outcome params) (fsdax : vars.isFsdax = true)
    (named : Names params .path) :
    vars.kind = none ∧ ∃ path, (TierParam.path.text, some path) ∈ params ∧
      vars.fsdaxPath = some path := by
  obtain ⟨name, -, -, pointer, isFsdax⟩ := reads.kind _ (reads.isFsdax_iff.mp fsdax)
  obtain rfl := isFsdax.mp fsdax
  obtain ⟨value, member⟩ := named.exists_value
  obtain ⟨present, stored⟩ := reads.path value member
  obtain ⟨path, rfl⟩ := Option.ne_none_iff_exists'.mp present
  exact ⟨pointer, path, member, stored⟩

theorem TierVars.createFsdax_pathSet (created : vars.createFsdax outcome = .accept kind) :
    vars.fsdaxPathSet = true := by
  by_contra unset
  rw [createFsdax, if_pos (by simpa using unset)] at created
  cases created

/-- A query for `FS_DAX` makes its kind from its path and its limit. -/
theorem TierVars.Reads.created (reads : vars.Reads outcome params) (fsdax : vars.isFsdax = true)
    (created : vars.createFsdax outcome = .accept kind) :
    ∃ path size, (TierParam.path.text, some path) ∈ params ∧
      (if vars.fsdaxSizeSet = true then ctlParseSize vars.fsdaxSizeStr = .accept size
        else size = 0) ∧
      if size = 0 ∨ pmemMinSize ≤ size then
        ∃ pointer, outcome.createPmem path size = some pointer ∧ kind = some pointer
      else kind = none := by
  have pathSet := createFsdax_pathSet created
  obtain ⟨noKind, path, given, stored⟩ := reads.fsdax fsdax (reads.pathSet.mp pathSet)
  obtain ⟨-, size, parsed, made⟩ := (createFsdax_eq_accept stored).mp created
  rw [noKind] at made
  exact ⟨path, size, given, parsed, made⟩

end Query

end Memkind
