/-
This file says what the parameters of a tier query leave in its variables.
-/

import Memkind.Construction.Ctl
import Mathlib.Data.List.Nodup
import Mathlib.Data.List.Induction

namespace Memkind

open Library

theorem TierParam.keyword_iff {text : CString} {param : TierParam} :
    keyword TierParam.all TierParam.text text = some param ↔ param.text = text := by
  apply keyword_eq_some_iff
  · intro word
    cases word <;> decide
  · intro first second
    cases first <;> cases second <;> decide

theorem KindName.text_inj {first second : KindName} (same : first.text = second.text) :
    first = second := by
  revert same
  cases first <;> cases second <;> decide

theorem KindName.keyword_iff {text : CString} {name : KindName} :
    keyword KindName.all KindName.text text = some name ↔ name.text = text := by
  apply keyword_eq_some_iff
  · intro word
    cases word <;> decide
  · intro first second
    exact KindName.text_inj

theorem ThresholdField.keyword_iff {text : CString} {field : ThresholdField} :
    keyword ThresholdField.all ThresholdField.text text = some field ↔ field.text = text := by
  apply keyword_eq_some_iff
  · intro word
    cases word <;> decide
  · intro first second
    cases first <;> cases second <;> decide

theorem BuilderPolicy.text_inj {first second : BuilderPolicy} (same : first.text = second.text) :
    first = second := by
  revert same
  cases first <;> cases second <;> decide

theorem BuilderPolicy.keyword_iff {text : CString} {policy : BuilderPolicy} :
    keyword BuilderPolicy.all BuilderPolicy.text text = some policy ↔ policy.text = text := by
  apply keyword_eq_some_iff
  · intro word
    cases word <;> decide
  · intro first second
    exact BuilderPolicy.text_inj

/-- The kind that a name sets before the end of the query. -/
def KindName.pointer : KindName → Option KindPtr
  | .dram => some memkindDefault
  | .kmemDax => some memkindDaxKmem
  | .fsDax => none

/-- A list of parameters names the given one. -/
def Names (params : List (CString × Option CString)) (param : TierParam) : Prop :=
  param.text ∈ params.map Prod.fst

/-- What accepted parameters are, and what they leave in the variables. -/
structure TierVars.Reads (outcome : TierOutcome) (params : List (CString × Option CString))
    (vars : TierVars) : Prop where
  known : ∀ param ∈ params, ∃ name : TierParam, name.text = param.1
  once : (params.map Prod.fst).Nodup
  kindSet : vars.kindSet = true ↔ Names params .kind
  kind : ∀ value, (TierParam.kind.text, value) ∈ params → ∃ name : KindName,
    value = some name.text ∧ (name = .kmemDax → outcome.kmemGranted = true) ∧
      vars.kind = name.pointer ∧ (vars.isFsdax = true ↔ name = .fsDax)
  noKind : ¬ Names params .kind → vars.kind = none ∧ vars.isFsdax = false
  pathSet : vars.fsdaxPathSet = true ↔ Names params .path
  path : ∀ value, (TierParam.path.text, value) ∈ params → value ≠ none ∧ vars.fsdaxPath = value
  sizeSet : vars.fsdaxSizeSet = true ↔ Names params .pmemSizeLimit
  size : ∀ value, (TierParam.pmemSizeLimit.text, value) ∈ params → vars.fsdaxSizeStr = value
  ratioSet : vars.ratioSet = true ↔ Names params .ratio
  ratioStr : vars.ratioStr ≠ none ↔ Names params .ratio
  ratio : ∀ value, (TierParam.ratio.text, value) ∈ params →
    ∃ saved, ctlParseRatio value = .accept (vars.ratio, saved)

@[simp] theorem TierParam.text_inj {first second : TierParam} :
    first.text = second.text ↔ first = second := by
  cases first <;> cases second <;> decide

section Concat

variable {params : List (CString × Option CString)} {param other : TierParam}
  {value added : Option CString}

theorem names_concat :
    Names (params ++ [(param.text, added)]) other ↔ Names params other ∨ other = param := by
  simp [Names]

theorem mem_concat : (other.text, value) ∈ params ++ [(param.text, added)] ↔
    (other.text, value) ∈ params ∨ other = param ∧ value = added := by
  simp

theorem names_of_mem (member : (param.text, value) ∈ params) : Names params param :=
  List.mem_map_of_mem member

theorem Names.exists_value (named : Names params param) : ∃ value, (param.text, value) ∈ params := by
  obtain ⟨⟨text, value⟩, member, same⟩ := List.mem_map.mp named
  obtain rfl : text = param.text := same
  exact ⟨value, member⟩

theorem nodup_concat (once : (params.map Prod.fst).Nodup) (fresh : ¬ Names params param) :
    ((params ++ [(param.text, added)]).map Prod.fst).Nodup := by
  rw [List.map_append, List.map_singleton, List.nodup_append]
  refine ⟨once, List.nodup_singleton _, ?_⟩
  intro name member last single same
  rw [List.mem_singleton] at single
  rw [same, single] at member
  exact fresh member

end Concat

namespace TierVars

variable {outcome : TierOutcome} {params : List (CString × Option CString)} {vars next : TierVars}
  {param : TierParam} {value : Option CString}

theorem initial_reads : TierVars.Reads outcome [] {} := by
  constructor <;> simp [Names]

theorem Reads.known_concat (reads : vars.Reads outcome params) :
    ∀ field ∈ params ++ [(param.text, value)], ∃ name : TierParam, name.text = field.1 := by
  intro field member
  obtain member | single := List.mem_append.mp member
  · exact reads.known field member
  · rw [List.mem_singleton] at single
    exact ⟨param, by rw [single]⟩

theorem setKind_accept (accepted : vars.setKind outcome value = .accept next) :
    vars.kindSet = false ∧ ∃ name : KindName, value = some name.text ∧
      (name = .kmemDax → outcome.kmemGranted = true) ∧
      next = { vars with
        kind := name.pointer.or vars.kind
        isFsdax := vars.isFsdax || decide (name = .fsDax)
        kindSet := true } := by
  unfold setKind at accepted
  split at accepted
  · cases accepted
  · rename_i unset
    refine ⟨Bool.eq_false_iff.mpr unset, ?_⟩
    split at accepted
    · cases accepted
    all_goals
      rename_i found
      obtain ⟨text, rfl, spelled⟩ := Option.bind_eq_some_iff.mp found
      rw [KindName.keyword_iff] at spelled
    · obtain rfl := Parsed.accept.inj accepted
      exact ⟨.dram, by rw [spelled], nofun, by simp [KindName.pointer]⟩
    · split at accepted
      · rename_i granted
        obtain rfl := Parsed.accept.inj accepted
        exact ⟨.kmemDax, by rw [spelled], fun _ => granted, by simp [KindName.pointer]⟩
      · cases accepted
    · obtain rfl := Parsed.accept.inj accepted
      exact ⟨.fsDax, by rw [spelled], nofun, by simp [KindName.pointer]⟩

theorem setKind_reads (reads : vars.Reads outcome params)
    (accepted : vars.setKind outcome value = .accept next) :
    next.Reads outcome (params ++ [(TierParam.kind.text, value)]) := by
  obtain ⟨unset, name, rfl, granted, rfl⟩ := setKind_accept accepted
  have fresh : ¬ Names params .kind := by
    rw [← reads.kindSet, unset]
    decide
  obtain ⟨noPointer, noFsdax⟩ := reads.noKind fresh
  exact
    { known := reads.known_concat
      once := nodup_concat reads.once fresh
      kindSet := by simp [names_concat]
      kind := by
        intro other member
        rw [mem_concat] at member
        obtain before | ⟨-, rfl⟩ := member
        · exact absurd (names_of_mem before) fresh
        · exact ⟨name, rfl, granted, by simp [noPointer], by simp [noFsdax]⟩
      noKind := by simp [names_concat]
      pathSet := by simpa [names_concat] using reads.pathSet
      path := by simpa [mem_concat] using reads.path
      sizeSet := by simpa [names_concat] using reads.sizeSet
      size := by simpa [mem_concat] using reads.size
      ratioSet := by simpa [names_concat] using reads.ratioSet
      ratioStr := by simpa [names_concat] using reads.ratioStr
      ratio := by simpa [mem_concat] using reads.ratio }

theorem setPath_reads (reads : vars.Reads outcome params)
    (accepted : vars.setPath value = .accept next) :
    next.Reads outcome (params ++ [(TierParam.path.text, value)]) := by
  unfold setPath at accepted
  split at accepted
  · cases accepted
  · rename_i unset
    split at accepted
    · cases accepted
    · rename_i present
      obtain rfl := Parsed.accept.inj accepted
      have fresh : ¬ Names params .path := by rwa [← reads.pathSet]
      exact
        { known := reads.known_concat
          once := nodup_concat reads.once fresh
          kindSet := by simpa [names_concat] using reads.kindSet
          kind := by simpa [mem_concat] using reads.kind
          noKind := by simpa [names_concat] using reads.noKind
          pathSet := by simp [names_concat]
          path := by
            intro other member
            rw [mem_concat] at member
            obtain before | ⟨-, rfl⟩ := member
            · exact absurd (names_of_mem before) fresh
            · exact ⟨present, rfl⟩
          sizeSet := by simpa [names_concat] using reads.sizeSet
          size := by simpa [mem_concat] using reads.size
          ratioSet := by simpa [names_concat] using reads.ratioSet
          ratioStr := by simpa [names_concat] using reads.ratioStr
          ratio := by simpa [mem_concat] using reads.ratio }

theorem setSizeLimit_reads (reads : vars.Reads outcome params)
    (accepted : vars.setSizeLimit value = .accept next) :
    next.Reads outcome (params ++ [(TierParam.pmemSizeLimit.text, value)]) := by
  unfold setSizeLimit at accepted
  split at accepted
  · cases accepted
  · rename_i unset
    obtain rfl := Parsed.accept.inj accepted
    have fresh : ¬ Names params .pmemSizeLimit := by rwa [← reads.sizeSet]
    exact
      { known := reads.known_concat
        once := nodup_concat reads.once fresh
        kindSet := by simpa [names_concat] using reads.kindSet
        kind := by simpa [mem_concat] using reads.kind
        noKind := by simpa [names_concat] using reads.noKind
        pathSet := by simpa [names_concat] using reads.pathSet
        path := by simpa [mem_concat] using reads.path
        sizeSet := by simp [names_concat]
        size := by
          intro other member
          rw [mem_concat] at member
          obtain before | ⟨-, rfl⟩ := member
          · exact absurd (names_of_mem before) fresh
          · rfl
        ratioSet := by simpa [names_concat] using reads.ratioSet
        ratioStr := by simpa [names_concat] using reads.ratioStr
        ratio := by simpa [mem_concat] using reads.ratio }

theorem setRatio_reads (reads : vars.Reads outcome params)
    (accepted : vars.setRatio value = .accept next) :
    next.Reads outcome (params ++ [(TierParam.ratio.text, value)]) := by
  unfold setRatio at accepted
  split at accepted
  · cases accepted
  · rename_i unset
    obtain ⟨⟨ratio, saved⟩, parsed, stored⟩ := Parsed.bind_eq_accept.mp accepted
    obtain rfl := Parsed.accept.inj stored
    have fresh : ¬ Names params .ratio := by rwa [← reads.ratioSet]
    exact
      { known := reads.known_concat
        once := nodup_concat reads.once fresh
        kindSet := by simpa [names_concat] using reads.kindSet
        kind := by simpa [mem_concat] using reads.kind
        noKind := by simpa [names_concat] using reads.noKind
        pathSet := by simpa [names_concat] using reads.pathSet
        path := by simpa [mem_concat] using reads.path
        sizeSet := by simpa [names_concat] using reads.sizeSet
        size := by simpa [mem_concat] using reads.size
        ratioSet := by simp [names_concat]
        ratioStr := by simp [names_concat]
        ratio := by
          intro other member
          rw [mem_concat] at member
          obtain before | ⟨-, rfl⟩ := member
          · exact absurd (names_of_mem before) fresh
          · exact ⟨saved, parsed⟩ }

end TierVars

/-- One accepted parameter. -/
theorem ctlTierParam_reads {outcome : TierOutcome} {params : List (CString × Option CString)}
    {vars next : TierVars} {param : CString × Option CString}
    (reads : vars.Reads outcome params)
    (accepted : ctlTierParam outcome vars param = .accept next) :
    next.Reads outcome (params ++ [param]) := by
  obtain ⟨name, value⟩ := param
  unfold ctlTierParam at accepted
  split at accepted
  · cases accepted
  all_goals
    rename_i found
    obtain rfl := TierParam.keyword_iff.mp found
  · exact TierVars.setKind_reads reads accepted
  · exact TierVars.setPath_reads reads accepted
  · exact TierVars.setSizeLimit_reads reads accepted
  · exact TierVars.setRatio_reads reads accepted

/-- A list of accepted parameters. -/
theorem ctlTierParams_reads {outcome : TierOutcome} {params : List (CString × Option CString)}
    {vars : TierVars} (accepted : params.foldlM (ctlTierParam outcome) {} = .accept vars) :
    vars.Reads outcome params := by
  induction params using List.reverseRecOn generalizing vars with
  | nil =>
      obtain rfl := Parsed.accept.inj accepted
      exact TierVars.initial_reads
  | append_singleton params param ih =>
      obtain ⟨middle, before, stepped⟩ := Parsed.foldlM_concat_eq_accept.mp accepted
      exact ctlTierParam_reads (ih before) stepped

end Memkind
