/-
This file says which tier strings `ctl.c` accepts, in terms of the tokens of the string.
-/

import Memkind.Proof.Ctl.NullSafety
import Memkind.Proof.Ctl.SizeLanguage

namespace Memkind

open Library

variable {i : Nat} {kind : KindPtr} {params : List (CString × Option CString)} {vars : TierVars}

section Values

variable {value : CString}

/-- The part of the value up to the next separator starts with the given ratio. -/
def ReadsRatio (value : CString) (ratio : Nat) : Prop :=
  ∃ part ∈ (tokens ctlValueSeparator value).head?, part.head? ≠ some '-' ∧
    ∃ number ∈ strtoul part, number.outOfRange = false ∧ number.value.toNat = ratio ∧
      1 ≤ ratio ∧ ratio ≤ uintMax

/-- The part of the value up to the next separator is read as the given size. -/
def ReadsSize (value : CString) (size : SizeT) : Prop :=
  ∃ part ∈ (tokens ctlValueSeparator value).head?, readSize part = some size

theorem ctlParseU_eq_some {str : CString} {dest : BitVec 32} :
    ctlParseU str = some dest ↔ str.head? ≠ some '-' ∧ ∃ number ∈ strtoul str,
      number.outOfRange = false ∧ number.value.toNat = dest.toNat := by
  unfold ctlParseU
  split
  · rename_i sign
    simp [sign]
  · rename_i noSign
    rw [Option.bind_eq_some_iff]
    simp only [ne_eq, noSign, not_false_eq_true, true_and]
    refine exists_congr fun number => and_congr_right fun _ => ?_
    have width := dest.isLt
    split
    · rename_i outside
      simp only [reduceCtorEq, false_iff, not_and]
      intro inside same
      obtain wrong | large := outside
      · rw [inside] at wrong
        cases wrong
      · unfold uintMax at large
        omega
    · rename_i inside
      rw [not_or, Bool.not_eq_true, Nat.not_lt] at inside
      have fits : number.value.toNat < 2 ^ 32 := by
        have bound := inside.2
        unfold uintMax at bound
        omega
      simp only [inside.1, true_and, Option.some.injEq]
      rw [← BitVec.toNat_inj, BitVec.toNat_setWidth, Nat.mod_eq_of_lt fits]

theorem ctlParseRatio_accept_iff {ratio : BitVec 32} :
    (∃ saved, ctlParseRatio (some value) = .accept (ratio, saved)) ↔
      ReadsRatio value ratio.toNat := by
  have range : ratio.toNat ≤ uintMax := by
    have width := ratio.isLt
    unfold uintMax
    omega
  have positive : 1 ≤ ratio.toNat ↔ ratio ≠ 0 := by
    rw [Nat.one_le_iff_ne_zero, ne_eq, ne_eq, ← BitVec.toNat_inj]
    rfl
  unfold ReadsRatio
  rw [head_tokens]
  cases taken : nextToken ctlValueSeparator value with
  | mk found saved =>
      cases found with
      | none => simp [ctlParseRatio, taken]
      | some part =>
          simp only [ctlParseRatio, taken, Option.mem_some_iff, exists_eq_left', range, and_true, positive]
          cases parsed : ctlParseU part with
          | none =>
              simp only [reduceCtorEq, exists_false, false_iff]
              rintro ⟨noSign, number, read, inside, same, -⟩
              rw [ctlParseU_eq_some.mpr ⟨noSign, number, read, inside, same⟩] at parsed
              cases parsed
          | some dest =>
              obtain ⟨noSign, number, read, inside, same⟩ := ctlParseU_eq_some.mp parsed
              constructor
              · rintro ⟨after, accepted⟩
                change (if dest = 0 then _ else _) = _ at accepted
                split at accepted
                · cases accepted
                · rename_i nonzero
                  obtain ⟨rfl, -⟩ := Prod.mk.inj (Parsed.accept.inj accepted)
                  exact ⟨noSign, number, read, inside, same, nonzero⟩
              · rintro ⟨-, other, readOther, -, sameOther, nonzero⟩
                obtain rfl : number = other := Option.mem_unique read readOther
                obtain rfl : dest = ratio := BitVec.eq_of_toNat_eq (same.symm.trans sameOther)
                exact ⟨saved, if_neg nonzero⟩

theorem ctlParseSize_accept_iff {size : SizeT} :
    ctlParseSize (some value) = .accept size ↔ ReadsSize value size := by
  have first : ∀ part, (nextToken ctlValueSeparator value).1 = some part →
      ctlParseSize (some value) = ctlParseSize (some part) ∧ ctlValueSeparator ∉ part := by
    intro part found
    have member : part ∈ tokens ctlValueSeparator value := by
      rw [← head_tokens] at found
      exact List.mem_of_mem_head? found
    have free : ctlValueSeparator ∉ part :=
      not_mem_of_mem_splitOn (List.mem_of_mem_filter member)
    refine ⟨?_, free⟩
    rw [ctlParseSize, ctlParseSize, found, nextToken_last (ne_nil_of_mem_tokens member) free]
  unfold ReadsSize
  rw [head_tokens]
  cases found : (nextToken ctlValueSeparator value).1 with
  | none => simp [ctlParseSize, found]
  | some part =>
      obtain ⟨same, free⟩ := first part found
      rw [same, ctlParseSize_read free]
      simp only [Option.mem_some_iff, exists_eq_left']
      cases readSize part <;> simp

theorem readsRatio_digits {digits : CString} {ratio : Nat} (nonempty : digits ≠ [])
    (allDigits : ∀ digit ∈ digits, digit.isDigit) :
    ReadsRatio digits ratio ↔ selectedValue digits = ratio ∧ 1 ≤ ratio ∧ ratio ≤ uintMax := by
  have free : ctlValueSeparator ∉ digits := fun member =>
    absurd (allDigits _ member) (by decide)
  have noSign : digits.head? ≠ some '-' := by
    obtain ⟨first, others, rfl⟩ := List.exists_cons_of_ne_nil nonempty
    intro sign
    exact no_sign_of_isDigit (allDigits first List.mem_cons_self) (.inl sign)
  obtain ⟨rest, read⟩ := strtoul_digits nonempty allDigits
  unfold ReadsRatio
  rw [tokens_of_free nonempty free]
  simp only [List.head?_cons, Option.mem_some_iff, exists_eq_left', read, ne_eq, noSign,
    not_false_eq_true, true_and, decide_eq_false_iff_not, Nat.not_le]
  constructor
  · rintro ⟨inside, same, range⟩
    rw [if_neg (Nat.not_le.mpr inside), BitVec.toNat_ofNat, Nat.mod_eq_of_lt inside] at same
    exact ⟨same, range⟩
  · rintro ⟨rfl, positive, range⟩
    have inside : selectedValue digits < 2 ^ 64 := by
      unfold uintMax at range
      omega
    refine ⟨inside, ?_, positive, range⟩
    rw [if_neg (Nat.not_le.mpr inside), BitVec.toNat_ofNat, Nat.mod_eq_of_lt inside]

end Values

section Params

variable {outcome : TierOutcome} {params : List (CString × Option CString)}

/-- The names are known and given once, and so are the values that are used when they are read. -/
structure AdmittedParams (params : List (CString × Option CString)) : Prop where
  known : ∀ param ∈ params, ∃ name : TierParam, name.text = param.1
  once : (params.map Prod.fst).Nodup
  kind : ∀ value, (TierParam.kind.text, value) ∈ params → ∃ name : KindName, value = some name.text
  path : ∀ value, (TierParam.path.text, value) ∈ params → value ≠ none
  ratio : ∀ value, (TierParam.ratio.text, value) ∈ params →
    ∃ text ratio, value = some text ∧ ReadsRatio text ratio

theorem AdmittedParams.init {param : CString × Option CString}
    (admitted : AdmittedParams (params ++ [param])) : AdmittedParams params where
  known other member := admitted.known other (List.mem_append_left _ member)
  once := by
    have once := admitted.once
    rw [List.map_append] at once
    exact (List.nodup_append.mp once).1
  kind value member := admitted.kind value (List.mem_append_left _ member)
  path value member := admitted.path value (List.mem_append_left _ member)
  ratio value member := admitted.ratio value (List.mem_append_left _ member)

theorem TierVars.Reads.admitted (reads : vars.Reads outcome params) :
    AdmittedParams params where
  known := reads.known
  once := reads.once
  kind value member := by
    obtain ⟨name, spelled, -⟩ := reads.kind value member
    exact ⟨name, spelled⟩
  path value member := (reads.path value member).1
  ratio value member := by
    obtain ⟨saved, parsed⟩ := reads.ratio value member
    cases value with
    | none => cases parsed
    | some text => exact ⟨text, _, rfl, ctlParseRatio_accept_iff.mp ⟨saved, parsed⟩⟩

theorem setKind_admitted (granted : outcome.kmemGranted = true) (fresh : vars.kindSet = false)
    (name : KindName) : ∃ next, vars.setKind outcome (some name.text) = .accept next := by
  have spelled : (some name.text).bind (keyword KindName.all KindName.text) = some name :=
    KindName.keyword_iff.mpr rfl
  rw [TierVars.setKind, fresh, spelled]
  cases name with
  | dram => exact ⟨_, rfl⟩
  | kmemDax =>
      rw [granted]
      exact ⟨_, rfl⟩
  | fsDax => exact ⟨_, rfl⟩

theorem setRatio_admitted {text : CString} {ratio : Nat} (fresh : vars.ratioSet = false)
    (reads : ReadsRatio text ratio) : ∃ next, vars.setRatio (some text) = .accept next := by
  have width : (BitVec.ofNat 32 ratio).toNat = ratio := by
    obtain ⟨-, -, -, -, -, -, -, -, range⟩ := id reads
    unfold uintMax at range
    rw [BitVec.toNat_ofNat]
    omega
  rw [← width] at reads
  obtain ⟨saved, parsed⟩ := ctlParseRatio_accept_iff.mpr reads
  rw [TierVars.setRatio, fresh, if_neg Bool.false_ne_true, parsed]
  exact ⟨_, rfl⟩

/-- One more parameter is accepted. -/
theorem ctlTierParam_admitted {param : CString × Option CString}
    (granted : outcome.kmemGranted = true) (reads : vars.Reads outcome params)
    (admitted : AdmittedParams (params ++ [param])) :
    ∃ next, ctlTierParam outcome vars param = .accept next := by
  obtain ⟨text, value⟩ := param
  have last : (text, value) ∈ params ++ [(text, value)] :=
    List.mem_append_right _ List.mem_cons_self
  obtain ⟨name, rfl⟩ := admitted.known _ last
  have fresh : ¬ Names params name := by
    have once := admitted.once
    rw [List.map_append] at once
    intro named
    exact (List.nodup_append.mp once).2.2 _ named _ List.mem_cons_self rfl
  unfold ctlTierParam
  rw [TierParam.keyword_iff.mpr rfl]
  cases name with
  | kind =>
      obtain ⟨kind, rfl⟩ := admitted.kind value last
      rw [← reads.kindSet, Bool.not_eq_true] at fresh
      exact setKind_admitted granted fresh kind
  | path =>
      rw [← reads.pathSet] at fresh
      exact ⟨_, (if_neg fresh).trans (if_neg (admitted.path value last))⟩
  | pmemSizeLimit =>
      rw [← reads.sizeSet] at fresh
      exact ⟨_, if_neg fresh⟩
  | ratio =>
      obtain ⟨text, ratio, rfl, read⟩ := admitted.ratio value last
      rw [← reads.ratioSet, Bool.not_eq_true] at fresh
      exact setRatio_admitted fresh read

theorem ctlTierParams_accept_iff (granted : outcome.kmemGranted = true) :
    (∃ vars, params.foldlM (ctlTierParam outcome) {} = .accept vars) ↔ AdmittedParams params := by
  constructor
  · rintro ⟨vars, accepted⟩
    exact (ctlTierParams_reads accepted).admitted
  · intro admitted
    induction params using List.reverseRecOn with
    | nil => exact ⟨{}, rfl⟩
    | append_singleton params param ih =>
        obtain ⟨vars, accepted⟩ := ih admitted.init
        obtain ⟨next, stepped⟩ :=
          ctlTierParam_admitted granted (ctlTierParams_reads accepted) admitted
        exact ⟨next, Parsed.foldlM_concat_eq_accept.mpr ⟨vars, accepted, stepped⟩⟩

/-- The parameters have a ratio. With `FS_DAX` they have a path, and their limit is a size. Without
it they have neither. -/
structure AdmittedTier (params : List (CString × Option CString)) : Prop
    extends AdmittedParams params where
  hasRatio : Names params .ratio
  place : if (TierParam.kind.text, some KindName.fsDax.text) ∈ params then
      Names params .path ∧ ∀ value, (TierParam.pmemSizeLimit.text, value) ∈ params →
        ∃ text size, value = some text ∧ ReadsSize text size
    else ¬ Names params .path ∧ ¬ Names params .pmemSizeLimit

end Params

section Query

variable {outcome : TierOutcome} {registry : FsDaxRegistry} {query : CString} {tier : TierQuery}

/-- Every call for a tier succeeds. -/
structure TierOutcome.Succeeds (outcome : TierOutcome) : Prop where
  kmemGranted : outcome.kmemGranted = true
  registryGrows : outcome.registryGrows = true
  created : ∀ path size, ∃ address, outcome.createPmem path size = some (.heap address)

theorem TierVars.Reads.finish_admitted (succeeds : outcome.Succeeds)
    (reads : vars.Reads outcome (queryFields query)) (admitted : AdmittedTier (queryFields query)) :
    ∃ tier, vars.finish outcome registry = .accept tier := by
  have place := admitted.place
  have ratioStr := reads.ratioStr.mpr admitted.hasRatio
  by_cases fsdax : vars.isFsdax = true
  · rw [if_pos (reads.isFsdax_iff.mp fsdax)] at place
    obtain ⟨path, limit⟩ := place
    obtain ⟨-, pathText, -, given⟩ := reads.fsdax fsdax path
    obtain ⟨size, parsed⟩ : ∃ size, if vars.fsdaxSizeSet = true then
        ctlParseSize vars.fsdaxSizeStr = .accept size else size = 0 := by
      split
      · rename_i sizeSet
        obtain ⟨value, member⟩ := (reads.sizeSet.mp sizeSet).exists_value
        obtain ⟨text, size, rfl, read⟩ := limit value member
        rw [reads.size _ member]
        exact ⟨size, ctlParseSize_accept_iff.mpr read⟩
      · exact ⟨0, rfl⟩
    obtain ⟨kind, made⟩ : ∃ kind, if size = 0 ∨ pmemMinSize ≤ size then
        ∃ pointer, outcome.createPmem pathText size = some pointer ∧ kind = some pointer
        else kind = vars.kind := by
      split
      · obtain ⟨address, created⟩ := succeeds.created pathText size
        exact ⟨_, _, created, rfl⟩
      · exact ⟨_, rfl⟩
    have created := (TierVars.createFsdax_eq_accept given).mpr
      ⟨reads.pathSet.mpr path, size, parsed, made⟩
    exact ⟨⟨kind, vars.ratio, registry ++ [kind]⟩, TierVars.finish_eq_accept.mpr
      ⟨ratioStr, rfl, .inr ⟨fsdax, created, succeeds.registryGrows, rfl⟩⟩⟩
  · rw [if_neg fun member => fsdax (reads.isFsdax_iff.mpr member), ← reads.pathSet,
      ← reads.sizeSet, Bool.not_eq_true, Bool.not_eq_true] at place
    rw [Bool.not_eq_true] at fsdax
    exact ⟨⟨vars.kind, vars.ratio, registry⟩, TierVars.finish_eq_accept.mpr
      ⟨ratioStr, rfl, .inl ⟨fsdax, place.1, place.2, rfl, rfl⟩⟩⟩

theorem TierVars.Reads.admitted_of_finish (reads : vars.Reads outcome (queryFields query))
    (finished : vars.finish outcome registry = .accept tier) :
    AdmittedTier (queryFields query) := by
  obtain ⟨given, -, ⟨noFsdax, noPath, noLimit, -⟩ | ⟨fsdax, created, -⟩⟩ :=
    TierVars.finish_eq_accept.mp finished
  · refine ⟨reads.admitted, reads.ratioStr.mp given, ?_⟩
    rw [if_neg, ← reads.pathSet, ← reads.sizeSet, noPath, noLimit]
    · decide
    · rw [← reads.isFsdax_iff, noFsdax]
      decide
  · refine ⟨reads.admitted, reads.ratioStr.mp given, ?_⟩
    obtain ⟨path, size, given, parsed, -⟩ := reads.created fsdax created
    rw [if_pos (reads.isFsdax_iff.mp fsdax)]
    refine ⟨names_of_mem given, fun value member => ?_⟩
    rw [if_pos (reads.sizeSet.mpr (names_of_mem member)), reads.size value member] at parsed
    cases value with
    | none => cases parsed
    | some text => exact ⟨text, size, rfl, ctlParseSize_accept_iff.mp parsed⟩

/-- A tier query is accepted exactly when its parameters are. -/
theorem ctlParseTierQuery_accept_iff (succeeds : outcome.Succeeds) :
    (∃ tier, ctlParseTierQuery outcome registry (some query) = .accept tier) ↔
      AdmittedTier (queryFields query) := by
  constructor
  · rintro ⟨tier, accepted⟩
    obtain ⟨vars, read, finished⟩ := ctlParseTierQuery_accept accepted
    exact (ctlTierParams_reads read).admitted_of_finish finished
  · intro admitted
    obtain ⟨vars, read⟩ :=
      (ctlTierParams_accept_iff succeeds.kmemGranted).mpr admitted.toAdmittedParams
    obtain ⟨tier, finished⟩ := (ctlTierParams_reads read).finish_admitted succeeds admitted
    refine ⟨tier, ?_⟩
    rw [ctlParseTierQuery_eq, read]
    exact finished

/-- The kind that the parameters of a tier name, or that is created from their path. -/
inductive TierKind (outcome : TierOutcome) (params : List (CString × Option CString)) :
    Option KindPtr → Prop where
  | missing (unnamed : ¬ Names params .kind) : TierKind outcome params none
  | library {name : KindName} {kind : KindPtr}
      (named : (TierParam.kind.text, some name.text) ∈ params) (pointer : name.pointer = some kind) :
      TierKind outcome params (some kind)
  | fsDax {path : CString} {size : SizeT} {kind : KindPtr}
      (named : (TierParam.kind.text, some KindName.fsDax.text) ∈ params)
      (given : (TierParam.path.text, some path) ∈ params)
      (created : outcome.createPmem path size = some kind) :
      TierKind outcome params (some kind)

/-- What an accepted tier gets. -/
theorem ctlParseTierQuery_reads (created : ¬ TierSmallLimit outcome query)
    (accepted : ctlParseTierQuery outcome registry (some query) = .accept tier) :
    TierKind outcome (queryFields query) tier.kind ∧ ∃ value,
      (TierParam.ratio.text, some value) ∈ queryFields query ∧
        ReadsRatio value tier.ratio.toNat := by
  obtain ⟨vars, read, finished⟩ := ctlParseTierQuery_accept accepted
  have reads := ctlTierParams_reads read
  obtain ⟨given, ratio, kinds⟩ := TierVars.finish_eq_accept.mp finished
  refine ⟨?_, ?_⟩
  · obtain ⟨noFsdax, -, -, kind, -⟩ | ⟨fsdax, made, -, registered⟩ := kinds
    · rw [kind]
      by_cases named : Names (queryFields query) .kind
      · obtain ⟨value, member⟩ := named.exists_value
        obtain ⟨name, rfl, -, stored, isFsdax⟩ := reads.kind value member
        cases pointer : name.pointer with
        | none =>
            cases name with
            | fsDax =>
                rw [isFsdax.mpr rfl] at noFsdax
                cases noFsdax
            | dram => cases pointer
            | kmemDax => cases pointer
        | some kind =>
            rw [stored, pointer]
            exact .library member pointer
      · rw [(reads.noKind named).1]
        exact .missing named
    · obtain ⟨path, size, given, -, made⟩ := reads.created fsdax made
      split at made
      · obtain ⟨pointer, made, same⟩ := made
        rw [same]
        exact .fsDax (reads.isFsdax_iff.mp fsdax) given made
      · rw [made] at registered
        exact absurd ((smallLimit_iff registry read).mpr ⟨tier, finished, registered⟩) created
  · obtain ⟨value, member⟩ := (reads.ratioStr.mp given).exists_value
    obtain ⟨saved, parsed⟩ := reads.ratio value member
    cases value with
    | none => cases parsed
    | some text =>
        rw [ratio]
        exact ⟨text, member, ctlParseRatio_accept_iff.mp ⟨saved, parsed⟩⟩

end Query

section Loop

variable {outcome : Nat → TierOutcome} {qbufs : List (Option CString)} {table : TierTable}

/-- The query is there and its parameters are admitted. -/
def AdmittedQuery (qbuf : Option CString) : Prop :=
  ∃ query, qbuf = some query ∧ AdmittedTier (queryFields query)

theorem ctlParseTier_accept_iff (succeeds : ∀ i, (outcome i).Succeeds) (table : TierTable)
    (qbuf : Option CString) :
    (∃ next, ctlParseTier outcome table qbuf = .accept next) ↔ AdmittedQuery qbuf := by
  cases qbuf with
  | none => simp [AdmittedQuery, ctlParseTier, ctlParseTierQuery]
  | some query =>
      simp only [AdmittedQuery, Option.some.injEq, exists_eq_left']
      rw [← @ctlParseTierQuery_accept_iff _ table.registry _ (succeeds table.tempCfg.length)]
      constructor
      · rintro ⟨next, accepted⟩
        obtain ⟨tier, queried, -⟩ := ctlParseTier_accept accepted
        exact ⟨tier, queried⟩
      · rintro ⟨tier, queried⟩
        rw [ctlParseTier, queried]
        exact ⟨_, rfl⟩

/-- Every entry of the table comes from the query at its position. -/
theorem tempCfg_entries
    (looped : qbufs.foldlM (ctlParseTier outcome) ⟨[], []⟩ = .accept table) :
    table.tempCfg.length = qbufs.length ∧ ∀ i kind ratio, table.tempCfg[i]? = some (kind, ratio) →
      ∃ query registry tier, qbufs[i]? = some (some query) ∧
        ctlParseTierQuery (outcome i) registry (some query) = .accept tier ∧
        kind = tier.kind ∧ ratio = tier.ratio := by
  induction qbufs using List.reverseRecOn generalizing table with
  | nil =>
      obtain rfl := Parsed.accept.inj looped
      exact ⟨rfl, nofun⟩
  | append_singleton qbufs qbuf ih =>
      obtain ⟨middle, before, stepped⟩ := Parsed.foldlM_concat_eq_accept.mp looped
      obtain ⟨tier, queried, rfl⟩ := ctlParseTier_accept stepped
      obtain ⟨length, entries⟩ := ih before
      refine ⟨by rw [List.length_append, List.length_append, length]; rfl, ?_⟩
      intro i kind ratio found
      obtain inside | atEnd := Nat.lt_or_ge i middle.tempCfg.length
      · rw [List.getElem?_append_left inside] at found
        rw [List.getElem?_append_left (length ▸ inside)]
        exact entries i kind ratio found
      · rw [List.getElem?_append_right atEnd] at found
        obtain ⟨bound, same⟩ := List.getElem?_eq_some_iff.mp found
        obtain rfl : i = middle.tempCfg.length := by
          rw [List.length_singleton] at bound
          omega
        cases qbuf with
        | none => cases queried
        | some query =>
            refine ⟨query, _, tier, ?_, queried, ?_⟩
            · rw [length, List.getElem?_append_right (Nat.le_refl _), Nat.sub_self]
              rfl
            · simpa [eq_comm] using same

end Loop

section Text

variable {outcome : CtlOutcome} {text : CString} {builder : MemtierBuilder}

/-- Every call succeeds, and the pmem kinds of the tiers are different. -/
structure CtlOutcome.Succeeds (outcome : CtlOutcome) : Prop where
  tier : ∀ i, (outcome.tier i).Succeeds
  different : ∀ i j, i < j → j < maxEnvString → ∀ path size otherPath otherSize,
    (outcome.tier i).createPmem path size ≠ (outcome.tier j).createPmem otherPath otherSize
  builder : outcome.builder = true
  addTier : ∀ i, outcome.addTier i = ⟨true, true⟩
  memory : outcome.memory = ⟨true, true, true⟩

theorem everyCallSucceeds_succeeds : everyCallSucceeds.Succeeds where
  tier i := ⟨rfl, rfl, fun _ _ => ⟨_, rfl⟩⟩
  different i j before inside _ _ _ _ same := by
    have address := congrArg BitVec.toNat (KindPtr.heap.inj (Option.some.inj same))
    rw [BitVec.toNat_ofNat, BitVec.toNat_ofNat] at address
    unfold maxEnvString at inside
    omega
  builder := rfl
  addTier _ := rfl
  memory := rfl

/-- No complete tier for `FS_DAX` has a limit for which no kind is created. -/
def LimitsSuffice (outcome : CtlOutcome) (text : CString) : Prop :=
  ∀ i, ∀ query ∈ queries text, ¬ TierSmallLimit (outcome.tier i) query

/-- The builder is filled from the text. -/
def FillsBuilder (outcome : CtlOutcome) (text : CString) (builder : MemtierBuilder) : Prop :=
  ∃ table, parsedTiers outcome text = .accept table ∧
    ctlFillBuilder outcome table (policyQuery text) = .accept builder

/-- The query for the policy is there, and it is the last one. -/
theorem policyQuery_found {policy : BuilderPolicy}
    (named : nextToken ctlValueSeparator ((policyQuery text).1.getD (policyQuery text).2) =
      (some "POLICY".toList, policy.text)) :
    ∃ query, (policyQuery text).1 = some query ∧ (queries text)[tierCount text]? = some query ∧
      (queries text).length = tierCount text + 1 := by
  cases found : (policyQuery text).1 with
  | none =>
      rw [nextToken_rest_of_none found, found] at named
      cases named
  | some query =>
      have atEnd : (queries text)[tierCount text]? = some query := by
        rw [← found, policyQuery, nextToken_afterTokens]
      obtain ⟨bound, -⟩ := List.getElem?_eq_some_iff.mp atEnd
      exact ⟨query, rfl, atEnd, Nat.le_antisymm length_tokens_le bound⟩

theorem queries_looped (enough : tierCount text ≤ (queries text).length) {query : CString}
    (found : (loopTokens (tierCount text) (queries text))[i]? = some (some query)) :
    (queries text)[i]? = some query := by
  rw [loopTokens_of_le enough, List.getElem?_map] at found
  obtain ⟨other, taken, same⟩ := Option.map_eq_some_iff.mp found
  obtain rfl := Option.some.inj same
  rw [List.getElem?_take] at taken
  split at taken
  · exact taken
  · cases taken

/-- What a builder that is filled from a text holds. -/
structure FilledBuilder (outcome : CtlOutcome) (text : CString) (builder : MemtierBuilder) :
    Prop where
  policy : ∃ query, (queries text)[tierCount text]? = some query ∧
    nextToken ctlValueSeparator query = (some "POLICY".toList, builder.policy.text)
  length : builder.cfg.length = tierCount text
  distinct : (builder.cfg.map TierCfg.kind).Nodup
  tiers : ∀ i tier, builder.cfg[i]? = some tier → ∃ query value ratio,
    (queries text)[i]? = some query ∧ AdmittedTier (queryFields query) ∧
      TierKind (outcome.tier i) (queryFields query) (some tier.kind) ∧
      (TierParam.ratio.text, some value) ∈ queryFields query ∧ ReadsRatio value ratio ∧
      tier.kindRatio = .ofUnsigned ratio

/-- What the loop reads at a position. -/
theorem parsedTiers_entry (succeeds : outcome.Succeeds) (limits : LimitsSuffice outcome text)
    (enough : tierCount text ≤ (queries text).length) {table : TierTable}
    (looped : parsedTiers outcome text = .accept table) {kind : Option KindPtr}
    {ratio : BitVec 32} (found : table.tempCfg[i]? = some (kind, ratio)) :
    ∃ query value, (queries text)[i]? = some query ∧ AdmittedTier (queryFields query) ∧
      TierKind (outcome.tier i) (queryFields query) kind ∧
      (TierParam.ratio.text, some value) ∈ queryFields query ∧ ReadsRatio value ratio.toNat := by
  obtain ⟨query, registry, tier, position, queried, rfl, rfl⟩ :=
    (tempCfg_entries looped).2 i kind ratio found
  have place := queries_looped enough position
  obtain ⟨kind, value, member, read⟩ :=
    ctlParseTierQuery_reads (limits i query (List.mem_of_getElem? place)) queried
  exact ⟨query, value, place, (ctlParseTierQuery_accept_iff (succeeds.tier i)).mp ⟨tier, queried⟩,
    kind, member, read⟩

theorem FillsBuilder.filled (succeeds : outcome.Succeeds) (limits : LimitsSuffice outcome text)
    (fills : FillsBuilder outcome text builder) : FilledBuilder outcome text builder := by
  obtain ⟨table, looped, filled⟩ := fills
  obtain ⟨tiers, tempCfg, cfg, distinct, named⟩ := ctlFillBuilder_accepted filled
  obtain ⟨query, found, atEnd, length⟩ := policyQuery_found named
  have enough : tierCount text ≤ (queries text).length := length ▸ Nat.le_succ _
  refine ⟨⟨query, atEnd, ?_⟩, ?_, distinct, ?_⟩
  · rw [found] at named
    exact named
  · rw [cfg, List.length_map, ← List.length_map (f := fun tier => (some tier.1, tier.2)), ← tempCfg,
      (tempCfg_entries looped).1, loopTokens_of_le enough, List.length_map, List.length_take,
      Nat.min_eq_left enough]
  · intro i tier position
    rw [cfg, List.getElem?_map] at position
    obtain ⟨⟨kind, ratio⟩, inside, rfl⟩ := Option.map_eq_some_iff.mp position
    have entry : table.tempCfg[i]? = some (some kind, ratio) := by
      rw [tempCfg, List.getElem?_map, inside]
      rfl
    obtain ⟨query, value, place, admitted, named, member, read⟩ :=
      parsedTiers_entry succeeds limits enough looped entry
    exact ⟨query, value, _, place, admitted, named, member, read, rfl⟩

/-- When a memory is returned, and which builder it is made from. -/
theorem ctlCreateTierMemoryFromEnv_none_eq_memory {memory : MemtierMemory} :
    ctlCreateTierMemoryFromEnv outcome text none = .memory memory ↔
      queries text ≠ [] ∧ tierCount text ≠ 0 ∧ ∃ builder, FillsBuilder outcome text builder ∧
        memtierBuilderConstructMemtierMemory outcome.memory builder = some memory := by
  rw [ctlCreateTierMemoryFromEnv_eq_memory]
  refine and_congr_right fun _ => and_congr_right fun _ => ?_
  simp only [ctlBuildMemory_none_eq_accept, FillsBuilder]
  constructor
  · rintro ⟨table, looped, builder, filled, made⟩
    exact ⟨builder, ⟨table, looped, filled⟩, made⟩
  · rintro ⟨builder, ⟨table, looped, filled⟩, made⟩
    exact ⟨table, looped, builder, filled, made⟩

/-- The tier names the kind. -/
abbrev NamesTierKind (query : CString) (name : KindName) : Prop :=
  (TierParam.kind.text, some name.text) ∈ queryFields query

/-- All tiers are admitted and have a kind, no two of them have the same kind of the library, and
the policy follows them. -/
structure AdmittedText (text : CString) : Prop where
  several : tierCount text ≠ 0
  tiers : ∀ query ∈ (queries text).take (tierCount text),
    AdmittedTier (queryFields query) ∧ Names (queryFields query) .kind
  distinct : ((queries text).take (tierCount text)).Pairwise fun first second =>
    ∀ name, name ≠ KindName.fsDax → ¬ (NamesTierKind first name ∧ NamesTierKind second name)
  policy : ∃ query policy, (queries text)[tierCount text]? = some query ∧
    nextToken ctlValueSeparator query = (some "POLICY".toList, BuilderPolicy.text policy) ∧
    (policy = .dynamicThreshold → 2 ≤ tierCount text)

/-- A query names one kind only. -/
theorem AdmittedParams.kind_unique (admitted : AdmittedParams params) {first second : KindName}
    (named : (TierParam.kind.text, some first.text) ∈ params)
    (other : (TierParam.kind.text, some second.text) ∈ params) : first = second := by
  have same := List.inj_on_of_nodup_map admitted.once named other rfl
  exact KindName.text_inj (Option.some.inj (Prod.mk.inj same).2)

theorem TierKind.names {outcome : TierOutcome} (named : TierKind outcome params (some kind)) :
    Names params .kind := by
  cases named with
  | library named => exact names_of_mem named
  | fsDax named => exact names_of_mem named

/-- The kind of a tier that names a kind of the library. -/
theorem TierKind.pointer {outcome : TierOutcome} {name : KindName}
    (admitted : AdmittedParams params) (made : TierKind outcome params (some kind))
    (library : name ≠ .fsDax) (named : (TierParam.kind.text, some name.text) ∈ params) :
    name.pointer = some kind := by
  cases made with
  | library other pointer => exact admitted.kind_unique named other ▸ pointer
  | fsDax other => exact absurd (admitted.kind_unique named other) library

theorem FilledBuilder.admitted (filled : FilledBuilder outcome text builder)
    (several : tierCount text ≠ 0)
    (dynamic : builder.policy = .dynamicThreshold → 2 ≤ builder.cfg.length) :
    AdmittedText text := by
  have entry : ∀ {i query}, ((queries text).take (tierCount text))[i]? = some query →
      ∃ tier, builder.cfg[i]? = some tier ∧ AdmittedTier (queryFields query) ∧
        TierKind (outcome.tier i) (queryFields query) (some tier.kind) := by
    intro i query found
    rw [List.getElem?_take] at found
    split at found
    · rename_i inside
      rw [← filled.length] at inside
      have position := List.getElem?_eq_getElem inside
      obtain ⟨other, -, -, same, admitted, kind, -⟩ := filled.tiers i _ position
      rw [found] at same
      obtain rfl := Option.some.inj same
      exact ⟨_, position, admitted, kind⟩
    · cases found
  refine ⟨several, ?_, ?_, ?_⟩
  · intro query member
    obtain ⟨i, found⟩ := List.mem_iff_getElem?.mp member
    obtain ⟨tier, -, admitted, kind⟩ := entry found
    exact ⟨admitted, kind.names⟩
  · rw [List.pairwise_iff_getElem]
    rintro i j inside bound before name library ⟨first, second⟩
    obtain ⟨tier, position, admitted, kind⟩ := entry (List.getElem?_eq_getElem inside)
    obtain ⟨other, otherPosition, otherAdmitted, otherKind⟩ := entry (List.getElem?_eq_getElem bound)
    have pointer := kind.pointer admitted.toAdmittedParams library first
    rw [otherKind.pointer otherAdmitted.toAdmittedParams library second] at pointer
    have same : (builder.cfg.map TierCfg.kind)[i]? = (builder.cfg.map TierCfg.kind)[j]? := by
      rw [List.getElem?_map, List.getElem?_map, position, otherPosition, Option.map_some,
        Option.map_some, pointer]
    have small : i < (builder.cfg.map TierCfg.kind).length := by
      rw [List.length_map]
      exact (List.getElem?_eq_some_iff.mp position).1
    exact Nat.ne_of_lt before ((List.getElem?_inj small filled.distinct).mp same)
  · obtain ⟨query, found, named⟩ := filled.policy
    exact ⟨query, builder.policy, found, named, fun policy => filled.length ▸ dynamic policy⟩

/-- The entries of a table in which no kind is missing. -/
theorem exists_kinds {cfg : List (Option KindPtr × BitVec 32)}
    (present : ∀ entry ∈ cfg, entry.1 ≠ none) :
    ∃ tiers : List (KindPtr × BitVec 32), cfg = tiers.map fun tier => (some tier.1, tier.2) := by
  induction cfg with
  | nil => exact ⟨[], rfl⟩
  | cons entry cfg ih =>
      obtain ⟨here, later⟩ := List.forall_mem_cons.mp present
      obtain ⟨tiers, rfl⟩ := ih later
      obtain ⟨kind, ratio⟩ := entry
      obtain ⟨kind, rfl⟩ := Option.ne_none_iff_exists'.mp here
      exact ⟨(kind, ratio) :: tiers, rfl⟩

/-- The kinds of the library are not pmem kinds, and their names differ. -/
theorem KindName.pointer_library {name : KindName} (pointer : name.pointer = some kind) :
    name ≠ .fsDax ∧ (∀ address, kind ≠ .heap address) ∧
      ∀ other : KindName, other.pointer = some kind → name = other := by
  cases name with
  | fsDax => cases pointer
  | dram =>
      obtain rfl := Option.some.inj pointer
      refine ⟨by decide, fun address same => ?_, fun other => ?_⟩
      · cases same
      · cases other <;> simp [KindName.pointer, memkindDefault, memkindDaxKmem]
  | kmemDax =>
      obtain rfl := Option.some.inj pointer
      refine ⟨by decide, fun address same => ?_, fun other => ?_⟩
      · cases same
      · cases other <;> simp [KindName.pointer, memkindDefault, memkindDaxKmem]

/-- Two tiers with the same kind name the same kind of the library. -/
theorem TierKind.shared (succeeds : outcome.Succeeds) {j : Nat} (before : i < j)
    (inside : j < maxEnvString) {first second : CString}
    (made : TierKind (outcome.tier i) (queryFields first) (some kind))
    (other : TierKind (outcome.tier j) (queryFields second) (some kind)) :
    ∃ name, name ≠ KindName.fsDax ∧ NamesTierKind first name ∧ NamesTierKind second name := by
  cases made with
  | library named pointer =>
      obtain ⟨library, notHeap, unique⟩ := KindName.pointer_library pointer
      cases other with
      | library otherNamed otherPointer =>
          exact ⟨_, library, named, unique _ otherPointer ▸ otherNamed⟩
      | fsDax _ _ created =>
          obtain ⟨address, made⟩ := (succeeds.tier j).created _ _
          exact absurd (Option.some.inj (created.symm.trans made)) (notHeap address)
  | fsDax _ _ created =>
      cases other with
      | library _ pointer =>
          obtain ⟨address, made⟩ := (succeeds.tier i).created _ _
          exact absurd (Option.some.inj (created.symm.trans made))
            ((KindName.pointer_library pointer).2.1 address)
      | fsDax _ _ otherCreated =>
          exact absurd (created.trans otherCreated.symm)
            (succeeds.different i j before inside _ _ _ _)

theorem tierCount_lt : tierCount text < maxEnvString := by
  have counted : tierCount text ≤ (copied text).length := List.count_le_length
  have cut : (copied text).length ≤ maxEnvString - 1 := List.length_take_le _ _
  unfold maxEnvString at cut ⊢
  omega

/-- The table that an admitted text fills: every tier has the kind of its query. -/
theorem AdmittedText.parsed (succeeds : outcome.Succeeds) (limits : LimitsSuffice outcome text)
    (admitted : AdmittedText text) :
    ∃ table, ∃ tiers : List (KindPtr × BitVec 32), parsedTiers outcome text = .accept table ∧
      table.tempCfg = tiers.map (fun tier => (some tier.1, tier.2)) ∧
      tiers.length = tierCount text ∧ ∀ i, (inside : i < tiers.length) →
        ∃ query, ((queries text).take (tierCount text))[i]? = some query ∧
          TierKind (outcome.tier i) (queryFields query) (some tiers[i].1) := by
  obtain ⟨query, policy, found, -⟩ := admitted.policy
  have enough := Nat.le_of_lt (List.getElem?_eq_some_iff.mp found).1
  obtain ⟨table, looped⟩ : ∃ table, parsedTiers outcome text = .accept table := by
    apply (Parsed.foldlM_accept_iff (ctlParseTier_accept_iff succeeds.tier)).mpr
    rw [loopTokens_of_le enough]
    intro qbuf member
    obtain ⟨query, inside, rfl⟩ := List.mem_map.mp member
    exact ⟨query, rfl, (admitted.tiers query inside).1⟩
  have count : table.tempCfg.length = tierCount text := by
    rw [(tempCfg_entries looped).1, loopTokens_of_le enough, List.length_map, List.length_take,
      Nat.min_eq_left enough]
  have entry : ∀ {i kind ratio}, table.tempCfg[i]? = some (kind, ratio) → ∃ query,
      ((queries text).take (tierCount text))[i]? = some query ∧
        TierKind (outcome.tier i) (queryFields query) kind := by
    intro i kind ratio position
    obtain ⟨query, -, place, -, made, -⟩ :=
      parsedTiers_entry succeeds limits enough looped position
    refine ⟨query, ?_, made⟩
    rw [List.getElem?_take_of_lt (count ▸ (List.getElem?_eq_some_iff.mp position).1)]
    exact place
  obtain ⟨tiers, tempCfg⟩ : ∃ tiers : List (KindPtr × BitVec 32),
      table.tempCfg = tiers.map fun tier => (some tier.1, tier.2) := by
    apply exists_kinds
    rintro ⟨kind, ratio⟩ member missing
    obtain ⟨i, position⟩ := List.mem_iff_getElem?.mp member
    obtain ⟨query, place, made⟩ := entry position
    obtain rfl : kind = none := missing
    cases made with
    | missing unnamed => exact unnamed (admitted.tiers query (List.mem_of_getElem? place)).2
  refine ⟨table, tiers, looped, tempCfg, ?_, fun i inside => @entry i _ tiers[i].2 ?_⟩
  · rw [← count, tempCfg, List.length_map]
  · rw [tempCfg, List.getElem?_map, List.getElem?_eq_getElem inside]
    rfl

/-- The builder is filled from a text that is admitted. -/
theorem AdmittedText.fills (succeeds : outcome.Succeeds) (limits : LimitsSuffice outcome text)
    (admitted : AdmittedText text) :
    ∃ builder, FillsBuilder outcome text builder ∧ builder.Untouched := by
  obtain ⟨query, policy, found, named, -⟩ := admitted.policy
  obtain ⟨table, tiers, looped, tempCfg, count, entry⟩ := admitted.parsed succeeds limits
  have different : (tiers.map Prod.fst).Nodup := by
    rw [List.nodup_iff_pairwise_ne, List.pairwise_map, List.pairwise_iff_getElem]
    intro i j inside bound before same
    obtain ⟨first, place, made⟩ := entry i inside
    obtain ⟨second, otherPlace, otherMade⟩ := entry j bound
    rw [← same] at otherMade
    have small : j < maxEnvString := Nat.lt_trans (count ▸ bound) tierCount_lt
    obtain ⟨name, library, shared⟩ := made.shared succeeds before small otherMade
    obtain ⟨placeInside, rfl⟩ := List.getElem?_eq_some_iff.mp place
    obtain ⟨otherInside, rfl⟩ := List.getElem?_eq_some_iff.mp otherPlace
    exact List.pairwise_iff_getElem.mp admitted.distinct i j placeInside otherInside before name
      library shared
  obtain ⟨noTiers, -⟩ := memtierBuilderNew_fields policy
  obtain ⟨builder, added, untouched⟩ := @ctlAddTiers_granted 0 _ _ succeeds.addTier tiers
    (memtierBuilderNew_untouched policy) (by rwa [noTiers])
  refine ⟨builder, ⟨table, looped, ?_⟩, untouched⟩
  have policyFound : (policyQuery text).1 = some query := by
    rw [policyQuery, nextToken_afterTokens]
    exact found
  have parsed : ctlParsePolicy policy.text = some policy := BuilderPolicy.keyword_iff.mpr rfl
  unfold ctlFillBuilder
  rw [policyFound, Option.getD_some, named]
  dsimp only
  rw [if_neg (not_not.mpr rfl), parsed, succeeds.builder, tempCfg]
  exact added

/-- A memory is returned exactly for the texts that are admitted. -/
theorem exists_memory_iff (succeeds : outcome.Succeeds) (limits : LimitsSuffice outcome text) :
    (∃ memory, ctlCreateTierMemoryFromEnv outcome text none = .memory memory) ↔
      AdmittedText text := by
  simp only [ctlCreateTierMemoryFromEnv_none_eq_memory]
  constructor
  · rintro ⟨memory, -, several, builder, fills, made⟩
    refine (fills.filled succeeds limits).admitted several fun dynamic => ?_
    rw [memtierBuilderConstructMemtierMemory, dynamic] at made
    exact (builderDynamicCreateMemory_eq_some made).1
  · intro admitted
    obtain ⟨builder, fills, untouched⟩ := admitted.fills succeeds limits
    have filled := fills.filled succeeds limits
    obtain ⟨query, policy, found, named, dynamic⟩ := admitted.policy
    have samePolicy : builder.policy = policy := by
      obtain ⟨other, otherFound, otherNamed⟩ := filled.policy
      rw [found] at otherFound
      obtain rfl := Option.some.inj otherFound
      rw [named] at otherNamed
      exact (BuilderPolicy.text_inj (Prod.mk.inj otherNamed).2).symm
    have several : builder.cfg.length ≠ 0 := filled.length ▸ admitted.several
    have small : builder.cfg.length ≤ 2 ^ 22 := by
      have bound := @tierCount_lt text
      rw [← filled.length] at bound
      unfold maxEnvString at bound
      omega
    rw [← samePolicy, ← filled.length] at dynamic
    obtain ⟨memory, made⟩ := untouched.construct several dynamic small
    refine ⟨memory, ?_, admitted.several, builder, fills, succeeds.memory ▸ made⟩
    exact List.ne_nil_of_mem (List.mem_of_getElem? found)

end Text

end Memkind
