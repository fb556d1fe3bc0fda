/-
This file compares the tiers that the command `memtier` asks for with those that `ctl.c` makes.
-/

import Mathlib.Data.Nat.Digits.Defs
import Memkind.Construction.MemtierTool
import Memkind.Proof.Ctl.Language

namespace Memkind

open Library

/-- `KIND:name,RATIO:ratio` -/
def libraryTier (tier : KindName × Nat) : DocumentedTier where
  params := [(TierParam.kind.text, tier.1.text),
    (TierParam.ratio.text, Nat.toDigits 10 tier.2)]
  name := tier.1
  ratio := tier.2

section Tier

variable (tier : KindName × Nat)

theorem not_mem_toDigits {char : Char} {number : Nat} (other : char.isDigit = false) :
    char ∉ Nat.toDigits 10 number := by
  intro member
  rw [Nat.isDigit_of_mem_toDigits (by decide) (by decide) member] at other
  cases other

theorem libraryTier_written : (libraryTier tier).Written where
  present := List.cons_ne_nil _ _
  names := by
    intro param member
    obtain rfl | rfl := List.mem_pair.mp member
    · exact ⟨.kind, rfl⟩
    · exact ⟨.ratio, rfl⟩
  once := (by decide : [TierParam.kind.text, TierParam.ratio.text].Nodup)
  values := by
    intro param member
    obtain rfl | rfl := List.mem_pair.mp member
    · change tier.1.text ≠ [] ∧ _ ∉ tier.1.text ∧ _ ∉ tier.1.text
      cases tier.1 <;> decide
    · exact ⟨Nat.toDigits_ne_nil, not_mem_toDigits rfl, not_mem_toDigits rfl⟩

theorem libraryTier_text : (libraryTier tier).text =
    (TierParam.kind.text ++ ctlValueSeparator :: (tier.1.text ++ ctlParamSeparator ::
      (TierParam.ratio.text ++ [ctlValueSeparator]))) ++ Nat.toDigits 10 tier.2 := by
  simp only [DocumentedTier.text, libraryTier, paramText, List.map_cons, List.map_nil,
    List.intercalate_cons_cons, List.intercalate_singleton, List.append_assoc, List.cons_append,
    List.nil_append]

theorem libraryTier_fields : queryFields (libraryTier tier).text =
    [(TierParam.kind.text, some tier.1.text),
      (TierParam.ratio.text, some (Nat.toDigits 10 tier.2))] :=
  (libraryTier_written tier).queryFields_text

variable {tier}

theorem libraryTier_not_fsDax (library : tier.1 ≠ .fsDax) :
    ¬ NamesTierKind (libraryTier tier).text .fsDax := by
  rw [NamesTierKind, libraryTier_fields, List.mem_pair]
  rintro (same | same)
  · have text : tier.1.text = KindName.fsDax.text := (Option.some.inj (Prod.mk.inj same).2).symm
    revert library text
    cases tier.1 <;> decide
  · exact absurd (Prod.mk.inj same).1 (by decide)

variable (positive : 0 < tier.2)

include positive

/-- The digits of a number have no zero in front. -/
theorem readsRatio_toDigits {ratio : Nat} :
    ReadsRatio (Nat.toDigits 10 tier.2) ratio ↔ ratio = tier.2 ∧ tier.2 ≤ uintMax := by
  have digits : ∀ digit ∈ Nat.toDigits 10 tier.2, digit.isDigit := fun digit member =>
    Nat.isDigit_of_mem_toDigits (by decide) (by decide) member
  have value : selectedValue (Nat.toDigits 10 tier.2) = tier.2 := by
    rw [selectedValue, if_neg (head_toDigits positive), numeralValue_ten digits,
      Nat.ofDigitChars_ten_toDigits]
  rw [readsRatio_digits Nat.toDigits_ne_nil digits, value]
  constructor
  · rintro ⟨rfl, -, range⟩
    exact ⟨rfl, range⟩
  · rintro ⟨rfl, range⟩
    exact ⟨rfl, positive, range⟩

/-- The tier is accepted exactly when its ratio fits into `unsigned`. -/
theorem libraryTier_admitted_iff (library : tier.1 ≠ .fsDax) :
    AdmittedTier (queryFields (libraryTier tier).text) ↔ tier.2 ≤ uintMax := by
  have fsDax := libraryTier_not_fsDax library
  rw [NamesTierKind, libraryTier_fields] at fsDax
  rw [libraryTier_fields]
  constructor
  · intro admitted
    obtain ⟨text, ratio, same, read⟩ := admitted.ratio _ (List.mem_cons_of_mem _ List.mem_cons_self)
    obtain rfl := Option.some.inj same
    exact ((readsRatio_toDigits positive).mp read).2
  · intro range
    exact
      { known := by
          intro param member
          obtain rfl | rfl := List.mem_pair.mp member
          · exact ⟨.kind, rfl⟩
          · exact ⟨.ratio, rfl⟩
        once := (by decide : [TierParam.kind.text, TierParam.ratio.text].Nodup)
        kind := fun value member => ⟨tier.1, by simpa using member⟩
        path := fun value member => by simp at member
        ratio := fun value member =>
          ⟨_, _, by simpa using member, (readsRatio_toDigits positive).mpr ⟨rfl, range⟩⟩
        hasRatio := List.mem_cons_of_mem _ List.mem_cons_self
        place := by
          rw [if_neg fsDax]
          exact (by decide : TierParam.path.text ∉ [TierParam.kind.text, TierParam.ratio.text] ∧
            TierParam.pmemSizeLimit.text ∉ [TierParam.kind.text, TierParam.ratio.text]) }

end Tier

section Text

variable {tiers : List (KindName × Nat)} {policy : BuilderPolicy}
  (library : ∀ tier ∈ tiers, tier.1 ≠ KindName.fsDax ∧ 0 < tier.2)
  (short : (tiersText (tiers.map libraryTier) policy).length ≤ maxEnvString - 1)

theorem libraryTiers_written : ∀ tier ∈ tiers.map libraryTier, tier.Written := by
  intro tier member
  obtain ⟨named, -, rfl⟩ := List.mem_map.mp member
  exact libraryTier_written named

include library short

/-- A text with different kinds of the library is accepted exactly when its ratios fit into
`unsigned`. -/
theorem libraryText_admitted_iff (present : tiers ≠ []) (distinct : (tiers.map Prod.fst).Nodup)
    (several : policy = .dynamicThreshold → 2 ≤ tiers.length) :
    AdmittedText (tiersText (tiers.map libraryTier) policy) ↔ ∀ tier ∈ tiers, tier.2 ≤ uintMax := by
  obtain ⟨found, count⟩ := tiersText_queries libraryTiers_written short
  rw [List.length_map] at count
  have taken : (queries (tiersText (tiers.map libraryTier) policy)).take
      (tierCount (tiersText (tiers.map libraryTier) policy)) =
        tiers.map fun tier => (libraryTier tier).text := by
    rw [found, count, List.take_left' (by simp), List.map_map]
    rfl
  constructor
  · intro admitted tier member
    refine (libraryTier_admitted_iff (library tier member).2 (library tier member).1).mp ?_
    refine (admitted.tiers _ ?_).1
    rw [taken]
    exact List.mem_map_of_mem (f := fun tier => (libraryTier tier).text) member
  · intro range
    refine ⟨?_, ?_, ?_, policyText policy, policy, ?_, policy.nextToken_policyText, ?_⟩
    · rw [count]
      simpa using present
    · rw [taken]
      intro query member
      obtain ⟨tier, inside, rfl⟩ := List.mem_map.mp member
      obtain ⟨notFsDax, positive⟩ := library tier inside
      refine ⟨(libraryTier_admitted_iff positive notFsDax).mpr (range tier inside), ?_⟩
      rw [libraryTier_fields]
      exact List.mem_cons_self
    · rw [taken, List.pairwise_map]
      rw [List.nodup_iff_pairwise_ne, List.pairwise_map] at distinct
      apply distinct.imp
      rintro first second different name - ⟨firstNames, secondNames⟩
      rw [NamesTierKind, libraryTier_fields] at firstNames secondNames
      have same : first.1.text = second.1.text := by
        simp only [List.mem_cons, Prod.mk.injEq, true_and, Option.some.injEq, TierParam.text_inj,
          reduceCtorEq, false_and, List.not_mem_nil, or_false] at firstNames secondNames
        rw [← firstNames, ← secondNames]
      exact different (KindName.text_inj same)
    · rw [found, count, List.getElem?_append_right (by simp)]
      simp
    · rw [count]
      exact several

theorem libraryText_limits {outcome : CtlOutcome} :
    LimitsSuffice outcome (tiersText (tiers.map libraryTier) policy) := by
  apply limitsSuffice_of_library
  rw [(tiersText_queries libraryTiers_written short).1]
  intro query member
  obtain member | last := List.mem_append.mp member
  · obtain ⟨_, written, rfl⟩ := List.mem_map.mp member
    obtain ⟨tier, inside, rfl⟩ := List.mem_map.mp written
    exact libraryTier_not_fsDax (library tier inside).1
  · rw [List.mem_singleton.mp last]
    cases policy <;> decide +kernel

/-- The builder gets the kinds, and the ratios as `float`. -/
theorem libraryText_filled {outcome : CtlOutcome} {builder : MemtierBuilder}
    (filled : FilledBuilder outcome (tiersText (tiers.map libraryTier) policy) builder) :
    builder.cfg = tiers.map fun tier =>
      ⟨tier.1.pointer.getD memkindDefault, .ofUnsigned tier.2⟩ := by
  obtain ⟨-, count⟩ := tiersText_queries libraryTiers_written short
  rw [List.length_map] at count
  have length : builder.cfg.length = tiers.length := filled.length.trans count
  apply List.ext_getElem
  · rw [length, List.length_map]
  · intro i inside bound
    have small : i < tiers.length := length ▸ inside
    obtain ⟨query, value, ratio, place, admitted, made, member, read, stored⟩ :=
      filled.tiers i _ (List.getElem?_eq_getElem inside)
    have position : (tiers.map libraryTier)[i]? = some (libraryTier tiers[i]) := by
      rw [List.getElem?_map, List.getElem?_eq_getElem small]
      rfl
    rw [tiersText_getElem? libraryTiers_written short position] at place
    obtain rfl := Option.some.inj place
    obtain ⟨notFsDax, positive⟩ := library _ (List.getElem_mem small)
    have fields := libraryTier_fields tiers[i]
    have pointer := made.pointer admitted.toAdmittedParams notFsDax
      (fields ▸ List.mem_cons_self)
    rw [fields] at member
    have digits : value = Nat.toDigits 10 tiers[i].2 := by simpa using member
    rw [digits, readsRatio_toDigits positive] at read
    rw [List.getElem_map, pointer, Option.getD_some, ← read.1, ← stored]

end Text

section Tool

/-- One tier for every ratio that is not zero. -/
def Ratio.tiers (ratio : Ratio) : List TierCfg :=
  ([(memkindDefault, ratio.dram), (memkindDaxKmem, ratio.kmemDax)].filter (·.2 ≠ 0)).map
    fun tier => ⟨tier.1, .ofNat tier.2.toNat⟩

/-- The tiers of the string. A single tier gets the ratio 1. -/
def Ratio.asked (ratio : Ratio) : List (KindName × Nat) :=
  if ratio.kmemDax = 0 then [(.dram, 1)]
  else if ratio.dram = 0 then [(.kmemDax, 1)]
  else [(.dram, ratio.dram.toNat), (.kmemDax, ratio.kmemDax.toNat)]

/-- The policy of the string. -/
def Ratio.policy (ratio : Ratio) (thresh : Option CString) : BuilderPolicy :=
  if ratio.kmemDax = 0 ∨ ratio.dram = 0 ∨ thresh = none then .staticRatio else .dynamicThreshold

theorem toNat_pos {word : BitVec 64} (nonzero : word ≠ 0) : 0 < word.toNat := by
  rw [Nat.pos_iff_ne_zero]
  intro zero
  exact nonzero (BitVec.eq_of_toNat_eq zero)

/-- The three forms of the string. -/
theorem Ratio.cases (ratio : Ratio) (nonzero : ¬ (ratio.dram = 0 ∧ ratio.kmemDax = 0))
    (thresh : Option CString) :
    (ratio.kmemDax = 0 ∧ ratio.asked = [(.dram, 1)] ∧ ratio.policy thresh = .staticRatio ∧
      ratio.tiers = [⟨memkindDefault, .ofNat ratio.dram.toNat⟩]) ∨
    (ratio.dram = 0 ∧ ratio.asked = [(.kmemDax, 1)] ∧ ratio.policy thresh = .staticRatio ∧
      ratio.tiers = [⟨memkindDaxKmem, .ofNat ratio.kmemDax.toNat⟩]) ∨
    (ratio.dram ≠ 0 ∧ ratio.kmemDax ≠ 0 ∧
      ratio.asked = [(.dram, ratio.dram.toNat), (.kmemDax, ratio.kmemDax.toNat)] ∧
      ratio.tiers = [⟨memkindDefault, .ofNat ratio.dram.toNat⟩,
        ⟨memkindDaxKmem, .ofNat ratio.kmemDax.toNat⟩]) := by
  by_cases kmemDax : ratio.kmemDax = 0
  · have dram : ratio.dram ≠ 0 := fun dram => nonzero ⟨dram, kmemDax⟩
    refine .inl ⟨kmemDax, if_pos kmemDax, if_pos (.inl kmemDax), ?_⟩
    rw [tiers, List.filter_cons_of_pos (by simpa using dram),
      List.filter_cons_of_neg (by simpa using kmemDax), List.filter_nil]
    rfl
  · by_cases dram : ratio.dram = 0
    · refine .inr (.inl ⟨dram, (if_neg kmemDax).trans (if_pos dram), if_pos (.inr (.inl dram)), ?_⟩)
      rw [tiers, List.filter_cons_of_neg (by simpa using dram),
        List.filter_cons_of_pos (by simpa using kmemDax), List.filter_nil]
      rfl
    · refine .inr (.inr ⟨dram, kmemDax, (if_neg kmemDax).trans (if_neg dram), ?_⟩)
      rw [tiers, List.filter_cons_of_pos (by simpa using dram),
        List.filter_cons_of_pos (by simpa using kmemDax), List.filter_nil]
      rfl

theorem memkindMemTiers_eq {ratio : Ratio} (nonzero : ¬ (ratio.dram = 0 ∧ ratio.kmemDax = 0))
    (thresh : Option CString) :
    memkindMemTiers ratio thresh =
      tiersText (ratio.asked.map libraryTier) (ratio.policy thresh) := by
  obtain ⟨zero, asked, policy, -⟩ | ⟨zero, asked, policy, -⟩ | ⟨dram, kmemDax, asked, -⟩ :=
    ratio.cases nonzero thresh
  · rw [memkindMemTiers, if_pos zero, asked, policy]
    decide +kernel
  · have nonzero : ratio.kmemDax ≠ 0 := fun kmemDax => nonzero ⟨zero, kmemDax⟩
    rw [memkindMemTiers, if_neg nonzero, if_pos zero, asked, policy]
    decide +kernel
  · have policy : (if thresh.isSome then "DYNAMIC_THRESHOLD".toList else "STATIC_RATIO".toList) =
        (ratio.policy thresh).text := by
      cases thresh with
      | none =>
          have static : ratio.policy none = .staticRatio := if_pos (.inr (.inr rfl))
          rw [static]
          rfl
      | some thresh =>
          have dynamic : ratio.policy (some thresh) = .dynamicThreshold :=
            if_neg (by rintro (zero | zero | missing) <;> contradiction)
          rw [dynamic]
          rfl
    rw [memkindMemTiers, if_neg kmemDax, if_neg dram, policy, asked]
    simp only [tiersText, List.map_cons, List.map_nil, List.cons_append, List.nil_append,
      List.intercalate_cons_cons, List.intercalate_singleton, libraryTier_text, List.append_assoc]
    rfl

/-- The tiers of the string are of different kinds of the library. -/
theorem Ratio.asked_library {ratio : Ratio} (nonzero : ¬ (ratio.dram = 0 ∧ ratio.kmemDax = 0))
    (thresh : Option CString) :
    (∀ tier ∈ ratio.asked, tier.1 ≠ KindName.fsDax ∧ 0 < tier.2) ∧ ratio.asked ≠ [] ∧
      (ratio.asked.map Prod.fst).Nodup ∧
      (ratio.policy thresh = .dynamicThreshold → 2 ≤ ratio.asked.length) := by
  obtain ⟨-, asked, policy, -⟩ | ⟨-, asked, policy, -⟩ | ⟨dram, kmemDax, asked, -⟩ :=
    ratio.cases nonzero thresh
  · simp [asked, policy]
  · simp [asked, policy]
  · simp [asked, toNat_pos dram, toNat_pos kmemDax]

/-- The string of `memtier` is not cut. -/
theorem memkindMemTiers_short (ratio : Ratio) (thresh : Option CString) :
    (memkindMemTiers ratio thresh).length ≤ maxEnvString - 1 := by
  have digits : ∀ word : BitVec 64, (Nat.toDigits 10 word.toNat).length ≤ 20 := by
    intro word
    apply Nat.toDigits_length 10 _ 20 (by decide)
    exact Nat.lt_trans word.isLt (by decide)
  have dram := digits ratio.dram
  have kmemDax := digits ratio.kmemDax
  unfold memkindMemTiers
  split
  · decide
  · split
    · decide
    · have first : "KIND:DRAM,RATIO:".toList.length = 16 := rfl
      have second : ";KIND:KMEM_DAX,RATIO:".toList.length = 21 := rfl
      have last : ";POLICY:".toList.length = 8 := rfl
      have policy : (if thresh.isSome then "DYNAMIC_THRESHOLD".toList
          else "STATIC_RATIO".toList).length ≤ 17 := by
        cases thresh.isSome <;> decide
      simp only [List.length_append, first, second, last, maxEnvString]
      omega

/-- What `memtier` puts into the environment. -/
theorem memtierMain_ok {guess : Except MemtierExit Ratio} {options : List MemtierOption}
    {hasCommand : Bool} {env : MemtierEnv}
    (accepted : memtierMain guess options hasCommand = .ok env) :
    (∃ thresh, env.memTiers = memkindMemTiers env.ratio thresh) ∧
      ¬ (env.ratio.dram = 0 ∧ env.ratio.kmemDax = 0) := by
  unfold memtierMain at accepted
  cases parsed : options.foldlM memtierOption {} with
  | error ended =>
      rw [parsed] at accepted
      cases accepted
  | ok args =>
      rw [parsed] at accepted
      change (args.ratio.elim guess .ok >>= fun ratio =>
        memtierSetEnv ratio args.thresh hasCommand) = .ok env at accepted
      cases chosen : args.ratio.elim guess .ok with
      | error ended =>
          rw [chosen] at accepted
          cases accepted
      | ok ratio =>
          rw [chosen] at accepted
          change memtierSetEnv ratio args.thresh hasCommand = .ok env at accepted
          unfold memtierSetEnv at accepted
          split at accepted
          · cases accepted
          · rename_i nonzero
            split at accepted
            · cases accepted
            · split at accepted
              · cases accepted
              · obtain rfl := Except.ok.inj accepted
                exact ⟨⟨args.thresh, rfl⟩, nonzero⟩

/-- The library makes a memory from the string. Its builder has one tier for every ratio that is not
zero, and two tiers have exactly these ratios. -/
structure MemtierEnv.Agrees (outcome : CtlOutcome) (env : MemtierEnv) (memory : MemtierMemory)
    (builder : MemtierBuilder) : Prop where
  returned : ctlCreateTierMemoryFromEnv outcome env.memTiers none = .memory memory
  filled : FillsBuilder outcome env.memTiers builder
  memory : memory.cfg = memoryTiers builder.cfg
  kinds : builder.cfg.map TierCfg.kind = env.ratio.tiers.map TierCfg.kind
  ratios : env.ratio.dram ≠ 0 → env.ratio.kmemDax ≠ 0 → builder.cfg = env.ratio.tiers

/-- The tiers of `memtier` are those that the library makes from its string, exactly when one ratio
is zero or both fit into `unsigned` and are kept as `float`. -/
theorem memtierMain_agrees_iff (outcome : CtlOutcome) (succeeds : outcome.Succeeds)
    (guess : Except MemtierExit Ratio) (options : List MemtierOption) (hasCommand : Bool)
    (env : MemtierEnv) (accepted : memtierMain guess options hasCommand = .ok env) :
    (∃ memory builder, env.Agrees outcome memory builder) ↔
      env.ratio.dram = 0 ∨ env.ratio.kmemDax = 0 ∨
        (env.ratio.dram.toNat ≤ uintMax ∧ singleUnit env.ratio.dram.toNat ∣ env.ratio.dram.toNat) ∧
        env.ratio.kmemDax.toNat ≤ uintMax ∧
          singleUnit env.ratio.kmemDax.toNat ∣ env.ratio.kmemDax.toNat := by
  obtain ⟨⟨thresh, tiersOf⟩, nonzero⟩ := memtierMain_ok accepted
  have short := memkindMemTiers_short env.ratio thresh
  rw [memkindMemTiers_eq nonzero] at tiersOf short
  obtain ⟨library, present, distinct, several⟩ := Ratio.asked_library nonzero thresh
  have limits : LimitsSuffice outcome env.memTiers := tiersOf ▸ libraryText_limits library short
  have returns := exists_memory_iff succeeds limits
  rw [tiersOf, libraryText_admitted_iff library short present distinct several, ← tiersOf] at returns
  have cfg : ∀ builder, FillsBuilder outcome env.memTiers builder → builder.cfg =
      env.ratio.asked.map fun tier =>
        ⟨tier.1.pointer.getD memkindDefault, .ofUnsigned tier.2⟩ := fun builder fills =>
    libraryText_filled library short (tiersOf ▸ fills.filled succeeds limits)
  have agrees_iff : (∃ memory builder, env.Agrees outcome memory builder) ↔
      (∀ tier ∈ env.ratio.asked, tier.2 ≤ uintMax) ∧
      (env.ratio.asked.map fun tier => tier.1.pointer.getD memkindDefault) =
        env.ratio.tiers.map TierCfg.kind ∧
      (env.ratio.dram ≠ 0 → env.ratio.kmemDax ≠ 0 → (env.ratio.asked.map fun tier =>
        TierCfg.mk (tier.1.pointer.getD memkindDefault) (.ofUnsigned tier.2)) =
          env.ratio.tiers) := by
    rw [← returns]
    constructor
    · rintro ⟨memory, builder, agrees⟩
      have kinds := agrees.kinds
      have ratios := agrees.ratios
      rw [cfg builder agrees.filled] at kinds ratios
      rw [List.map_map] at kinds
      exact ⟨⟨memory, agrees.returned⟩, kinds, ratios⟩
    · rintro ⟨⟨memory, returned⟩, kinds, ratios⟩
      obtain ⟨-, -, builder, fills, made⟩ := ctlCreateTierMemoryFromEnv_none_eq_memory.mp returned
      refine ⟨memory, builder, returned, fills, ?_, ?_, ?_⟩
      · exact (memtierBuilderConstructMemtierMemory_tiers made).1
      · rw [cfg builder fills, List.map_map]
        exact kinds
      · rw [cfg builder fills]
        exact ratios
  rw [agrees_iff]
  obtain ⟨zero, asked, -, tiers⟩ | ⟨zero, asked, -, tiers⟩ | ⟨dram, kmemDax, asked, tiers⟩ :=
    env.ratio.cases nonzero thresh
  · simp [asked, tiers, zero, KindName.pointer, uintMax]
  · simp [asked, tiers, zero, KindName.pointer, uintMax]
  · rw [forall_prop_of_true dram, forall_prop_of_true kmemDax, or_iff_right dram,
      or_iff_right kmemDax]
    simp [asked, tiers, KindName.pointer, ExactFloat.ofUnsigned, roundSingle_eq_self, and_assoc,
      and_left_comm]

/-- What `memtier` sets for the ratio `1:3`. -/
def oneToThree : MemtierEnv where
  ratio := ⟨1, 3⟩
  memTiers := "KIND:DRAM,RATIO:1;KIND:KMEM_DAX,RATIO:3;POLICY:STATIC_RATIO".toList
  memThresholds := none

theorem oneToThree_agrees :
    memtierMain (.error .noKmemDax) [.ratio "1:3".toList] true = .ok oneToThree ∧
      ∃ memory builder, oneToThree.Agrees everyCallSucceeds memory builder := by
  have set : memtierMain (.error .noKmemDax) [.ratio "1:3".toList] true = .ok oneToThree := by
    decide +kernel
  refine ⟨set, ?_⟩
  exact (memtierMain_agrees_iff _ everyCallSucceeds_succeeds _ _ _ _ set).mpr (by decide)

/-- What `memtier` sets for a ratio that does not fit into `unsigned`. -/
def hugeRatio : MemtierEnv where
  ratio := ⟨4294967296, 1⟩
  memTiers := "KIND:DRAM,RATIO:4294967296;KIND:KMEM_DAX,RATIO:1;POLICY:STATIC_RATIO".toList
  memThresholds := none

theorem hugeRatio_rejected :
    memtierMain (.error .noKmemDax) [.ratio "4294967296:1".toList] true = .ok hugeRatio ∧
      ¬ ∃ memory, ctlCreateTierMemoryFromEnv everyCallSucceeds hugeRatio.memTiers none =
        .memory memory := by
  constructor
  · decide +kernel
  · decide +kernel

end Tool

end Memkind
