/-
This file takes `ctl_create_tier_memory_from_env` apart into its tokens.
-/

import Memkind.Construction.Ctl
import Memkind.Proof.Ctl.Params
import Memkind.Proof.Tiering.Builder

namespace Memkind

open Library

variable {i : Nat} {adds : Nat → AddTierOutcome} {builder : MemtierBuilder}

/-- The copy of an environment variable. -/
abbrev copied (envVarString : CString) : CString := envVarString.take (maxEnvString - 1)

/-- The value of `tier_count`. -/
abbrev tierCount (envVarString : CString) : Nat :=
  (copied envVarString).count ctlStringQuerySeparator

abbrev queries (envVarString : CString) : List CString :=
  tokens ctlStringQuerySeparator (copied envVarString)

/-- The loop over the tiers. -/
abbrev parsedTiers (outcome : CtlOutcome) (envVarString : CString) :
    Parsed FsDaxRegistry TierTable :=
  (loopTokens (tierCount envVarString) (queries envVarString)).foldlM (ctlParseTier outcome.tier)
    ⟨[], []⟩

/-- The query after the loop, with the saved pointer. -/
abbrev policyQuery (envVarString : CString) : Option CString × CString :=
  nextToken ctlStringQuerySeparator
    (afterTokens ctlStringQuerySeparator (tierCount envVarString) (copied envVarString))

section Create

variable {outcome : CtlOutcome} {envVarString : CString} {thresholds : Option CString}

/-- `ctl_create_tier_memory_from_env` with at least one tier. -/
theorem ctlCreateTierMemoryFromEnv_of_tiers (present : queries envVarString ≠ [])
    (several : tierCount envVarString ≠ 0) :
    ctlCreateTierMemoryFromEnv outcome envVarString thresholds =
      match parsedTiers outcome envVarString with
      | .crash => .crash
      | .reject registry => ctlDestroyFsDaxReg registry
      | .accept table =>
          match ctlBuildMemory outcome (tierCount envVarString) thresholds table
              (policyQuery envVarString) with
          | .crash => .crash
          | .reject () => ctlDestroyFsDaxReg table.registry
          | .accept memory => .memory memory := by
  have found : (nextToken ctlStringQuerySeparator (copied envVarString)).1 ≠ none := by
    rw [← head_tokens]
    simpa using present
  have counted : ¬ tierCount envVarString + 1 < 2 := by
    have positive := Nat.pos_of_ne_zero several
    omega
  unfold ctlCreateTierMemoryFromEnv
  dsimp only
  rw [if_neg found, if_neg counted, tokenLoop_eq]
  cases looped : parsedTiers outcome envVarString with
  | crash =>
      rw [parsedTiers] at looped
      rw [looped]
      rfl
  | reject registry =>
      rw [parsedTiers] at looped
      rw [looped]
      rfl
  | accept table =>
      rw [parsedTiers] at looped
      rw [looped]
      rfl

theorem ctlCreateTierMemoryFromEnv_of_no_tiers
    (none : queries envVarString = [] ∨ tierCount envVarString = 0) :
    ctlCreateTierMemoryFromEnv outcome envVarString thresholds = .null [] := by
  unfold ctlCreateTierMemoryFromEnv
  dsimp only
  by_cases empty : (nextToken ctlStringQuerySeparator (copied envVarString)).1 = Option.none
  · rw [if_pos empty]
  · have present : queries envVarString ≠ [] := by
      rw [← head_tokens] at empty
      simpa using empty
    have single : tierCount envVarString + 1 < 2 := by
      rw [none.resolve_left present]
      decide
    rw [if_neg empty, if_pos single]

/-- When `ctl_create_tier_memory_from_env` returns a memory. -/
theorem ctlCreateTierMemoryFromEnv_eq_memory {memory : MemtierMemory} :
    ctlCreateTierMemoryFromEnv outcome envVarString thresholds = .memory memory ↔
      queries envVarString ≠ [] ∧ tierCount envVarString ≠ 0 ∧
      ∃ table, parsedTiers outcome envVarString = .accept table ∧
        ctlBuildMemory outcome (tierCount envVarString) thresholds table
          (policyQuery envVarString) = .accept memory := by
  have notDestroyed : ∀ registry, ctlDestroyFsDaxReg registry ≠ .memory memory := by
    intro registry
    unfold ctlDestroyFsDaxReg
    split <;> nofun
  by_cases tiers : queries envVarString = [] ∨ tierCount envVarString = 0
  · rw [ctlCreateTierMemoryFromEnv_of_no_tiers tiers]
    simp only [reduceCtorEq, false_iff]
    rintro ⟨present, several, -⟩
    exact tiers.elim present several
  · rw [not_or] at tiers
    rw [ctlCreateTierMemoryFromEnv_of_tiers tiers.1 tiers.2]
    cases parsedTiers outcome envVarString with
    | crash => simp
    | reject registry => simp [notDestroyed]
    | accept table =>
        cases built : ctlBuildMemory outcome (tierCount envVarString) thresholds table
            (policyQuery envVarString) <;> simp [tiers, notDestroyed, built]

/-- When `ctl_create_tier_memory_from_env` uses an invalid pointer. -/
theorem ctlCreateTierMemoryFromEnv_eq_crash :
    ctlCreateTierMemoryFromEnv outcome envVarString thresholds = .crash ↔
      queries envVarString ≠ [] ∧ tierCount envVarString ≠ 0 ∧
      (parsedTiers outcome envVarString = .crash ∨
        (∃ registry, parsedTiers outcome envVarString = .reject registry ∧ none ∈ registry) ∨
        ∃ table, parsedTiers outcome envVarString = .accept table ∧
          (ctlBuildMemory outcome (tierCount envVarString) thresholds table
              (policyQuery envVarString) = .crash ∨
            ctlBuildMemory outcome (tierCount envVarString) thresholds table
              (policyQuery envVarString) = .reject () ∧ none ∈ table.registry)) := by
  have destroyed : ∀ registry, ctlDestroyFsDaxReg registry = .crash ↔ none ∈ registry := by
    intro registry
    unfold ctlDestroyFsDaxReg
    split <;> simp_all
  by_cases tiers : queries envVarString = [] ∨ tierCount envVarString = 0
  · rw [ctlCreateTierMemoryFromEnv_of_no_tiers tiers]
    simp only [reduceCtorEq, false_iff]
    rintro ⟨present, several, -⟩
    exact tiers.elim present several
  · rw [not_or] at tiers
    rw [ctlCreateTierMemoryFromEnv_of_tiers tiers.1 tiers.2]
    cases parsedTiers outcome envVarString with
    | crash => simp [tiers]
    | reject registry => simp [tiers, destroyed]
    | accept table =>
        cases built : ctlBuildMemory outcome (tierCount envVarString) thresholds table
            (policyQuery envVarString) <;> simp [tiers, destroyed, built]

end Create

section Build

variable {outcome : CtlOutcome} {table : TierTable} {query : Option CString × CString}

theorem ctlAddTiers_ne_crash {cfg : List (Option KindPtr × BitVec 32)} :
    ctlAddTiers adds cfg i builder ≠ .crash := by
  induction cfg generalizing i builder with
  | nil => nofun
  | cons tier rest ih =>
      rw [ctlAddTiers]
      split
      · nofun
      · exact ih

theorem ctlFillBuilder_ne_crash : ctlFillBuilder outcome table query ≠ .crash := by
  unfold ctlFillBuilder
  dsimp only
  split
  · nofun
  · split
    · nofun
    · split
      · nofun
      · exact ctlAddTiers_ne_crash

/-- The builder is filled only after a policy query. -/
theorem ctlFillBuilder_policy {table : TierTable} {query : Option CString × CString}
    (filled : ctlFillBuilder outcome table query = .accept builder) :
    ∃ policy : BuilderPolicy, nextToken ctlValueSeparator (query.1.getD query.2) =
        (some "POLICY".toList, policy.text) ∧
      ctlAddTiers outcome.addTier table.tempCfg 0 (memtierBuilderNew policy) = .accept builder := by
  unfold ctlFillBuilder at filled
  dsimp only at filled
  split at filled
  · cases filled
  · rename_i named
    rw [not_not] at named
    split at filled
    · cases filled
    · rename_i policy parsed
      split at filled
      · cases filled
      · refine ⟨policy, Prod.ext named ?_, filled⟩
        exact (BuilderPolicy.keyword_iff.mp parsed).symm

/-- The builder gets the tiers of the table in their order. Each has a kind, and their kinds are
different. -/
theorem ctlAddTiers_accepted {cfg : List (Option KindPtr × BitVec 32)} {final : MemtierBuilder}
    (accepted : ctlAddTiers adds cfg i builder = .accept final)
    (different : (builder.cfg.map TierCfg.kind).Nodup) :
    ∃ tiers : List (KindPtr × BitVec 32), cfg = tiers.map (fun tier => (some tier.1, tier.2)) ∧
      final.cfg = builder.cfg ++ tiers.map (fun tier => ⟨tier.1, .ofUnsigned tier.2.toNat⟩) ∧
      (final.cfg.map TierCfg.kind).Nodup ∧ final.policy = builder.policy := by
  induction cfg generalizing i builder with
  | nil =>
      obtain rfl := Parsed.accept.inj accepted
      exact ⟨[], rfl, (List.append_nil _).symm, different, rfl⟩
  | cons tier rest ih =>
      obtain ⟨kind, ratio⟩ := tier
      rw [ctlAddTiers] at accepted
      split at accepted
      · cases accepted
      · rename_i next added
        obtain ⟨pointer, rfl, fresh, cfg, policy⟩ := memtierBuilderAddTier_success added
        have grown : (next.cfg.map TierCfg.kind).Nodup := by
          rw [cfg, List.map_append]
          exact different.append (List.nodup_singleton _) (by simpa using fresh)
        obtain ⟨tiers, rfl, finalCfg, distinct, kept⟩ := ih accepted grown
        refine ⟨(pointer, ratio) :: tiers, rfl, ?_, distinct, kept.trans policy⟩
        rw [finalCfg, cfg, List.append_assoc]
        rfl

theorem memtierBuilderNew_fields (policy : BuilderPolicy) :
    (memtierBuilderNew policy).cfg = [] ∧ (memtierBuilderNew policy).policy = policy := by
  cases policy <;> exact ⟨rfl, rfl⟩

theorem ctlFillBuilder_accepted (filled : ctlFillBuilder outcome table query = .accept builder) :
    ∃ tiers : List (KindPtr × BitVec 32),
      table.tempCfg = tiers.map (fun tier => (some tier.1, tier.2)) ∧
      builder.cfg = tiers.map (fun tier => ⟨tier.1, .ofUnsigned tier.2.toNat⟩) ∧
      (builder.cfg.map TierCfg.kind).Nodup ∧
      nextToken ctlValueSeparator (query.1.getD query.2) =
        (some "POLICY".toList, builder.policy.text) := by
  obtain ⟨policy, named, added⟩ := ctlFillBuilder_policy filled
  obtain ⟨noTiers, newPolicy⟩ := memtierBuilderNew_fields policy
  obtain ⟨tiers, table, cfg, distinct, kept⟩ := ctlAddTiers_accepted added (by simp [noTiers])
  rw [noTiers, List.nil_append] at cfg
  rw [newPolicy] at kept
  exact ⟨tiers, table, cfg, distinct, kept ▸ named⟩

theorem ctlFillBuilder_kinds (filled : ctlFillBuilder outcome table query = .accept builder) :
    none ∉ table.tempCfg.map Prod.fst := by
  obtain ⟨tiers, cfg, -⟩ := ctlFillBuilder_accepted filled
  simp [cfg]

/-- The builder takes tiers of different kinds when the blocks are granted. -/
theorem ctlAddTiers_granted (granted : ∀ i, adds i = ⟨true, true⟩)
    {tiers : List (KindPtr × BitVec 32)} (untouched : builder.Untouched)
    (different : (builder.cfg.map TierCfg.kind ++ tiers.map Prod.fst).Nodup) :
    ∃ final, ctlAddTiers adds (tiers.map fun tier => (some tier.1, tier.2)) i builder =
      .accept final ∧ final.Untouched := by
  induction tiers generalizing i builder with
  | nil => exact ⟨builder, rfl, untouched⟩
  | cons tier tiers ih =>
      have fresh : tier.1 ∉ builder.cfg.map TierCfg.kind := by
        intro member
        exact (List.nodup_append.mp different).2.2 _ member _ List.mem_cons_self rfl
      obtain ⟨next, added⟩ := memtierBuilderAddTier_fresh tier.2 fresh
        (congrArg AddTierOutcome.thres (granted i)) (congrArg AddTierOutcome.cfg (granted i))
      obtain ⟨pointer, same, -, cfg, -⟩ := memtierBuilderAddTier_success added
      obtain rfl := Option.some.inj same
      have later : (next.cfg.map TierCfg.kind ++ tiers.map Prod.fst).Nodup := by
        rw [cfg, List.map_append, List.map_singleton, List.append_assoc]
        exact different
      obtain ⟨final, rest, kept⟩ := @ih (i + 1) next (untouched.addTier added) later
      refine ⟨final, ?_, kept⟩
      rw [List.map_cons, ctlAddTiers, added]
      exact rest

/-- The build without thresholds. -/
theorem ctlBuildMemory_none_eq_accept {tierCount : Nat} {memory : MemtierMemory} :
    ctlBuildMemory outcome tierCount none table query = .accept memory ↔
      ∃ builder, ctlFillBuilder outcome table query = .accept builder ∧
        memtierBuilderConstructMemtierMemory outcome.memory builder = some memory := by
  rw [ctlBuildMemory, Parsed.bind_eq_accept]
  refine exists_congr fun builder => and_congr_right fun _ => ?_
  rw [ctlSetThresholds, Parsed.accept_bind]
  split
  · rename_i refused
    simp [refused]
  · rename_i made constructed
    simp [constructed]

end Build

end Memkind
