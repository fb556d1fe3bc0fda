/-
This file shows that `ctl_create_tier_memory_from_env` does not store behind the end of `temp_cfg`,
although its loop has no check for that.
-/

import Memkind.Proof.Ctl.NullSafety

namespace Memkind

open Library

section Query

variable {outcome : TierOutcome} {registry : FsDaxRegistry} {query : CString}

/-- The query has a parameter `RATIO` with a ratio that `ctl_parse_ratio` accepts. -/
def HasRatio (query : CString) : Prop :=
  ∃ value ratio saved, (TierParam.ratio.text, some value) ∈ queryFields query ∧
    ctlParseRatio (some value) = .accept (ratio, saved)

theorem hasRatio_of_accept {tier : TierQuery}
    (accepted : ctlParseTierQuery outcome registry (some query) = .accept tier) :
    HasRatio query := by
  obtain ⟨vars, read, finished⟩ := ctlParseTierQuery_accept accepted
  have reads := ctlTierParams_reads read
  have named := reads.ratioStr.mp (TierVars.finish_eq_accept.mp finished).1
  obtain ⟨value, member⟩ := named.exists_value
  obtain ⟨saved, parsed⟩ := reads.ratio value member
  cases value with
  | none => cases parsed
  | some value => exact ⟨value, vars.ratio, saved, member, parsed⟩

/-- `RATIO`, a separator and one character. -/
theorem HasRatio.length (ratio : HasRatio query) : 7 ≤ query.length := by
  obtain ⟨value, -, -, member, -⟩ := ratio
  obtain ⟨nonempty, room⟩ := length_of_mem_fields member
  have positive := List.length_pos_iff.mpr nonempty
  have name : TierParam.ratio.text.length = 5 := by decide
  omega

end Query

section Loop

variable {outcome : Nat → TierOutcome}

/-- The store at a position keeps the tier of the query at this position, which is accepted. -/
theorem ctlTierStores_getElem? {remaining i k : Nat} {text : CString} {registry : FsDaxRegistry}
    {store : TempCfgStore}
    (stored : (ctlTierStores outcome remaining i (nextToken ctlStringQuerySeparator text)
      registry)[k]? = some store) :
    k < remaining ∧ ∃ query earlier tier,
      (tokens ctlStringQuerySeparator text)[k]? = some query ∧
      ctlParseTierQuery (outcome (i + k)) earlier (some query) = .accept tier ∧
      store = ⟨i + k, tier.kind, tier.ratio⟩ := by
  induction remaining generalizing i k text registry with
  | zero => cases stored
  | succ remaining ih =>
      rw [ctlTierStores] at stored
      cases parsed : ctlParseTierQuery (outcome i) registry
          (nextToken ctlStringQuerySeparator text).1 with
      | crash =>
          rw [parsed] at stored
          cases stored
      | reject error =>
          rw [parsed] at stored
          cases stored
      | accept tier =>
          rw [parsed] at stored
          cases k with
          | zero =>
              obtain rfl := Option.some.inj stored
              cases found : (nextToken ctlStringQuerySeparator text).1 with
              | none =>
                  rw [found] at parsed
                  cases parsed
              | some query =>
                  rw [found] at parsed
                  refine ⟨Nat.succ_pos remaining, query, registry, tier, ?_, parsed, rfl⟩
                  rw [← List.head?_eq_getElem?, head_tokens, found]
          | succ k =>
              rw [List.getElem?_cons_succ] at stored
              obtain ⟨below, query, earlier, next, listed, accepted, same⟩ :=
                ih stored
              have shifted : i + 1 + k = i + (k + 1) := by omega
              rw [shifted] at accepted same
              refine ⟨Nat.succ_lt_succ below, query, earlier, next, ?_, accepted, same⟩
              rw [← List.getElem?_tail, tail_tokens]
              exact listed

/-- A loop that is accepted leaves its stores in the table. -/
theorem ctlTierStores_of_accept {remaining : Nat} {qbuf last : Option CString × CString}
    {table final : TierTable}
    (looped : tokenLoop ctlStringQuerySeparator (ctlParseTier outcome) remaining qbuf table =
      .accept (final, last)) :
    final.tempCfg = table.tempCfg ++
      (ctlTierStores outcome remaining table.tempCfg.length qbuf table.registry).map
        fun store => (store.kind, store.ratio) := by
  induction remaining generalizing qbuf table with
  | zero =>
      obtain ⟨rfl, -⟩ := Prod.mk.inj (Parsed.accept.inj looped)
      exact (List.append_nil _).symm
  | succ remaining ih =>
      rw [tokenLoop] at looped
      obtain ⟨next, stepped, looped⟩ := Parsed.bind_eq_accept.mp looped
      obtain ⟨tier, parsed, rfl⟩ := ctlParseTier_accept stepped
      have later := ih looped
      rw [List.length_append, List.length_singleton, List.append_assoc] at later
      rw [ctlTierStores, parsed]
      exact later

/-- A loop is accepted exactly when every iteration stores. -/
theorem length_ctlTierStores {remaining : Nat} {qbuf : Option CString × CString}
    {table : TierTable} :
    (∃ result, tokenLoop ctlStringQuerySeparator (ctlParseTier outcome) remaining qbuf table =
      .accept result) ↔
      (ctlTierStores outcome remaining table.tempCfg.length qbuf table.registry).length =
        remaining := by
  induction remaining generalizing qbuf table with
  | zero => exact iff_of_true ⟨_, rfl⟩ rfl
  | succ remaining ih =>
      rw [tokenLoop, ctlTierStores, ctlParseTier]
      cases ctlParseTierQuery (outcome table.tempCfg.length) table.registry qbuf.1 with
      | crash => simp
      | reject error => simp
      | accept tier =>
          rw [List.length_cons, Nat.add_right_cancel_iff]
          have later := @ih (nextToken ctlStringQuerySeparator qbuf.2)
            ⟨tier.registry, table.tempCfg ++ [(tier.kind, tier.ratio)]⟩
          rw [List.length_append, List.length_singleton] at later
          exact later

end Loop

section Table

variable {outcome : CtlOutcome} {envVarString : CString}

theorem tempCfgStores_eq : tempCfgStores outcome envVarString =
    ctlTierStores outcome.tier (tierCount envVarString) 0
      (nextToken ctlStringQuerySeparator (copied envVarString)) [] := by
  unfold tempCfgStores
  dsimp only
  split
  · rename_i missing
    cases tierCount envVarString with
    | zero => rfl
    | succ remaining =>
        rw [ctlTierStores, missing]
        rfl
  · split
    · rename_i single
      have none : tierCount envVarString = 0 := Nat.lt_one_iff.mp (Nat.lt_of_succ_lt_succ single)
      rw [none]
      rfl
    · rfl

theorem tokenLoop_parsedTiers :
    tokenLoop ctlStringQuerySeparator (ctlParseTier outcome.tier) (tierCount envVarString)
        (nextToken ctlStringQuerySeparator (copied envVarString)) ⟨[], []⟩ =
      parsedTiers outcome envVarString >>= fun table =>
        .accept (table, policyQuery envVarString) :=
  tokenLoop_eq _ _ _

/-- The tiers that are added to the builder are those that were stored. -/
theorem parsedTiers_tempCfg {table : TierTable}
    (looped : parsedTiers outcome envVarString = .accept table) :
    table.tempCfg = (tempCfgStores outcome envVarString).map
      fun store => (store.kind, store.ratio) := by
  have accepted := @tokenLoop_parsedTiers outcome envVarString
  rw [looped, Parsed.accept_bind] at accepted
  rw [tempCfgStores_eq]
  exact ctlTierStores_of_accept accepted

/-- The loop over the tiers is accepted exactly when every iteration stores a tier. -/
theorem parsedTiers_accept_iff :
    (∃ table, parsedTiers outcome envVarString = .accept table) ↔
      (tempCfgStores outcome envVarString).length = tierCount envVarString := by
  have looped := @length_ctlTierStores outcome.tier (tierCount envVarString)
    (nextToken ctlStringQuerySeparator (copied envVarString)) ⟨[], []⟩
  rw [tokenLoop_parsedTiers] at looped
  rw [tempCfgStores_eq]
  refine Iff.trans ?_ looped
  constructor
  · intro ⟨table, accepted⟩
    exact ⟨_, by rw [accepted, Parsed.accept_bind]⟩
  · intro ⟨result, accepted⟩
    obtain ⟨table, looped, -⟩ := Parsed.bind_eq_accept.mp accepted
    exact ⟨table, looped⟩

theorem length_copied_le : (copied envVarString).length ≤ 1023 := List.length_take_le _ _

/-- The store at a position is the one of the query at this position. -/
theorem tempCfgStores_getElem? {k : Nat} {store : TempCfgStore}
    (stored : (tempCfgStores outcome envVarString)[k]? = some store) :
    k < tierCount envVarString ∧ ∃ query registry tier,
      (queries envVarString)[k]? = some query ∧
      ctlParseTierQuery (outcome.tier k) registry (some query) = .accept tier ∧
      store = ⟨k, tier.kind, tier.ratio⟩ := by
  rw [tempCfgStores_eq] at stored
  have found := ctlTierStores_getElem? stored
  rw [Nat.zero_add] at found
  exact found

/-- Every store needs a query of seven characters and a separator. -/
theorem length_tempCfgStores_le : (tempCfgStores outcome envVarString).length ≤ 127 := by
  have long : ∀ k < (tempCfgStores outcome envVarString).length,
      ∃ query, (queries envVarString)[k]? = some query ∧ 7 ≤ query.length := by
    intro k below
    obtain ⟨-, query, registry, tier, listed, accepted, -⟩ :=
      tempCfgStores_getElem? (List.getElem?_eq_getElem below)
    exact ⟨query, listed, (hasRatio_of_accept accepted).length⟩
  have separators : (tempCfgStores outcome envVarString).length ≤ tierCount envVarString := by
    by_contra more
    have last := List.getElem?_eq_getElem (Nat.lt_of_not_le more)
    exact Nat.lt_irrefl _ (tempCfgStores_getElem? last).1
  have room := length_of_long_tokens separators long
  have short := @length_copied_le envVarString
  omega

end Table

/-- Every store into `temp_cfg` is within the array, although the number of separators, which bounds
the loop, can be 1023. A stored tier comes from an accepted query, which has a ratio, and the queries
are the copied characters between the separators. -/
theorem tempCfgStores_within (outcome : CtlOutcome) (envVarString : CString) :
    (∀ store ∈ tempCfgStores outcome envVarString, store.i < ctlMaxKind ∧
      ∃ query registry tier, (queries envVarString)[store.i]? = some query ∧
        ctlParseTierQuery (outcome.tier store.i) registry (some query) = .accept tier ∧
        HasRatio query ∧ store.kind = tier.kind ∧ store.ratio = tier.ratio) ∧
    (∀ query ∈ queries envVarString, query ≠ []) ∧
    (queries envVarString).flatten =
      (copied envVarString).filter (· ≠ ctlStringQuerySeparator) ∧
    (copied envVarString).length ≤ 1023 ∧
    tierCount envVarString ≤ 1023 ∧ ∃ longest, tierCount longest = 1023 := by
  refine ⟨?_, fun _ => ne_nil_of_mem_tokens, flatten_tokens, length_copied_le,
    Nat.le_trans List.count_le_length length_copied_le,
    List.replicate 1023 ctlStringQuerySeparator, ?_⟩
  · intro store member
    obtain ⟨k, below, same⟩ := List.getElem_of_mem member
    obtain ⟨-, query, registry, tier, listed, accepted, rfl⟩ :=
      tempCfgStores_getElem? (List.getElem?_eq_some_iff.mpr ⟨below, same⟩)
    have few := @length_tempCfgStores_le outcome envVarString
    refine ⟨?_, query, registry, tier, listed, accepted, hasRatio_of_accept accepted, rfl, rfl⟩
    show k < ctlMaxKind
    unfold ctlMaxKind
    omega
  · rw [tierCount, copied, List.take_replicate, List.count_replicate_self]
    rfl

end Memkind
