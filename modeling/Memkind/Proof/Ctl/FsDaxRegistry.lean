/-
This file compares the registry of `FS_DAX` kinds with the kinds that `memkind_create_pmem` made.
-/

import Memkind.Proof.Ctl.NullSafety

namespace Memkind

open Library

/-- The value of `fsdax_max_size` at the end of a query for `FS_DAX`. -/
def TierVars.fsdaxMaxSize (vars : TierVars) : Parsed Unit SizeT :=
  if vars.fsdaxSizeSet then ctlParseSize vars.fsdaxSizeStr else .accept 0

/-- The arguments of the call of `memkind_create_pmem` at the end of a query, if it is reached. -/
def TierVars.pmemCall (vars : TierVars) : Option (CString × SizeT) :=
  if vars.ratioStr = none ∨ vars.isFsdax = false ∨ vars.fsdaxPathSet = false then none
  else
    match vars.fsdaxPath, vars.fsdaxMaxSize with
    | some path, .accept size => if size = 0 ∨ pmemMinSize ≤ size then some (path, size) else none
    | _, _ => none

/-- The kind that a query gets from `memkind_create_pmem`. -/
def pmemMade (outcome : TierOutcome) : Option CString → Option KindPtr
  | none => none
  | some query =>
      match (queryFields query).foldlM (ctlTierParam outcome) {} with
      | .accept vars => vars.pmemCall.bind fun (path, size) => outcome.createPmem path size
      | _ => none

/-- The kinds that `memkind_create_pmem` returns while the loop handles the given queries. -/
def madeKinds (outcome : Nat → TierOutcome) : List (Option CString) → TierTable → List KindPtr
  | [], _ => []
  | qbuf :: qbufs, table =>
      (pmemMade (outcome table.tempCfg.length) qbuf).toList ++
        match ctlParseTier outcome table qbuf with
        | .accept next => madeKinds outcome qbufs next
        | _ => []

/-- The registry after a parser that did not crash. -/
def fsDaxRegAfter {α : Type} (registry : α → FsDaxRegistry) :
    Parsed FsDaxRegistry α → Option FsDaxRegistry
  | .crash => none
  | .reject kinds => some kinds
  | .accept value => some (registry value)

section Query

variable {outcome : TierOutcome} {registry : FsDaxRegistry} {query : CString} {vars : TierVars}

theorem TierVars.pmemCall_eq_some {path : CString} {size : SizeT} :
    vars.pmemCall = some (path, size) ↔
      vars.ratioStr ≠ none ∧ vars.isFsdax = true ∧ vars.fsdaxPathSet = true ∧
        vars.fsdaxPath = some path ∧ vars.fsdaxMaxSize = .accept size ∧
        (size = 0 ∨ pmemMinSize ≤ size) := by
  unfold pmemCall
  split
  · rename_i unreached
    simp only [reduceCtorEq, false_iff]
    rintro ⟨ratio, fsdax, pathSet, -⟩
    simp [ratio, fsdax, pathSet] at unreached
  · rename_i reached
    simp only [not_or, Bool.not_eq_false] at reached
    simp only [ne_eq, reached, not_false_eq_true, true_and]
    split
    · rename_i given parsed
      simp only [given, parsed, Option.some.injEq, Parsed.accept.injEq]
      split
      · rename_i large
        simp only [Option.some.injEq, Prod.mk.injEq]
        constructor
        · rintro ⟨rfl, rfl⟩
          exact ⟨rfl, rfl, large⟩
        · rintro ⟨rfl, rfl, -⟩
          exact ⟨rfl, rfl⟩
      · rename_i small
        simp only [reduceCtorEq, false_iff]
        rintro ⟨-, rfl, large⟩
        exact small large
    · rename_i missing
      simp only [reduceCtorEq, false_iff]
      rintro ⟨given, parsed, -⟩
      exact missing path size given parsed

theorem TierVars.fsdaxMaxSize_eq_accept {size : SizeT} :
    vars.fsdaxMaxSize = .accept size ↔
      if vars.fsdaxSizeSet = true then ctlParseSize vars.fsdaxSizeStr = .accept size
        else size = 0 := by
  unfold fsdaxMaxSize
  split
  · rfl
  · rw [Parsed.accept.injEq, eq_comm]

theorem pmemMade_eq (read : (queryFields query).foldlM (ctlTierParam outcome) {} = .accept vars) :
    pmemMade outcome (some query) =
      vars.pmemCall.bind fun (path, size) => outcome.createPmem path size := by
  rw [pmemMade, read]

theorem unread_makes_nothing
    (unread : ∀ vars, (queryFields query).foldlM (ctlTierParam outcome) {} ≠ .accept vars) :
    ¬TierSmallLimit outcome query ∧ pmemMade outcome (some query) = none := by
  constructor
  · rintro ⟨vars, -, -, accepted, -⟩
    exact unread vars accepted
  · rw [pmemMade]
    split
    · rename_i vars accepted
      exact absurd accepted (unread vars)
    · rfl

/-- A kind that is made is also registered, if the registry can grow. -/
theorem TierVars.finish_of_made {kind : KindPtr}
    (made : (vars.pmemCall.bind fun (path, size) => outcome.createPmem path size) = some kind) :
    vars.finish outcome registry =
      if outcome.registryGrows = true then .accept ⟨some kind, vars.ratio, registry ++ [some kind]⟩
      else .reject registry := by
  obtain ⟨⟨path, size⟩, called, created⟩ := Option.bind_eq_some_iff.mp made
  obtain ⟨ratio, fsdax, pathSet, given, parsed, large⟩ := pmemCall_eq_some.mp called
  have accepted : vars.createFsdax outcome = .accept (some kind) := by
    refine (createFsdax_eq_accept given).mpr ⟨pathSet, size, fsdaxMaxSize_eq_accept.mp parsed, ?_⟩
    rw [if_pos large]
    exact ⟨kind, created, rfl⟩
  rw [finish, if_neg ratio, if_pos fsdax, accepted]
  rfl

/-- Without a kind that is made, at most `NULL` is registered. -/
theorem TierVars.finish_of_not_made {params : List (CString × Option CString)} {tier : TierQuery}
    (reads : vars.Reads outcome params)
    (made : (vars.pmemCall.bind fun (path, size) => outcome.createPmem path size) = none)
    (finished : vars.finish outcome registry = .accept tier) :
    tier.registry = registry ∨ tier.registry = registry ++ [none] := by
  obtain ⟨ratio, -, ⟨-, -, -, -, same⟩ | ⟨fsdax, created, -, grown⟩⟩ :=
    TierVars.finish_eq_accept.mp finished
  · exact Or.inl same
  · have pathSet := createFsdax_pathSet created
    obtain ⟨noKind, path, -, given⟩ := reads.fsdax fsdax (reads.pathSet.mp pathSet)
    obtain ⟨-, size, parsed, result⟩ := (createFsdax_eq_accept given).mp created
    split at result
    · rename_i large
      obtain ⟨pointer, granted, -⟩ := result
      have called : vars.pmemCall = some (path, size) :=
        pmemCall_eq_some.mpr ⟨ratio, fsdax, pathSet, given, fsdaxMaxSize_eq_accept.mpr parsed, large⟩
      rw [called] at made
      cases granted.symm.trans made
    · rw [result, noKind] at grown
      exact Or.inr grown

/-- The query registers the kind that it makes: its limit is not too small, and the registry can
grow. -/
def TierRegisters (outcome : TierOutcome) (qbuf : Option CString) : Prop :=
  (∀ query, qbuf = some query → ¬TierSmallLimit outcome query) ∧
    (pmemMade outcome qbuf ≠ none → outcome.registryGrows = true)

/-- A query extends the registry by the kind that it makes exactly when it registers it. -/
theorem tierRegisters_iff (outcome : TierOutcome) (registry : FsDaxRegistry)
    (qbuf : Option CString) :
    TierRegisters outcome qbuf ↔
      ∀ after, fsDaxRegAfter TierQuery.registry (ctlParseTierQuery outcome registry qbuf) =
          some after →
        after = registry ++ (pmemMade outcome qbuf).toList.map some := by
  cases qbuf with
  | none => simp [TierRegisters, ctlParseTierQuery, fsDaxRegAfter, pmemMade]
  | some query =>
      simp only [TierRegisters, Option.some.injEq, forall_eq']
      rw [ctlParseTierQuery_eq]
      cases read : (queryFields query).foldlM (ctlTierParam outcome) {} with
      | crash =>
          obtain ⟨large, nothing⟩ := unread_makes_nothing fun vars accepted => by
            cases read.symm.trans accepted
          simp [large, nothing, fsDaxRegAfter, Parsed.withError]
      | reject error =>
          obtain ⟨large, nothing⟩ := unread_makes_nothing fun vars accepted => by
            cases read.symm.trans accepted
          simp [large, nothing, fsDaxRegAfter, Parsed.withError]
      | accept vars =>
          have small := smallLimit_iff registry read
          rw [small, pmemMade_eq read]
          change _ ↔ ∀ after, fsDaxRegAfter TierQuery.registry (vars.finish outcome registry) = _ → _
          cases made : vars.pmemCall.bind fun (path, size) => outcome.createPmem path size with
          | some kind =>
              rw [TierVars.finish_of_made made]
              split <;> simp_all [fsDaxRegAfter]
          | none =>
              cases finished : vars.finish outcome registry with
              | crash => simp [fsDaxRegAfter]
              | reject error =>
                  rw [TierVars.finish_reject finished]
                  simp [fsDaxRegAfter]
              | accept tier =>
                  obtain same | grown :=
                    TierVars.finish_of_not_made (ctlTierParams_reads read) made finished
                  · simp [fsDaxRegAfter, same]
                  · simp [fsDaxRegAfter, grown]

end Query

section Tiers

variable {outcome : Nat → TierOutcome} {table : TierTable}

theorem fsDaxRegAfter_ctlParseTier (outcome : Nat → TierOutcome) (table : TierTable)
    (qbuf : Option CString) :
    fsDaxRegAfter TierTable.registry (ctlParseTier outcome table qbuf) =
      fsDaxRegAfter TierQuery.registry
        (ctlParseTierQuery (outcome table.tempCfg.length) table.registry qbuf) := by
  unfold ctlParseTier
  cases ctlParseTierQuery (outcome table.tempCfg.length) table.registry qbuf <;> rfl

/-- The registry after the first queries holds what it held before and the kinds that they make. -/
def Registers (outcome : Nat → TierOutcome) (qbufs : List (Option CString)) (table : TierTable) :
    Prop :=
  ∀ count registry,
    fsDaxRegAfter TierTable.registry ((qbufs.take count).foldlM (ctlParseTier outcome) table) =
      some registry →
    registry = table.registry ++ (madeKinds outcome (qbufs.take count) table).map some

/-- What the loop registers is what its first query registers and what the rest does. -/
theorem registers_cons_iff {qbuf : Option CString} {qbufs : List (Option CString)} :
    Registers outcome (qbuf :: qbufs) table ↔
      TierRegisters (outcome table.tempCfg.length) qbuf ∧
        ∀ next, ctlParseTier outcome table qbuf = .accept next → Registers outcome qbufs next := by
  have positive : Registers outcome (qbuf :: qbufs) table ↔ ∀ count registry,
      fsDaxRegAfter TierTable.registry
          (((qbuf :: qbufs.take count)).foldlM (ctlParseTier outcome) table) = some registry →
        registry =
          table.registry ++ (madeKinds outcome (qbuf :: qbufs.take count) table).map some := by
    constructor
    · intro registers count
      exact registers (count + 1)
    · intro later count registry after
      cases count with
      | zero =>
          obtain rfl := Option.some.inj after
          exact (List.append_nil _).symm
      | succ count => exact later count registry after
  rw [positive, tierRegisters_iff _ table.registry, ← fsDaxRegAfter_ctlParseTier]
  cases stepped : ctlParseTier outcome table qbuf with
  | crash => simp [List.foldlM_cons, madeKinds, stepped, fsDaxRegAfter]
  | reject error => simp [List.foldlM_cons, madeKinds, stepped, fsDaxRegAfter]
  | accept next =>
      simp only [List.foldlM_cons, madeKinds, stepped, Parsed.accept_bind, fsDaxRegAfter,
        Option.some.injEq, forall_eq', Parsed.accept.injEq, List.map_append, ← List.append_assoc]
      constructor
      · intro registers
        have first := registers 0 next.registry rfl
        rw [List.take_zero, madeKinds, List.map_nil, List.append_nil] at first
        refine ⟨first, ?_⟩
        rw [← first] at registers
        exact registers
      · rintro ⟨first, registers⟩
        rw [← first]
        exact registers

/-- The loop registers exactly the kinds that it makes when each query that it reaches does. -/
theorem registers_iff (qbufs : List (Option CString)) :
    Registers outcome qbufs table ↔
      Parsed.Reached (ctlParseTier outcome)
        (fun table qbuf => TierRegisters (outcome table.tempCfg.length) qbuf) qbufs table := by
  induction qbufs generalizing table with
  | nil =>
      refine iff_of_true ?_ trivial
      intro count registry after
      rw [List.take_nil] at after ⊢
      obtain rfl := Option.some.inj after
      exact (List.append_nil _).symm
  | cons qbuf qbufs ih =>
      rw [registers_cons_iff, Parsed.Reached]
      simp only [ih]

end Tiers

/-- The clean-up of a registry without `NULL` destroys its kinds. -/
theorem ctlDestroyFsDaxReg_map_some (kinds : List KindPtr) :
    ctlDestroyFsDaxReg (kinds.map some) = .null kinds := by
  unfold ctlDestroyFsDaxReg
  rw [if_neg (by simp)]
  change CtlReturn.null ((kinds.map some).filterMap id) = _
  rw [List.filterMap_map]
  exact congrArg CtlReturn.null List.filterMap_some

/-- The queries that the loop over the tiers handles. -/
abbrev tierQueries (envVarString : CString) : List (Option CString) :=
  loopTokens (tierCount envVarString) (queries envVarString)

/-- After any part of the loop over the tiers the registry holds the kinds that it made, so the
clean-up destroys these and nothing else. -/
structure FsDaxRegExact (outcome : CtlOutcome) (envVarString : CString) : Prop where
  registered : ∀ count registry,
    fsDaxRegAfter TierTable.registry
        (((tierQueries envVarString).take count).foldlM (ctlParseTier outcome.tier) ⟨[], []⟩) =
      some registry →
    registry =
      (madeKinds outcome.tier ((tierQueries envVarString).take count) ⟨[], []⟩).map some
  destroyed : ∀ thresholds kinds,
    ctlCreateTierMemoryFromEnv outcome envVarString thresholds = .null kinds →
    kinds = madeKinds outcome.tier (tierQueries envVarString) ⟨[], []⟩

theorem madeKinds_of_no_tiers {outcome : CtlOutcome} {envVarString : CString}
    (none : queries envVarString = [] ∨ tierCount envVarString = 0) :
    madeKinds outcome.tier (tierQueries envVarString) ⟨[], []⟩ = [] := by
  unfold tierQueries
  cases counted : tierCount envVarString with
  | zero => rfl
  | succ count =>
      have empty := none.resolve_right (by rw [counted]; exact Nat.succ_ne_zero count)
      rw [empty]
      rfl

/-- What the configuration leaves when it is rejected is what the loop has registered. -/
theorem ctlCreateTierMemoryFromEnv_eq_null {outcome : CtlOutcome} {envVarString : CString}
    {thresholds : Option CString} {kinds : List KindPtr}
    (present : queries envVarString ≠ []) (several : tierCount envVarString ≠ 0)
    (rejected : ctlCreateTierMemoryFromEnv outcome envVarString thresholds = .null kinds) :
    ∃ registry, fsDaxRegAfter TierTable.registry (parsedTiers outcome envVarString) =
        some registry ∧ ctlDestroyFsDaxReg registry = .null kinds := by
  rw [ctlCreateTierMemoryFromEnv_of_tiers present several] at rejected
  split at rejected
  · cases rejected
  · rename_i registry looped
    rw [looped]
    exact ⟨registry, rfl, rejected⟩
  · rename_i table looped
    rw [looped]
    split at rejected
    · cases rejected
    · exact ⟨table.registry, rfl, rejected⟩
    · cases rejected

/-- The registry holds exactly the kinds that were made, after any part of the loop and at the
clean-up, when every query that the loop reaches registers the kind that it makes. -/
theorem fsDaxReg_exact_iff (outcome : CtlOutcome) (envVarString : CString) :
    FsDaxRegExact outcome envVarString ↔
      Parsed.Reached (ctlParseTier outcome.tier)
        (fun table qbuf => TierRegisters (outcome.tier table.tempCfg.length) qbuf)
        (tierQueries envVarString) ⟨[], []⟩ := by
  rw [← registers_iff]
  constructor
  · intro exact count registry after
    exact exact.registered count registry after
  · intro registers
    refine ⟨registers, ?_⟩
    intro thresholds kinds rejected
    by_cases tiers : queries envVarString = [] ∨ tierCount envVarString = 0
    · rw [ctlCreateTierMemoryFromEnv_of_no_tiers tiers] at rejected
      rw [madeKinds_of_no_tiers tiers, CtlReturn.null.inj rejected]
    · rw [not_or] at tiers
      obtain ⟨registry, after, destroyed⟩ :=
        ctlCreateTierMemoryFromEnv_eq_null tiers.1 tiers.2 rejected
      have whole := registers (tierQueries envVarString).length registry
      rw [List.take_length] at whole
      rw [whole after] at destroyed
      exact (CtlReturn.null.inj ((ctlDestroyFsDaxReg_map_some _).symm.trans destroyed)).symm

/-- A limit of one byte. -/
def oneByteLimit : CString :=
  "KIND:FS_DAX,PATH:/tmp/,PMEM_SIZE_LIMIT:1,RATIO:1;POLICY:STATIC_RATIO".toList

/-- A tier without a limit. -/
def noLimit : CString := "KIND:FS_DAX,PATH:/tmp/,RATIO:1;POLICY:STATIC_RATIO".toList

/-- Every call succeeds except for the growth of the registry. -/
def registryFull : CtlOutcome :=
  { everyCallSucceeds with tier := fun i => { everyCallSucceeds.tier i with registryGrows := false } }

/-- A limit that is too small puts `NULL` into the registry, and the clean-up crashes. A kind that
the registry has no room for is never destroyed. -/
theorem fsDaxReg_inexact :
    fsDaxRegAfter TierTable.registry (parsedTiers everyCallSucceeds oneByteLimit) = some [none] ∧
      madeKinds everyCallSucceeds.tier (tierQueries oneByteLimit) ⟨[], []⟩ = [] ∧
      ctlCreateTierMemoryFromEnv everyCallSucceeds oneByteLimit none = .crash ∧
      ctlCreateTierMemoryFromEnv registryFull noLimit none = .null [] ∧
      madeKinds registryFull.tier (tierQueries noLimit) ⟨[], []⟩ = [.heap 0x100] := by
  decide +kernel

end Memkind
