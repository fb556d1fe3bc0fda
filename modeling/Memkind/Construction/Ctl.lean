/-
This file embeds `ctl.c`, which builds a memory from the environment variables.
-/

import Memkind.Library.Fields
import Memkind.Library.Numerals
import Memkind.Construction.Builder
import Memkind.Construction.Pmem
import Memkind.Construction.Statistics

namespace Memkind

open Library

/-- A string without its terminator, with one character for each byte. -/
abbrev CString := List Char

def ctlValueSeparator : Char := ':'
def ctlParamSeparator : Char := ','
def ctlStringQuerySeparator : Char := ';'
def maxEnvString : Nat := 1024

/-- `MEMKIND_DAX_KMEM` -/
def memkindDaxKmem : KindPtr := .library 11

/-- `ctl_parse_u` -/
def ctlParseU (str : CString) : Option (BitVec 32) :=
  if str.head? = some '-' then none
  else (strtoul str).bind fun number =>
    if number.outOfRange ∨ uintMax < number.value.toNat then none
    else some (number.value.setWidth 32)

/-- `ctl_parse_size_t` -/
def ctlParseSizeT (str : CString) : Option SizeT :=
  if str.head? = some '-' then none
  else (strtoul str).bind fun number => if number.outOfRange then none else some number.value

/-- The table `suffixes` of `ctl_parse_size`. -/
inductive SizeSuffix where
  | k
  | m
  | g
  deriving DecidableEq

def SizeSuffix.all : List SizeSuffix := [.k, .m, .g]

def SizeSuffix.suff : SizeSuffix → CString
  | .k => ['K']
  | .m => ['M']
  | .g => ['G']

def SizeSuffix.mag : SizeSuffix → SizeT
  | .k => 1 <<< 10
  | .m => 1 <<< 20
  | .g => 1 <<< 30

/-- `ctl_parse_size`. The saved pointer is `NULL` or leads to the value. -/
def ctlParseSize : Option CString → Parsed Unit SizeT
  | none => .crash
  | some saved =>
      match (nextToken ctlValueSeparator saved).1 with
      | none => .reject ()
      | some sizeStr =>
          if sizeStr.head? = some '-' then .reject ()
          else
            -- The conversions `%31[0-9]` and `%2s` of `sscanf`.
            let size := (sizeStr.takeWhile Char.isDigit).take 31
            let unit := (((sizeStr.drop size.length).dropWhile isSpace).takeWhile
              (!isSpace ·)).take 2
            match ctlParseSizeT size with
            | none => .reject ()
            | some value =>
                if unit = [] then .accept value
                else
                  match keyword SizeSuffix.all SizeSuffix.suff unit with
                  | none => .reject ()
                  | some suffix =>
                      if value ≤ BitVec.allOnes 64 / suffix.mag then .accept (value * suffix.mag)
                      else .reject ()

def BuilderPolicy.all : List BuilderPolicy := [.staticRatio, .dynamicThreshold]

def BuilderPolicy.text : BuilderPolicy → CString
  | .staticRatio => "STATIC_RATIO".toList
  | .dynamicThreshold => "DYNAMIC_THRESHOLD".toList

/-- `ctl_parse_policy` -/
def ctlParsePolicy (qbuf : CString) : Option BuilderPolicy :=
  keyword BuilderPolicy.all BuilderPolicy.text qbuf

/-- `ctl_parse_ratio` returns the ratio and the saved pointer, which is then not `NULL`. -/
def ctlParseRatio : Option CString → Parsed Unit (BitVec 32 × CString)
  | none => .crash
  | some saved =>
      match nextToken ctlValueSeparator saved with
      | (none, _) => .reject ()
      | (some ratioStr, saved) =>
          match ctlParseU ratioStr with
          | none => .reject ()
          | some dest => if dest = 0 then .reject () else .accept (dest, saved)

/-- The names of the tier parameters. -/
inductive TierParam where
  | kind
  | path
  | pmemSizeLimit
  | ratio
  deriving DecidableEq

def TierParam.all : List TierParam := [.kind, .path, .pmemSizeLimit, .ratio]

def TierParam.text : TierParam → CString
  | .kind => "KIND".toList
  | .path => "PATH".toList
  | .pmemSizeLimit => "PMEM_SIZE_LIMIT".toList
  | .ratio => "RATIO".toList

/-- The names of the kinds. -/
inductive KindName where
  | dram
  | kmemDax
  | fsDax
  deriving DecidableEq

def KindName.all : List KindName := [.dram, .kmemDax, .fsDax]

def KindName.text : KindName → CString
  | .dram => "DRAM".toList
  | .kmemDax => "KMEM_DAX".toList
  | .fsDax => "FS_DAX".toList

/-- What the calls of one tier query return: whether the test allocation of `KMEM_DAX` is granted,
whether `memkind_check_dax_path` fails, the kind that `memkind_create_pmem` makes, and whether
`fs_dax_reg_g` can grow. -/
structure TierOutcome where
  kmemGranted : Bool
  daxPathFails : CString → Bool
  createPmem : CString → SizeT → Option KindPtr
  registryGrows : Bool

/-- The local variables of `ctl_parse_tier_query`, where `kind` and `ratio` are its results. -/
structure TierVars where
  kind : Option KindPtr := none
  ratio : BitVec 32 := 0
  isFsdax : Bool := false
  fsdaxPath : Option CString := none
  fsdaxSizeStr : Option CString := none
  ratioStr : Option CString := none
  kindSet : Bool := false
  fsdaxPathSet : Bool := false
  fsdaxSizeSet : Bool := false
  ratioSet : Bool := false

/-- The branch for `KIND`. -/
def TierVars.setKind (outcome : TierOutcome) (vars : TierVars) (value : Option CString) :
    Parsed Unit TierVars :=
  if vars.kindSet then .reject ()
  else
    match value.bind (keyword KindName.all KindName.text) with
    | none => .reject ()
    | some .dram => .accept { vars with kind := some memkindDefault, kindSet := true }
    | some .kmemDax =>
        if outcome.kmemGranted then
          .accept { vars with kind := some memkindDaxKmem, kindSet := true }
        else .reject ()
    | some .fsDax => .accept { vars with isFsdax := true, kindSet := true }

/-- The branch for `PATH`. -/
def TierVars.setPath (vars : TierVars) (value : Option CString) : Parsed Unit TierVars :=
  if vars.fsdaxPathSet then .reject ()
  else if value = none then .reject ()
  else .accept { vars with fsdaxPath := value, fsdaxPathSet := true }

/-- The branch for `PMEM_SIZE_LIMIT`, which keeps a missing value. -/
def TierVars.setSizeLimit (vars : TierVars) (value : Option CString) : Parsed Unit TierVars :=
  if vars.fsdaxSizeSet then .reject ()
  else .accept { vars with fsdaxSizeStr := value, fsdaxSizeSet := true }

/-- The branch for `RATIO`. -/
def TierVars.setRatio (vars : TierVars) (value : Option CString) : Parsed Unit TierVars :=
  if vars.ratioSet then .reject ()
  else ctlParseRatio value >>= fun (ratio, saved) =>
    .accept { vars with ratio, ratioStr := some saved, ratioSet := true }

/-- The body of the loop of `ctl_parse_tier_query`. Every branch takes its value up to the next
`CTL_PARAM_SEPARATOR`. -/
def ctlTierParam (outcome : TierOutcome) (vars : TierVars)
    (param : CString × Option CString) : Parsed Unit TierVars :=
  match keyword TierParam.all TierParam.text param.1 with
  | none => .reject ()
  | some .kind => vars.setKind outcome param.2
  | some .path => vars.setPath param.2
  | some .pmemSizeLimit => vars.setSizeLimit param.2
  | some .ratio => vars.setRatio param.2

/-- The kinds of `fs_dax_reg_g`. -/
abbrev FsDaxRegistry := List (Option KindPtr)

/-- The call of `memkind_create_pmem`, where `failed` is the status before it. The result is the
value of `*kind`, which stays `NULL` when the size limit lies below `MEMKIND_PMEM_MIN_SIZE`. -/
def TierVars.createPmem (outcome : TierOutcome) (vars : TierVars) (failed : Bool) (path : CString)
    (fsdaxMaxSize : SizeT) : Parsed Unit (Option KindPtr) :=
  if fsdaxMaxSize = 0 ∨ pmemMinSize ≤ fsdaxMaxSize then
    match outcome.createPmem path fsdaxMaxSize with
    | some kind => .accept (some kind)
    | none => .reject ()
  else if failed then .reject ()
  else .accept vars.kind

/-- The creation of an `FS_DAX` kind at the end of `ctl_parse_tier_query`. -/
def TierVars.createFsdax (outcome : TierOutcome) (vars : TierVars) :
    Parsed Unit (Option KindPtr) :=
  if !vars.fsdaxPathSet then .reject ()
  else
    (if vars.fsdaxSizeSet then
      ctlParseSize vars.fsdaxSizeStr >>= fun fsdaxMaxSize => .accept (false, fsdaxMaxSize)
    else .accept (vars.fsdaxPath.any outcome.daxPathFails, 0)) >>= fun (failed, fsdaxMaxSize) =>
      match vars.fsdaxPath with
      | some path => vars.createPmem outcome failed path fsdaxMaxSize
      | none => if failed then .reject () else .accept vars.kind

/-- A tier as `ctl_parse_tier_query` returns it, with the registry after it. -/
structure TierQuery where
  kind : Option KindPtr
  ratio : BitVec 32
  registry : FsDaxRegistry

/-- The part of `ctl_parse_tier_query` after the loop, up to the last check. A rejected query
returns the registry. -/
def TierVars.finish (outcome : TierOutcome) (registry : FsDaxRegistry) (vars : TierVars) :
    Parsed FsDaxRegistry TierQuery :=
  -- The check `!kind` tests the argument, which is never `NULL`.
  if vars.ratioStr = none then .reject registry
  else if vars.isFsdax then
    (vars.createFsdax outcome).withError registry >>= fun kind =>
      if outcome.registryGrows then .accept ⟨kind, vars.ratio, registry ++ [kind]⟩
      else .reject registry
  else if vars.fsdaxPathSet then .reject registry
  else if vars.fsdaxSizeSet then .reject registry
  else .accept ⟨vars.kind, vars.ratio, registry⟩

/-- `ctl_parse_tier_query` -/
def ctlParseTierQuery (outcome : TierOutcome) (registry : FsDaxRegistry) :
    Option CString → Parsed FsDaxRegistry TierQuery
  | none => .crash
  | some qbuf =>
      (readFields ctlValueSeparator ctlParamSeparator (ctlTierParam outcome) qbuf
          {}).withError registry >>= fun (vars, saved) =>
        vars.finish outcome registry >>= fun tier =>
          match (nextToken ctlValueSeparator saved).1 with
          | some _ => .reject tier.registry
          | none => .accept tier

/-- The registry and the array `temp_cfg`. -/
structure TierTable where
  registry : FsDaxRegistry
  tempCfg : List (Option KindPtr × BitVec 32)

/-- The body of the loop over the tiers. -/
def ctlParseTier (outcome : Nat → TierOutcome) (table : TierTable) (qbuf : Option CString) :
    Parsed FsDaxRegistry TierTable :=
  ctlParseTierQuery (outcome table.tempCfg.length) table.registry qbuf >>= fun tier =>
    .accept ⟨tier.registry, table.tempCfg ++ [(tier.kind, tier.ratio)]⟩

/-- The names of the threshold parameters. -/
def ThresholdField.text : ThresholdField → CString
  | .val => "INIT_VAL".toList
  | .min => "MIN_VAL".toList
  | .max => "MAX_VAL".toList

def ThresholdField.all : List ThresholdField := [.val, .min, .max]

/-- `ctl_set_thr_cfg`, where the list holds the bits of `ctl_opts`. -/
def ctlSetThrCfg (thresholdId : Nat) (field : ThresholdField)
    (vars : List ThresholdField × MemtierBuilder) (value : Option CString) :
    Parsed Unit (List ThresholdField × MemtierBuilder) :=
  if field ∈ vars.1 then .reject ()
  else ctlParseSize value >>= fun val =>
    match memtierCtlSet vars.2 thresholdId field val with
    | none => .reject ()
    | some builder => .accept (field :: vars.1, builder)

/-- The body of the loop of `ctl_parse_threshold_query`. -/
def ctlThresholdParam (thresholdId : Nat) (vars : List ThresholdField × MemtierBuilder)
    (param : CString × Option CString) : Parsed Unit (List ThresholdField × MemtierBuilder) :=
  match keyword ThresholdField.all ThresholdField.text param.1 with
  | none => .reject ()
  | some field => ctlSetThrCfg thresholdId field vars param.2

/-- `ctl_parse_threshold_query` -/
def ctlParseThresholdQuery (thresholdId : Nat) (builder : MemtierBuilder) :
    Option CString → Parsed Unit MemtierBuilder
  | none => .crash
  | some qbuf =>
      if (nextToken ctlValueSeparator qbuf).1 = none then .reject ()
      else
        readFields ctlValueSeparator ctlParamSeparator (ctlThresholdParam thresholdId) qbuf
            ([], builder) >>= fun (vars, _) => .accept vars.2

/-- The body of the loop over the thresholds, with the number of the threshold. -/
def ctlParseThreshold (state : Nat × MemtierBuilder) (qbuf : Option CString) :
    Parsed Unit (Nat × MemtierBuilder) :=
  ctlParseThresholdQuery state.1 state.2 qbuf >>= fun builder => .accept (state.1 + 1, builder)

/-- The block for `MEMKIND_MEM_THRESHOLDS`. -/
def ctlSetThresholds (tierCount : Nat) (thresholdsVarString : Option CString)
    (builder : MemtierBuilder) : Parsed Unit MemtierBuilder :=
  match thresholdsVarString with
  | none => .accept builder
  | some thresholds =>
      let copied := thresholds.take (maxEnvString - 1)
      let thresholdsCount := copied.count ctlStringQuerySeparator + 1
      let first := nextToken ctlStringQuerySeparator copied
      if builder.policy ≠ .dynamicThreshold then .reject ()
      else if tierCount ≤ thresholdsCount then .reject ()
      else if first.1 = none then .reject ()
      else
        tokenLoop ctlStringQuerySeparator ctlParseThreshold thresholdsCount first (0, builder) >>=
          fun (state, _) => .accept state.2

/-- What the calls of `ctl_create_tier_memory_from_env` return. -/
structure CtlOutcome where
  tier : Nat → TierOutcome
  builder : Bool
  addTier : Nat → AddTierOutcome
  memory : MemoryOutcome

/-- The loop that adds the tiers to the builder. -/
def ctlAddTiers (outcome : Nat → AddTierOutcome) : List (Option KindPtr × BitVec 32) →
    (i : Nat) → MemtierBuilder → Parsed Unit MemtierBuilder
  | [], _, builder => .accept builder
  | (kind, ratio) :: rest, i, builder =>
      match memtierBuilderAddTier (outcome i) builder kind ratio with
      | (false, _) => .reject ()
      | (true, builder) => ctlAddTiers outcome rest (i + 1) builder

/-- The part of `ctl_create_tier_memory_from_env` from the policy query up to the thresholds. -/
def ctlFillBuilder (outcome : CtlOutcome) (table : TierTable)
    (query : Option CString × CString) : Parsed Unit MemtierBuilder :=
  -- `strtok_r` goes on at the saved pointer when the loop has used up the queries.
  let policyQuery := nextToken ctlValueSeparator (query.1.getD query.2)
  if policyQuery.1 ≠ some "POLICY".toList then .reject ()
  else
    match ctlParsePolicy policyQuery.2 with
    | none => .reject ()
    | some policy =>
        if !outcome.builder then .reject ()
        else ctlAddTiers outcome.addTier table.tempCfg 0 (memtierBuilderNew policy)

/-- The part of `ctl_create_tier_memory_from_env` after the loop over the tiers. -/
def ctlBuildMemory (outcome : CtlOutcome) (tierCount : Nat) (thresholds : Option CString)
    (table : TierTable) (query : Option CString × CString) : Parsed Unit MemtierMemory :=
  ctlFillBuilder outcome table query >>= fun builder =>
    ctlSetThresholds tierCount thresholds builder >>= fun builder =>
      match memtierBuilderConstructMemtierMemory outcome.memory builder with
      | none => .reject ()
      | some memory => .accept memory

/-- The result of `ctl_create_tier_memory_from_env`: an invalid pointer is used, or it returns
`NULL` after it has destroyed the given kinds, or it returns a memory. -/
inductive CtlReturn where
  | crash
  | null (destroyed : List KindPtr)
  | memory (memory : MemtierMemory)

/-- `ctl_destroy_fs_dax_reg` on the way out. `memkind_destroy_kind` reads its argument. -/
def ctlDestroyFsDaxReg (registry : FsDaxRegistry) : CtlReturn :=
  if none ∈ registry then .crash else .null registry.reduceOption

/-- `ctl_create_tier_memory_from_env`, where `thresholds` is `MEMKIND_MEM_THRESHOLDS`. -/
def ctlCreateTierMemoryFromEnv (outcome : CtlOutcome) (envVarString : CString)
    (thresholds : Option CString) : CtlReturn :=
  let copied := envVarString.take (maxEnvString - 1)
  let tierCount := copied.count ctlStringQuerySeparator
  let first := nextToken ctlStringQuerySeparator copied
  if first.1 = none then .null []
  else if tierCount + 1 < 2 then .null []
  else
    match tokenLoop ctlStringQuerySeparator (ctlParseTier outcome.tier) tierCount first ⟨[], []⟩ with
    | .crash => .crash
    | .reject registry => ctlDestroyFsDaxReg registry
    | .accept (table, query) =>
        match ctlBuildMemory outcome tierCount thresholds table query with
        | .crash => .crash
        | .reject () => ctlDestroyFsDaxReg table.registry
        | .accept memory => .memory memory

/-- `MAX_KIND` of `ctl.c`, the number of entries of `temp_cfg`. -/
def ctlMaxKind : Nat := 255

/-- A store into `temp_cfg[i]`. -/
structure TempCfgStore where
  i : Nat
  kind : Option KindPtr
  ratio : BitVec 32
  deriving DecidableEq

/-- The stores of the loop over the tiers from the index `i` on. A query that is not accepted ends
the loop before its store. -/
def ctlTierStores (outcome : Nat → TierOutcome) : (remaining i : Nat) →
    (qbuf : Option CString × CString) → FsDaxRegistry → List TempCfgStore
  | 0, _, _, _ => []
  | remaining + 1, i, qbuf, registry =>
      match ctlParseTierQuery (outcome i) registry qbuf.1 with
      | .accept tier =>
          ⟨i, tier.kind, tier.ratio⟩ ::
            ctlTierStores outcome remaining (i + 1)
              (nextToken ctlStringQuerySeparator qbuf.2) tier.registry
      | .reject _ => []
      | .crash => []

/-- The stores of `ctl_create_tier_memory_from_env` into `temp_cfg`, in their order. -/
def tempCfgStores (outcome : CtlOutcome) (envVarString : CString) : List TempCfgStore :=
  let copied := envVarString.take (maxEnvString - 1)
  let tierCount := copied.count ctlStringQuerySeparator
  let first := nextToken ctlStringQuerySeparator copied
  if first.1 = none then []
  else if tierCount + 1 < 2 then []
  else ctlTierStores outcome.tier tierCount 0 first []

end Memkind
