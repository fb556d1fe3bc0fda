/-
This file embeds the statistics of a kind: `memkind_arena_get_stat` and its callers.
-/

import Memkind.Construction.Arena

namespace Memkind

/-- `memkind_stat_type` -/
inductive StatType where
  | resident
  | active
  | allocated
  deriving DecidableEq

/-- The controls of jemalloc below `stats.arenas.<i>` that memkind reads. -/
inductive StatControl where
  | resident
  | pactive
  | smallAllocated
  | largeAllocated
  deriving DecidableEq

/-- What jemalloc reports of its arenas. -/
structure ArenaReport where
  narenas : Nat
  initialized : Nat → Bool
  stat : StatControl → Nat → SizeT
  /-- The controls `stats.resident`, `stats.active` and `stats.allocated`. -/
  global : StatType → Option SizeT

/-- `arena.<i>.initialized` fails for an index that was never used. -/
def ArenaReport.mallctlInitialized (report : ArenaReport) (index : Nat) : Option Bool :=
  if index < report.narenas then some (report.initialized index) else none

/-- `stats.arenas.<i>` fails for an arena that is not initialized. -/
def ArenaReport.mallctlStat (report : ArenaReport) (control : StatControl) (index : Nat) :
    Option SizeT :=
  if index < report.narenas ∧ report.initialized index then some (report.stat control index)
  else none

/-- The rows of `arena_stats`. -/
def StatType.arenaStats : StatType → List StatControl
  | .resident => [.resident]
  | .active => [.pactive]
  | .allocated => [.smallAllocated, .largeAllocated]

/-- The inner loop of `memkind_arena_get_stat`. The sum so far stays in `*value` on an error. -/
def addArenaStats (report : ArenaReport) (index : Nat) : List StatControl → SizeT → Status × SizeT
  | [], value => (.success, value)
  | control :: rest, value =>
      match report.mallctlStat control index with
      | none => (.errorInvalid, value)
      | some tempStat => addArenaStats report index rest (value + tempStat)

/-- The outer loop of `memkind_arena_get_stat`. -/
def arenaStatLoop (report : ArenaReport) (stat : StatType) (checkInit : Bool) (arenaZero : Nat) :
    (remaining i : Nat) → SizeT → Status × SizeT
  | 0, _, value => (.success, value)
  | remaining + 1, i, value =>
      let index := (arenaZero + i) % 2 ^ 32
      match if checkInit then report.mallctlInitialized index else some true with
      | none => (.errorInvalid, value)
      | some false => arenaStatLoop report stat checkInit arenaZero remaining (i + 1) value
      | some true =>
          match addArenaStats report index stat.arenaStats value with
          | (.success, value) =>
              arenaStatLoop report stat checkInit arenaZero remaining (i + 1) value
          | failed => failed

/-- `memkind_arena_get_stat` for a kind with the given range of arenas. -/
def memkindArenaGetStat (report : ArenaReport) (arenaZero arenaMapLen : Nat) (stat : StatType)
    (checkInit : Bool) : Status × SizeT :=
  arenaStatLoop report stat checkInit arenaZero arenaMapLen 0 0

/-- `memkind_arena_get_stat_with_check_init`, where active pages are scaled to bytes. -/
def memkindArenaGetStatWithCheckInit (report : ArenaReport) (arenaZero arenaMapLen : Nat)
    (stat : StatType) (checkInit : Bool) : Status × SizeT :=
  let (status, value) := memkindArenaGetStat report arenaZero arenaMapLen stat checkInit
  match stat with
  | .resident => (status, value)
  | .allocated => (status, value)
  | .active => (status, value <<< 12)

/-- The pointer to `MEMKIND_DEFAULT_STATIC`. -/
def memkindDefault : KindPtr := .library 0

/-- `MEMKIND_HBW_PREFERRED` -/
def memkindHbwPreferred : KindPtr := .library 2

/-- The `arena_zero` of `MEMKIND_DEFAULT_STATIC`. -/
def defaultArenaZero : Nat := 0

/-- The `arena_map_len` of `MEMKIND_DEFAULT_STATIC`. -/
def defaultArenaMapLen : Nat := autoArenas - 1

/-- `memkind_default_get_kind_stat` -/
def memkindDefaultGetKindStat (report : ArenaReport) (stat : StatType) : Status × SizeT :=
  memkindArenaGetStatWithCheckInit report defaultArenaZero defaultArenaMapLen stat true

/-- `memkind_arena_get_kind_stat` -/
def memkindArenaGetKindStat (report : ArenaReport) (kind : ArenaKind) (stat : StatType) :
    Status × SizeT :=
  memkindArenaGetStatWithCheckInit report kind.arenaZero kind.arenaMapLen stat false

/-- `memkind_arena_get_global_stat` -/
def memkindArenaGetGlobalStat (report : ArenaReport) (stat : StatType) : Status × SizeT :=
  match report.global stat with
  | none => (.errorInvalid, 0)
  | some value => (.success, value)

/-- `memkind_get_stat`, where `NULL` asks for the global statistics. -/
def memkindGetStat (report : ArenaReport) (kinds : KindPtr → ArenaKind) (kind : Option KindPtr)
    (stat : StatType) : Status × SizeT :=
  match kind with
  | none => memkindArenaGetGlobalStat report stat
  | some pointer =>
      if pointer = memkindDefault then memkindDefaultGetKindStat report stat
      else memkindArenaGetKindStat report (kinds pointer) stat

end Memkind
