/-
This file embeds the arenas of `memkind_arena.c`: the creation and the destruction of the arenas
of a kind, the choice of an arena for a thread, and the detection of a kind from a pointer.
-/

import Memkind.Construction.Registry
import Memkind.Library.IndexPool

namespace Memkind

open Library

/-- The largest value of `unsigned`. -/
def uintMax : Nat := 2 ^ 32 - 1

/-- The largest value of `int`. -/
def intMax : Nat := 2 ^ 31 - 1

/-- `MALLOCX_ARENA_MAX` is the length of `arena_registry_g`. -/
def mallocxArenaMax : Nat := 0xffe

/-- `MALLOCX_ARENA_LIMIT` of jemalloc bounds the indices of arenas. -/
def mallocxArenaLimit : Nat := 2 ^ 12 - 1

/-- `auto_arenas` of the build: jemalloc serves `jemk_malloc` from this many arenas, and its
oversize arena has the next index. -/
def autoArenas : Nat := 256

/-- The functions that `ops->get_arena` names for a kind with arenas. -/
inductive GetArena where
  | bijective
  | thread
  deriving DecidableEq

/-- The fields of `struct memkind` that describe its arenas. -/
structure ArenaKind where
  getArena : GetArena
  arenaZero : Nat
  arenaMapLen : Nat
  arenaMapMask : Nat

/-- The `arenas` control of jemalloc: its index pool and the arenas that were created through it
and not destroyed. -/
structure Jemalloc where
  pool : IndexPool
  initialized : Nat → Bool

/-- `ctl_arena_init` takes the last destroyed index or the next fresh one. An index from the
destroyed list is lost when the initialization fails. -/
def ctlArenaInit (created : Bool) (jemalloc : Jemalloc) : Option Nat × Jemalloc :=
  if created && jemalloc.pool.next < mallocxArenaLimit then
    (some jemalloc.pool.next,
      ⟨jemalloc.pool.take, Function.update jemalloc.initialized jemalloc.pool.next true⟩)
  else
    (none, { jemalloc with
      pool := { jemalloc.pool with returned := jemalloc.pool.returned.tail } })

/-- `arena.<i>.destroy` fails without effect when no such arena is initialized. -/
def arenaIDestroy (index : Nat) (jemalloc : Jemalloc) : Jemalloc :=
  if jemalloc.initialized index then
    ⟨jemalloc.pool.give index, Function.update jemalloc.initialized index false⟩
  else jemalloc

/-- The control of jemalloc, `arena_registry_g`, and the arena fields of the kinds. -/
structure ArenaState where
  jemalloc : Jemalloc
  arenaRegistry : Nat → Option KindPtr
  kinds : KindPtr → ArenaKind

/-- What `memkind_set_arena_map_len` reads: the number in `MEMKIND_ARENA_NUM_PER_KIND`, the
number of configured processors, and the limit that was set when the library was built. -/
structure ArenaSettings where
  arenaNumEnv : Option Nat
  configuredCpus : Nat
  cpusPositive : 0 < configuredCpus
  cpusBounded : configuredCpus * 4 ≤ intMax
  arenaLimitPerKind : Nat

/-- The instruction counts the leading zeros of a nonzero word. -/
def builtinClz (v : Nat) : Nat := 31 - Nat.log2 v

/-- `integer_log2` -/
def integerLog2 (v : Nat) : Nat := 32 - (builtinClz v + 1)

/-- `round_pow2_up` with shifts of 32 bits. -/
def roundPow2Up (v : Nat) : Nat :=
  if v ≠ 2 ^ integerLog2 v % 2 ^ 32 then 2 ^ (integerLog2 v + 1) % 2 ^ 32 else v

/-- The number of arenas before it is rounded. -/
def ArenaSettings.calculated (settings : ArenaSettings) : Nat :=
  if settings.arenaLimitPerKind ≠ 0 then
    min settings.arenaLimitPerKind (settings.configuredCpus * 4)
  else settings.configuredCpus * 4

/-- The kind with its number of arenas and the mask for it. -/
def ArenaKind.withMapLen (kind : ArenaKind) (len : Nat) : ArenaKind :=
  { kind with arenaMapLen := len, arenaMapMask := (len + 2 ^ 32 - 1) % 2 ^ 32 }

/-- `memkind_set_arena_map_len` -/
def memkindSetArenaMapLen (settings : ArenaSettings) (kind : ArenaKind) : Status × ArenaKind :=
  match kind.getArena with
  | .bijective => (.success, kind.withMapLen 1)
  | .thread =>
      match settings.arenaNumEnv with
      | some value =>
          if value = 0 ∨ intMax < value then (.errorEnviron, kind)
          else (.success, kind.withMapLen (roundPow2Up value))
      | none => (.success, kind.withMapLen (roundPow2Up settings.calculated))

/-- The outcomes of the control calls for one arena. -/
structure ArenaOutcome where
  /-- jemalloc can initialize the arena. -/
  created : Bool
  /-- The error of installing the extent hooks, if any. -/
  hooks : Option ℕ+

/-- `kind->arena_zero` becomes the lowest index. -/
def ArenaKind.lower (kind : ArenaKind) (index : Nat) : ArenaKind :=
  { kind with arenaZero := min kind.arenaZero index }

/-- The loop of `memkind_arena_create_map`. The indices that jemalloc returned are listed too. A
store outside of `arena_registry_g` has no meaning and gives `none`. -/
def createArenas (pointer : KindPtr) (metadataUseHooks : Bool) (outcome : Nat → ArenaOutcome) :
    (remaining i : Nat) → ArenaState → Option (Status × List Nat × ArenaState)
  | 0, _, state => some (.success, [], state)
  | remaining + 1, i, state =>
      match ctlArenaInit (outcome i).created state.jemalloc with
      | (none, jemalloc) => some (.errorArenasCreate, [], { state with jemalloc })
      | (some index, jemalloc) =>
          -- Without `metadata_use_hooks` the hooks come with the creation.
          match if metadataUseHooks then (outcome i).hooks else none with
          | some error => some (.errno error, [index], { state with jemalloc })
          | none =>
              if mallocxArenaMax ≤ index then none
              else
                (createArenas pointer metadataUseHooks outcome remaining (i + 1)
                  { jemalloc
                    arenaRegistry := Function.update state.arenaRegistry index (some pointer)
                    kinds := Function.update state.kinds pointer
                      ((state.kinds pointer).lower index) }).map
                  fun (status, created, state) => (status, index :: created, state)

/-- `memkind_arena_create_map`, where `initStatus` is the status of `arena_config_init`. -/
def memkindArenaCreateMap (settings : ArenaSettings) (initStatus : Status)
    (metadataUseHooks : Bool) (outcome : Nat → ArenaOutcome) (pointer : KindPtr)
    (state : ArenaState) : Option (Status × List Nat × ArenaState) :=
  if initStatus ≠ .success then some (initStatus, [], state)
  else
    match memkindSetArenaMapLen settings (state.kinds pointer) with
    | (.success, kind) =>
        createArenas pointer metadataUseHooks outcome kind.arenaMapLen 0
          { state with
            kinds := Function.update state.kinds pointer { kind with arenaZero := uintMax } }
    | (err, _) => some (err, [], state)

/-- The loop of `memkind_arena_destroy`. -/
def destroyArenas (arenaZero : Nat) : (remaining i : Nat) → ArenaState → Option ArenaState
  | 0, _, state => some state
  | remaining + 1, i, state =>
      if mallocxArenaMax ≤ (arenaZero + i) % 2 ^ 32 then none
      else destroyArenas arenaZero remaining (i + 1)
        { state with
          jemalloc := arenaIDestroy ((arenaZero + i) % 2 ^ 32) state.jemalloc
          arenaRegistry := Function.update state.arenaRegistry ((arenaZero + i) % 2 ^ 32) none }

/-- `memkind_arena_destroy` -/
def memkindArenaDestroy (pointer : KindPtr) (state : ArenaState) : Option ArenaState :=
  if (state.kinds pointer).arenaMapLen ≠ 0 then
    destroyArenas (state.kinds pointer).arenaZero (state.kinds pointer).arenaMapLen 0 state
  else some state

/-- `get_kind_by_arena` asserts that the index lies in the array. -/
def getKindByArena (state : ArenaState) (arenaInd : Nat) : Option (Option KindPtr) :=
  if arenaInd < mallocxArenaMax then some (state.arenaRegistry arenaInd) else none

/-- `memkind_arena_detect_kind`, where `arenalookupx` finds the arena of a block. -/
def memkindArenaDetectKind (arenalookupx : Address → Nat) (ptr : Address) (state : ArenaState) :
    Option (Option KindPtr) :=
  if ptr = 0 then some none
  else (getKindByArena state (arenalookupx ptr % 2 ^ 32)).map fun kind =>
    -- A block without a registered kind comes from `MEMKIND_DEFAULT`.
    some (kind.getD (.library ⟨0, by decide⟩))

/-- `memkind_bijective_get_arena` -/
def memkindBijectiveGetArena (kind : ArenaKind) : Nat := kind.arenaZero

/-- The arena of a thread hash without `MEMKIND_TLS`. -/
def threadArena (kind : ArenaKind) (hash : BitVec 64) : Nat :=
  (kind.arenaZero + (hash.toNat &&& kind.arenaMapMask) % 2 ^ 32) % 2 ^ 32

/-- The arena of a thread hash with `MEMKIND_TLS`. -/
def threadArenaTls (kind : ArenaKind) (hash : BitVec 64) : Nat :=
  (kind.arenaZero + hash.toNat % kind.arenaMapLen % 2 ^ 32) % 2 ^ 32

end Memkind
