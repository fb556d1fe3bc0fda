/-
This file embeds the creation of a pmem kind in `memkind.c` together with the copy of its
directory and the usage policy of a configuration.
-/

import Memkind.Construction.Arena
import Memkind.Construction.Pmem

namespace Memkind

open Library

/-- A string of C without its terminating zero byte. -/
structure ByteString where
  bytes : List UInt8
  noNul : 0 ∉ bytes

/-- `strlen` -/
def ByteString.strlen (string : ByteString) : Nat := string.bytes.length

/-- The bytes of a heap block by their offset. -/
abbrev HeapBytes := Nat → UInt8

/-- `memcpy(block, string, strlen(string))` -/
def memcpyString (string : ByteString) (block : HeapBytes) : HeapBytes :=
  fun offset => (string.bytes[offset]?).getD (block offset)

/-- `PATH_MAX` -/
def pathMax : Nat := 4096

/-- The outcomes of the calls inside `memkind_create_pmem`, with the previous content of the block
that `jemk_malloc` returns for the directory. -/
structure PmemDirOutcome where
  mkstemp : Fd
  create : CreateOutcome
  dirBlock : Option HeapBytes

/-- `struct memkind_pmem` with the block of its directory, or `NULL`. -/
structure PmemData where
  priv : PmemPriv
  dir : Option HeapBytes

/-- The result of the creation of a pmem kind. -/
structure PmemCreated where
  status : Status
  kind : Option KindPtr
  data : Option PmemData
  registry : Registry
  files : Files

/-- `memkind_create_pmem` with its directory. A path that is too long fails like `mkstemp`, and
one whose length is no `int` has no meaning. -/
def memkindCreatePmemDir (dir : ByteString) (maxSize : SizeT) (outcome : PmemDirOutcome)
    (registry : Registry) (files : Files) : Option PmemCreated :=
  if intMax < dir.strlen then none
  else
    let mkstemp := if pathMax < dir.strlen then -1 else outcome.mkstemp
    (memkindCreatePmem maxSize ⟨mkstemp, outcome.create, outcome.dirBlock.isSome⟩ registry
      files).map fun created =>
        { status := created.1
          kind := created.2.1
          data := created.2.2.1.map fun priv => ⟨priv, outcome.dirBlock.map (memcpyString dir)⟩
          registry := created.2.2.2.1
          files := created.2.2.2.2 }

/-- The values of `memkind_mem_usage_policy`. -/
inductive UsagePolicy where
  | default
  | conservative
  | unrecognized
  deriving DecidableEq

/-- The loop of `memkind_arena_update_memory_usage_policy`, where `mallctl` tells whether jemalloc
accepts the decay time for an arena. -/
def setDirtyDecay (mallctl : Nat → Bool) (arenaZero : Nat) : (remaining i : Nat) → Status
  | 0, _ => .success
  | remaining + 1, i =>
      if mallctl ((arenaZero + i) % 2 ^ 32) then setDirtyDecay mallctl arenaZero remaining (i + 1)
      else .errorInvalid

/-- `memkind_arena_update_memory_usage_policy` -/
def memkindArenaUpdateMemoryUsagePolicy (mallctl : Nat → Nat → Bool) (kind : ArenaKind) :
    UsagePolicy → Status
  | .default => setDirtyDecay (mallctl 10000) kind.arenaZero kind.arenaMapLen 0
  | .conservative => setDirtyDecay (mallctl 0) kind.arenaZero kind.arenaMapLen 0
  | .unrecognized => .errorInvalid

/-- `struct memkind_config` -/
structure MemkindConfig where
  pmemDir : ByteString
  pmemSize : SizeT
  policy : UsagePolicy

/-- `memkind_create_pmem_with_config`, where `arenas` are the arenas of the new kind. -/
def memkindCreatePmemWithConfig (cfg : MemkindConfig) (outcome : PmemDirOutcome)
    (mallctl : Nat → Nat → Bool) (arenas : ArenaKind) (registry : Registry) (files : Files) :
    Option PmemCreated :=
  (memkindCreatePmemDir cfg.pmemDir cfg.pmemSize outcome registry files).map fun result =>
    if result.status = .success then
      { result with status := memkindArenaUpdateMemoryUsagePolicy mallctl arenas cfg.policy }
    else result

end Memkind
