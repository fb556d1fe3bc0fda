/-
This file fixes the machine types and the limits that the sources share.
-/

import Mathlib.Data.BitVec
import Mathlib.Data.PNat.Defs

namespace Memkind

/-- A `size_t` and a `long long` have the same 64 bits; only comparisons read a sign. -/
abbrev SizeT := BitVec 64

/-- Addresses are 64-bit words. -/
abbrev Address := BitVec 64

/-- `MAP_FAILED` is the address that `mmap` and its relatives return on failure. -/
def mapFailed : Address := BitVec.allOnes 64

/-- `MEMKIND_MAX_KIND` bounds the registry and the counter tables. -/
def maxKind : Nat := 512

/-- `MEMKIND_NUM_STATIC_KINDS` slots hold the kinds of the library itself. -/
def numStaticKinds : Nat := 23

/-- `MEMKIND_NAME_LENGTH_PRIV` is the length of the name array of a kind. -/
def nameLengthPriv : Nat := 64

/-- `NUMA_NUM_NODES` -/
def numaNumNodes : Nat := 128

/-- The status codes of `memkind.h` that the modelled functions return, and the positive
error numbers of system calls that some of them pass on. -/
inductive Status where
  | success
  | errorMalloc
  | errorEnviron
  | errorInvalid
  | errorTooMany
  | errorBadOps
  | errorArenasCreate
  | errorRuntime
  | errno (value : ℕ+)
  deriving DecidableEq

/-- The errors of `memkind.h` that the search for nodes and for huge pages returns. -/
inductive DiscoveryError where
  | unavailable
  | malloc
  | memtypeNotAvailable
  | hugetlb
  deriving DecidableEq

/-- The page size of the machine is a power of two. -/
structure PageSize where
  shift : Nat
  fits : shift < 64

/-- The page size as a number. -/
def PageSize.size (page : PageSize) : Nat := 2 ^ page.shift

theorem PageSize.size_pos (page : PageSize) : 0 < page.size := Nat.two_pow_pos _

end Memkind
