/-
This file embeds the kind of `memkind_pmem.c`, which maps ranges of temporary files, and its
creation in `memkind.c`. The results of system calls are inputs.
-/

import Memkind.Construction.Registry
import Memkind.Library.Descriptors

namespace Memkind

open Library

/-- Descriptors are values of the C type `int`. -/
abbrev Fd := BitVec 32

/-- The descriptors of the process. -/
abbrev Files := Descriptors Fd

/-- `MEMKIND_PMEM_MIN_SIZE` -/
def pmemMinSize : SizeT := 1024 * 1024 * 16

/-- `MEMKIND_PMEM_CHUNK_SIZE` -/
def pmemChunkSize : SizeT := 1 <<< 21

/-- `roundup` from `sys/param.h` for a power of two. -/
def roundup (size unit : SizeT) : SizeT := (size + unit - 1) &&& ~~~(unit - 1)

/-- `struct memkind_pmem` without its lock and its directory. -/
structure PmemPriv where
  fd : Fd
  offset : SizeT
  maxSize : SizeT
  currentSize : SizeT
  deriving DecidableEq

/-- `memkind_pmem_create_tmpfile` for a result of `mkstemp`. A path that is too long ends like a
failure of `mkstemp`. A descriptor in use is never returned. -/
def memkindPmemCreateTmpfile (mkstemp : Fd) (files : Files) : Option (Status × Fd × Files) :=
  if mkstemp.toInt < 0 then some (.errorInvalid, -1, files)
  else (files.create mkstemp).map fun files => (.success, mkstemp, files)

/-- The outcomes of the calls inside `memkind_create_pmem`. -/
structure PmemCreateOutcome where
  mkstemp : Fd
  create : CreateOutcome
  dirAllocated : Bool

/-- The size limit that `memkind_create_pmem` stores. -/
def pmemMaxSize (maxSize : SizeT) : SizeT :=
  if maxSize ≠ 0 then roundup maxSize pmemChunkSize else maxSize

/-- `memkind_create_pmem`. When there is no memory for the copy of the directory, it closes the
file and still reports success. -/
def memkindCreatePmem (maxSize : SizeT) (outcome : PmemCreateOutcome) (registry : Registry)
    (files : Files) : Option (Status × Option KindPtr × Option PmemPriv × Registry × Files) :=
  if maxSize ≠ 0 ∧ maxSize < pmemMinSize then some (.errorInvalid, none, none, registry, files)
  else
    (memkindPmemCreateTmpfile outcome.mkstemp files).bind fun (err, fd, files) =>
      if err ≠ .success then some (err, none, none, registry, files)
      else
        (memkindCreate .pmem (pmemName fd) outcome.create registry).map fun (err, kind, registry) =>
          if err ≠ .success then (err, kind, none, registry, files.close fd)
          else
            let priv := ⟨fd, 0, pmemMaxSize maxSize, 0⟩
            if outcome.dirAllocated then (.success, kind, some priv, registry, files)
            else (.success, kind, some priv, registry, files.close fd)

/-- The results of `posix_fallocate` that the code tells apart, and the error of a length that is
not positive. -/
inductive FallocateResult where
  | success
  | einval
  | efbig
  | otherError
  deriving DecidableEq

/-- The outcomes of the system calls inside `memkind_pmem_mmap`. The second `posix_fallocate` is
the one for a new file. -/
structure PmemOutcome where
  fallocate : FallocateResult
  mkstemp : Fd
  refallocate : FallocateResult
  mmap : Address

/-- `memkind_pmem_recreate_file` tells whether its status is zero. When the new file cannot be
filled, its descriptor stays open. -/
def memkindPmemRecreateFile (outcome : PmemOutcome) (priv : PmemPriv) (files : Files) :
    Option (Bool × PmemPriv × Files) :=
  (memkindPmemCreateTmpfile outcome.mkstemp files).map fun (err, fd, files) =>
    if err ≠ .success ∨ outcome.refallocate ≠ .success then (false, priv, files)
    else (true, { priv with fd := fd, offset := 0 }, files.close priv.fd)

/-- A successful `mmap` of a range of a file. -/
structure PmemMapping where
  address : Address
  file : Nat
  offset : SizeT

/-- The last part of `memkind_pmem_mmap`. A descriptor that is not open cannot be mapped. -/
def pmemMapFile (size : SizeT) (outcome : PmemOutcome) (priv : PmemPriv) (files : Files) :
    Option (Option PmemMapping × PmemPriv × Files) :=
  if outcome.mmap ≠ mapFailed then
    (files.opened priv.fd).map fun file =>
      (some ⟨outcome.mmap, file, priv.offset⟩,
        { priv with
          offset := priv.offset + size
          currentSize := priv.currentSize + size },
        files)
  else some (none, priv, files)

/-- `memkind_pmem_mmap`, with no mapping for `MAP_FAILED`. -/
def memkindPmemMmap (size : SizeT) (outcome : PmemOutcome) (priv : PmemPriv) (files : Files) :
    Option (Option PmemMapping × PmemPriv × Files) :=
  if priv.maxSize ≠ 0 ∧ priv.maxSize < priv.currentSize + size then some (none, priv, files)
  else
    match outcome.fallocate with
    | .success => pmemMapFile size outcome priv files
    | .efbig =>
        (memkindPmemRecreateFile outcome priv files).bind fun (recreated, priv, files) =>
          if recreated then pmemMapFile size outcome priv files else some (none, priv, files)
    | .einval | .otherError => some (none, priv, files)

/-- `pmem_extent_alloc` for an arena of the kind, with no mapping for `NULL`. A pmem kind is
always available. -/
def pmemExtentAlloc (newAddr : Address) (size : SizeT) (outcome : PmemOutcome) (priv : PmemPriv)
    (files : Files) : Option (Option PmemMapping × PmemPriv × Files) :=
  if newAddr ≠ 0 then some (none, priv, files) else memkindPmemMmap size outcome priv files

/-- The results of `madvise` that the code tells apart. -/
inductive MadviseResult where
  | success
  | eopnotsupp
  | otherError
  deriving DecidableEq

/-- The outcomes of the system calls inside `pmem_extent_dalloc`. -/
structure DallocOutcome where
  madvise : MadviseResult
  unmapped : Bool
  deriving DecidableEq

/-- `pmem_extent_dalloc` returns whether it failed. A failing assertion and `abort` end the
program. -/
def pmemExtentDalloc (_addr : Address) (size : SizeT) (outcome : DallocOutcome)
    (priv : PmemPriv) : Option (Bool × PmemPriv) :=
  match outcome.madvise with
  | .success =>
      if size ≤ priv.currentSize then
        some (!outcome.unmapped, { priv with currentSize := priv.currentSize - size })
      else none
  | .eopnotsupp => none
  | .otherError => some (!outcome.unmapped, priv)

end Memkind
