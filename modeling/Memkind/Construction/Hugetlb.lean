/-
This file embeds the discovery of the sizes of huge pages in `memkind_hugetlb.c`.
-/

import Memkind.Construction.Types
import Memkind.Library.Allocations
import Memkind.Library.Scan

namespace Memkind

open Library

/-- The fields of `struct dirent` that are read. -/
structure DirEntry where
  isDir : Bool
  name : List Char

/-- The directory names before the number of kilobytes. -/
def hugepagesStart : List Char := ['h', 'u', 'g', 'e', 'p', 'a', 'g', 'e', 's', '-']

/-- The value that `%zu` stores. -/
def sizeOfNumber (number : Int) : SizeT :=
  if 2 ^ 64 ≤ number.natAbs then BitVec.allOnes 64 else BitVec.ofInt 64 number

/-- `parse_pagesize_from_sysfs_entry`. The characters after the number are not tested. -/
def parsePagesizeFromSysfsEntry (entry : List Char) : Option SizeT :=
  let scanned := sscanf entry
    (hugepagesStart.map .literal ++ [.decimal, .literal 'k', .literal 'B'])
  if scanned.ret = 1 then scanned.number.map fun number => sizeOfNumber number <<< 10 else none

/-- The size of the pages of a directory entry that is recognised. -/
def DirEntry.pagesize (entry : DirEntry) : Option SizeT :=
  if entry.isDir then parsePagesizeFromSysfsEntry entry.name else none

/-- The numbers in the files of `sysfs`, which are zero where a file is missing. -/
structure Sysfs where
  nrHugepages : (node : Nat) → (pagesizeKb : SizeT) → SizeT
  nrOvercommit : (pagesizeKb : SizeT) → SizeT

/-- `struct hugepage_size_info` with the number of its allocation. -/
structure HugepageSizeInfo where
  object : Nat
  size : SizeT
  nrHugepagesPerNode : List SizeT
  nrOvercommit : SizeT
  deriving DecidableEq

/-- `init_hugepage_size_info` -/
def initHugepageSizeInfo (sysfs : Sysfs) (pagesize : SizeT) (object : Nat) : HugepageSizeInfo where
  object := object
  size := pagesize
  nrHugepagesPerNode := (List.range numaNumNodes).map fun node =>
    sysfs.nrHugepages node (pagesize >>> 10)
  nrOvercommit := sysfs.nrOvercommit (pagesize >>> 10)

/-- Which allocations for an info succeed. -/
structure InfoOutcome where
  malloc : Bool
  calloc : Bool
  realloc : Bool

/-- `allocate_hugepage_size_info` -/
def allocateHugepageSizeInfo (outcome : InfoOutcome) (infos : Allocations) :
    Option Nat × Allocations :=
  if !outcome.malloc then (none, infos)
  else if !outcome.calloc then (none, infos.alloc.free infos.fresh)
  else (some infos.fresh, infos.alloc)

/-- The directory, the results of the allocations, where those for an info are numbered by the infos
that are already stored, and the pointers that the array holds where no info is stored. -/
structure HugetlbMachine where
  opendir : Bool
  entries : List DirEntry
  array : Bool
  info : Nat → InfoOutcome
  unset : Nat → Option Nat
  sysfs : Sysfs

/-- The variables of the loop: the infos in the array, its length, the infos that were allocated and
freed, and how often the array was freed. -/
structure HugetlbScan where
  stored : List HugepageSizeInfo
  arrayLen : Nat
  infos : Allocations
  arrayFrees : Nat

/-- The variables before the loop. -/
def HugetlbScan.start : HugetlbScan := ⟨[], 2, .empty, 0⟩

/-- The array is twice as long. A length of zero makes `realloc` free it. -/
def HugetlbScan.grow (scan : HugetlbScan) : HugetlbScan :=
  { scan with
    arrayLen := scan.arrayLen * 2 % 2 ^ 32
    arrayFrees := if scan.arrayLen * 2 % 2 ^ 32 = 0 then scan.arrayFrees + 1 else scan.arrayFrees }

/-- The body of the loop for a directory that is recognised. The loop is left when memory is
missing. -/
def HugetlbScan.store (machine : HugetlbMachine) (scan : HugetlbScan) (pagesize : SizeT) :
    Except HugetlbScan HugetlbScan :=
  let i := scan.stored.length
  match allocateHugepageSizeInfo (machine.info i) scan.infos with
  | (none, infos) => .error { scan with infos }
  | (some object, infos) =>
      let info := initHugepageSizeInfo machine.sysfs pagesize object
      if i = scan.arrayLen then
        if !(machine.info i).realloc || scan.grow.arrayLen = 0 then
          .error { scan.grow with infos := infos.free object }
        else .ok { scan.grow with infos, stored := scan.stored ++ [info] }
      else .ok { scan with infos, stored := scan.stored ++ [info] }

/-- The loop over the directory. -/
def HugetlbScan.readdir (machine : HugetlbMachine) (scan : HugetlbScan) :
    Except HugetlbScan HugetlbScan :=
  machine.entries.foldlM
    (fun scan entry => entry.pagesize.elim (.ok scan) (scan.store machine)) scan

/-- `memkind_hugepages_config` -/
structure HugepagesConfig where
  infoArray : Option (List HugepageSizeInfo)
  infoArrayLen : BitVec 32
  err : Option DiscoveryError

/-- The configuration, the infos that were allocated and freed, the infos that were stored, how
often the array was allocated and freed, and the positions that the clean-up read. -/
structure HugetlbDiscovery where
  config : HugepagesConfig
  infos : Allocations
  stored : Nat
  arrayAllocs : Nat
  arrayFrees : Nat
  reads : List Nat

/-- The pointer at a position of the array. -/
def HugetlbScan.slot (machine : HugetlbMachine) (scan : HugetlbScan) (position : Nat) :
    Option Nat :=
  match scan.stored[position]? with
  | some info => some info.object
  | none => machine.unset position

/-- The clean-up. Its loop counts with `j` and reads the position `i`. -/
def HugetlbScan.cleanUp (machine : HugetlbMachine) (scan : HugetlbScan) : HugetlbDiscovery :=
  let i := scan.stored.length
  { config := ⟨none, 0, some .malloc⟩
    infos := (List.range i).foldl (fun infos _ => infos.freePointer (scan.slot machine i))
      scan.infos
    stored := i
    arrayAllocs := 1
    arrayFrees := scan.arrayFrees + 1
    reads := (List.range i).map fun _ => i }

/-- `hugepages_config_init_once` -/
def hugepagesConfigInitOnce (machine : HugetlbMachine) : HugetlbDiscovery :=
  if !machine.opendir then ⟨⟨none, 0, some .hugetlb⟩, .empty, 0, 0, 0, []⟩
  else if !machine.array then ⟨⟨none, 0, some .malloc⟩, .empty, 0, 0, 0, []⟩
  else
    match HugetlbScan.start.readdir machine with
    | .ok scan =>
        { config := ⟨some scan.stored, BitVec.ofNat 32 scan.stored.length, none⟩
          infos := scan.infos
          stored := scan.stored.length
          arrayAllocs := 1
          arrayFrees := scan.arrayFrees
          reads := [] }
    | .error scan => scan.cleanUp machine

end Memkind
