/-
This file decides when the discovery of huge pages cleans up after itself.
-/

import Memkind.Construction.Hugetlb
import Memkind.Library.BreakLoop

namespace Memkind

open Library

variable (machine : HugetlbMachine)

/-- The sizes of the directories that are recognised. -/
def HugetlbMachine.recognised : List SizeT := machine.entries.filterMap DirEntry.pagesize

/-- The infos of some directories in their order. -/
def HugetlbMachine.infosOf (sizes : List SizeT) : List HugepageSizeInfo :=
  sizes.mapIdx fun k pagesize => initHugepageSizeInfo machine.sysfs pagesize k

/-- The length of the array that holds so many infos. -/
def hugetlbArrayLen : Nat → Nat
  | 0 => 2
  | k + 1 => if k = hugetlbArrayLen k then hugetlbArrayLen k * 2 % 2 ^ 32 else hugetlbArrayLen k

/-- The allocations for the next info succeed, and the array can grow when it is full. -/
def HugetlbMachine.Granted (k : Nat) : Prop :=
  (machine.info k).malloc = true ∧ (machine.info k).calloc = true ∧
    (k = hugetlbArrayLen k → (machine.info k).realloc = true ∧ hugetlbArrayLen k * 2 % 2 ^ 32 ≠ 0)

/-- Either an array with one info for each recognised directory is published, or every info was
freed once, the array was freed if it was allocated, and only stored infos were read. -/
def CleansUp (discovery : HugetlbDiscovery) : Prop :=
  (discovery.config.err = none →
    discovery.config.infoArray = some (machine.infosOf machine.recognised) ∧
      discovery.config.infoArrayLen.toInt = machine.recognised.length) ∧
  (discovery.config.err ≠ none →
    discovery.infos.FreedOnce ∧ discovery.arrayFrees = discovery.arrayAllocs ∧
      ∀ position ∈ discovery.reads, position < discovery.stored)

section Loop

variable {machine} {done : List SizeT} {scan : HugetlbScan}

/-- The variables of the loop after some directories. -/
structure StoredInfos (machine : HugetlbMachine) (done : List SizeT) (scan : HugetlbScan) :
    Prop where
  stored : scan.stored = machine.infosOf done
  arrayLen : scan.arrayLen = hugetlbArrayLen done.length
  infos : scan.infos = ⟨done.length, []⟩
  arrayFrees : scan.arrayFrees = 0

/-- The variables when the loop is left after some directories. At the first directory the info
is already freed. -/
structure LeftScan (done : List SizeT) (scan : HugetlbScan) : Prop where
  stored : scan.stored.length = done.length
  first : done = [] → scan.infos.FreedOnce ∧ scan.arrayFrees = 0

theorem StoredInfos.start : StoredInfos machine [] .start := ⟨rfl, rfl, rfl, rfl⟩

theorem StoredInfos.length (held : StoredInfos machine done scan) :
    scan.stored.length = done.length := by
  rw [held.stored, HugetlbMachine.infosOf, List.length_mapIdx]

/-- The infos of one more directory. -/
theorem infosOf_append (pagesize : SizeT) :
    machine.infosOf (done ++ [pagesize]) =
      machine.infosOf done ++ [initHugepageSizeInfo machine.sysfs pagesize done.length] := by
  rw [HugetlbMachine.infosOf, List.mapIdx_append]
  simp [HugetlbMachine.infosOf]

theorem StoredInfos.keeps (pagesize : SizeT) (held : StoredInfos machine done scan)
    (granted : machine.Granted done.length) :
    ∃ next, scan.store machine pagesize = .ok next ∧
      StoredInfos machine (done ++ [pagesize]) next := by
  obtain ⟨malloc, calloc, grows⟩ := granted
  have length : (done ++ [pagesize]).length = done.length + 1 := List.length_append
  have allocated : allocateHugepageSizeInfo (machine.info done.length) scan.infos =
      (some done.length, ⟨done.length + 1, []⟩) := by
    rw [allocateHugepageSizeInfo, malloc, calloc, held.infos]
    rfl
  rw [HugetlbScan.store, held.length, allocated]
  dsimp only
  by_cases full : done.length = scan.arrayLen
  · rw [held.arrayLen] at full
    obtain ⟨realloc, nonzero⟩ := grows full
    have nonzeroScan : scan.grow.arrayLen ≠ 0 := by
      rw [HugetlbScan.grow, held.arrayLen]
      exact nonzero
    rw [held.arrayLen, if_pos full, if_neg (by simp [realloc, nonzeroScan])]
    refine ⟨_, rfl, ?_, ?_, ?_, ?_⟩
    · rw [infosOf_append, held.stored]
    · rw [length, hugetlbArrayLen, if_pos full, ← held.arrayLen]
      rfl
    · rw [length]
    · show (if scan.arrayLen * 2 % 2 ^ 32 = 0 then scan.arrayFrees + 1 else scan.arrayFrees) = 0
      rw [held.arrayLen, if_neg nonzero, held.arrayFrees]
  · rw [if_neg full]
    refine ⟨_, rfl, ?_, ?_, ?_, held.arrayFrees⟩
    · rw [infosOf_append, held.stored]
    · rw [length, hugetlbArrayLen, ← held.arrayLen, if_neg full]
    · rw [length]

/-- The only object of a heap was freed. -/
theorem freedOnce_first : ((Allocations.empty.alloc).free 0).FreedOnce := by
  intro object below
  obtain rfl : object = 0 := Nat.lt_one_iff.mp below
  rfl

theorem StoredInfos.leaves (pagesize : SizeT) (held : StoredInfos machine done scan)
    (refused : ¬machine.Granted done.length) :
    ∃ stop, scan.store machine pagesize = .error stop ∧ LeftScan done stop := by
  rw [HugetlbScan.store, held.length, allocateHugepageSizeInfo]
  by_cases malloc : (machine.info done.length).malloc = true
  · rw [malloc]
    by_cases calloc : (machine.info done.length).calloc = true
    · rw [calloc]
      have full : done.length = scan.arrayLen := by
        by_contra room
        rw [held.arrayLen] at room
        exact refused ⟨malloc, calloc, fun full => absurd full room⟩
      have failed : (!(machine.info done.length).realloc || decide (scan.grow.arrayLen = 0)) =
          true := by
        rw [HugetlbScan.grow, held.arrayLen]
        by_contra served
        simp only [Bool.or_eq_true, Bool.not_eq_eq_eq_not, Bool.not_true, decide_eq_true_eq,
          not_or, Bool.not_eq_false] at served
        exact refused ⟨malloc, calloc, fun _ => served⟩
      refine ⟨_, (if_pos full).trans (if_pos failed), held.length, fun empty => ?_⟩
      rw [held.arrayLen, empty] at full
      exact absurd full (by decide)
    · rw [Bool.not_eq_true] at calloc
      rw [calloc]
      refine ⟨_, rfl, held.length, fun empty => ⟨?_, held.arrayFrees⟩⟩
      subst empty
      rw [held.infos]
      exact freedOnce_first
  · rw [Bool.not_eq_true] at malloc
    rw [malloc]
    refine ⟨_, rfl, held.length, fun empty => ⟨?_, held.arrayFrees⟩⟩
    subst empty
    rw [held.infos]
    intro object below
    exact absurd below (Nat.not_lt_zero object)

/-- Entries that are not recognised do not matter. -/
theorem readdir_eq (scan : HugetlbScan) :
    scan.readdir machine = machine.recognised.foldlM (HugetlbScan.store machine) scan := by
  rw [HugetlbScan.readdir, HugetlbMachine.recognised]
  generalize machine.entries = entries
  induction entries generalizing scan with
  | nil => rfl
  | cons entry rest ih =>
      rw [List.foldlM_cons]
      cases parsed : entry.pagesize with
      | none =>
          rw [List.filterMap_cons_none parsed, ← ih]
          rfl
      | some pagesize =>
          rw [List.filterMap_cons_some parsed, List.foldlM_cons, Option.elim_some]
          cases scan.store machine pagesize with
          | error stop => rfl
          | ok next => exact ih next

end Loop

/-- The condition under which no info is lost: the directory or the array is missing, the first info
is refused, or all infos are granted and their number is an `int`. -/
def HugetlbMachine.LosesNoInfo : Prop :=
  machine.opendir = false ∨ machine.array = false ∨
    (machine.recognised ≠ [] ∧ ¬machine.Granted 0) ∨
    ((∀ k < machine.recognised.length, machine.Granted k) ∧ machine.recognised.length < 2 ^ 31)

variable {machine}

/-- What is asked for on the error exit. -/
theorem cleansUp_of_err {discovery : HugetlbDiscovery} {error : DiscoveryError}
    (failed : discovery.config.err = some error) :
    CleansUp machine discovery ↔ discovery.infos.FreedOnce ∧
      discovery.arrayFrees = discovery.arrayAllocs ∧
      ∀ position ∈ discovery.reads, position < discovery.stored := by
  rw [CleansUp, failed]
  simp

/-- The clean-up reads behind the stored infos unless there are none. -/
theorem LeftScan.cleansUp_iff {done : List SizeT} {scan : HugetlbScan} (left : LeftScan done scan) :
    CleansUp machine (scan.cleanUp machine) ↔ done = [] := by
  rw [cleansUp_of_err rfl]
  constructor
  · intro ⟨_, _, inside⟩
    by_contra nonempty
    have positive : 0 < scan.stored.length := by
      rw [left.stored]
      exact List.length_pos_iff.mpr nonempty
    have read := inside scan.stored.length
      (List.mem_map.mpr ⟨0, List.mem_range.mpr positive, rfl⟩)
    exact Nat.lt_irrefl _ read
  · intro empty
    obtain ⟨freed, arrayFrees⟩ := left.first empty
    have none : scan.stored.length = 0 := by
      rw [left.stored, empty]
      rfl
    rw [HugetlbScan.cleanUp, none, arrayFrees]
    exact ⟨freed, rfl, fun _ read => absurd read List.not_mem_nil⟩

theorem toInt_length (length : Nat) :
    (BitVec.ofNat 32 length).toInt = length ↔ length < 2 ^ 31 := by
  rw [BitVec.toInt_eq_toNat_cond, BitVec.toNat_ofNat]
  split <;> omega

/-- An exit before the loop has nothing to clean up. -/
theorem cleansUp_early (error : DiscoveryError) :
    CleansUp machine ⟨⟨none, 0, some error⟩, .empty, 0, 0, 0, []⟩ := by
  rw [cleansUp_of_err rfl]
  refine ⟨?_, rfl, fun _ read => absurd read List.not_mem_nil⟩
  intro object below
  exact absurd below (Nat.not_lt_zero object)

/-- The array is published when no info is refused, and it is lost behind the first info. -/
theorem cleansUp_loop_iff (opendir : machine.opendir = true) (array : machine.array = true) :
    CleansUp machine (hugepagesConfigInitOnce machine) ↔
      (machine.recognised ≠ [] ∧ ¬machine.Granted 0) ∨
      ((∀ k < machine.recognised.length, machine.Granted k) ∧
        machine.recognised.length < 2 ^ 31) := by
  rw [hugepagesConfigInitOnce, opendir, array, if_neg (by decide), if_neg (by decide), readdir_eq]
  obtain ⟨all, scan, ended, held⟩ | ⟨before, short, earlier, refused, stop, ended, left⟩ :=
    @foldlM_keeps_or_leaves _ _ _ _ (StoredInfos machine) LeftScan machine.Granted
      (fun _ item _ held granted => held.keeps item granted)
      (fun _ item _ held refused => held.leaves item refused)
      machine.recognised [] _ StoredInfos.start
  · rw [ended]
    simp only [List.nil_append] at all held
    have granted : ∀ k < machine.recognised.length, machine.Granted k :=
      fun k below => all k (Nat.zero_le k) below
    have published : CleansUp machine
        ⟨⟨some scan.stored, BitVec.ofNat 32 scan.stored.length, none⟩, scan.infos,
          scan.stored.length, 1, scan.arrayFrees, []⟩ ↔ machine.recognised.length < 2 ^ 31 := by
      rw [← toInt_length, CleansUp, held.length, held.stored]
      simp
    rw [published]
    constructor
    · intro fits
      exact Or.inr ⟨granted, fits⟩
    · intro kept
      obtain ⟨nonempty, first⟩ | ⟨_, fits⟩ := kept
      · exact absurd (granted 0 (List.length_pos_iff.mpr nonempty)) first
      · exact fits
  · rw [ended]
    simp only [List.nil_append] at short earlier refused left
    rw [left.cleansUp_iff]
    constructor
    · intro empty
      rw [empty] at short refused
      exact Or.inl ⟨List.length_pos_iff.mp short, refused⟩
    · intro kept
      obtain ⟨_, first⟩ | ⟨granted, _⟩ := kept
      · by_contra nonempty
        exact first (earlier 0 (Nat.zero_le 0) (List.length_pos_iff.mpr nonempty))
      · exact absurd (granted _ short) refused

/-- The discovery of huge pages cleans up after itself exactly when it loses no info. -/
theorem hugepagesConfigInitOnce_cleansUp_iff (machine : HugetlbMachine) :
    CleansUp machine (hugepagesConfigInitOnce machine) ↔ machine.LosesNoInfo := by
  cases opendir : machine.opendir with
  | false =>
      refine iff_of_true ?_ (Or.inl opendir)
      rw [hugepagesConfigInitOnce, opendir]
      exact cleansUp_early _
  | true =>
      cases array : machine.array with
      | false =>
          refine iff_of_true ?_ (Or.inr (Or.inl array))
          rw [hugepagesConfigInitOnce, opendir, array]
          exact cleansUp_early _
      | true =>
          rw [cleansUp_loop_iff opendir array, HugetlbMachine.LosesNoInfo, opendir, array]
          simp

/-- Two directories, and no memory for the info of the second one. -/
def twoHugepageSizes : HugetlbMachine where
  opendir := true
  entries := [⟨true, "hugepages-1048576kB".toList⟩, ⟨true, "hugepages-2048kB".toList⟩]
  array := true
  info k := ⟨k = 0, true, true⟩
  unset _ := none
  sysfs := ⟨fun _ _ => 0, fun _ => 0⟩

/-- The clean-up reads the position behind the only info and does not free the info. -/
theorem hugepagesConfigInitOnce_leaks :
    (hugepagesConfigInitOnce twoHugepageSizes).config.err = some .malloc ∧
      (hugepagesConfigInitOnce twoHugepageSizes).stored = 1 ∧
      (hugepagesConfigInitOnce twoHugepageSizes).reads = [1] ∧
      (hugepagesConfigInitOnce twoHugepageSizes).infos.frees 0 = 0 ∧
      ¬CleansUp twoHugepageSizes (hugepagesConfigInitOnce twoHugepageSizes) := by
  have scanned : (hugepagesConfigInitOnce twoHugepageSizes).config.err = some .malloc ∧
      (hugepagesConfigInitOnce twoHugepageSizes).stored = 1 ∧
      (hugepagesConfigInitOnce twoHugepageSizes).reads = [1] ∧
      (hugepagesConfigInitOnce twoHugepageSizes).infos.frees 0 = 0 := by decide +kernel
  obtain ⟨err, stored, reads, frees⟩ := scanned
  refine ⟨err, stored, reads, frees, fun cleans => ?_⟩
  have inside := ((cleansUp_of_err err).mp cleans).2.2
  rw [reads, stored] at inside
  exact absurd (inside 1 List.mem_cons_self) (by decide)

end Memkind
