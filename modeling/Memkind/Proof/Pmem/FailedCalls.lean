/-
This file decides which failing system calls a pmem kind survives: those of a release with the
size that it counts, and those of a mapping with its descriptors.
-/

import Memkind.Proof.Pmem.SizeLimit

namespace Memkind

open Library

/-- What happens outside of the kind when a release may fail: an allocation is as before, jemalloc
only gives back ranges that it still has, and the file system can remove them. -/
def PmemCall.Possible (call : PmemCall) (run : PmemRun) : Prop :=
  match call with
  | .alloc newAddr size outcome => PmemCall.Assumed (.alloc newAddr size outcome) run
  | .dalloc addr size outcome => bytesAt addr size ⊆ run.mapped ∧ outcome.madvise ≠ .eopnotsupp

/-- Either both system calls of a release succeed, or both fail. -/
def PmemCall.Agrees (call : PmemCall) (_ : PmemRun) : Prop :=
  match call with
  | .alloc _ _ _ => True
  | .dalloc _ size outcome => size = 0 ∨ (outcome.madvise = .success ↔ outcome.unmapped = true)

/-- The size of the kind is the number of bytes whose release has not been reported, and the
release of any of them cannot wrap it. -/
structure PmemRun.Counted (run : PmemRun) : Prop where
  counted : run.priv.currentSize.toNat = run.mapped.card
  covered : ∀ addr size outcome, bytesAt addr size ⊆ run.mapped →
    outcome.madvise ≠ .eopnotsupp → ∃ failed next,
      pmemExtentDalloc addr size outcome run.priv = some (failed, next) ∧
        next.currentSize ≤ run.priv.currentSize

theorem PmemRun.Sound.toCounted {maxSize : SizeT} {run : PmemRun} (sound : run.Sound maxSize) :
    run.Counted where
  counted := sound.counted
  covered := by
    intro addr size outcome mapped supported
    have fits := sound.size_le mapped
    unfold pmemExtentDalloc
    split
    · refine ⟨_, _, if_pos fits, ?_⟩
      rw [BitVec.le_def, BitVec.toNat_sub_of_le fits]
      exact Nat.sub_le _ _
    · rename_i unsupported
      exact absurd unsupported supported
    · exact ⟨_, _, rfl, BitVec.le_refl _⟩

/-- In every run of allocations and releases whose system calls may fail, the size of a pmem kind
counts the bytes that have not been reported as released exactly when, in each release, both
system calls have the same success. -/
theorem pmemRun_counted_iff (maxSize : SizeT) (outcome : PmemCreateOutcome)
    (registry next : Registry) (files after : Files) (kind : Option KindPtr) (priv : PmemPriv)
    (created : memkindCreatePmem maxSize outcome registry files =
      some (.success, kind, some priv, next, after))
    (calls : List PmemCall)
    (possible : Guarded pmemStep PmemCall.Possible ⟨priv, after, ∅⟩ calls) :
    Always pmemStep PmemRun.Counted ⟨priv, after, ∅⟩ calls ↔
      Guarded pmemStep PmemCall.Agrees ⟨priv, after, ∅⟩ calls := by
  have start : PmemRun.Sound maxSize ⟨priv, after, ∅⟩ := by
    obtain ⟨fd, rfl⟩ := memkindCreatePmem_priv created
    exact ⟨rfl, rfl, fun _ => Nat.zero_le _⟩
  apply always_iff_guarded_of_assumed pmemStep (fun _ sound => sound.toCounted) ?_ ?_ start possible
  · intro call run next sound possible stepped agrees
    cases call with
    | alloc newAddr size outcome =>
        exact pmemStep_sound (.alloc newAddr size outcome) run next sound possible stepped
    | dalloc addr size outcome =>
        rw [pmemStep_dalloc possible.2 (sound.size_le possible.1)] at stepped
        cases stepped
        exact sound.dalloc possible.1 agrees
  · intro call run next sound possible stepped counts
    cases call with
    | alloc newAddr size outcome => trivial
    | dalloc addr size outcome =>
        rw [pmemStep_dalloc possible.2 (sound.size_le possible.1)] at stepped
        cases stepped
        exact (sound.dalloc_counted_iff possible.1 outcome).mp counts.counted

/-- Two pages whose release fails in both system calls and is then repeated. -/
def repeatedCalls : List PmemCall :=
  [twoPages, .dalloc 0x10000 0x2000 ⟨.otherError, false⟩, .dalloc 0x10000 0x2000 ⟨.success, true⟩]

theorem twoPages_possible (after : Files) :
    twoPages.Possible ⟨⟨5, 0, pmemMinSize, 0⟩, after, ∅⟩ := ⟨by decide, by simp, by simp⟩

/-- The release of both pages is counted as `madvise` ends and reported as `munmap` ends. -/
theorem twoPagesMapped_dalloc (after : Files) {outcome : DallocOutcome}
    (supported : outcome.madvise ≠ .eopnotsupp) :
    pmemStep (.dalloc 0x10000 0x2000 outcome) (twoPagesMapped after) =
      some ((twoPagesMapped after).dalloc 0x10000 0x2000 outcome) := by
  apply pmemStep_dalloc supported
  show (0x2000 : SizeT) ≤ 0 + 0x2000
  decide

theorem pmemRun_counted_repeated :
    ∃ kind priv next after,
      memkindCreatePmem pmemMinSize ⟨5, grantedAt 0x100, true⟩ Registry.initial
        (Descriptors.empty Fd) = some (.success, kind, some priv, next, after) ∧
      Guarded pmemStep PmemCall.Possible ⟨priv, after, ∅⟩ repeatedCalls ∧
      (runSteps pmemStep ⟨priv, after, ∅⟩ repeatedCalls).isSome ∧
      Always pmemStep PmemRun.Counted ⟨priv, after, ∅⟩ repeatedCalls := by
  obtain ⟨kind, next, after, created, opened⟩ := firstPmem_created
  have first := firstPmem_twoPages opened
  have second : pmemStep (.dalloc 0x10000 0x2000 ⟨.otherError, false⟩) (twoPagesMapped after) =
      some (twoPagesMapped after) := rfl
  have third : pmemStep (.dalloc 0x10000 0x2000 ⟨.success, true⟩) (twoPagesMapped after) =
      some ((twoPagesMapped after).dalloc 0x10000 0x2000 ⟨.success, true⟩) :=
    twoPagesMapped_dalloc after (by decide)
  have mapped : bytesAt 0x10000 0x2000 ⊆ (twoPagesMapped after).mapped :=
    Finset.subset_union_right
  have possible : Guarded pmemStep PmemCall.Possible ⟨⟨5, 0, pmemMinSize, 0⟩, after, ∅⟩
      repeatedCalls := by
    apply Guarded.cons pmemStep first (twoPages_possible after)
    apply Guarded.cons pmemStep second ⟨mapped, by decide⟩
    exact Guarded.cons pmemStep third ⟨mapped, by decide⟩ trivial
  have agrees : Guarded pmemStep PmemCall.Agrees ⟨⟨5, 0, pmemMinSize, 0⟩, after, ∅⟩
      repeatedCalls := by
    apply Guarded.cons pmemStep first trivial
    apply Guarded.cons pmemStep second (Or.inr (by decide))
    exact Guarded.cons pmemStep third (Or.inr (by decide)) trivial
  have ran : (runSteps pmemStep ⟨⟨5, 0, pmemMinSize, 0⟩, after, ∅⟩ repeatedCalls).isSome := by
    simp only [repeatedCalls, runSteps_cons, first, second, third, Option.bind_some, runSteps_nil,
      Option.isSome_some]
  exact ⟨kind, _, next, after, created, possible, ran,
    (pmemRun_counted_iff _ _ _ next _ after kind _ created repeatedCalls possible).mpr agrees⟩

/-- When `munmap` fails behind `madvise`, the pages are no longer counted and the next release of
them fails the assertion. When only `madvise` fails, pages that are gone stay counted. -/
theorem halfRelease_miscounts :
    ∃ kind priv next after,
      memkindCreatePmem pmemMinSize ⟨5, grantedAt 0x100, true⟩ Registry.initial
        (Descriptors.empty Fd) = some (.success, kind, some priv, next, after) ∧
      (∃ final, runSteps pmemStep ⟨priv, after, ∅⟩
          [twoPages, .dalloc 0x10000 0x2000 ⟨.success, false⟩] = some final ∧
        final.priv.currentSize = 0 ∧ final.mapped.card = 0x2000 ∧
        pmemExtentDalloc 0x10000 0x2000 ⟨.success, false⟩ final.priv = none) ∧
      ∃ final, runSteps pmemStep ⟨priv, after, ∅⟩
          [twoPages, .dalloc 0x10000 0x2000 ⟨.otherError, true⟩] = some final ∧
        final.priv.currentSize = 0x2000 ∧ final.mapped.card = 0 := by
  obtain ⟨kind, next, after, created, opened⟩ := firstPmem_created
  have ran : ∀ outcome : DallocOutcome, outcome.madvise ≠ .eopnotsupp →
      runSteps pmemStep ⟨⟨5, 0, pmemMinSize, 0⟩, after, ∅⟩
        [twoPages, .dalloc 0x10000 0x2000 outcome] =
          some ((twoPagesMapped after).dalloc 0x10000 0x2000 outcome) := by
    intro outcome supported
    simp only [runSteps_cons, firstPmem_twoPages opened, twoPagesMapped_dalloc after supported,
      Option.bind_some, runSteps_nil]
  have nothing : (0 + 0x2000 - 0x2000 : SizeT) = 0 := by decide
  refine ⟨kind, _, next, after, created, ⟨_, ran _ (by decide), nothing, ?_, ?_⟩,
    _, ran _ (by decide), ?_, ?_⟩
  · show (∅ ∪ bytesAt 0x10000 0x2000).card = 0x2000
    rw [Finset.empty_union, card_bytesAt]
    rfl
  · have wraps : ¬(0x2000 : SizeT) ≤ 0 + 0x2000 - 0x2000 := by decide
    exact if_neg wraps
  · show (0 + 0x2000 - 0 : SizeT) = 0x2000
    decide
  · show ((∅ ∪ bytesAt 0x10000 0x2000) \ bytesAt 0x10000 0x2000).card = 0
    rw [Finset.empty_union, Finset.sdiff_self, Finset.card_empty]

/-- The open descriptors of the process. -/
def openDescriptors (files : Files) : Set Fd := {fd | (files.opened fd).isSome}

/-- The size of the kind is as before, and besides the descriptors that it never had, exactly the
one of its file is open. -/
structure KeepsOneFile (priv next : PmemPriv) (files after : Files) : Prop where
  size : next.currentSize = priv.currentSize
  own : next.fd ∉ openDescriptors files \ {priv.fd}
  descriptors : openDescriptors after = insert next.fd (openDescriptors files \ {priv.fd})

theorem KeepsOneFile.refl {priv : PmemPriv} {files : Files}
    (owned : (files.opened priv.fd).isSome) : KeepsOneFile priv priv files files where
  size := rfl
  own := fun other => other.2 rfl
  descriptors := by
    have member : priv.fd ∈ openDescriptors files := owned
    rw [Set.insert_sdiff_singleton, Set.insert_eq_of_mem member]

/-- A file that replaces the one of the kind becomes its only file. -/
theorem KeepsOneFile.recreated {priv : PmemPriv} {files table : Files} {fd : Fd}
    (owned : (files.opened priv.fd).isSome) (created : files.create fd = some table) :
    KeepsOneFile priv { priv with fd := fd, offset := 0 } files (table.close priv.fd) := by
  obtain ⟨unused, opened⟩ := Descriptors.opened_create created
  have different : fd ≠ priv.fd := by
    rintro rfl
    simp [unused] at owned
  refine ⟨rfl, ?_, ?_⟩
  · rintro ⟨used, -⟩
    simp [openDescriptors, unused] at used
  · ext other
    show (Function.update table.opened priv.fd none other).isSome ↔ _
    rw [opened, Function.update_apply, Function.update_apply]
    by_cases new : other = fd
    · simp [new, different]
    · by_cases old : other = priv.fd <;> simp [new, old, openDescriptors, different.symm]

theorem PmemReady.not_fileLost {size : SizeT} {outcome : PmemOutcome} {priv ready : PmemPriv}
    {files after : Files} (prepared : PmemReady outcome priv files ready after) :
    ¬pmemFileLost size outcome priv := by
  rintro ⟨-, large, -, unfilled⟩
  cases prepared with
  | kept filled => simp [filled] at large
  | recreated fd table filled created => exact unfilled filled

/-- A failed `memkind_pmem_mmap` keeps the size and leaves one open file to the kind exactly when
there is no new file that could not be filled. -/
theorem memkindPmemMmap_failed_iff (size : SizeT) (outcome : PmemOutcome) (priv next : PmemPriv)
    (files after : Files) (owned : (files.opened priv.fd).isSome)
    (failed : memkindPmemMmap size outcome priv files = some (none, next, after)) :
    KeepsOneFile priv next files after ↔ ¬pmemFileLost size outcome priv := by
  obtain ⟨-, rfl, ⟨kept, rfl⟩ | ⟨lost, created⟩⟩ | ⟨-, ready, prepared, result⟩ :=
    memkindPmemMmap_cases failed
  · exact iff_of_true (KeepsOneFile.refl owned) kept
  · refine iff_of_false ?_ (not_not.mpr lost)
    intro keeps
    obtain ⟨unused, opened⟩ := Descriptors.opened_create created
    have leaked : outcome.mkstemp ∈ openDescriptors after := by
      simp [openDescriptors, opened]
    rw [keeps.descriptors] at leaked
    -- The new descriptor was free, so it is neither the file of the kind nor another one.
    rcases leaked with same | ⟨used, -⟩
    · rw [← same, unused] at owned
      cases owned
    · simp [openDescriptors, unused] at used
  · obtain ⟨-, rfl⟩ | ⟨-, file, -, mapped, -⟩ := result
    · refine iff_of_true ?_ prepared.not_fileLost
      cases prepared with
      | kept filled => exact KeepsOneFile.refl owned
      | recreated fd table filled created => exact KeepsOneFile.recreated owned created
    · cases mapped

/-- The new file is filled, but not mapped. -/
theorem memkindPmemMmap_failed_unmapped :
    ∃ files after, (Descriptors.empty Fd).create 5 = some files ∧
      memkindPmemMmap 0x1000 ⟨.efbig, 6, .success, mapFailed⟩ ⟨5, 0x7000, 0, 0x7000⟩ files =
        some (none, ⟨6, 0, 0, 0x7000⟩, after) ∧
      KeepsOneFile ⟨5, 0x7000, 0, 0x7000⟩ ⟨6, 0, 0, 0x7000⟩ files after := by
  refine ⟨_, _, rfl, rfl, ?_⟩
  apply (memkindPmemMmap_failed_iff 0x1000 ⟨.efbig, 6, .success, mapFailed⟩ _ _ _ _ ?_ ?_).mpr
  · rintro ⟨-, -, -, unfilled⟩
    exact unfilled rfl
  · rfl
  · rfl

/-- A new file that cannot be filled stays open, although nothing leads to it any more. -/
theorem unfilledFile_staysOpen :
    ∃ files after, (Descriptors.empty Fd).create 5 = some files ∧
      memkindPmemMmap 0x1000 ⟨.efbig, 6, .otherError, mapFailed⟩ ⟨5, 0x7000, 0, 0x7000⟩ files =
        some (none, ⟨5, 0x7000, 0, 0x7000⟩, after) ∧
      6 ∉ openDescriptors files ∧ openDescriptors after = {5, 6} := by
  refine ⟨_, _, rfl, rfl, ?_, ?_⟩
  · simp [openDescriptors, Descriptors.empty]
  · ext fd
    show (Function.update (Function.update (fun _ => none) 5 _) 6 _ fd).isSome ↔ fd = 5 ∨ fd = 6
    rw [Function.update_apply, Function.update_apply]
    split
    · exact iff_of_true rfl (Or.inr ‹_›)
    · split
      · exact iff_of_true rfl (Or.inl ‹_›)
      · exact iff_of_false Bool.false_ne_true (not_or.mpr ⟨‹_›, ‹_›⟩)

end Memkind
