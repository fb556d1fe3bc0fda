/-
This file proves that a pmem kind never maps a byte of a file twice.
-/

import Memkind.Library.Extents
import Memkind.Library.Run
import Memkind.Proof.Pmem.Steps

namespace Memkind

open Library

variable {history : PmemHistory}

/-- The range of a file behind a result of `memkind_pmem_mmap`. -/
structure FileRange where
  file : Nat
  extent : Extent
  deriving DecidableEq

/-- Two ranges are in different files or have no byte in common. -/
def FileRange.Apart (first second : FileRange) : Prop :=
  first.file = second.file → first.extent.Apart second.extent

/-- The calls of `memkind_pmem_mmap` and what other code may do to the descriptors: it opens new
files, and it may close any descriptor. -/
inductive PmemEvent where
  | mmap (size : SizeT) (outcome : PmemOutcome)
  | openOther (fd : Fd)
  | closeOther (fd : Fd)

/-- The private data of the kind, the descriptors of the process and the ranges of all results
that the kind has ever returned. -/
structure PmemHistory where
  priv : PmemPriv
  files : Files
  results : List FileRange

/-- One event. -/
def pmemEventStep (event : PmemEvent) (history : PmemHistory) : Option PmemHistory :=
  match event with
  | .mmap size outcome =>
      (memkindPmemMmap size outcome history.priv history.files).map
        fun (mapping, priv, files) =>
          ⟨priv, files, match mapping with
            | none => history.results
            | some mapping =>
                ⟨mapping.file, ⟨mapping.offset.toNat, size.toNat⟩⟩ :: history.results⟩
  | .openOther fd => (history.files.create fd).map fun files => { history with files := files }
  | .closeOther fd => some { history with files := history.files.close fd }

/-- `posix_fallocate` only succeeds for an offset that is not negative and a positive length. -/
def FallocateResult.Documented (offset size : SizeT) (result : FallocateResult) : Prop :=
  result = .success → 0 ≤ offset.toInt ∧ 0 < size.toInt

/-- Both calls of `posix_fallocate` do what is documented. -/
def PmemEvent.Documented (event : PmemEvent) (history : PmemHistory) : Prop :=
  match event with
  | .mmap size outcome =>
      outcome.fallocate.Documented history.priv.offset size ∧
        outcome.refallocate.Documented 0 size
  | .openOther _ => True
  | .closeOther _ => True

instance (offset size : SizeT) (result : FallocateResult) :
    Decidable (result.Documented offset size) :=
  inferInstanceAs (Decidable (_ → _))

instance (event : PmemEvent) (history : PmemHistory) : Decidable (event.Documented history) :=
  match event with
  | .mmap _ _ => inferInstanceAs (Decidable (_ ∧ _))
  | .openOther _ => isTrue trivial
  | .closeOther _ => isTrue trivial

/-- The ranges of all results are pairwise disjoint. -/
def PmemHistory.Separate (history : PmemHistory) : Prop :=
  history.results.Pairwise FileRange.Apart

/-- The invariant of the file ranges: a result whose file is still open lies behind the
descriptor of the kind and below its offset. -/
structure PmemHistory.Sound (history : PmemHistory) : Prop where
  earlier : ∀ result ∈ history.results, result.file < history.files.created
  below : ∀ result ∈ history.results, ∀ fd, history.files.opened fd = some result.file →
    fd = history.priv.fd ∧ result.extent.stop ≤ history.priv.offset.toNat
  separate : history.Separate

/-- A new file does not concern the earlier results. -/
theorem PmemHistory.Sound.create (sound : history.Sound) {fd : Fd} {table : Files}
    (created : history.files.create fd = some table) :
    PmemHistory.Sound { history with files := table } where
  earlier := by
    intro result member
    have earlier := sound.earlier result member
    dsimp only
    rw [Descriptors.created_create created]
    omega
  below := by
    intro result member other opened
    apply sound.below result member
    exact Descriptors.opened_of_create created (sound.earlier result member) opened
  separate := sound.separate

/-- A closed descriptor does not concern the earlier results. -/
theorem PmemHistory.Sound.close (sound : history.Sound) (fd : Fd) :
    PmemHistory.Sound { history with files := history.files.close fd } where
  earlier := sound.earlier
  below := by
    intro result member other opened
    exact sound.below result member other (Descriptors.opened_of_close opened).2
  separate := sound.separate

/-- After the descriptor of the kind is closed, none of its results has an open file, so that it
may start anew with any descriptor and any offset. -/
theorem PmemHistory.Sound.switch (sound : history.Sound) {next : PmemPriv} : PmemHistory.Sound
      { history with
        priv := next
        files := history.files.close history.priv.fd } where
  earlier := sound.earlier
  below := by
    intro result member fd opened
    obtain ⟨different, before⟩ := Descriptors.opened_of_close opened
    exact absurd (sound.below result member fd before).1 different
  separate := sound.separate

/-- The kind comes to its `mmap` with the invariant, and with a valid range of its file. -/
theorem PmemHistory.Sound.ready (sound : history.Sound) {size : SizeT} {outcome : PmemOutcome}
    (documented : (PmemEvent.mmap size outcome).Documented history) {ready : PmemPriv}
    {files : Files} (prepared : PmemReady outcome history.priv history.files ready files) :
    PmemHistory.Sound ⟨ready, files, history.results⟩ ∧
      0 ≤ ready.offset.toInt ∧ 0 < size.toInt := by
  cases prepared with
  | kept filled => exact ⟨sound, documented.1 filled⟩
  | recreated fd table filled created =>
      exact ⟨(sound.create created).switch, documented.2 filled⟩

/-- A range at the offset of the kind keeps the invariant. -/
theorem PmemHistory.Sound.push (sound : history.Sound) {size : SizeT} {file : Nat}
    {next : PmemPriv} (opened : history.files.opened history.priv.fd = some file)
    (kept : next.fd = history.priv.fd)
    (moved : next.offset.toNat = history.priv.offset.toNat + size.toNat) :
    PmemHistory.Sound ⟨next, history.files,
      ⟨file, ⟨history.priv.offset.toNat, size.toNat⟩⟩ :: history.results⟩ where
  earlier := by
    exact List.forall_mem_cons.mpr ⟨history.files.older _ file opened, sound.earlier⟩
  below := by
    intro result member fd holds
    rcases List.mem_cons.mp member with rfl | member
    · rw [kept]
      exact ⟨history.files.single _ _ _ holds opened, Nat.le_of_eq moved.symm⟩
    · obtain ⟨same, below⟩ := sound.below result member fd holds
      rw [kept, moved]
      exact ⟨same, Nat.le_add_right_of_le below⟩
  separate := by
    apply List.pairwise_cons.mpr
    refine ⟨?_, sound.separate⟩
    intro other member same
    have below := sound.below other member history.priv.fd (by rw [opened, ← same])
    exact Or.inr below.2

/-- Each event keeps the invariant when `posix_fallocate` does what is documented. -/
theorem pmemEventStep_sound (event : PmemEvent) (history next : PmemHistory)
    (sound : history.Sound) (documented : event.Documented history)
    (stepped : pmemEventStep event history = some next) : next.Sound := by
  cases event with
  | openOther fd =>
      obtain ⟨files, created, rfl⟩ := Option.map_eq_some_iff.mp stepped
      exact sound.create created
  | closeOther fd =>
      cases stepped
      exact sound.close fd
  | mmap size outcome =>
      obtain ⟨⟨mapping, priv, files⟩, called, rfl⟩ := Option.map_eq_some_iff.mp stepped
      rcases memkindPmemMmap_cases called with
        ⟨rfl, rfl, ⟨-, rfl⟩ | ⟨-, created⟩⟩ | ⟨-, ready, prepared, result⟩
      · exact sound
      · exact sound.create created
      · obtain ⟨sound, nonneg, positive⟩ := sound.ready documented prepared
        rcases result with ⟨rfl, rfl⟩ | ⟨-, file, opened, rfl, rfl⟩
        · exact sound
        · apply PmemHistory.Sound.push sound opened
          · rfl
          · have start := toNat_lt_of_toInt_nonneg nonneg
            have length := toNat_lt_of_toInt_nonneg positive.le
            dsimp only
            rw [BitVec.toNat_add]
            omega

/-- In every run of `memkind_pmem_mmap` with any outcomes of its system calls, no two results of
a pmem kind share a byte of a file. -/
theorem pmemHistory_separate (priv : PmemPriv) (files : Files) (events : List PmemEvent)
    (documented : Guarded pmemEventStep PmemEvent.Documented ⟨priv, files, []⟩ events) :
    Always pmemEventStep PmemHistory.Separate ⟨priv, files, []⟩ events := by
  have start : PmemHistory.Sound ⟨priv, files, []⟩ :=
    ⟨by simp, by simp, List.Pairwise.nil⟩
  have always := always_of_guarded pmemEventStep pmemEventStep_sound start documented
  exact Always.imp pmemEventStep (fun _ sound => sound.separate) always

/-- Two ranges of the first file, a switch to a second file whose first `mmap` fails, a switch
that fails, and a range at the start of the second file. -/
def switchEvents : List PmemEvent :=
  [.mmap 0x4000 ⟨.success, -1, .success, 0x10000⟩,
    .mmap 0x1000 ⟨.success, -1, .success, 0x14000⟩,
    .mmap 0x8000 ⟨.efbig, 6, .success, mapFailed⟩,
    .openOther 5,
    .mmap 0x8000 ⟨.efbig, 7, .otherError, mapFailed⟩,
    .mmap 0x2000 ⟨.success, -1, .success, 0x15000⟩]

/-- The ranges of these events. -/
def switchRanges : List FileRange :=
  [⟨1, ⟨0, 0x2000⟩⟩, ⟨0, ⟨0x4000, 0x1000⟩⟩, ⟨0, ⟨0, 0x4000⟩⟩]

theorem pmemHistory_separate_switch :
    ∃ kind priv next files final,
      memkindCreatePmem 0 ⟨5, grantedAt 0x100, true⟩ Registry.initial (Descriptors.empty Fd) =
        some (.success, kind, some priv, next, files) ∧
      Guarded pmemEventStep PmemEvent.Documented ⟨priv, files, []⟩ switchEvents ∧
      runSteps pmemEventStep ⟨priv, files, []⟩ switchEvents = some final ∧
      final.results = switchRanges ∧ final.Separate := by
  have computed : ((memkindCreatePmem 0 ⟨5, grantedAt 0x100, true⟩ Registry.initial
      (Descriptors.empty Fd)).map fun (err, _, priv, _, files) =>
        (err, priv, priv.map fun priv =>
          (decide (Guarded pmemEventStep PmemEvent.Documented ⟨priv, files, []⟩ switchEvents),
            (runSteps pmemEventStep ⟨priv, files, []⟩ switchEvents).map fun final =>
              decide (final.results = switchRanges)))) =
      some (.success, some ⟨5, 0, 0, 0⟩, some (true, some true)) := by
    decide +kernel
  obtain ⟨⟨err, kind, priv, next, files⟩, created, fields⟩ := Option.map_eq_some_iff.mp computed
  simp only [Prod.mk.injEq] at fields
  obtain ⟨rfl, rfl, ran⟩ := fields
  simp only [Option.map_some, Option.some.injEq, Prod.mk.injEq, decide_eq_true_eq] at ran
  obtain ⟨documented, ran⟩ := ran
  obtain ⟨final, ran, results⟩ := Option.map_eq_some_iff.mp ran
  have always := pmemHistory_separate _ files switchEvents documented
  exact ⟨kind, _, next, files, final, created, documented, ran, of_decide_eq_true results,
    Always.final pmemEventStep always ran⟩

end Memkind
