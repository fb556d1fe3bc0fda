/-
This file proves that a pmem kind counts the bytes that it has mapped and keeps them within its
size limit.
-/

import Mathlib.Data.Finset.Card
import Mathlib.Order.Interval.Finset.Nat
import Memkind.Library.PowerMasks
import Memkind.Library.Run
import Memkind.Proof.Pmem.Steps

namespace Memkind

open Library

variable {size maxSize : SizeT} {addr : Address} {run : PmemRun}

/-- Every multiple of the chunk size above the requested size is above the stored limit. When
the round-up wraps to zero, it is beyond the machine words. -/
theorem pmemMaxSize_le {limit : Nat} (requested : maxSize ≠ 0)
    (chunks : pmemChunkSize.toNat ∣ limit) (above : maxSize.toNat ≤ limit) :
    (pmemMaxSize maxSize = 0 ∧ 2 ^ 64 ≤ limit) ∨
      (pmemMaxSize maxSize ≠ 0 ∧ (pmemMaxSize maxSize).toNat ≤ limit) := by
  have positive : 0 < maxSize.toNat := by
    rw [Nat.pos_iff_ne_zero, ← BitVec.toNat_zero (w := 64)]
    exact fun zero => requested (BitVec.eq_of_toNat_eq zero)
  have bound := maxSize.isLt
  have unit : pmemChunkSize.toNat = 2 ^ 21 := by decide
  have sum : (maxSize + pmemChunkSize - 1).toNat = (maxSize.toNat + (2 ^ 21 - 1)) % 2 ^ 64 := by
    have last : (pmemChunkSize - 1).toNat = 2 ^ 21 - 1 := by decide
    rw [add_sub_assoc, BitVec.toNat_add, last]
  have rounded : (pmemMaxSize maxSize).toNat =
      (maxSize.toNat + (2 ^ 21 - 1)) % 2 ^ 64 / 2 ^ 21 * 2 ^ 21 := by
    rw [pmemMaxSize, if_pos requested, roundup, toNat_and_not_pred ⟨21, unit⟩, unit, sum]
  rw [unit] at chunks
  obtain ⟨count, rfl⟩ := chunks
  by_cases wraps : maxSize.toNat + (2 ^ 21 - 1) < 2 ^ 64
  · right
    refine ⟨?_, by omega⟩
    intro zero
    have none : (pmemMaxSize maxSize).toNat = 0 := congrArg BitVec.toNat zero
    omega
  · left
    have none : (pmemMaxSize maxSize).toNat = 0 := by omega
    exact ⟨BitVec.eq_of_toNat_eq none, by omega⟩

/-- The bytes of a range of addresses. -/
def bytesAt (address : Address) (size : SizeT) : Finset Nat :=
  Finset.Ico address.toNat (address.toNat + size.toNat)

@[simp] theorem card_bytesAt (address : Address) (size : SizeT) :
    (bytesAt address size).card = size.toNat := by
  simp [bytesAt]

/-- The calls of the extent hooks of a pmem kind. -/
inductive PmemCall where
  | alloc (newAddr : Address) (size : SizeT) (outcome : PmemOutcome)
  | dalloc (addr : Address) (size : SizeT) (outcome : DallocOutcome)

/-- The private data of the kind, the descriptors of the process and the bytes that are mapped
through the kind. -/
structure PmemRun where
  priv : PmemPriv
  files : Files
  mapped : Finset Nat

/-- One call of an extent hook. -/
def pmemStep (call : PmemCall) (run : PmemRun) : Option PmemRun :=
  match call with
  | .alloc newAddr size outcome =>
      (pmemExtentAlloc newAddr size outcome run.priv run.files).map fun (mapping, priv, files) =>
        ⟨priv, files, match mapping with
          | none => run.mapped
          | some mapping => run.mapped ∪ bytesAt mapping.address size⟩
  | .dalloc addr size outcome =>
      (pmemExtentDalloc addr size outcome run.priv).map fun (failed, priv) =>
        { run with
          priv := priv
          mapped := if failed then run.mapped else run.mapped \ bytesAt addr size }

/-- What the system does: `posix_fallocate` refuses a length that is not positive, fewer than
half of all addresses are mapped, a new mapping lies at free addresses, and mapped ranges are
released without an error. -/
def PmemCall.Assumed (call : PmemCall) (run : PmemRun) : Prop :=
  match call with
  | .alloc _ size outcome =>
      (size.toInt ≤ 0 → outcome.fallocate = .einval ∧ outcome.refallocate = .einval) ∧
        run.mapped.card < 2 ^ 63 ∧
        (outcome.mmap ≠ mapFailed → Disjoint run.mapped (bytesAt outcome.mmap size))
  | .dalloc addr size outcome =>
      bytesAt addr size ⊆ run.mapped ∧ outcome = ⟨.success, true⟩

/-- The size of the kind is the number of mapped bytes, no mapped range can fail the assertion of
`pmem_extent_dalloc`, and the mapped bytes stay within the limit. -/
structure PmemRun.Accounted (maxSize : SizeT) (run : PmemRun) : Prop where
  counted : run.priv.currentSize.toNat = run.mapped.card
  asserted : ∀ addr size unmapped, bytesAt addr size ⊆ run.mapped →
    pmemExtentDalloc addr size ⟨.success, unmapped⟩ run.priv ≠ none
  limited : maxSize ≠ 0 → ∀ limit,
    IsLeast {multiple | pmemChunkSize.toNat ∣ multiple ∧ maxSize.toNat ≤ multiple} limit →
      run.mapped.card ≤ limit

/-- The invariant of the size of a pmem kind. -/
structure PmemRun.Sound (maxSize : SizeT) (run : PmemRun) : Prop where
  stored : run.priv.maxSize = pmemMaxSize maxSize
  counted : run.priv.currentSize.toNat = run.mapped.card
  limited : run.priv.maxSize ≠ 0 → run.mapped.card ≤ run.priv.maxSize.toNat

/-- A mapped range is not larger than the size of the kind. -/
theorem PmemRun.Sound.size_le (sound : run.Sound maxSize)
    (mapped : bytesAt addr size ⊆ run.mapped) : size ≤ run.priv.currentSize := by
  have count := Finset.card_le_card mapped
  rw [card_bytesAt, ← sound.counted] at count
  exact BitVec.le_def.mpr count

theorem PmemRun.Sound.accounted (sound : run.Sound maxSize) :
    run.Accounted maxSize where
  counted := sound.counted
  asserted := by
    intro addr size unmapped mapped
    simp [pmemExtentDalloc, sound.size_le mapped]
  limited := by
    intro requested limit least
    obtain ⟨chunks, above⟩ := least.1
    rcases pmemMaxSize_le requested chunks above with ⟨-, beyond⟩ | ⟨stored, within⟩
    · have bound := run.priv.currentSize.isLt
      rw [sound.counted] at bound
      omega
    · rw [← sound.stored] at stored within
      exact Nat.le_trans (sound.limited stored) within

/-- A mapping that passed the test against the limit keeps the invariant. -/
theorem PmemRun.Sound.map (sound : run.Sound maxSize) {next : PmemPriv} {bytes : Finset Nat}
    (files : Files) (within : ¬run.priv.Exceeds size) (positive : 0 < size.toInt)
    (few : run.mapped.card < 2 ^ 63) (maxKept : next.maxSize = run.priv.maxSize)
    (grown : next.currentSize = run.priv.currentSize + size) (length : bytes.card = size.toNat)
    (free : Disjoint run.mapped bytes) :
    PmemRun.Sound maxSize ⟨next, files, run.mapped ∪ bytes⟩ := by
  have half := toNat_lt_of_toInt_nonneg positive.le
  have counted := sound.counted
  have count : (run.mapped ∪ bytes).card = run.mapped.card + size.toNat := by
    rw [Finset.card_union_of_disjoint free, length]
  have sum : (run.priv.currentSize + size).toNat = run.mapped.card + size.toNat := by
    rw [BitVec.toNat_add]
    omega
  refine ⟨maxKept.trans sound.stored, ?_, ?_⟩
  · rw [grown, sum, count]
  · intro stored
    dsimp only at stored ⊢
    rw [maxKept] at stored ⊢
    have passed : ¬run.priv.maxSize < run.priv.currentSize + size := fun exceeds =>
      within ⟨stored, exceeds⟩
    rw [BitVec.lt_def, sum] at passed
    omega

/-- The run after `pmem_extent_dalloc`: `madvise` decides over the size of the kind, and `munmap`
over the report. -/
def PmemRun.dalloc (run : PmemRun) (addr : Address) (size : SizeT) (outcome : DallocOutcome) :
    PmemRun where
  priv := { run.priv with
    currentSize := run.priv.currentSize - if outcome.madvise = .success then size else 0 }
  files := run.files
  mapped := if outcome.unmapped then run.mapped \ bytesAt addr size else run.mapped

/-- A range that is counted passes the assertion of `pmem_extent_dalloc`. -/
theorem pmemStep_dalloc {outcome : DallocOutcome} (supported : outcome.madvise ≠ .eopnotsupp)
    (fits : size ≤ run.priv.currentSize) :
    pmemStep (.dalloc addr size outcome) run = some (run.dalloc addr size outcome) := by
  obtain ⟨madvise, unmapped⟩ := outcome
  cases madvise with
  | success => cases unmapped <;> simp [pmemStep, pmemExtentDalloc, PmemRun.dalloc, if_pos fits]
  | eopnotsupp => exact absurd rfl supported
  | otherError => cases unmapped <;> simp [pmemStep, pmemExtentDalloc, PmemRun.dalloc]

/-- A release keeps the count exactly when both system calls have the same success. -/
theorem PmemRun.Sound.dalloc_counted_iff (sound : run.Sound maxSize)
    (mapped : bytesAt addr size ⊆ run.mapped) (outcome : DallocOutcome) :
    (run.dalloc addr size outcome).priv.currentSize.toNat =
        (run.dalloc addr size outcome).mapped.card ↔
      size = 0 ∨ (outcome.madvise = .success ↔ outcome.unmapped = true) := by
  have fits := sound.size_le mapped
  have counted := sound.counted
  have less : size.toNat ≤ run.mapped.card := counted ▸ BitVec.le_def.mp fits
  have left : (run.dalloc addr size outcome).priv.currentSize.toNat =
      run.mapped.card - if outcome.madvise = .success then size.toNat else 0 := by
    unfold PmemRun.dalloc
    dsimp only
    split
    · rw [BitVec.toNat_sub_of_le fits, counted]
    · exact (congrArg BitVec.toNat (BitVec.sub_zero _)).trans counted
  have kept : (run.dalloc addr size outcome).mapped.card =
      run.mapped.card - if outcome.unmapped = true then size.toNat else 0 := by
    unfold PmemRun.dalloc
    dsimp only
    split
    · rw [Finset.card_sdiff_of_subset mapped, card_bytesAt]
    · rfl
  have empty : size = 0 ↔ size.toNat = 0 := BitVec.toNat_inj.symm
  rw [left, kept, empty]
  by_cases removed : outcome.madvise = .success <;> by_cases unmapped : outcome.unmapped = true <;>
    simp [removed, unmapped] <;> omega

/-- A release that keeps the count keeps the invariant. -/
theorem PmemRun.Sound.dalloc (sound : run.Sound maxSize) (mapped : bytesAt addr size ⊆ run.mapped)
    {outcome : DallocOutcome}
    (agree : size = 0 ∨ (outcome.madvise = .success ↔ outcome.unmapped = true)) :
    (run.dalloc addr size outcome).Sound maxSize := by
  refine ⟨sound.stored, (sound.dalloc_counted_iff mapped outcome).mpr agree, ?_⟩
  intro stored
  have fewer : (run.dalloc addr size outcome).mapped ⊆ run.mapped := by
    unfold PmemRun.dalloc
    dsimp only
    split
    · exact Finset.sdiff_subset
    · exact subset_rfl
  exact (Finset.card_le_card fewer).trans (sound.limited stored)

/-- Each call keeps the invariant when the system does what is assumed. -/
theorem pmemStep_sound (call : PmemCall) (run next : PmemRun) (sound : run.Sound maxSize)
    (assumed : call.Assumed run) (stepped : pmemStep call run = some next) :
    next.Sound maxSize := by
  cases call with
  | alloc newAddr size outcome =>
      obtain ⟨refuses, few, free⟩ := assumed
      obtain ⟨⟨mapping, priv, files⟩, called, rfl⟩ := Option.map_eq_some_iff.mp stepped
      unfold pmemExtentAlloc at called
      split at called
      · cases called
        exact sound
      · rcases memkindPmemMmap_cases called with
          ⟨rfl, rfl, -⟩ | ⟨within, ready, prepared, result⟩
        · exact ⟨sound.stored, sound.counted, sound.limited⟩
        · have sizes := prepared.sizes
          rcases result with ⟨rfl, rfl⟩ | ⟨granted, file, -, rfl, rfl⟩
          · refine ⟨sizes.1.trans sound.stored, ?_, ?_⟩
            · rw [← sound.counted, sizes.2]
            · dsimp only
              rw [sizes.1]
              exact sound.limited
          · have positive : 0 < size.toInt := by
              by_contra negative
              have refused := refuses (not_lt.mp negative)
              cases prepared with
              | kept filled => simp [refused.1] at filled
              | recreated fd table filled created => simp [refused.2] at filled
            apply sound.map files within positive few
            · exact sizes.1
            · dsimp only
              rw [sizes.2]
            · exact card_bytesAt _ size
            · exact free granted
  | dalloc addr size outcome =>
      obtain ⟨mapped, rfl⟩ := assumed
      rw [pmemStep_dalloc (by decide) (sound.size_le mapped)] at stepped
      cases stepped
      exact sound.dalloc mapped (Or.inr (by decide))

/-- An allocation within the limit is mapped when the system grants it. -/
theorem pmemStep_mapped {outcome : PmemOutcome} {file : Nat}
    (filled : outcome.fallocate = .success) (granted : outcome.mmap ≠ mapFailed)
    (opened : run.files.opened run.priv.fd = some file) (within : ¬run.priv.Exceeds size) :
    pmemStep (.alloc 0 size outcome) run =
      some ⟨{ run.priv with
          offset := run.priv.offset + size
          currentSize := run.priv.currentSize + size },
        run.files, run.mapped ∪ bytesAt outcome.mmap size⟩ := by
  unfold PmemPriv.Exceeds at within
  simp only [pmemStep, pmemExtentAlloc, memkindPmemMmap, pmemMapFile, if_neg within, filled,
    if_pos granted, opened, ne_eq, not_true_eq_false, if_false, Option.map_some]

/-- An allocation that `posix_fallocate` refuses changes nothing. -/
theorem pmemStep_refused {newAddr : Address} {outcome : PmemOutcome}
    (refused : outcome.fallocate = .einval) :
    pmemStep (.alloc newAddr size outcome) run = some run := by
  simp only [pmemStep, pmemExtentAlloc, memkindPmemMmap, refused, ite_self, Option.map_some]

/-- In every run of allocations of any size and releases of any mapped ranges, a pmem kind counts
its mapped bytes, never fails the assertion and keeps to the limit. -/
theorem pmemRun_accounted (maxSize : SizeT) (outcome : PmemCreateOutcome)
    (registry next : Registry) (files after : Files) (kind : Option KindPtr) (priv : PmemPriv)
    (created : memkindCreatePmem maxSize outcome registry files =
      some (.success, kind, some priv, next, after))
    (calls : List PmemCall)
    (assumed : Guarded pmemStep PmemCall.Assumed ⟨priv, after, ∅⟩ calls) :
    Always pmemStep (PmemRun.Accounted maxSize) ⟨priv, after, ∅⟩ calls := by
  have start : PmemRun.Sound maxSize ⟨priv, after, ∅⟩ := by
    obtain ⟨fd, rfl⟩ := memkindCreatePmem_priv created
    exact ⟨rfl, rfl, fun _ => Nat.zero_le _⟩
  have always := always_of_guarded pmemStep pmemStep_sound start assumed
  exact Always.imp pmemStep (fun _ sound => sound.accounted) always

/-- The first pmem kind of a process, of the least size. -/
theorem firstPmem_created : ∃ kind next after,
    memkindCreatePmem pmemMinSize ⟨5, grantedAt 0x100, true⟩ Registry.initial
        (Descriptors.empty Fd) =
      some (.success, kind, some ⟨5, 0, pmemMinSize, 0⟩, next, after) ∧
    after.opened 5 = some 0 := by
  have computed : ((memkindCreatePmem pmemMinSize ⟨5, grantedAt 0x100, true⟩ Registry.initial
      (Descriptors.empty Fd)).map fun (err, _, priv, _, after) => (err, priv, after.opened 5)) =
      some (.success, some ⟨5, 0, pmemMinSize, 0⟩, some 0) := by
    decide +kernel
  obtain ⟨⟨err, kind, priv, next, after⟩, created, fields⟩ := Option.map_eq_some_iff.mp computed
  simp only [Prod.mk.injEq] at fields
  obtain ⟨rfl, rfl, opened⟩ := fields
  exact ⟨kind, next, after, created, opened⟩

/-- The allocation of two pages at a fixed address. -/
def twoPages : PmemCall := .alloc 0 0x2000 ⟨.success, -1, .success, 0x10000⟩

/-- The first pmem kind after this allocation. -/
def twoPagesMapped (after : Files) : PmemRun :=
  ⟨⟨5, 0 + 0x2000, pmemMinSize, 0 + 0x2000⟩, after, ∅ ∪ bytesAt 0x10000 0x2000⟩

theorem firstPmem_twoPages {after : Files} (opened : after.opened 5 = some 0) :
    pmemStep twoPages ⟨⟨5, 0, pmemMinSize, 0⟩, after, ∅⟩ = some (twoPagesMapped after) := by
  have within : ¬PmemPriv.Exceeds ⟨5, 0, pmemMinSize, 0⟩ 0x2000 := by decide
  exact pmemStep_mapped rfl (by decide) opened within

/-- A range of two pages, a request that wraps the test of the limit, and a release of the
second page. -/
def splitCalls : List PmemCall :=
  [twoPages,
    .alloc 0 (-0x1000) ⟨.einval, -1, .einval, mapFailed⟩,
    .dalloc 0x11000 0x1000 ⟨.success, true⟩]

theorem pmemRun_accounted_split :
    ∃ kind priv next after final,
      memkindCreatePmem pmemMinSize ⟨5, grantedAt 0x100, true⟩ Registry.initial
        (Descriptors.empty Fd) = some (.success, kind, some priv, next, after) ∧
      Guarded pmemStep PmemCall.Assumed ⟨priv, after, ∅⟩ splitCalls ∧
      runSteps pmemStep ⟨priv, after, ∅⟩ splitCalls = some final ∧
      final.priv.currentSize = 0x1000 ∧ final.Accounted pmemMinSize := by
  obtain ⟨kind, next, after, created, opened⟩ := firstPmem_created
  have first := firstPmem_twoPages opened
  have second : pmemStep (.dalloc 0x11000 0x1000 ⟨.success, true⟩) (twoPagesMapped after) =
        some ⟨⟨5, 0 + 0x2000, pmemMinSize, 0 + 0x2000 - 0x1000⟩, after,
          (∅ ∪ bytesAt 0x10000 0x2000) \ bytesAt 0x11000 0x1000⟩ := by
    apply pmemStep_dalloc (by decide)
    show (0x1000 : SizeT) ≤ 0 + 0x2000
    decide
  have mapped : bytesAt 0x11000 0x1000 ⊆ ∅ ∪ bytesAt 0x10000 0x2000 := by
    rw [Finset.empty_union]
    exact Finset.Ico_subset_Ico (by decide) (by decide)
  have few : (∅ ∪ bytesAt 0x10000 0x2000 : Finset Nat).card < 2 ^ 63 := by
    rw [Finset.empty_union, card_bytesAt]
    decide
  have assumed : Guarded pmemStep PmemCall.Assumed ⟨⟨5, 0, pmemMinSize, 0⟩, after, ∅⟩
      splitCalls := by
    apply Guarded.cons pmemStep first ⟨by decide, by simp, by simp⟩
    apply Guarded.cons pmemStep (pmemStep_refused rfl) ⟨by decide, few, by simp⟩
    exact Guarded.cons pmemStep second ⟨mapped, rfl⟩ trivial
  have ran : runSteps pmemStep ⟨⟨5, 0, pmemMinSize, 0⟩, after, ∅⟩ splitCalls =
      some ⟨⟨5, 0 + 0x2000, pmemMinSize, 0 + 0x2000 - 0x1000⟩, after,
        (∅ ∪ bytesAt 0x10000 0x2000) \ bytesAt 0x11000 0x1000⟩ := by
    simp only [splitCalls, runSteps_cons, first, pmemStep_refused, second, Option.bind_some,
      runSteps_nil]
  have rest : (0 + 0x2000 - 0x1000 : SizeT) = 0x1000 := by decide
  have always := pmemRun_accounted _ _ _ next _ after kind _ created splitCalls assumed
  exact ⟨kind, _, next, after, _, created, assumed, ran, rest, Always.final pmemStep always ran⟩

end Memkind
