/-
This file says what the functions of the pmem kind can do to its private data and to the
descriptors of the process.
-/

import Memkind.Construction.Pmem
import Memkind.Proof.Registry.Steps

namespace Memkind

open Library

variable {priv next : PmemPriv} {files after : Files} {outcome : PmemOutcome}

/-- An `off_t` that is not negative lies in the lower half of the words. -/
theorem toNat_lt_of_toInt_nonneg {offset : SizeT} (nonneg : 0 ≤ offset.toInt) :
    offset.toNat < 2 ^ 63 := by
  have bound := offset.isLt
  rw [BitVec.toInt_eq_toNat_cond] at nonneg
  split at nonneg <;> omega

/-- A temporary file is new, or there is none. -/
theorem memkindPmemCreateTmpfile_cases {mkstemp fd : Fd} {status : Status}
    (called : memkindPmemCreateTmpfile mkstemp files = some (status, fd, after)) :
    (mkstemp.toInt < 0 ∧ status ≠ .success ∧ after = files) ∨
      (¬mkstemp.toInt < 0 ∧ status = .success ∧ fd = mkstemp ∧
        files.create mkstemp = some after) := by
  unfold memkindPmemCreateTmpfile at called
  split at called
  · rename_i negative
    cases called
    exact Or.inl ⟨negative, by decide, rfl⟩
  · rename_i nonneg
    obtain ⟨table, created, fields⟩ := Option.map_eq_some_iff.mp called
    cases fields
    exact Or.inr ⟨nonneg, rfl, rfl, created⟩

/-- `memkind_create_pmem` gets to the private data of a new kind. -/
def pmemKindMade (maxSize : SizeT) (mkstemp : Fd) (create : CreateOutcome) (registry : Registry) :
    Prop :=
  ¬(maxSize ≠ 0 ∧ maxSize < pmemMinSize) ∧ ¬mkstemp.toInt < 0 ∧
    ∃ kind next, memkindCreate .pmem (pmemName mkstemp) create registry =
      some (.success, kind, next)

/-- `memkind_create_pmem` fails without a trace, or it registers a kind and stores its file. The
file is closed again when there is no block for the directory. -/
theorem memkindCreatePmem_cases {maxSize : SizeT} {outcome : PmemCreateOutcome}
    {registry next : Registry} {status : Status} {kind : Option KindPtr} {priv : Option PmemPriv}
    (called : memkindCreatePmem maxSize outcome registry files =
      some (status, kind, priv, next, after)) :
    (¬pmemKindMade maxSize outcome.mkstemp outcome.create registry ∧
      status ≠ .success ∧ priv = none ∧ next = registry ∧ after.opened = files.opened) ∨
    (pmemKindMade maxSize outcome.mkstemp outcome.create registry ∧
      status = .success ∧ priv = some ⟨outcome.mkstemp, 0, pmemMaxSize maxSize, 0⟩ ∧
      (∃ address slot, kind = some (.heap address) ∧
        next = registry.stored .pmem (pmemName outcome.mkstemp) slot address) ∧
      ∃ table, files.create outcome.mkstemp = some table ∧
        after = if outcome.dirAllocated then table else table.close outcome.mkstemp) := by
  unfold memkindCreatePmem at called
  split at called
  · rename_i small
    cases called
    exact Or.inl ⟨fun made => made.1 small, by decide, rfl, rfl, rfl⟩
  · rename_i sized
    obtain ⟨⟨err, fd, opened⟩, tmpfile, ended⟩ := Option.bind_eq_some_iff.mp called
    dsimp only at ended
    obtain ⟨negative, failed, rfl⟩ | ⟨positive, rfl, rfl, created⟩ :=
      memkindPmemCreateTmpfile_cases tmpfile
    · rw [if_pos failed] at ended
      cases ended
      exact Or.inl ⟨fun made => made.2.1 negative, failed, rfl, rfl, rfl⟩
    · rw [if_neg (not_not.mpr rfl)] at ended
      obtain ⟨⟨err, pointer, grown⟩, registered, fields⟩ := Option.map_eq_some_iff.mp ended
      dsimp only at fields
      obtain ⟨failed, rfl⟩ | ⟨address, slot, rfl, rfl, -, -, -, -, rfl⟩ :=
        memkindCreate_cases registered
      · rw [if_pos failed] at fields
        cases fields
        refine Or.inl ⟨?_, failed, rfl, rfl, Descriptors.close_create created⟩
        rintro ⟨-, -, otherKind, otherNext, success⟩
        rw [registered] at success
        exact failed (Prod.mk.inj (Option.some.inj success)).1
      · rw [if_neg (not_not.mpr rfl)] at fields
        refine Or.inr ⟨⟨sized, positive, _, _, registered⟩, ?_⟩
        split at fields
        · rename_i granted
          cases fields
          exact ⟨rfl, rfl, ⟨address, slot, rfl, rfl⟩, _, created, (if_pos granted).symm⟩
        · rename_i refused
          cases fields
          exact ⟨rfl, rfl, ⟨address, slot, rfl, rfl⟩, _, created, (if_neg refused).symm⟩

/-- What a successful `memkind_create_pmem` stores. -/
theorem memkindCreatePmem_priv {maxSize : SizeT} {outcome : PmemCreateOutcome}
    {registry next : Registry} {kind : Option KindPtr}
    (created : memkindCreatePmem maxSize outcome registry files =
      some (.success, kind, some priv, next, after)) :
    ∃ fd, priv = ⟨fd, 0, pmemMaxSize maxSize, 0⟩ := by
  obtain ⟨-, failed, -⟩ | ⟨-, -, stored, -⟩ := memkindCreatePmem_cases created
  · exact absurd rfl failed
  · exact ⟨outcome.mkstemp, Option.some.inj stored⟩

/-- The private data and the descriptors with which `memkind_pmem_mmap` comes to its `mmap`. -/
inductive PmemReady (outcome : PmemOutcome) (priv : PmemPriv) (files : Files) :
    PmemPriv → Files → Prop
  | kept (filled : outcome.fallocate = .success) : PmemReady outcome priv files priv files
  | recreated (fd : Fd) (table : Files) (filled : outcome.refallocate = .success)
      (created : files.create fd = some table) :
      PmemReady outcome priv files { priv with fd := fd, offset := 0 } (table.close priv.fd)

/-- The new file of `memkind_pmem_recreate_file` is made, but cannot be filled. -/
def PmemOutcome.Unfilled (outcome : PmemOutcome) : Prop :=
  ¬outcome.mkstemp.toInt < 0 ∧ outcome.refallocate ≠ .success

/-- A file is only replaced by a new one that could be filled. A new one that could not stays
open. -/
theorem memkindPmemRecreateFile_cases {recreated : Bool}
    (called : memkindPmemRecreateFile outcome priv files = some (recreated, next, after)) :
    (recreated = false ∧ next = priv ∧
        (¬outcome.Unfilled ∧ after = files ∨
          outcome.Unfilled ∧ files.create outcome.mkstemp = some after)) ∨
      (recreated = true ∧ PmemReady outcome priv files next after) := by
  obtain ⟨⟨err, fd, table⟩, tmpfile, fields⟩ := Option.map_eq_some_iff.mp called
  dsimp only at fields
  rcases memkindPmemCreateTmpfile_cases tmpfile with
    ⟨negative, failed, rfl⟩ | ⟨nonneg, rfl, rfl, created⟩
  · rw [if_pos (Or.inl failed)] at fields
    cases fields
    exact Or.inl ⟨rfl, rfl, Or.inl ⟨fun unfilled => unfilled.1 negative, rfl⟩⟩
  · by_cases filled : outcome.refallocate = .success
    · rw [if_neg (by simp [filled])] at fields
      cases fields
      exact Or.inr ⟨rfl, PmemReady.recreated _ table filled created⟩
    · rw [if_pos (Or.inr filled)] at fields
      cases fields
      exact Or.inl ⟨rfl, rfl, Or.inr ⟨⟨nonneg, filled⟩, created⟩⟩

/-- An `mmap` moves the offset and the size together, or changes nothing. -/
theorem pmemMapFile_cases {size : SizeT} {mapping : Option PmemMapping}
    (called : pmemMapFile size outcome priv files = some (mapping, next, after)) :
    after = files ∧
      ((mapping = none ∧ next = priv) ∨
        outcome.mmap ≠ mapFailed ∧ ∃ file, files.opened priv.fd = some file ∧
          mapping = some ⟨outcome.mmap, file, priv.offset⟩ ∧
          next = { priv with
            offset := priv.offset + size
            currentSize := priv.currentSize + size }) := by
  unfold pmemMapFile at called
  split at called
  · rename_i granted
    obtain ⟨file, opened, fields⟩ := Option.map_eq_some_iff.mp called
    cases fields
    exact ⟨rfl, Or.inr ⟨granted, file, opened, rfl, rfl⟩⟩
  · cases called
    exact ⟨rfl, Or.inl ⟨rfl, rfl⟩⟩

/-- The test of `memkind_pmem_mmap` against the size limit. -/
def PmemPriv.Exceeds (priv : PmemPriv) (size : SizeT) : Prop :=
  priv.maxSize ≠ 0 ∧ priv.maxSize < priv.currentSize + size

instance (priv : PmemPriv) (size : SizeT) : Decidable (priv.Exceeds size) :=
  inferInstanceAs (Decidable (_ ∧ _))

/-- A request within the limit finds its file too large, and the new file cannot be filled. -/
def pmemFileLost (size : SizeT) (outcome : PmemOutcome) (priv : PmemPriv) : Prop :=
  ¬priv.Exceeds size ∧ outcome.fallocate = .efbig ∧ outcome.Unfilled

/-- A call of `memkind_pmem_mmap` gives up before its `mmap`, or it reaches it with a file that
could be filled and within the limit. -/
theorem memkindPmemMmap_cases {size : SizeT} {mapping : Option PmemMapping}
    (called : memkindPmemMmap size outcome priv files = some (mapping, next, after)) :
    (mapping = none ∧ next = priv ∧
        (¬pmemFileLost size outcome priv ∧ after = files ∨
          pmemFileLost size outcome priv ∧ files.create outcome.mkstemp = some after)) ∨
      (¬priv.Exceeds size ∧ ∃ ready, PmemReady outcome priv files ready after ∧
        ((mapping = none ∧ next = ready) ∨
          outcome.mmap ≠ mapFailed ∧ ∃ file, after.opened ready.fd = some file ∧
            mapping = some ⟨outcome.mmap, file, ready.offset⟩ ∧
            next = { ready with
              offset := ready.offset + size
              currentSize := ready.currentSize + size })) := by
  unfold memkindPmemMmap at called
  split at called
  · rename_i exceeds
    cases called
    exact Or.inl ⟨rfl, rfl, Or.inl ⟨fun lost => lost.1 exceeds, rfl⟩⟩
  · rename_i within
    split at called
    · rename_i filled
      obtain ⟨rfl, result⟩ := pmemMapFile_cases called
      exact Or.inr ⟨within, priv, PmemReady.kept filled, result⟩
    · rename_i large
      obtain ⟨⟨recreated, ready, table⟩, remade, ended⟩ := Option.bind_eq_some_iff.mp called
      dsimp only at ended
      rcases memkindPmemRecreateFile_cases remade with ⟨rfl, rfl, table⟩ | ⟨rfl, ready⟩
      · cases ended
        refine Or.inl ⟨rfl, rfl, ?_⟩
        rcases table with ⟨filled, same⟩ | ⟨unfilled, created⟩
        · exact Or.inl ⟨fun lost => filled lost.2.2, same⟩
        · exact Or.inr ⟨⟨within, large, unfilled⟩, created⟩
      · obtain ⟨rfl, result⟩ := pmemMapFile_cases ended
        exact Or.inr ⟨within, _, ready, result⟩
    all_goals
      rename_i refused
      cases called
      refine Or.inl ⟨rfl, rfl, Or.inl ⟨?_, rfl⟩⟩
      intro lost
      have large := lost.2.1
      rw [refused] at large
      cases large

/-- Only the descriptor and the offset change before the `mmap`. -/
theorem PmemReady.sizes {ready : PmemPriv} (prepared : PmemReady outcome priv files ready after) :
    ready.maxSize = priv.maxSize ∧ ready.currentSize = priv.currentSize := by
  cases prepared with
  | kept filled => exact ⟨rfl, rfl⟩
  | recreated fd table filled created => exact ⟨rfl, rfl⟩

end Memkind
