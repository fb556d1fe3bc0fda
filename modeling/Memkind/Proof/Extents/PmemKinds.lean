/-
This file shows that the extent hooks of `memkind_pmem.c` honour the contract of an arena but for the
alignment: their extents are zero, and what the kind has mapped is what its arena holds.
-/

import Memkind.Proof.Extents.Arena
import Memkind.Proof.Extents.Pages
import Memkind.Proof.Pmem.FileRanges

namespace Memkind

open Library

variable {file size start : Nat} {priv : PmemPriv} {memory : ProcessMemory} {files : Files}

/-- What the system does for a request of jemalloc: `posix_fallocate` does what is documented, and a
mapping lies at free pages. -/
structure PmemRequest (page : PageSize) (_newAddr size _alignment : Nat) (outcome : PmemHookOutcome)
    (kind : PmemKind) : Prop where
  bounded : size < 2 ^ 64
  filled : outcome.mmap.fallocate.Documented kind.priv.offset (BitVec.ofNat 64 size)
  refilled : outcome.mmap.refallocate.Documented 0 (BitVec.ofNat 64 size)
  placed : outcome.mmap.mmap ≠ mapFailed → page.size ∣ outcome.mmap.mmap.toNat ∧
    outcome.mmap.mmap.toNat + size < 2 ^ 64 ∧
    ∀ address ∈ Set.Ico outcome.mmap.mmap.toNat (outcome.mmap.mmap.toNat + size),
      kind.memory.pages address = none

/-- The held addresses are those that the kind has mapped, each to a byte of its own, and the rest
of the files is zero. -/
structure PmemBacks (before : Nat → Option Backing) (kind : PmemKind) (held : Set Nat) : Prop where
  mapped : ∀ address ∈ held, before address = none ∧ address + 1 < 2 ^ 64 ∧
    ∃ file offset, kind.memory.pages address = some (.shared file offset) ∧
      file < kind.files.created ∧
      (kind.files.opened kind.priv.fd = some file → offset < kind.priv.offset.toNat)
  single : ∀ first ∈ held, ∀ second ∈ held,
    kind.memory.pages first = kind.memory.pages second → first = second
  others : ∀ address ∉ held, kind.memory.pages address = before address
  blank : ∀ file, kind.files.opened kind.priv.fd = some file →
    ∀ offset, kind.priv.offset.toNat ≤ offset → kind.memory.content file offset = 0
  unmade : ∀ file, kind.files.created ≤ file → ∀ offset, kind.memory.content file offset = 0

section Backs

variable {page : PageSize} {before : Nat → Option Backing} {kind : PmemKind} {held : Set Nat}

/-- The kind keeps its file and the offset in it, or goes on with a file that did not exist. -/
theorem PmemBacks.refile (backs : PmemBacks before kind held)
    (grows : kind.files.created ≤ files.created)
    (current : ∀ file, files.opened priv.fd = some file →
      (kind.files.opened kind.priv.fd = some file ∧ priv.offset = kind.priv.offset) ∨
        kind.files.created ≤ file) :
    PmemBacks before { kind with priv := priv, files := files } held where
  mapped := by
    intro address member
    obtain ⟨unused, bounded, file, offset, isShared, made, below⟩ := backs.mapped address member
    refine ⟨unused, bounded, file, offset, isShared, Nat.lt_of_lt_of_le made grows, fun opened => ?_⟩
    obtain ⟨same, kept⟩ | isNew := current file opened
    · dsimp only
      rw [kept]
      exact below same
    · omega
  single := backs.single
  others := backs.others
  blank := by
    intro file opened offset above
    obtain ⟨same, kept⟩ | isNew := current file opened
    · dsimp only at above
      rw [kept] at above
      exact backs.blank file same offset above
    · exact backs.unmade file isNew offset
  unmade := by
    intro file isNew
    exact backs.unmade file (Nat.le_trans grows isNew)

/-- A new file that cannot be filled concerns none of the mapped bytes. -/
theorem PmemBacks.created (backs : PmemBacks before kind held) {fd : Fd} {table : Files}
    (created : kind.files.create fd = some table) :
    PmemBacks before { kind with files := table } held := by
  have grows : kind.files.created ≤ table.created := by
    rw [Descriptors.created_create created]
    exact Nat.le_succ _
  have current : ∀ file, table.opened kind.priv.fd = some file →
      (kind.files.opened kind.priv.fd = some file ∧ kind.priv.offset = kind.priv.offset) ∨
        kind.files.created ≤ file := by
    intro file opened
    by_cases earlier : file < kind.files.created
    · exact Or.inl ⟨Descriptors.opened_of_create created earlier opened, rfl⟩
    · exact Or.inr (Nat.le_of_not_lt earlier)
  exact backs.refile grows current

/-- The file with which `memkind_pmem_mmap` comes to its `mmap`. -/
theorem PmemBacks.ready (backs : PmemBacks before kind held) {outcome : PmemOutcome}
    {ready : PmemPriv} (prepared : PmemReady outcome kind.priv kind.files ready files) :
    PmemBacks before { kind with priv := ready, files := files } held := by
  cases prepared with
  | kept filled => exact backs
  | recreated fd table filled created =>
      refine backs.refile ?_ fun file opened => Or.inr ?_
      · show kind.files.created ≤ table.created
        rw [Descriptors.created_create created]
        exact Nat.le_succ _
      · obtain ⟨-, behind⟩ := Descriptors.opened_of_close opened
        rw [(Descriptors.opened_create created).2, Function.update_self] at behind
        exact (Option.some.inj behind).le

/-- The offset of a file that `posix_fallocate` could fill moves by the size of the request. -/
theorem offset_add {offset size : SizeT} (filled : 0 ≤ offset.toInt ∧ 0 < size.toInt) :
    (offset + size).toNat = offset.toNat + size.toNat := by
  have first := toNat_lt_of_toInt_nonneg filled.1
  have second := toNat_lt_of_toInt_nonneg filled.2.le
  rw [BitVec.toNat_add, Nat.mod_eq_of_lt (by omega)]

theorem ProcessMemory.mapShared_of_mem {offset address : Nat} (pages : page.size ∣ size)
    (inside : address ∈ Set.Ico start (start + size)) :
    (memory.mapShared page start size file offset).pages address =
      some (.shared file (offset + (address - start))) := by
  rw [← roundUp_of_dvd page.size_pos pages] at inside
  exact remap_of_mem inside

theorem ProcessMemory.mapShared_of_notMem {offset address : Nat} (pages : page.size ∣ size)
    (outside : address ∉ Set.Ico start (start + size)) :
    (memory.mapShared page start size file offset).pages address = memory.pages address := by
  rw [← roundUp_of_dvd page.size_pos pages] at outside
  exact remap_of_notMem outside

/-- A mapping of the bytes behind the offset. -/
theorem PmemBacks.map (backs : PmemBacks before kind held) (pages : page.size ∣ size)
    (bounded : start + size < 2 ^ 64)
    (free : ∀ address ∈ Set.Ico start (start + size), kind.memory.pages address = none)
    (opened : kind.files.opened kind.priv.fd = some file) (kept : priv.fd = kind.priv.fd)
    (moved : priv.offset.toNat = kind.priv.offset.toNat + size) :
    HookEffect pmemBytes (PmemBacks before) held (Set.Ico start (start + size) ∪ held) kind
        ⟨priv, kind.files, kind.memory.mapShared page start size file kind.priv.offset.toNat⟩ ∧
      Disjoint (Set.Ico start (start + size)) held ∧
      pmemBytes.Zero (Set.Ico start (start + size))
        ⟨priv, kind.files, kind.memory.mapShared page start size file kind.priv.offset.toNat⟩ := by
  have apart : Disjoint (Set.Ico start (start + size)) held := by
    refine Set.disjoint_left.mpr fun address isNew isHeld => ?_
    obtain ⟨-, -, file, offset, isShared, -⟩ := backs.mapped address isHeld
    rw [free address isNew] at isShared
    cases isShared
  have sameAt : ∀ address ∈ held,
      (kind.memory.mapShared page start size file kind.priv.offset.toNat).pages address =
        kind.memory.pages address := fun address isHeld =>
    ProcessMemory.mapShared_of_notMem pages fun isNew => Set.disjoint_left.mp apart isNew isHeld
  have newAt : ∀ address ∈ Set.Ico start (start + size),
      (kind.memory.mapShared page start size file kind.priv.offset.toNat).pages address =
        some (.shared file (kind.priv.offset.toNat + (address - start))) := fun address isNew =>
    ProcessMemory.mapShared_of_mem pages isNew
  -- A byte behind the offset is mapped by none of the held addresses.
  have different : ∀ first ∈ Set.Ico start (start + size), ∀ second ∈ held,
      (kind.memory.mapShared page start size file kind.priv.offset.toNat).pages first ≠
        (kind.memory.mapShared page start size file kind.priv.offset.toNat).pages second := by
    intro first isNew second isHeld same
    obtain ⟨-, -, other, offset, isShared, -, below⟩ := backs.mapped second isHeld
    rw [newAt first isNew, sameAt second isHeld, isShared] at same
    injection Option.some.inj same with sameFile sameOffset
    subst sameFile
    have bound := below opened
    omega
  refine ⟨⟨⟨?_, ?_, ?_, ?_, backs.unmade⟩, ?_⟩, apart, ?_⟩
  · rintro address (isNew | isHeld)
    · refine ⟨?_, ?_, file, _, newAt address isNew, kind.files.older _ file opened, fun _ => ?_⟩
      · rw [← backs.others address (Set.disjoint_left.mp apart isNew)]
        exact free address isNew
      · simp only [Set.mem_Ico] at isNew
        omega
      · simp only [Set.mem_Ico] at isNew
        dsimp only
        omega
    · obtain ⟨unused, bounded, other, offset, isShared, made, below⟩ := backs.mapped address isHeld
      refine ⟨unused, bounded, other, offset, (sameAt address isHeld).trans isShared, made,
        fun isOpen => ?_⟩
      dsimp only at isOpen ⊢
      rw [kept] at isOpen
      have bound := below isOpen
      omega
  · rintro first (firstNew | firstHeld) second (secondNew | secondHeld) same
    · rw [newAt first firstNew, newAt second secondNew] at same
      injection Option.some.inj same with _ sameOffset
      simp only [Set.mem_Ico] at firstNew secondNew
      omega
    · exact absurd same (different first firstNew second secondHeld)
    · exact absurd same.symm (different second secondNew first firstHeld)
    · dsimp only at same
      rw [sameAt first firstHeld, sameAt second secondHeld] at same
      exact backs.single first firstHeld second secondHeld same
  · intro address outside
    have notNew : address ∉ Set.Ico start (start + size) := fun isNew => outside (Or.inl isNew)
    exact (ProcessMemory.mapShared_of_notMem pages notNew).trans
      (backs.others address fun isHeld => outside (Or.inr isHeld))
  · intro other isOpen offset above
    dsimp only at isOpen above
    rw [kept] at isOpen
    exact backs.blank other isOpen offset (by omega)
  · intro address isHeld
    show ProcessMemory.read _ address = ProcessMemory.read _ address
    rw [ProcessMemory.read, ProcessMemory.read, sameAt address isHeld]
    rfl
  · intro address isNew
    show ProcessMemory.read _ address = _
    rw [ProcessMemory.read, newAt address isNew]
    dsimp only
    exact congrArg some (backs.blank file opened _ (Nat.le_add_right _ _))

/-- A request is refused, or it maps the bytes behind the offset of a file of the kind. -/
theorem PmemBacks.extentAlloc (backs : PmemBacks before kind held) {newAddr alignment : Nat}
    {outcome : PmemHookOutcome} {next : PmemKind} {granted : Option ExtentGrant}
    (pages : page.size ∣ size) (request : PmemRequest page newAddr size alignment outcome kind)
    (called : kind.extentAlloc page newAddr size outcome = some (granted, next)) :
    (granted = none ∧ HookEffect pmemBytes (PmemBacks before) held held kind next) ∨
      ∃ addr, granted = some ⟨addr, true, true⟩ ∧ addr = outcome.mmap.mmap.toNat ∧
        page.size ∣ addr ∧
        HookEffect pmemBytes (PmemBacks before) held (Set.Ico addr (addr + size) ∪ held) kind next ∧
        Disjoint (Set.Ico addr (addr + size)) held ∧
        pmemBytes.Zero (Set.Ico addr (addr + size)) next := by
  have sizeNat : (BitVec.ofNat 64 size).toNat = size := by
    rw [BitVec.toNat_ofNat, Nat.mod_eq_of_lt request.bounded]
  unfold PmemKind.extentAlloc at called
  obtain ⟨⟨mapping, priv, files⟩, allocated, isNext⟩ := Option.map_eq_some_iff.mp called
  -- Without a mapping only the private data and the descriptors change.
  have refused : mapping = none → PmemBacks before { kind with priv := priv, files := files } held →
      granted = none ∧ HookEffect pmemBytes (PmemBacks before) held held kind next := by
    rintro rfl kept
    obtain ⟨rfl, rfl⟩ := Prod.mk.inj isNext
    exact ⟨rfl, kept, fun _ _ => rfl⟩
  unfold pmemExtentAlloc at allocated
  split at allocated
  · injection allocated with fields
    obtain ⟨rfl, rfl, rfl⟩ : none = mapping ∧ kind.priv = priv ∧ kind.files = files := by
      injection fields with isMapping rest
      injection rest with isPriv isFiles
      exact ⟨isMapping, isPriv, isFiles⟩
    exact Or.inl (refused rfl backs)
  · obtain ⟨isNone, rfl, table⟩ | ⟨-, ready, prepared, result⟩ := memkindPmemMmap_cases allocated
    · refine Or.inl (refused isNone ?_)
      obtain ⟨-, rfl⟩ | ⟨-, created⟩ := table
      · exact backs
      · exact backs.created created
    · have readied := backs.ready prepared
      obtain ⟨isNone, rfl⟩ | ⟨succeeded, file, opened, rfl, rfl⟩ := result
      · exact Or.inl (refused isNone readied)
      · obtain ⟨aligned, bounded, free⟩ := request.placed succeeded
        obtain ⟨rfl, rfl⟩ := Prod.mk.inj isNext
        have filled : 0 ≤ ready.offset.toInt ∧ 0 < (BitVec.ofNat 64 size).toInt := by
          cases prepared with
          | kept filled => exact request.filled filled
          | recreated fd table filled created => exact request.refilled filled
        have moved := offset_add filled
        rw [sizeNat] at moved
        have sameFd : PmemPriv.fd
            { ready with
              offset := ready.offset + BitVec.ofNat 64 size
              currentSize := ready.currentSize + BitVec.ofNat 64 size } = ready.fd := rfl
        obtain ⟨effect, apart, zero⟩ := readied.map pages bounded free opened sameFd moved
        exact Or.inr ⟨_, rfl, rfl, aligned, ⟨effect.backed, effect.keeps⟩, apart, zero⟩

/-- Some of the held bytes get new values. -/
theorem PmemBacks.rewrite (backs : PmemBacks before kind held) {points : Set Nat}
    {content : Nat → Nat → UInt8} (inside : points ⊆ held) (sameFd : priv.fd = kind.priv.fd)
    (sameOffset : priv.offset = kind.priv.offset)
    (changed : ∀ file offset, content file offset ≠ kind.memory.content file offset →
      ∃ address ∈ points, kind.memory.pages address = some (.shared file offset)) :
    HookEffect pmemBytes (PmemBacks before) (held \ points) held kind
      ⟨priv, kind.files, { kind.memory with content := content }⟩ := by
  have unchanged : ∀ file offset, (∀ address ∈ held,
      kind.memory.pages address = some (.shared file offset) → address ∉ points) →
      content file offset = kind.memory.content file offset := by
    intro file offset outside
    by_contra differs
    obtain ⟨address, isPoint, isShared⟩ := changed file offset differs
    exact outside address (inside isPoint) isShared isPoint
  refine ⟨⟨?_, backs.single, backs.others, ?_, ?_⟩, ?_⟩
  · intro address member
    obtain ⟨unused, bounded, file, offset, isShared, made, below⟩ := backs.mapped address member
    refine ⟨unused, bounded, file, offset, isShared, made, ?_⟩
    dsimp only
    rw [sameFd, sameOffset]
    exact below
  · intro file opened offset above
    dsimp only at opened above ⊢
    rw [sameFd] at opened
    rw [sameOffset] at above
    rw [unchanged file offset]
    · exact backs.blank file opened offset above
    · intro address member isShared
      obtain ⟨-, -, other, behind, isOther, -, below⟩ := backs.mapped address member
      rw [isShared] at isOther
      injection Option.some.inj isOther with sameFile sameBehind
      subst sameFile sameBehind
      exact absurd (below opened) (by omega)
  · intro file isNew offset
    dsimp only at isNew ⊢
    rw [unchanged file offset]
    · exact backs.unmade file isNew offset
    · intro address member isShared
      obtain ⟨-, -, other, behind, isOther, made, -⟩ := backs.mapped address member
      rw [isShared] at isOther
      injection Option.some.inj isOther with sameFile _
      omega
  · rintro address ⟨member, outside⟩
    obtain ⟨-, -, file, offset, isShared, -⟩ := backs.mapped address member
    show ProcessMemory.read _ address = ProcessMemory.read _ address
    rw [ProcessMemory.read, ProcessMemory.read, isShared]
    dsimp only
    rw [unchanged file offset]
    intro other otherHeld otherShared
    rw [backs.single other otherHeld address member (otherShared.trans isShared.symm)]
    exact outside

/-- `munmap` of held pages. -/
theorem PmemBacks.unmap (backs : PmemBacks before kind held) {addr : Nat}
    (aligned : page.size ∣ addr) (pages : page.size ∣ size)
    (inside : Set.Ico addr (addr + size) ⊆ held) :
    HookEffect pmemBytes (PmemBacks before) (held \ Set.Ico addr (addr + size))
      (held \ Set.Ico addr (addr + size)) kind
      { kind with memory := kind.memory.applyEvent page (.unmap addr size) } := by
  have removed : ∀ address ∈ Set.Ico addr (addr + size),
      (kind.memory.applyEvent page (.unmap addr size)).pages address = none := by
    intro address member
    have last : addr + size - 1 ∈ Set.Ico addr (addr + size) := by
      simp only [Set.mem_Ico] at member ⊢
      omega
    have bounded := (backs.mapped _ (inside last)).2.1
    simp only [Set.mem_Ico] at last
    have accepted : page.size ∣ addr ∧ addr + size < 2 ^ 64 := ⟨aligned, by omega⟩
    rw [ProcessMemory.applyEvent, if_pos accepted, roundUp_of_dvd page.size_pos pages]
    exact ProcessMemory.remap_of_mem member
  have kept : ∀ address ∉ Set.Ico addr (addr + size),
      (kind.memory.applyEvent page (.unmap addr size)).pages address =
        kind.memory.pages address := by
    intro address outside
    rw [ProcessMemory.applyEvent]
    split
    · rw [roundUp_of_dvd page.size_pos pages]
      exact ProcessMemory.remap_of_notMem outside
    · rfl
  have content : (kind.memory.applyEvent page (.unmap addr size)).content = kind.memory.content :=
    kind.memory.applyEvents_content [.unmap addr size]
  refine ⟨⟨?_, ?_, ?_, ?_, ?_⟩, ?_⟩
  · rintro address ⟨member, outside⟩
    obtain ⟨unused, bounded, file, offset, isShared, rest⟩ := backs.mapped address member
    exact ⟨unused, bounded, file, offset, (kept address outside).trans isShared, rest⟩
  · rintro first ⟨firstHeld, firstOutside⟩ second ⟨secondHeld, secondOutside⟩ same
    dsimp only at same
    rw [kept first firstOutside, kept second secondOutside] at same
    exact backs.single first firstHeld second secondHeld same
  · intro address outside
    by_cases isRemoved : address ∈ Set.Ico addr (addr + size)
    · exact (removed address isRemoved).trans (backs.mapped address (inside isRemoved)).1.symm
    · exact (kept address isRemoved).trans
        (backs.others address fun member => outside ⟨member, isRemoved⟩)
  · dsimp only
    rw [content]
    exact backs.blank
  · dsimp only
    rw [content]
    exact backs.unmade
  · rintro address ⟨-, outside⟩
    show ProcessMemory.read _ address = ProcessMemory.read _ address
    rw [ProcessMemory.read, ProcessMemory.read, kept address outside, content]

/-- `madvise` and `munmap` of held pages, as `pmem_extent_dalloc` calls them. -/
theorem PmemBacks.extentDalloc (backs : PmemBacks before kind held) {addr : Nat}
    {outcome : PmemHookOutcome} {failed : Bool} {next : PmemKind} (aligned : page.size ∣ addr)
    (pages : page.size ∣ size) (inside : Set.Ico addr (addr + size) ⊆ held)
    (called : kind.extentDalloc page addr size outcome = some (failed, next)) :
    HookEffect pmemBytes (PmemBacks before) (held \ Set.Ico addr (addr + size))
      (if failed then held else held \ Set.Ico addr (addr + size)) kind next := by
  unfold PmemKind.extentDalloc at called
  obtain ⟨⟨err, priv⟩, dalloced, isNext⟩ := Option.map_eq_some_iff.mp called
  obtain ⟨isFailed, sameFd, sameOffset⟩ : err = !outcome.dalloc.unmapped ∧
      priv.fd = kind.priv.fd ∧ priv.offset = kind.priv.offset := by
    unfold pmemExtentDalloc at dalloced
    split at dalloced
    · split at dalloced
      · obtain ⟨rfl, rfl⟩ := Prod.mk.inj (Option.some.inj dalloced)
        exact ⟨rfl, rfl, rfl⟩
      · cases dalloced
    · cases dalloced
    · obtain ⟨rfl, rfl⟩ := Prod.mk.inj (Option.some.inj dalloced)
      exact ⟨rfl, rfl, rfl⟩
  -- The holes of `madvise` are at the pages of the extent.
  have removed : HookEffect pmemBytes (PmemBacks before) (held \ Set.Ico addr (addr + size)) held kind
      ⟨priv, kind.files,
        if outcome.dalloc.madvise = .success then kind.memory.remove addr size
        else kind.memory⟩ := by
    split
    · refine backs.rewrite inside sameFd sameOffset fun file offset differs => ?_
      by_contra none
      refine differs (if_neg fun found => none ?_)
      obtain ⟨index, below, isShared⟩ := found
      exact ⟨addr + index, ⟨Nat.le_add_right _ _,
        Nat.add_lt_add_left (List.mem_range.mp below) _⟩, isShared⟩
    · exact backs.rewrite inside sameFd sameOffset fun file offset differs => absurd rfl differs
  obtain ⟨rfl, rfl⟩ := Prod.mk.inj isNext
  cases unmapped : outcome.dalloc.unmapped with
  | false =>
      rw [unmapped] at isFailed
      subst isFailed
      exact removed
  | true =>
      rw [unmapped] at isFailed
      subst isFailed
      have gone := removed.backed.unmap aligned pages inside
      exact ⟨gone.backed, fun address member =>
        (gone.keeps address member).trans (removed.keeps address member)⟩

end Backs

/-- The hooks of `memkind_pmem.c` give zeros, but only whole pages of alignment. A `munmap` that
fails loses an extent that is destroyed. -/
theorem pmemHooksOf_contract (page : PageSize) (hogMemory : Bool) (before : Nat → Option Backing) :
    HookContract pmemBytes (pmemHooksOf page hogMemory) page.size (PmemRequest page)
      (fun _ => True) (fun outcome => outcome.destroyUnmapped = true) (PmemBacks before) True False := by
  have table : pmemHooksOf page hogMemory = pmemHookTable page fun addr size outcome kind =>
      if hogMemory then some (true, kind) else kind.extentDalloc page addr size outcome := by
    cases hogMemory <;> rfl
  rw [table]
  exact {
    granted := by
      intro newAddr size alignment zero commit outcome kind next grant held backs pages request called
      obtain ⟨refused, -⟩ | ⟨addr, isGrant, -, aligned, effect, apart, zeros⟩ :=
        backs.extentAlloc pages request called
      · cases refused
      · obtain rfl := Option.some.inj isGrant
        exact ⟨effect, apart, aligned, rfl, False.elim, fun _ => zeros⟩
    refused := by
      intro newAddr size alignment zero commit outcome kind next held backs pages request called
      obtain ⟨-, effect⟩ | ⟨addr, isGrant, -⟩ := backs.extentAlloc pages request called
      · exact effect
      · cases isGrant
    dalloc := by
      intro addr size outcome kind failed next held _ backs aligned pages inside called
      cases hogMemory with
      | true =>
          obtain ⟨rfl, rfl⟩ := Prod.mk.inj (Option.some.inj called)
          exact .refl backs _
      | false => exact backs.extentDalloc aligned pages inside called
    purge := fun backs _ => .refl backs _
    destroy := by
      intro addr size outcome kind held unmapped backs aligned pages inside
      show HookEffect pmemBytes (PmemBacks before) _ _ kind (kind.extentDestroy page addr size outcome)
      rw [PmemKind.extentDestroy, if_pos unmapped]
      exact backs.unmap aligned pages inside
    write := by
      intro address byte kind held backs member
      obtain ⟨-, -, file, offset, isShared, -⟩ := backs.mapped address member
      have written : pmemBytes.write kind address byte =
          ⟨kind.priv, kind.files,
            { kind.memory with
              content := Function.update kind.memory.content file
                (Function.update (kind.memory.content file) offset byte) }⟩ := by
        show { kind with memory := kind.memory.write address byte } = _
        rw [ProcessMemory.write, isShared]
      rw [written]
      refine ⟨backs.rewrite (Set.singleton_subset_iff.mpr member) rfl rfl
        fun other behind differs => ⟨address, rfl, ?_⟩, ?_⟩
      · by_cases sameFile : other = file
        · subst sameFile
          rw [Function.update_self] at differs
          by_cases sameOffset : behind = offset
          · rw [sameOffset]
            exact isShared
          · exact absurd (Function.update_of_ne sameOffset ..) differs
        · exact absurd (congrFun (Function.update_of_ne sameFile ..) behind) differs
      · show ProcessMemory.read _ address = _
        rw [ProcessMemory.read, isShared]
        dsimp only
        rw [Function.update_self, Function.update_self]
    decommits := fun _ _ _ _ => rfl
    splits := fun _ _ _ _ => rfl }

/-- The calls of jemalloc to the arena of a pmem kind. The `munmap` of an extent that is destroyed
does not fail. -/
abbrev PmemCallsValid (page : PageSize) (hogMemory : Bool) (kind : PmemKind)
    (calls : List (ExtentCall PmemHookOutcome)) : Prop :=
  Guarded (extentStep pmemBytes (pmemHooksOf page hogMemory) page.size)
    (ExtentCall.Valid page.size (PmemRequest page) (fun _ => True)
      fun outcome => outcome.destroyUnmapped = true) ⟨kind, [], none⟩ calls

/-- An arena of a pmem kind returns zeros when it is asked for, it aligns the parts of its extents,
and the pages that the kind has mapped are those of its extents. -/
structure PmemServes (before : ProcessMemory) (arena : ExtentArena PmemKind) : Prop where
  zero : ∀ returned, arena.returned = some returned → returned.zero = true →
    ∀ address ∈ returned.extent.range, arena.state.memory.read address = some 0
  aligned : ∀ returned, arena.returned = some returned → returned.fromHook = false →
    returned.alignment ∣ returned.extent.start
  apart : arena.extents.Pairwise fun first second => Disjoint first.range second.range
  held : ∀ address ∈ arena.held,
    before.pages address = none ∧ arena.state.memory.pages address ≠ none
  others : ∀ address ∉ arena.held, arena.state.memory.pages address = before.pages address

/-- A new pmem kind, whose file nobody has written to, has mapped nothing. -/
theorem memkindCreatePmem_backs {maxSize : SizeT} {outcome : PmemCreateOutcome}
    {registry next : Registry} {after : Files} {pointer : Option KindPtr}
    (created : memkindCreatePmem maxSize outcome registry files =
      some (.success, pointer, some priv, next, after))
    (unmade : ∀ file, files.created ≤ file → ∀ offset, memory.content file offset = 0) :
    PmemBacks memory.pages ⟨priv, after, memory⟩ ∅ := by
  obtain ⟨-, failed, -⟩ | ⟨-, -, isPriv, -, table, made, isAfter⟩ := memkindCreatePmem_cases created
  · exact absurd rfl failed
  · have grown : files.created ≤ after.created := by
      have count := Descriptors.created_create made
      rw [isAfter]
      split
      · omega
      · show files.created ≤ table.created
        omega
    have behind : ∀ file, after.opened priv.fd = some file → files.created ≤ file := by
      intro file opened
      have sameFd : priv.fd = outcome.mkstemp := by rw [Option.some.inj isPriv]
      have inTable : table.opened priv.fd = some file := by
        rw [isAfter] at opened
        split at opened
        · exact opened
        · exact (Descriptors.opened_of_close opened).2
      rw [(Descriptors.opened_create made).2, sameFd, Function.update_self] at inTable
      exact (Option.some.inj inTable).le
    exact ⟨nofun, nofun, fun _ _ => rfl,
      fun file opened offset _ => unmade file (behind file opened) offset,
      fun file isNew => unmade file (Nat.le_trans grown isNew)⟩

/-- A pmem kind without a limit in a process without memory. -/
def newPmemKind : Option PmemKind :=
  (memkindCreatePmem 0 ⟨5, grantedAt 0x1000, true⟩ Registry.initial (.empty Fd)).bind
    fun created => created.2.2.1.map fun priv => ⟨priv, created.2.2.2.2, emptyMemory⟩

theorem newPmemKind_created {kind : PmemKind} (isKind : newPmemKind = some kind) :
    ∃ pointer next files, kind = ⟨⟨5, 0, 0, 0⟩, files, emptyMemory⟩ ∧ files.opened 5 = some 0 ∧
      memkindCreatePmem 0 ⟨5, grantedAt 0x1000, true⟩ Registry.initial (.empty Fd) =
        some (.success, pointer, some ⟨5, 0, 0, 0⟩, next, files) := by
  obtain ⟨⟨status, pointer, priv, next, files⟩, created, rest⟩ := Option.bind_eq_some_iff.mp isKind
  obtain ⟨priv, rfl, rfl⟩ := Option.map_eq_some_iff.mp rest
  have result : (memkindCreatePmem 0 ⟨5, grantedAt 0x1000, true⟩ Registry.initial (.empty Fd)).map
      (fun created => (created.1, created.2.2.1, created.2.2.2.2.opened 5)) =
        some (.success, some ⟨5, 0, 0, 0⟩, some 0) := by
    decide +kernel
  rw [created] at result
  obtain ⟨rfl, fields⟩ := Prod.mk.inj (Option.some.inj result)
  obtain ⟨isPriv, opened⟩ := Prod.mk.inj fields
  obtain rfl := Option.some.inj isPriv
  exact ⟨pointer, next, files, rfl, opened, created⟩

/-- The file is filled and mapped at an address, and every call that gives memory back succeeds. -/
def mappedAt (address : Address) : PmemHookOutcome :=
  ⟨⟨.success, -1, .otherError, address⟩, ⟨.success, true⟩, true⟩

/-- The system may map some pages of the new file. -/
theorem mappedAt_request {alignment : Nat} {address : Address}
    (bounded : 0 < (BitVec.ofNat 64 size).toInt ∧ size < 2 ^ 64)
    (placed : 0x1000 ∣ address.toNat ∧ address.toNat + size < 2 ^ 64) :
    PmemRequest ⟨12, by decide⟩ 0 size alignment (mappedAt address)
      ⟨⟨5, 0, 0, 0⟩, files, emptyMemory⟩ :=
  ⟨bounded.2, fun _ => ⟨le_refl _, bounded.1⟩, nofun, fun _ => ⟨placed.1, placed.2, fun _ _ => rfl⟩⟩

/-- Whatever jemalloc does with the extents of a new pmem kind, whatever the user stores and whichever
calls fail: the arena serves its requests, and nothing stays mapped but its extents. -/
theorem pmemKind_serves (page : PageSize) (hogMemory : Bool) (maxSize : SizeT)
    (outcome : PmemCreateOutcome) (registry next : Registry) (files after : Files)
    (pointer : Option KindPtr) (priv : PmemPriv)
    (created : memkindCreatePmem maxSize outcome registry files =
      some (.success, pointer, some priv, next, after)) (memory : ProcessMemory)
    (unmade : ∀ file, files.created ≤ file → ∀ offset, memory.content file offset = 0)
    (calls : List (ExtentCall PmemHookOutcome))
    (valid : PmemCallsValid page hogMemory ⟨priv, after, memory⟩ calls) :
    Always (extentStep pmemBytes (pmemHooksOf page hogMemory) page.size) (PmemServes memory)
      ⟨⟨priv, after, memory⟩, [], none⟩ calls := by
  have start : ExtentArena.Sound pmemBytes page.size (PmemBacks memory.pages) True False
      ⟨⟨priv, after, memory⟩, [], none⟩ := .initial (memkindCreatePmem_backs created unmade)
  have contract := pmemHooksOf_contract page hogMemory memory.pages
  refine Always.imp _ (fun arena sound => ?_) (extentRun_sound contract start valid)
  refine ⟨fun returned isReturned asked => ?_, fun returned isReturned part => ?_, sound.tiles.apart,
    fun address member => ?_, sound.backed.others⟩
  · exact (sound.delivered returned isReturned).zero trivial asked
  · exact (sound.delivered returned isReturned).aligned (Or.inr part)
  · obtain ⟨unused, -, file, offset, isShared, -⟩ := sound.backed.mapped address member
    refine ⟨unused, ?_⟩
    rw [isShared]
    nofun

theorem pmemKind_serves_reusedPage :
    let page : PageSize := ⟨12, by decide⟩
    ∃ kind, newPmemKind = some kind ∧
      PmemCallsValid page false kind (reusedPage (mappedAt 0x10000)) ∧
      ∃ final, runSteps (extentStep pmemBytes (pmemHooksOf page false) page.size) ⟨kind, [], none⟩
          (reusedPage (mappedAt 0x10000)) = some final ∧
        final.returned = some ⟨⟨0x10000, 0x1000, .active, false, true⟩, 0x1000, true, false⟩ ∧
        final.state.memory.read 0x10010 = some 0 := by
  intro page
  have computed : newPmemKind.bind (fun kind =>
      (runSteps (extentStep pmemBytes (pmemHooksOf page false) page.size) ⟨kind, [], none⟩
        (reusedPage (mappedAt 0x10000))).bind ExtentArena.returned) =
          some ⟨⟨0x10000, 0x1000, .active, false, true⟩, 0x1000, true, false⟩ := by
    decide +kernel
  obtain ⟨kind, isKind, rest⟩ := Option.bind_eq_some_iff.mp computed
  obtain ⟨final, ran, returned⟩ := Option.bind_eq_some_iff.mp rest
  obtain ⟨pointer, next, files, rfl, -, created⟩ := newPmemKind_created isKind
  have valid : PmemCallsValid page false ⟨⟨5, 0, 0, 0⟩, files, emptyMemory⟩
      (reusedPage (mappedAt 0x10000)) :=
    reusedPage_valid (mappedAt_request (by decide) (by decide))
  have serves := pmemKind_serves page false 0 ⟨5, grantedAt 0x1000, true⟩ Registry.initial next
    (.empty Fd) files pointer ⟨5, 0, 0, 0⟩ created emptyMemory (fun _ _ _ => rfl) _ valid
  exact ⟨_, isKind, valid, final, ran, returned,
    (serves.final _ ran).zero _ returned rfl 0x10010 ⟨by decide, by decide⟩⟩

/-- The place that `mmap` chooses for an extent that is asked for with an alignment has it. -/
def ExtentCall.PlacedAligned (page : PageSize) (hogMemory : Bool) (call : ExtentCall PmemHookOutcome)
    (arena : ExtentArena PmemKind) : Prop :=
  match call with
  | .allocWrapper newAddr size alignment zero outcome =>
      ∀ grant next, (pmemHooksOf page hogMemory).alloc newAddr size alignment zero true outcome
          arena.state = some (some grant, next) →
        alignment ∣ outcome.mmap.mmap.toNat
  | _ => True

/-- `pmem_extent_alloc` does not look at the alignment: the arena returns aligned extents as long as
`mmap` places each extent that is not cut out of a larger one at a multiple of its alignment. -/
theorem pmemKind_aligned_iff (page : PageSize) (hogMemory : Bool) (maxSize : SizeT)
    (outcome : PmemCreateOutcome) (registry next : Registry) (files after : Files)
    (pointer : Option KindPtr) (priv : PmemPriv)
    (created : memkindCreatePmem maxSize outcome registry files =
      some (.success, pointer, some priv, next, after)) (memory : ProcessMemory)
    (unmade : ∀ file, files.created ≤ file → ∀ offset, memory.content file offset = 0)
    (calls : List (ExtentCall PmemHookOutcome))
    (valid : PmemCallsValid page hogMemory ⟨priv, after, memory⟩ calls) :
    Always (extentStep pmemBytes (pmemHooksOf page hogMemory) page.size)
        (fun arena => ∀ returned, arena.returned = some returned →
          returned.alignment ∣ returned.extent.start) ⟨⟨priv, after, memory⟩, [], none⟩ calls ↔
      Guarded (extentStep pmemBytes (pmemHooksOf page hogMemory) page.size)
        (ExtentCall.PlacedAligned page hogMemory) ⟨⟨priv, after, memory⟩, [], none⟩ calls := by
  have contract := pmemHooksOf_contract page hogMemory memory.pages
  have start : ExtentArena.Sound pmemBytes page.size (PmemBacks memory.pages) True False
      ⟨⟨priv, after, memory⟩, [], none⟩ := .initial (memkindCreatePmem_backs created unmade)
  -- An extent straight from the hook lies where `mmap` has placed it.
  have placed : ∀ {newAddr size alignment zero outcome grant state} {arena : ExtentArena PmemKind},
      ExtentArena.Sound pmemBytes page.size (PmemBacks memory.pages) True False arena →
      page.size ∣ size → PmemRequest page newAddr size alignment outcome arena.state →
      (pmemHooksOf page hogMemory).alloc newAddr size alignment zero true outcome arena.state =
        some (some grant, state) → grant.addr = outcome.mmap.mmap.toNat := by
    intro newAddr size alignment zero outcome grant state arena sound pages request allocated
    have called : arena.state.extentAlloc page newAddr size outcome = some (some grant, state) := by
      rw [← allocated]
      cases hogMemory <;> rfl
    obtain ⟨isNone, -⟩ | ⟨addr, isGrant, isAddr, -⟩ :=
      sound.backed.extentAlloc pages request called
    · cases isNone
    · rw [Option.some.inj isGrant]
      exact isAddr
  have kept : ∀ call arena after,
      (ExtentArena.Sound pmemBytes page.size (PmemBacks memory.pages) True False arena ∧
        ∀ returned, arena.returned = some returned → returned.alignment ∣ returned.extent.start) →
      ExtentCall.Valid page.size (PmemRequest page) (fun _ => True)
        (fun outcome => outcome.destroyUnmapped = true) call arena →
      extentStep pmemBytes (pmemHooksOf page hogMemory) page.size call arena = some after →
      call.PlacedAligned page hogMemory arena →
      ExtentArena.Sound pmemBytes page.size (PmemBacks memory.pages) True False after ∧
        ∀ returned, after.returned = some returned →
          returned.alignment ∣ returned.extent.start := by
    rintro call arena after ⟨sound, -⟩ callValid stepped aligned
    have afterSound := extentStep_sound contract sound callValid stepped
    refine ⟨afterSound, fun returned isReturned => ?_⟩
    obtain part | ⟨newAddr, size, alignment, zero, outcome, grant, rfl, allocated, isStart,
      isAlignment⟩ := extentStep_returned stepped isReturned
    · exact (afterSound.delivered returned isReturned).aligned (Or.inr part)
    · rw [isStart, isAlignment, placed sound callValid.1 callValid.2 allocated]
      exact aligned grant after.state allocated
  have needed : ∀ call arena after,
      (ExtentArena.Sound pmemBytes page.size (PmemBacks memory.pages) True False arena ∧
        ∀ returned, arena.returned = some returned → returned.alignment ∣ returned.extent.start) →
      ExtentCall.Valid page.size (PmemRequest page) (fun _ => True)
        (fun outcome => outcome.destroyUnmapped = true) call arena →
      extentStep pmemBytes (pmemHooksOf page hogMemory) page.size call arena = some after →
      (∀ returned, after.returned = some returned →
        returned.alignment ∣ returned.extent.start) → call.PlacedAligned page hogMemory arena := by
    rintro call arena after ⟨sound, -⟩ callValid stepped aligned
    cases call with
    | allocWrapper newAddr size alignment zero outcome =>
        intro grant state allocated
        have isAfter : extentStep pmemBytes (pmemHooksOf page hogMemory) page.size
            (.allocWrapper newAddr size alignment zero outcome) arena =
              Option.map _ (some (some grant, state)) := congrArg (Option.map _) allocated
        rw [stepped] at isAfter
        obtain rfl := Option.some.inj isAfter
        rw [← placed sound callValid.1 callValid.2 allocated]
        exact aligned _ rfl
    | _ => trivial
  exact always_iff_guarded_of_assumed _ (fun arena sound => sound.2) kept needed
    ⟨start, nofun⟩ valid

/-- Larger pieces are refused, and the extent comes from `mmap` at an odd page. -/
def oddPage : List (ExtentCall PmemHookOutcome) :=
  [.growRetained 0x2000 0x1000 0x2000 false
      ⟨⟨.otherError, -1, .otherError, mapFailed⟩, ⟨.success, true⟩, true⟩,
    .allocWrapper 0 0x1000 0x2000 false (mappedAt 0x11000)]

theorem pmemKind_aligned_iff_oddPage :
    let page : PageSize := ⟨12, by decide⟩
    ∃ kind, newPmemKind = some kind ∧ PmemCallsValid page false kind oddPage ∧
      ¬Always (extentStep pmemBytes (pmemHooksOf page false) page.size)
        (fun arena => ∀ returned, arena.returned = some returned →
          returned.alignment ∣ returned.extent.start) ⟨kind, [], none⟩ oddPage := by
  intro page
  obtain ⟨kind, isKind⟩ : ∃ kind, newPmemKind = some kind :=
    Option.isSome_iff_exists.mp (by decide +kernel)
  obtain ⟨pointer, next, files, rfl, opened, created⟩ := newPmemKind_created isKind
  have refused : extentStep pmemBytes (pmemHooksOf page false) page.size
      (.growRetained 0x2000 0x1000 0x2000 false
        ⟨⟨.otherError, -1, .otherError, mapFailed⟩, ⟨.success, true⟩, true⟩)
      ⟨⟨⟨5, 0, 0, 0⟩, files, emptyMemory⟩, [], none⟩ =
        some ⟨⟨⟨5, 0, 0, 0⟩, files, emptyMemory⟩, [], none⟩ := rfl
  have valid : PmemCallsValid page false ⟨⟨5, 0, 0, 0⟩, files, emptyMemory⟩ oddPage := by
    refine Guarded.cons _ refused ⟨by decide, by decide, by decide, by decide, by decide, nofun, nofun,
      fun placed => absurd rfl placed⟩ fun _ _ => ⟨⟨by decide, ?_⟩, trivial⟩
    exact mappedAt_request (by decide) (by decide)
  obtain ⟨state, granted⟩ : ∃ state, (pmemHooksOf page false).alloc 0 0x1000 0x2000 false true
      (mappedAt 0x11000) ⟨⟨5, 0, 0, 0⟩, files, emptyMemory⟩ =
        some (some ⟨0x11000, true, true⟩, state) := by
    show ∃ state, Option.map _ (Option.map _ (files.opened 5)) = _
    rw [opened]
    exact ⟨_, rfl⟩
  refine ⟨_, isKind, valid, fun always => ?_⟩
  have guarded := (pmemKind_aligned_iff page false 0 ⟨5, grantedAt 0x1000, true⟩ Registry.initial next
    (.empty Fd) files pointer ⟨5, 0, 0, 0⟩ created emptyMemory (fun _ _ _ => rfl) _ valid).mp always
  have aligned := ((guarded _ refused).2 _ (congrArg (Option.map _) granted)).1 _ _ granted
  exact absurd aligned (by decide)

end Memkind
