/-
This file shows that the allocation of an extent leaves exactly the extent mapped, and that it maps
or unmaps no page that was in use.
-/

import Memkind.Construction.ExtentAlloc
import Memkind.Library.PowerMasks

namespace Memkind

open Library

/-- The bytes of a range. -/
def byteRange (addr : Address) (size : SizeT) : Set Nat :=
  Set.Ico addr.toNat (addr.toNat + size.toNat)

/-- The mapped addresses after some calls on a machine with 64-bit addresses. -/
abbrev PageSize.after (page : PageSize) (events : List MapEvent) (space : Set Nat) : Set Nat :=
  applyEvents page.size (2 ^ 64) events space

/-- The mappings are those that a machine with 64-bit addresses can make. -/
abbrev PageSize.Allows (page : PageSize) (events : List MapEvent) (space : Set Nat) : Prop :=
  AllowedEvents page.size (2 ^ 64) events space

/-- The addresses that some calls map or unmap on a machine with 64-bit addresses. -/
abbrev PageSize.touched (page : PageSize) (events : List MapEvent) : Set Nat :=
  Library.touched page.size (2 ^ 64) events

/-- Whole pages that were not in use and are not at the ends of the address space. -/
structure FreshPages (page : PageSize) (space : Set Nat) (addr : Address) (size : SizeT) :
    Prop where
  aligned : page.size ∣ addr.toNat
  nonNull : 0 < addr.toNat
  nonempty : 0 < size.toNat
  fits : addr.toNat + size.toNat < 2 ^ 64
  unused : Disjoint (byteRange addr size) space

/-- What a call of `memkind_default_mmap` leaves: nothing, or the new pages. -/
inductive MmapEffect (page : PageSize) (space : Set Nat) (size : SizeT) (mapping : Mapping) :
    Prop where
  | failed (addr : mapping.1 = mapFailed) (unchanged : page.after mapping.2 space = space)
      (apart : Disjoint (page.touched mapping.2) space)
  | mapped (fresh : FreshPages page space mapping.1 size)
      (grown : page.after mapping.2 space = space ∪ byteRange mapping.1 size)
      (apart : Disjoint (page.touched mapping.2) space)

section Mapping

variable {page : PageSize} {space : Set Nat} {size : SizeT} {mapping : Mapping}

theorem FreshPages.addr_ne {addr : Address} (fresh : FreshPages page space addr size) :
    addr ≠ mapFailed := by
  intro equal
  have top : addr.toNat = 2 ^ 64 - 1 := by
    rw [equal]
    rfl
  have fits := fresh.fits
  have nonempty := fresh.nonempty
  omega

theorem after_munmap (events : List MapEvent) (addr : Address) :
    page.after (events ++ [munmap addr size]) space =
      MapEvent.apply page.size (2 ^ 64) (page.after events space)
        (.unmap addr.toNat size.toNat) := by
  rw [PageSize.after, applyEvents_append]
  rfl

theorem disjoint_touched_append {first second : List MapEvent} :
    Disjoint (page.touched (first ++ second)) space ↔
      Disjoint (page.touched first) space ∧ Disjoint (page.touched second) space := by
  rw [PageSize.touched, touched_append, Set.disjoint_union_left]

/-- `munmap` for whole pages removes at most these pages. -/
theorem touched_munmap_subset (addr : Address) (multiple : page.size ∣ size.toNat) :
    page.touched [munmap addr size] ⊆ byteRange addr size := by
  rw [PageSize.touched, touched_cons, touched_nil, Set.union_empty, munmap, MapEvent.range]
  split
  · rw [roundUp_of_dvd page.size_pos multiple]
    exact subset_rfl
  · exact Set.empty_subset _

/-- A pointer that is not `MAP_FAILED` has new pages. -/
theorem MmapEffect.of_ne (effect : MmapEffect page space size mapping)
    (succeeded : mapping.1 ≠ mapFailed) :
    FreshPages page space mapping.1 size ∧
      page.after mapping.2 space = space ∪ byteRange mapping.1 size ∧
      Disjoint (page.touched mapping.2) space := by
  cases effect with
  | failed addr _ _ => exact absurd addr succeeded
  | mapped fresh grown apart => exact ⟨fresh, grown, apart⟩

/-- New pages that are unmapped again leave nothing. -/
theorem FreshPages.unmapped (multiple : page.size ∣ size.toNat)
    (fresh : FreshPages page space mapping.1 size)
    (grown : page.after mapping.2 space = space ∪ byteRange mapping.1 size)
    (apart : Disjoint (page.touched mapping.2) space) :
    page.after (mapping.2 ++ [munmap mapping.1 size]) space = space ∧
      Disjoint (page.touched (mapping.2 ++ [munmap mapping.1 size])) space := by
  constructor
  · rw [after_munmap, grown, apply_unmap page.size_pos fresh.aligned multiple fresh.fits]
    exact unmap_mapped fresh.unused
  · rw [disjoint_touched_append]
    exact ⟨apart, fresh.unused.mono_left (touched_munmap_subset mapping.1 multiple)⟩

/-- The removal of `MAP_FAILED` is refused. -/
theorem touched_munmap_mapFailed (multiple : page.size ∣ size.toNat) :
    page.touched [munmap mapFailed size] = ∅ := by
  have top : mapFailed.toNat = 2 ^ 64 - 1 := rfl
  rw [PageSize.touched, touched_cons, touched_nil, Set.union_empty, munmap, MapEvent.range]
  split
  · rename_i accepted
    have empty : size.toNat = 0 := by omega
    rw [roundUp_of_dvd page.size_pos multiple, empty, Nat.add_zero, Set.Ico_self]
  · rfl

theorem MmapEffect.unmapFailed (multiple : page.size ∣ size.toNat) (addr : mapping.1 = mapFailed)
    (unchanged : page.after mapping.2 space = space)
    (apart : Disjoint (page.touched mapping.2) space) :
    MmapEffect page space size (mapping.checked true size) := by
  have refused := @touched_munmap_mapFailed page size multiple
  rw [Mapping.checked, addr, if_pos rfl]
  refine .failed rfl ?_ ?_
  · refine (applyEvents_append _ _).trans (Eq.trans ?_ unchanged)
    ext address
    have outside : address ∉ page.touched [munmap mapFailed size] := by
      rw [refused]
      exact Set.notMem_empty address
    exact mem_applyEvents_of_notMem outside
  · rw [disjoint_touched_append, refused]
    exact ⟨apart, (Set.disjoint_empty space).symm⟩

/-- The effect of `mmap` itself. -/
theorem MmapEffect.of_map {addr : Address} (multiple : page.size ∣ size.toNat)
    (allowed : MapEvent.Allowed page.size (2 ^ 64) space (.map addr.toNat size.toNat)) :
    MmapEffect page space size (addr, [.map addr.toNat size.toNat]) := by
  obtain ⟨aligned, nonNull, nonempty, fits, unused⟩ := allowed
  have rounded := roundUp_of_dvd page.size_pos multiple
  rw [rounded] at unused
  have fresh : FreshPages page space addr size := ⟨aligned, nonNull, nonempty, fits, unused⟩
  refine .mapped fresh ?_ ?_
  · show space ∪ Set.Ico addr.toNat (addr.toNat + roundUp page.size size.toNat) = _
    rw [rounded]
    rfl
  · rw [PageSize.touched, touched_cons, touched_nil, Set.union_empty, MapEvent.range, rounded]
    exact unused

/-- The tests of `mbind` and `madvise` keep the effect. -/
theorem MmapEffect.checked (err : Bool) (multiple : page.size ∣ size.toNat)
    (effect : MmapEffect page space size mapping) :
    MmapEffect page space size (mapping.checked err size) := by
  cases err with
  | false => exact effect
  | true =>
      cases effect with
      | failed addr unchanged apart => exact unmapFailed multiple addr unchanged apart
      | mapped fresh grown apart =>
          obtain ⟨restored, apart⟩ := fresh.unmapped multiple grown apart
          exact .failed rfl restored apart

theorem Mapping.checked_events (err : Bool) :
    ∃ later, (mapping.checked err size).2 = mapping.2 ++ later := by
  cases err with
  | false => exact ⟨[], (List.append_nil _).symm⟩
  | true => exact ⟨_, rfl⟩

/-- `memkind_default_mmap` returns new pages or leaves nothing mapped. -/
theorem memkindDefaultMmap_effect {ops : MmapOps} {outcome : MmapOutcome}
    (multiple : page.size ∣ size.toNat)
    (allowed : page.Allows (memkindDefaultMmap ops outcome size).2 space) :
    MmapEffect page space size (memkindDefaultMmap ops outcome size) := by
  unfold memkindDefaultMmap at allowed ⊢
  dsimp only at allowed ⊢
  have untouched : Disjoint (page.touched []) space := by
    rw [PageSize.touched, touched_nil]
    exact (Set.disjoint_empty space).symm
  split at allowed
  · rename_i noFlags
    rw [if_pos noFlags]
    exact ((MmapEffect.failed rfl rfl untouched).checked _ multiple).checked _ multiple
  · rename_i flags
    rw [if_neg flags]
    cases mapped : outcome.mmap with
    | none => exact .failed rfl rfl untouched
    | some addr =>
        rw [mapped] at allowed
        dsimp only at allowed ⊢
        -- The calls after `mmap` only append to its event.
        obtain ⟨first, firstEvents⟩ := @Mapping.checked_events size
          (addr, [.map addr.toNat size.toNat]) (ops.mbind && outcome.mbind)
        obtain ⟨second, secondEvents⟩ := @Mapping.checked_events size
          (Mapping.checked (ops.mbind && outcome.mbind) size
            (addr, [.map addr.toNat size.toNat])) (ops.madvise && outcome.madvise)
        rw [secondEvents, firstEvents, List.append_assoc] at allowed
        have effect := MmapEffect.of_map multiple (allowedEvents_append.mp allowed).1.1
        exact (effect.checked _ multiple).checked _ multiple

end Mapping

section Aligned

variable {page : PageSize} {space : Set Nat} {size alignment : SizeT}

/-- A large enough power of two is a number of whole pages. -/
theorem size_dvd_of_power (power : alignment.toNat.isPowerOfTwo)
    (large : page.size ≤ alignment.toNat) : page.size ∣ alignment.toNat := by
  obtain ⟨exponent, equal⟩ := power
  rw [equal] at large ⊢
  exact Nat.pow_dvd_pow 2 ((Nat.pow_le_pow_iff_right (by decide)).mp large)

/-- The head or the tail of new pages that is unmapped. -/
theorem after_munmapRest (events : List MapEvent) {addr : Address} {length : SizeT}
    (aligned : page.size ∣ addr.toNat) (multiple : page.size ∣ length.toNat)
    (fits : addr.toNat + length.toNat < 2 ^ 64) :
    page.after (events ++ munmapRest addr length) space =
        page.after events space \ Set.Ico addr.toNat (addr.toNat + length.toNat) ∧
      page.touched (munmapRest addr length) ⊆ byteRange addr length := by
  rw [munmapRest]
  by_cases nonempty : 0 < length
  · rw [if_pos nonempty, after_munmap]
    exact ⟨apply_unmap page.size_pos aligned multiple fits, touched_munmap_subset addr multiple⟩
  · have empty : length.toNat = 0 := Nat.eq_zero_of_not_pos nonempty
    rw [if_neg nonempty, List.append_nil, empty, Nat.add_zero, Set.Ico_self, Set.sdiff_empty,
      PageSize.touched, touched_nil]
    exact ⟨rfl, Set.empty_subset _⟩

/-- New pages that lose their head and their tail. -/
theorem FreshPages.trimmed {mapping : Mapping} {extended : SizeT} {low : Address}
    (fresh : FreshPages page space mapping.1 extended)
    (grown : page.after mapping.2 space = space ∪ byteRange mapping.1 extended)
    (apart : Disjoint (page.touched mapping.2) space)
    (extendedPages : page.size ∣ extended.toNat) (lowPages : page.size ∣ low.toNat)
    (sizePages : page.size ∣ size.toNat) (above : mapping.1.toNat ≤ low.toNat)
    (below : low.toNat + size.toNat ≤ mapping.1.toNat + extended.toNat) :
    let events := mapping.2 ++ munmapRest mapping.1 (low - mapping.1) ++
      munmapRest (low + size) ((mapping.1 + extended) - (low + size))
    page.after events space = space ∪ byteRange low size ∧
      Disjoint (page.touched events) space := by
  have fits := fresh.fits
  have head : (low - mapping.1).toNat = low.toNat - mapping.1.toNat :=
    BitVec.toNat_sub_of_le above
  have tail : (low + size).toNat = low.toNat + size.toNat := by
    rw [BitVec.toNat_add, Nat.mod_eq_of_lt (by omega)]
  have stop : (mapping.1 + extended).toNat = mapping.1.toNat + extended.toNat := by
    rw [BitVec.toNat_add, Nat.mod_eq_of_lt fits]
  have rest : (mapping.1 + extended - (low + size)).toNat =
      mapping.1.toNat + extended.toNat - (low.toNat + size.toNat) := by
    rw [BitVec.toNat_sub_of_le (by rw [BitVec.le_def, tail, stop]; exact below), stop, tail]
  have tailPages := Nat.dvd_add lowPages sizePages
  have stopPages := Nat.dvd_add fresh.aligned extendedPages
  obtain ⟨headAfter, headTouched⟩ := @after_munmapRest page space mapping.2 mapping.1
    (low - mapping.1) fresh.aligned (by rw [head]; exact Nat.dvd_sub lowPages fresh.aligned)
    (by omega)
  obtain ⟨tailAfter, tailTouched⟩ := @after_munmapRest page space
    (mapping.2 ++ munmapRest mapping.1 (low - mapping.1)) (low + size)
    (mapping.1 + extended - (low + size)) (by rw [tail]; exact tailPages)
    (by rw [rest]; exact Nat.dvd_sub stopPages tailPages) (by omega)
  constructor
  · rw [tailAfter, headAfter, grown, head, tail, rest, Nat.add_sub_of_le above,
      Nat.add_sub_of_le below]
    exact trim_mapped above (by omega) below fresh.unused
  · -- Both parts are inside the larger mapping, which was not in use.
    rw [disjoint_touched_append, disjoint_touched_append]
    refine ⟨⟨apart, fresh.unused.mono_left (headTouched.trans ?_)⟩,
      fresh.unused.mono_left (tailTouched.trans ?_)⟩
    · exact Set.Ico_subset_Ico (le_refl _) (by omega)
    · exact Set.Ico_subset_Ico (by omega) (by omega)

/-- What an allocation of an extent leaves: nothing and `NULL`, or the aligned extent. -/
inductive ExtentEffect (page : PageSize) (space : Set Nat) (size alignment : SizeT)
    (mapping : Mapping) : Prop where
  | refused (addr : mapping.1 = 0) (unchanged : page.after mapping.2 space = space)
      (apart : Disjoint (page.touched mapping.2) space)
  | extent (nonNull : mapping.1 ≠ 0) (aligned : alignment.toNat ∣ mapping.1.toNat)
      (unused : Disjoint (byteRange mapping.1 size) space)
      (grown : page.after mapping.2 space = space ∪ byteRange mapping.1 size)
      (apart : Disjoint (page.touched mapping.2) space)

/-- The larger mapping keeps an aligned extent. -/
theorem allocAlignedSlow_effect {ops : MmapOps} {outcome : MmapOutcome}
    (sizePages : page.size ∣ size.toNat) (power : alignment.toNat.isPowerOfTwo)
    (large : page.size ≤ alignment.toNat) (sum : size.toNat + alignment.toNat < 2 ^ 64)
    (allowed : page.Allows (allocAlignedSlow ops outcome size alignment).2 space) :
    ExtentEffect page space size alignment (allocAlignedSlow ops outcome size alignment) := by
  have pages := size_dvd_of_power power large
  have extended : (size + alignment).toNat = size.toNat + alignment.toNat := by
    rw [BitVec.toNat_add, Nat.mod_eq_of_lt sum]
  have extendedPages : page.size ∣ (size + alignment).toNat := by
    rw [extended]
    exact Nat.dvd_add sizePages pages
  have effect := @memkindDefaultMmap_effect page space (size + alignment) ops outcome extendedPages
  unfold allocAlignedSlow at allowed ⊢
  dsimp only at allowed ⊢
  generalize memkindDefaultMmap ops outcome (size + alignment) = mapping at allowed effect ⊢
  have mapped : page.Allows mapping.2 space := by
    split at allowed
    · exact allowed
    · rw [List.append_assoc] at allowed
      exact (allowedEvents_append.mp allowed).1
  cases effect mapped with
  | failed addr unchanged apart =>
      rw [if_pos addr]
      exact .refused rfl unchanged apart
  | mapped fresh grown apart =>
      rw [if_neg fresh.addr_ne]
      have fits := fresh.fits
      rw [extended] at fits
      -- The aligned address lies behind the mapped one by at most one alignment.
      have rounded := toNat_and_not_pred power (mapping.1 + alignment)
      rw [BitVec.toNat_add, Nat.mod_eq_of_lt (by omega)] at rounded
      generalize (mapping.1 + alignment) &&& ~~~(alignment - 1) = low at rounded ⊢
      have multiple : alignment.toNat ∣ low.toNat := by
        rw [rounded]
        exact Nat.dvd_mul_left _ _
      have positive : 0 < alignment.toNat := Nat.lt_of_lt_of_le page.size_pos large
      have upper := Nat.div_mul_le_self (mapping.1.toNat + alignment.toNat) alignment.toNat
      have lower := @Nat.lt_div_mul_add (mapping.1.toNat + alignment.toNat) alignment.toNat positive
      rw [← rounded] at upper lower
      obtain ⟨after, apart⟩ := fresh.trimmed grown apart extendedPages
        (Nat.dvd_trans pages multiple) sizePages (by omega) (by omega)
      have inside : byteRange low size ⊆ byteRange mapping.1 (size + alignment) :=
        Set.Ico_subset_Ico (by omega) (by omega)
      refine .extent ?_ multiple (fresh.unused.mono_left inside) after apart
      intro null
      have zero : low.toNat = 0 := congrArg BitVec.toNat null
      have nonNull := fresh.nonNull
      omega

end Aligned

section Extent

variable {page : PageSize} {space : Set Nat} {ops : MmapOps} {direct slow : MmapOutcome}
  {newAddr : Address} {size alignment : SizeT} {zero commit : Bool}

/-- An extent that was mapped at the first attempt and has the alignment. -/
theorem FreshPages.effect {mapping : Mapping} (fresh : FreshPages page space mapping.1 size)
    (grown : page.after mapping.2 space = space ∪ byteRange mapping.1 size)
    (apart : Disjoint (page.touched mapping.2) space)
    (aligned : alignment.toNat ∣ mapping.1.toNat) :
    ExtentEffect page space size alignment mapping := by
  refine .extent ?_ aligned fresh.unused grown apart
  intro null
  have nonNull := fresh.nonNull
  rw [null] at nonNull
  exact absurd nonNull (by decide)

/-- An extent that is unmapped before the second attempt. -/
theorem FreshPages.retried {mapping retry : Mapping} (fresh : FreshPages page space mapping.1 size)
    (grown : page.after mapping.2 space = space ∪ byteRange mapping.1 size)
    (apart : Disjoint (page.touched mapping.2) space) (sizePages : page.size ∣ size.toNat)
    (allowed : page.Allows (mapping.2 ++ [munmap mapping.1 size] ++ retry.2) space)
    (effect : page.Allows retry.2 space → ExtentEffect page space size alignment retry) :
    ExtentEffect page space size alignment
      (retry.1, mapping.2 ++ [munmap mapping.1 size] ++ retry.2) := by
  obtain ⟨restored, apart⟩ := fresh.unmapped sizePages grown apart
  have again : page.Allows retry.2 space := by
    have later := (allowedEvents_append.mp allowed).2
    change page.Allows retry.2 (page.after (mapping.2 ++ [munmap mapping.1 size]) space) at later
    rwa [restored] at later
  have after : page.after (mapping.2 ++ [munmap mapping.1 size] ++ retry.2) space =
      page.after retry.2 space :=
    (applyEvents_append _ _).trans (congrArg (page.after retry.2) restored)
  cases effect again with
  | refused addr unchanged untouched =>
      exact .refused addr (after.trans unchanged) (disjoint_touched_append.mpr ⟨apart, untouched⟩)
  | extent nonNull aligned unused grown untouched =>
      exact .extent nonNull aligned unused (after.trans grown)
        (disjoint_touched_append.mpr ⟨apart, untouched⟩)

/-- The effect of `arena_extent_alloc`, and that a given address is honoured. -/
theorem arenaExtentAlloc_effect {unavailable : Bool} (sizePages : page.size ∣ size.toNat)
    (power : alignment.toNat.isPowerOfTwo) (large : page.size ≤ alignment.toNat)
    (hint : alignment.toNat ∣ newAddr.toNat) (sum : size.toNat + alignment.toNat < 2 ^ 64)
    (allowed : page.Allows (arenaExtentAlloc ops unavailable direct slow newAddr size alignment zero
      commit).events space) :
    let extent := arenaExtentAlloc ops unavailable direct slow newAddr size alignment zero commit
    ExtentEffect page space size alignment (extent.addr, extent.events) ∧
      (newAddr ≠ 0 → extent.addr = 0 ∨ extent.addr = newAddr) := by
  have directEffect := @memkindDefaultMmap_effect page space size ops direct sizePages
  have slowEffect := @allocAlignedSlow_effect page space size alignment ops slow sizePages power
    large sum
  unfold arenaExtentAlloc at allowed ⊢
  dsimp only at allowed ⊢
  generalize memkindDefaultMmap ops direct size = mapping at allowed directEffect ⊢
  generalize allocAlignedSlow ops slow size alignment = retry at allowed slowEffect ⊢
  cases unavailable with
  | true =>
      refine ⟨.refused rfl rfl ?_, fun _ => Or.inl rfl⟩
      simp only [if_true, PageSize.touched, touched_nil, Set.empty_disjoint]
  | false =>
      simp only [Bool.false_eq_true, if_false] at allowed ⊢
      by_cases failed : mapping.1 = mapFailed
      · rw [if_pos failed] at allowed ⊢
        cases directEffect allowed with
        | failed _ unchanged apart => exact ⟨.refused rfl unchanged apart, fun _ => Or.inl rfl⟩
        | mapped fresh _ _ => exact absurd failed fresh.addr_ne
      rw [if_neg failed] at allowed ⊢
      by_cases elsewhere : newAddr ≠ 0 ∧ mapping.1 ≠ newAddr
      · rw [if_pos elsewhere] at allowed ⊢
        have direct := directEffect (allowedEvents_append.mp allowed).1
        obtain ⟨fresh, grown, apart⟩ := direct.of_ne failed
        obtain ⟨restored, apart⟩ := fresh.unmapped sizePages grown apart
        exact ⟨.refused rfl restored apart, fun _ => Or.inl rfl⟩
      rw [if_neg elsewhere] at allowed ⊢
      have remainder := toNat_and_pred power mapping.1
      by_cases misaligned : mapping.1 &&& (alignment - 1) ≠ 0
      · have noHint : newAddr = 0 := by
          by_contra given
          obtain rfl : mapping.1 = newAddr := by_contra fun other => elsewhere ⟨given, other⟩
          rw [Nat.mod_eq_zero_of_dvd hint] at remainder
          exact misaligned (BitVec.eq_of_toNat_eq remainder)
        rw [if_pos misaligned] at allowed ⊢
        have retried := ExtentAlloc.ofRetry_eq zero commit
          (retry.1, mapping.2 ++ [munmap mapping.1 size] ++ retry.2)
        rw [(Prod.mk.inj retried).2] at allowed
        rw [retried]
        have direct := directEffect (allowedEvents_append.mp (allowedEvents_append.mp allowed).1).1
        obtain ⟨fresh, grown, apart⟩ := direct.of_ne failed
        exact ⟨fresh.retried grown apart sizePages allowed slowEffect,
          fun given => absurd noHint given⟩
      · rw [if_neg misaligned] at allowed ⊢
        obtain ⟨fresh, grown, apart⟩ := (directEffect allowed).of_ne failed
        rw [not_not.mp misaligned] at remainder
        have aligned := Nat.dvd_of_mod_eq_zero remainder.symm
        refine ⟨fresh.effect grown apart aligned, fun given => Or.inr ?_⟩
        exact by_contra fun other => elsewhere ⟨given, other⟩

end Extent

/-- An extent is aligned, is at the given address if there is one, and is all that is mapped
afterwards in addition to what was mapped before. Without an extent nothing is. -/
theorem arenaExtentAlloc_maps_extent (page : PageSize) (space : Set Nat) (ops : MmapOps)
    (unavailable : Bool) (direct slow : MmapOutcome) (newAddr : Address) (size alignment : SizeT)
    (zero commit : Bool) (sizePages : page.size ∣ size.toNat)
    (power : alignment.toNat.isPowerOfTwo) (large : page.size ≤ alignment.toNat)
    (hint : newAddr = 0 ∨ alignment.toNat ∣ newAddr.toNat)
    (sum : size.toNat + alignment.toNat < 2 ^ 64)
    (allowed : page.Allows (arenaExtentAlloc ops unavailable direct slow newAddr size alignment zero
      commit).events space) :
    let extent := arenaExtentAlloc ops unavailable direct slow newAddr size alignment zero commit
    (extent.addr ≠ 0 → alignment.toNat ∣ extent.addr.toNat ∧
      (newAddr ≠ 0 → extent.addr = newAddr) ∧
      page.after extent.events space =
        space ∪ Set.Ico extent.addr.toNat (extent.addr.toNat + size.toNat)) ∧
    (extent.addr = 0 → page.after extent.events space = space) := by
  have multiple : alignment.toNat ∣ newAddr.toNat := by
    obtain rfl | multiple := hint
    · exact Nat.dvd_zero _
    · exact multiple
  obtain ⟨effect, honoured⟩ := arenaExtentAlloc_effect sizePages power large multiple sum allowed
  cases effect with
  | refused addr unchanged _ => exact ⟨fun found => absurd addr found, fun _ => unchanged⟩
  | extent nonNull aligned _ grown _ =>
      exact ⟨fun _ => ⟨aligned, fun given => (honoured given).resolve_left nonNull, grown⟩,
        fun null => absurd null nonNull⟩

/-- The second attempt is aligned within the larger mapping. -/
theorem arenaExtentAlloc_maps_extent_slow :
    let page : PageSize := ⟨12, by decide⟩
    let extent := arenaExtentAlloc ⟨true, true, true⟩ false ⟨false, some 0x1000, false, false⟩
      ⟨false, some 0x5000, false, false⟩ 0 0x1000 0x2000 false false
    extent.addr = 0x6000 ∧ page.after extent.events ∅ = ∅ ∪ Set.Ico 0x6000 0x7000 := by
  refine ⟨by decide, (arenaExtentAlloc_maps_extent ⟨12, by decide⟩ ∅ ⟨true, true, true⟩ false
    ⟨false, some 0x1000, false, false⟩ ⟨false, some 0x5000, false, false⟩ 0 0x1000 0x2000 false
    false (by decide) ⟨13, rfl⟩ (by decide) (Or.inl rfl) (by decide) ?_).1 (by decide) |>.2.2⟩
  have events : (arenaExtentAlloc ⟨true, true, true⟩ false ⟨false, some 0x1000, false, false⟩
      ⟨false, some 0x5000, false, false⟩ 0 0x1000 0x2000 false false).events =
      [.map 0x1000 0x1000, .unmap 0x1000 0x1000, .map 0x5000 0x3000, .unmap 0x5000 0x1000,
        .unmap 0x7000 0x1000] := by decide
  rw [events]
  refine ⟨⟨by decide, by decide, by decide, by decide, Set.disjoint_empty _⟩, trivial,
    ⟨by decide, by decide, by decide, by decide, ?_⟩, trivial, trivial, trivial⟩
  rw [apply_unmap (by decide) (by decide) (by decide) (by decide), MapEvent.apply,
    roundUp_of_dvd (by decide) (by decide), roundUp_of_dvd (by decide) (by decide), Set.empty_union,
    Set.sdiff_self]
  exact Set.disjoint_empty _

end Memkind
