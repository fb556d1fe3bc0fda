/-
This file proves that a fixed kind hands out disjoint aligned parts of its region.
-/

import Memkind.Library.Extents
import Memkind.Library.Run
import Memkind.Proof.Fixed.Placement

namespace Memkind

open Library

/-- The calls of the extent hooks of a fixed kind. -/
inductive FixedCall where
  | alloc (size alignment : SizeT)
  | dalloc (addr : Address) (size : SizeT)

/-- Allocations keep to the requests of jemalloc, and any extent may be offered back. -/
def FixedCall.Valid : FixedCall → Prop
  | .alloc size alignment => FixedRequest size alignment
  | .dalloc _ _ => True

/-- An extent that was returned and the alignment that was asked for. -/
structure FixedResult where
  extent : Extent
  alignment : Nat

/-- The private data of the kind and all the extents that it has ever returned. -/
structure FixedRun where
  priv : FixedPriv
  results : List FixedResult

/-- One call of an extent hook. -/
def fixedStep (call : FixedCall) (run : FixedRun) : Option FixedRun :=
  match call with
  | .alloc size alignment =>
      (fixedExtentAlloc 0 size alignment run.priv).map fun (addr, priv) =>
        ⟨priv, if addr ≠ 0 then ⟨⟨addr.toNat, size.toNat⟩, alignment.toNat⟩ :: run.results
          else run.results⟩
  | .dalloc addr size => some { run with priv := (fixedExtentDalloc addr size run.priv).2 }

/-- A request that would be placed at the address `NULL` or `MAP_FAILED`. -/
def PlacedAtSentinel (base current alignment : Nat) : Prop :=
  base + current + padding (base + current) alignment = 0 ∨
    base + current + padding (base + current) alignment = 2 ^ 64 - 1

/-- The safety of the region of a fixed kind. -/
structure FixedRun.RegionSafe (base : Address) (capacity : SizeT) (run : FixedRun) : Prop where
  contained : ∀ result ∈ run.results, result.alignment ∣ result.extent.start ∧
    base.toNat ≤ result.extent.start ∧ result.extent.stop ≤ base.toNat + capacity.toNat
  disjoint : (run.results.map FixedResult.extent).Pairwise Extent.Apart
  pointer : run.priv.addr = base + run.priv.current ∧ run.priv.current.toNat ≤ capacity.toNat
  refused : ∀ size alignment, FixedRequest size alignment → ∀ next,
    fixedExtentAlloc 0 size alignment run.priv = some (0, next) →
      (next = run.priv ∧ ¬RequestFits base.toNat capacity.toNat run.priv.current.toNat size.toNat
        alignment.toNat) ∨
      PlacedAtSentinel base.toNat run.priv.current.toNat alignment.toNat

/-- The invariant of a fixed kind. -/
structure FixedRun.Sound (base : Address) (capacity : SizeT) (run : FixedRun) : Prop where
  inside : run.priv.Inside base capacity
  stacked : Stacked base.toNat (base.toNat + run.priv.current.toNat)
    (run.results.map FixedResult.extent)
  aligned : ∀ result ∈ run.results, result.alignment ∣ result.extent.start

/-- What `fixed_extent_alloc` returns for a request of jemalloc. -/
theorem fixedExtentAlloc_cases {base : Address} {capacity alignment size : SizeT}
    {priv : FixedPriv} (inside : priv.Inside base capacity)
    (region : base.toNat + capacity.toNat ≤ 2 ^ 64) (half : capacity.toNat ≤ 2 ^ 63)
    (request : FixedRequest size alignment) :
    (¬RequestFits base.toNat capacity.toNat priv.current.toNat size.toNat alignment.toNat ∧
      fixedExtentAlloc 0 size alignment priv = some (0, priv)) ∨
    ∃ placed next, fixedExtentAlloc 0 size alignment priv =
        some (if placed ≠ mapFailed then placed else 0, next) ∧
      placed.toNat = base.toNat + priv.current.toNat +
        padding (base.toNat + priv.current.toNat) alignment.toNat ∧
      next.Inside base capacity ∧
      base.toNat + next.current.toNat = placed.toNat + size.toNat := by
  by_cases fits : RequestFits base.toNat capacity.toNat priv.current.toNat size.toNat
      alignment.toNat
  · obtain ⟨placed, next, called, address, after, moved⟩ :=
      memkindFixedMmapAligned_granted inside region half request fits
    right
    refine ⟨placed, next, ?_, address, after, moved⟩
    rw [fixedExtentAlloc, if_neg (by simp), called]
    rfl
  · left
    refine ⟨fits, ?_⟩
    rw [fixedExtentAlloc, if_neg (by simp),
      memkindFixedMmapAligned_refused inside region half request fits]
    rfl

/-- The invariant gives the safety of the region. -/
theorem FixedRun.Sound.regionSafe {base : Address} {capacity : SizeT} {run : FixedRun}
    (sound : run.Sound base capacity) (region : base.toNat + capacity.toNat ≤ 2 ^ 64)
    (half : capacity.toNat ≤ 2 ^ 63) : run.RegionSafe base capacity where
  contained := by
    intro result member
    have bounds := sound.stacked.within result.extent (List.mem_map_of_mem member)
    have current := sound.inside.current
    exact ⟨sound.aligned result member, bounds.1, by omega⟩
  disjoint := sound.stacked.apart
  pointer := ⟨sound.inside.addr, sound.inside.current⟩
  refused := by
    intro size alignment request next called
    rcases fixedExtentAlloc_cases sound.inside region half request with
      ⟨full, refused⟩ | ⟨placed, after, granted, address, -, -⟩
    · rw [refused] at called
      cases called
      exact Or.inl ⟨rfl, full⟩
    · right
      rw [granted] at called
      obtain ⟨null, -⟩ := Prod.mk.inj (Option.some.inj called)
      unfold PlacedAtSentinel
      rw [← address]
      split at null
      · rw [null]
        exact Or.inl rfl
      · rename_i failed
        rw [not_not.mp failed]
        exact Or.inr rfl

/-- Each call of a hook returns and keeps the invariant. -/
theorem fixedStep_sound {base : Address} {capacity : SizeT}
    (region : base.toNat + capacity.toNat ≤ 2 ^ 64) (half : capacity.toNat ≤ 2 ^ 63)
    (call : FixedCall) (run : FixedRun) (valid : call.Valid) (sound : run.Sound base capacity) :
    ∃ next, fixedStep call run = some next ∧ next.Sound base capacity := by
  cases call with
  | dalloc addr size => exact ⟨run, rfl, sound⟩
  | alloc size alignment =>
      rcases fixedExtentAlloc_cases sound.inside region half valid with
        ⟨-, refused⟩ | ⟨placed, priv, granted, address, inside, moved⟩
      · refine ⟨run, ?_, sound⟩
        simp only [fixedStep, refused, Option.map_some, ne_eq, not_true_eq_false, if_false]
      · have rises := Nat.le_add_right base.toNat run.priv.current.toNat
        have above : base.toNat + run.priv.current.toNat ≤ placed.toNat := by omega
        have divides : alignment.toNat ∣ placed.toNat := by
          rw [address]
          exact dvd_add_padding _ valid.alignment_pos
        simp only [fixedStep, granted, Option.map_some]
        by_cases null : (if placed ≠ mapFailed then placed else 0) = 0
        · refine ⟨_, rfl, inside, ?_, ?_⟩
          · have rose : base.toNat + run.priv.current.toNat ≤
                base.toNat + priv.current.toNat := by omega
            rw [if_neg (not_not.mpr null)]
            exact sound.stacked.skip rose
          · rw [if_neg (not_not.mpr null)]
            exact sound.aligned
        · have returned : (if placed ≠ mapFailed then placed else 0) = placed := by
            split at null
            · rw [if_pos (by assumption)]
            · exact absurd rfl null
          refine ⟨_, rfl, inside, ?_, ?_⟩
          · rw [if_pos null, returned, List.map_cons]
            apply sound.stacked.push rises above
            exact le_of_eq moved.symm
          · rw [if_pos null, returned]
            exact List.forall_mem_cons.mpr ⟨divides, sound.aligned⟩

/-- Every run of hook calls on a fixed kind returns disjoint aligned extents of its region, and a
refused request changes nothing and does not fit, unless it is placed at an address that the
code uses as a sentinel. -/
theorem fixedRun_regionSafe (base : Address) (capacity : SizeT) (outcome : CreateOutcome)
    (registry next : Registry) (kind : Option KindPtr) (priv : FixedPriv)
    (created : memkindCreateFixed base capacity outcome registry =
      some (.success, kind, some priv, next))
    (region : base.toNat + capacity.toNat ≤ 2 ^ 64) (half : capacity.toNat ≤ 2 ^ 63)
    (calls : List FixedCall) (valid : ∀ call ∈ calls, call.Valid) :
    ∃ final, runSteps fixedStep ⟨priv, []⟩ calls = some final ∧
      final.RegionSafe base capacity := by
  have fields : priv = ⟨base, capacity, 0⟩ := by
    obtain ⟨⟨err, pointer, after⟩, -, fields⟩ := Option.map_eq_some_iff.mp created
    simp only at fields
    split at fields
    · cases fields
    · cases fields
      rfl
  have start : FixedRun.Sound base capacity ⟨priv, []⟩ := by
    subst fields
    refine ⟨⟨rfl, ?_, Nat.zero_le _⟩, Stacked.empty _ _, by simp⟩
    simp
  obtain ⟨final, ran, sound⟩ := runSteps_total fixedStep (fixedStep_sound region half) start valid
  exact ⟨final, ran, sound.regionSafe region half⟩

/-- Three extents are taken and one is offered back. -/
def pageCalls : List FixedCall :=
  [.alloc 16 16, .alloc 100 64, .dalloc 0x10000 16, .alloc 8 8]

theorem fixedRun_regionSafe_page :
    ∃ kind priv next final,
      memkindCreateFixed 0x10000 4096 (grantedAt 0x100) Registry.initial =
        some (.success, kind, some priv, next) ∧
      runSteps fixedStep ⟨priv, []⟩ pageCalls = some final ∧ final.RegionSafe 0x10000 4096 := by
  have computed : ((memkindCreateFixed 0x10000 4096 (grantedAt 0x100) Registry.initial).map
      fun result => (result.1, result.2.2.1)) = some (.success, some ⟨0x10000, 4096, 0⟩) := by
    decide +kernel
  obtain ⟨⟨err, kind, priv, next⟩, created, fields⟩ := Option.map_eq_some_iff.mp computed
  obtain ⟨rfl, rfl⟩ := Prod.mk.inj fields
  have valid : ∀ call ∈ pageCalls, call.Valid := by
    simp only [pageCalls, List.forall_mem_cons, FixedCall.Valid]
    exact ⟨⟨by decide, ⟨4, by decide⟩, by decide⟩, ⟨by decide, ⟨6, by decide⟩, by decide⟩, trivial,
      ⟨by decide, ⟨3, by decide⟩, by decide⟩, by simp⟩
  obtain ⟨final, ran, safe⟩ := fixedRun_regionSafe 0x10000 4096 _ _ next kind _ created
    (by decide) (by decide) pageCalls valid
  exact ⟨kind, _, next, final, created, ran, safe⟩

/-- In a region that starts at `NULL`, the first request fits and moves the bump pointer, but
its result is `NULL`. -/
theorem fixedExtentAlloc_grants_null :
    ((memkindCreateFixed 0 4096 (grantedAt 0x100) Registry.initial).map fun result =>
        (result.1, result.2.2.1)) = some (.success, some ⟨0, 4096, 0⟩) ∧
      FixedRequest 16 16 ∧ RequestFits 0 4096 0 16 16 ∧
      fixedExtentAlloc 0 16 16 ⟨0, 4096, 0⟩ = some (0, ⟨16, 4096, 16⟩) := by
  refine ⟨by decide +kernel, ⟨by decide, ⟨4, by decide⟩, by decide⟩, ?_, by decide⟩
  unfold RequestFits
  decide

end Memkind
