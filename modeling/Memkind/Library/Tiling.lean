/-
This file describes lists of items that tile a set: their spans are disjoint and cover it.
-/

import Mathlib.Data.Set.BooleanAlgebra
import Mathlib.Data.Set.Lattice
import Mathlib.Order.CompletePartialOrder

namespace Memkind.Library

variable {Item Point : Type*} {span : Item → Set Point} {items pieces old others : List Item}
  {whole : Set Point} {item : Item} {point : Point}

/-- The points in the spans of some items. -/
def coverage (span : Item → Set Point) (items : List Item) : Set Point :=
  {point | ∃ item ∈ items, point ∈ span item}

/-- The spans are disjoint and cover a set. -/
structure Tiling (span : Item → Set Point) (items : List Item) (whole : Set Point) : Prop where
  apart : items.Pairwise fun first second => Disjoint (span first) (span second)
  covers : coverage span items = whole

@[simp] theorem coverage_nil : coverage span [] = ∅ := by
  ext point
  simp [coverage]

@[simp] theorem coverage_cons : coverage span (item :: items) = span item ∪ coverage span items := by
  ext point
  simp [coverage]

theorem coverage_singleton : coverage span [item] = span item := by simp

@[simp] theorem coverage_append :
    coverage span (old ++ others) = coverage span old ∪ coverage span others := by
  ext point
  simp [coverage, or_and_right, exists_or]

theorem span_subset_coverage (member : item ∈ items) : span item ⊆ coverage span items :=
  fun _ inside => ⟨item, member, inside⟩

theorem disjoint_coverage_iff {points : Set Point} :
    Disjoint points (coverage span items) ↔ ∀ item ∈ items, Disjoint points (span item) := by
  constructor
  · intro apart item member
    exact apart.mono_right (span_subset_coverage member)
  · intro apart
    refine Set.disjoint_left.mpr fun point inside covered => ?_
    obtain ⟨item, member, spanned⟩ := covered
    exact Set.disjoint_left.mp (apart item member) inside spanned

theorem Tiling.nil : Tiling span [] ∅ := ⟨List.Pairwise.nil, coverage_nil⟩

theorem Tiling.single : Tiling span [item] (span item) :=
  ⟨List.pairwise_singleton _ _, coverage_singleton⟩

/-- Tiles of disjoint sets tile their union. -/
theorem Tiling.append {other : Set Point} (first : Tiling span pieces whole)
    (second : Tiling span others other) (apart : Disjoint whole other) :
    Tiling span (pieces ++ others) (whole ∪ other) := by
  refine ⟨List.pairwise_append.mpr ⟨first.apart, second.apart, ?_⟩, ?_⟩
  · intro piece inPieces item inOthers
    rw [← first.covers, ← second.covers] at apart
    exact (apart.mono_left (span_subset_coverage inPieces)).mono_right
      (span_subset_coverage inOthers)
  · rw [coverage_append, first.covers, second.covers]

/-- The two parts of a tiling. -/
theorem Tiling.of_append (tiling : Tiling span (old ++ others) whole) :
    Tiling span old (coverage span old) ∧ Tiling span others (whole \ coverage span old) ∧
      Disjoint (coverage span old) (coverage span others) := by
  obtain ⟨oldApart, othersApart, crossed⟩ := List.pairwise_append.mp tiling.apart
  have apart : Disjoint (coverage span old) (coverage span others) := by
    refine disjoint_coverage_iff.mpr fun item inOthers => ?_
    refine (disjoint_coverage_iff.mpr fun piece inOld => ?_).symm
    exact (crossed piece inOld item inOthers).symm
  refine ⟨⟨oldApart, rfl⟩, ⟨othersApart, ?_⟩, apart⟩
  rw [← tiling.covers, coverage_append, Set.union_sdiff_left, sdiff_eq_left.mpr apart.symm]

/-- The order of the tiles does not matter. -/
theorem Tiling.perm (tiling : Tiling span items whole) (same : items.Perm pieces) :
    Tiling span pieces whole := by
  refine ⟨(same.pairwise_iff fun apart => apart.symm).mp tiling.apart, ?_⟩
  rw [← tiling.covers]
  ext point
  exact exists_congr fun item => and_congr_left fun _ => same.mem_iff.symm

/-- Some tiles are replaced by tiles of the same set. -/
theorem Tiling.replace (tiling : Tiling span items whole) (parts : items.Perm (old ++ others))
    (pieces_tile : Tiling span pieces (coverage span old)) :
    Tiling span (pieces ++ others) whole := by
  have parted := tiling.perm parts
  obtain ⟨-, rest, apart⟩ := parted.of_append
  have joined := pieces_tile.append rest Set.disjoint_sdiff_right
  have inside : coverage span old ⊆ whole := by
    rw [← parted.covers, coverage_append]
    exact Set.subset_union_left
  rwa [Set.union_sdiff_cancel inside] at joined

/-- Some tiles are removed. -/
theorem Tiling.remove (tiling : Tiling span items whole) (parts : items.Perm (old ++ others)) :
    Tiling span others (whole \ coverage span old) :=
  (tiling.perm parts).of_append.2.1

end Memkind.Library
