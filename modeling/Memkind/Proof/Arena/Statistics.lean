/-
This file compares the statistics of all kinds with the bytes of all arenas.
-/

import Memkind.Construction.Statistics
import Memkind.Proof.Arena.Ownership
import Mathlib.Algebra.BigOperators.Intervals

namespace Memkind

open Library

variable {report : ArenaReport} {index : Nat}

/-- The number that the controls of a statistic add up to for an arena. -/
def ArenaReport.total (report : ArenaReport) (stat : StatType) (index : Nat) : SizeT :=
  if report.initialized index then
    (stat.arenaStats.map fun control => report.stat control index).sum
  else 0

theorem addArenaStats_eq (known : index < report.narenas)
    (initialized : report.initialized index = true) (controls : List StatControl) (value : SizeT) :
    addArenaStats report index controls value =
      (.success, value + (controls.map fun control => report.stat control index).sum) := by
  induction controls generalizing value with
  | nil => simp [addArenaStats]
  | cons control rest ih =>
      have read : report.mallctlStat control index = some (report.stat control index) :=
        if_pos ⟨known, initialized⟩
      rw [addArenaStats, read]
      simp only
      rw [ih, List.map_cons, List.sum_cons, add_assoc]

/-- The loop adds up its arenas when jemalloc knows them and, without the check, has initialized
them. -/
theorem arenaStatLoop_eq {stat : StatType} {checkInit : Bool} {arenaZero remaining i : Nat}
    (value : SizeT) (word : report.narenas ≤ 2 ^ 32)
    (known : ∀ index, arenaZero + i ≤ index → index < arenaZero + i + remaining →
      index < report.narenas ∧ (checkInit = false → report.initialized index = true)) :
    arenaStatLoop report stat checkInit arenaZero remaining i value =
      (.success, value +
        ∑ index ∈ Finset.Ico (arenaZero + i) (arenaZero + i + remaining), report.total stat index) := by
  induction remaining generalizing i value with
  | zero => simp [arenaStatLoop]
  | succ remaining ih =>
      obtain ⟨first, checked⟩ := known (arenaZero + i) (le_refl _) (by omega)
      have small : (arenaZero + i) % 2 ^ 32 = arenaZero + i := Nat.mod_eq_of_lt (by omega)
      have later := fun value => @ih (i + 1) value fun index low high => known index (by omega) (by omega)
      rw [← Nat.add_assoc] at later
      have shifted : arenaZero + i + (remaining + 1) = arenaZero + i + 1 + remaining := by omega
      rw [Finset.sum_eq_sum_Ico_succ_bot (by omega : arenaZero + i < arenaZero + i + (remaining + 1)),
        ← add_assoc, shifted]
      unfold arenaStatLoop
      simp only [small]
      cases initialized : report.initialized (arenaZero + i) with
      | true =>
          have state : (if checkInit then report.mallctlInitialized (arenaZero + i) else some true) =
              some true := by
            simp [ArenaReport.mallctlInitialized, first, initialized]
          have added : report.total stat (arenaZero + i) =
              (stat.arenaStats.map fun control => report.stat control (arenaZero + i)).sum :=
            if_pos initialized
          rw [state]
          simp only [addArenaStats_eq first initialized]
          rw [later, added]
      | false =>
          have checks : checkInit = true := by
            by_contra unchecked
            rw [checked (by simpa using unchecked)] at initialized
            cases initialized
          have state : (if checkInit then report.mallctlInitialized (arenaZero + i) else some true) =
              some false := by
            simp [ArenaReport.mallctlInitialized, first, initialized, checks]
          have nothing : report.total stat (arenaZero + i) = 0 := by
            simp [ArenaReport.total, initialized]
          rw [state]
          simp only
          rw [later, nothing, add_zero]

/-- The arenas that `memkind_arena_get_stat` visits for a kind. -/
def countedArenas (kinds : KindPtr → ArenaKind) (pointer : KindPtr) : Finset Nat :=
  if pointer = memkindDefault then
    Finset.Ico defaultArenaZero (defaultArenaZero + defaultArenaMapLen)
  else Finset.Ico (kinds pointer).arenaZero ((kinds pointer).arenaZero + (kinds pointer).arenaMapLen)

/-- The ownership of arenas: jemalloc has its own arenas, and every live kind besides
`MEMKIND_DEFAULT` has initialized arenas of its own after them. -/
structure OwnershipRule (report : ArenaReport) (kinds : KindPtr → ArenaKind)
    (live : Finset KindPtr) : Prop where
  notDefault : memkindDefault ∉ live
  automatic : autoArenas + 1 ≤ report.narenas
  bounded : report.narenas ≤ mallocxArenaLimit
  above : ∀ pointer ∈ live, ∀ index ∈ countedArenas kinds pointer, autoArenas + 1 ≤ index
  initialized : ∀ pointer ∈ live, ∀ index ∈ countedArenas kinds pointer,
    index < report.narenas ∧ report.initialized index = true
  apart : ∀ pointer ∈ live, ∀ other ∈ live, pointer ≠ other →
    Disjoint (countedArenas kinds pointer) (countedArenas kinds other)

/-- The arenas that serve allocations: those of jemalloc and those of the live kinds. -/
def servingArenas (kinds : KindPtr → ArenaKind) (live : Finset KindPtr) : Finset Nat :=
  Finset.range (autoArenas + 1) ∪ live.biUnion (countedArenas kinds)

/-- The arena has small or large allocated bytes. -/
def ArenaReport.Holds (report : ArenaReport) (index : Nat) : Prop :=
  report.initialized index = true ∧
    (report.stat .smallAllocated index ≠ 0 ∨ report.stat .largeAllocated index ≠ 0)

theorem ArenaReport.total_of_not_holds (empty : ¬ report.Holds index) :
    report.total .allocated index = 0 := by
  unfold total
  split
  · rename_i initialized
    have none : report.stat .smallAllocated index = 0 ∧ report.stat .largeAllocated index = 0 := by
      by_contra some
      exact empty ⟨initialized, not_and_or.mp some⟩
    simp [StatType.arenaStats, none]
  · rfl

section Rule

variable {report : ArenaReport} {kinds : KindPtr → ArenaKind} {live : Finset KindPtr}

theorem mem_countedArenas_default (kinds : KindPtr → ArenaKind) (index : Nat) :
    index ∈ countedArenas kinds memkindDefault ↔ index < 255 := by
  simp [countedArenas, defaultArenaZero, defaultArenaMapLen, autoArenas]

/-- Every kind reports the bytes of the arenas that it visits. -/
theorem OwnershipRule.memkindGetStat_eq (rule : OwnershipRule report kinds live)
    {pointer : KindPtr} (member : pointer ∈ insert memkindDefault live) :
    memkindGetStat report kinds (some pointer) .allocated =
      (.success, ∑ index ∈ countedArenas kinds pointer, report.total .allocated index) := by
  have word : report.narenas ≤ 2 ^ 32 := rule.bounded.trans (by decide)
  by_cases default : pointer = memkindDefault
  · have known : ∀ index, defaultArenaZero + 0 ≤ index →
        index < defaultArenaZero + 0 + defaultArenaMapLen → index < report.narenas ∧
          (true = false → report.initialized index = true) := by
      intro index _ high
      have room := rule.automatic
      unfold defaultArenaZero defaultArenaMapLen at high
      exact ⟨by omega, nofun⟩
    simp only [memkindGetStat, default, if_true, memkindDefaultGetKindStat,
      memkindArenaGetStatWithCheckInit, memkindArenaGetStat, countedArenas]
    rw [arenaStatLoop_eq 0 word known, zero_add, add_zero]
  · have inLive : pointer ∈ live := (Finset.mem_insert.mp member).resolve_left default
    have counted : countedArenas kinds pointer = Finset.Ico (kinds pointer).arenaZero
        ((kinds pointer).arenaZero + (kinds pointer).arenaMapLen) := if_neg default
    have known : ∀ index, (kinds pointer).arenaZero + 0 ≤ index →
        index < (kinds pointer).arenaZero + 0 + (kinds pointer).arenaMapLen →
        index < report.narenas ∧ (false = false → report.initialized index = true) := by
      intro index low high
      have own := rule.initialized pointer inLive index
        (by rw [counted, Finset.mem_Ico]; exact ⟨low, high⟩)
      exact ⟨own.1, fun _ => own.2⟩
    simp only [memkindGetStat, default, if_false, memkindArenaGetKindStat,
      memkindArenaGetStatWithCheckInit, memkindArenaGetStat]
    rw [arenaStatLoop_eq 0 word known, zero_add, add_zero, counted]

/-- No two kinds visit one arena. -/
theorem OwnershipRule.counted_once (rule : OwnershipRule report kinds live) :
    ((insert memkindDefault live : Finset KindPtr) : Set KindPtr).PairwiseDisjoint
      (countedArenas kinds) := by
  have fromDefault : ∀ other ∈ live,
      Disjoint (countedArenas kinds memkindDefault) (countedArenas kinds other) := by
    intro other member
    apply Finset.disjoint_left.mpr
    intro index atDefault atOther
    have low := (mem_countedArenas_default kinds index).mp atDefault
    have high := rule.above other member index atOther
    unfold autoArenas at high
    omega
  intro pointer first other second different
  rw [Finset.mem_coe, Finset.mem_insert] at first second
  obtain rfl | first := first
  · obtain rfl | second := second
    · exact absurd rfl different
    · exact fromDefault other second
  · obtain rfl | second := second
    · exact (fromDefault pointer first).symm
    · exact rule.apart pointer first other second different

/-- The kinds together visit every serving arena but two. -/
theorem countedArenas_all (kinds : KindPtr → ArenaKind) (live : Finset KindPtr) :
    servingArenas kinds live =
      (insert memkindDefault live).biUnion (countedArenas kinds) ∪ {255, 256} := by
  ext index
  simp only [servingArenas, Finset.biUnion_insert, Finset.mem_union, Finset.mem_range,
    mem_countedArenas_default, Finset.mem_insert, Finset.mem_singleton]
  unfold autoArenas
  constructor
  · rintro (low | own)
    · omega
    · exact .inl (.inr own)
  · rintro ((low | own) | (rfl | rfl))
    · exact .inl (by omega)
    · exact .inr own
    · exact .inl (by decide)
    · exact .inl (by decide)

/-- Every arena that holds bytes is visited for exactly one kind, and the statistics of the kinds
add up to the bytes of the arenas. -/
def StatsPartition (report : ArenaReport) (kinds : KindPtr → ArenaKind) (live : Finset KindPtr) :
    Prop :=
  (∀ index ∈ servingArenas kinds live, report.Holds index →
    ∃! pointer, pointer ∈ insert memkindDefault live ∧ index ∈ countedArenas kinds pointer) ∧
  (∀ pointer ∈ insert memkindDefault live,
    (memkindGetStat report kinds (some pointer) .allocated).1 = .success) ∧
  ∑ pointer ∈ insert memkindDefault live,
      (memkindGetStat report kinds (some pointer) .allocated).2 =
    ∑ index ∈ servingArenas kinds live, report.total .allocated index

/-- No kind visits the last automatic arena or the oversize arena. -/
theorem OwnershipRule.not_counted (rule : OwnershipRule report kinds live)
    (last : index = 255 ∨ index = 256) :
    index ∉ (insert memkindDefault live).biUnion (countedArenas kinds) := by
  intro counted
  obtain ⟨pointer, member, visited⟩ := Finset.mem_biUnion.mp counted
  obtain rfl | member := Finset.mem_insert.mp member
  · have low := (mem_countedArenas_default kinds index).mp visited
    omega
  · have high := rule.above pointer member index visited
    unfold autoArenas at high
    omega

/-- An arena that is visited is visited for one kind. -/
theorem OwnershipRule.counted_unique (rule : OwnershipRule report kinds live)
    (counted : index ∈ (insert memkindDefault live).biUnion (countedArenas kinds)) :
    ∃! pointer, pointer ∈ insert memkindDefault live ∧ index ∈ countedArenas kinds pointer := by
  obtain ⟨pointer, member, visited⟩ := Finset.mem_biUnion.mp counted
  refine ⟨pointer, ⟨member, visited⟩, ?_⟩
  intro other ⟨otherMember, otherVisited⟩
  by_contra different
  have apart := rule.counted_once (Finset.mem_coe.mpr otherMember) (Finset.mem_coe.mpr member)
    different
  exact Finset.disjoint_left.mp apart otherVisited visited

/-- The statistics of the kinds leave out the last automatic arena and the oversize arena. -/
theorem OwnershipRule.sum_stats (rule : OwnershipRule report kinds live) :
    ∑ pointer ∈ insert memkindDefault live,
        (memkindGetStat report kinds (some pointer) .allocated).2 +
      ∑ index ∈ ({255, 256} : Finset Nat), report.total .allocated index =
    ∑ index ∈ servingArenas kinds live, report.total .allocated index := by
  have unvisited : Disjoint ((insert memkindDefault live).biUnion (countedArenas kinds))
      {255, 256} := by
    apply Finset.disjoint_right.mpr
    intro index last
    exact rule.not_counted (by simpa using last)
  rw [countedArenas_all, Finset.sum_union unvisited, Finset.sum_biUnion rule.counted_once]
  congr 1
  apply Finset.sum_congr rfl
  intro pointer member
  rw [rule.memkindGetStat_eq member]

/-- The statistics of the kinds partition the heap exactly when the last automatic arena and the
oversize arena hold no bytes. -/
theorem statsPartition_iff (rule : OwnershipRule report kinds live) :
    StatsPartition report kinds live ↔ ¬ report.Holds 255 ∧ ¬ report.Holds 256 := by
  constructor
  · intro partition
    have uncounted : ∀ index, index = 255 ∨ index = 256 → ¬ report.Holds index := by
      intro index last holds
      have serving : index ∈ servingArenas kinds live := by
        rw [countedArenas_all]
        apply Finset.mem_union_right
        simpa using last
      obtain ⟨pointer, ⟨member, visited⟩, -⟩ := partition.1 index serving holds
      exact rule.not_counted last (Finset.mem_biUnion.mpr ⟨pointer, member, visited⟩)
    exact ⟨uncounted 255 (.inl rfl), uncounted 256 (.inr rfl)⟩
  · intro empty
    have lastEmpty : ∀ index ∈ ({255, 256} : Finset Nat), ¬ report.Holds index := by
      simpa using empty
    have rest : ∑ index ∈ ({255, 256} : Finset Nat), report.total .allocated index = 0 :=
      Finset.sum_eq_zero fun index last => report.total_of_not_holds (lastEmpty index last)
    refine ⟨?_, ?_, ?_⟩
    · intro index serving holds
      rw [countedArenas_all] at serving
      obtain counted | last := Finset.mem_union.mp serving
      · exact rule.counted_unique counted
      · exact absurd holds (lastEmpty index last)
    · intro pointer member
      rw [rule.memkindGetStat_eq member]
    · rw [← rule.sum_stats, rest, add_zero]

end Rule

/-- The live kinds of a run of creations and destructions meet the ownership rule, when the report
describes the arenas of the run. -/
theorem ArenaRun.Sound.ownershipRule {len : Nat} {run : ArenaRun} {free : List Nat}
    (sound : run.Sound len (autoArenas + 1) free) {live : Finset KindPtr}
    (alive : ∀ pointer ∈ live, run.Live pointer) (notDefault : memkindDefault ∉ live)
    (narenas : report.narenas = run.arena.jemalloc.pool.fresh)
    (bounded : report.narenas ≤ mallocxArenaLimit)
    (initialized : ∀ index, autoArenas + 1 ≤ index →
      report.initialized index = run.arena.jemalloc.initialized index) :
    OwnershipRule report run.arena.kinds live := by
  have visited_iff : ∀ pointer ∈ live, ∀ index,
      index ∈ countedArenas run.arena.kinds pointer ↔ run.InRange len pointer index := by
    intro pointer member index
    have other : pointer ≠ memkindDefault := fun same => notDefault (same ▸ member)
    obtain ⟨-, -, mapLen, -⟩ := sound.sized pointer (alive pointer member)
    rw [countedArenas, if_neg other, Finset.mem_Ico, mapLen]
    rfl
  have within : ∀ pointer ∈ live, ∀ index, run.InRange len pointer index →
      autoArenas + 1 ≤ index ∧ index < run.arena.jemalloc.pool.fresh := by
    intro pointer member index inside
    have block := sound.blocks.heldWithin pointer _ (bases_eq_some (alive pointer member))
    unfold InRange at inside
    omega
  refine ⟨notDefault, ?_, bounded, ?_, ?_, ?_⟩
  · rw [narenas]
    exact sound.low
  · intro pointer member index visited
    exact (within pointer member index ((visited_iff pointer member index).mp visited)).1
  · intro pointer member index visited
    have inside := (visited_iff pointer member index).mp visited
    obtain ⟨low, high⟩ := within pointer member index inside
    rw [narenas, initialized index low]
    exact ⟨high, sound.initialized pointer index (alive pointer member) inside⟩
  · intro pointer member other otherMember different
    apply Finset.disjoint_left.mpr
    intro index visited otherVisited
    exact sound.disjoint (alive pointer member) (alive other otherMember) different
      ((visited_iff pointer member index).mp visited)
      ((visited_iff other otherMember index).mp otherVisited)

/-- The heap kind at 0x100 has two arenas after those of jemalloc. -/
def twoArenaKind : KindPtr → ArenaKind := fun _ => ⟨.thread, autoArenas + 1, 2, 1⟩

/-- All arenas are initialized, and the listed ones hold a block of 16 MiB each. -/
def largeBlocks (narenas : Nat) (holding : List Nat) : ArenaReport where
  narenas
  initialized _ := true
  stat control index := if control = .largeAllocated ∧ index ∈ holding then 16777216 else 0
  global _ := none

theorem largeBlocks_holds (narenas : Nat) (holding : List Nat) (index : Nat) :
    (largeBlocks narenas holding).Holds index ↔ index ∈ holding := by
  simp [ArenaReport.Holds, largeBlocks]

theorem twoArenaKind_rule (holding : List Nat) :
    OwnershipRule (largeBlocks 259 holding) twoArenaKind {.heap 0x100} := by
  have counted : countedArenas twoArenaKind (.heap 0x100) = Finset.Ico 257 259 := rfl
  constructor
  · decide
  · exact Nat.le_add_right 257 2
  · exact (by decide : 259 ≤ mallocxArenaLimit)
  · intro pointer member index visited
    obtain rfl := Finset.mem_singleton.mp member
    rw [counted, Finset.mem_Ico] at visited
    exact visited.1
  · intro pointer member index visited
    obtain rfl := Finset.mem_singleton.mp member
    rw [counted, Finset.mem_Ico] at visited
    exact ⟨visited.2, rfl⟩
  · intro pointer member other otherMember different
    rw [Finset.mem_singleton.mp member, Finset.mem_singleton.mp otherMember] at different
    exact absurd rfl different

/-- Blocks in the first automatic arena and in an arena of a kind are in the statistics. -/
theorem statsPartition_two_blocks :
    StatsPartition (largeBlocks 259 [0, 257]) twoArenaKind {.heap 0x100} := by
  apply (statsPartition_iff (twoArenaKind_rule [0, 257])).mpr
  rw [largeBlocks_holds, largeBlocks_holds]
  decide

/-- A block in the oversize arena is in the statistics of no kind. -/
theorem oversizeArena_not_counted :
    OwnershipRule (largeBlocks 259 [256]) twoArenaKind {.heap 0x100} ∧
      memkindGetStat (largeBlocks 259 [256]) twoArenaKind (some memkindDefault) .allocated =
        (.success, 0) ∧
      memkindGetStat (largeBlocks 259 [256]) twoArenaKind (some (.heap 0x100)) .allocated =
        (.success, 0) ∧
      (largeBlocks 259 [256]).total .allocated 256 = 16777216 ∧
      ¬ StatsPartition (largeBlocks 259 [256]) twoArenaKind {.heap 0x100} := by
  refine ⟨twoArenaKind_rule [256], by decide +kernel, by decide +kernel, by decide +kernel, ?_⟩
  intro partition
  have holds : (largeBlocks 259 [256]).Holds 256 := (largeBlocks_holds 259 [256] 256).mpr (by simp)
  have serving : 256 ∈ servingArenas twoArenaKind {.heap 0x100} :=
    Finset.mem_union_left _ (Finset.mem_range.mpr (by decide))
  obtain ⟨pointer, ⟨member, visited⟩, -⟩ := partition.1 256 serving holds
  exact (twoArenaKind_rule [256]).not_counted (.inr rfl)
    (Finset.mem_biUnion.mpr ⟨pointer, member, visited⟩)

end Memkind
