/-
This file proves that every live kind owns a contiguous range of arenas.
-/

import Memkind.Library.Run
import Memkind.Proof.Arena.Blocks

namespace Memkind

open Library

variable {settings : ArenaSettings} {metadataUseHooks : Bool} {outcome : Nat → ArenaOutcome}
  {pointer : KindPtr} {len first : Nat} {run : ArenaRun} {created : List Nat}
  {before after : ArenaState}

/-- The calls that change the arenas of a kind. -/
inductive ArenaCall where
  | create (settings : ArenaSettings) (metadataUseHooks : Bool) (outcome : Nat → ArenaOutcome)
      (pointer : KindPtr)
  | destroy (pointer : KindPtr)

/-- A call that succeeds: a kind that is not live gets `len` arenas, or a live kind loses its
arenas. -/
def arenaStep (len : Nat) (call : ArenaCall) (run : ArenaRun) : Option ArenaRun :=
  match call with
  | .create settings metadataUseHooks outcome pointer =>
      if (run.created pointer).isSome then none
      else
        match memkindArenaCreateMap settings .success metadataUseHooks outcome pointer
            run.arena with
        | some (.success, created, arena) =>
            if (arena.kinds pointer).arenaMapLen = len then
              some ⟨arena, Function.update run.created pointer (some created)⟩
            else none
        | _ => none
  | .destroy pointer =>
      if (run.created pointer).isSome then
        (memkindArenaDestroy pointer run.arena).map fun arena =>
          ⟨arena, Function.update run.created pointer none⟩
      else none

/-- jemalloc has arenas of its own, and no kind has an arena. -/
def ArenaRun.initial (narenas : Nat) (kinds : KindPtr → ArenaKind) : ArenaRun where
  arena := ⟨⟨⟨narenas, []⟩, fun _ => false⟩, fun _ => none, kinds⟩
  created _ := none

/-- A successful creation sets the length first and then runs the loop. -/
theorem memkindArenaCreateMap_success {initStatus : Status} {state next : ArenaState}
    (called : memkindArenaCreateMap settings initStatus metadataUseHooks outcome pointer state =
      some (.success, created, next)) :
    ∃ kind, memkindSetArenaMapLen settings (state.kinds pointer) = (.success, kind) ∧
      ArenasCreated pointer kind.arenaMapLen
        { state with kinds := Function.update state.kinds pointer { kind with arenaZero := uintMax } }
        next created := by
  unfold memkindArenaCreateMap at called
  split at called
  · rename_i failed
    obtain ⟨rfl, -, -⟩ := called
    exact absurd rfl failed
  · split at called
    · rename_i kind sized
      exact ⟨kind, sized, createArenas_success called⟩
    · rename_i err kind failed sized
      obtain ⟨rfl, -, -⟩ := called
      exact absurd rfl failed

/-- The creation of the arenas of a kind leaves the other kinds alone. -/
theorem memkindArenaCreateMap_other {kind other : KindPtr}
    (called : memkindArenaCreateMap settings .success metadataUseHooks outcome kind before =
      some (.success, created, after)) (different : other ≠ kind) :
    after.kinds other = before.kinds other := by
  obtain ⟨sized, -, effect⟩ := memkindArenaCreateMap_success called
  rw [effect.kinds, Function.update_of_ne different]
  exact Function.update_of_ne different _ _

/-- The destruction of arenas changes no kind. -/
theorem destroyArenas_kinds {arenaZero remaining i : Nat}
    (called : destroyArenas arenaZero remaining i before = some after) :
    after.kinds = before.kinds := by
  induction remaining generalizing i before with
  | zero =>
      obtain rfl := Option.some.inj called
      rfl
  | succ remaining ih =>
      rw [destroyArenas] at called
      split at called
      · cases called
      · rw [ih called]

theorem memkindArenaDestroy_kinds {kind : KindPtr}
    (called : memkindArenaDestroy kind before = some after) : after.kinds = before.kinds := by
  unfold memkindArenaDestroy at called
  split at called
  · exact destroyArenas_kinds called
  · obtain rfl := Option.some.inj called
    rfl

/-- A creation gives a new kind one whole block. -/
theorem ArenaRun.Sound.create_kept {free : List Nat} (sound : run.Sound len first free)
    {arena : ArenaState} (idle : run.created pointer = none)
    (called : memkindArenaCreateMap settings .success metadataUseHooks outcome pointer run.arena =
      some (.success, created, arena)) (equal : (arena.kinds pointer).arenaMapLen = len) :
    ∃ rest, ArenaRun.Sound len first
      ⟨arena, Function.update run.created pointer (some created)⟩ rest := by
  obtain ⟨kind, sized, effect⟩ := memkindArenaCreateMap_success called
  obtain ⟨positive, bounded, mask, -⟩ := memkindSetArenaMapLen_success sized
  have newKind : arena.kinds pointer =
      { kind with arenaZero := created.foldl min uintMax } := by
    rw [effect.kinds, Function.update_self]
    simp only [Function.update_self]
  have otherKind : ∀ other, other ≠ pointer → arena.kinds other = run.arena.kinds other := by
    intro other different
    rw [effect.kinds, Function.update_of_ne different]
    exact Function.update_of_ne different _ _
  obtain rfl : kind.arenaMapLen = len := by rw [← equal, newKind]
  obtain ⟨base, rest, block, grown, blocks⟩ := sound.blocks.takeBlock sound.low pointer
  have taken : run.arena.jemalloc.pool.takeMany kind.arenaMapLen =
      (created, arena.jemalloc.pool) := effect.taken
  rw [taken] at block grown blocks
  have within : base + kind.arenaMapLen ≤ mallocxArenaMax := by
    have last := effect.within (base + kind.arenaMapLen - 1) ((block _).mpr (by omega))
    omega
  have zero : (arena.kinds pointer).arenaZero = base := by
    rw [newKind]
    apply foldl_min_block positive block
    unfold mallocxArenaMax at within
    unfold uintMax
    omega
  have gained : ArenaRun.Gained kind.arenaMapLen run
      ⟨arena, Function.update run.created pointer (some created)⟩ pointer base created :=
    { positive, bounded, idle, block, zero, within
      createdNew := Function.update_self _ _ _
      createdOther := fun other different => Function.update_of_ne different _ _
      kindOther := otherKind
      mapLen := equal
      mask := by
        rw [newKind]
        exact mask
      initialized := effect.initialized
      registry := effect.registry }
  exact ⟨rest, sound.gained_kept gained (le_trans sound.low grown) blocks⟩

/-- A destruction returns the whole block of its kind. -/
theorem ArenaRun.Sound.destroy_kept {free : List Nat} (sound : run.Sound len first free)
    {arena : ArenaState} (live : run.Live pointer)
    (called : memkindArenaDestroy pointer run.arena = some arena) :
    ∃ rest, ArenaRun.Sound len first ⟨arena, Function.update run.created pointer none⟩ rest := by
  obtain ⟨positive, -, mapLen, -⟩ := sound.sized pointer live
  obtain ⟨next, looped, effect⟩ := @destroyArenas_range (run.arena.kinds pointer).arenaZero len 0
    run.arena (sound.within pointer live)
    (fun index low high => sound.initialized pointer index live ⟨low, high⟩)
  have same : arena = next := by
    rw [memkindArenaDestroy, mapLen, if_pos (by omega), looped] at called
    exact (Option.some.inj called).symm
  subst same
  have returned := sound.blocks.giveBlock (bases_eq_some live)
  have pool : arena.jemalloc.pool = run.arena.jemalloc.pool.giveMany
      (List.range' (run.arena.kinds pointer).arenaZero len) := effect.pool
  rw [← pool] at returned
  have lost : ArenaRun.Lost len run ⟨arena, Function.update run.created pointer none⟩ pointer :=
    { live
      createdNone := Function.update_self _ _ _
      createdOther := fun other different => Function.update_of_ne different _ _
      kinds := effect.kinds
      initialized := by
        intro index outside
        apply effect.initialized
        unfold InRange at outside
        omega
      inside := fun index own => (effect.registry index).trans (if_pos own)
      outside := fun index away => (effect.registry index).trans (if_neg away) }
  refine ⟨_, sound.lost_kept lost ?_ returned⟩
  simp only [pool, IndexPool.giveMany_eq]
  exact sound.low

/-- Each call keeps the invariant. -/
theorem arenaStep_sound {call : ArenaCall} {next : ArenaRun}
    (sound : ∃ free, run.Sound len first free) (stepped : arenaStep len call run = some next) :
    ∃ free, next.Sound len first free := by
  obtain ⟨free, sound⟩ := sound
  cases call with
  | create settings metadataUseHooks outcome pointer =>
      simp only [arenaStep] at stepped
      split at stepped
      · cases stepped
      · rename_i idle
        split at stepped
        · rename_i created arena called
          split at stepped
          · rename_i equal
            obtain rfl := Option.some.inj stepped
            exact sound.create_kept (by simpa using idle) called equal
          · cases stepped
        · cases stepped
  | destroy pointer =>
      simp only [arenaStep] at stepped
      split at stepped
      · rename_i live
        obtain ⟨arena, called, rfl⟩ := Option.map_eq_some_iff.mp stepped
        exact sound.destroy_kept live called
      · cases stepped

theorem ArenaRun.initial_sound (len narenas : Nat) (kinds : KindPtr → ArenaKind) :
    (ArenaRun.initial narenas kinds).Sound len narenas [] := by
  have dead : ∀ pointer, ¬(ArenaRun.initial narenas kinds).Live pointer := by
    intro pointer live
    cases live
  constructor
  · constructor
    · rfl
    · exact List.Pairwise.nil
    · intro owner other base otherBase different held
      cases held
    · intro owner base held
      cases held
    · intro free member
      cases member
    · intro owner base held
      cases held
  · exact le_refl narenas
  · intro pointer created found
    cases found
  · intro pointer live
    exact absurd live (dead pointer)
  · intro pointer live
    exact absurd live (dead pointer)
  · intro pointer index live
    exact absurd live (dead pointer)
  · intro pointer index live
    exact absurd live (dead pointer)
  · intro index outside
    rfl

/-- In every run of successful creations with one length and destructions, the live kinds own
disjoint contiguous ranges of arenas, and every arena leads back to its kind. -/
theorem arenaRun_ownership (len narenas : Nat) (kinds : KindPtr → ArenaKind)
    (calls : List ArenaCall) (final : ArenaRun)
    (ran : runSteps (arenaStep len) (ArenaRun.initial narenas kinds) calls = some final) :
    final.Ownership len := by
  have sound : ∃ free, final.Sound len narenas free :=
    runSteps_invariant (arenaStep len) (fun run => ∃ free, run.Sound len narenas free)
      (fun _ _ _ sound stepped => arenaStep_sound sound stepped)
      ⟨[], ArenaRun.initial_sound len narenas kinds⟩ ran
  obtain ⟨free, sound⟩ := sound
  exact sound.ownership

/-- Every kind gets two arenas. -/
def twoArenas : ArenaSettings := ⟨some 2, 4, by decide, by decide, 256⟩

/-- Three kinds are created, two are destroyed in another order, and one of them returns. -/
def recycledArenas : List ArenaCall :=
  let granted : Nat → ArenaOutcome := fun _ => ⟨true, none⟩
  [.create twoArenas true granted (.heap 0x100), .create twoArenas true granted (.heap 0x200),
    .create twoArenas false granted (.heap 0x300), .destroy (.heap 0x100), .destroy (.heap 0x200),
    .create twoArenas true granted (.heap 0x100)]

theorem arenaRun_ownership_recycled :
    ∃ final, runSteps (arenaStep 2)
        (ArenaRun.initial 257 fun _ => ⟨.thread, 0, 0, 0⟩) recycledArenas = some final ∧
      final.created (.heap 0x100) = some [260, 259] ∧ final.Ownership 2 := by
  have computed : ((runSteps (arenaStep 2) (ArenaRun.initial 257 fun _ => ⟨.thread, 0, 0, 0⟩)
      recycledArenas).map fun final => final.created (.heap 0x100)) = some (some [260, 259]) := by
    decide +kernel
  obtain ⟨final, ran, arenas⟩ := Option.map_eq_some_iff.mp computed
  exact ⟨final, ran, arenas, arenaRun_ownership 2 257 _ recycledArenas final ran⟩

end Memkind
