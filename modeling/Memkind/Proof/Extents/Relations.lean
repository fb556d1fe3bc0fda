/-
This file shows which relations between the states of a kind the runs of an arena of jemalloc keep.
-/

import Memkind.Proof.Extents.Arena

namespace Memkind

open Library

section Relations

variable {σ ω : Type} (memory : ByteMemory σ) (hooks : ExtentHooks σ ω) (page : Nat)
  (request : (newAddr size alignment : Nat) → ω → σ → Prop) (returns released : ω → Prop)

/-- A relation between the states before and after every call of a hook and every store. -/
structure HookRelation (relation : σ → σ → Prop) : Prop where
  refl : ∀ state, relation state state
  trans : ∀ {state next last}, relation state next → relation next last → relation state last
  alloc : ∀ {newAddr size alignment zero commit outcome state granted next}, page ∣ size →
    request newAddr size alignment outcome state →
    hooks.alloc newAddr size alignment zero commit outcome state = some (granted, next) →
    relation state next
  dalloc : ∀ {addr size outcome state failed next}, returns outcome →
    hooks.dalloc addr size outcome state = some (failed, next) → relation state next
  purge : ∀ {addr size outcome state},
    relation state (hooks.purgeLazy addr size 0 size outcome state).2
  destroy : ∀ {addr size outcome state}, released outcome →
    relation state (hooks.runDestroy addr size outcome state)
  write : ∀ {address byte state}, relation state (memory.write state address byte)

variable {memory hooks page request returns released} {relation : σ → σ → Prop}
  (related : HookRelation memory hooks page request returns released relation)
  {arena after : ExtentArena σ} {state : σ}

include related

theorem HookRelation.clear (start size : Nat) : relation state (memory.clear start size state) := by
  induction size with
  | zero => exact related.refl state
  | succ size ih =>
      rw [ByteMemory.clear, List.range_succ, List.foldl_append]
      exact related.trans ih related.write

theorem HookRelation.commitZero (cache : ExtentState) (extent : Edata) (rest others : List Edata)
    (alignment : Nat) (zero : Bool) :
    relation state
      (extentCommitZero memory hooks cache extent rest others alignment zero state).state := by
  unfold extentCommitZero
  split
  · exact related.refl state
  · dsimp only
    split
    · exact related.clear _ _
    · exact related.refl state

theorem HookRelation.dallocWrapper {extent : Edata} {outcome purge : ω}
    (isReturned : returns outcome)
    (called : extentDallocWrapper hooks extent outcome purge arena = some after) :
    relation arena.state after.state := by
  unfold extentDallocWrapper at called
  split at called
  · obtain ⟨⟨failed, next⟩, dalloced, rfl⟩ := Option.map_eq_some_iff.mp called
    have first := related.dalloc isReturned dalloced
    dsimp only
    split
    · exact first
    · split
      · exact first
      · split
        · exact first
        · dsimp only
          split
          · exact first
          · exact related.trans first related.purge
  · cases called

/-- Every call of an arena keeps such a relation. -/
theorem extentStep_related {call : ExtentCall ω} (valid : call.Valid page request returns released arena)
    (stepped : extentStep memory hooks page call arena = some after) :
    relation arena.state after.state := by
  have same := related.refl arena.state
  cases call with
  | growRetained allocSize size alignment zero outcome =>
      obtain ⟨allocPages, -, -, -, asked⟩ := valid
      obtain ⟨⟨granted, next⟩, allocated, rest⟩ := Option.bind_eq_some_iff.mp stepped
      have first := related.alloc allocPages asked allocated
      cases granted with
      | none =>
          obtain rfl := Option.some.inj rest
          exact first
      | some grant =>
          dsimp only at rest
          split at rest
          · cases rest
          · obtain rfl := Option.some.inj rest
            exact first
          · obtain rfl := Option.some.inj rest
            exact related.trans first (related.commitZero _ _ _ _ _ _)
  | allocWrapper newAddr size alignment zero outcome =>
      obtain ⟨⟨granted, next⟩, allocated, rfl⟩ := Option.map_eq_some_iff.mp stepped
      have first := related.alloc valid.1 valid.2 allocated
      cases granted with
      | none => exact first
      | some grant => exact first
  | recycle cached size alignment zero =>
      change extentRecycle memory hooks cached size alignment zero arena = some after at stepped
      unfold extentRecycle at stepped
      split at stepped
      · dsimp only at stepped
        split at stepped
        · cases stepped
        · obtain rfl := Option.some.inj stepped
          exact same
        · obtain rfl := Option.some.inj stepped
          exact related.commitZero _ _ _ _ _ _
      · cases stepped
  | coalesce first second =>
      change extentCoalesce hooks first second arena = some after at stepped
      unfold extentCoalesce at stepped
      split at stepped
      · split at stepped
        · obtain rfl := Option.some.inj stepped
          exact same
        · obtain rfl := Option.some.inj stepped
          exact same
      · cases stepped
  | cacheDalloc extent =>
      change ecacheDalloc extent arena = some after at stepped
      unfold ecacheDalloc at stepped
      split at stepped
      · obtain rfl := Option.some.inj stepped
        exact same
      · cases stepped
  | shrink extent size =>
      change pacShrink hooks extent size arena = some after at stepped
      unfold pacShrink at stepped
      split at stepped
      · dsimp only at stepped
        split at stepped
        · obtain rfl := Option.some.inj stepped
          exact same
        · obtain rfl := Option.some.inj stepped
          exact same
      · cases stepped
  | expand extent trail outcome purge =>
      change pacExpand hooks extent trail outcome purge arena = some after at stepped
      unfold pacExpand at stepped
      split at stepped
      · split at stepped
        · exact related.dallocWrapper valid stepped
        · obtain rfl := Option.some.inj stepped
          exact same
      · cases stepped
  | purge extent outcome =>
      change pacPurge hooks extent outcome arena = some after at stepped
      unfold pacPurge at stepped
      split at stepped
      · dsimp only at stepped
        split at stepped
        · obtain rfl := Option.some.inj stepped
          exact related.purge
        · obtain rfl := Option.some.inj stepped
          exact related.purge
      · cases stepped
  | dallocWrapper extent outcome purge => exact related.dallocWrapper valid stepped
  | destroy extent outcome =>
      change extentDestroyWrapper hooks extent outcome arena = some after at stepped
      unfold extentDestroyWrapper at stepped
      split at stepped
      · obtain rfl := Option.some.inj stepped
        exact related.destroy valid
      · cases stepped
  | store addr byte =>
      change userStore memory addr byte arena = some after at stepped
      unfold userStore at stepped
      split at stepped
      · obtain rfl := Option.some.inj stepped
        exact related.write
      · cases stepped

/-- A relation between the states before and after a run. -/
theorem extentRun_related {start final : ExtentArena σ} {calls : List (ExtentCall ω)}
    (valid : Guarded (extentStep memory hooks page) (ExtentCall.Valid page request returns released) start
      calls)
    (ran : runSteps (extentStep memory hooks page) start calls = some final) :
    relation start.state final.state := by
  have always : Always (extentStep memory hooks page)
      (fun arena => relation start.state arena.state) start calls :=
    always_of_guarded _ (fun _ _ _ before valid stepped =>
      related.trans before (extentStep_related related valid stepped)) (related.refl _) valid
  exact always.final _ ran

end Relations

end Memkind
