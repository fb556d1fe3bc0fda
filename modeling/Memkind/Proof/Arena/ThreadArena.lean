/-
This file shows that the number of arenas of a kind is rounded up to a power of two, and that both
builds choose the same arena of the kind for a thread.
-/

import Memkind.Proof.Arena.Steps
import Mathlib.Order.Bounds.Defs

namespace Memkind

theorem integerLog2_eq {v : Nat} (positive : 0 < v) (bounded : v ≤ intMax) :
    integerLog2 v = Nat.log2 v ∧ Nat.log2 v ≤ 30 := by
  have small : Nat.log2 v < 31 :=
    (Nat.log2_lt (by omega)).mpr (by unfold intMax at bounded; omega)
  unfold integerLog2 builtinClz
  omega

/-- A shift that stays below the sign bit or reaches it is a power of two as an unsigned word. -/
theorem shift_mod {exponent : Nat} (bounded : exponent ≤ 31) :
    2 ^ exponent % 2 ^ 32 = 2 ^ exponent := by
  apply Nat.mod_eq_of_lt
  exact Nat.pow_lt_pow_right (by decide) (by omega)

/-- The rounded number is the least power of two that is not below the number. -/
theorem roundPow2Up_least {v : Nat} (positive : 0 < v) (bounded : v ≤ intMax) :
    IsLeast {len | len.isPowerOfTwo ∧ v ≤ len} (roundPow2Up v) := by
  obtain ⟨log, small⟩ := integerLog2_eq positive bounded
  have lower : 2 ^ Nat.log2 v ≤ v := Nat.log2_self_le (by omega)
  have upper : v < 2 ^ (Nat.log2 v + 1) := Nat.lt_log2_self
  rw [roundPow2Up, log, shift_mod (by omega), shift_mod (by omega)]
  by_cases power : v = 2 ^ Nat.log2 v
  · rw [if_neg (not_not_intro power)]
    exact ⟨⟨⟨_, power⟩, Nat.le_refl v⟩, fun len member => member.2⟩
  · rw [if_pos power]
    refine ⟨⟨⟨_, rfl⟩, Nat.le_of_lt upper⟩, ?_⟩
    intro len ⟨⟨exponent, equal⟩, above⟩
    have exponents : Nat.log2 v < exponent := by
      apply (Nat.pow_lt_pow_iff_right (by decide : 1 < 2)).mp
      omega
    rw [equal]
    exact Nat.pow_le_pow_right (by decide) exponents

/-- The number of arenas that the environment or the number of processors asks for. -/
def ArenaSettings.requested (settings : ArenaSettings) : Nat :=
  settings.arenaNumEnv.getD settings.calculated

theorem memkindSetArenaMapLen_requested {settings : ArenaSettings} {kind : ArenaKind}
    (thread : kind.getArena = .thread) (positive : 0 < settings.requested)
    (bounded : settings.requested ≤ intMax) :
    memkindSetArenaMapLen settings kind =
      (.success, kind.withMapLen (roundPow2Up settings.requested)) := by
  rw [memkindSetArenaMapLen, thread]
  unfold ArenaSettings.requested at positive bounded ⊢
  cases env : settings.arenaNumEnv with
  | none => rfl
  | some value =>
      rw [env, Option.getD_some] at positive bounded
      exact if_neg (by omega)

/-- Both builds choose the same arena of a kind whose number of arenas is a power of two. -/
theorem threadArena_eq_threadArenaTls {kind : ArenaKind} (power : kind.arenaMapLen.isPowerOfTwo)
    (mask : kind.arenaMapMask = kind.arenaMapLen - 1) (hash : BitVec 64) :
    threadArena kind hash = threadArenaTls kind hash := by
  obtain ⟨exponent, equal⟩ := power
  rw [threadArena, threadArenaTls, mask, equal, Nat.and_two_pow_sub_one_eq_mod]

/-- The chosen arena is one of the kind. -/
theorem threadArenaTls_range {kind : ArenaKind} (positive : 0 < kind.arenaMapLen)
    (fits : kind.arenaZero + kind.arenaMapLen ≤ 2 ^ 32) (hash : BitVec 64) :
    kind.arenaZero ≤ threadArenaTls kind hash ∧
      threadArenaTls kind hash < kind.arenaZero + kind.arenaMapLen := by
  have below := Nat.mod_lt hash.toNat positive
  rw [threadArenaTls, Nat.mod_eq_of_lt (by omega), Nat.mod_eq_of_lt (by omega)]
  omega

/-- The number of arenas is the least power of two that is not below the requested number, its mask
is one less, and the builds with and without `MEMKIND_TLS` choose the same arena for a thread, which
is one of the kind wherever its arenas begin. -/
theorem memkindSetArenaMapLen_threadArena (settings : ArenaSettings) (kind : ArenaKind)
    (thread : kind.getArena = .thread) (positive : 0 < settings.requested)
    (bounded : settings.requested ≤ intMax) :
    ∃ next, memkindSetArenaMapLen settings kind = (.success, next) ∧
      IsLeast {len | len.isPowerOfTwo ∧ settings.requested ≤ len} next.arenaMapLen ∧
      next.arenaMapMask = next.arenaMapLen - 1 ∧
      ∀ (arenaZero : Nat) (hash : BitVec 64),
        threadArena { next with arenaZero } hash = threadArenaTls { next with arenaZero } hash ∧
        (arenaZero + next.arenaMapLen ≤ 2 ^ 32 →
          arenaZero ≤ threadArena { next with arenaZero } hash ∧
          threadArena { next with arenaZero } hash < arenaZero + next.arenaMapLen) := by
  have called := memkindSetArenaMapLen_requested thread positive bounded
  have least := roundPow2Up_least positive bounded
  obtain ⟨nonzero, -, mask, -⟩ := memkindSetArenaMapLen_success called
  refine ⟨_, called, least, mask, ?_⟩
  intro arenaZero hash
  have same := @threadArena_eq_threadArenaTls
    { kind.withMapLen (roundPow2Up settings.requested) with arenaZero } least.1.1 mask hash
  refine ⟨same, fun fits => ?_⟩
  rw [same]
  exact @threadArenaTls_range { kind.withMapLen (roundPow2Up settings.requested) with arenaZero }
    nonzero fits hash

/-- The largest number that the environment can ask for reaches the sign bit of `int`. -/
theorem memkindSetArenaMapLen_threadArena_intMax :
    ∃ next, memkindSetArenaMapLen ⟨some intMax, 1, by decide, by decide, 0⟩ ⟨.thread, 0, 0, 0⟩ =
        (.success, next) ∧
      IsLeast {len | len.isPowerOfTwo ∧ intMax ≤ len} next.arenaMapLen ∧
      next.arenaMapMask = next.arenaMapLen - 1 :=
  have ⟨next, called, least, mask, _⟩ := memkindSetArenaMapLen_threadArena
    ⟨some intMax, 1, by decide, by decide, 0⟩ ⟨.thread, 0, 0, 0⟩ rfl (by decide) (by decide)
  ⟨next, called, least, mask⟩

end Memkind
