/-
This file decides when an aligned allocation returns `EINVAL` exactly for a bad alignment.
-/

import Memkind.Construction.KindCalls
import Memkind.Library.PowerMasks

namespace Memkind

open Library

/-- A power of two that is at least the size of a pointer. -/
def ValidAlignment (alignment : SizeT) : Prop :=
  alignment.toNat.isPowerOfTwo ∧ 8 ≤ alignment.toNat

/-- The status of a call that has a meaning. -/
def memalignStatus (result : Option Aligned) : Option Status := result.map Aligned.status

theorem memkindPosixCheckAlignment_eq (alignment : SizeT) [Decidable (ValidAlignment alignment)] :
    memkindPosixCheckAlignment alignment =
      if ValidAlignment alignment then .success else einval := by
  have bits := word_and_pred_eq_zero_iff alignment
  rw [BitVec.and_comm] at bits
  have small : alignment < 8 ↔ ¬8 ≤ alignment.toNat := by
    rw [BitVec.lt_def, Nat.not_le]
    rfl
  rw [memkindPosixCheckAlignment]
  by_cases valid : ValidAlignment alignment
  · rw [if_pos valid, if_neg]
    intro rejected
    obtain below | shared := rejected
    · exact small.mp below valid.2
    · exact shared (bits.mpr (Or.inr valid.1))
  · rw [if_neg valid, if_pos]
    by_contra accepted
    obtain ⟨large, disjoint⟩ := not_or.mp accepted
    rw [small, not_not] at large
    obtain zero | power := bits.mp (not_not.mp disjoint)
    · rw [zero] at large
      exact absurd large (by decide)
    · exact valid ⟨power, large⟩

theorem enomem_ne_einval : enomem ≠ einval := by decide

/-- A block that was granted is not an error. -/
theorem memalignStatus_granted (library : LibMemtier) (tag : BlockTag) (granted : Grant) :
    memalignStatus ((library.grant tag granted).map fun returned =>
      ⟨.success, granted.ptr, returned.2⟩) ≠ some einval := by
  rw [memalignStatus, Option.map_map]
  intro equal
  obtain ⟨_, _, status⟩ := Option.map_eq_some_iff.mp equal
  cases status

section BackEnds

variable {kind : KindPtr} {memptr : Address} {alignment size : SizeT} {counted : Bool}
  {outcome : MemalignOutcome} {poolAlignedMalloc : Option Grant} {library : LibMemtier}

/-- The arena back-end tests the alignment as soon as it has an arena. -/
theorem arenaPosixMemalign_einval_iff (arenaError : outcome.getArena ≠ einval) :
    memalignStatus (memkindArenaPosixMemalign kind alignment size counted outcome library) =
        some einval ↔ outcome.getArena = .success ∧ ¬ValidAlignment alignment := by
  classical
  rw [memkindArenaPosixMemalign, memkindPosixCheckAlignment_eq]
  by_cases found : outcome.getArena = .success
  · rw [if_neg (not_not_intro found)]
    by_cases valid : ValidAlignment alignment
    · rw [if_pos valid, if_neg (not_not_intro rfl)]
      refine iff_of_false ?_ (fun bad => bad.2 valid)
      split
      · exact fun equal => Status.noConfusion (Option.some.inj equal)
      · split
        · exact fun equal => enomem_ne_einval (Option.some.inj equal)
        · exact memalignStatus_granted _ _ _
    · rw [if_neg valid, if_pos (by decide)]
      exact iff_of_true rfl ⟨found, valid⟩
  · rw [if_pos found]
    exact iff_of_false (fun equal => arenaError (Option.some.inj equal)) (fun bad => found bad.1)

/-- The default kind returns before jemalloc sees the alignment of an empty request. -/
theorem defaultPosixMemalign_einval_iff
    (checked : outcome.posixMemalign = .error 22 ↔ ¬ValidAlignment alignment) :
    memalignStatus (memkindDefaultPosixMemalign memptr size counted outcome library) =
        some einval ↔
      (library.allowZeroAllocs memkindDefault = true ∨ size ≠ 0) ∧ ¬ValidAlignment alignment := by
  have shortcut : (!library.allowZeroAllocs memkindDefault && decide (size = 0)) = true ↔
      ¬(library.allowZeroAllocs memkindDefault = true ∨ size ≠ 0) := by
    simp
  rw [memkindDefaultPosixMemalign, ← checked]
  by_cases served : library.allowZeroAllocs memkindDefault = true ∨ size ≠ 0
  · rw [if_neg fun skipped => shortcut.mp skipped served, and_iff_right served]
    cases answer : outcome.posixMemalign with
    | error code =>
        constructor
        · intro equal
          rw [Status.errno.inj (Option.some.inj equal)]
        · intro equal
          rw [Except.error.inj equal]
          rfl
    | ok granted =>
        refine iff_of_false (memalignStatus_granted _ _ _) ?_
        intro equal
        cases equal
  · rw [if_pos (shortcut.mpr served)]
    exact iff_of_false (fun equal => Status.noConfusion (Option.some.inj equal))
      (fun bad => served bad.1)

/-- The TBB back-end accepts zero and the powers of two. Its first test asks for a zero alignment
with a nonzero bit. -/
theorem tbbPosixMemalign_einval_iff :
    memalignStatus (tbbPoolPosixMemalign kind memptr alignment size counted poolAlignedMalloc
        library) = some einval ↔ ¬(alignment = 0 ∨ alignment.toNat.isPowerOfTwo) := by
  have first : ¬(alignment = 0 ∧ alignment &&& (alignment - 8) ≠ 0) := by
    intro ⟨zero, shared⟩
    rw [zero] at shared
    exact shared BitVec.zero_and
  unfold tbbPoolPosixMemalign
  rw [if_neg first, ← word_and_pred_eq_zero_iff]
  by_cases disjoint : alignment &&& (alignment - 1) = 0
  · rw [if_neg (not_not_intro disjoint)]
    refine iff_of_false ?_ (not_not_intro disjoint)
    split
    · exact fun equal => Status.noConfusion (Option.some.inj equal)
    · split
      · exact fun equal => enomem_ne_einval (Option.some.inj equal)
      · exact memalignStatus_granted _ _ _
  · rw [if_pos disjoint]
    exact iff_of_true rfl disjoint

end BackEnds

/-- The alignments that only the TBB back-end accepts. -/
def tbbOnlyAlignments : List SizeT := [0, 1, 2, 4]

theorem mem_tbbOnlyAlignments (alignment : SizeT) :
    alignment ∈ tbbOnlyAlignments ↔
      (alignment = 0 ∨ alignment.toNat.isPowerOfTwo) ∧ ¬ValidAlignment alignment := by
  constructor
  · intro member
    simp only [tbbOnlyAlignments, List.mem_cons, List.not_mem_nil, or_false] at member
    obtain rfl | rfl | rfl | rfl := member
    · exact ⟨Or.inl rfl, fun valid => absurd valid.2 (by decide)⟩
    · exact ⟨Or.inr ⟨0, rfl⟩, fun valid => absurd valid.2 (by decide)⟩
    · exact ⟨Or.inr ⟨1, rfl⟩, fun valid => absurd valid.2 (by decide)⟩
    · exact ⟨Or.inr ⟨2, rfl⟩, fun valid => absurd valid.2 (by decide)⟩
  · intro ⟨accepted, invalid⟩
    obtain rfl | power := accepted
    · exact List.mem_cons_self
    · have small : alignment.toNat < 8 := by
        by_contra large
        exact invalid ⟨power, Nat.le_of_not_lt large⟩
      obtain ⟨exponent, equal⟩ := power
      have below : exponent < 3 := by
        apply (Nat.pow_lt_pow_iff_right (by decide : 1 < 2)).mp
        omega
      have word : alignment = BitVec.ofNat 64 (2 ^ exponent) := by
        rw [← equal, BitVec.ofNat_toNat, BitVec.setWidth_eq]
      have listed : ∀ exponent < 3, BitVec.ofNat 64 (2 ^ exponent) ∈ tbbOnlyAlignments := by
        decide
      rw [word]
      exact listed exponent below

/-- The condition under which `EINVAL` stands for a bad alignment: the arena back-end has an arena,
an empty request to the default kind is not answered before jemalloc sees it, and the alignment is
not one that only the TBB back-end accepts. -/
def AlignmentDecides (backEnd : BackEnd) (alignment size : SizeT) (outcome : MemalignOutcome)
    (library : LibMemtier) : Prop :=
  match backEnd with
  | .arena => outcome.getArena = .success ∨ ValidAlignment alignment
  | .default =>
      (library.allowZeroAllocs memkindDefault = true ∨ size ≠ 0) ∨ ValidAlignment alignment
  | .tbb => alignment ∉ tbbOnlyAlignments

/-- A back-end that also needs `served` to reject rejects exactly the bad alignments when it is
served or has nothing to reject. -/
theorem rejects_iff_of_served {rejects served valid : Prop} (rejected : rejects ↔ served ∧ ¬valid) :
    (rejects ↔ ¬valid) ↔ served ∨ valid := by
  rw [rejected]
  tauto

/-- An aligned allocation returns `EINVAL` exactly for a bad alignment under this condition, where
jemalloc does so and no arena fails with `EINVAL`. -/
theorem posixMemalign_einval_iff (backEnd : BackEnd) (kind : KindPtr) (memptr : Address)
    (alignment size : SizeT) (counted : Bool) (outcome : MemalignOutcome)
    (poolAlignedMalloc : Option Grant) (library : LibMemtier)
    (checked : outcome.posixMemalign = .error 22 ↔ ¬ValidAlignment alignment)
    (arenaError : outcome.getArena ≠ einval) :
    (memalignStatus (backEnd.posixMemalign kind memptr alignment size counted outcome
        poolAlignedMalloc library) = some einval ↔ ¬ValidAlignment alignment) ↔
      AlignmentDecides backEnd alignment size outcome library := by
  cases backEnd with
  | arena => exact rejects_iff_of_served (arenaPosixMemalign_einval_iff arenaError)
  | default => exact rejects_iff_of_served (defaultPosixMemalign_einval_iff checked)
  | tbb =>
      refine (iff_congr tbbPosixMemalign_einval_iff Iff.rfl).trans ?_
      rw [AlignmentDecides, mem_tbbOnlyAlignments]
      have accepted : ValidAlignment alignment →
          alignment = 0 ∨ alignment.toNat.isPowerOfTwo := fun valid => Or.inr valid.1
      tauto

/-- An alignment that every back-end rejects. -/
theorem posixMemalign_einval_iff_three :
    ¬ValidAlignment 3 ∧ AlignmentDecides .tbb 3 8 ⟨.success, .error 22, none⟩ .initial ∧
      (memalignStatus (BackEnd.posixMemalign .tbb memkindDefault 0 3 8 false
        ⟨.success, .error 22, none⟩ none .initial) = some einval ↔ ¬ValidAlignment 3) := by
  have bad : ¬ValidAlignment 3 := fun valid => absurd valid.2 (by decide)
  have decides : AlignmentDecides .tbb 3 8 ⟨.success, .error 22, none⟩ .initial :=
    show (3 : SizeT) ∉ tbbOnlyAlignments by decide
  exact ⟨bad, decides, (posixMemalign_einval_iff .tbb memkindDefault 0 3 8 false
    ⟨.success, .error 22, none⟩ none .initial (iff_of_true rfl bad) (by decide)).mpr decides⟩

/-- The TBB back-end serves a request with the alignment 4, and the default kind answers an empty
request with the alignment 3. -/
theorem posixMemalign_accepts_bad_alignment :
    (¬ValidAlignment 4 ∧
      memalignStatus (BackEnd.posixMemalign .tbb memkindDefault 0 4 8 false
        ⟨.success, .error 22, none⟩ (some ⟨0x1000, 8⟩) .initial) = some .success) ∧
    ¬ValidAlignment 3 ∧
      memalignStatus (BackEnd.posixMemalign .default memkindDefault 0 3 0 false
        ⟨.success, .error 22, none⟩ none .initial) = some .success := by
  refine ⟨⟨fun valid => absurd valid.2 (by decide), by decide⟩,
    fun valid => absurd valid.2 (by decide), by decide⟩

end Memkind
