/-
This file compares the flushes of the byte counters with the threshold that their tests name.
-/

import Memkind.Proof.Accounting.GlobalCounter

namespace Memkind

open Library

namespace BlockCall

variable {Thread : Type*} (hash : Thread → Bucket) (call : BlockCall Thread) (counters : Counters)

/-- The call moves its bucket into the global counter. -/
def Writes : Prop := call.flushes (call.value hash counters)

/-- The amount crosses the threshold of the call. -/
def Crosses : Prop :=
  match call with
  | incrementAllocSize _ _ _ => flushThreshold.toNat < call.amount hash counters
  | decrementAllocSize _ _ => call.amount hash counters < -flushThreshold.toNat

instance : Decidable (call.Crosses hash counters) :=
  match call with
  | incrementAllocSize _ _ _ => Int.decLt _ _
  | decrementAllocSize _ _ => Int.decLt _ _

/-- An increment leaves no negative amount, and a decrement leaves one. -/
def SignMatches : Prop :=
  match call with
  | incrementAllocSize _ _ _ => 0 ≤ call.amount hash counters
  | decrementAllocSize _ _ => call.amount hash counters < 0

instance : Decidable (call.SignMatches hash counters) :=
  match call with
  | incrementAllocSize _ _ _ => Int.decLe _ _
  | decrementAllocSize _ _ => Int.decLt _ _

theorem remainder_of_not_writes (stays : ¬call.Writes hash counters) :
    call.remainder hash counters = call.value hash counters :=
  if_neg stays

variable {hash call counters}

section Within

variable (within : WithinThreshold (counters.tAllocSize call.kindId (call.bucket hash)))
  (small : call.size.toNat < 2 ^ 62)

include within small

omit within in
theorem size_fits : call.size.toNat + flushThreshold.toNat < 2 ^ 64 := by
  rw [show flushThreshold.toNat = 51200 from rfl]
  omega

theorem amount_bounds :
    -(2 ^ 63 : ℤ) < call.amount hash counters ∧ call.amount hash counters < 2 ^ 63 := by
  have threshold : flushThreshold.toNat = 51200 := rfl
  obtain ⟨low, high⟩ := within
  rw [threshold] at low high
  unfold amount
  cases call with
  | incrementAllocSize thread kindId size =>
      change _ < _ + (size.toNat : ℤ) ∧ _ + (size.toNat : ℤ) < _
      change size.toNat < 2 ^ 62 at small
      omega
  | decrementAllocSize thread block =>
      change _ < _ + -(block.size.toNat : ℤ) ∧ _ + -(block.size.toNat : ℤ) < _
      change block.size.toNat < 2 ^ 62 at small
      omega

/-- The unsigned tests are the ones on the signed amount exactly when the amount has the sign that
they expect. -/
theorem writes_iff :
    (call.Writes hash counters ↔ call.Crosses hash counters) ↔ call.SignMatches hash counters := by
  have value := value_toNat within (size_fits small)
  have bounds := amount_bounds within small
  cases call with
  | incrementAllocSize thread kindId size =>
      have test : Writes hash (incrementAllocSize thread kindId size) counters ↔ 51200 <
          (BlockCall.value hash (incrementAllocSize thread kindId size) counters).toNat :=
        decide_eq_true_iff
      change (_ ↔ (51200 : ℤ) < _) ↔ 0 ≤ _
      rw [test]
      split at value
      · omega
      · omega
  | decrementAllocSize thread block =>
      have test : Writes hash (decrementAllocSize thread block) counters ↔
          (BlockCall.value hash (decrementAllocSize thread block) counters).toNat <
            2 ^ 64 - 51200 :=
        decide_eq_true_iff
      change (_ ↔ _ < (-51200 : ℤ)) ↔ _ < (0 : ℤ)
      rw [test]
      split at value
      · omega
      · omega

/-- As a signed number, the value that the call leaves before any flush is the amount. -/
theorem value_toInt :
    (call.value hash counters).toInt = call.amount hash counters := by
  have value := value_toNat within (size_fits small)
  have bounds := amount_bounds within small
  have sign := BitVec.toInt_eq_toNat_cond (call.value hash counters)
  by_cases positive : 2 * (call.value hash counters).toNat < 2 ^ 64
  · rw [if_pos positive] at sign
    split at value
    · omega
    · omega
  · rw [if_neg positive] at sign
    split at value
    · omega
    · omega

end Within

end BlockCall

section Runs

variable {Thread : Type*} (hash : Thread → Bucket)

/-- A complete call as a step on the counters. -/
def countStep (call : BlockCall Thread) (counters : Counters) : Option Counters :=
  some (call.count hash counters)

/-- The net pending amounts stay within the threshold, when they start with the given ones. -/
def PendingWithin : (Nat → Bucket → ℤ) → List (BlockCall Thread) → Prop
  | _, [] => True
  | pending, call :: rest =>
      let amount := pending call.kindId (call.bucket hash) + call.change
      amount.natAbs ≤ flushThreshold.toNat ∧
        PendingWithin (Function.update pending call.kindId
          (Function.update (pending call.kindId) (call.bucket hash) amount)) rest

/-- The amounts in the buckets. -/
def Counters.signed (counters : Counters) (kind : Nat) (bucket : Bucket) : ℤ :=
  (counters.tAllocSize kind bucket).toInt

/-- The calls flush when the threshold is crossed, and a run that does not cross it never writes the
global counters. -/
structure FlushesWhenCrossed (counters : Counters) (calls : List (BlockCall Thread)) : Prop where
  crossed : Guarded (countStep hash)
    (fun call counters => call.Writes hash counters ↔ call.Crosses hash counters) counters calls
  never : PendingWithin hash counters.signed calls →
    Guarded (countStep hash) (fun call counters => ¬call.Writes hash counters) counters calls

variable {hash}

/-- Every bucket is within the threshold between complete calls. -/
def Counters.Within (counters : Counters) : Prop :=
  ∀ kind bucket, WithinThreshold (counters.tAllocSize kind bucket)

theorem countStep_within (call : BlockCall Thread) (counters next : Counters)
    (within : counters.Within) (stepped : countStep hash call counters = some next) :
    next.Within := by
  obtain rfl := Option.some.inj stepped
  intro kind bucket
  exact call.count_within hash counters kind bucket (within kind bucket)

theorem BlockCall.not_crosses {call : BlockCall Thread} {counters : Counters}
    (inside : (call.amount hash counters).natAbs ≤ flushThreshold.toNat) :
    ¬call.Crosses hash counters := by
  unfold Crosses
  split
  · omega
  · omega

/-- A call that does not flush adds its bytes to the pending amount of its bucket. -/
theorem BlockCall.count_signed {call : BlockCall Thread} {counters : Counters}
    (within : counters.Within) (small : call.size.toNat < 2 ^ 62)
    (stays : ¬call.Writes hash counters) :
    (call.count hash counters).signed =
      Function.update counters.signed call.kindId
        (Function.update (counters.signed call.kindId) (call.bucket hash)
          (call.amount hash counters)) := by
  funext kind bucket
  unfold Counters.signed
  by_cases here : call.kindId = kind ∧ call.bucket hash = bucket
  · obtain ⟨rfl, rfl⟩ := here
    rw [call.count_bucket hash counters, call.remainder_of_not_writes hash counters stays,
      call.value_toInt (within _ _) small, Function.update_self, Function.update_self]
  · rw [call.count_bucket_of_ne hash counters here]
    by_cases sameKind : kind = call.kindId
    · have otherBucket : bucket ≠ call.bucket hash :=
        fun sameBucket => here ⟨sameKind.symm, sameBucket.symm⟩
      rw [sameKind, Function.update_self, Function.update_of_ne otherBucket]
    · rw [Function.update_of_ne sameKind]

/-- While the pending amounts are within the threshold, no call with the right sign flushes. -/
theorem never_writes {counters : Counters} {calls : List (BlockCall Thread)}
    (within : counters.Within) (small : ∀ call ∈ calls, call.size.toNat < 2 ^ 62)
    (crossed : Guarded (countStep hash)
      (fun call counters => call.Writes hash counters ↔ call.Crosses hash counters) counters calls)
    (pending : PendingWithin hash counters.signed calls) :
    Guarded (countStep hash) (fun call counters => ¬call.Writes hash counters) counters calls := by
  induction calls generalizing counters with
  | nil => trivial
  | cons call rest ih =>
      obtain ⟨callSmall, restSmall⟩ := List.forall_mem_cons.mp small
      obtain ⟨inside, later⟩ := pending
      obtain ⟨flushes, tail⟩ := crossed _ rfl
      have stays : ¬call.Writes hash counters := by
        rw [flushes]
        exact BlockCall.not_crosses inside
      apply Guarded.cons (countStep hash) rfl stays
      apply ih (countStep_within call counters _ within rfl) restSmall tail
      rw [BlockCall.count_signed within callSmall stays]
      exact later

end Runs

/-- The calls flush exactly when the threshold is crossed if and only if no increment leaves a
negative amount and every decrement leaves one. -/
theorem flushesWhenCrossed_iff {Thread : Type*} (hash : Thread → Bucket) (counters : Counters)
    (within : counters.Within) (calls : List (BlockCall Thread))
    (small : ∀ call ∈ calls, call.size.toNat < 2 ^ 62) :
    FlushesWhenCrossed hash counters calls ↔
      Guarded (countStep hash) (fun call counters => call.SignMatches hash counters)
        counters calls := by
  have same : Guarded (countStep hash)
      (fun call counters => call.Writes hash counters ↔ call.Crosses hash counters)
        counters calls ↔
      Guarded (countStep hash) (fun call counters => call.SignMatches hash counters)
        counters calls :=
    guarded_congr (countStep hash) countStep_within
      (fun call state callSmall stateWithin => call.writes_iff (stateWithin _ _) callSmall)
      within small
  rw [← same]
  exact ⟨fun flushes => flushes.crossed,
    fun crossed => ⟨crossed, never_writes within small crossed⟩⟩

theorem Counters.zero_within : Counters.zero.Within := fun _ _ => withinThreshold_zero

/-- The second block takes a bucket of 51000 bytes over the threshold, and its release leaves a
negative amount. -/
theorem flushesWhenCrossed_iff_crossing :
    FlushesWhenCrossed (fun _ : Unit => (0 : Bucket)) .zero
        [.incrementAllocSize () 0 51000, .incrementAllocSize () 0 300,
          .decrementAllocSize () ⟨0, 300, 0⟩] ∧
      BlockCall.Crosses (fun _ : Unit => (0 : Bucket)) (.incrementAllocSize () 0 300)
        (BlockCall.count (fun _ => 0) (.incrementAllocSize () 0 51000) .zero) :=
  ⟨(flushesWhenCrossed_iff _ .zero Counters.zero_within _ (by simp [BlockCall.size])).mpr
    (by decide), by decide⟩

/-- A block of 100 bytes is counted and released, and the release writes the global counter although
no amount is left. -/
theorem release_writes_global :
    PendingWithin (fun _ : Unit => (0 : Bucket)) Counters.zero.signed
        [.incrementAllocSize () 0 100, .decrementAllocSize () ⟨0, 100, 0⟩] ∧
      ¬FlushesWhenCrossed (fun _ : Unit => (0 : Bucket)) .zero
        [.incrementAllocSize () 0 100, .decrementAllocSize () ⟨0, 100, 0⟩] := by
  have pending : PendingWithin (fun _ : Unit => (0 : Bucket)) Counters.zero.signed
      [.incrementAllocSize () 0 100, .decrementAllocSize () ⟨0, 100, 0⟩] :=
    ⟨by decide, by decide, trivial⟩
  refine ⟨pending, fun flushes => ?_⟩
  obtain ⟨-, tail⟩ := flushes.never pending _ rfl
  obtain ⟨stays, -⟩ := tail _ rfl
  apply stays
  rw [BlockCall.Writes, BlockCall.value_decrement]
  decide

end Memkind
