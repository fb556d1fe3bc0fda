/-
This file shows that the atomic accesses of the counters move bytes and never lose them.
-/

import Memkind.Construction.AllocSize
import Memkind.Library.Ledger

namespace Memkind

open Library

variable {Thread : Type*} {system next : CounterSystem Thread} {label : Thread × ThreadAction}

/-- The bytes that the counters of one kind hold. -/
def Counters.stored (counters : Counters) (kind : Nat) : SizeT :=
  counters.gAllocSize kind + ∑ bucket, counters.tAllocSize kind bucket

theorem Counters.zero_stored (kind : Nat) : Counters.zero.stored kind = 0 := by
  simp [stored, zero]

/-- The bytes that a thread took out of a bucket and has not added to the global counter. -/
def ThreadPoint.held (kind : Nat) : ThreadPoint → SizeT
  | .idle _ => 0
  | .takeBucket _ _ => 0
  | .addTaken kindId sizeF => if kindId = kind then sizeF else 0
  | .drainBucket partition _ sizeAll => if partition = kind then sizeAll else 0
  | .addDrained partition sizeAll => if partition = kind then sizeAll else 0

/-- The counters and the threads together hold the bytes of a kind. -/
def CounterSystem.total {Thread : Type*} [Fintype Thread] (system : CounterSystem Thread)
    (kind : Nat) : SizeT :=
  system.counters.stored kind + ∑ thread, (system.point thread).held kind

/-- The bytes that a call adds to the account of a kind. -/
def CounterCall.incremented (kind : Nat) : CounterCall → Nat
  | .incrementAllocSize kindId size => if kindId = kind then size.toNat else 0
  | .decrementAllocSize _ _ => 0
  | .memtierKindAllocatedSize _ => 0

/-- The bytes that a call removes from the account of a kind. -/
def CounterCall.decremented (kind : Nat) : CounterCall → Nat
  | .incrementAllocSize _ _ => 0
  | .decrementAllocSize kindId size => if kindId = kind then size.toNat else 0
  | .memtierKindAllocatedSize _ => 0

/-- A count of bytes, summed over the calls that a trace starts. -/
def startedBytes {Thread : Type*} (count : CounterCall → Nat) :
    List (Thread × ThreadAction) → Nat
  | [] => 0
  | (_, .start call) :: rest => count call + startedBytes count rest
  | (_, .resume) :: rest => startedBytes count rest

/-- The account of a kind after a trace: the incremented less the decremented sizes. -/
def accountOf {Thread : Type*} (kind : Nat) (trace : List (Thread × ThreadAction)) : Int :=
  startedBytes (CounterCall.incremented kind) trace -
    startedBytes (CounterCall.decremented kind) trace

theorem Counters.stored_setBucket (counters : Counters) (kindId kind : Nat) (bucket : Bucket)
    (value : SizeT) :
    (counters.setBucket kindId bucket value).stored kind =
      counters.stored kind +
        if kindId = kind then value - counters.tAllocSize kindId bucket else 0 := by
  by_cases same : kindId = kind
  · subst same
    simp only [stored, setBucket, Function.update_self, sum_update, ↓reduceIte]
    abel
  · simp only [stored, setBucket, Function.update_of_ne (Ne.symm same), if_neg same, add_zero]

theorem Counters.stored_setGlobal (counters : Counters) (kindId kind : Nat) (value : SizeT) :
    (counters.setGlobal kindId value).stored kind =
      counters.stored kind +
        if kindId = kind then value - counters.gAllocSize kindId else 0 := by
  by_cases same : kindId = kind
  · subst same
    simp only [stored, setGlobal, Function.update_self, ↓reduceIte]
    abel
  · simp only [stored, setGlobal, Function.update_of_ne (Ne.symm same), if_neg same, add_zero]

/-- One iteration of the draining loop moves its bucket into the local sum. -/
theorem drainStep_stored (partition kind : Nat) (bucket : Bucket) (sizeAll : SizeT)
    (counters : Counters) :
    (drainStep partition bucket sizeAll counters).2.stored kind +
        (drainStep partition bucket sizeAll counters).1.held kind =
      counters.stored kind + if partition = kind then sizeAll else 0 := by
  have sum : (drainStep partition bucket sizeAll counters).1.held kind =
      if partition = kind then sizeAll + counters.tAllocSize partition bucket else 0 := by
    unfold drainStep
    by_cases more : bucket.val + 1 < threadBuckets
    · simp only [more, ↓reduceDIte, ThreadPoint.held]
    · simp only [more, ↓reduceDIte, ThreadPoint.held]
  rw [sum]
  simp only [drainStep, Counters.stored_setBucket]
  split
  · abel
  · abel

/-- The first access of a call accounts its size. -/
theorem startCall_stored (hash : Bucket) (call : CounterCall) (counters : Counters)
    (kind : Nat) :
    (startCall hash call counters).2.stored kind + (startCall hash call counters).1.held kind =
      counters.stored kind +
        (((call.incremented kind : Int) - (call.decremented kind : Int) : Int) : SizeT) := by
  cases call with
  | incrementAllocSize kindId size =>
      have idle : (startCall hash (.incrementAllocSize kindId size) counters).1.held kind = 0 := by
        simp only [startCall]
        split <;> rfl
      rw [idle]
      simp only [startCall, Counters.stored_setBucket, CounterCall.incremented,
        CounterCall.decremented]
      split
      · simp
      · simp
  | decrementAllocSize kindId size =>
      have idle : (startCall hash (.decrementAllocSize kindId size) counters).1.held kind = 0 := by
        simp only [startCall]
        split <;> rfl
      rw [idle]
      simp only [startCall, Counters.stored_setBucket, CounterCall.incremented,
        CounterCall.decremented]
      split
      · simp [sub_eq_add_neg]
      · simp
  | memtierKindAllocatedSize partition =>
      rw [startCall, drainStep_stored]
      simp [CounterCall.incremented, CounterCall.decremented]

/-- A later access moves bytes between the counters and the thread. -/
theorem resumeCall_stored {point next : ThreadPoint} {counters after : Counters}
    (resumed : resumeCall point counters = some (next, after)) (kind : Nat) :
    after.stored kind + next.held kind = counters.stored kind + point.held kind := by
  cases point with
  | idle returned => simp [resumeCall] at resumed
  | takeBucket kindId bucket =>
      obtain ⟨rfl, rfl⟩ := Prod.mk.inj (Option.some.inj resumed)
      simp only [Counters.stored_setBucket, ThreadPoint.held]
      split
      · abel
      · abel
  | addTaken kindId sizeF =>
      obtain ⟨rfl, rfl⟩ := Prod.mk.inj (Option.some.inj resumed)
      simp only [Counters.stored_setGlobal, ThreadPoint.held]
      split
      · abel
      · abel
  | drainBucket partition bucket sizeAll =>
      have moved := drainStep_stored partition kind bucket sizeAll counters
      rw [Option.some.inj resumed] at moved
      exact moved
  | addDrained partition sizeAll =>
      obtain ⟨rfl, rfl⟩ := Prod.mk.inj (Option.some.inj resumed)
      simp only [Counters.stored_setGlobal, ThreadPoint.held]
      split
      · abel
      · abel

/-- The part of the account that one label contributes. -/
def ThreadAction.charge (kind : Nat) : ThreadAction → Int
  | .start call => (call.incremented kind : Int) - (call.decremented kind : Int)
  | .resume => 0

theorem accountOf_cons (kind : Nat) (label : Thread × ThreadAction)
    (rest : List (Thread × ThreadAction)) :
    accountOf kind (label :: rest) = label.2.charge kind + accountOf kind rest := by
  obtain ⟨thread, action⟩ := label
  cases action with
  | start call =>
      simp only [accountOf, startedBytes, ThreadAction.charge]
      omega
  | resume => simp only [accountOf, startedBytes, ThreadAction.charge, zero_add]

/-- What an access of a thread is: the first of a call that an idle thread starts, or the next one
of the call that the thread is in. -/
inductive CounterAccess {Thread : Type*} [DecidableEq Thread] (hash : Thread → Bucket)
    (system : CounterSystem Thread) : Thread × ThreadAction → CounterSystem Thread → Prop where
  | start {thread : Thread} {call : CounterCall} {returned : Option SizeT}
      (idle : system.point thread = .idle returned) :
      CounterAccess hash system (thread, .start call)
        ⟨(startCall (hash thread) call system.counters).2,
          Function.update system.point thread (startCall (hash thread) call system.counters).1⟩
  | resume {thread : Thread} {point : ThreadPoint} {counters : Counters}
      (resumed : resumeCall (system.point thread) system.counters = some (point, counters)) :
      CounterAccess hash system (thread, .resume)
        ⟨counters, Function.update system.point thread point⟩

theorem counterStep_access [DecidableEq Thread] {hash : Thread → Bucket}
    (stepped : counterStep hash label system = some next) :
    CounterAccess hash system label next := by
  obtain ⟨thread, action⟩ := label
  cases action with
  | start call =>
      cases position : system.point thread with
      | idle returned =>
          simp only [counterStep, position, Option.some.injEq] at stepped
          subst next
          exact .start position
      | _ => simp [counterStep, position] at stepped
  | resume =>
      simp only [counterStep, Option.map_eq_some_iff, Prod.exists] at stepped
      obtain ⟨point, counters, resumed, rfl⟩ := stepped
      exact .resume resumed

/-- A step changes the counters and the position of its own thread only. -/
theorem counterStep_cases [DecidableEq Thread] (hash : Thread → Bucket)
    (stepped : counterStep hash label system = some next) :
    next.point = Function.update system.point label.1 (next.point label.1) ∧
      ∀ kind, next.counters.stored kind + (next.point label.1).held kind =
        system.counters.stored kind + (system.point label.1).held kind +
          ((label.2.charge kind : Int) : SizeT) := by
  cases counterStep_access stepped with
  | @start thread call returned idle =>
      refine ⟨by simp, fun kind => ?_⟩
      simp only [Function.update_self, idle, ThreadPoint.held, add_zero]
      exact startCall_stored (hash thread) call system.counters kind
  | resume resumed =>
      refine ⟨by simp, fun kind => ?_⟩
      simp only [Function.update_self, ThreadAction.charge, Int.cast_zero, add_zero]
      exact resumeCall_stored resumed kind

/-- One access changes the total by the size that it charges. -/
theorem counterStep_total [Fintype Thread] [DecidableEq Thread] (hash : Thread → Bucket)
    (stepped : counterStep hash label system = some next) (kind : Nat) :
    next.total kind = system.total kind + ((label.2.charge kind : Int) : SizeT) := by
  obtain ⟨moved, balanced⟩ := counterStep_cases hash stepped
  have threads : ∑ thread, (next.point thread).held kind =
      ∑ thread, (system.point thread).held kind +
        ((next.point label.1).held kind - (system.point label.1).held kind) := by
    conv_lhs => rw [moved]
    exact sum_mark_update (ThreadPoint.held kind) system.point label.1 _
  calc next.total kind
      = (next.counters.stored kind + (next.point label.1).held kind) +
          (∑ thread, (system.point thread).held kind - (system.point label.1).held kind) := by
        rw [CounterSystem.total, threads]
        abel
    _ = system.total kind + ((label.2.charge kind : Int) : SizeT) := by
        rw [balanced kind, CounterSystem.total]
        abel

/-- A run changes the total by the account of its trace. -/
theorem counterRun_total [Fintype Thread] [DecidableEq Thread] (hash : Thread → Bucket)
    {trace : List (Thread × ThreadAction)} {final : CounterSystem Thread}
    (ran : runSteps (counterStep hash) system trace = some final) (kind : Nat) :
    final.total kind = system.total kind + ((accountOf kind trace : Int) : SizeT) := by
  induction trace generalizing system with
  | nil =>
      obtain rfl := Option.some.inj ran
      simp [accountOf, startedBytes]
  | cons label rest ih =>
      obtain ⟨next, stepped, tail⟩ := (runSteps_cons_eq_some (counterStep hash)).mp ran
      rw [ih tail, counterStep_total hash stepped, accountOf_cons, Int.cast_add]
      abel

theorem CounterSystem.initial_total (Thread : Type*) [Fintype Thread] (kind : Nat) :
    (CounterSystem.initial Thread).total kind = 0 := by
  simp [total, initial, Counters.zero_stored, ThreadPoint.held]

/-- A quiescent system holds no bytes outside of the counters. -/
theorem CounterSystem.Quiescent.total_eq [Fintype Thread] (quiescent : system.Quiescent)
    (kind : Nat) : system.total kind = system.counters.stored kind := by
  have nothing (thread : Thread) : (system.point thread).held kind = 0 := by
    obtain ⟨returned, position⟩ := quiescent thread
    rw [position]
    rfl
  simp only [total, nothing, Finset.sum_const_zero, add_zero]

end Memkind
