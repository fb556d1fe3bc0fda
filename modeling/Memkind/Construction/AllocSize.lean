/-
This file embeds the batched byte counters of `memkind_memtier.c`, once as the sequence of
atomic accesses that each thread performs and once as complete calls.
-/

import Memkind.Construction.Types
import Memkind.Library.Run
import Mathlib.Algebra.BigOperators.Fin

namespace Memkind

/-- `THREAD_BUCKETS` counters per kind take the changes of the threads. -/
def threadBuckets : Nat := 256

/-- A bucket that leaves the range of `FLUSH_THRESHOLD` moves into the global counter. -/
def flushThreshold : SizeT := 51200

/-- A bucket index is what `t_hash_64` can return. -/
abbrev Bucket := Fin threadBuckets

instance : NeZero threadBuckets := ⟨by decide⟩

/-- `t_alloc_size` and `g_alloc_size`, indexed by the partition of a kind. -/
structure Counters where
  tAllocSize : Nat → Bucket → SizeT
  gAllocSize : Nat → SizeT

/-- Static storage starts with zero counters. -/
def Counters.zero : Counters := ⟨fun _ _ => 0, fun _ => 0⟩

def Counters.setBucket (counters : Counters) (kind : Nat) (bucket : Bucket) (value : SizeT) :
    Counters :=
  { counters with
    tAllocSize := Function.update counters.tAllocSize kind
      (Function.update (counters.tAllocSize kind) bucket value) }

def Counters.setGlobal (counters : Counters) (kind : Nat) (value : SizeT) : Counters :=
  { counters with gAllocSize := Function.update counters.gAllocSize kind value }

/-- `memtier_reset_size` clears every counter of one partition. -/
def memtierResetSize (counters : Counters) (kindId : Nat) : Counters where
  tAllocSize := Function.update counters.tAllocSize kindId fun _ => 0
  gAllocSize := Function.update counters.gAllocSize kindId 0

/-- The test of `increment_alloc_size` on the value after the addition. The `size_t` operand
makes the comparison unsigned. -/
def incrementFlushes (value : SizeT) : Bool := flushThreshold < value

/-- The test of `decrement_alloc_size` on the value after the subtraction. The constant
`-FLUSH_THRESHOLD` is converted to `size_t`. -/
def decrementFlushes (value : SizeT) : Bool := value < -flushThreshold

/-- The three calls that access the counters. -/
inductive CounterCall where
  | incrementAllocSize (kindId : Nat) (size : SizeT)
  | decrementAllocSize (kindId : Nat) (size : SizeT)
  | memtierKindAllocatedSize (partition : Nat)

/-- A thread stands before its next atomic access. The constructors name that access and hold
the local variables of the call. -/
inductive ThreadPoint where
  /-- No call is in progress; `returned` is the result of the last call. -/
  | idle (returned : Option SizeT)
  /-- The flush takes the bucket. -/
  | takeBucket (kindId : Nat) (bucket : Bucket)
  /-- The flush adds `size_f` to the global counter. -/
  | addTaken (kindId : Nat) (sizeF : SizeT)
  /-- The loop of `memtier_kind_allocated_size` takes the next bucket. -/
  | drainBucket (partition : Nat) (bucket : Bucket) (sizeAll : SizeT)
  /-- The loop has ended and `size_all` goes to the global counter. -/
  | addDrained (partition : Nat) (sizeAll : SizeT)

/-- One iteration of the loop of `memtier_kind_allocated_size`. -/
def drainStep (partition : Nat) (bucket : Bucket) (sizeAll : SizeT) (counters : Counters) :
    ThreadPoint × Counters :=
  let sizeAll := sizeAll + counters.tAllocSize partition bucket
  (if more : bucket.val + 1 < threadBuckets
    then .drainBucket partition ⟨bucket.val + 1, more⟩ sizeAll
    else .addDrained partition sizeAll,
   counters.setBucket partition bucket 0)

/-- The first atomic access of a call. -/
def startCall (hash : Bucket) (call : CounterCall) (counters : Counters) :
    ThreadPoint × Counters :=
  match call with
  | .incrementAllocSize kindId size =>
      let value := counters.tAllocSize kindId hash + size
      (if incrementFlushes value then .takeBucket kindId hash else .idle none,
        counters.setBucket kindId hash value)
  | .decrementAllocSize kindId size =>
      let value := counters.tAllocSize kindId hash - size
      (if decrementFlushes value then .takeBucket kindId hash else .idle none,
        counters.setBucket kindId hash value)
  | .memtierKindAllocatedSize partition => drainStep partition 0 0 counters

/-- The next atomic access of a call in progress. -/
def resumeCall (point : ThreadPoint) (counters : Counters) : Option (ThreadPoint × Counters) :=
  match point with
  | .idle _ => none
  | .takeBucket kindId bucket =>
      some (.addTaken kindId (counters.tAllocSize kindId bucket),
        counters.setBucket kindId bucket 0)
  | .addTaken kindId sizeF =>
      some (.idle none, counters.setGlobal kindId (counters.gAllocSize kindId + sizeF))
  | .drainBucket partition bucket sizeAll => some (drainStep partition bucket sizeAll counters)
  | .addDrained partition sizeAll =>
      let sizeRet := counters.gAllocSize partition
      some (.idle (some (sizeRet + sizeAll)), counters.setGlobal partition (sizeRet + sizeAll))

/-- A thread either starts a call or performs the next access of its call. -/
inductive ThreadAction where
  | start (call : CounterCall)
  | resume

/-- The shared counters and the position of every thread. -/
structure CounterSystem (Thread : Type*) where
  counters : Counters
  point : Thread → ThreadPoint

/-- The program starts with zero counters and idle threads. -/
def CounterSystem.initial (Thread : Type*) : CounterSystem Thread :=
  ⟨.zero, fun _ => .idle none⟩

/-- One atomic access of one thread. -/
def counterStep {Thread : Type*} [DecidableEq Thread] (hash : Thread → Bucket)
    (label : Thread × ThreadAction) (system : CounterSystem Thread) :
    Option (CounterSystem Thread) :=
  let (thread, action) := label
  match action, system.point thread with
  | .start call, .idle _ =>
      let (point, counters) := startCall (hash thread) call system.counters
      some ⟨counters, Function.update system.point thread point⟩
  | .start _, _ => none
  | .resume, point =>
      (resumeCall point system.counters).map fun (point, counters) =>
        ⟨counters, Function.update system.point thread point⟩

/-- No thread is inside a call. -/
def CounterSystem.Quiescent {Thread : Type*} (system : CounterSystem Thread) : Prop :=
  ∀ thread, ∃ returned, system.point thread = .idle returned

/-- A complete `increment_alloc_size`, without interruption. -/
def incrementAllocSize (counters : Counters) (kindId : Nat) (bucket : Bucket) (size : SizeT) :
    Counters :=
  let value := counters.tAllocSize kindId bucket + size
  let counters := counters.setBucket kindId bucket value
  if incrementFlushes value then
    let sizeF := counters.tAllocSize kindId bucket
    let counters := counters.setBucket kindId bucket 0
    counters.setGlobal kindId (counters.gAllocSize kindId + sizeF)
  else counters

/-- A complete `decrement_alloc_size`, without interruption. -/
def decrementAllocSize (counters : Counters) (kindId : Nat) (bucket : Bucket) (size : SizeT) :
    Counters :=
  let value := counters.tAllocSize kindId bucket - size
  let counters := counters.setBucket kindId bucket value
  if decrementFlushes value then
    let sizeF := counters.tAllocSize kindId bucket
    let counters := counters.setBucket kindId bucket 0
    counters.setGlobal kindId (counters.gAllocSize kindId + sizeF)
  else counters

/-- A complete `memtier_kind_allocated_size`, without interruption: the loop over the buckets
and the final addition. -/
def memtierKindAllocatedSize (counters : Counters) (partition : Nat) : SizeT × Counters :=
  let (sizeAll, counters) := (List.finRange threadBuckets).foldl
    (fun (state : SizeT × Counters) bucket =>
      (state.1 + state.2.tAllocSize partition bucket, state.2.setBucket partition bucket 0))
    (0, counters)
  let sizeRet := counters.gAllocSize partition
  (sizeRet + sizeAll, counters.setGlobal partition (sizeRet + sizeAll))

end Memkind
