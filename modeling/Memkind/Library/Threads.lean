/-
This file reasons about threads that share a state and take turns.
-/

import Mathlib.Logic.Function.Basic

namespace Memkind.Library

variable {Thread Shared Local : Type}

/-- The shared state, and where each thread stands. -/
structure Threads (Thread Shared Local : Type) where
  shared : Shared
  locals : Thread → Local

variable [DecidableEq Thread]

/-- One thread has changed the shared state and has moved on. -/
def Threads.advance (state : Threads Thread Shared Local) (thread : Thread) (shared : Shared)
    (position : Local) : Threads Thread Shared Local :=
  ⟨shared, Function.update state.locals thread position⟩

/-- The shared state meets an invariant, and every thread meets the assertion of its position. -/
structure Threads.Holds (invariant : Shared → Prop) (assertion : Thread → Shared → Local → Prop)
    (state : Threads Thread Shared Local) : Prop where
  shared : invariant state.shared
  locals : ∀ thread, assertion thread state.shared (state.locals thread)

variable {invariant : Shared → Prop} {assertion : Thread → Shared → Local → Prop}
  {state : Threads Thread Shared Local}

/-- A turn keeps what holds when the thread reaches its next assertion and the assertions of the
other threads are stable. -/
theorem Threads.Holds.advance (held : state.Holds invariant assertion) {thread : Thread}
    {shared : Shared} {position : Local} (kept : invariant shared)
    (reached : assertion thread shared position)
    (stable : ∀ other, other ≠ thread → assertion other state.shared (state.locals other) →
      assertion other shared (state.locals other)) :
    (state.advance thread shared position).Holds invariant assertion where
  shared := kept
  locals other := by
    show assertion other shared (Function.update state.locals thread position other)
    by_cases same : other = thread
    · rw [same, Function.update_self]
      exact reached
    · rw [Function.update_of_ne same]
      exact stable other same (held.locals other)

end Memkind.Library
