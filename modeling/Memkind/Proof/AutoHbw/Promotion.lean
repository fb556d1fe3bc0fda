/-
This file compares the kinds that the interposed `calloc` and `malloc` choose for the same number of
bytes.
-/

import Memkind.Construction.AutoHbw

namespace Memkind

open Library

section Choice

variable (state : AutoHbw)

/-- The sizes between the limits. -/
def AutoHbw.InLimits (size : Nat) : Prop :=
  state.hbwLowLimit.toNat ≤ size ∧ size ≤ state.hbwHighLimit.toNat

theorem AutoHbw.isAllocInHBW_iff (size : SizeT) :
    state.isAllocInHBW size ↔
      state.memkindInitDone ∧ state.isAutoHBWEnabled ∧ state.InLimits size.toNat := by
  unfold isAllocInHBW InLimits
  cases state.memkindInitDone with
  | false => simp
  | true =>
      cases state.isAutoHBWEnabled with
      | false => simp
      | true => simp [BitVec.lt_def]

theorem AutoHbw.memkindCalloc_useHbw (nmemb size : SizeT) :
    (state.memkindCalloc nmemb size).useHbw ↔
      state.memkindInitDone ∧ state.isAutoHBWEnabled ∧ state.InLimits size.toNat :=
  state.isAllocInHBW_iff size

theorem AutoHbw.memkindMalloc_useHbw (size : SizeT) :
    (state.memkindMalloc size).useHbw ↔
      state.memkindInitDone ∧ state.isAutoHBWEnabled ∧ state.InLimits size.toNat :=
  state.isAllocInHBW_iff size

/-- The requests that the size of one element puts on the wrong side of a limit: small elements of a
large block, an element below the upper limit of a block above it, and a block without elements. -/
def AutoHbw.Misjudged (nmemb size : SizeT) : Prop :=
  (size < state.hbwLowLimit ∧ state.hbwLowLimit.toNat ≤ nmemb.toNat * size.toNat ∧
      nmemb.toNat * size.toNat ≤ state.hbwHighLimit.toNat) ∨
    (state.hbwLowLimit ≤ size ∧ size ≤ state.hbwHighLimit ∧
      state.hbwHighLimit.toNat < nmemb.toNat * size.toNat) ∨
    (nmemb = 0 ∧ (0 < state.hbwLowLimit ∧ state.hbwLowLimit ≤ size ∧ size ≤ state.hbwHighLimit ∨
      state.hbwLowLimit = 0 ∧ state.hbwHighLimit < size))

theorem AutoHbw.inLimits_iff (nmemb size : SizeT) :
    (state.InLimits size.toNat ↔ state.InLimits (nmemb.toNat * size.toNat)) ↔
      ¬state.Misjudged nmemb size := by
  have zero : (0 : SizeT).toNat = 0 := rfl
  unfold InLimits Misjudged
  simp only [BitVec.lt_def, BitVec.le_def, BitVec.toNat_eq, zero]
  by_cases none : nmemb.toNat = 0
  · rw [none, Nat.zero_mul]
    omega
  · have larger : size.toNat ≤ nmemb.toNat * size.toNat :=
      Nat.le_mul_of_pos_left _ (Nat.pos_of_ne_zero none)
    generalize nmemb.toNat * size.toNat = total at *
    omega

end Choice

section History

/-- Whether promotion is initialised after the events. -/
def initialisedAfter (events : List HbwEvent) : Bool :=
  events.any fun event => match event with
    | .load _ => true
    | .enable | .disable => false

/-- Whether promotion is enabled after the events. -/
def enabledAfter (start : Bool) (events : List HbwEvent) : Bool :=
  events.foldl (fun enabled event => match event with
    | .load _ => enabled
    | .enable => true
    | .disable => false) start

theorem setMemType_switches (memType : Option CString) (state : AutoHbw) :
    (setMemType memType state).memkindInitDone = state.memkindInitDone ∧
      (setMemType memType state).isAutoHBWEnabled = state.isAutoHBWEnabled ∧
      (state.hbwKind.isSome → (setMemType memType state).hbwKind.isSome) := by
  unfold setMemType
  split
  · exact ⟨rfl, rfl, id⟩
  · split
    · exact ⟨rfl, rfl, id⟩
    · split
      · exact ⟨rfl, rfl, id⟩
      · exact ⟨rfl, rfl, fun _ => rfl⟩

theorem setSizeLimits_switches (size : Option CString) (state : AutoHbw) :
    (setSizeLimits size state).memkindInitDone = state.memkindInitDone ∧
      (setSizeLimits size state).isAutoHBWEnabled = state.isAutoHBWEnabled ∧
      (setSizeLimits size state).hbwKind = state.hbwKind := by
  unfold setSizeLimits
  split
  · exact ⟨rfl, rfl, rfl⟩
  · exact ⟨rfl, rfl, rfl⟩

/-- `autohbw_load` initialises promotion with a kind, and leaves it enabled or disabled. -/
theorem autohbwLoad_switches {env : HbwEnvironment} {state next : AutoHbw}
    (loaded : autohbwLoad env state = some next) :
    next.memkindInitDone ∧ next.isAutoHBWEnabled = state.isAutoHBWEnabled ∧
      next.hbwKind.isSome := by
  unfold autohbwLoad at loaded
  dsimp only at loaded
  split at loaded
  · obtain rfl := Option.some.inj loaded
    obtain ⟨-, enabled, kind⟩ := setSizeLimits_switches env.size (setMemType env.memType _)
    obtain ⟨-, kept, set⟩ := setMemType_switches env.memType _
    refine ⟨rfl, enabled.trans kept, ?_⟩
    rw [kind]
    exact set rfl
  · cases loaded

/-- The switches after a run of events. -/
theorem runSteps_switches {events : List HbwEvent} {start state : AutoHbw}
    (reached : runSteps hbwStep start events = some state) :
    state.memkindInitDone = (start.memkindInitDone || initialisedAfter events) ∧
      state.isAutoHBWEnabled = enabledAfter start.isAutoHBWEnabled events := by
  induction events generalizing start with
  | nil =>
      obtain rfl := Option.some.inj reached
      exact ⟨(Bool.or_false _).symm, rfl⟩
  | cons event rest ih =>
      obtain ⟨next, stepped, tail⟩ := (runSteps_cons_eq_some hbwStep).mp reached
      obtain ⟨initialised, enabled⟩ := ih tail
      rw [initialised, enabled]
      cases event with
      | load env =>
          obtain ⟨done, kept, -⟩ := autohbwLoad_switches stepped
          rw [done, kept]
          exact ⟨(Bool.or_true _).symm, rfl⟩
      | enable =>
          obtain rfl := Option.some.inj stepped
          exact ⟨rfl, rfl⟩
      | disable =>
          obtain rfl := Option.some.inj stepped
          exact ⟨rfl, rfl⟩

/-- After these events a request of `nmemb * size` bytes is promoted by its number of bytes. -/
structure PromotesTotal (events : List HbwEvent) (state : AutoHbw) (nmemb size : SizeT) :
    Prop where
  asMalloc : (state.memkindCalloc nmemb size).useHbw =
    (state.memkindMalloc (nmemb * size)).useHbw
  total : (state.memkindCalloc nmemb size).useHbw ↔
    initialisedAfter events ∧ enabledAfter true events ∧
      state.InLimits (nmemb.toNat * size.toNat)

/-- In every history of the library, `calloc` promotes a request by its number of bytes unless the
size of an element is on the other side of a limit. -/
theorem promotesTotal_iff (events : List HbwEvent) (state : AutoHbw)
    (reached : runSteps hbwStep {} events = some state) (nmemb size : SizeT)
    (fits : nmemb.toNat * size.toNat < 2 ^ 64) :
    PromotesTotal events state nmemb size ↔
      ¬(initialisedAfter events ∧ enabledAfter true events ∧ state.Misjudged nmemb size) := by
  obtain ⟨initialised, enabled⟩ := runSteps_switches reached
  rw [Bool.false_or] at initialised
  have product : (nmemb * size).toNat = nmemb.toNat * size.toNat :=
    BitVec.toNat_mul_of_lt fits
  have calloc := state.memkindCalloc_useHbw nmemb size
  have malloc := state.memkindMalloc_useHbw (nmemb * size)
  have limits := state.inLimits_iff nmemb size
  rw [initialised, enabled] at calloc malloc
  rw [product] at malloc
  have same : PromotesTotal events state nmemb size ↔
      ((state.memkindCalloc nmemb size).useHbw ↔ (state.memkindMalloc (nmemb * size)).useHbw) :=
    ⟨fun total => Bool.eq_iff_iff.mp total.asMalloc,
      fun same => ⟨Bool.eq_iff_iff.mpr same, same.trans malloc⟩⟩
  rw [same, calloc, malloc, and_congr_right_iff, and_congr_right_iff, limits, not_and, not_and]

/-- After the library is loaded with its defaults, an array of two elements of 1 MiB is promoted. -/
theorem promotesTotal_iff_mebibytes :
    ∃ state, runSteps hbwStep {} [.load { hbwAvailable := true }] = some state ∧
      (state.memkindCalloc 2 1048576).useHbw = true ∧
      PromotesTotal [.load { hbwAvailable := true }] state 2 1048576 := by
  refine ⟨_, rfl, by decide, (promotesTotal_iff _ _ rfl 2 1048576 (by decide)).mpr ?_⟩
  rintro ⟨-, -, ⟨below, -⟩ | ⟨-, -, above⟩ | ⟨empty, -⟩⟩
  · exact absurd below (by decide)
  · exact absurd above (by decide)
  · exact absurd empty (by decide)

/-- An array of 1 MiB in 1024 elements of 1024 bytes is not promoted. -/
theorem calloc_not_promotesTotal :
    ∃ state, runSteps hbwStep {} [.load { hbwAvailable := true }] = some state ∧
      (state.memkindCalloc 1024 1024).useHbw = false ∧
      (state.memkindMalloc (1024 * 1024)).useHbw = true ∧
      ¬PromotesTotal [.load { hbwAvailable := true }] state 1024 1024 := by
  refine ⟨_, rfl, by decide, by decide, fun promotes => ?_⟩
  exact absurd promotes.asMalloc (by decide)

end History

end Memkind
