/-
This file runs a partial step function over a list of labels.
-/

import Mathlib.Data.Option.Basic

namespace Memkind.Library

variable {State Label : Type*} (step : Label → State → Option State) {labels : List Label}
  {state : State} {property invariant : State → Prop} {valid : Label → Prop}
  {guard : Label → State → Prop}

/-- A run takes its labels in order and stops at the first one that is not enabled. -/
def runSteps : State → List Label → Option State
  | state, [] => some state
  | state, label :: rest => (step label state).bind fun next => runSteps next rest

@[simp] theorem runSteps_nil (state : State) : runSteps step state [] = some state := rfl

theorem runSteps_cons (state : State) (label : Label) (rest : List Label) :
    runSteps step state (label :: rest) =
      (step label state).bind fun next => runSteps step next rest := rfl

/-- A nonempty run splits into its first step and the rest. -/
theorem runSteps_cons_eq_some {final : State} {label : Label} {rest : List Label} :
    runSteps step state (label :: rest) = some final ↔
      ∃ next, step label state = some next ∧ runSteps step next rest = some final := by
  rw [runSteps_cons, Option.bind_eq_some_iff]

/-- Runs compose along the concatenation of their labels. -/
theorem runSteps_append (state : State) (first second : List Label) :
    runSteps step state (first ++ second) =
      (runSteps step state first).bind fun middle => runSteps step middle second := by
  induction first generalizing state with
  | nil => rfl
  | cons label rest ih =>
      rw [List.cons_append, runSteps_cons, runSteps_cons, Option.bind_assoc]
      apply congrArg (Option.bind (step label state))
      funext next
      exact ih next

/-- A property kept by every enabled step holds in the last state of a run. -/
theorem runSteps_invariant (property : State → Prop)
    (kept : ∀ label state next, property state → step label state = some next → property next)
    {final : State} (start : property state) (ran : runSteps step state labels = some final) :
    property final := by
  induction labels generalizing state with
  | nil =>
      obtain rfl := Option.some.inj ran
      exact start
  | cons label rest ih =>
      obtain ⟨next, stepped, tail⟩ := (runSteps_cons_eq_some step).mp ran
      exact ih (kept label state next start stepped) tail

/-- A property kept by every step with a valid label holds in the last state of a run of valid
labels. -/
theorem runSteps_invariant_of_valid
    (kept : ∀ label state next, valid label → property state → step label state = some next →
      property next) {final : State} (start : property state)
    (allValid : ∀ label ∈ labels, valid label) (ran : runSteps step state labels = some final) :
    property final := by
  induction labels generalizing state with
  | nil =>
      obtain rfl := Option.some.inj ran
      exact start
  | cons label rest ih =>
      obtain ⟨labelValid, restValid⟩ := List.forall_mem_cons.mp allValid
      obtain ⟨next, stepped, tail⟩ := (runSteps_cons_eq_some step).mp ran
      exact ih (kept label state next labelValid start stepped) restValid tail

/-- When every valid label is enabled and keeps a property, a run of valid labels reaches its end
with the property. -/
theorem runSteps_total
    (progress : ∀ label state, valid label → property state →
      ∃ next, step label state = some next ∧ property next) (start : property state)
    (allValid : ∀ label ∈ labels, valid label) :
    ∃ final, runSteps step state labels = some final ∧ property final := by
  induction labels generalizing state with
  | nil => exact ⟨state, rfl, start⟩
  | cons label rest ih =>
      obtain ⟨labelValid, restValid⟩ := List.forall_mem_cons.mp allValid
      obtain ⟨next, stepped, kept⟩ := progress label state labelValid start
      obtain ⟨final, ran, reached⟩ := ih kept restValid
      exact ⟨final, (runSteps_cons_eq_some step).mpr ⟨next, stepped, ran⟩, reached⟩

/-- The property holds in every state that the run visits. -/
def Always (property : State → Prop) : State → List Label → Prop
  | state, [] => property state
  | state, label :: rest =>
      property state ∧ ∀ next, step label state = some next → Always property next rest

/-- Every step that the run takes meets the guard in the state before it. -/
def Guarded (guard : Label → State → Prop) : State → List Label → Prop
  | _, [] => True
  | state, label :: rest =>
      ∀ next, step label state = some next → guard label state ∧ Guarded guard next rest

/-- A step that meets the guard extends a guarded run in front. -/
theorem Guarded.cons {next : State} {label : Label} {rest : List Label}
    (stepped : step label state = some next) (met : guard label state)
    (tail : Guarded step guard next rest) : Guarded step guard state (label :: rest) := by
  intro other taken
  rw [stepped] at taken
  obtain rfl := Option.some.inj taken
  exact ⟨met, tail⟩

/-- The rest of a guarded run is guarded. -/
theorem Guarded.drop {middle : State} {first second : List Label}
    (guarded : Guarded step guard state (first ++ second))
    (ran : runSteps step state first = some middle) : Guarded step guard middle second := by
  induction first generalizing state with
  | nil =>
      obtain rfl := Option.some.inj ran
      exact guarded
  | cons label rest ih =>
      obtain ⟨next, stepped, tail⟩ := (runSteps_cons_eq_some step).mp ran
      exact ih (guarded next stepped).2 tail

/-- A guarded run with a guarded run behind it. -/
theorem Guarded.append {first second : List Label} (guarded : Guarded step guard state first)
    (later : ∀ middle, runSteps step state first = some middle → Guarded step guard middle second) :
    Guarded step guard state (first ++ second) := by
  induction first generalizing state with
  | nil => exact later state rfl
  | cons label rest ih =>
      intro next stepped
      obtain ⟨met, tail⟩ := guarded next stepped
      exact ⟨met, ih tail fun middle ran =>
        later middle ((runSteps_cons_eq_some step).mpr ⟨next, stepped, ran⟩)⟩

/-- A guard that can be decided can be decided along a run. -/
instance Guarded.decidable (guard : Label → State → Prop)
    [∀ label state, Decidable (guard label state)] :
    (state : State) → (labels : List Label) → Decidable (Guarded step guard state labels)
  | _, [] => isTrue trivial
  | state, label :: rest =>
      match stepped : step label state with
      | none => isTrue (fun next taken => by simp [stepped] at taken)
      | some next =>
          have := Guarded.decidable guard next rest
          decidable_of_iff (guard label state ∧ Guarded step guard next rest)
            ⟨fun met other taken => by rw [stepped] at taken; obtain rfl := Option.some.inj taken; exact met,
              fun met => met next stepped⟩

theorem Always.start (always : Always step property state labels) : property state := by
  cases labels with
  | nil => exact always
  | cons label rest => exact always.1

/-- The last state of a run is one of the states that it visits. -/
theorem Always.final {final : State} (always : Always step property state labels)
    (ran : runSteps step state labels = some final) : property final := by
  induction labels generalizing state with
  | nil =>
      obtain rfl := Option.some.inj ran
      exact always
  | cons label rest ih =>
      obtain ⟨next, stepped, tail⟩ := (runSteps_cons_eq_some step).mp ran
      exact ih (always.2 next stepped) tail

theorem Always.imp {weaker : State → Prop} (implied : ∀ state, property state → weaker state)
    (always : Always step property state labels) : Always step weaker state labels := by
  induction labels generalizing state with
  | nil => exact implied state always
  | cons label rest ih =>
      exact ⟨implied state always.1, fun next stepped => ih (always.2 next stepped)⟩

/-- A property kept by every enabled step holds in all states of a run. -/
theorem always_of_kept
    (kept : ∀ label state next, property state → step label state = some next → property next)
    (start : property state) (labels : List Label) : Always step property state labels := by
  induction labels generalizing state with
  | nil => exact start
  | cons label rest ih =>
      exact ⟨start, fun next stepped => ih (kept label state next start stepped)⟩

/-- A guarded run keeps every property that a guarded step keeps. -/
theorem always_of_guarded
    (kept : ∀ label state next, property state → guard label state →
      step label state = some next → property next) (start : property state)
    (guarded : Guarded step guard state labels) : Always step property state labels := by
  induction labels generalizing state with
  | nil => exact start
  | cons label rest ih =>
      refine ⟨start, fun next stepped => ?_⟩
      obtain ⟨met, tail⟩ := guarded next stepped
      exact ih (kept label state next start met stepped) tail

/-- The steps of a guarded run have what the guard gives in the states of an invariant. -/
theorem guarded_of_always {outcome : Label → State → Prop}
    (implied : ∀ label state next, property state → guard label state →
      step label state = some next → outcome label state)
    (always : Always step property state labels) (guarded : Guarded step guard state labels) :
    Guarded step outcome state labels := by
  induction labels generalizing state with
  | nil => trivial
  | cons label rest ih =>
      intro next stepped
      obtain ⟨met, tail⟩ := guarded next stepped
      exact ⟨implied label state next always.1 met stepped, ih (always.2 next stepped) tail⟩

/-- Guards that agree on the valid labels in the states of an invariant agree on the runs. -/
theorem guarded_congr {other : Label → State → Prop}
    (kept : ∀ label state next, invariant state → step label state = some next → invariant next)
    (same : ∀ label state, valid label → invariant state →
      (guard label state ↔ other label state)) (start : invariant state)
    (allValid : ∀ label ∈ labels, valid label) :
    Guarded step guard state labels ↔ Guarded step other state labels := by
  induction labels generalizing state with
  | nil => exact Iff.rfl
  | cons label rest ih =>
      obtain ⟨labelValid, restValid⟩ := List.forall_mem_cons.mp allValid
      refine forall_congr' fun next => imp_congr_right fun stepped => ?_
      exact and_congr (same label state labelValid start)
        (ih (kept label state next start stepped) restValid)

/-- When the guard is exact for one step in the states of an invariant, and the steps that keep
the property keep the invariant, the guard is exact for every run. -/
theorem always_iff_guarded_of_invariant
    (exact_step : ∀ label state next, invariant state → property state →
      step label state = some next → (property next ↔ guard label state))
    (kept : ∀ label state next, invariant state → property state →
      step label state = some next → property next → invariant next) (sound : invariant state)
    (start : property state) :
    Always step property state labels ↔ Guarded step guard state labels := by
  induction labels generalizing state with
  | nil => exact iff_of_true start trivial
  | cons label rest ih =>
      constructor
      · rintro ⟨-, tail⟩ next stepped
        have after := (tail next stepped).start step
        exact ⟨(exact_step label state next sound start stepped).mp after,
          (ih (kept label state next sound start stepped after) after).mp (tail next stepped)⟩
      · intro guarded
        refine ⟨start, fun next stepped => ?_⟩
        obtain ⟨met, tail⟩ := guarded next stepped
        have after := (exact_step label state next sound start stepped).mpr met
        exact (ih (kept label state next sound start stepped after) after).mpr tail

/-- Under an assumption on the steps, a guard that keeps the invariant, and that no step with the
property after it escapes, is exact for every run. -/
theorem always_iff_guarded_of_assumed {assumed : Label → State → Prop}
    (implied : ∀ state, invariant state → property state)
    (kept : ∀ label state next, invariant state → assumed label state →
      step label state = some next → guard label state → invariant next)
    (needed : ∀ label state next, invariant state → assumed label state →
      step label state = some next → property next → guard label state) (start : invariant state)
    (given : Guarded step assumed state labels) :
    Always step property state labels ↔ Guarded step guard state labels := by
  induction labels generalizing state with
  | nil => exact iff_of_true (implied state start) trivial
  | cons label rest ih =>
      constructor
      · rintro ⟨-, tail⟩ next stepped
        obtain ⟨holds, later⟩ := given next stepped
        have met := needed label state next start holds stepped ((tail next stepped).start step)
        have sound := kept label state next start holds stepped met
        exact ⟨met, (ih sound later).mp (tail next stepped)⟩
      · intro guarded
        refine ⟨implied state start, fun next stepped => ?_⟩
        obtain ⟨holds, later⟩ := given next stepped
        obtain ⟨met, tail⟩ := guarded next stepped
        exact (ih (kept label state next start holds stepped met) later).mpr tail

/-- When the guard is exact for one step, it is exact for every run. -/
theorem always_iff_guarded
    (exact_step : ∀ label state next, property state → step label state = some next →
      (property next ↔ guard label state)) (start : property state) :
    Always step property state labels ↔ Guarded step guard state labels := by
  have exact_in_all : ∀ label state next, True → property state → step label state = some next →
      (property next ↔ guard label state) :=
    fun label state next _ before stepped => exact_step label state next before stepped
  exact always_iff_guarded_of_invariant step exact_in_all (fun _ _ _ _ _ _ _ => trivial) trivial
    start

end Memkind.Library
