/-
This file says what the two searches of the partition map find.
-/

import Memkind.Proof.Registry.Steps

namespace Memkind

/-- The slot refers to an allocated kind with the name. -/
def Registry.NameAt (registry : Registry) (slot : Slot) (name : String) : Prop :=
  ∃ pointer kind, registry.partitionMap slot = some pointer ∧
    registry.kinds pointer = some kind ∧ kind.name = name

instance (registry : Registry) (slot : Slot) (name : String) :
    Decidable (registry.NameAt slot name) :=
  decidable_of_iff (((registry.partitionMap slot).bind registry.kinds).map Kind.name = some name) (by
    simp only [Registry.NameAt, Option.map_eq_some_iff, Option.bind_eq_some_iff]
    grind)

/-- A name is in use when a slot refers to a kind with it. -/
def Registry.NameInUse (registry : Registry) (name : String) : Prop :=
  ∃ slot, registry.NameAt slot name

instance (registry : Registry) (name : String) : Decidable (registry.NameInUse name) :=
  inferInstanceAs (Decidable (∃ _, _))

/-- The kinds of the partition map have pairwise distinct names. -/
def Registry.NamesDistinct (registry : Registry) : Prop :=
  ∀ first second name, registry.NameAt first name → registry.NameAt second name → first = second

/-- No slot refers to a freed kind. -/
def Registry.SlotsLive (registry : Registry) : Prop :=
  ∀ slot pointer, registry.partitionMap slot = some pointer → ∃ kind, registry.Live pointer kind

/-- The search of `memkind_create` in ascending slots whose kinds are all allocated. -/
theorem searchSlot_cases {registry : Registry} (live : registry.SlotsLive) (name : String)
    {slots : List Slot} (ascending : slots.Pairwise (· < ·)) :
    searchSlot registry name slots = some .nameInUse ∨
      (∃ hole ∈ slots, searchSlot registry name slots = some (.hole hole) ∧
        registry.partitionMap hole = none ∧
        ∀ slot ∈ slots, slot < hole → ¬registry.NameAt slot name) ∨
      (searchSlot registry name slots = some .allOccupied ∧
        ∀ slot ∈ slots, registry.partitionMap slot ≠ none) := by
  induction slots with
  | nil => exact Or.inr (Or.inr ⟨rfl, by simp⟩)
  | cons first rest ih =>
      obtain ⟨smallest, ascending⟩ := List.pairwise_cons.mp ascending
      cases found : registry.partitionMap first with
      | none =>
          refine Or.inr (Or.inl ⟨first, List.mem_cons_self, ?_, found, ?_⟩)
          · simp only [searchSlot, found]
          · intro slot member before
            rcases List.mem_cons.mp member with rfl | member
            · exact absurd before (lt_irrefl _)
            · exact absurd before (smallest slot member).le.not_gt
      | some pointer =>
          obtain ⟨kind, allocated, -⟩ := live first pointer found
          have unfolded : searchSlot registry name (first :: rest) =
              if name = kind.name then some .nameInUse else searchSlot registry name rest := by
            simp only [searchSlot, found, allocated, Option.bind_some]
          by_cases same : name = kind.name
          · exact Or.inl (by rw [unfolded, if_pos same])
          · rw [unfolded, if_neg same]
            have different : ¬registry.NameAt first name := by
              rintro ⟨other, otherKind, atFirst, otherAllocated, rfl⟩
              rw [found] at atFirst
              obtain rfl := Option.some.inj atFirst
              rw [allocated] at otherAllocated
              obtain rfl := Option.some.inj otherAllocated
              exact same rfl
            rcases ih ascending with used | ⟨hole, member, searched, empty, before⟩ |
              ⟨searched, full⟩
            · exact Or.inl used
            · refine Or.inr (Or.inl ⟨hole, List.mem_cons_of_mem first member, searched, empty, ?_⟩)
              intro slot slotMember earlier
              rcases List.mem_cons.mp slotMember with rfl | slotMember
              · exact different
              · exact before slot slotMember earlier
            · refine Or.inr (Or.inr ⟨searched, ?_⟩)
              intro slot slotMember
              rcases List.mem_cons.mp slotMember with rfl | slotMember
              · simp [found]
              · exact full slot slotMember

/-- The search of `memkind_destroy_kind` finds the only slot with the name. -/
theorem searchName_eq {registry : Registry} {name : String} {slots : List Slot} {slot : Slot}
    (allocated : ∀ other pointer, registry.partitionMap other = some pointer →
      (registry.kinds pointer).isSome)
    (member : slot ∈ slots) (named : registry.NameAt slot name)
    (unique : ∀ other, registry.NameAt other name → other = slot) :
    searchName registry name slots = some (some slot) := by
  induction slots with
  | nil => simp at member
  | cons first rest ih =>
      by_cases same : first = slot
      · obtain ⟨pointer, kind, found, kindFound, rfl⟩ := named
        simp only [searchName, same, found, kindFound, Option.bind_some, if_true]
      · have later : slot ∈ rest := (List.mem_cons.mp member).resolve_left (Ne.symm same)
        cases found : registry.partitionMap first with
        | none =>
            simp only [searchName, found]
            exact ih later
        | some pointer =>
            obtain ⟨kind, kindFound⟩ := Option.isSome_iff_exists.mp (allocated first pointer found)
            have different : name ≠ kind.name := by
              intro equal
              exact same (unique first ⟨pointer, kind, found, kindFound, equal.symm⟩)
            simp only [searchName, found, kindFound, Option.bind_some, if_neg different]
            exact ih later

/-- Releasing a kind keeps its name. -/
theorem Registry.releasedKind_nameAt_iff {registry : Registry} {pointer : KindPtr} {kind : Kind}
    (allocated : registry.kinds pointer = some kind) (slot : Slot) (name : String) :
    (registry.releasedKind pointer kind).NameAt slot name ↔ registry.NameAt slot name := by
  have names : ∀ other, ((registry.releasedKind pointer kind).kinds other).map Kind.name =
      (registry.kinds other).map Kind.name := by
    intro other
    by_cases same : other = pointer
    · subst same
      simp [releasedKind, allocated]
    · simp [releasedKind, same]
  constructor
  · rintro ⟨other, released, found, kindFound, rfl⟩
    have named := names other
    rw [kindFound] at named
    obtain ⟨before, beforeFound, equal⟩ := Option.map_eq_some_iff.mp named.symm
    exact ⟨other, before, found, beforeFound, equal⟩
  · rintro ⟨other, before, found, kindFound, rfl⟩
    have named := names other
    rw [kindFound] at named
    obtain ⟨after, afterFound, equal⟩ := Option.map_eq_some_iff.mp named
    exact ⟨other, after, found, afterFound, equal⟩

end Memkind
