/-
This file shows which pages of the process calls of `mmap` and `munmap` change: new pages hold zeros,
and no page changes that the calls do not touch.
-/

import Memkind.Construction.ExtentHooks
import Memkind.Proof.Arena.ExtentAlloc

namespace Memkind

open Library

section Pages

variable {page : PageSize} {memory : ProcessMemory}

/-- The mapped addresses of a process. -/
def ProcessMemory.mapped (memory : ProcessMemory) : Set Nat :=
  {address | memory.pages address ≠ none}

theorem ProcessMemory.remap_of_mem {start length address : Nat} {mapping : Nat → Option Backing}
    (inside : address ∈ Set.Ico start (start + length)) :
    (memory.remap start length mapping).pages address = mapping address :=
  if_pos inside

theorem ProcessMemory.remap_of_notMem {start length address : Nat} {mapping : Nat → Option Backing}
    (outside : address ∉ Set.Ico start (start + length)) :
    (memory.remap start length mapping).pages address = memory.pages address :=
  if_neg outside

/-- A call changes only the pages of its range, where it leaves zeros or nothing. -/
theorem ProcessMemory.applyEvent_pages (page : PageSize) (memory : ProcessMemory)
    (event : MapEvent) (address : Nat) :
    (memory.applyEvent page event).pages address = memory.pages address ∧
        address ∉ event.range page.size (2 ^ 64) ∨
      address ∈ event.range page.size (2 ^ 64) ∧
        ((memory.applyEvent page event).pages address = none ∨
          (memory.applyEvent page event).pages address = some (.anonymous 0)) := by
  cases event with
  | map start length =>
      by_cases inside : address ∈ Set.Ico start (start + roundUp page.size length)
      · exact Or.inr ⟨inside, Or.inr (remap_of_mem inside)⟩
      · exact Or.inl ⟨remap_of_notMem inside, inside⟩
  | unmap start length =>
      by_cases accepted : page.size ∣ start ∧ start + length < 2 ^ 64
      · rw [applyEvent, if_pos accepted, MapEvent.range, if_pos accepted]
        by_cases inside : address ∈ Set.Ico start (start + roundUp page.size length)
        · exact Or.inr ⟨inside, Or.inl (remap_of_mem inside)⟩
        · exact Or.inl ⟨remap_of_notMem inside, inside⟩
      · rw [applyEvent, if_neg accepted, MapEvent.range, if_neg accepted]
        exact Or.inl ⟨rfl, Set.notMem_empty _⟩

theorem ProcessMemory.applyEvent_mapped (event : MapEvent) :
    (memory.applyEvent page event).mapped = event.apply page.size (2 ^ 64) memory.mapped := by
  ext address
  show (memory.applyEvent page event).pages address ≠ none ↔ _
  cases event with
  | map start length =>
      by_cases inside : address ∈ Set.Ico start (start + roundUp page.size length)
      · rw [applyEvent, remap_of_mem inside]
        exact iff_of_true nofun (Or.inr inside)
      · rw [applyEvent, remap_of_notMem inside]
        exact (or_iff_left inside).symm
  | unmap start length =>
      by_cases accepted : page.size ∣ start ∧ start + length < 2 ^ 64
      · rw [applyEvent, if_pos accepted, MapEvent.apply, if_pos accepted]
        by_cases inside : address ∈ Set.Ico start (start + roundUp page.size length)
        · rw [remap_of_mem inside]
          exact iff_of_false (fun mapped => mapped rfl) fun member => member.2 inside
        · rw [remap_of_notMem inside]
          exact (and_iff_left inside).symm
      · rw [applyEvent, if_neg accepted, MapEvent.apply, if_neg accepted]
        exact Iff.rfl

theorem ProcessMemory.applyEvents_mapped (page : PageSize) (memory : ProcessMemory)
    (events : List MapEvent) :
    (memory.applyEvents page events).mapped = page.after events memory.mapped := by
  induction events generalizing memory with
  | nil => rfl
  | cons event rest ih =>
      show ((memory.applyEvent page event).applyEvents page rest).mapped = _
      rw [ih, applyEvent_mapped]
      rfl

theorem ProcessMemory.applyEvents_pages (page : PageSize) (memory : ProcessMemory)
    (events : List MapEvent) (address : Nat) :
    ((memory.applyEvents page events).pages address = memory.pages address ∧
        address ∉ page.touched events) ∨
      address ∈ page.touched events ∧
        ((memory.applyEvents page events).pages address = none ∨
          (memory.applyEvents page events).pages address = some (.anonymous 0)) := by
  induction events generalizing memory with
  | nil => exact Or.inl ⟨rfl, by rw [PageSize.touched, touched_nil]; exact Set.notMem_empty _⟩
  | cons event rest ih =>
      rw [PageSize.touched, touched_cons]
      have first := applyEvent_pages page memory event address
      have later := ih (memory.applyEvent page event)
      obtain ⟨same, outside⟩ | ⟨inside, zeros⟩ := later
      · obtain ⟨kept, apart⟩ | ⟨within, zeros⟩ := first
        · exact Or.inl ⟨same.trans kept, fun member => member.elim apart outside⟩
        · refine Or.inr ⟨Or.inl within, ?_⟩
          rw [← same] at zeros
          exact zeros
      · exact Or.inr ⟨Or.inr inside, zeros⟩

theorem ProcessMemory.applyEvents_content (events : List MapEvent) :
    (memory.applyEvents page events).content = memory.content := by
  induction events generalizing memory with
  | nil => rfl
  | cons event rest ih =>
      have first : (memory.applyEvent page event).content = memory.content := by
        cases event with
        | map start length => rfl
        | unmap start length =>
            rw [applyEvent]
            split <;> rfl
      exact ih.trans first

/-- Calls that add some pages, and touch no mapped page, leave zeros in these pages and change no
other page. -/
theorem ProcessMemory.applyEvents_grown {events : List MapEvent} {range : Set Nat}
    (apart : Disjoint (page.touched events) memory.mapped)
    (fresh : Disjoint range memory.mapped)
    (grown : page.after events memory.mapped = memory.mapped ∪ range) :
    (∀ address ∈ range, (memory.applyEvents page events).pages address = some (.anonymous 0)) ∧
      ∀ address ∉ range,
        (memory.applyEvents page events).pages address = memory.pages address := by
  have mapped := memory.applyEvents_mapped page events
  rw [grown] at mapped
  have mappedAt : ∀ address, (memory.applyEvents page events).pages address ≠ none ↔
      memory.pages address ≠ none ∨ address ∈ range := fun address =>
    Set.ext_iff.mp mapped address
  constructor
  · intro address inRange
    have present := (mappedAt address).mpr (Or.inr inRange)
    obtain ⟨same, -⟩ | ⟨-, absent | zero⟩ :=
      memory.applyEvents_pages page events address
    · rw [same] at present
      exact absurd present (Set.disjoint_left.mp fresh inRange)
    · exact absurd absent present
    · exact zero
  · intro address outside
    obtain ⟨same, -⟩ | ⟨touched, zeros⟩ := memory.applyEvents_pages page events address
    · exact same
    · have unmapped : memory.pages address = none :=
        not_not.mp (Set.disjoint_left.mp apart touched)
      have absent : (memory.applyEvents page events).pages address = none := by
        by_contra present
        exact ((mappedAt address).mp present).elim (fun mapped => mapped unmapped) outside
      rw [absent, unmapped]

end Pages

/-- A process without memory. -/
def emptyMemory : ProcessMemory := ⟨fun _ => none, fun _ _ => 0⟩

theorem emptyMemory_mapped : emptyMemory.mapped = ∅ :=
  Set.eq_empty_of_forall_notMem fun _ mapped => mapped rfl

end Memkind
