/-
This file decides when the creation of a pmem kind is complete or leaves nothing behind.
-/

import Memkind.Construction.PmemCreate
import Memkind.Proof.Pmem.Steps

namespace Memkind

open Library

/-- A block holds a string with its terminating zero byte. -/
def HoldsString (string : ByteString) (block : HeapBytes) : Prop :=
  (∀ offset byte, string.bytes[offset]? = some byte → block offset = byte) ∧
    block string.strlen = 0

/-- A pointer is in the registry and leads to a kind. -/
def Registry.Registers (registry : Registry) (pointer : KindPtr) : Prop :=
  (∃ slot, registry.partitionMap slot = some pointer) ∧ (registry.kinds pointer).isSome

/-- The kind is registered, its file is open, and it has a copy of the directory. -/
def PmemCreated.Complete (result : PmemCreated) (dir : ByteString) : Prop :=
  ∃ pointer data block, result.kind = some pointer ∧ result.registry.Registers pointer ∧
    result.data = some data ∧ (result.files.opened data.priv.fd).isSome ∧
    data.dir = some block ∧ HoldsString dir block

/-- A reported success comes with a complete kind. A reported failure comes with the registry and
the open descriptors from before. -/
structure PmemCreated.Atomic (result : PmemCreated) (dir : ByteString) (registry : Registry)
    (files : Files) : Prop where
  complete : result.status = .success → result.Complete dir
  undone : result.status ≠ .success →
    result.registry = registry ∧ result.files.opened = files.opened

/-- The descriptor that the creation gets for a directory. -/
def tmpfileFor (dir : ByteString) (mkstemp : Fd) : Fd := if pathMax < dir.strlen then -1 else mkstemp

/-- Once the kind is there, a block for its directory is granted, and the byte behind the copy is
already zero. -/
def dirTerminated (dir : ByteString) (maxSize : SizeT) (outcome : PmemDirOutcome)
    (registry : Registry) : Prop :=
  pmemKindMade maxSize (tmpfileFor dir outcome.mkstemp) outcome.create registry →
    ∃ previous, outcome.dirBlock = some previous ∧ previous dir.strlen = 0

/-- The copy of a string is terminated exactly when the byte behind it was zero. -/
theorem holdsString_memcpyString (string : ByteString) (block : HeapBytes) :
    HoldsString string (memcpyString string block) ↔ block string.strlen = 0 := by
  have behind : memcpyString string block string.strlen = block string.strlen := by
    rw [memcpyString, ByteString.strlen, List.getElem?_eq_none (le_refl _), Option.getD_none]
  rw [HoldsString, behind]
  constructor
  · exact And.right
  · intro terminated
    refine ⟨?_, terminated⟩
    intro offset byte found
    rw [memcpyString, found, Option.getD_some]

theorem Registry.stored_registers (registry : Registry) (ops : OpsTable) (name : String)
    (slot : Slot) (address : Address) :
    (registry.stored ops name slot address).Registers (.heap address) := by
  refine ⟨⟨slot, Function.update_self _ _ _⟩, ?_⟩
  change (Function.update registry.kinds _ _ _).isSome = true
  rw [Function.update_self]
  rfl

theorem Registry.stored_ne (registry : Registry) (ops : OpsTable) (name : String) (slot : Slot)
    (address : Address) : registry.stored ops name slot address ≠ registry := by
  intro same
  have count : registry.numKind + 1 = registry.numKind := congrArg Registry.numKind same
  omega

/-- `memkind_create_pmem` fails without a trace, or it registers a kind, which is complete when
the copy of its directory is terminated. -/
theorem memkindCreatePmemDir_cases {dir : ByteString} {maxSize : SizeT} {outcome : PmemDirOutcome}
    {registry : Registry} {files : Files} {result : PmemCreated}
    (called : memkindCreatePmemDir dir maxSize outcome registry files = some result) :
    (¬pmemKindMade maxSize (tmpfileFor dir outcome.mkstemp) outcome.create registry ∧
      result.status ≠ .success ∧ result.registry = registry ∧
      result.files.opened = files.opened) ∨
    (pmemKindMade maxSize (tmpfileFor dir outcome.mkstemp) outcome.create registry ∧
      result.status = .success ∧ result.registry ≠ registry ∧
      (result.Complete dir ↔
        ∃ previous, outcome.dirBlock = some previous ∧ previous dir.strlen = 0)) := by
  unfold memkindCreatePmemDir at called
  split at called
  · cases called
  · obtain ⟨⟨status, kind, priv, next, after⟩, created, rfl⟩ := Option.map_eq_some_iff.mp called
    obtain ⟨unmade, failed, -, same, closed⟩ |
      ⟨made, success, stored, ⟨address, slot, pointer, grown⟩, table, opened, kept⟩ :=
        memkindCreatePmem_cases created
    · exact Or.inl ⟨unmade, failed, same, closed⟩
    · subst grown stored pointer kept
      refine Or.inr ⟨made, success, registry.stored_ne _ _ _ _, ?_⟩
      constructor
      · rintro ⟨pointer, data, block, -, -, stored, -, copied, holds⟩
        cases Option.some.inj stored
        obtain ⟨previous, granted, rfl⟩ := Option.map_eq_some_iff.mp copied
        exact ⟨previous, granted, (holdsString_memcpyString dir previous).mp holds⟩
      · rintro ⟨previous, granted, terminated⟩
        refine ⟨.heap address, _, memcpyString dir previous, rfl,
          registry.stored_registers _ _ _ _, rfl, ?_, ?_,
          (holdsString_memcpyString dir previous).mpr terminated⟩
        · simp [granted, (Descriptors.opened_create opened).2]
        · rw [granted, Option.map_some]

/-- The creation of a pmem kind is complete or leaves nothing behind exactly when, once the kind
is there, its directory gets a block with a zero byte behind the copy. With a configuration the
usage policy has to be accepted too. -/
theorem memkindCreatePmem_atomic_iff (cfg : MemkindConfig) (outcome : PmemDirOutcome)
    (mallctl : Nat → Nat → Bool) (arenas : ArenaKind) (registry : Registry) (files : Files) :
    (∀ result, memkindCreatePmemDir cfg.pmemDir cfg.pmemSize outcome registry files =
        some result →
      (result.Atomic cfg.pmemDir registry files ↔
        dirTerminated cfg.pmemDir cfg.pmemSize outcome registry)) ∧
    ∀ result, memkindCreatePmemWithConfig cfg outcome mallctl arenas registry files =
        some result →
      (result.Atomic cfg.pmemDir registry files ↔
        dirTerminated cfg.pmemDir cfg.pmemSize outcome registry ∧
        (pmemKindMade cfg.pmemSize (tmpfileFor cfg.pmemDir outcome.mkstemp) outcome.create
            registry →
          memkindArenaUpdateMemoryUsagePolicy mallctl arenas cfg.policy = .success)) := by
  constructor
  · intro result called
    obtain ⟨unmade, failed, same, closed⟩ | ⟨made, success, -, complete⟩ :=
      memkindCreatePmemDir_cases called
    · refine iff_of_true ⟨fun success => absurd success failed, fun _ => ⟨same, closed⟩⟩ ?_
      intro made
      exact absurd made unmade
    · constructor
      · intro atomic _
        exact complete.mp (atomic.complete success)
      · intro terminated
        refine ⟨fun _ => complete.mpr (terminated made), ?_⟩
        intro failed
        exact absurd success failed
  · intro result called
    obtain ⟨created, creation, rfl⟩ := Option.map_eq_some_iff.mp called
    obtain ⟨unmade, failed, same, closed⟩ | ⟨made, success, changed, complete⟩ :=
      memkindCreatePmemDir_cases creation
    · rw [if_neg failed]
      refine iff_of_true ⟨fun success => absurd success failed, fun _ => ⟨same, closed⟩⟩ ?_
      exact ⟨fun made => absurd made unmade, fun made => absurd made unmade⟩
    · rw [if_pos success]
      constructor
      · intro atomic
        have updated : memkindArenaUpdateMemoryUsagePolicy mallctl arenas cfg.policy =
            .success := by
          -- A refused policy is reported, but the kind stays registered.
          by_contra refused
          exact changed (atomic.undone refused).1
        exact ⟨fun _ => complete.mp (atomic.complete updated), fun _ => updated⟩
      · rintro ⟨terminated, updated⟩
        refine ⟨fun _ => complete.mpr (terminated made), ?_⟩
        intro failed
        exact absurd (updated made) failed

/-- The directory `/tmp`. -/
def tmpDir : ByteString := ⟨[47, 116, 109, 112], by decide⟩

/-- A first creation in `/tmp` that gets everything up to the block for the directory. -/
def tmpCreation (dirBlock : Option HeapBytes) : Option PmemCreated :=
  memkindCreatePmemDir tmpDir 0 ⟨5, grantedAt 0x100, dirBlock⟩ Registry.initial
    (Descriptors.empty Fd)

theorem memkindCreatePmem_atomic_zeroed :
    ∃ result, tmpCreation (some fun _ => 0) = some result ∧ result.status = .success ∧
      result.Atomic tmpDir Registry.initial (Descriptors.empty Fd) := by
  have computed : (tmpCreation (some fun _ => 0)).map PmemCreated.status = some .success := by
    decide +kernel
  obtain ⟨result, created, success⟩ := Option.map_eq_some_iff.mp computed
  refine ⟨result, created, success, ?_⟩
  have atomic := memkindCreatePmem_atomic_iff ⟨tmpDir, 0, .default⟩
    ⟨5, grantedAt 0x100, some fun _ => 0⟩ (fun _ _ => true) ⟨.thread, 2, 16, 15⟩ Registry.initial
    (Descriptors.empty Fd)
  exact (atomic.1 result created).mpr fun _ => ⟨_, rfl, rfl⟩

/-- A success without a terminated directory is incomplete. -/
theorem tmpCreation_incomplete {dirBlock : Option HeapBytes} {result : PmemCreated}
    (created : tmpCreation dirBlock = some result) (success : result.status = .success)
    (unterminated : ∀ previous, dirBlock = some previous → previous tmpDir.strlen ≠ 0) :
    ¬result.Complete tmpDir := by
  obtain ⟨-, failed, -⟩ | ⟨-, -, -, complete⟩ := memkindCreatePmemDir_cases created
  · exact absurd success failed
  · intro completed
    obtain ⟨previous, granted, terminated⟩ := complete.mp completed
    exact unterminated previous granted terminated

/-- Without a block for the directory the creation reports success with a closed file. In a block
that was used before, the copy is not terminated. A policy that does not exist is reported, but
the kind stays. -/
theorem pmemCreated_partly :
    (∃ result, tmpCreation none = some result ∧ result.status = .success ∧
      result.files.opened 5 = none ∧
      ¬result.Atomic tmpDir Registry.initial (Descriptors.empty Fd)) ∧
    (∃ result, tmpCreation (some fun _ => 1) = some result ∧ result.status = .success ∧
      ¬result.Atomic tmpDir Registry.initial (Descriptors.empty Fd)) ∧
    ∃ result, memkindCreatePmemWithConfig ⟨tmpDir, 0, .unrecognized⟩
        ⟨5, grantedAt 0x100, some fun _ => 0⟩ (fun _ _ => true) ⟨.thread, 2, 16, 15⟩ Registry.initial
        (Descriptors.empty Fd) = some result ∧
      result.status = .errorInvalid ∧ result.registry.numKind = 1 + Registry.initial.numKind ∧
      ¬result.Atomic tmpDir Registry.initial (Descriptors.empty Fd) := by
  refine ⟨?_, ?_, ?_⟩
  · have computed : (tmpCreation none).map (fun result => (result.status, result.files.opened 5)) =
        some (.success, none) := by
      decide +kernel
    obtain ⟨result, created, observed⟩ := Option.map_eq_some_iff.mp computed
    obtain ⟨success, closed⟩ := Prod.mk.inj observed
    refine ⟨result, created, success, closed, ?_⟩
    intro atomic
    exact tmpCreation_incomplete created success nofun (atomic.complete success)
  · have computed : (tmpCreation (some fun _ => 1)).map PmemCreated.status = some .success := by
      decide +kernel
    obtain ⟨result, created, success⟩ := Option.map_eq_some_iff.mp computed
    refine ⟨result, created, success, ?_⟩
    intro atomic
    refine tmpCreation_incomplete created success ?_ (atomic.complete success)
    intro previous granted
    cases granted
    decide
  · have computed : (memkindCreatePmemWithConfig ⟨tmpDir, 0, .unrecognized⟩
        ⟨5, grantedAt 0x100, some fun _ => 0⟩ (fun _ _ => true) ⟨.thread, 2, 16, 15⟩ Registry.initial
        (Descriptors.empty Fd)).map (fun result => (result.status, result.registry.numKind)) =
          some (.errorInvalid, 1 + Registry.initial.numKind) := by
      decide +kernel
    obtain ⟨result, created, observed⟩ := Option.map_eq_some_iff.mp computed
    obtain ⟨failed, grown⟩ := Prod.mk.inj observed
    refine ⟨result, created, failed, grown, ?_⟩
    intro atomic
    have same : result.registry = Registry.initial := (atomic.undone (by rw [failed]; decide)).1
    rw [same] at grown
    omega

end Memkind
