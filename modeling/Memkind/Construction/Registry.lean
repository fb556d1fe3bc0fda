/-
This file embeds the kind registry of `memkind.c`: the creation of dynamic kinds, their
destruction, and the counters that the destruction resets.
-/

import Memkind.Construction.AllocSize

namespace Memkind

instance : NeZero numStaticKinds := ⟨by decide⟩

/-- A pointer to a `struct memkind` leads to an object of the library or to a heap block. -/
inductive KindPtr where
  | library (index : Fin numStaticKinds)
  | heap (address : Address)
  deriving DecidableEq

/-- The operation tables that `memkind_create` can see. -/
inductive OpsTable where
  | library
  | pmem
  | fixed
  deriving DecidableEq

/-- The entries of a table that `memkind_create` tests; `true` means not `NULL`. -/
structure OpsEntries where
  create : Bool
  destroy : Bool
  malloc : Bool
  calloc : Bool
  realloc : Bool
  posixMemalign : Bool
  free : Bool
  initOnce : Bool

/-- `MEMKIND_PMEM_OPS` and `MEMKIND_FIXED_OPS` have no `init_once`, every other table has one. -/
def OpsTable.entries : OpsTable → OpsEntries
  | .library => ⟨true, true, true, true, true, true, true, true⟩
  | .pmem => ⟨true, true, true, true, true, true, true, false⟩
  | .fixed => ⟨true, true, true, true, true, true, true, false⟩

/-- The test that ends in `MEMKIND_ERROR_BADOPS`. -/
def OpsEntries.bad (entries : OpsEntries) : Bool :=
  !entries.create || !entries.destroy || !entries.malloc || !entries.calloc ||
    !entries.realloc || !entries.posixMemalign || !entries.free || entries.initOnce

/-- The fields of `struct memkind` that the registry reads. The private data of a dynamic kind
is `released` once its `destroy` operation has run. -/
structure Kind where
  ops : OpsTable
  partition : Nat
  name : String
  released : Bool
  deriving DecidableEq

/-- A position of `partition_map`. -/
abbrev Slot := Fin maxKind

instance : NeZero maxKind := ⟨by decide⟩

/-- `memkind_registry_g`, the kinds whose memory is allocated, and the byte counters. -/
structure Registry where
  partitionMap : Slot → Option KindPtr
  numKind : Nat
  kinds : KindPtr → Option Kind
  counters : Counters

/-- The names of the static kinds in the order of the registry. -/
def staticNames : List String :=
  ["memkind_default", "memkind_hbw", "memkind_hbw_preferred", "memkind_hbw_hugetlb",
    "memkind_hbw_preferred_hugetlb", "memkind_hugetlb", "memkind_hbw_interleave",
    "memkind_interleave", "memkind_regular", "memkind_hbw_all", "memkind_hbw_all_hugetlb",
    "memkind_dax_kmem", "memkind_dax_kmem_all", "memkind_dax_kmem_preferred",
    "memkind_dax_kmem_interleave", "memkind_highest_capacity",
    "memkind_highest_capacity_preferred", "memkind_highest_capacity_local",
    "memkind_highest_capacity_local_preferred", "memkind_lowest_latency_local",
    "memkind_lowest_latency_local_preferred", "memkind_highest_bandwidth_local",
    "memkind_highest_bandwidth_local_preferred"]

/-- `memkind_construct` gives the static kind of slot `i` the partition `i`. -/
def staticKind (index : Fin numStaticKinds) : Kind where
  ops := .library
  partition := index.val
  name := staticNames.get (index.cast (by decide))
  released := false

/-- The registry after `memkind_construct`. -/
def Registry.initial : Registry where
  partitionMap slot := if static : slot.val < numStaticKinds then some (.library ⟨slot.val, static⟩)
    else none
  numKind := numStaticKinds
  kinds
    | .library index => some (staticKind index)
    | .heap _ => none
  counters := .zero

/-- What the search of `memkind_create` through the partition map finds. -/
inductive SlotSearch where
  | hole (slot : Slot)
  | nameInUse
  | allOccupied

/-- The loop over `partition_map` in `memkind_create`. It stops at the first `NULL` slot. A slot
that points to freed memory has no meaning and gives `none`. -/
def searchSlot (registry : Registry) (name : String) : List Slot → Option SlotSearch
  | [] => some .allOccupied
  | slot :: rest =>
      match registry.partitionMap slot with
      | none => some (.hole slot)
      | some pointer => (registry.kinds pointer).bind fun kind =>
          if name = kind.name then some .nameInUse else searchSlot registry name rest

/-- The outcomes of the calls that `memkind_create` makes. -/
structure CreateOutcome where
  /-- The block that `jemk_calloc` returns for the kind. -/
  kindBlock : Option Address
  /-- `jemk_malloc` returns a block for the private data. -/
  privBlock : Bool
  /-- `pthread_mutex_init` succeeds. -/
  mutexInit : Bool
  /-- The status of `memkind_arena_create_map`. -/
  arenaMap : Status

/-- The outcome when every call of `memkind_create` succeeds. -/
def grantedAt (address : Address) : CreateOutcome := ⟨some address, true, true, .success⟩

/-- `memkind_default_create` stores the name when it fits into the array. -/
def memkindDefaultCreate (name : String) : Status :=
  if nameLengthPriv ≤ name.utf8ByteSize then .errorInvalid else .success

/-- The common body of `memkind_pmem_create` and `memkind_fixed_create`. -/
def dynamicCreate (name : String) (outcome : CreateOutcome) : Status :=
  if !outcome.privBlock then .errorMalloc
  else if !outcome.mutexInit then .errorRuntime
  else if memkindDefaultCreate name ≠ .success then memkindDefaultCreate name
  else outcome.arenaMap

/-- `memkind_pmem_create` -/
def memkindPmemCreate := dynamicCreate

/-- `memkind_fixed_create` -/
def memkindFixedCreate := dynamicCreate

/-- The call of `ops->create`. -/
def OpsTable.create (ops : OpsTable) (name : String) (outcome : CreateOutcome) : Status :=
  match ops with
  | .library => memkindDefaultCreate name
  | .pmem => memkindPmemCreate name outcome
  | .fixed => memkindFixedCreate name outcome

/-- The part of `memkind_create` after its loop. The result is `none` when the allocator would
return a block that is still in use. -/
def createAt (ops : OpsTable) (name : String) (outcome : CreateOutcome) (idKind : Slot)
    (registry : Registry) : Option (Status × Option KindPtr × Registry) :=
  match outcome.kindBlock with
  | none => some (.errorMalloc, none, registry)
  | some address =>
      if (registry.kinds (.heap address)).isSome then none
      else if ops.create name outcome ≠ .success then
        -- The block is freed again, but `*kind` keeps its address.
        some (ops.create name outcome, some (.heap address), registry)
      else some (.success, some (.heap address),
        { registry with
          partitionMap := Function.update registry.partitionMap idKind (some (.heap address))
          numKind := registry.numKind + 1
          kinds := Function.update registry.kinds (.heap address)
            (some ⟨ops, registry.numKind, name, false⟩) })

/-- `memkind_create` returns its status, the value of `*kind` and the new registry. -/
def memkindCreate (ops : OpsTable) (name : String) (outcome : CreateOutcome)
    (registry : Registry) : Option (Status × Option KindPtr × Registry) :=
  if registry.numKind = maxKind then some (.errorTooMany, none, registry)
  else if ops.entries.bad then some (.errorBadOps, none, registry)
  else (searchSlot registry name (List.finRange maxKind)).bind fun search =>
    match search with
    | .nameInUse => some (.errorInvalid, none, registry)
    | .hole slot => createAt ops name outcome slot registry
    -- `id_kind` keeps its initial value.
    | .allOccupied => createAt ops name outcome ⟨0, by decide⟩ registry

/-- The loop of `memkind_destroy_kind`: the first slot whose kind has the given name. -/
def searchName (registry : Registry) (name : String) : List Slot → Option (Option Slot)
  | [] => some none
  | slot :: rest =>
      match registry.partitionMap slot with
      | none => searchName registry name rest
      | some pointer => (registry.kinds pointer).bind fun kind =>
          if name = kind.name then some (some slot) else searchName registry name rest

/-- The slots that the loop of `memkind_destroy_kind` visits. -/
def dynamicSlots : List Slot :=
  (List.finRange maxKind).filter fun slot => numStaticKinds ≤ slot.val

/-- `memkind_destroy_dynamic_kind_from_register` -/
def memkindDestroyDynamicKindFromRegister (slot : Slot) (pointer : KindPtr)
    (registry : Registry) : Registry :=
  if numStaticKinds ≤ slot.val then
    { registry with
      partitionMap := Function.update registry.partitionMap slot none
      numKind := registry.numKind - 1
      kinds := Function.update registry.kinds pointer none }
  else registry

/-- The call of `ops->destroy`. The dynamic kinds reset the counters of their partition and
release their private data; releasing it twice has no meaning. Only `memkind_fixed_destroy`
returns the status of `pthread_mutex_destroy`. -/
def OpsTable.destroy (pointer : KindPtr) (kind : Kind) (mutexDestroy : Status)
    (registry : Registry) : Option (Status × Registry) :=
  let released : Registry := { registry with
    counters := memtierResetSize registry.counters kind.partition
    kinds := Function.update registry.kinds pointer (some { kind with released := true }) }
  match kind.ops with
  | .library => some (.success, registry)
  | .pmem => if kind.released then none else some (.success, released)
  | .fixed => if kind.released then none else some (mutexDestroy, released)

/-- `memkind_destroy_kind` looks for the kind by its name. -/
def memkindDestroyKind (pointer : KindPtr) (mutexDestroy : Status) (registry : Registry) :
    Option (Status × Registry) :=
  (registry.kinds pointer).bind fun kind =>
    (OpsTable.destroy pointer kind mutexDestroy registry).bind fun (err, registry) =>
      (searchName registry kind.name dynamicSlots).map fun found =>
        match found with
        | none => (err, registry)
        | some slot => (err, memkindDestroyDynamicKindFromRegister slot pointer registry)

/-- The name that `memkind_create_fixed` prints with `fixed%p`. -/
def fixedName (addr : Address) : String :=
  "fixed" ++ if addr = 0 then "(nil)" else "0x" ++ String.ofList (Nat.toDigits 16 addr.toNat)

/-- The name that `memkind_create_pmem` prints with `pmem%08x`. -/
def pmemName (fd : BitVec 32) : String :=
  let digits := Nat.toDigits 16 fd.toNat
  "pmem" ++ String.ofList (List.replicate (8 - digits.length) '0' ++ digits)

/-- A kind is live from its creation until its `destroy` operation. -/
def Registry.Live (registry : Registry) (pointer : KindPtr) (kind : Kind) : Prop :=
  registry.kinds pointer = some kind ∧ kind.released = false

/-- The calls that change the registry. -/
inductive RegistryCall where
  | create (ops : OpsTable) (name : String) (outcome : CreateOutcome)
  | destroy (pointer : KindPtr) (mutexDestroy : Status)

/-- One call with any result. -/
def registryStep (call : RegistryCall) (registry : Registry) : Option Registry :=
  match call with
  | .create ops name outcome =>
      (memkindCreate ops name outcome registry).map fun result => result.2.2
  | .destroy pointer mutexDestroy =>
      (memkindDestroyKind pointer mutexDestroy registry).map fun result => result.2

end Memkind
