/-
This file embeds the life of a process that uses kinds: the initialization of static kinds, the
creation and the destruction of dynamic kinds, and `memkind_finalize` at its end.
-/

import Memkind.Construction.HeapManager

namespace Memkind

/-- The registry, the arenas, the static kinds whose table `tbb_initialize` has filled, and how often
the library of TBB is loaded. -/
structure Process where
  registry : Registry
  arena : ArenaState
  pools : Fin numStaticKinds → Bool
  references : Nat

/-- A kind before its arenas are created. -/
def ArenaKind.blank (getArena : GetArena) : ArenaKind := ⟨getArena, 0, 0, 0⟩

/-- The process after `memkind_construct`. Other parts of the program may have loaded the library of
TBB as well. -/
def Process.initial (manager : HeapManager) (getArena : KindPtr → GetArena) (others : Nat) :
    Process where
  registry := .initial
  arena := ⟨⟨⟨autoArenas + 1, []⟩, fun _ => false⟩, fun _ => none,
    fun pointer => .blank (getArena pointer)⟩
  pools _ := false
  -- `load_tbb_symbols` calls `dlopen` once.
  references := if manager = .tbb then others + 1 else others

section Calls

variable (len : Nat)

/-- The arenas of a kind are created, `len` of them. -/
def Process.createMap (settings : ArenaSettings) (metadataUseHooks : Bool)
    (arenas : Nat → ArenaOutcome) (pointer : KindPtr) (process : Process) : Option Process :=
  match memkindArenaCreateMap settings .success metadataUseHooks arenas pointer process.arena with
  | some (.success, _, arena) =>
      if (arena.kinds pointer).arenaMapLen = len then some { process with arena } else none
  | _ => none

/-- The memory of a new kind is zeroed, and `get_arena` of both dynamic tables is
`memkind_thread_get_arena`. -/
def Process.blankKind (pointer : KindPtr) (process : Process) : Process :=
  { process with
    arena := { process.arena with
      kinds := Function.update process.arena.kinds pointer (.blank .thread) } }

/-- `memkind_create`. The creation of the arenas is its last call, and it succeeds. -/
def Process.create (ops : OpsTable) (name : String) (outcome : CreateOutcome)
    (settings : ArenaSettings) (arenas : Nat → ArenaOutcome) (process : Process) :
    Option Process :=
  match memkindCreate ops name { outcome with arenaMap := .success } process.registry with
  | some (.success, some pointer, registry) =>
      (process.blankKind pointer).createMap len settings false arenas pointer |>.map
        fun process => { process with registry }
  | some (_, _, registry) => some { process with registry }
  | none => none

/-- `memkind_destroy_kind` of a dynamic kind. -/
def Process.destroyKind (address : Address) (mutexDestroy : Status) (process : Process) :
    Option Process :=
  (memkindArenaDestroy (.heap address) process.arena).bind fun arena =>
    (memkindDestroyKind (.heap address) mutexDestroy process.registry).map fun (_, registry) =>
      { process with registry, arena }

/-- A static kind has been initialized when it has arenas or a pool. -/
def Process.initialized (process : Process) (index : Fin numStaticKinds) : Bool :=
  process.pools index || (process.arena.kinds (.library index)).arenaMapLen ≠ 0

/-- `heap_manager_init`, which `pthread_once` runs at most once for a static kind. The default kind
gets no arenas. -/
def Process.init (manager : HeapManager) (index : Fin numStaticKinds) (settings : ArenaSettings)
    (arenas : Nat → ArenaOutcome) (process : Process) : Option Process :=
  if process.initialized index then none
  else
    match manager with
    | .arena =>
        if KindPtr.library index = memkindDefault then some process
        else process.createMap len settings true arenas (.library index)
    | .tbb => some { process with pools := Function.update process.pools index true }

end Calls

/-- What the calls of `memkind_finalize` return for the kind of a slot: the destruction of its lock,
and whether TBB can destroy its pool. -/
structure FinalizeOutcome where
  mutexDestroy : Status
  poolDestroy : Bool

/-- The result of an operation `finalize`: a status that a kind without a pool returns, or
`MEMKIND_ERROR_OPERATION_FAILED`. -/
inductive FinalizeStatus where
  | status (err : Status)
  | operationFailed
  deriving DecidableEq

/-- `MEMKIND_SUCCESS` -/
abbrev FinalizeStatus.success : FinalizeStatus := .status .success

/-- `tbb_destroy` calls a function of the library and closes the library. The function cannot be
called when the library is not loaded. -/
def tbbDestroy (index : Fin numStaticKinds) (poolDestroy : Bool) (process : Process) :
    Option (FinalizeStatus × Process) :=
  if process.references = 0 then none
  else
    let closed := { process with
      references := process.references - 1
      pools := Function.update process.pools index false }
    some (if poolDestroy then .success else .operationFailed, closed)

/-- The operation `finalize` of a kind: `memkind_default_destroy` for the default kind,
`memkind_arena_finalize` for the other static kinds, and `destroy` for the dynamic kinds. The masks
of nodes that some static kinds free before it are left out. -/
def finalizeArenas (pointer : KindPtr) (kind : Kind) (mutexDestroy : Status) (process : Process) :
    Option (FinalizeStatus × Process) :=
  if pointer = memkindDefault then some (.success, process)
  else
    (memkindArenaDestroy pointer process.arena).bind fun arena =>
      (OpsTable.destroy pointer kind mutexDestroy process.registry).map fun (status, registry) =>
        (.status status, { process with registry, arena })

/-- The call of `ops->finalize`. -/
def finalizeKind (pointer : KindPtr) (kind : Kind) (outcome : FinalizeOutcome)
    (process : Process) : Option (FinalizeStatus × Process) :=
  match pointer with
  | .library index =>
      if process.pools index then tbbDestroy index outcome.poolDestroy process
      else finalizeArenas pointer kind outcome.mutexDestroy process
  | .heap _ => finalizeArenas pointer kind outcome.mutexDestroy process

/-- The loop of `memkind_finalize`. -/
def finalizeSlots (outcome : Slot → FinalizeOutcome) :
    List Slot → Process → Option (FinalizeStatus × Process)
  | [], process => some (.success, process)
  | slot :: rest, process =>
      match process.registry.partitionMap slot with
      | none => finalizeSlots outcome rest process
      | some pointer =>
          (process.registry.kinds pointer).bind fun kind =>
            (finalizeKind pointer kind (outcome slot) process).bind fun (err, process) =>
              if err ≠ .success then some (err, process)
              else finalizeSlots outcome rest { process with
                registry := memkindDestroyDynamicKindFromRegister slot pointer process.registry }

/-- `memkind_finalize` -/
def memkindFinalize (outcome : Slot → FinalizeOutcome) (process : Process) :
    Option (FinalizeStatus × Process) :=
  finalizeSlots outcome (List.finRange maxKind) process

/-- The calls before the end of a process. -/
inductive ProcessCall where
  | create (ops : OpsTable) (name : String) (outcome : CreateOutcome) (settings : ArenaSettings)
      (arenas : Nat → ArenaOutcome)
  | destroy (address : Address) (mutexDestroy : Status)
  | init (index : Fin numStaticKinds) (settings : ArenaSettings) (arenas : Nat → ArenaOutcome)

def processStep (manager : HeapManager) (len : Nat) (call : ProcessCall) (process : Process) :
    Option Process :=
  match call with
  | .create .library _ _ _ _ => none
  | .create ops name outcome settings arenas =>
      process.create len ops name outcome settings arenas
  | .destroy address mutexDestroy => process.destroyKind address mutexDestroy
  | .init index settings arenas => process.init len manager index settings arenas

end Memkind
