/-
This file embeds how the arenas of jemalloc use the extent hooks of a kind: `extent.c` and `pac.c`
get extents from the hooks, split and merge them, keep them in caches, and remember which of them
hold only zeros. The records of jemalloc itself never run out of memory.
-/

import Memkind.Library.AddressSpace
import Memkind.Library.Run

namespace Memkind

open Library

/-- Bytes by their addresses. An address without memory has none. -/
structure ByteMemory (σ : Type) where
  read : σ → Nat → Option UInt8
  write : σ → Nat → UInt8 → σ

/-- `memset(start, 0, size)` -/
def ByteMemory.clear {σ : Type} (memory : ByteMemory σ) (start size : Nat) (state : σ) : σ :=
  (List.range size).foldl (fun state offset => memory.write state (start + offset) 0) state

/-- `extent_state_t` -/
inductive ExtentState where
  | active
  | dirty
  | muzzy
  | retained
  deriving DecidableEq

/-- `edata_t` -/
structure Edata where
  start : Nat
  size : Nat
  state : ExtentState
  zeroed : Bool
  committed : Bool
  deriving DecidableEq

/-- The first address behind an extent. -/
def Edata.past (extent : Edata) : Nat := extent.start + extent.size

/-- The part of an extent, unless it is empty. -/
def Edata.unlessEmpty (part : Edata) : List Edata := if part.size ≠ 0 then [part] else []

/-- What the hook `alloc` returns, with `*zero` and `*commit`. -/
structure ExtentGrant where
  addr : Nat
  zero : Bool
  commit : Bool
  deriving DecidableEq

/-- `extent_hooks_t` over the state of a kind, where the system calls of a hook have an outcome. A
hook that is no function of the state returns its error only. The tables have no `purge_forced`,
which counts as an error, and may have no `destroy`. -/
structure ExtentHooks (σ ω : Type) where
  alloc : (newAddr size alignment : Nat) → (zero commit : Bool) → ω → σ →
    Option (Option ExtentGrant × σ)
  dalloc : (addr size : Nat) → ω → σ → Option (Bool × σ)
  commit : (addr size offset length : Nat) → Bool
  decommit : (addr size offset length : Nat) → Bool
  purgeLazy : (addr size offset length : Nat) → ω → σ → Bool × σ
  split : (addr size sizeA sizeB : Nat) → Bool
  merge : (addrA sizeA addrB sizeB : Nat) → Bool
  destroy : Option ((addr size : Nat) → ω → σ → σ)

/-- An extent that an arena returns, with the request for it. It comes straight from the hook, or
it is a part of an extent that the arena has. -/
structure ReturnedExtent where
  extent : Edata
  alignment : Nat
  zero : Bool
  fromHook : Bool
  deriving DecidableEq

/-- An arena with its extents, over the state of its kind. It also has the result of the last
call. -/
structure ExtentArena (σ : Type) where
  state : σ
  extents : List Edata
  returned : Option ReturnedExtent

/-- The results of `extent_split_interior`. -/
inductive SplitResult where
  | cantAlloc
  | error (salvage : List Edata)
  | ok (extent : Edata) (rest : List Edata)

/-- The calls of jemalloc that involve the hooks, and a store of the user of an arena. -/
inductive ExtentCall (ω : Type) where
  | growRetained (allocSize size alignment : Nat) (zero : Bool) (outcome : ω)
  | allocWrapper (newAddr size alignment : Nat) (zero : Bool) (outcome : ω)
  | recycle (cached : Edata) (size alignment : Nat) (zero : Bool)
  | coalesce (first second : Edata)
  | cacheDalloc (extent : Edata)
  | shrink (extent : Edata) (size : Nat)
  | expand (extent trail : Edata) (outcome purge : ω)
  | purge (extent : Edata) (outcome : ω)
  | dallocWrapper (extent : Edata) (outcome purge : ω)
  | destroy (extent : Edata) (outcome : ω)
  | store (addr : Nat) (byte : UInt8)

section Calls

variable {σ ω : Type} (memory : ByteMemory σ) (hooks : ExtentHooks σ ω) (page : Nat)

/-- `ehooks_destroy` -/
def ExtentHooks.runDestroy (addr size : Nat) (outcome : ω) (state : σ) : σ :=
  match hooks.destroy with
  | none => state
  | some destroy => destroy addr size outcome state

/-- `extent_split_interior` splits the lead and the trail of an extent off, unless they are
empty. -/
def extentSplitInterior (extent : Edata) (size alignment : Nat) : SplitResult :=
  let leadSize := roundUp alignment extent.start - extent.start
  if extent.size < leadSize + size then .cantAlloc
  else
    let trailSize := extent.size - leadSize - size
    let lead := { extent with size := leadSize }
    let trail := { extent with start := extent.start + leadSize + size, size := trailSize }
    if leadSize ≠ 0 ∧ hooks.split extent.start extent.size leadSize (size + trailSize) then
      .error []
    else if trailSize ≠ 0 ∧
        hooks.split (extent.start + leadSize) (size + trailSize) size trailSize then
      .error lead.unlessEmpty
    else
      .ok { extent with start := extent.start + leadSize, size := size }
        (lead.unlessEmpty ++ trail.unlessEmpty)

/-- `extent_commit_zero` for an extent of a cache, which returns it with the parts beside it to the
cache when it cannot be committed. -/
def extentCommitZero (cache : ExtentState) (extent : Edata) (rest others : List Edata)
    (alignment : Nat) (zero : Bool) (state : σ) : ExtentArena σ :=
  if !extent.committed && hooks.commit extent.start extent.size 0 extent.size then
    ⟨state, { extent with state := cache } :: rest ++ others, none⟩
  else
    let active := { extent with state := .active, committed := true }
    ⟨if zero && !extent.zeroed then memory.clear extent.start extent.size state else state,
      active :: rest ++ others, some ⟨active, alignment, zero, false⟩⟩

/-- `extent_grow_retained`: the parts that are not wanted go to the cache of retained extents. -/
def extentGrowRetained (allocSize size alignment : Nat) (zero : Bool) (outcome : ω)
    (arena : ExtentArena σ) : Option (ExtentArena σ) :=
  (hooks.alloc 0 allocSize page false false outcome arena.state).bind fun (granted, state) =>
    match granted with
    | none => some ⟨state, arena.extents, none⟩
    | some grant =>
        match extentSplitInterior hooks ⟨grant.addr, allocSize, .retained, grant.zero, grant.commit⟩
            size alignment with
        | .cantAlloc => none
        | .error salvage => some ⟨state, salvage ++ arena.extents, none⟩
        | .ok extent rest =>
            some (extentCommitZero memory hooks .retained extent rest arena.extents alignment zero
              state)

/-- `extent_alloc_wrapper` -/
def extentAllocWrapper (newAddr size alignment : Nat) (zero : Bool) (outcome : ω)
    (arena : ExtentArena σ) : Option (ExtentArena σ) :=
  (hooks.alloc newAddr size alignment zero true outcome arena.state).map fun (granted, state) =>
    match granted with
    | none => ⟨state, arena.extents, none⟩
    | some grant =>
        let extent := ⟨grant.addr, size, .active, grant.zero, grant.commit⟩
        ⟨state, extent :: arena.extents, some ⟨extent, alignment, zero, true⟩⟩

/-- `extent_recycle` for the extent that it takes out of a cache. An extent that cannot be split is
lost. -/
def extentRecycle (cached : Edata) (size alignment : Nat) (zero : Bool) (arena : ExtentArena σ) :
    Option (ExtentArena σ) :=
  if cached ∈ arena.extents ∧ cached.state ≠ .active then
    let others := arena.extents.erase cached
    match extentSplitInterior hooks cached size alignment with
    | .cantAlloc => none
    | .error _ => some ⟨arena.state, others, none⟩
    | .ok extent rest =>
        some (extentCommitZero memory hooks cached.state extent rest others alignment zero
          arena.state)
  else none

/-- The extent of `extent_merge_impl`. -/
def Edata.merged (first second : Edata) : Edata :=
  { first with size := first.size + second.size, zeroed := first.zeroed && second.zeroed }

/-- `extent_coalesce` for two neighbours in one cache. -/
def extentCoalesce (first second : Edata) (arena : ExtentArena σ) : Option (ExtentArena σ) :=
  if first ∈ arena.extents ∧ second ∈ arena.extents.erase first ∧ first.state ≠ .active ∧
      first.state = second.state ∧ first.committed = second.committed ∧
      first.past = second.start then
    if hooks.merge first.start first.size second.start second.size then
      some { arena with returned := none }
    else
      some ⟨arena.state, first.merged second :: (arena.extents.erase first).erase second, none⟩
  else none

/-- `ecache_dalloc` of an extent that is no longer used. -/
def ecacheDalloc (extent : Edata) (arena : ExtentArena σ) : Option (ExtentArena σ) :=
  if extent ∈ arena.extents ∧ extent.state = .active then
    some ⟨arena.state,
      { extent with state := .dirty, zeroed := false } :: arena.extents.erase extent, none⟩
  else none

/-- `pac_shrink_impl` -/
def pacShrink (extent : Edata) (size : Nat) (arena : ExtentArena σ) : Option (ExtentArena σ) :=
  if extent ∈ arena.extents ∧ extent.state = .active ∧ size < extent.size then
    let trailSize := extent.size - size
    if hooks.split extent.start extent.size size trailSize then some { arena with returned := none }
    else
      let trail : Edata :=
        { extent with
          start := extent.start + size
          size := trailSize
          state := .dirty
          zeroed := false }
      some ⟨arena.state, { extent with size := size } :: trail :: arena.extents.erase extent, none⟩
  else none

/-- `extent_dalloc_wrapper`: an extent that the hook does not take is retained. -/
def extentDallocWrapper (extent : Edata) (outcome purge : ω) (arena : ExtentArena σ) :
    Option (ExtentArena σ) :=
  if extent ∈ arena.extents ∧ extent.state ≠ .retained then
    let others := arena.extents.erase extent
    (hooks.dalloc extent.start extent.size outcome arena.state).map fun (failed, state) =>
      if !failed then ⟨state, others, none⟩
      else if !extent.committed then
        ⟨state, { extent with state := .retained, zeroed := true } :: others, none⟩
      else if !hooks.decommit extent.start extent.size 0 extent.size then
        ⟨state, { extent with state := .retained, zeroed := true, committed := false } :: others,
          none⟩
      else
        ⟨if extent.state = .muzzy then state
          else (hooks.purgeLazy extent.start extent.size 0 extent.size purge state).2,
          { extent with state := .retained, zeroed := false } :: others, none⟩
  else none

/-- The end of `pac_expand_impl`, which has taken the extent behind another one. -/
def pacExpand (extent trail : Edata) (outcome purge : ω) (arena : ExtentArena σ) :
    Option (ExtentArena σ) :=
  if extent ∈ arena.extents ∧ trail ∈ arena.extents.erase extent ∧ extent.state = .active ∧
      trail.state = .active ∧ extent.past = trail.start then
    if hooks.merge extent.start extent.size trail.start trail.size then
      extentDallocWrapper hooks trail outcome purge arena
    else
      some ⟨arena.state, extent.merged trail :: (arena.extents.erase extent).erase trail, none⟩
  else none

/-- The part of `pac_decay_stashed` that makes a dirty extent muzzy. -/
def pacPurge (extent : Edata) (outcome : ω) (arena : ExtentArena σ) : Option (ExtentArena σ) :=
  if extent ∈ arena.extents ∧ extent.state = .dirty then
    let (failed, state) := hooks.purgeLazy extent.start extent.size 0 extent.size outcome arena.state
    if failed then some ⟨state, arena.extents, none⟩
    else
      some ⟨state,
        { extent with state := .muzzy, zeroed := false } :: arena.extents.erase extent, none⟩
  else none

/-- `extent_destroy_wrapper` for an extent that `pac_destroy` takes. -/
def extentDestroyWrapper (extent : Edata) (outcome : ω) (arena : ExtentArena σ) :
    Option (ExtentArena σ) :=
  if extent ∈ arena.extents ∧ extent.state = .retained then
    some ⟨hooks.runDestroy extent.start extent.size outcome arena.state,
      arena.extents.erase extent, none⟩
  else none

/-- A store of the user to an extent in use. -/
def userStore (addr : Nat) (byte : UInt8) (arena : ExtentArena σ) : Option (ExtentArena σ) :=
  if ∃ extent ∈ arena.extents, extent.state = .active ∧ extent.start ≤ addr ∧
      addr < extent.past then
    some ⟨memory.write arena.state addr byte, arena.extents, none⟩
  else none

/-- One call. -/
def extentStep (call : ExtentCall ω) (arena : ExtentArena σ) : Option (ExtentArena σ) :=
  match call with
  | .growRetained allocSize size alignment zero outcome =>
      extentGrowRetained memory hooks page allocSize size alignment zero outcome arena
  | .allocWrapper newAddr size alignment zero outcome =>
      extentAllocWrapper hooks newAddr size alignment zero outcome arena
  | .recycle cached size alignment zero =>
      extentRecycle memory hooks cached size alignment zero arena
  | .coalesce first second => extentCoalesce hooks first second arena
  | .cacheDalloc extent => ecacheDalloc extent arena
  | .shrink extent size => pacShrink hooks extent size arena
  | .expand extent trail outcome purge => pacExpand hooks extent trail outcome purge arena
  | .purge extent outcome => pacPurge hooks extent outcome arena
  | .dallocWrapper extent outcome purge => extentDallocWrapper hooks extent outcome purge arena
  | .destroy extent outcome => extentDestroyWrapper hooks extent outcome arena
  | .store addr byte => userStore memory addr byte arena

end Calls

end Memkind
