/-
This file adds caches to a heap: a block that no caller holds can wait in a cache for a later
request.
-/

import Memkind.Library.BlockHeap

namespace Memkind.Library

namespace BlockHeap

variable {Tag : Type*}

/-- The heap with another note about the block at an address. -/
def retag (heap : BlockHeap Tag) (ptr : BitVec 64) (tag : Tag) : BlockHeap Tag where
  live := heap.live.map fun block => if block.ptr = ptr then { block with tag } else block
  distinct := by
    rw [List.map_map]
    convert heap.distinct using 2
    funext block
    simp only [Function.comp_apply]
    split <;> rfl
  nonNull := by
    intro block member
    obtain ⟨old, oldMember, rfl⟩ := List.mem_map.mp member
    have nonNull := heap.nonNull old oldMember
    split <;> exact nonNull
  nonempty := by
    intro block member
    obtain ⟨old, oldMember, rfl⟩ := List.mem_map.mp member
    have nonempty := heap.nonempty old oldMember
    split <;> exact nonempty
  fits := by
    rw [List.map_map]
    convert heap.fits using 3
    funext block
    simp only [Function.comp_apply]
    split <;> rfl

/-- The heap with the blocks that meet a test. -/
def keep (heap : BlockHeap Tag) (test : HeapBlock Tag → Bool) : BlockHeap Tag where
  live := heap.live.filter test
  distinct := (List.filter_sublist.map HeapBlock.ptr).nodup heap.distinct
  nonNull block member := heap.nonNull block (List.mem_of_mem_filter member)
  nonempty block member := heap.nonempty block (List.mem_of_mem_filter member)
  fits := lt_of_le_of_lt
    ((List.filter_sublist.map fun block : HeapBlock Tag => block.usable.toNat).sum_le_sum
      fun _ _ => Nat.zero_le _)
    heap.fits

theorem find_eq_some_iff {heap : BlockHeap Tag} {ptr : BitVec 64} {block : HeapBlock Tag} :
    heap.find ptr = some block ↔ block ∈ heap.live ∧ block.ptr = ptr := by
  constructor
  · exact find_eq_some
  · rintro ⟨member, rfl⟩
    exact heap.find_of_mem member

theorem find_eq_none_iff {heap : BlockHeap Tag} {ptr : BitVec 64} :
    heap.find ptr = none ↔ ptr ∉ heap.live.map HeapBlock.ptr := by
  simp [find]

/-- No block lies at `NULL`. -/
@[simp] theorem find_zero (heap : BlockHeap Tag) : heap.find 0 = none := by
  rw [find_eq_none_iff, List.mem_map]
  rintro ⟨block, member, null⟩
  exact heap.nonNull block member null

theorem find_place {heap next : BlockHeap Tag} {block : HeapBlock Tag}
    (placed : heap.place block = some next) :
    heap.find block.ptr = none ∧ next.find = Function.update heap.find block.ptr (some block) := by
  obtain ⟨live, fresh, -⟩ := place_eq_some placed
  refine ⟨find_eq_none_iff.mpr fresh, ?_⟩
  funext ptr
  by_cases same : block.ptr = ptr
  · subst same
    rw [Function.update_self, find_eq_some_iff, live]
    exact ⟨List.mem_cons_self, rfl⟩
  · rw [Function.update_of_ne (Ne.symm same), find, live, List.find?_cons_of_neg (by simpa using same)]
    rfl

theorem find_erase [DecidableEq Tag] {heap : BlockHeap Tag} {block : HeapBlock Tag}
    (member : block ∈ heap.live) :
    (heap.erase block).find = Function.update heap.find block.ptr none := by
  funext ptr
  by_cases same : ptr = block.ptr
  · subst same
    rw [Function.update_self, find_eq_none_iff, List.mem_map]
    rintro ⟨other, stays, equal⟩
    exact ((mem_erase_iff member).mp stays).2 equal
  · rw [Function.update_of_ne same]
    apply Option.ext
    intro other
    rw [find_eq_some_iff, find_eq_some_iff, mem_erase_iff member]
    constructor
    · rintro ⟨⟨stays, -⟩, equal⟩
      exact ⟨stays, equal⟩
    · rintro ⟨stays, rfl⟩
      exact ⟨⟨stays, same⟩, rfl⟩

theorem find_retag {heap : BlockHeap Tag} {block : HeapBlock Tag} (member : block ∈ heap.live)
    (tag : Tag) :
    (heap.retag block.ptr tag).find =
      Function.update heap.find block.ptr (some { block with tag }) := by
  funext ptr
  by_cases same : ptr = block.ptr
  · subst same
    rw [Function.update_self, find_eq_some_iff]
    exact ⟨List.mem_map.mpr ⟨block, member, if_pos rfl⟩, rfl⟩
  · rw [Function.update_of_ne same]
    apply Option.ext
    intro other
    rw [find_eq_some_iff, find_eq_some_iff]
    constructor
    · rintro ⟨moved, rfl⟩
      obtain ⟨old, oldMember, rfl⟩ := List.mem_map.mp moved
      have away : old.ptr ≠ block.ptr := by
        intro equal
        rw [if_pos equal] at same
        exact same equal
      rw [if_neg away]
      exact ⟨oldMember, rfl⟩
    · rintro ⟨stays, rfl⟩
      exact ⟨List.mem_map.mpr ⟨other, stays, if_neg same⟩, rfl⟩

theorem find_keep (heap : BlockHeap Tag) (test : HeapBlock Tag → Bool) (ptr : BitVec 64) :
    (heap.keep test).find ptr = (heap.find ptr).filter test := by
  apply Option.ext
  intro block
  rw [find_eq_some_iff, Option.filter_eq_some_iff, find_eq_some_iff]
  constructor
  · rintro ⟨member, same⟩
    obtain ⟨old, met⟩ := List.mem_filter.mp member
    exact ⟨⟨old, same⟩, met⟩
  · rintro ⟨⟨old, same⟩, met⟩
    exact ⟨List.mem_filter.mpr ⟨old, met⟩, same⟩

end BlockHeap

/-- Where a block comes from, and the cache in which it waits while no caller holds it. -/
structure Placed (Home Cache : Type*) where
  home : Home
  cache : Option Cache
  deriving DecidableEq

/-- A heap of blocks that callers hold or that wait in caches. -/
abbrev CachedHeap (Home Cache : Type*) := BlockHeap (Placed Home Cache)

/-- How a request is met: not at all, from the cache, or with a new block while further new blocks
fill the cache. -/
inductive Supply where
  | refused
  | cached (ptr : BitVec 64)
  | fresh (ptr usable : BitVec 64) (others : List (BitVec 64 × BitVec 64))

/-- Whether a block that comes back goes into the cache, and what leaves the cache before. -/
structure Restock where
  cached : Bool
  drained : List (BitVec 64)

/-- A block that needs another size gets it where it lies, or another block takes its place. -/
inductive Relocation where
  | inPlace (usable : BitVec 64)
  | moved (supply : Supply) (restock : Restock)

namespace CachedHeap

section Operations

variable {Home Cache : Type*} [DecidableEq Home] [DecidableEq Cache]

/-- The block that a caller holds at an address. -/
def held (heap : CachedHeap Home Cache) (ptr : BitVec 64) :
    Option (HeapBlock (Placed Home Cache)) :=
  (heap.find ptr).filter fun block => block.tag.cache.isNone

/-- The block that waits at an address in a cache. -/
def waiting (heap : CachedHeap Home Cache) (cache : Cache) (ptr : BitVec 64) :
    Option (HeapBlock (Placed Home Cache)) :=
  (heap.find ptr).filter fun block => block.tag.cache = some cache

/-- A caller gets a block that has left its home. -/
def give (home : Home) (ptr usable : BitVec 64) (heap : CachedHeap Home Cache) :
    Option (CachedHeap Home Cache) :=
  heap.place ⟨ptr, usable, ⟨home, none⟩⟩

/-- A caller gets a block that waits in a cache. -/
def acquire (cache : Cache) (ptr : BitVec 64) (heap : CachedHeap Home Cache) :
    Option (CachedHeap Home Cache) :=
  (heap.waiting cache ptr).map fun block => heap.retag block.ptr ⟨block.tag.home, none⟩

/-- The block of a caller goes into a cache. -/
def store (cache : Cache) (ptr : BitVec 64) (heap : CachedHeap Home Cache) :
    Option (CachedHeap Home Cache) :=
  (heap.held ptr).map fun block => heap.retag block.ptr ⟨block.tag.home, some cache⟩

/-- The block of a caller goes back to its home. -/
def discard (ptr : BitVec 64) (heap : CachedHeap Home Cache) : Option (CachedHeap Home Cache) :=
  (heap.held ptr).map heap.erase

/-- The block of a caller gets another size where it lies. -/
def resize (ptr usable : BitVec 64) (heap : CachedHeap Home Cache) :
    Option (CachedHeap Home Cache) :=
  (heap.held ptr).bind fun block => (heap.erase block).place { block with usable }

/-- A cache takes blocks from a home. -/
def stock (home : Home) (cache : Cache) :
    List (BitVec 64 × BitVec 64) → CachedHeap Home Cache → Option (CachedHeap Home Cache)
  | [], heap => some heap
  | (ptr, usable) :: rest, heap =>
      (heap.place ⟨ptr, usable, ⟨home, some cache⟩⟩).bind (stock home cache rest)

/-- A cache gives some of its blocks back to their homes. -/
def drain (cache : Cache) :
    List (BitVec 64) → CachedHeap Home Cache → Option (CachedHeap Home Cache)
  | [], heap => some heap
  | ptr :: rest, heap =>
      (heap.waiting cache ptr).bind fun block => drain cache rest (heap.erase block)

/-- A cache gives all its blocks back to their homes. -/
def flush (cache : Cache) (heap : CachedHeap Home Cache) : CachedHeap Home Cache :=
  heap.keep fun block => block.tag.cache ≠ some cache

/-- The blocks that callers hold from some homes are gone. What waits in a cache stays there. -/
def abandon (gone : Home → Bool) (heap : CachedHeap Home Cache) : CachedHeap Home Cache :=
  heap.keep fun block => block.tag.cache.isSome || !gone block.tag.home

/-- A request for a block of a home through a cache, which returns an address or `NULL`. -/
def request (home : Home) (cache : Option Cache) (size : BitVec 64) :
    Supply → CachedHeap Home Cache → Option (BitVec 64 × CachedHeap Home Cache)
  | .refused, heap => some (0, heap)
  | .cached ptr, heap =>
      cache.bind fun cache =>
        (heap.waiting cache ptr).bind fun block =>
          if size ≤ block.usable then (heap.acquire cache ptr).map (ptr, ·) else none
  | .fresh ptr usable others, heap =>
      if size ≤ usable then
        (heap.give home ptr usable).bind fun heap =>
          match cache with
          | none => if others.isEmpty then some (ptr, heap) else none
          | some cache => (heap.stock home cache others).map (ptr, ·)
      else none

/-- A block comes back through a cache. -/
def release (cache : Option Cache) (ptr : BitVec 64) (restock : Restock)
    (heap : CachedHeap Home Cache) : Option (CachedHeap Home Cache) :=
  match cache with
  | none => heap.discard ptr
  | some cache => (heap.drain cache restock.drained).bind fun heap =>
      if restock.cached then heap.store cache ptr else heap.discard ptr

/-- A request to change the size of a block through a cache. -/
def reallocate (home : Home) (cache : Option Cache) (ptr size : BitVec 64) :
    Relocation → CachedHeap Home Cache → Option (BitVec 64 × CachedHeap Home Cache)
  | .inPlace usable, heap =>
      if size ≤ usable then (heap.resize ptr usable).map (ptr, ·) else none
  | .moved supply restock, heap =>
      (heap.held ptr).bind fun _ =>
        (heap.request home cache size supply).bind fun (new, heap) =>
          if new = 0 then some (0, heap) else (heap.release cache ptr restock).map (new, ·)

end Operations

variable {Home Cache : Type*} {heap middle next : CachedHeap Home Cache} {home : Home}
  {cache other : Cache} {ptr size usable : BitVec 64} {block : HeapBlock (Placed Home Cache)}
  {value : Option (HeapBlock (Placed Home Cache))}

theorem held_eq_some :
    heap.held ptr = some block ↔ heap.find ptr = some block ∧ block.tag.cache = none := by
  rw [held, Option.filter_eq_some_iff, Option.isNone_iff_eq_none]

@[simp] theorem held_zero (heap : CachedHeap Home Cache) : heap.held 0 = none := by
  rw [held, BlockHeap.find_zero, Option.filter_none]

theorem held_of_find_none (absent : heap.find ptr = none) : heap.held ptr = none := by
  rw [held, absent, Option.filter_none]

variable [DecidableEq Cache]

theorem waiting_eq_some :
    heap.waiting cache ptr = some block ↔
      heap.find ptr = some block ∧ block.tag.cache = some cache := by
  rw [waiting, Option.filter_eq_some_iff, decide_eq_true_iff]

theorem waiting_of_find_none (absent : heap.find ptr = none) : heap.waiting cache ptr = none := by
  rw [waiting, absent, Option.filter_none]

/-- A block that a caller holds waits in no cache. -/
theorem waiting_of_held (holds : heap.held ptr = some block) : heap.waiting cache ptr = none := by
  obtain ⟨found, free⟩ := held_eq_some.mp holds
  simp [waiting, found, free]

/-- A block that waits in a cache is held by no caller and waits in no other cache. -/
theorem of_waiting (waits : heap.waiting cache ptr = some block) :
    heap.held ptr = none ∧ ∀ other, cache ≠ other → heap.waiting other ptr = none := by
  obtain ⟨found, inCache⟩ := waiting_eq_some.mp waits
  constructor
  · simp [held, found, inCache]
  · intro other different
    simp [waiting, found, inCache, different]

/-- The block at one address has changed. -/
theorem views_update (changed : next.find = Function.update heap.find ptr value) :
    next.held = Function.update heap.held ptr (value.filter fun block => block.tag.cache.isNone) ∧
      ∀ cache, next.waiting cache = Function.update (heap.waiting cache) ptr
        (value.filter fun block => block.tag.cache = some cache) := by
  constructor
  · funext address
    by_cases same : address = ptr
    · subst same
      simp [held, changed]
    · simp [held, changed, same]
  · intro cache
    funext address
    by_cases same : address = ptr
    · subst same
      simp [waiting, changed]
    · simp [waiting, changed, same]

/-- The caches other than one are as before, and what is new in that one has a property. -/
structure Changes (cache : Option Cache) (added : Home → Prop)
    (heap next : CachedHeap Home Cache) : Prop where
  others : ∀ other, cache ≠ some other → next.waiting other = heap.waiting other
  own : ∀ target ptr block, cache = some target → next.waiting target ptr = some block →
    heap.waiting target ptr = some block ∨ added block.tag.home

namespace Changes

variable {touched : Option Cache} {added : Home → Prop}

theorem of_same (same : ∀ cache, next.waiting cache = heap.waiting cache) :
    Changes touched added heap next where
  others other _ := same other
  own target ptr block _ waits := by
    rw [same] at waits
    exact Or.inl waits

theorem refl (heap : CachedHeap Home Cache) : Changes touched added heap heap :=
  of_same fun _ => rfl

theorem trans (first : Changes touched added heap middle)
    (second : Changes touched added middle next) : Changes touched added heap next where
  others other away := (second.others other away).trans (first.others other away)
  own target ptr block isTarget waits := by
    rcases second.own target ptr block isTarget waits with before | new
    · exact first.own target ptr block isTarget before
    · exact Or.inr new

/-- The block at one address was in no other cache and enters no other cache. -/
theorem of_update (changed : next.find = Function.update heap.find ptr value)
    (before : ∀ other, touched ≠ some other → heap.waiting other ptr = none)
    (after : ∀ block cache, value = some block → block.tag.cache = some cache →
      touched = some cache ∧ added block.tag.home) : Changes touched added heap next where
  others other away := by
    have stillOut : (value.filter fun block => block.tag.cache = some other) = none := by
      rw [Option.filter_eq_none_iff]
      intro block same inOther
      exact away (after block other same (of_decide_eq_true inOther)).1
    rw [(views_update changed).2 other, stillOut, ← before other away, Function.update_eq_self]
  own target address block isTarget waits := by
    rw [(views_update changed).2 target] at waits
    by_cases same : address = ptr
    · subst same
      rw [Function.update_self, Option.filter_eq_some_iff] at waits
      exact Or.inr (after block target waits.1 (of_decide_eq_true waits.2)).2
    · rw [Function.update_of_ne same] at waits
      exact Or.inl waits

end Changes

/-- A block that waits in no cache before and after its change is no concern of the caches. -/
theorem waiting_update_same (changed : next.find = Function.update heap.find ptr value)
    (before : ∀ cache, heap.waiting cache ptr = none)
    (after : ∀ block, value = some block → block.tag.cache = none) (cache : Cache) :
    next.waiting cache = heap.waiting cache := by
  have changes : Changes none (fun _ => True) heap next := by
    apply Changes.of_update changed
    · intro other _
      exact before other
    · intro block other same inOther
      rw [after block same] at inOther
      cases inOther
  exact changes.others cache nofun

theorem give_spec (given : heap.give home ptr usable = some next) :
    ptr ≠ 0 ∧ heap.held ptr = none ∧
      next.held = Function.update heap.held ptr (some ⟨ptr, usable, ⟨home, none⟩⟩) ∧
      ∀ cache, next.waiting cache = heap.waiting cache := by
  obtain ⟨absent, changed⟩ := BlockHeap.find_place given
  refine ⟨(BlockHeap.place_eq_some given).2.2.1, held_of_find_none absent,
    (views_update changed).1, ?_⟩
  apply waiting_update_same changed
  · intro cache
    exact waiting_of_find_none absent
  · rintro block ⟨⟩
    rfl

theorem acquire_spec {added : Home → Prop} (waits : heap.waiting cache ptr = some block)
    (acquired : heap.acquire cache ptr = some next) :
    next.held = Function.update heap.held ptr (some { block with tag := ⟨block.tag.home, none⟩ }) ∧
      Changes (some cache) added heap next := by
  obtain ⟨member, rfl⟩ := BlockHeap.find_eq_some (waiting_eq_some.mp waits).1
  rw [acquire, waits, Option.map_some] at acquired
  obtain rfl := Option.some.inj acquired
  have changed := BlockHeap.find_retag member ⟨block.tag.home, none⟩
  refine ⟨(views_update changed).1, ?_⟩
  apply Changes.of_update changed
  · intro other away
    exact (of_waiting waits).2 other fun same => away (congrArg some same)
  · rintro taken other ⟨⟩ inOther
    cases inOther

theorem store_spec (stored : heap.store cache ptr = some next) :
    ∃ block, heap.held ptr = some block ∧ next.held = Function.update heap.held ptr none ∧
      Changes (some cache) (· = block.tag.home) heap next := by
  obtain ⟨block, holds, rfl⟩ := Option.map_eq_some_iff.mp stored
  obtain ⟨member, rfl⟩ := BlockHeap.find_eq_some (held_eq_some.mp holds).1
  have changed := BlockHeap.find_retag member ⟨block.tag.home, some cache⟩
  refine ⟨block, holds, (views_update changed).1, ?_⟩
  apply Changes.of_update changed
  · intro other _
    exact waiting_of_held holds
  · rintro kept other ⟨⟩ inOther
    exact ⟨inOther, rfl⟩

/-- New blocks that wait in the cache are blocks of the home, and no caller notices them. -/
theorem stock_spec {blocks : List (BitVec 64 × BitVec 64)}
    (stocked : heap.stock home cache blocks = some next) :
    next.held = heap.held ∧ Changes (some cache) (· = home) heap next := by
  induction blocks generalizing heap with
  | nil =>
      obtain rfl := Option.some.inj stocked
      exact ⟨rfl, .refl _⟩
  | cons entry rest ih =>
      obtain ⟨middle, placed, tail⟩ := Option.bind_eq_some_iff.mp stocked
      obtain ⟨absent, changed⟩ := BlockHeap.find_place placed
      obtain ⟨held, changes⟩ := ih tail
      have first : Changes (some cache) (· = home) heap middle := by
        apply Changes.of_update changed
        · intro other _
          exact waiting_of_find_none absent
        · rintro block other ⟨⟩ inOther
          exact ⟨inOther, rfl⟩
      refine ⟨?_, first.trans changes⟩
      rw [held, (views_update changed).1]
      exact (congrArg _ (held_of_find_none absent).symm).trans (Function.update_eq_self _ _)

variable [DecidableEq Home]

theorem discard_spec (discarded : heap.discard ptr = some next) :
    ∃ block, heap.held ptr = some block ∧ next.held = Function.update heap.held ptr none ∧
      ∀ cache, next.waiting cache = heap.waiting cache := by
  obtain ⟨block, holds, rfl⟩ := Option.map_eq_some_iff.mp discarded
  obtain ⟨member, rfl⟩ := BlockHeap.find_eq_some (held_eq_some.mp holds).1
  have changed := BlockHeap.find_erase member
  refine ⟨block, holds, (views_update changed).1, ?_⟩
  apply waiting_update_same changed
  · intro cache
    exact waiting_of_held holds
  · rintro kept ⟨⟩

theorem resize_spec (resized : heap.resize ptr usable = some next) :
    ∃ block, heap.held ptr = some block ∧
      next.held = Function.update heap.held ptr (some { block with usable }) ∧
      ∀ cache, next.waiting cache = heap.waiting cache := by
  obtain ⟨block, holds, placed⟩ := Option.bind_eq_some_iff.mp resized
  obtain ⟨found, free⟩ := held_eq_some.mp holds
  obtain ⟨member, rfl⟩ := BlockHeap.find_eq_some found
  have changed := (BlockHeap.find_place placed).2
  rw [BlockHeap.find_erase member, Function.update_idem] at changed
  refine ⟨block, holds, ?_, ?_⟩
  · rw [(views_update changed).1, Option.filter_some, if_pos]
    exact Option.isNone_iff_eq_none.mpr free
  · apply waiting_update_same changed
    · intro cache
      exact waiting_of_held holds
    · rintro kept ⟨⟩
      exact free

theorem drain_spec {added : Home → Prop} {ptrs : List (BitVec 64)}
    (drained : heap.drain cache ptrs = some next) :
    next.held = heap.held ∧ Changes (some cache) added heap next := by
  induction ptrs generalizing heap with
  | nil =>
      obtain rfl := Option.some.inj drained
      exact ⟨rfl, .refl _⟩
  | cons ptr rest ih =>
      obtain ⟨block, waits, tail⟩ := Option.bind_eq_some_iff.mp drained
      obtain ⟨member, rfl⟩ := BlockHeap.find_eq_some (waiting_eq_some.mp waits).1
      have changed := BlockHeap.find_erase member
      obtain ⟨held, changes⟩ := ih tail
      have first : Changes (some cache) added heap (heap.erase block) := by
        apply Changes.of_update changed
        · intro other away
          exact (of_waiting waits).2 other fun same => away (congrArg some same)
        · rintro kept other ⟨⟩
      refine ⟨?_, first.trans changes⟩
      rw [held, (views_update changed).1]
      exact (congrArg _ (of_waiting waits).1.symm).trans (Function.update_eq_self _ _)

omit [DecidableEq Home] in
theorem flush_spec (cache : Cache) (heap : CachedHeap Home Cache) :
    (heap.flush cache).held = heap.held ∧
      ∀ other, (heap.flush cache).waiting other =
        if other = cache then fun _ => none else heap.waiting other := by
  have found := heap.find_keep fun block => decide (block.tag.cache ≠ some cache)
  constructor
  · funext ptr
    apply Option.ext
    intro block
    rw [held_eq_some, held_eq_some, flush, found, Option.filter_eq_some_iff]
    grind
  · intro other
    funext ptr
    apply Option.ext
    intro block
    rw [waiting_eq_some, flush, found, Option.filter_eq_some_iff]
    split
    · grind
    · rw [waiting_eq_some]
      grind

omit [DecidableEq Home] in
theorem abandon_spec (gone : Home → Bool) (heap : CachedHeap Home Cache) :
    ((heap.abandon gone).held = fun ptr =>
        (heap.held ptr).filter fun block => !gone block.tag.home) ∧
      ∀ cache, (heap.abandon gone).waiting cache = heap.waiting cache := by
  have found := heap.find_keep fun block => block.tag.cache.isSome || !gone block.tag.home
  constructor
  · funext ptr
    apply Option.ext
    intro block
    rw [held_eq_some, Option.filter_eq_some_iff, held_eq_some, abandon, found,
      Option.filter_eq_some_iff]
    grind
  · intro cache
    funext ptr
    apply Option.ext
    intro block
    rw [waiting_eq_some, waiting_eq_some, abandon, found, Option.filter_eq_some_iff]
    grind

/-- What a request does: new blocks in the cache are blocks of the home, and the caller gets
nothing or an address that no caller has, with a block of the home or one that waited in the
cache. -/
structure Requested (home : Home) (cache : Option Cache) (size ptr : BitVec 64)
    (heap next : CachedHeap Home Cache) : Prop where
  changes : Changes cache (· = home) heap next
  result : ptr = 0 ∧ next.held = heap.held ∨
    ptr ≠ 0 ∧ heap.held ptr = none ∧ ∃ block, block.ptr = ptr ∧ size ≤ block.usable ∧
      next.held = Function.update heap.held ptr (some block) ∧
      (block.tag.home = home ∨ ∃ target waits, cache = some target ∧
        heap.waiting target ptr = some waits ∧ waits.tag.home = block.tag.home)

omit [DecidableEq Home] in
theorem request_spec {cache : Option Cache} {supply : Supply}
    (requested : heap.request home cache size supply = some (ptr, next)) :
    Requested home cache size ptr heap next := by
  cases supply with
  | refused =>
      obtain ⟨rfl, rfl⟩ := requested
      exact ⟨.refl _, Or.inl ⟨rfl, rfl⟩⟩
  | cached cachedPtr =>
      obtain ⟨target, rfl, requested⟩ := Option.bind_eq_some_iff.mp requested
      obtain ⟨block, waits, requested⟩ := Option.bind_eq_some_iff.mp requested
      split at requested
      · rename_i enough
        obtain ⟨after, acquired, result⟩ := Option.map_eq_some_iff.mp requested
        obtain ⟨rfl, rfl⟩ := result
        obtain ⟨held, changes⟩ := acquire_spec waits acquired
        obtain ⟨member, atPtr⟩ := BlockHeap.find_eq_some (waiting_eq_some.mp waits).1
        have nonNull := heap.nonNull block member
        rw [atPtr] at nonNull
        refine ⟨changes, Or.inr ⟨nonNull, (of_waiting waits).1, _, ?_, ?_, held, ?_⟩⟩
        · exact atPtr
        · exact enough
        · exact Or.inr ⟨target, block, rfl, waits, rfl⟩
      · cases requested
  | fresh newPtr usable others =>
      rw [CachedHeap.request] at requested
      split at requested
      · rename_i enough
        obtain ⟨middle, given, requested⟩ := Option.bind_eq_some_iff.mp requested
        obtain ⟨nonNull, absent, held, waiting⟩ := give_spec given
        cases cache with
        | none =>
            simp only at requested
            split at requested
            · obtain ⟨rfl, rfl⟩ := requested
              exact ⟨.of_same waiting,
                Or.inr ⟨nonNull, absent, _, rfl, enough, held, Or.inl rfl⟩⟩
            · cases requested
        | some target =>
            obtain ⟨after, stocked, result⟩ := Option.map_eq_some_iff.mp requested
            obtain ⟨rfl, rfl⟩ := result
            obtain ⟨same, stock⟩ := stock_spec stocked
            exact ⟨(Changes.of_same waiting).trans stock,
              Or.inr ⟨nonNull, absent, _, rfl, enough, same.trans held, Or.inl rfl⟩⟩
      · cases requested

theorem release_spec {cache : Option Cache} {restock : Restock}
    (released : heap.release cache ptr restock = some next) :
    ∃ block, heap.held ptr = some block ∧ next.held = Function.update heap.held ptr none ∧
      Changes cache (· = block.tag.home) heap next := by
  cases cache with
  | none =>
      obtain ⟨block, holds, held, waiting⟩ := discard_spec released
      exact ⟨block, holds, held, .of_same waiting⟩
  | some cache =>
      obtain ⟨middle, drained, rest⟩ := Option.bind_eq_some_iff.mp released
      split at rest
      · obtain ⟨block, holds, held, changes⟩ := store_spec rest
        obtain ⟨same, drain⟩ := drain_spec drained
        rw [same] at holds held
        exact ⟨block, holds, held, drain.trans changes⟩
      · obtain ⟨block, holds, held, waiting⟩ := discard_spec rest
        obtain ⟨same, drain⟩ := drain_spec drained
        rw [same] at holds held
        exact ⟨block, holds, held, drain.trans (.of_same waiting)⟩

/-- What a reallocation does: nothing, the block gets another size where it lies, or a new block
takes its place. -/
inductive Reallocated (home : Home) (cache : Option Cache) (ptr size : BitVec 64)
    (heap : CachedHeap Home Cache) : BitVec 64 → CachedHeap Home Cache → Prop where
  | refused {old next} (holds : heap.held ptr = some old) (same : next.held = heap.held)
      (changes : Changes cache (· = home) heap next) :
      Reallocated home cache ptr size heap 0 next
  | resized {old next usable} (holds : heap.held ptr = some old) (enough : size ≤ usable)
      (held : next.held = Function.update heap.held ptr (some { old with usable }))
      (same : ∀ target, next.waiting target = heap.waiting target) :
      Reallocated home cache ptr size heap ptr next
  | moved {old new middle next} (holds : heap.held ptr = some old) (nonNull : new ≠ 0)
      (requested : Requested home cache size new heap middle)
      (held : next.held = Function.update middle.held ptr none)
      (changes : Changes cache (· = old.tag.home) middle next) :
      Reallocated home cache ptr size heap new next

theorem reallocate_spec {cache : Option Cache} {relocation : Relocation} {new : BitVec 64}
    (reallocated : heap.reallocate home cache ptr size relocation = some (new, next)) :
    Reallocated home cache ptr size heap new next := by
  cases relocation with
  | inPlace usable =>
      rw [reallocate] at reallocated
      split at reallocated
      · rename_i enough
        obtain ⟨after, resized, result⟩ := Option.map_eq_some_iff.mp reallocated
        obtain ⟨rfl, rfl⟩ := result
        obtain ⟨old, holds, held, same⟩ := resize_spec resized
        exact .resized holds enough held same
      · cases reallocated
  | moved supply restock =>
      obtain ⟨old, holds, rest⟩ := Option.bind_eq_some_iff.mp reallocated
      obtain ⟨⟨target, middle⟩, requested, rest⟩ := Option.bind_eq_some_iff.mp rest
      have spec := request_spec requested
      simp only at rest
      split at rest
      · rename_i null
        obtain ⟨rfl, rfl⟩ := rest
        rcases spec.result with ⟨-, same⟩ | ⟨nonNull, -⟩
        · exact .refused holds same spec.changes
        · exact absurd null nonNull
      · rename_i nonNull
        obtain ⟨after, released, result⟩ := Option.map_eq_some_iff.mp rest
        obtain ⟨rfl, rfl⟩ := result
        obtain ⟨block, stillHeld, held, changes⟩ := release_spec released
        rcases spec.result with ⟨null, -⟩ | ⟨-, absent, granted, -, -, middleHeld, -⟩
        · exact absurd null nonNull
        · have different : ptr ≠ new := by
            rintro rfl
            rw [holds] at absent
            cases absent
          rw [middleHeld, Function.update_of_ne different, holds] at stillHeld
          obtain rfl := Option.some.inj stillHeld
          exact .moved holds nonNull spec held changes

end CachedHeap

end Memkind.Library
