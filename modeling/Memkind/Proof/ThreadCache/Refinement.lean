/-
This file states what an allocator without caches does, and proves that the calls of memkind do the
same through their thread caches.
-/

import Memkind.Library.Run
import Memkind.Proof.Registry.Slots
import Memkind.Proof.ThreadCache.Purity

namespace Memkind

open Library

/-- The kind and the usable bytes of each block that a caller holds. -/
abbrev Holdings := Address → Option (KindPtr × SizeT)

/-- The calls, without what the caches have to decide. -/
inductive PlainCall where
  | silent
  | destroy (kind : KindPtr)
  | allocate (kind : KindPtr) (size : SizeT)
  | free (ptr : Address)
  | realloc (kind : Option KindPtr) (ptr : Address) (size : SizeT)
  | defragReallocate (ptr : Address)

/-- An allocator that has no caches: a call changes what the callers hold and returns a pointer. -/
inductive PlainStep : PlainCall → Holdings → Address → Holdings → Prop where
  | silent {holdings} : PlainStep .silent holdings 0 holdings
  | destroy {kind holdings} :
      PlainStep (.destroy kind) holdings 0 fun ptr =>
        (holdings ptr).filter fun entry => entry.1 ≠ kind
  | refuse {kind size holdings} : PlainStep (.allocate kind size) holdings 0 holdings
  | grant {kind size holdings ptr usable} (nonNull : ptr ≠ 0) (unheld : holdings ptr = none)
      (enough : size ≤ usable) :
      PlainStep (.allocate kind size) holdings ptr
        (Function.update holdings ptr (some (kind, usable)))
  | freeNull {holdings} : PlainStep (.free 0) holdings 0 holdings
  | free {ptr entry holdings} (holds : holdings ptr = some entry) :
      PlainStep (.free ptr) holdings 0 (Function.update holdings ptr none)
  | reallocNew {kind size holdings ptr next}
      (allocated : PlainStep (.allocate kind size) holdings ptr next) :
      PlainStep (.realloc (some kind) 0 size) holdings ptr next
  | reallocNull {size holdings} : PlainStep (.realloc none 0 size) holdings 0 holdings
  | reallocFree {kind ptr holdings next} (freed : PlainStep (.free ptr) holdings 0 next) :
      PlainStep (.realloc kind ptr 0) holdings 0 next
  | reallocKeep {kind ptr size holdings} (sized : size ≠ 0) :
      PlainStep (.realloc kind ptr size) holdings 0 holdings
  | reallocMove {kind ptr size entry holdings new usable} (holds : holdings ptr = some entry)
      (nonNull : new ≠ 0) (place : new = ptr ∨ holdings new = none) (enough : size ≤ usable) :
      PlainStep (.realloc kind ptr size) holdings new
        (Function.update (Function.update holdings ptr none) new (some (entry.1, usable)))
  | defragKeep {ptr holdings} : PlainStep (.defragReallocate ptr) holdings 0 holdings
  | defragMove {ptr entry holdings new usable} (holds : holdings ptr = some entry)
      (nonNull : new ≠ 0) (unheld : holdings new = none) (enough : entry.2 ≤ usable) :
      PlainStep (.defragReallocate ptr) holdings new
        (Function.update (Function.update holdings ptr none) new (some (entry.1, usable)))

theorem PlainStep.allocate_cases {kind : KindPtr} {size : SizeT} {holdings next : Holdings}
    {ptr : Address} (step : PlainStep (.allocate kind size) holdings ptr next) :
    ptr = 0 ∧ next = holdings ∨ ptr ≠ 0 ∧ holdings ptr = none ∧
      ∃ usable, size ≤ usable ∧ next = Function.update holdings ptr (some (kind, usable)) := by
  cases step with
  | refuse => exact Or.inl ⟨rfl, rfl⟩
  | grant nonNull unheld enough => exact Or.inr ⟨nonNull, unheld, _, enough, rfl⟩

theorem PlainStep.free_cases {holdings next : Holdings} {ptr result : Address}
    (step : PlainStep (.free ptr) holdings result next) :
    result = 0 ∧ (ptr = 0 ∧ next = holdings ∨
      (holdings ptr).isSome ∧ next = Function.update holdings ptr none) := by
  cases step with
  | freeNull => exact ⟨rfl, Or.inl ⟨rfl, rfl⟩⟩
  | free holds => exact ⟨rfl, Or.inr ⟨Option.isSome_of_mem holds, rfl⟩⟩

/-- The bytes that a call for a new block requests. A product is taken modulo the size of a word. -/
def NewBlock.bytes : NewBlock → SizeT
  | .malloc size => size
  | .calloc num size => num * size
  | .posixMemalign _ size => size

/-- What a call asks of an allocator without caches. -/
def CacheCall.plain {Thread : Type} : CacheCall Thread → PlainCall
  | .create .. => .silent
  | .destroy address => .destroy (.heap address)
  | .allocate _ kind call _ => .allocate kind call.bytes
  | .free _ _ ptr _ => .free ptr
  | .realloc _ kind ptr size _ => .realloc kind ptr size
  | .defragReallocate _ ptr _ _ => .defragReallocate ptr
  | .exit _ => .silent

section Views

variable {Thread : Type}

/-- The kind that the arena of a block leads to. -/
def TcacheState.kindOf (state : TcacheState Thread) (arena : Nat) : KindPtr :=
  (state.arena.arenaRegistry arena).getD memkindDefault

/-- What the callers of a process hold. -/
def TcacheState.holdings (state : TcacheState Thread) : Holdings := fun ptr =>
  (state.blocks.held ptr).map fun block => (state.kindOf block.tag.home, block.usable)

/-- A call that names a kind for a block names the kind of the block. -/
def NamesKind (call : CacheCall Thread) (state : TcacheState Thread) : Prop :=
  match call with
  | .free _ (some kind) ptr _ => ∀ entry ∈ state.holdings ptr, entry.1 = kind
  | .realloc _ (some kind) ptr _ _ => ∀ entry ∈ state.holdings ptr, entry.1 = kind
  | .defragReallocate (some kind) ptr _ _ => ∀ entry ∈ state.holdings ptr, entry.1 = kind
  | _ => True

instance (call : CacheCall Thread) (state : TcacheState Thread) :
    Decidable (NamesKind call state) := by
  unfold NamesKind
  split <;> infer_instance

variable {len : Nat} {state next : TcacheState Thread}

theorem TcacheState.holdings_eq_none {ptr : Address} (absent : state.blocks.held ptr = none) :
    state.holdings ptr = none := by
  rw [holdings, absent, Option.map_none]

theorem TcacheState.holdings_eq_some {ptr : Address}
    {block : HeapBlock (Placed Nat (Tcache Thread))} (holds : state.blocks.held ptr = some block) :
    state.holdings ptr = some (state.kindOf block.tag.home, block.usable) := by
  rw [holdings, holds, Option.map_some]

theorem TcacheState.holdings_same (arena : next.arena = state.arena)
    (held : next.blocks.held = state.blocks.held) : next.holdings = state.holdings := by
  unfold holdings kindOf
  rw [arena, held]

/-- Only the blocks have changed, and callers hold the same ones. -/
theorem TcacheState.holdings_blocks {blocks : CachedHeap Nat (Tcache Thread)}
    (held : blocks.held = state.blocks.held) :
    TcacheState.holdings { state with blocks } = state.holdings := by
  unfold holdings kindOf
  rw [held]

/-- Only the blocks have changed, and callers hold another one at an address. -/
theorem TcacheState.holdings_update {blocks : CachedHeap Nat (Tcache Thread)} {ptr : Address}
    {held : Address → Option (HeapBlock (Placed Nat (Tcache Thread)))}
    {holdings : Holdings} {value : Option (HeapBlock (Placed Nat (Tcache Thread)))}
    (before : holdings = fun address =>
      (held address).map fun block => (state.kindOf block.tag.home, block.usable))
    (after : blocks.held = Function.update held ptr value) :
    TcacheState.holdings { state with blocks } = Function.update holdings ptr
      (value.map fun block => (state.kindOf block.tag.home, block.usable)) := by
  subst before
  funext address
  unfold TcacheState.holdings kindOf
  rw [after]
  by_cases same : address = ptr
  · subst same
    simp
  · simp [same]

theorem TcacheState.ArenasSound.kindOf_eq (sound : state.ArenasSound len) {kind : KindPtr}
    {arena : Nat} (belongs : state.Belongs len kind arena) : state.kindOf arena = kind :=
  (sound.registry belongs).2

/-- `get_tcache_flag` does not change what the callers hold. -/
theorem TcacheState.FlagSpec.holdings_eq {thread : Thread} {partition : Nat}
    {cache : Option (Tcache Thread)}
    (spec : state.FlagSpec thread partition cache next) : next.holdings = state.holdings :=
  TcacheState.holdings_same spec.arena (congrArg CachedHeap.held spec.blocks)

end Views

variable {Thread : Type} [DecidableEq Thread] {len : Nat} {state next : TcacheState Thread}
  {kind : KindPtr} {cache : Option (Tcache Thread)} {ptr new : Address} {size : SizeT} {arena : Nat}

/-- The kind of a block is the only one that its arena belongs to. -/
theorem TcacheState.Sound.belongs_kindOf (sound : state.Sound len)
    {block : HeapBlock (Placed Nat (Tcache Thread))} (holds : state.blocks.held ptr = some block) :
    state.Belongs len (state.kindOf block.tag.home) block.tag.home := by
  obtain ⟨kind, belongs⟩ := sound.held ptr block holds
  rw [sound.arenas.kindOf_eq belongs]
  exact belongs

/-- `memkind_arena_detect_kind` finds the kind of a block. -/
theorem TcacheState.Sound.detectKind_eq (sound : state.Sound len)
    {block : HeapBlock (Placed Nat (Tcache Thread))} (holds : state.blocks.held ptr = some block) :
    state.detectKind ptr = some (some (state.kindOf block.tag.home)) := by
  have nonNull : ptr ≠ 0 := by
    rintro rfl
    rw [CachedHeap.held_zero] at holds
    cases holds
  have inside := (sound.arenas.registry (sound.belongs_kindOf holds)).1
  have lookup : state.arenalookupx ptr % 2 ^ 32 = block.tag.home := by
    rw [arenalookupx, holds, Option.map_some, Option.getD_some]
    unfold mallocxArenaMax at inside
    omega
  rw [detectKind, memkindArenaDetectKind, if_neg nonNull, lookup, getKindByArena, if_pos inside]
  rfl

/-- A block that names its kind belongs to the kind. -/
theorem TcacheState.Sound.belongs_of_named (sound : state.Sound len)
    (named : ∀ entry, state.holdings ptr = some entry → entry.1 = kind)
    {block : HeapBlock (Placed Nat (Tcache Thread))} (holds : state.blocks.held ptr = some block) :
    state.Belongs len kind block.tag.home := by
  have isKind := named _ (state.holdings_eq_some holds)
  rw [← isKind]
  exact sound.belongs_kindOf holds

/-- `jemk_mallocx` -/
theorem TcacheState.Sound.jemkMallocx (sound : state.Sound len)
    (serves : state.Serves len kind cache) (belongs : state.Belongs len kind arena)
    {supply : Supply} (called : state.jemkMallocx size arena cache supply = some (ptr, next)) :
    next.Sound len ∧ PlainStep (.allocate kind size) state.holdings ptr next.holdings := by
  unfold TcacheState.jemkMallocx at called
  split at called
  · obtain ⟨⟨result, blocks⟩, requested, same⟩ := Option.map_eq_some_iff.mp called
    obtain ⟨rfl, rfl⟩ := same
    obtain ⟨after, outcome⟩ := sound.request serves belongs (CachedHeap.request_spec requested)
    refine ⟨after, ?_⟩
    rcases outcome with ⟨rfl, held⟩ | ⟨nonNull, absent, block, enough, held, blockBelongs⟩
    · rw [TcacheState.holdings_blocks held]
      exact .refuse
    · rw [TcacheState.holdings_update rfl held, Option.map_some,
        sound.arenas.kindOf_eq blockBelongs]
      exact .grant nonNull (state.holdings_eq_none absent) enough
  · cases called

/-- `jemk_dallocx` -/
theorem TcacheState.Sound.jemkDallocx (sound : state.Sound len)
    (serves : state.Serves len kind cache) {restock : Restock}
    (named : ∀ entry, state.holdings ptr = some entry → entry.1 = kind)
    (called : state.jemkDallocx ptr cache restock = some next) :
    next.Sound len ∧ PlainStep (.free ptr) state.holdings 0 next.holdings := by
  unfold TcacheState.jemkDallocx at called
  split at called
  · obtain ⟨blocks, released, rfl⟩ := Option.map_eq_some_iff.mp called
    obtain ⟨block, holds, held, changes⟩ := CachedHeap.release_spec released
    refine ⟨sound.release serves (sound.belongs_of_named named holds) held changes, ?_⟩
    rw [TcacheState.holdings_update rfl held]
    exact .free (state.holdings_eq_some holds)
  · cases called

/-- `jemk_rallocx` -/
theorem TcacheState.Sound.jemkRallocx (sound : state.Sound len)
    (serves : state.Serves len kind cache) (belongs : state.Belongs len kind arena)
    {relocation : Relocation} (asked : Option KindPtr) (sized : size ≠ 0)
    (named : ∀ entry, state.holdings ptr = some entry → entry.1 = kind)
    (called : state.jemkRallocx ptr size arena cache relocation = some (new, next)) :
    next.Sound len ∧ PlainStep (.realloc asked ptr size) state.holdings new next.holdings := by
  unfold TcacheState.jemkRallocx at called
  split at called
  · obtain ⟨⟨result, blocks⟩, reallocated, same⟩ := Option.map_eq_some_iff.mp called
    obtain ⟨rfl, rfl⟩ := same
    obtain ⟨after, isHeld, outcome⟩ := sound.reallocate serves belongs
      (fun old holds => sound.belongs_of_named named holds) (CachedHeap.reallocate_spec reallocated)
    obtain ⟨old, holds⟩ := Option.isSome_iff_exists.mp isHeld
    have entry := state.holdings_eq_some holds
    refine ⟨after, ?_⟩
    rcases outcome with ⟨rfl, held⟩ | ⟨nonNull, place, block, enough, held, blockBelongs⟩
    · rw [TcacheState.holdings_blocks held]
      exact .reallocKeep sized
    · have removed : Function.update state.holdings ptr none = fun address =>
          (Function.update state.blocks.held ptr none address).map fun block =>
            (state.kindOf block.tag.home, block.usable) := by
        funext address
        by_cases atOld : address = ptr
        · simp [atOld]
        · simp [atOld, TcacheState.holdings]
      rw [TcacheState.holdings_update removed held, Option.map_some,
        sound.arenas.kindOf_eq blockBelongs, ← named _ entry]
      refine .reallocMove entry nonNull (place.imp_right ?_) enough
      exact state.holdings_eq_none
  · cases called

section Calls

variable {partition : KindPtr → Nat} {allowZeroAllocs : KindPtr → Bool} {thread : Thread}
  {outcome : CacheOutcome}

/-- The cache of a flag serves the kind that it was asked for. -/
theorem TcacheState.Sound.flag_kind (sound : state.Sound len) (static : StaticPartitions partition)
    (spec : state.FlagSpec thread (partition kind) cache next) : next.Serves len kind cache := by
  cases kind with
  | library index =>
      rw [static.static] at spec
      exact sound.flag_serves spec
  | heap address =>
      cases cache with
      | none => exact TcacheState.serves_none
      | some target =>
          obtain ⟨-, -, inside, -⟩ := spec.usable target rfl
          have outside := static.dynamic address
          omega

/-- The arena functions for a new block. -/
theorem TcacheState.Sound.arenaRequest (sound : state.Sound len)
    (static : StaticPartitions partition) (initialized : state.initialized kind = true)
    {flagSize : SizeT}
    (called : state.arenaRequest partition allowZeroAllocs thread kind flagSize size outcome =
      some (ptr, next)) :
    next.Sound len ∧ PlainStep (.allocate kind size) state.holdings ptr next.holdings := by
  unfold TcacheState.arenaRequest at called
  split at called
  · cases flag : state.getTcacheFlag thread (partition kind) flagSize outcome.flag with
    | mk cache middle =>
        have spec := sound.caches.getTcacheFlag_spec flag
        have middleSound := sound.flag spec
        rw [flag] at called
        simp only at called
        unfold TcacheState.jemkMallocxCheck at called
        rw [← spec.holdings_eq]
        split at called
        · obtain ⟨rfl, rfl⟩ := called
          exact ⟨middleSound, .refuse⟩
        · have belongs : middle.Belongs len kind
              ((state.arena.kinds kind).choose outcome.choice) := by
            rw [← spec.arena]
            exact middleSound.arenas.choose_belongs outcome.choice (by
              rw [spec.initialized]
              exact initialized)
          exact middleSound.jemkMallocx (sound.flag_kind static spec) belongs called
  · obtain ⟨rfl, rfl⟩ := called
    exact ⟨sound, .refuse⟩

/-- `jemk_malloc` -/
theorem TcacheState.Sound.jemkMalloc (sound : state.Sound len)
    (called : state.jemkMalloc thread size outcome = some (ptr, next)) :
    next.Sound len ∧
      PlainStep (.allocate memkindDefault size) state.holdings ptr next.holdings := by
  unfold TcacheState.jemkMalloc at called
  split at called
  · rename_i automatic
    exact sound.jemkMallocx (sound.serves_automatic thread)
      (TcacheState.belongs_default.mpr automatic) called
  · cases called

/-- `memkind_malloc`, `memkind_calloc` and `memkind_posix_memalign` -/
theorem TcacheState.Sound.allocate (sound : state.Sound len) (static : StaticPartitions partition)
    {call : NewBlock}
    (called : state.allocate partition allowZeroAllocs thread kind call outcome =
      some (ptr, next)) :
    next.Sound len ∧ PlainStep (.allocate kind call.bytes) state.holdings ptr next.holdings := by
  have refused : ∀ size, some ((0 : Address), state) = some (ptr, next) →
      next.Sound len ∧ PlainStep (.allocate kind size) state.holdings ptr next.holdings := by
    rintro size ⟨⟩
    exact ⟨sound, .refuse⟩
  unfold TcacheState.allocate at called
  split at called
  · rename_i isDefault
    subst isDefault
    unfold TcacheState.memkindDefaultNew at called
    split at called
    · split at called
      · exact refused _ called
      · exact sound.jemkMalloc called
    · split at called
      · exact refused _ called
      · split at called
        · exact refused _ called
        · exact sound.jemkMalloc called
    · split at called
      · exact refused _ called
      · exact sound.jemkMalloc called
  · split at called
    · rename_i initialized
      unfold TcacheState.memkindArenaNew at called
      split at called
      · exact sound.arenaRequest static initialized called
      · exact sound.arenaRequest static initialized called
      · split at called
        · exact refused _ called
        · split at called
          · exact refused _ called
          · split at called
            · exact refused _ called
            · exact sound.arenaRequest static initialized called
    · cases called

/-- `jemk_free` -/
theorem TcacheState.Sound.jemkFree (sound : state.Sound len)
    (named : ∀ entry, state.holdings ptr = some entry → entry.1 = memkindDefault)
    (called : state.jemkFree thread ptr outcome = some next) :
    next.Sound len ∧ PlainStep (.free ptr) state.holdings 0 next.holdings := by
  unfold TcacheState.jemkFree at called
  split at called
  · rename_i null
    obtain rfl := Option.some.inj called
    rw [null]
    exact ⟨sound, .freeNull⟩
  · exact sound.jemkDallocx (sound.serves_automatic thread) named called

/-- A block comes back through the cache for its kind. -/
theorem TcacheState.Sound.flagDallocx (sound : state.Sound len)
    (static : StaticPartitions partition)
    (named : ∀ entry, state.holdings ptr = some entry → entry.1 = kind)
    (called : (state.getTcacheFlag thread (partition kind) 0 outcome.flag).2.jemkDallocx ptr
      (state.getTcacheFlag thread (partition kind) 0 outcome.flag).1 outcome.restock = some next) :
    next.Sound len ∧ PlainStep (.free ptr) state.holdings 0 next.holdings := by
  cases flag : state.getTcacheFlag thread (partition kind) 0 outcome.flag with
  | mk cache middle =>
      have spec := sound.caches.getTcacheFlag_spec flag
      rw [flag] at called
      rw [← spec.holdings_eq] at named ⊢
      exact (sound.flag spec).jemkDallocx (sound.flag_kind static spec) named called

/-- `memkind_arena_free` -/
theorem TcacheState.Sound.memkindArenaFree (sound : state.Sound len)
    (static : StaticPartitions partition)
    (named : ∀ entry, state.holdings ptr = some entry → entry.1 = kind)
    (called : state.memkindArenaFree partition thread kind ptr outcome = some next) :
    next.Sound len ∧ PlainStep (.free ptr) state.holdings 0 next.holdings := by
  unfold TcacheState.memkindArenaFree at called
  split at called
  · rename_i isDefault
    subst isDefault
    exact sound.jemkFree named called
  · split at called
    · exact sound.flagDallocx static named called
    · rename_i null
      obtain rfl := Option.some.inj called
      rw [not_not.mp null]
      exact ⟨sound, .freeNull⟩

/-- `NULL` has no kind, and the kind of a block is found. -/
theorem TcacheState.Sound.detectKind_cases (sound : state.Sound len)
    {detected : Option KindPtr} (called : state.detectKind ptr = some detected) :
    ptr = 0 ∧ detected = none ∨ ptr ≠ 0 ∧ ∃ kind, detected = some kind ∧
      ∀ entry, state.holdings ptr = some entry → entry.1 = kind := by
  by_cases null : ptr = 0
  · rw [detectKind, memkindArenaDetectKind, if_pos null] at called
    exact Or.inl ⟨null, (Option.some.inj called).symm⟩
  · refine Or.inr ⟨null, ?_⟩
    rw [detectKind, memkindArenaDetectKind, if_neg null] at called
    obtain ⟨registered, found, same⟩ := Option.map_eq_some_iff.mp called
    refine ⟨_, same.symm, ?_⟩
    intro entry holds
    obtain ⟨block, held, rfl⟩ := Option.map_eq_some_iff.mp holds
    have detected := sound.detectKind_eq held
    rw [detectKind, memkindArenaDetectKind, if_neg null, found, Option.map_some] at detected
    exact (Option.some.inj (Option.some.inj detected)).symm

/-- `memkind_free` -/
theorem TcacheState.Sound.free (sound : state.Sound len) (static : StaticPartitions partition)
    {asked : Option KindPtr}
    (named : ∀ kind, asked = some kind → ∀ entry, state.holdings ptr = some entry →
      entry.1 = kind)
    (called : state.free partition thread asked ptr outcome = some next) :
    next.Sound len ∧ PlainStep (.free ptr) state.holdings 0 next.holdings := by
  unfold TcacheState.free at called
  split at called
  · rename_i kind
    exact sound.memkindArenaFree static (named kind rfl) called
  · obtain ⟨detected, found, rest⟩ := Option.bind_eq_some_iff.mp called
    rcases sound.detectKind_cases found with ⟨rfl, rfl⟩ | ⟨-, kind, rfl, isKind⟩
    · obtain rfl := Option.some.inj rest
      exact ⟨sound, .freeNull⟩
    · exact sound.memkindArenaFree static isKind rest

/-- A block of the kind changes its size through the cache for the kind. -/
theorem TcacheState.Sound.flagRallocx (sound : state.Sound len)
    (static : StaticPartitions partition) (initialized : state.initialized kind = true)
    (asked : Option KindPtr) (sized : size ≠ 0)
    (named : ∀ entry, state.holdings ptr = some entry → entry.1 = kind)
    (called : (state.getTcacheFlag thread (partition kind) size outcome.flag).2.jemkRallocx ptr size
      ((state.arena.kinds kind).choose outcome.choice)
      (state.getTcacheFlag thread (partition kind) size outcome.flag).1 outcome.relocation =
        some (new, next)) :
    next.Sound len ∧ PlainStep (.realloc asked ptr size) state.holdings new next.holdings := by
  cases flag : state.getTcacheFlag thread (partition kind) size outcome.flag with
  | mk cache middle =>
      have spec := sound.caches.getTcacheFlag_spec flag
      have middleSound := sound.flag spec
      have belongs : middle.Belongs len kind
          ((state.arena.kinds kind).choose outcome.choice) := by
        rw [← spec.arena]
        exact middleSound.arenas.choose_belongs outcome.choice (by
          rw [spec.initialized]
          exact initialized)
      rw [flag] at called
      rw [← spec.holdings_eq] at named ⊢
      exact middleSound.jemkRallocx (sound.flag_kind static spec) belongs asked sized named called

/-- A call that frees the block returns `NULL`. -/
theorem map_zero_eq_some {Thread : Type} {next : TcacheState Thread} {new : Address}
    {freed : Option (TcacheState Thread)}
    (called : freed.map ((0 : Address), ·) = some (new, next)) : new = 0 ∧ freed = some next := by
  obtain ⟨after, isFreed, same⟩ := Option.map_eq_some_iff.mp called
  obtain ⟨rfl, rfl⟩ := same
  exact ⟨rfl, isFreed⟩

/-- `memkind_arena_realloc`, called with the kind of the block or with `NULL`. -/
theorem TcacheState.Sound.memkindArenaRealloc (sound : state.Sound len)
    (static : StaticPartitions partition) (initialized : state.initialized kind = true)
    {asked : Option KindPtr} (isAsked : ptr = 0 → asked = some kind)
    (named : ∀ entry, state.holdings ptr = some entry → entry.1 = kind)
    (called : state.memkindArenaRealloc partition allowZeroAllocs thread kind ptr size outcome =
      some (new, next)) :
    next.Sound len ∧ PlainStep (.realloc asked ptr size) state.holdings new next.holdings := by
  unfold TcacheState.memkindArenaRealloc at called
  split at called
  · rename_i freed
    obtain ⟨rfl, released⟩ := map_zero_eq_some called
    obtain ⟨after, step⟩ := sound.flagDallocx static named released
    rw [freed.1]
    exact ⟨after, .reallocFree step⟩
  · rename_i notFreed
    split at called
    · obtain ⟨rfl, rfl⟩ := called
      refine ⟨sound, ?_⟩
      by_cases null : ptr = 0
      · rw [isAsked null, null]
        exact .reallocNew .refuse
      · exact .reallocKeep fun zero => notFreed ⟨zero, null⟩
    · split at called
      · rename_i null
        obtain ⟨after, step⟩ := sound.arenaRequest static initialized called
        rw [isAsked null, null]
        exact ⟨after, .reallocNew step⟩
      · rename_i nonNull
        have sized : size ≠ 0 := fun zero => notFreed ⟨zero, nonNull⟩
        split at called
        · obtain ⟨rfl, rfl⟩ := called
          exact ⟨sound, .reallocKeep sized⟩
        · exact sound.flagRallocx static initialized asked sized named called

/-- `memkind_default_realloc`, called with the kind of the block or with `NULL`. -/
theorem TcacheState.Sound.memkindDefaultRealloc (sound : state.Sound len) {asked : Option KindPtr}
    (isAsked : ptr = 0 → asked = some memkindDefault)
    (named : ∀ entry, state.holdings ptr = some entry → entry.1 = memkindDefault)
    (called : state.memkindDefaultRealloc allowZeroAllocs thread ptr size outcome =
      some (new, next)) :
    next.Sound len ∧ PlainStep (.realloc asked ptr size) state.holdings new next.holdings := by
  have freed : size = 0 → (state.jemkFree thread ptr outcome).map ((0 : Address), ·) =
      some (new, next) →
      next.Sound len ∧ PlainStep (.realloc asked ptr size) state.holdings new next.holdings := by
    rintro rfl released
    obtain ⟨rfl, isFreed⟩ := map_zero_eq_some released
    obtain ⟨after, step⟩ := sound.jemkFree named isFreed
    exact ⟨after, .reallocFree step⟩
  unfold TcacheState.memkindDefaultRealloc at called
  split at called
  · rename_i zero
    exact freed (by simpa [sizeOutOfBounds] using (Bool.and_eq_true_iff.mp zero).2) called
  · unfold TcacheState.jemkRealloc at called
    split at called
    · rename_i null
      obtain ⟨after, step⟩ := sound.jemkMalloc called
      rw [isAsked null, null]
      exact ⟨after, .reallocNew step⟩
    · split at called
      · rename_i zero
        exact freed zero called
      · rename_i sized
        split at called
        · rename_i automatic
          exact sound.jemkRallocx (sound.serves_automatic thread)
            (TcacheState.belongs_default.mpr automatic) asked sized named called
        · cases called

/-- `ops->realloc` -/
theorem TcacheState.Sound.reallocKind (sound : state.Sound len)
    (static : StaticPartitions partition) {asked : Option KindPtr}
    (isAsked : ptr = 0 → asked = some kind)
    (named : ∀ entry, state.holdings ptr = some entry → entry.1 = kind)
    (called : state.reallocKind partition allowZeroAllocs thread kind ptr size outcome =
      some (new, next)) :
    next.Sound len ∧ PlainStep (.realloc asked ptr size) state.holdings new next.holdings := by
  unfold TcacheState.reallocKind at called
  split at called
  · rename_i isDefault
    subst isDefault
    exact sound.memkindDefaultRealloc isAsked named called
  · split at called
    · rename_i initialized
      exact sound.memkindArenaRealloc static initialized isAsked named called
    · cases called

/-- `memkind_realloc` -/
theorem TcacheState.Sound.realloc (sound : state.Sound len) (static : StaticPartitions partition)
    {asked : Option KindPtr}
    (named : ∀ kind, asked = some kind → ∀ entry, state.holdings ptr = some entry →
      entry.1 = kind)
    (called : state.realloc partition allowZeroAllocs thread asked ptr size outcome =
      some (new, next)) :
    next.Sound len ∧ PlainStep (.realloc asked ptr size) state.holdings new next.holdings := by
  unfold TcacheState.realloc at called
  split at called
  · rename_i kind
    exact sound.reallocKind static (fun _ => rfl) (named kind rfl) called
  · obtain ⟨detected, found, rest⟩ := Option.bind_eq_some_iff.mp called
    rcases sound.detectKind_cases found with ⟨rfl, rfl⟩ | ⟨nonNull, kind, rfl, isKind⟩
    · obtain ⟨rfl, rfl⟩ := rest
      exact ⟨sound, .reallocNull⟩
    · exact sound.reallocKind static (fun null => absurd null nonNull) isKind rest

/-- `memkind_arena_malloc_no_tcache` -/
theorem TcacheState.Sound.memkindArenaMallocNoTcache (sound : state.Sound len)
    (ready : kind = memkindDefault ∨ state.initialized kind = true)
    (called : state.memkindArenaMallocNoTcache allowZeroAllocs kind size outcome =
      some (ptr, next)) :
    next.Sound len ∧ PlainStep (.allocate kind size) state.holdings ptr next.holdings := by
  have checked : ∀ arena, state.Belongs len kind arena →
      state.jemkMallocxCheck size arena none (allowZeroAllocs kind) outcome.supply =
        some (ptr, next) →
      next.Sound len ∧ PlainStep (.allocate kind size) state.holdings ptr next.holdings := by
    intro arena belongs requested
    unfold TcacheState.jemkMallocxCheck at requested
    split at requested
    · obtain ⟨rfl, rfl⟩ := requested
      exact ⟨sound, .refuse⟩
    · exact sound.jemkMallocx TcacheState.serves_none belongs requested
  unfold TcacheState.memkindArenaMallocNoTcache at called
  split at called
  · rename_i isDefault
    split at called
    · rename_i automatic
      refine checked _ ?_ called
      rw [isDefault]
      exact TcacheState.belongs_default.mpr automatic
    · cases called
  · rename_i notDefault
    split at called
    · exact checked _ (sound.arenas.choose_belongs outcome.choice
        (ready.resolve_left notDefault)) called
    · obtain ⟨rfl, rfl⟩ := called
      exact ⟨sound, .refuse⟩

/-- `memkind_arena_defrag_reallocate`, called with the kind of the block. -/
theorem TcacheState.Sound.memkindArenaDefragReallocate (sound : state.Sound len) {checked : Bool}
    (named : ∀ entry, state.holdings ptr = some entry → entry.1 = kind)
    (called : state.memkindArenaDefragReallocate allowZeroAllocs kind ptr checked outcome =
      some (new, next)) :
    next.Sound len ∧ PlainStep (.defragReallocate ptr) state.holdings new next.holdings := by
  have kept : some ((0 : Address), state) = some (new, next) →
      next.Sound len ∧ PlainStep (.defragReallocate ptr) state.holdings new next.holdings := by
    rintro ⟨⟩
    exact ⟨sound, .defragKeep⟩
  unfold TcacheState.memkindArenaDefragReallocate at called
  split at called
  · exact kept called
  · rename_i ptrNonNull
    split at called
    · exact kept called
    · obtain ⟨block, holds, rest⟩ := Option.bind_eq_some_iff.mp called
      obtain ⟨⟨target, middle⟩, allocated, rest⟩ := Option.bind_eq_some_iff.mp rest
      have entry := state.holdings_eq_some holds
      have ready : kind = memkindDefault ∨ state.initialized kind = true := by
        by_cases isDefault : kind = memkindDefault
        · exact Or.inl isDefault
        · exact Or.inr ((TcacheState.belongs_of_ne isDefault).mp
            (sound.belongs_of_named named holds)).1
      obtain ⟨middleSound, step⟩ := sound.memkindArenaMallocNoTcache ready allocated
      simp only at rest
      rcases step.allocate_cases with ⟨null, same⟩ | ⟨nonNull, unheld, usable, enough, updated⟩
      · rw [if_pos null] at rest
        obtain ⟨rfl, rfl⟩ := rest
        rw [same]
        exact ⟨middleSound, .defragKeep⟩
      · rw [if_neg nonNull] at rest
        obtain ⟨after, released, result⟩ := Option.map_eq_some_iff.mp rest
        obtain ⟨rfl, rfl⟩ := result
        have different : ptr ≠ new := by
          rintro rfl
          rw [entry] at unheld
          cases unheld
        have middleNamed : ∀ found, middle.holdings ptr = some found → found.1 = kind := by
          rw [updated, Function.update_of_ne different]
          exact named
        obtain ⟨afterSound, freed⟩ := middleSound.jemkDallocx TcacheState.serves_none
          middleNamed released
        refine ⟨afterSound, ?_⟩
        rcases freed.free_cases.2 with ⟨null, -⟩ | ⟨-, removed⟩
        · exact absurd null ptrNonNull
        · rw [removed, updated, Function.update_comm different.symm, ← named _ entry]
          exact .defragMove entry nonNull unheld enough

/-- `memkind_defrag_reallocate` -/
theorem TcacheState.Sound.defragReallocate (sound : state.Sound len) {asked : Option KindPtr}
    {checked : Bool}
    (named : ∀ kind, asked = some kind → ∀ entry, state.holdings ptr = some entry →
      entry.1 = kind)
    (called : state.defragReallocate allowZeroAllocs asked ptr checked outcome =
      some (new, next)) :
    next.Sound len ∧ PlainStep (.defragReallocate ptr) state.holdings new next.holdings := by
  unfold TcacheState.defragReallocate at called
  split at called
  · rename_i kind
    split at called
    · exact sound.memkindArenaDefragReallocate (named kind rfl) called
    · cases called
  · obtain ⟨detected, found, rest⟩ := Option.bind_eq_some_iff.mp called
    rcases sound.detectKind_cases found with ⟨rfl, rfl⟩ | ⟨-, kind, rfl, isKind⟩
    · obtain ⟨rfl, rfl⟩ := rest
      exact ⟨sound, .defragKeep⟩
    · exact sound.memkindArenaDefragReallocate isKind rest

end Calls

section Arenas

/-- Arenas have come or gone, and the caches are as before. -/
structure TcacheState.SameCaches (state next : TcacheState Thread) : Prop where
  tcaches : next.tcaches = state.tcaches
  created : next.created = state.created
  maps : next.tcacheMap = state.tcacheMap
  waiting : ∀ target, next.blocks.waiting target = state.blocks.waiting target

/-- When the static kinds keep their arenas, the caches keep their blocks. -/
theorem TcacheState.Sound.sameCaches (sound : state.Sound len) (same : state.SameCaches next)
    (arenas : next.ArenasSound len)
    (belongs : ∀ static arena, state.Belongs len (.library static) arena →
      next.Belongs len (.library static) arena)
    (held : ∀ ptr block, next.blocks.held ptr = some block →
      ∃ kind, next.Belongs len kind block.tag.home) : next.Sound len where
  caches := sound.caches.of_same same.tcaches same.created same.maps
  arenas := arenas
  accepted target ptr block waits := by
    rw [same.waiting] at waits
    have accepts := sound.accepted target ptr block waits
    cases target with
    | automatic thread => exact accepts
    | explicit index =>
        obtain ⟨exist, ⟨static, isStatic⟩, users⟩ := accepts
        refine ⟨?_, ⟨static, belongs _ _ isStatic⟩, ?_⟩
        · rw [same.created]
          exact exist
        · intro thread static uses
          refine belongs _ _ (users thread static ?_)
          unfold TcacheState.Uses at uses ⊢
          rwa [same.maps] at uses
  held := held

theorem TcacheState.createMap_spec {settings : ArenaSettings} {metadataUseHooks : Bool}
    {outcome : Nat → ArenaOutcome}
    (called : state.createMap len settings metadataUseHooks outcome kind = some next) :
    state.initialized kind = false ∧ kind ≠ memkindDefault ∧
      (∃ indices, memkindArenaCreateMap settings .success metadataUseHooks outcome kind
        state.arena = some (.success, indices, next.arena)) ∧
      (next.arena.kinds kind).arenaMapLen = len ∧
      next.initialized = Function.update state.initialized kind true ∧
      next.blocks = state.blocks ∧ state.SameCaches next := by
  unfold TcacheState.createMap at called
  split at called
  · cases called
  · rename_i idle
    rw [not_or] at idle
    split at called
    · rename_i indices arena created
      split at called
      · rename_i sized
        obtain rfl := Option.some.inj called
        exact ⟨Bool.eq_false_of_not_eq_true idle.1, idle.2, ⟨indices, created⟩, sized, rfl, rfl,
          rfl, rfl, rfl, fun _ => rfl⟩
      · cases called
    · cases called

/-- A further kind gets arenas. -/
theorem TcacheState.Sound.createMap (sound : state.Sound len) {settings : ArenaSettings}
    {metadataUseHooks : Bool} {outcome : Nat → ArenaOutcome}
    (called : state.createMap len settings metadataUseHooks outcome kind = some next) :
    next.Sound len ∧ PlainStep .silent state.holdings 0 next.holdings := by
  obtain ⟨idle, notDefault, ⟨indices, created⟩, sized, initialized, blocks, caches⟩ :=
    TcacheState.createMap_spec called
  obtain ⟨before, free, owned, live⟩ := sound.arenas.owned
  have stepped : arenaStep len (.create settings metadataUseHooks outcome kind)
      ⟨state.arena, before⟩ = some ⟨next.arena, Function.update before kind (some indices)⟩ := by
    simp only [arenaStep, ← live, idle, Bool.false_eq_true, if_false, created, sized, if_true]
  obtain ⟨rest, after⟩ := arenaStep_sound ⟨free, owned⟩ stepped
  have mono : ∀ other arena, state.Belongs len other arena → next.Belongs len other arena := by
    intro other arena belongs
    by_cases isDefault : other = memkindDefault
    · rw [isDefault, TcacheState.belongs_default] at belongs ⊢
      exact belongs
    · have different : other ≠ kind := by
        rintro rfl
        have isLive := ((TcacheState.belongs_of_ne isDefault).mp belongs).1
        rw [idle] at isLive
        cases isLive
      refine (TcacheState.belongs_congr ?_ (memkindArenaCreateMap_other created different)).mpr
        belongs
      rw [initialized, Function.update_of_ne different]
  have nextSound : next.Sound len := by
    refine sound.sameCaches caches ⟨⟨_, rest, after, ?_⟩, ?_⟩ (fun _ => mono _) ?_
    · intro other
      rw [initialized]
      by_cases same : other = kind
      · simp [same]
      · simp [same, live]
    · rw [initialized, Function.update_of_ne (Ne.symm notDefault)]
      exact sound.arenas.noDefault
    · intro ptr block holds
      rw [blocks] at holds
      obtain ⟨owner, belongs⟩ := sound.held ptr block holds
      exact ⟨owner, mono owner _ belongs⟩
  refine ⟨nextSound, ?_⟩
  have same : next.holdings = state.holdings := by
    funext ptr
    cases holds : state.blocks.held ptr with
    | none =>
        rw [state.holdings_eq_none holds]
        rw [← blocks] at holds
        exact next.holdings_eq_none holds
    | some block =>
        obtain ⟨owner, belongs⟩ := sound.held ptr block holds
        rw [state.holdings_eq_some holds, sound.arenas.kindOf_eq belongs]
        rw [← blocks] at holds
        rw [next.holdings_eq_some holds, nextSound.arenas.kindOf_eq (mono owner _ belongs)]
  rw [same]
  exact .silent

/-- The arenas of a kind as a test. -/
def TcacheState.inArenas (len : Nat) (state : TcacheState Thread) (kind : KindPtr) (index : Nat) :
    Bool :=
  (state.arena.kinds kind).arenaZero ≤ index ∧ index < (state.arena.kinds kind).arenaZero + len

theorem TcacheState.destroyMap_spec {address : Address}
    (called : state.destroyMap len address = some next) :
    state.initialized (.heap address) = true ∧
      memkindArenaDestroy (.heap address) state.arena = some next.arena ∧
      next.initialized = Function.update state.initialized (.heap address) false ∧
      (∀ ptr, next.blocks.held ptr = (state.blocks.held ptr).filter fun block =>
        !state.inArenas len (.heap address) block.tag.home) ∧
      state.SameCaches next := by
  unfold TcacheState.destroyMap at called
  split at called
  · rename_i initialized
    obtain ⟨arena, destroyed, rfl⟩ := Option.map_eq_some_iff.mp called
    obtain ⟨held, waiting⟩ := state.blocks.abandon_spec (state.inArenas len (.heap address))
    exact ⟨initialized, destroyed, rfl, congrFun held, rfl, rfl, rfl, waiting⟩
  · cases called

/-- The arenas of a dynamic kind are gone, and no cache holds a block of them. -/
theorem TcacheState.Sound.destroyMap (sound : state.Sound len) {address : Address}
    (called : state.destroyMap len address = some next) :
    next.Sound len ∧ PlainStep (.destroy (.heap address)) state.holdings 0 next.holdings := by
  obtain ⟨isLive, destroyed, initialized, held, caches⟩ := TcacheState.destroyMap_spec called
  obtain ⟨before, free, owned, live⟩ := sound.arenas.owned
  have stepped : arenaStep len (.destroy (.heap address)) ⟨state.arena, before⟩ =
      some ⟨next.arena, Function.update before (.heap address) none⟩ := by
    simp only [arenaStep, ← live, isLive, if_true, destroyed, Option.map_some]
  obtain ⟨rest, after⟩ := arenaStep_sound ⟨free, owned⟩ stepped
  have mono : ∀ other arena, other ≠ .heap address → state.Belongs len other arena →
      next.Belongs len other arena := by
    intro other arena different belongs
    refine (TcacheState.belongs_congr ?_
      (congrFun (memkindArenaDestroy_kinds destroyed) other)).mpr belongs
    rw [initialized, Function.update_of_ne different]
  have notDefault : KindPtr.heap address ≠ memkindDefault :=
    (KindPtr.library_ne_heap 0 address).symm
  have gone : ∀ owner arena, state.Belongs len owner arena →
      (owner = .heap address ↔ state.inArenas len (.heap address) arena = true) := by
    intro owner arena belongs
    rw [TcacheState.inArenas, decide_eq_true_iff]
    constructor
    · rintro rfl
      exact ((TcacheState.belongs_of_ne notDefault).mp belongs).2
    · intro range
      exact sound.arenas.unique belongs
        ((TcacheState.belongs_of_ne notDefault).mpr ⟨isLive, range⟩)
  have kept : ∀ ptr block, next.blocks.held ptr = some block →
      ∃ owner, owner ≠ .heap address ∧ state.Belongs len owner block.tag.home := by
    intro ptr block holds
    rw [held, Option.filter_eq_some_iff] at holds
    obtain ⟨owner, belongs⟩ := sound.held ptr block holds.1
    refine ⟨owner, fun same => ?_, belongs⟩
    have inside := (gone owner _ belongs).mp same
    rw [inside] at holds
    exact Bool.false_ne_true holds.2
  have nextSound : next.Sound len := by
    refine sound.sameCaches caches ⟨⟨_, rest, after, ?_⟩, ?_⟩
      (fun static arena => mono _ arena (KindPtr.library_ne_heap static address)) ?_
    · intro other
      rw [initialized]
      by_cases same : other = .heap address
      · simp [same]
      · simp [same, live]
    · rw [initialized, Function.update_of_ne notDefault.symm]
      exact sound.arenas.noDefault
    · intro ptr block holds
      obtain ⟨owner, different, belongs⟩ := kept ptr block holds
      exact ⟨owner, mono owner _ different belongs⟩
  refine ⟨nextSound, ?_⟩
  have removed : next.holdings =
      fun ptr => (state.holdings ptr).filter fun entry => entry.1 ≠ .heap address := by
    funext ptr
    have filtered := held ptr
    cases holds : state.blocks.held ptr with
    | none =>
        rw [holds, Option.filter_none] at filtered
        rw [state.holdings_eq_none holds, next.holdings_eq_none filtered, Option.filter_none]
    | some block =>
        obtain ⟨owner, belongs⟩ := sound.held ptr block holds
        rw [state.holdings_eq_some holds, sound.arenas.kindOf_eq belongs, Option.filter_some]
        rw [holds, Option.filter_some] at filtered
        by_cases same : owner = .heap address
        · rw [(gone owner _ belongs).mp same, Bool.not_true, if_neg Bool.false_ne_true] at filtered
          rw [next.holdings_eq_none filtered, if_neg (by simp [same])]
        · rw [Bool.eq_false_of_not_eq_true (mt (gone owner _ belongs).mpr same), Bool.not_false,
            if_pos rfl] at filtered
          rw [next.holdings_eq_some filtered,
            nextSound.arenas.kindOf_eq (mono owner _ same belongs), if_pos (by simp [same])]
  rw [removed]
  exact .destroy

/-- The end of a thread -/
theorem TcacheState.Sound.exit (sound : state.Sound len) {thread : Thread}
    (called : state.exit thread = some next) :
    next.Sound len ∧ PlainStep .silent state.holdings 0 next.holdings := by
  obtain ⟨after, ended, spec⟩ := sound.caches.exit_spec thread
  rw [ended] at called
  obtain rfl := Option.some.inj called
  have belongs_iff : ∀ kind arena, after.Belongs len kind arena ↔ state.Belongs len kind arena :=
    fun kind arena => TcacheState.belongs_congr (by rw [spec.initialized]) (by rw [spec.arena])
  refine ⟨⟨spec.sound, ⟨?_, ?_⟩, ?_, ?_⟩, ?_⟩
  · rw [spec.arena, spec.initialized]
    exact sound.arenas.owned
  · rw [spec.initialized]
    exact sound.arenas.noDefault
  · intro target ptr block waits
    obtain ⟨before, -, unused⟩ := spec.waiting target ptr block waits
    have accepts := sound.accepted target ptr block before
    cases target with
    | automatic other => exact accepts
    | explicit index =>
        obtain ⟨exist, ⟨static, isStatic⟩, users⟩ := accepts
        refine ⟨(spec.created index).mpr ⟨exist, unused index rfl⟩,
          ⟨static, (belongs_iff _ _).mpr isStatic⟩, ?_⟩
        intro other static uses
        exact (belongs_iff _ _).mpr (users other static ((spec.uses _ _ _).mp uses).2)
  · intro ptr block holds
    rw [spec.held] at holds
    obtain ⟨kind, belongs⟩ := sound.held ptr block holds
    exact ⟨kind, (belongs_iff _ _).mpr belongs⟩
  · rw [TcacheState.holdings_same spec.arena spec.held]
    exact .silent

end Arenas

theorem TcacheState.initial_sound (len : Nat) (kinds : KindPtr → ArenaKind) :
    (TcacheState.initial Thread kinds).Sound len where
  caches := .initial kinds
  arenas := ⟨⟨_, _, ArenaRun.initial_sound len (autoArenas + 1) kinds, fun _ => rfl⟩, rfl⟩
  accepted _ _ _ waits := by cases waits
  held _ _ holds := by cases holds

/-- Each call keeps the invariant and does what an allocator without caches does. -/
theorem cacheCall_refines {partition : KindPtr → Nat} {allowZeroAllocs : KindPtr → Bool}
    (static : StaticPartitions partition) (sound : state.Sound len) {call : CacheCall Thread}
    (named : NamesKind call state)
    (called : cacheCall partition allowZeroAllocs len call state = some (ptr, next)) :
    next.Sound len ∧ PlainStep call.plain state.holdings ptr next.holdings := by
  cases call with
  | create settings metadataUseHooks outcome kind =>
      obtain ⟨rfl, created⟩ := map_zero_eq_some called
      exact sound.createMap created
  | destroy address =>
      obtain ⟨rfl, destroyed⟩ := map_zero_eq_some called
      exact sound.destroyMap destroyed
  | allocate thread kind call outcome => exact sound.allocate static called
  | free thread kind ptr outcome =>
      obtain ⟨rfl, freed⟩ := map_zero_eq_some called
      refine sound.free static ?_ freed
      rintro kind rfl
      exact named
  | realloc thread kind ptr size outcome =>
      refine sound.realloc static ?_ called
      rintro kind rfl
      exact named
  | defragReallocate kind ptr checked outcome =>
      refine sound.defragReallocate ?_ called
      rintro kind rfl
      exact named
  | exit thread =>
      obtain ⟨rfl, ended⟩ := map_zero_eq_some called
      exact sound.exit ended

section Runs

variable {partition : KindPtr → Nat} {allowZeroAllocs : KindPtr → Bool}

theorem cacheStep_eq_some {call : CacheCall Thread}
    (stepped : cacheStep partition allowZeroAllocs len call state = some next) :
    ∃ ptr, cacheCall partition allowZeroAllocs len call state = some (ptr, next) := by
  obtain ⟨⟨ptr, after⟩, called, rfl⟩ := Option.map_eq_some_iff.mp stepped
  exact ⟨ptr, called⟩

/-- The invariant holds along every run whose calls name the kinds of their blocks. -/
theorem cacheRun_sound (static : StaticPartitions partition) {calls : List (CacheCall Thread)}
    (sound : state.Sound len)
    (named : Guarded (cacheStep partition allowZeroAllocs len) NamesKind state calls) :
    Always (cacheStep partition allowZeroAllocs len) (TcacheState.Sound len) state calls := by
  refine always_of_guarded _ ?_ sound named
  intro call before after beforeSound isNamed stepped
  obtain ⟨ptr, called⟩ := cacheStep_eq_some stepped
  exact (cacheCall_refines static beforeSound isNamed called).1

end Runs

/-- In every run of threads whose calls name the kinds of their blocks, each call does what an
allocator without caches does. -/
theorem cacheRun_refines {partition : KindPtr → Nat} (static : StaticPartitions partition)
    (allowZeroAllocs : KindPtr → Bool) (len : Nat) (kinds : KindPtr → ArenaKind)
    (calls : List (CacheCall Thread))
    (named : Guarded (cacheStep partition allowZeroAllocs len) NamesKind
      (TcacheState.initial Thread kinds) calls) :
    Guarded (cacheStep partition allowZeroAllocs len)
      (fun call state => ∀ ptr next,
        cacheCall partition allowZeroAllocs len call state = some (ptr, next) →
          PlainStep call.plain state.holdings ptr next.holdings)
      (TcacheState.initial Thread kinds) calls := by
  refine guarded_of_always _ ?_ (cacheRun_sound static (TcacheState.initial_sound len kinds) named)
    named
  intro call state next sound isNamed _ ptr after called
  exact (cacheCall_refines static sound isNamed called).2

/-- A call for which every other call succeeds. -/
def plainOutcome (supply : Supply) : CacheOutcome where
  choice := ⟨1, false, 0⟩
  getArena := true
  flag := ⟨true, true, true⟩
  supply := supply
  restock := ⟨true, []⟩
  relocation := .moved supply ⟨false, []⟩

/-- Two threads use `MEMKIND_HBW`: a block of one thread returns through the cache of the other. -/
def sharedBlocks : List (CacheCall Bool) :=
  let hbw : KindPtr := .library 1
  [.create twoArenas true (fun _ => ⟨true, none⟩) hbw,
    .allocate false hbw (.malloc 100) (plainOutcome (.fresh 0x1000 128 [(0x2000, 128)])),
    .allocate false hbw (.malloc 100) (plainOutcome (.fresh 0x3000 128 [(0x4000, 128)])),
    .free true none 0x1000 (plainOutcome .refused),
    .allocate true hbw (.malloc 64) (plainOutcome (.cached 0x1000)),
    .realloc false none 0x3000 5000 (plainOutcome (.fresh 0x8000 8192 [])),
    .free false (some hbw) 0x8000 (plainOutcome .refused), .exit false, .exit true]

theorem cacheRun_refines_sharedBlocks :
    (runSteps (cacheStep builtPartition (fun _ => false) 2)
      (TcacheState.initial Bool fun _ => ⟨.thread, 0, 0, 0⟩) sharedBlocks).isSome ∧
    Guarded (cacheStep builtPartition (fun _ => false) 2)
      (fun call state => ∀ ptr next,
        cacheCall builtPartition (fun _ => false) 2 call state = some (ptr, next) →
          PlainStep call.plain state.holdings ptr next.holdings)
      (TcacheState.initial Bool fun _ => ⟨.thread, 0, 0, 0⟩) sharedBlocks :=
  ⟨by decide +kernel, cacheRun_refines builtPartition_static _ 2 _ sharedBlocks (by decide +kernel)⟩

/-- After `memkind_destroy_kind` no block of the arenas that are gone is left, in the hands of a
caller or in a cache. -/
theorem cacheRun_destroy_leaves_none {partition : KindPtr → Nat}
    (static : StaticPartitions partition) (allowZeroAllocs : KindPtr → Bool)
    (kinds : KindPtr → ArenaKind) (calls : List (CacheCall Thread)) (address : Address)
    (named : Guarded (cacheStep partition allowZeroAllocs len) NamesKind
      (TcacheState.initial Thread kinds) calls)
    (ran : runSteps (cacheStep partition allowZeroAllocs len) (TcacheState.initial Thread kinds)
      calls = some state)
    (destroyed : state.destroyMap len address = some next) :
    ∀ ptr block, next.blocks.find ptr = some block →
      state.inArenas len (.heap address) block.tag.home = false := by
  have sound := (cacheRun_sound static (TcacheState.initial_sound len kinds) named).final _ ran
  obtain ⟨isLive, -, -, held, caches⟩ := TcacheState.destroyMap_spec destroyed
  have notDefault : KindPtr.heap address ≠ memkindDefault :=
    (KindPtr.library_ne_heap 0 address).symm
  intro ptr block found
  rw [Bool.eq_false_iff]
  intro inside
  have belongs : state.Belongs len (.heap address) block.tag.home := by
    rw [TcacheState.inArenas, decide_eq_true_iff] at inside
    exact (TcacheState.belongs_of_ne notDefault).mpr ⟨isLive, inside⟩
  cases cached : block.tag.cache with
  | none =>
      have holds := CachedHeap.held_eq_some.mpr ⟨found, cached⟩
      rw [held, Option.filter_eq_some_iff, inside] at holds
      exact Bool.false_ne_true holds.2
  | some target =>
      have waits := CachedHeap.waiting_eq_some.mpr ⟨found, cached⟩
      rw [caches.waiting] at waits
      have accepts := sound.accepted target ptr block waits
      cases target with
      | automatic thread =>
          exact notDefault (sound.arenas.unique belongs (TcacheState.belongs_default.mpr accepts))
      | explicit index =>
          obtain ⟨-, ⟨static, isStatic⟩, -⟩ := accepts
          cases sound.arenas.unique belongs isStatic

/-- A thread uses a dynamic kind and `MEMKIND_HBW`. -/
def filePool : List (CacheCall Bool) :=
  [.create twoArenas true (fun _ => ⟨true, none⟩) (.library 1),
    .create twoArenas true (fun _ => ⟨true, none⟩) (.heap 0x100),
    .allocate true (.library 1) (.malloc 64) (plainOutcome (.fresh 0x1000 64 [])),
    .allocate true (.heap 0x100) (.malloc 64) (plainOutcome (.fresh 0x2000 64 [])),
    .allocate true (.heap 0x100) (.malloc 64) (plainOutcome (.fresh 0x3000 64 [])),
    .free true none 0x2000 { plainOutcome .refused with restock := ⟨false, []⟩ }]

theorem cacheRun_destroy_leaves_none_filePool :
    ∃ state next : TcacheState Bool,
      runSteps (cacheStep builtPartition (fun _ => false) 2)
        (TcacheState.initial Bool fun _ => ⟨.thread, 0, 0, 0⟩) filePool = some state ∧
      state.destroyMap 2 0x100 = some next ∧
      ∀ ptr block, next.blocks.find ptr = some block →
        state.inArenas 2 (.heap 0x100) block.tag.home = false := by
  have enabled : ((runSteps (cacheStep builtPartition (fun _ => false) 2)
      (TcacheState.initial Bool fun _ => ⟨.thread, 0, 0, 0⟩) filePool).bind
        (TcacheState.destroyMap 2 0x100)).isSome := by decide +kernel
  obtain ⟨next, destroyed⟩ := Option.isSome_iff_exists.mp enabled
  obtain ⟨state, ran, destroyed⟩ := Option.bind_eq_some_iff.mp destroyed
  exact ⟨state, next, ran, destroyed, cacheRun_destroy_leaves_none builtPartition_static _ _
    filePool 0x100 (by decide +kernel) ran destroyed⟩

end Memkind
