/-
This file shows that a thread cache only holds blocks of the kind that it serves.
-/

import Memkind.Proof.Arena.Ownership
import Memkind.Proof.ThreadCache.Caches

namespace Memkind

open Library

variable {kind : KindPtr} {arena : Nat} {ptr : Address} {Thread : Type}
  {blocks : CachedHeap Nat (Tcache Thread)}

/-- The arena is one of the kind: an automatic one for `MEMKIND_DEFAULT`, one of the own range for
the others. -/
def TcacheState.Belongs (len : Nat) (state : TcacheState Thread) (kind : KindPtr) (arena : Nat) :
    Prop :=
  if kind = memkindDefault then arena ≤ autoArenas
  else state.initialized kind = true ∧ (state.arena.kinds kind).arenaZero ≤ arena ∧
    arena < (state.arena.kinds kind).arenaZero + len

/-- A block of the arena may wait in the cache. -/
def TcacheState.Accepts (len : Nat) (state : TcacheState Thread) (cache : Tcache Thread)
    (arena : Nat) : Prop :=
  match cache with
  | .automatic _ => arena ≤ autoArenas
  | .explicit index => state.created index = true ∧
      (∃ static, state.Belongs len (.library static) arena) ∧
      ∀ thread static, state.Uses thread static.val index →
        state.Belongs len (.library static) arena

/-- The kinds own their arenas. -/
structure TcacheState.ArenasSound (len : Nat) (state : TcacheState Thread) : Prop where
  owned : ∃ created free, ArenaRun.Sound len (autoArenas + 1) ⟨state.arena, created⟩ free ∧
    ∀ kind, state.initialized kind = (created kind).isSome
  noDefault : state.initialized memkindDefault = false

section Ownership

variable {len : Nat} {state next : TcacheState Thread}

theorem TcacheState.belongs_default :
    state.Belongs len memkindDefault arena ↔ arena ≤ autoArenas := by
  rw [Belongs, if_pos rfl]

theorem TcacheState.belongs_of_ne (named : kind ≠ memkindDefault) :
    state.Belongs len kind arena ↔ state.initialized kind = true ∧
      (state.arena.kinds kind).arenaZero ≤ arena ∧
      arena < (state.arena.kinds kind).arenaZero + len := by
  rw [Belongs, if_neg named]

theorem TcacheState.belongs_congr (initialized : next.initialized kind = state.initialized kind)
    (kinds : next.arena.kinds kind = state.arena.kinds kind) :
    next.Belongs len kind arena ↔ state.Belongs len kind arena := by
  rw [Belongs, Belongs, initialized, kinds]

namespace TcacheState.ArenasSound

/-- An arena of a kind leads back to the kind. -/
theorem registry (sound : state.ArenasSound len) (belongs : state.Belongs len kind arena) :
    arena < mallocxArenaMax ∧ (state.arena.arenaRegistry arena).getD memkindDefault = kind := by
  obtain ⟨⟨created, free, arenas, live⟩, -⟩ := sound
  by_cases isDefault : kind = memkindDefault
  · subst isDefault
    rw [belongs_default] at belongs
    refine ⟨by unfold mallocxArenaMax autoArenas at *; omega, ?_⟩
    rw [arenas.unregistered, Option.getD_none]
    intro other otherLive inside
    have low := (arenas.blocks.heldWithin other _ (ArenaRun.bases_eq_some otherLive)).1
    have above := inside.1
    simp only at low above
    omega
  · rw [belongs_of_ne isDefault] at belongs
    obtain ⟨initialized, range⟩ := belongs
    have isLive : ArenaRun.Live ⟨state.arena, created⟩ kind := by
      rw [ArenaRun.Live, ← live]
      exact initialized
    have within := arenas.within kind isLive
    refine ⟨by simp only at within; omega, ?_⟩
    rw [arenas.registered kind arena isLive range, Option.getD_some]

/-- An arena belongs to one kind at most. -/
theorem unique (sound : state.ArenasSound len) {other : KindPtr}
    (belongs : state.Belongs len kind arena) (otherBelongs : state.Belongs len other arena) :
    kind = other :=
  (sound.registry belongs).2.symm.trans (sound.registry otherBelongs).2

/-- `ops->get_arena` chooses an arena of the kind. -/
theorem choose_belongs (sound : state.ArenasSound len) (choice : ArenaChoice)
    (initialized : state.initialized kind = true) :
    state.Belongs len kind ((state.arena.kinds kind).choose choice) := by
  have named : kind ≠ memkindDefault := by
    rintro rfl
    rw [sound.noDefault] at initialized
    cases initialized
  obtain ⟨⟨created, free, arenas, live⟩, -⟩ := sound
  have isLive : ArenaRun.Live ⟨state.arena, created⟩ kind := by
    rw [ArenaRun.Live, ← live]
    exact initialized
  rw [belongs_of_ne named]
  refine ⟨initialized, ?_⟩
  have range := arenas.thread_inRange isLive choice.hash
  have positive := (arenas.sized kind isLive).1
  unfold ArenaKind.choose
  split
  · exact ⟨le_refl _, Nat.lt_add_of_pos_right positive⟩
  · split
    · exact range.2
    · exact range.1

end TcacheState.ArenasSound

end Ownership

variable [DecidableEq Thread]

/-- The caches and the arenas are sound, what waits in a cache belongs there, and every block that
a caller holds has a kind. -/
structure TcacheState.Sound (len : Nat) (state : TcacheState Thread) : Prop where
  caches : state.CachesSound
  arenas : state.ArenasSound len
  accepted : ∀ target ptr block, state.blocks.waiting target ptr = some block →
    state.Accepts len target block.tag.home
  held : ∀ ptr block, state.blocks.held ptr = some block →
    ∃ kind, state.Belongs len kind block.tag.home

/-- The cache can be used for the kind: what waits in it belongs to the kind, and a block of the
kind may wait there. -/
structure TcacheState.Serves (len : Nat) (state : TcacheState Thread) (kind : KindPtr)
    (cache : Option (Tcache Thread)) : Prop where
  out : ∀ target ptr block, cache = some target →
    state.blocks.waiting target ptr = some block → state.Belongs len kind block.tag.home
  into : ∀ target arena, cache = some target → state.Belongs len kind arena →
    state.Accepts len target arena

variable {len : Nat} {state next : TcacheState Thread} {kind : KindPtr}
  {cache : Option (Tcache Thread)}

/-- Without a cache there is nothing to show. -/
theorem TcacheState.serves_none : state.Serves len kind none := ⟨nofun, nofun⟩

/-- The cache of a thread serves the automatic arenas. -/
theorem TcacheState.Sound.serves_automatic (sound : state.Sound len) (thread : Thread) :
    state.Serves len memkindDefault (some (.automatic thread)) where
  out := by
    rintro target ptr block ⟨⟩ waits
    rw [belongs_default]
    exact sound.accepted _ ptr block waits
  into := by
    rintro target arena ⟨⟩ belongs
    rwa [belongs_default] at belongs

/-- What `get_tcache_flag` changes has no effect on the blocks in the caches. -/
theorem TcacheState.Sound.flag (sound : state.Sound len) {thread : Thread} {partition : Nat}
    (spec : state.FlagSpec thread partition cache next) : next.Sound len := by
  have belongs_iff : ∀ kind arena, next.Belongs len kind arena ↔ state.Belongs len kind arena :=
    fun kind arena => belongs_congr (by rw [spec.initialized]) (by rw [spec.arena])
  constructor
  · exact spec.sound
  · exact ⟨by rw [spec.arena, spec.initialized]; exact sound.arenas.owned,
      by rw [spec.initialized]; exact sound.arenas.noDefault⟩
  · intro target ptr block waits
    rw [spec.blocks] at waits
    have before := sound.accepted target ptr block waits
    cases target with
    | automatic other => exact before
    | explicit index =>
        obtain ⟨exist, ⟨static, belongs⟩, users⟩ := before
        refine ⟨spec.kept index exist, ⟨static, (belongs_iff _ _).mpr belongs⟩, ?_⟩
        intro other static uses
        rcases spec.usesNew other static.val index uses with usesBefore | ⟨-, absent⟩
        · exact (belongs_iff _ _).mpr (users other static usesBefore)
        · rw [exist] at absent
          cases absent
  · intro ptr block holds
    rw [spec.blocks] at holds
    obtain ⟨kind, belongs⟩ := sound.held ptr block holds
    exact ⟨kind, (belongs_iff _ _).mpr belongs⟩

/-- The cache that `get_tcache_flag` returns serves the static kind of the partition. -/
theorem TcacheState.Sound.flag_serves (sound : state.Sound len) {thread : Thread}
    {static : Fin numStaticKinds} (spec : state.FlagSpec thread static.val cache next) :
    next.Serves len (.library static) cache := by
  have after := sound.flag spec
  constructor
  · rintro target ptr block isTarget waits
    obtain ⟨index, rfl, -, -, -, uses | absent⟩ := spec.usable target isTarget
    · exact (after.accepted _ ptr block waits).2.2 thread static uses
    · rw [spec.blocks] at waits
      have exist := (sound.accepted _ ptr block waits).1
      rw [exist] at absent
      cases absent
  · rintro target arena isTarget belongs
    obtain ⟨index, rfl, -, exist, only, -⟩ := spec.usable target isTarget
    refine ⟨exist, ⟨static, belongs⟩, ?_⟩
    intro other otherStatic uses
    obtain ⟨-, same⟩ := only other otherStatic.val uses
    rw [Fin.ext same]
    exact belongs

/-- New blocks in a cache that serves a kind are accepted there. -/
theorem TcacheState.Sound.changes (sound : state.Sound len) {added : Nat → Prop}
    (serves : state.Serves len kind cache)
    (changes : CachedHeap.Changes cache added state.blocks blocks)
    (belongs : ∀ arena, added arena → state.Belongs len kind arena)
    (held : ∀ ptr block, blocks.held ptr = some block →
      ∃ kind, state.Belongs len kind block.tag.home) :
    TcacheState.Sound len { state with blocks } where
  caches := sound.caches.of_same rfl rfl rfl
  arenas := ⟨sound.arenas.owned, sound.arenas.noDefault⟩
  accepted := by
    intro target ptr block waits
    have accepted : state.Accepts len target block.tag.home := by
      by_cases touched : cache = some target
      · rcases changes.own target ptr block touched waits with before | new
        · exact sound.accepted target ptr block before
        · exact serves.into target _ touched (belongs _ new)
      · rw [changes.others target touched] at waits
        exact sound.accepted target ptr block waits
    cases target with
    | automatic other => exact accepted
    | explicit index => exact accepted
  held := held

/-- The blocks that callers hold after a change at one address. -/
theorem TcacheState.Sound.held_update (sound : state.Sound len)
    {held : Address → Option (HeapBlock (Placed Nat (Tcache Thread)))}
    {value : Option (HeapBlock (Placed Nat (Tcache Thread)))}
    (updated : held = Function.update state.blocks.held ptr value)
    (belongs : ∀ block, value = some block → state.Belongs len kind block.tag.home) :
    ∀ address block, held address = some block → ∃ kind, state.Belongs len kind block.tag.home := by
  subst updated
  intro address block holds
  by_cases same : address = ptr
  · subst same
    rw [Function.update_self] at holds
    exact ⟨kind, belongs block holds⟩
  · rw [Function.update_of_ne same] at holds
    exact sound.held address block holds

/-- A request for a kind through a cache that serves it returns nothing, or a block of the kind that
no caller holds. -/
theorem TcacheState.Sound.request (sound : state.Sound len) {size : SizeT}
    (serves : state.Serves len kind cache) (belongs : state.Belongs len kind arena)
    (requested : CachedHeap.Requested arena cache size ptr state.blocks blocks) :
    TcacheState.Sound len { state with blocks } ∧
      (ptr = 0 ∧ blocks.held = state.blocks.held ∨
        ptr ≠ 0 ∧ state.blocks.held ptr = none ∧ ∃ block, size ≤ block.usable ∧
          blocks.held = Function.update state.blocks.held ptr (some block) ∧
          state.Belongs len kind block.tag.home) := by
  have new : ∀ other, other = arena → state.Belongs len kind other := by
    rintro other rfl
    exact belongs
  rcases requested.result with ⟨rfl, same⟩ | ⟨nonNull, absent, block, -, enough, held, origin⟩
  · refine ⟨sound.changes serves requested.changes new ?_, Or.inl ⟨rfl, same⟩⟩
    rw [same]
    exact sound.held
  · have blockBelongs : state.Belongs len kind block.tag.home := by
      rcases origin with home | ⟨target, waits, isTarget, waiting, home⟩
      · exact new _ home
      · rw [← home]
        exact serves.out target ptr waits isTarget waiting
    refine ⟨sound.changes serves requested.changes new ?_,
      Or.inr ⟨nonNull, absent, block, enough, held, blockBelongs⟩⟩
    apply sound.held_update held
    rintro other ⟨⟩
    exact blockBelongs

/-- A block of the kind comes back through a cache that serves the kind. -/
theorem TcacheState.Sound.release (sound : state.Sound len)
    {block : HeapBlock (Placed Nat (Tcache Thread))} (serves : state.Serves len kind cache)
    (belongs : state.Belongs len kind block.tag.home)
    (held : blocks.held = Function.update state.blocks.held ptr none)
    (changes : CachedHeap.Changes cache (· = block.tag.home) state.blocks blocks) :
    TcacheState.Sound len { state with blocks } := by
  apply sound.changes serves changes
  · rintro other rfl
    exact belongs
  · have nothing : ∀ other : HeapBlock (Placed Nat (Tcache Thread)), none = some other →
        state.Belongs len kind other.tag.home := nofun
    exact sound.held_update held nothing

/-- A cache still serves a kind after blocks of the kind have entered it. -/
theorem TcacheState.Serves.changes (serves : state.Serves len kind cache) {added : Nat → Prop}
    (changes : CachedHeap.Changes cache added state.blocks blocks)
    (belongs : ∀ arena, added arena → state.Belongs len kind arena) :
    TcacheState.Serves len { state with blocks } kind cache where
  out target ptr block isTarget waits := by
    rcases changes.own target ptr block isTarget waits with before | new
    · exact serves.out target ptr block isTarget before
    · exact belongs _ new
  into target arena isTarget arenaBelongs := by
    have accepts := serves.into target arena isTarget arenaBelongs
    cases target with
    | automatic thread => exact accepts
    | explicit index => exact accepts

/-- A block of the kind changes its size through a cache that serves the kind: nothing happens, or a
block of the kind takes its place. -/
theorem TcacheState.Sound.reallocate (sound : state.Sound len) {size : SizeT} {new : Address}
    (serves : state.Serves len kind cache) (belongs : state.Belongs len kind arena)
    (oldBelongs : ∀ old, state.blocks.held ptr = some old → state.Belongs len kind old.tag.home)
    (reallocated : CachedHeap.Reallocated arena cache ptr size state.blocks new blocks) :
    TcacheState.Sound len { state with blocks } ∧ (state.blocks.held ptr).isSome ∧
      (new = 0 ∧ blocks.held = state.blocks.held ∨
        new ≠ 0 ∧ (new = ptr ∨ state.blocks.held new = none) ∧ ∃ block, size ≤ block.usable ∧
          blocks.held = Function.update (Function.update state.blocks.held ptr none) new
            (some block) ∧
          state.Belongs len kind block.tag.home) := by
  have ofArena : ∀ other, other = arena → state.Belongs len kind other := by
    rintro other rfl
    exact belongs
  cases reallocated with
  | @refused old next holds same changes =>
      refine ⟨sound.changes serves changes ofArena ?_, Option.isSome_of_mem holds,
        Or.inl ⟨rfl, same⟩⟩
      rw [same]
      exact sound.held
  | @resized old next usable holds enough held same =>
      have stays := oldBelongs old holds
      have nonNull : ptr ≠ 0 := by
        rintro rfl
        rw [CachedHeap.held_zero] at holds
        cases holds
      have unchanged : CachedHeap.Changes cache (fun _ => False) state.blocks blocks := .of_same same
      refine ⟨sound.changes serves unchanged (fun _ => False.elim) ?_, Option.isSome_of_mem holds,
        Or.inr ⟨nonNull, Or.inl rfl, { old with usable }, enough, ?_, stays⟩⟩
      · apply sound.held_update held
        rintro other ⟨⟩
        exact stays
      · rw [held, Function.update_idem]
  | @moved old new middle next holds nonNull requested held changes =>
      obtain ⟨middleSound, result⟩ := sound.request serves belongs requested
      obtain ⟨null, -⟩ | ⟨-, absent, block, enough, middleHeld, blockBelongs⟩ := result
      · exact absurd null nonNull
      · have different : ptr ≠ new := by
          rintro rfl
          rw [holds] at absent
          cases absent
        have middleServes := serves.changes requested.changes ofArena
        refine ⟨middleSound.release middleServes (oldBelongs old holds) held changes,
          Option.isSome_of_mem holds,
          Or.inr ⟨nonNull, Or.inr absent, block, enough, ?_, blockBelongs⟩⟩
        rw [held, middleHeld, Function.update_comm different]

end Memkind
