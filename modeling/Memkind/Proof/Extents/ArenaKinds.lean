/-
This file shows that the extent hooks of `memkind_arena.c` honour the contract of an arena: their
extents are new, aligned and zero, and they never unmap anything.
-/

import Memkind.Proof.Extents.Arena
import Memkind.Proof.Extents.Pages
import Memkind.Proof.Extents.Relations

namespace Memkind

open Library

variable {page : PageSize} {ops : MmapOps} {before : Nat → Option Backing} {held : Set Nat}

/-- A request of jemalloc to a kind of `memkind_arena.c`, and mappings that the system can make. -/
structure ArenaRequest (page : PageSize) (ops : MmapOps) (allocSize : SizeT → SizeT)
    (newAddr size alignment : Nat) (outcome : ArenaHookOutcome) (memory : ProcessMemory) :
    Prop where
  power : alignment.isPowerOfTwo
  large : page.size ≤ alignment
  hint : alignment ∣ newAddr
  address : newAddr < 2 ^ 64
  bounded : size + 2 ^ 21 + alignment < 2 ^ 64
  allowed : page.Allows (arenaExtentAlloc ops outcome.unavailable outcome.direct outcome.slow
    (BitVec.ofNat 64 newAddr) (allocSize (BitVec.ofNat 64 size)) (BitVec.ofNat 64 alignment) false
    false).events memory.mapped

/-- The memory of the process that the arenas hold was not in use before, and the memory that was
in use is unchanged. -/
structure ArenaBacks (before : Nat → Option Backing) (memory : ProcessMemory) (held : Set Nat) :
    Prop where
  mapped : ∀ address ∈ held, before address = none ∧
    ∃ byte, memory.pages address = some (.anonymous byte)
  kept : ∀ address, before address ≠ none → memory.pages address = before address

/-- The size that a hook for extents asks for has whole pages and is large enough. -/
def AllocSizeFits (page : PageSize) (allocSize : SizeT → SizeT) : Prop :=
  ∀ size : SizeT, page.size ∣ size.toNat → size.toNat + 2 ^ 21 < 2 ^ 64 →
    page.size ∣ (allocSize size).toNat ∧ size.toNat ≤ (allocSize size).toNat ∧
      (allocSize size).toNat ≤ size.toNat + 2 ^ 21

theorem allocSizeFits_id (page : PageSize) : AllocSizeFits page id :=
  fun _ pages _ => ⟨pages, le_rfl, Nat.le_add_right _ _⟩

theorem allocSizeFits_roundupHugePage (small : page.shift ≤ 21) :
    AllocSizeFits page roundupHugePage := by
  intro size pages bounded
  have power : (hugePageSize.toNat).isPowerOfTwo := ⟨21, rfl⟩
  have value : hugePageSize.toNat = 2 ^ 21 := rfl
  have rounded := toNat_and_not_pred power (size + (hugePageSize - 1))
  have pred : (hugePageSize - 1).toNat = 2 ^ 21 - 1 := rfl
  rw [BitVec.toNat_add, pred, value, Nat.mod_eq_of_lt (by omega)] at rounded
  have dvd : page.size ∣ 2 ^ 21 := Nat.pow_dvd_pow 2 small
  have upper := Nat.div_mul_le_self (size.toNat + (2 ^ 21 - 1)) (2 ^ 21)
  have lower := Nat.div_add_mod (size.toNat + (2 ^ 21 - 1)) (2 ^ 21)
  have remainder := Nat.mod_lt (size.toNat + (2 ^ 21 - 1)) (show 0 < 2 ^ 21 by decide)
  unfold roundupHugePage
  rw [rounded]
  refine ⟨Nat.dvd_trans dvd (Nat.dvd_mul_left _ _), ?_, ?_⟩
  · rw [Nat.mul_comm] at lower
    omega
  · omega

/-- An extent comes with both flags. -/
theorem arenaExtentAlloc_flags {unavailable : Bool} {direct slow : MmapOutcome}
    {newAddr : Address} {size alignment : SizeT} {zero commit : Bool}
    (found : (arenaExtentAlloc ops unavailable direct slow newAddr size alignment zero
      commit).addr ≠ 0) :
    (arenaExtentAlloc ops unavailable direct slow newAddr size alignment zero commit).commit =
      true := by
  revert found
  unfold arenaExtentAlloc
  dsimp only
  split
  · exact fun found => absurd rfl found
  · split
    · exact fun found => absurd rfl found
    · split
      · exact fun found => absurd rfl found
      · split
        · unfold ExtentAlloc.ofRetry
          split
          · exact fun found => absurd rfl found
          · exact fun _ => rfl
        · exact fun _ => rfl

/-- The flags that jemalloc passes have no influence on the mappings. -/
theorem arenaExtentAlloc_flags_irrelevant {unavailable : Bool} {direct slow : MmapOutcome}
    {newAddr : Address} {size alignment : SizeT} (zero commit : Bool) :
    (arenaExtentAlloc ops unavailable direct slow newAddr size alignment zero commit).events =
        (arenaExtentAlloc ops unavailable direct slow newAddr size alignment false false).events ∧
      (arenaExtentAlloc ops unavailable direct slow newAddr size alignment zero commit).addr =
        (arenaExtentAlloc ops unavailable direct slow newAddr size alignment false false).addr := by
  unfold arenaExtentAlloc ExtentAlloc.ofRetry
  dsimp only
  split_ifs <;> exact ⟨rfl, rfl⟩

/-- What the hook for extents leaves. -/
structure ArenaGrant (memory next : ProcessMemory) (addr size alignment : Nat) : Prop where
  aligned : alignment ∣ addr
  fresh : Disjoint (Set.Ico addr (addr + size)) memory.mapped
  zero : ∀ address ∈ Set.Ico addr (addr + size), next.pages address = some (.anonymous 0)
  kept : ∀ address ∈ memory.mapped, next.pages address = memory.pages address

section Contract

variable {page : PageSize} {ops : MmapOps} {allocSize : SizeT → SizeT} {hog : Bool}
  {newAddr size alignment : Nat} {zero commit : Bool} {outcome : ArenaHookOutcome}
  {memory next : ProcessMemory}

/-- The two results of a request: new pages with zeros, or nothing. -/
theorem arenaHookTable_alloc (sizes : AllocSizeFits page allocSize) (pages : page.size ∣ size)
    (request : ArenaRequest page ops allocSize newAddr size alignment outcome memory)
    {granted : Option ExtentGrant}
    (called : (arenaHookTable page ops allocSize hog).alloc newAddr size alignment zero commit
      outcome memory = some (granted, next)) :
    (granted = none ∧ next.pages = memory.pages) ∨
      ∃ grant, granted = some grant ∧ grant.commit = true ∧
        ArenaGrant memory next grant.addr size alignment := by
  have bounded := request.bounded
  have sizeNat : (BitVec.ofNat 64 size).toNat = size := by
    rw [BitVec.toNat_ofNat, Nat.mod_eq_of_lt (by omega)]
  have alignmentNat : (BitVec.ofNat 64 alignment).toNat = alignment := by
    rw [BitVec.toNat_ofNat, Nat.mod_eq_of_lt (by omega)]
  have addrNat : (BitVec.ofNat 64 newAddr).toNat = newAddr := by
    rw [BitVec.toNat_ofNat, Nat.mod_eq_of_lt request.address]
  obtain ⟨allocPages, above, below⟩ := sizes (BitVec.ofNat 64 size) (by rwa [sizeNat])
    (by rw [sizeNat]; omega)
  rw [sizeNat] at above below
  have power : (BitVec.ofNat 64 alignment).toNat.isPowerOfTwo := by
    rw [alignmentNat]
    exact request.power
  have large : page.size ≤ (BitVec.ofNat 64 alignment).toNat := by
    rw [alignmentNat]
    exact request.large
  have sum : (allocSize (BitVec.ofNat 64 size)).toNat + (BitVec.ofNat 64 alignment).toNat <
      2 ^ 64 := by
    rw [alignmentNat]
    omega
  have hint : (BitVec.ofNat 64 alignment).toNat ∣ (BitVec.ofNat 64 newAddr).toNat := by
    rw [alignmentNat, addrNat]
    exact request.hint
  have allowed := request.allowed
  rw [← (arenaExtentAlloc_flags_irrelevant zero commit).1] at allowed
  obtain ⟨effect, -⟩ := arenaExtentAlloc_effect allocPages power large hint sum allowed
  have flags := @arenaExtentAlloc_flags ops outcome.unavailable outcome.direct outcome.slow
    (BitVec.ofNat 64 newAddr) (allocSize (BitVec.ofNat 64 size)) (BitVec.ofNat 64 alignment) zero
    commit
  obtain ⟨isGranted, isNext⟩ := Prod.mk.inj (Option.some.inj called)
  subst isGranted isNext
  generalize arenaExtentAlloc ops outcome.unavailable outcome.direct outcome.slow
    (BitVec.ofNat 64 newAddr) (allocSize (BitVec.ofNat 64 size)) (BitVec.ofNat 64 alignment) zero
    commit = extent at effect flags
  cases effect with
  | refused null unchanged touched =>
      refine Or.inl ⟨if_pos null, funext fun address => ?_⟩
      have none : Disjoint (∅ : Set Nat) memory.mapped := (Set.disjoint_empty _).symm
      have same : page.after extent.events memory.mapped = memory.mapped ∪ ∅ := by
        rw [Set.union_empty]
        exact unchanged
      exact (ProcessMemory.applyEvents_grown touched none same).2 address (Set.notMem_empty _)
  | extent nonNull aligned fresh grown touched =>
      have nonNull : extent.addr ≠ 0 := nonNull
      obtain ⟨zeros, kept⟩ := ProcessMemory.applyEvents_grown touched fresh grown
      have inside : Set.Ico extent.addr.toNat (extent.addr.toNat + size) ⊆
          byteRange extent.addr (allocSize (BitVec.ofNat 64 size)) :=
        Set.Ico_subset_Ico (le_refl _) (by omega)
      refine Or.inr ⟨_, if_neg nonNull, flags nonNull, ?_, fresh.mono_left inside,
        fun address member => zeros address (inside member), fun address isMapped => ?_⟩
      · rw [alignmentNat] at aligned
        exact aligned
      · exact kept address fun member => Set.disjoint_left.mp fresh member isMapped

/-- Held memory is mapped. -/
theorem ArenaBacks.held_subset (backs : ArenaBacks before memory held) : held ⊆ memory.mapped := by
  intro address member
  obtain ⟨-, byte, mapped⟩ := backs.mapped address member
  show memory.pages address ≠ none
  rw [mapped]
  nofun

theorem ProcessMemory.read_anonymous {address : Nat} {byte : UInt8}
    (mapped : memory.pages address = some (.anonymous byte)) : memory.read address = some byte := by
  rw [ProcessMemory.read, mapped]

/-- The bytes of the process at pages that do not change. -/
theorem ArenaBacks.keeps {points : Set Nat} (backs : ArenaBacks before memory held)
    (inside : points ⊆ held)
    (kept : ∀ address ∈ points, next.pages address = memory.pages address) :
    processBytes.Keeps points memory next := by
  intro address member
  obtain ⟨-, byte, mapped⟩ := backs.mapped address (inside member)
  exact (ProcessMemory.read_anonymous ((kept address member).trans mapped)).trans
    (ProcessMemory.read_anonymous mapped).symm

/-- A call that changes some of the held bytes only. -/
theorem ArenaBacks.changed {points : Set Nat} (backs : ArenaBacks before memory held)
    (inside : points ⊆ held)
    (kept : ∀ address ∉ points, next.pages address = memory.pages address)
    (bytes : ∀ address ∈ points, ∃ byte, next.pages address = some (.anonymous byte)) :
    HookEffect processBytes (ArenaBacks before) (held \ points) held memory next := by
  refine ⟨⟨fun address member => ?_, fun address used => ?_⟩,
    backs.keeps Set.sdiff_subset fun address member => kept address member.2⟩
  · obtain ⟨unused, byte, mapped⟩ := backs.mapped address member
    refine ⟨unused, ?_⟩
    by_cases changed : address ∈ points
    · exact bytes address changed
    · exact ⟨byte, (kept address changed).trans mapped⟩
  · have outside : address ∉ points := fun changed =>
      used (backs.mapped address (inside changed)).1
    exact (kept address outside).trans (backs.kept address used)

/-- Less may be held. -/
theorem ArenaBacks.mono {fewer : Set Nat} (backs : ArenaBacks before memory held)
    (subset : fewer ⊆ held) : ArenaBacks before memory fewer :=
  ⟨fun address member => backs.mapped address (subset member), backs.kept⟩

/-- The hooks of the kinds of `memkind_arena.c` give zeros and honour the alignment. -/
theorem arenaHookTable_contract (sizes : AllocSizeFits page allocSize)
    (before : Nat → Option Backing) :
    HookContract processBytes (arenaHookTable page ops allocSize hog) page.size
      (ArenaRequest page ops allocSize) (fun _ => True) (fun _ => True) (ArenaBacks before) True True where
  granted := by
    intro newAddr size alignment zero commit outcome memory next grant held backs pages request called
    obtain ⟨refused, -⟩ | ⟨given, isGiven, committed, granted⟩ :=
      arenaHookTable_alloc sizes pages request called
    · cases refused
    · obtain rfl := Option.some.inj isGiven
      have apart : Disjoint (Set.Ico grant.addr (grant.addr + size)) held :=
        granted.fresh.mono_right backs.held_subset
      have kept : ∀ address ∈ held, next.pages address = memory.pages address := fun address member =>
        granted.kept address (backs.held_subset member)
      have dvd : page.size ∣ alignment := by
        obtain ⟨exponent, equal⟩ := request.power
        have large := request.large
        rw [equal] at large ⊢
        exact Nat.pow_dvd_pow 2 ((Nat.pow_le_pow_iff_right (by decide)).mp large)
      refine ⟨⟨⟨fun address member => ?_, fun address used => ?_⟩, backs.keeps subset_rfl kept⟩, apart,
        Nat.dvd_trans dvd granted.aligned, committed, fun _ => granted.aligned,
        fun _ address member => ProcessMemory.read_anonymous (granted.zero address member)⟩
      · obtain isNew | isHeld := member
        · refine ⟨?_, 0, granted.zero address isNew⟩
          by_contra used
          have mapped : address ∈ memory.mapped := by
            show memory.pages address ≠ none
            rw [backs.kept address used]
            exact used
          exact Set.disjoint_left.mp granted.fresh isNew mapped
        · rw [kept address isHeld]
          exact backs.mapped address isHeld
      · have mapped : address ∈ memory.mapped := by
          show memory.pages address ≠ none
          rw [backs.kept address used]
          exact used
        exact (granted.kept address mapped).trans (backs.kept address used)
  refused := by
    intro newAddr size alignment zero commit outcome memory next held backs pages request called
    obtain ⟨-, same⟩ | ⟨given, isGiven, -⟩ := arenaHookTable_alloc sizes pages request called
    · refine ⟨⟨?_, ?_⟩, backs.keeps subset_rfl fun address _ => congrFun same address⟩
      · rw [same]
        exact backs.mapped
      · rw [same]
        exact backs.kept
    · cases isGiven
  dalloc := by
    intro addr size outcome memory failed next held _ backs _ _ _ called
    obtain ⟨rfl, rfl⟩ := Prod.mk.inj (Option.some.inj called)
    exact .refl backs _
  purge := by
    intro addr size outcome memory held backs inside
    cases hog with
    | true => exact .refl backs _
    | false =>
        show HookEffect processBytes (ArenaBacks before) _ held memory
          (if outcome.madviseFailed then memory else memory.dontneed (addr + 0) size)
        split
        · exact .refl backs _
        · rw [Nat.add_zero]
          refine backs.changed inside (fun address outside => ?_) fun address member => ?_
          · exact ProcessMemory.remap_of_notMem outside
          · obtain ⟨-, byte, mapped⟩ := backs.mapped address (inside member)
            refine ⟨0, ?_⟩
            rw [ProcessMemory.dontneed, ProcessMemory.remap_of_mem member, mapped]
  destroy := by
    intro addr size outcome memory held _ backs _ _ _
    exact .refl (backs.mono Set.sdiff_subset) _
  write := by
    intro address byte memory held backs member
    obtain ⟨-, old, mapped⟩ := backs.mapped address member
    have written : processBytes.write memory address byte =
        { memory with pages := Function.update memory.pages address (some (.anonymous byte)) } := by
      show memory.write address byte = _
      rw [ProcessMemory.write, mapped]
    have stored : (processBytes.write memory address byte).pages address =
        some (.anonymous byte) := by
      rw [written]
      exact Function.update_self ..
    refine ⟨backs.changed (Set.singleton_subset_iff.mpr member) (fun other different => ?_) ?_,
      ProcessMemory.read_anonymous stored⟩
    · rw [written]
      exact Function.update_of_ne different ..
    · rintro other rfl
      exact ⟨byte, stored⟩
  decommits _ _ _ _ := rfl
  splits _ _ _ _ := rfl

end Contract

/-- The size that the hook for extents of a kind asks for. -/
def allocSizeOf (hugetlb : Bool) : SizeT → SizeT := if hugetlb then roundupHugePage else id

theorem getExtentHooksByKind_eq (page : PageSize) (ops : MmapOps) (hugetlb hogMemory : Bool) :
    getExtentHooksByKind page ops hugetlb hogMemory =
      arenaHookTable page ops (allocSizeOf hugetlb) hogMemory := by
  cases hugetlb <;> cases hogMemory <;> rfl

theorem allocSizeFits_of (small : page.shift ≤ 21) (hugetlb : Bool) :
    AllocSizeFits page (allocSizeOf hugetlb) := by
  cases hugetlb with
  | false => exact allocSizeFits_id page
  | true => exact allocSizeFits_roundupHugePage small

/-- The calls of jemalloc to an arena of a kind of `memkind_arena.c`. -/
abbrev ArenaCallsValid (page : PageSize) (ops : MmapOps) (hugetlb hogMemory : Bool)
    (memory : ProcessMemory) (calls : List (ExtentCall ArenaHookOutcome)) : Prop :=
  Guarded (extentStep processBytes (getExtentHooksByKind page ops hugetlb hogMemory) page.size)
    (ExtentCall.Valid page.size (ArenaRequest page ops (allocSizeOf hugetlb)) (fun _ => True)
      fun _ => True) ⟨memory, [], none⟩ calls

/-- An arena returns extents as they are asked for, its extents are new memory of its own, and the
rest of the process keeps its memory. -/
structure ArenaServes (before : ProcessMemory) (arena : ExtentArena ProcessMemory) : Prop where
  aligned : ∀ returned, arena.returned = some returned →
    returned.alignment ∣ returned.extent.start
  zero : ∀ returned, arena.returned = some returned → returned.zero = true →
    ∀ address ∈ returned.extent.range, arena.state.read address = some 0
  apart : arena.extents.Pairwise fun first second => Disjoint first.range second.range
  new : ∀ address ∈ arena.held, before.pages address = none ∧ arena.state.pages address ≠ none
  others : ∀ address, before.pages address ≠ none →
    arena.state.pages address = before.pages address

/-- Whatever jemalloc does with the extents of a kind of `memkind_arena.c`, whatever the user stores
and whichever calls fail: the arena serves its requests. -/
theorem arenaKind_serves (page : PageSize) (small : page.shift ≤ 21) (ops : MmapOps)
    (hugetlb hogMemory : Bool) (memory : ProcessMemory)
    (calls : List (ExtentCall ArenaHookOutcome))
    (valid : ArenaCallsValid page ops hugetlb hogMemory memory calls) :
    Always (extentStep processBytes (getExtentHooksByKind page ops hugetlb hogMemory) page.size)
      (ArenaServes memory) ⟨memory, [], none⟩ calls := by
  unfold ArenaCallsValid at valid
  rw [getExtentHooksByKind_eq] at valid ⊢
  have contract := @arenaHookTable_contract page ops (allocSizeOf hugetlb) hogMemory
    (allocSizeFits_of small hugetlb) memory.pages
  have start : ExtentArena.Sound processBytes page.size (ArenaBacks memory.pages) True True
      ⟨memory, [], none⟩ :=
    .initial ⟨fun _ member => (nomatch member), fun _ _ => rfl⟩
  refine Always.imp _ (fun arena sound => ?_) (extentRun_sound contract start valid)
  refine ⟨fun returned isReturned => ?_, fun returned isReturned asked => ?_, sound.tiles.apart,
    fun address member => ?_, sound.backed.kept⟩
  · exact (sound.delivered returned isReturned).aligned (Or.inl trivial)
  · exact (sound.delivered returned isReturned).zero trivial asked
  · exact ⟨(sound.backed.mapped address member).1, sound.backed.held_subset member⟩

/-- A mapping of four pages for a process without memory. -/
def fourPagesOutcome : ArenaHookOutcome :=
  ⟨false, ⟨false, some 0x10000, false, false⟩, ⟨false, none, false, false⟩, false⟩

/-- The system may map the four pages. -/
theorem fourPagesOutcome_request :
    ArenaRequest ⟨12, by decide⟩ ⟨true, true, true⟩ (allocSizeOf false) 0 0x4000 0x1000
      fourPagesOutcome emptyMemory := by
  have events : (arenaExtentAlloc ⟨true, true, true⟩ false fourPagesOutcome.direct
      fourPagesOutcome.slow 0 (allocSizeOf false (BitVec.ofNat 64 0x4000)) (BitVec.ofNat 64 0x1000)
      false false).events = [.map 0x10000 0x4000] := by decide +kernel
  refine ⟨⟨12, rfl⟩, by decide, by decide, by decide, by decide, ?_⟩
  show PageSize.Allows _ (arenaExtentAlloc ⟨true, true, true⟩ false fourPagesOutcome.direct
    fourPagesOutcome.slow 0 (allocSizeOf false (BitVec.ofNat 64 0x4000)) (BitVec.ofNat 64 0x1000)
    false false).events emptyMemory.mapped
  rw [events, emptyMemory_mapped]
  exact ⟨⟨by decide, by decide, by decide, by decide, Set.disjoint_empty _⟩, trivial⟩

theorem arenaKind_serves_reusedPage :
    let page : PageSize := ⟨12, by decide⟩
    ArenaCallsValid page ⟨true, true, true⟩ false false emptyMemory (reusedPage fourPagesOutcome) ∧
      ∃ final, runSteps (extentStep processBytes
          (getExtentHooksByKind page ⟨true, true, true⟩ false false) page.size)
          ⟨emptyMemory, [], none⟩ (reusedPage fourPagesOutcome) = some final ∧
        final.returned = some ⟨⟨0x10000, 0x1000, .active, false, true⟩, 0x1000, true, false⟩ ∧
        final.state.read 0x10010 = some 0 := by
  intro page
  have valid : ArenaCallsValid page ⟨true, true, true⟩ false false emptyMemory
      (reusedPage fourPagesOutcome) := reusedPage_valid fourPagesOutcome_request
  refine ⟨valid, ?_⟩
  have computed : ((runSteps (extentStep processBytes
      (getExtentHooksByKind page ⟨true, true, true⟩ false false) page.size)
      ⟨emptyMemory, [], none⟩ (reusedPage fourPagesOutcome)).bind ExtentArena.returned) =
        some ⟨⟨0x10000, 0x1000, .active, false, true⟩, 0x1000, true, false⟩ := by
    decide +kernel
  obtain ⟨final, ran, returned⟩ := Option.bind_eq_some_iff.mp computed
  have serves := (arenaKind_serves page (by decide) ⟨true, true, true⟩ false false emptyMemory
    (reusedPage fourPagesOutcome) valid).final _ ran
  exact ⟨final, ran, returned, serves.zero _ returned rfl 0x10010 ⟨by decide, by decide⟩⟩

/-- No call of a hook of `memkind_arena.c` and no store unmaps anything. -/
theorem arenaHookTable_relation {allocSize : SizeT → SizeT} {hog : Bool}
    (sizes : AllocSizeFits page allocSize) :
    HookRelation processBytes (arenaHookTable page ops allocSize hog) page.size
      (ArenaRequest page ops allocSize) (fun _ => True) (fun _ => True)
      fun memory next => memory.mapped ⊆ next.mapped where
  refl _ := subset_rfl
  trans := fun first second => first.trans second
  alloc := by
    intro newAddr size alignment zero commit outcome memory granted next pages request called
      address mapped
    show next.pages address ≠ none
    obtain ⟨-, same⟩ | ⟨grant, -, -, granted⟩ := arenaHookTable_alloc sizes pages request called
    · rw [same]
      exact mapped
    · rw [granted.kept address mapped]
      exact mapped
  dalloc := by
    intro addr size outcome memory failed next _ called
    obtain ⟨-, rfl⟩ := Prod.mk.inj (Option.some.inj called)
    exact subset_rfl
  purge := by
    intro addr size outcome memory
    cases hog with
    | true => exact subset_rfl
    | false =>
        show memory.mapped ⊆ ProcessMemory.mapped
          (if outcome.madviseFailed then memory else memory.dontneed (addr + 0) size)
        split
        · exact subset_rfl
        · intro address mapped
          show (memory.dontneed (addr + 0) size).pages address ≠ none
          by_cases inside : address ∈ Set.Ico (addr + 0) (addr + 0 + size)
          · rw [ProcessMemory.dontneed, ProcessMemory.remap_of_mem inside]
            split
            · nofun
            · exact mapped
          · rw [ProcessMemory.dontneed, ProcessMemory.remap_of_notMem inside]
            exact mapped
  destroy := fun _ => subset_rfl
  write := by
    intro address byte memory other mapped
    show (memory.write address byte).pages other ≠ none
    rw [ProcessMemory.write]
    split
    · exact mapped
    · by_cases same : other = address
      · rw [same]
        dsimp only
        rw [Function.update_self]
        nofun
      · dsimp only
        rw [Function.update_of_ne same]
        exact mapped
    · exact mapped

/-- The memory of a kind of `memkind_arena.c` is never unmapped: not when jemalloc gives extents
back, and not when its arenas are destroyed. -/
theorem arenaKind_never_unmaps (page : PageSize) (small : page.shift ≤ 21) (ops : MmapOps)
    (hugetlb hogMemory : Bool) (memory : ProcessMemory)
    (first second : List (ExtentCall ArenaHookOutcome))
    (valid : ArenaCallsValid page ops hugetlb hogMemory memory (first ++ second))
    (middle final : ExtentArena ProcessMemory)
    (ranFirst : runSteps (extentStep processBytes
      (getExtentHooksByKind page ops hugetlb hogMemory) page.size) ⟨memory, [], none⟩ first =
        some middle)
    (ranSecond : runSteps (extentStep processBytes
      (getExtentHooksByKind page ops hugetlb hogMemory) page.size) middle second = some final) :
    middle.state.mapped ⊆ final.state.mapped := by
  have later := valid.drop _ ranFirst
  rw [getExtentHooksByKind_eq] at later ranSecond
  exact extentRun_related (arenaHookTable_relation (allocSizeFits_of small hugetlb)) later ranSecond

/-- An arena with two extents, one of them in use, is destroyed. -/
def destroyedPages : List (ExtentCall ArenaHookOutcome) :=
  [.cacheDalloc ⟨0x10000, 0x1000, .active, true, true⟩,
    .dallocWrapper ⟨0x10000, 0x1000, .dirty, false, true⟩ fourPagesOutcome fourPagesOutcome,
    .destroy ⟨0x10000, 0x1000, .retained, false, true⟩ fourPagesOutcome,
    .destroy ⟨0x11000, 0x3000, .retained, true, true⟩ fourPagesOutcome]

theorem arenaKind_never_unmaps_destroyedPages :
    let page : PageSize := ⟨12, by decide⟩
    let step := extentStep processBytes
      (getExtentHooksByKind page ⟨true, true, true⟩ false false) page.size
    ArenaCallsValid page ⟨true, true, true⟩ false false emptyMemory
        (usedPage fourPagesOutcome ++ destroyedPages) ∧
      ∃ middle final, runSteps step ⟨emptyMemory, [], none⟩ (usedPage fourPagesOutcome) =
          some middle ∧
        runSteps step middle destroyedPages = some final ∧ final.extents = [] ∧
        0x10010 ∈ final.state.mapped := by
  intro page step
  have valid : ArenaCallsValid page ⟨true, true, true⟩ false false emptyMemory
      (usedPage fourPagesOutcome ++ destroyedPages) := by
    refine (usedPage_valid fourPagesOutcome_request).append _ fun middle _ => ?_
    exact fun _ _ => ⟨trivial, fun _ _ => ⟨trivial, fun _ _ => ⟨trivial, fun _ _ =>
      ⟨trivial, trivial⟩⟩⟩⟩
  refine ⟨valid, ?_⟩
  have computed : (runSteps step ⟨emptyMemory, [], none⟩ (usedPage fourPagesOutcome)).bind
      (fun middle => (runSteps step middle destroyedPages).bind fun final =>
        if (middle.state.pages 0x10010).isSome then some final.extents else none) = some [] := by
    decide +kernel
  obtain ⟨middle, ranFirst, rest⟩ := Option.bind_eq_some_iff.mp computed
  obtain ⟨final, ranSecond, rest⟩ := Option.bind_eq_some_iff.mp rest
  have mapped : (middle.state.pages 0x10010).isSome := by
    by_contra unmapped
    rw [if_neg unmapped] at rest
    cases rest
  rw [if_pos mapped] at rest
  have isMapped : 0x10010 ∈ middle.state.mapped := Option.isSome_iff_ne_none.mp mapped
  exact ⟨middle, final, ranFirst, ranSecond, Option.some.inj rest,
    arenaKind_never_unmaps page (by decide) ⟨true, true, true⟩ false false emptyMemory
      (usedPage fourPagesOutcome) destroyedPages valid middle final ranFirst ranSecond isMapped⟩

end Memkind
