/-
This file shows which pages `hbw_verify_memory_region` examines and when its answer rests on them.
-/

import Memkind.Construction.HbwVerify
import Memkind.Library.PowerMasks
import Memkind.Library.Strides

namespace Memkind

open Library

section Blocks

variable (page : PageSize)

theorem PageSize.bytes_eq : page.bytes = BitVec.ofNat 64 page.size := rfl

theorem ofNat_lt_ofNat {first second : Nat} (firstFits : first < 2 ^ 64)
    (secondFits : second < 2 ^ 64) :
    BitVec.ofNat 64 first < BitVec.ofNat 64 second ↔ first < second := by
  rw [BitVec.lt_def, BitVec.toNat_ofNat, BitVec.toNat_ofNat, Nat.mod_eq_of_lt firstFits,
    Nat.mod_eq_of_lt secondFits]

/-- The inner loop collects the pages below a limit that the arrays have room for. -/
theorem collectPages_eq {room cursor limit : Nat} (fits : cursor + room * page.size < 2 ^ 64)
    (short : limit ≤ cursor + room * page.size) :
    collectPages page (BitVec.ofNat 64 limit) room (BitVec.ofNat 64 cursor) =
      some ((strides page.size cursor limit).map (BitVec.ofNat 64),
        BitVec.ofNat 64 (cursor + (strides page.size cursor limit).length * page.size)) := by
  have positive := page.size_pos
  induction room generalizing cursor with
  | zero =>
      have reached : ¬BitVec.ofNat 64 cursor < BitVec.ofNat 64 limit := by
        rw [ofNat_lt_ofNat (by omega) (by omega)]
        omega
      rw [collectPages, if_neg reached, strides_nil (by omega) positive]
      simp
  | succ room ih =>
      rw [Nat.succ_mul] at fits short
      have compared := @ofNat_lt_ofNat cursor limit (by omega) (by omega)
      rw [collectPages]
      by_cases below : cursor < limit
      · have next : BitVec.ofNat 64 cursor + page.bytes = BitVec.ofNat 64 (cursor + page.size) := by
          rw [page.bytes_eq, BitVec.ofNat_add]
        rw [if_pos (compared.mpr below), next, ih (by omega) (by omega),
          strides_cons below positive, Option.map_some, List.map_cons, List.length_cons,
          Nat.succ_mul, Nat.add_right_comm, ← Nat.add_assoc]
      · rw [if_neg fun less => below (compared.mp less), strides_nil (by omega) positive]
        simp

/-- The pages of the block at a cursor. -/
def PageSize.block (cursor stop : Nat) : List Nat :=
  strides page.size cursor (min stop (cursor + blockSize * page.size))

/-- A block that ends within the address space. -/
theorem collectPages_block {cursor stop : Nat} (fits : cursor + blockSize * page.size < 2 ^ 64)
    (inside : stop < 2 ^ 64) :
    collectPages page (iterEnd page (BitVec.ofNat 64 stop) (BitVec.ofNat 64 cursor)) blockSize
        (BitVec.ofNat 64 cursor) =
      some ((page.block cursor stop).map (BitVec.ofNat 64),
        BitVec.ofNat 64 (cursor + (page.block cursor stop).length * page.size)) := by
  have blockEnd : iterEnd page (BitVec.ofNat 64 stop) (BitVec.ofNat 64 cursor) =
      BitVec.ofNat 64 (min stop (cursor + blockSize * page.size)) := by
    have compared := ofNat_lt_ofNat inside fits
    rw [iterEnd, page.bytes_eq, ← BitVec.ofNat_mul, ← BitVec.ofNat_add]
    by_cases below : stop < cursor + blockSize * page.size
    · rw [if_pos (compared.mpr below), Nat.min_eq_left (by omega)]
    · rw [if_neg fun less => below (compared.mp less), Nat.min_eq_right (by omega)]
  rw [blockEnd]
  exact collectPages_eq page fits (Nat.min_le_right _ _)

/-- A block that would end behind the address space has no pages, and the cursor stays. -/
theorem collectPages_wraps {cursor stop : Nat} (wraps : 2 ^ 64 ≤ cursor + blockSize * page.size)
    (below : cursor < stop) (inside : stop < 2 ^ 64) :
    collectPages page (iterEnd page (BitVec.ofNat 64 stop) (BitVec.ofNat 64 cursor)) blockSize
        (BitVec.ofNat 64 cursor) = some ([], BitVec.ofNat 64 cursor) := by
  have wrapped : (cursor + blockSize * page.size) % 2 ^ 64 ≤ cursor := by
    by_cases small : blockSize * page.size < 2 ^ 64
    · omega
    · have multiple : 2 ^ 64 ∣ blockSize * page.size := by
        have product : blockSize * page.size = 2 ^ (6 + page.shift) := by
          rw [PageSize.size, Nat.pow_add]
          rfl
        rw [product] at small ⊢
        apply Nat.pow_dvd_pow
        by_contra less
        exact small (Nat.pow_lt_pow_right (by decide) (by omega))
      omega
  have blockEnd : iterEnd page (BitVec.ofNat 64 stop) (BitVec.ofNat 64 cursor) =
      BitVec.ofNat 64 ((cursor + blockSize * page.size) % 2 ^ 64) := by
    have reduced : BitVec.ofNat 64 cursor + BitVec.ofNat 64 blockSize * page.bytes =
        BitVec.ofNat 64 ((cursor + blockSize * page.size) % 2 ^ 64) := by
      rw [page.bytes_eq, ← BitVec.ofNat_mul, ← BitVec.ofNat_add]
      apply BitVec.eq_of_toNat_eq
      rw [BitVec.toNat_ofNat, BitVec.toNat_ofNat, Nat.mod_mod]
    have compared := ofNat_lt_ofNat inside
      (Nat.mod_lt (cursor + blockSize * page.size) (Nat.two_pow_pos 64))
    rw [iterEnd, reduced, if_neg fun less => absurd (compared.mp less) (by omega)]
  have reached : ¬BitVec.ofNat 64 cursor <
      BitVec.ofNat 64 ((cursor + blockSize * page.size) % 2 ^ 64) := by
    rw [ofNat_lt_ofNat (by omega) (Nat.mod_lt _ (Nat.two_pow_pos 64))]
    omega
  rw [blockEnd]
  exact if_neg reached

/-- The blocks of a region end within the address space. -/
def PageSize.BlocksFit (cursor stop : Nat) : Prop :=
  cursor + (stop - cursor + blockSize * page.size - 1) / (blockSize * page.size) *
    (blockSize * page.size) < 2 ^ 64

theorem PageSize.blockBytes_pos : 0 < blockSize * page.size :=
  Nat.mul_pos (by decide) page.size_pos

/-- The number of blocks of a region that is not empty. -/
theorem PageSize.blocksFit_iff {cursor stop : Nat} (below : cursor < stop) :
    page.BlocksFit cursor stop ↔ cursor + blockSize * page.size < 2 ^ 64 ∧
      (cursor + blockSize * page.size < stop →
        page.BlocksFit (cursor + blockSize * page.size) stop) := by
  have positive := page.blockBytes_pos
  unfold BlocksFit
  generalize blockSize * page.size = bytes at positive ⊢
  by_cases last : stop ≤ cursor + bytes
  · have one : (stop - cursor + bytes - 1) / bytes = 1 := by
      have split : stop - cursor + bytes - 1 = (stop - cursor - 1) + bytes := by omega
      rw [split, Nat.add_div_right _ positive, Nat.div_eq_of_lt (by omega)]
    rw [one, Nat.one_mul]
    exact ⟨fun fits => ⟨fits, fun more => absurd more (by omega)⟩, And.left⟩
  · have more : (stop - cursor + bytes - 1) / bytes =
        (stop - (cursor + bytes) + bytes - 1) / bytes + 1 := by
      have split : stop - cursor + bytes - 1 = (stop - (cursor + bytes) + bytes - 1) + bytes := by
        omega
      rw [split, Nat.add_div_right _ positive]
    rw [more, Nat.succ_mul]
    constructor
    · intro fits
      exact ⟨by omega, fun _ => by omega⟩
    · intro ⟨_, later⟩
      have fits := later (by omega)
      omega

/-- A block is not empty, fits into the arrays, and stands before the rest of the pages. -/
theorem PageSize.block_cut {cursor stop : Nat} (below : cursor < stop) :
    cursor ∈ page.block cursor stop ∧ (page.block cursor stop).length ≤ blockSize ∧
      strides page.size cursor stop = page.block cursor stop ++
        strides page.size (cursor + (page.block cursor stop).length * page.size) stop := by
  have positive := page.size_pos
  have room := page.blockBytes_pos
  refine ⟨?_, strides_length_le positive (Nat.min_le_right _ _),
    strides_append positive (Nat.min_le_left _ _)⟩
  rw [block, strides_cons (by omega) positive]
  exact List.mem_cons_self

/-- The cursor after a block stands at the next block or behind the region. -/
theorem PageSize.block_next {cursor stop : Nat} :
    (cursor + blockSize * page.size < stop ∧
      cursor + (page.block cursor stop).length * page.size = cursor + blockSize * page.size) ∨
    stop ≤ cursor + (page.block cursor stop).length * page.size := by
  have positive := page.size_pos
  unfold block
  by_cases more : cursor + blockSize * page.size < stop
  · rw [Nat.min_eq_right (by omega), strides_length_mul positive]
    exact Or.inl ⟨more, rfl⟩
  · rw [Nat.min_eq_left (by omega)]
    exact Or.inr (le_strides_stop positive)

theorem PageSize.block_next_le {cursor stop : Nat} (below : cursor < stop) :
    cursor + (page.block cursor stop).length * page.size ≤ cursor + blockSize * page.size := by
  have short := (page.block_cut below).2.1
  have product := Nat.mul_le_mul_right page.size short
  omega

end Blocks

section Loop

variable (page : PageSize) (movePages : MovePages) (expected : Finset Nat) (touch : Bool)

/-- What a result says about the pages that the loop had before it, where `start` is the number of
its first call. The pages are examined in their order, and the loop stops at a block that fails. -/
structure VerifiedPages (start : Nat) (pages : List Address) (verification : Verification) :
    Prop where
  examined : verification.moved.flatten <+: pages
  sized : ∀ call ∈ verification.moved, 1 ≤ call.length ∧ call.length ≤ blockSize
  touched : verification.touched = if touch then verification.moved.flatten else []
  hbw : verification.status = .hbw → verification.moved.flatten = pages ∧
    ∀ address ∈ pages, movePages.onNodes expected address = true
  before : ∀ call ∈ verification.moved.dropLast, ∀ address ∈ call,
    movePages.onNodes expected address = true
  notHbw : verification.status = .notHbw →
    ∃ address ∈ verification.moved.flatten, movePages.onNodes expected address = false
  efault : verification.status = .efault → ∃ last, verification.moved.length = last + 1 ∧
    movePages.fails (start + last) = true
  accepted : verification.status ≠ .einval

variable {page movePages expected touch} {start : Nat} {pages rest : List Address}

theorem VerifiedPages.stop : VerifiedPages movePages expected touch start [] ⟨.hbw, [], []⟩ where
  examined := List.prefix_refl []
  sized := by
    intro call member
    cases member
  touched := by cases touch <;> rfl
  hbw _ := ⟨rfl, by
    intro address member
    cases member⟩
  before := by
    intro call member
    cases member
  notHbw := VerifyStatus.noConfusion
  efault := VerifyStatus.noConfusion
  accepted := VerifyStatus.noConfusion

/-- The loop ends at a block. -/
theorem VerifiedPages.ends {status : VerifyStatus} (nonempty : 1 ≤ pages.length)
    (short : pages.length ≤ blockSize) (failed : status = .efault ∨ status = .notHbw)
    (notHbw : status = .notHbw → ∃ address ∈ pages, movePages.onNodes expected address = false)
    (efault : status = .efault → movePages.fails start = true) :
    VerifiedPages movePages expected touch start (pages ++ rest)
      ⟨status, [pages], if touch then pages else []⟩ where
  examined := by
    rw [List.flatten_singleton]
    exact List.prefix_append pages rest
  sized := by
    intro call member
    rw [List.mem_singleton.mp member]
    exact ⟨nonempty, short⟩
  touched := by rw [List.flatten_singleton]
  hbw equal := by
    obtain rfl | rfl := failed
    · cases equal
    · cases equal
  before := by
    intro call member
    cases member
  notHbw equal := by
    rw [List.flatten_singleton]
    exact notHbw equal
  efault equal := ⟨0, rfl, efault equal⟩
  accepted equal := by
    obtain rfl | rfl := failed
    · cases equal
    · cases equal

/-- The loop goes on after a block. -/
theorem VerifiedPages.after {later : Verification}
    (verified : VerifiedPages movePages expected touch (start + 1) rest later)
    (nonempty : 1 ≤ pages.length) (short : pages.length ≤ blockSize)
    (all : pages.all (movePages.onNodes expected) = true) :
    VerifiedPages movePages expected touch start (pages ++ rest)
      (later.after pages (if touch then pages else [])) where
  examined := by
    rw [Verification.after, List.flatten_cons]
    exact (List.prefix_append_right_inj pages).mpr verified.examined
  sized := by
    intro call member
    obtain rfl | member := List.mem_cons.mp member
    · exact ⟨nonempty, short⟩
    · exact verified.sized call member
  touched := by
    rw [Verification.after, verified.touched, List.flatten_cons]
    cases touch <;> simp
  hbw equal := by
    obtain ⟨complete, on⟩ := verified.hbw equal
    refine ⟨?_, ?_⟩
    · rw [Verification.after, List.flatten_cons, complete]
    · intro address member
      obtain inBlock | inRest := List.mem_append.mp member
      · exact List.all_eq_true.mp all address inBlock
      · exact on address inRest
  before := by
    intro call member
    have listed : call = pages ∨ call ∈ later.moved.dropLast := by
      rw [Verification.after] at member
      cases moved : later.moved with
      | nil =>
          rw [moved] at member
          cases member
      | cons first others =>
          rw [moved, List.dropLast_cons_cons] at member
          exact List.mem_cons.mp member
    obtain rfl | member := listed
    · exact List.all_eq_true.mp all
    · exact verified.before call member
  notHbw equal := by
    obtain ⟨address, member, off⟩ := verified.notHbw equal
    rw [Verification.after, List.flatten_cons]
    exact ⟨address, List.mem_append_right pages member, off⟩
  efault equal := by
    obtain ⟨last, length, failed⟩ := verified.efault equal
    rw [Nat.add_assoc, Nat.add_comm 1] at failed
    exact ⟨last + 1, congrArg Nat.succ length, failed⟩
  accepted := verified.accepted

theorem verifyLoop_stop {fuel call cursor stop : Nat} (reached : stop ≤ cursor)
    (fits : cursor < 2 ^ 64) :
    verifyLoop page movePages expected touch (BitVec.ofNat 64 stop) (fuel + 1) call
      (BitVec.ofNat 64 cursor) = some ⟨.hbw, [], []⟩ := by
  rw [verifyLoop, if_neg]
  rw [ofNat_lt_ofNat fits (by omega)]
  omega

/-- One iteration over a block that ends within the address space. -/
theorem verifyLoop_block {fuel call cursor stop : Nat} (below : cursor < stop)
    (inside : stop < 2 ^ 64) (fits : cursor + blockSize * page.size < 2 ^ 64) :
    verifyLoop page movePages expected touch (BitVec.ofNat 64 stop) (fuel + 1) call
        (BitVec.ofNat 64 cursor) =
      let block := (page.block cursor stop).map (BitVec.ofNat 64)
      let touched := if touch then block else []
      if movePages.fails call then some ⟨.efault, [block], touched⟩
      else if block.all (movePages.onNodes expected) then
        (verifyLoop page movePages expected touch (BitVec.ofNat 64 stop) fuel (call + 1)
          (BitVec.ofNat 64 (cursor + (page.block cursor stop).length * page.size))).map
            (Verification.after block touched)
      else some ⟨.notHbw, [block], touched⟩ := by
  rw [verifyLoop, if_pos ((ofNat_lt_ofNat (by omega) inside).mpr below),
    collectPages_block page fits inside, Option.bind_some]

/-- A region whose blocks end within the address space is examined block by block. -/
theorem verifyLoop_verified {call cursor stop : Nat} (inside : stop < 2 ^ 64)
    (cursorFits : cursor < 2 ^ 64) (fit : cursor < stop → page.BlocksFit cursor stop) :
    ∃ verification, (∀ fuel, stop - cursor < fuel →
        verifyLoop page movePages expected touch (BitVec.ofNat 64 stop) fuel call
          (BitVec.ofNat 64 cursor) = some verification) ∧
      VerifiedPages movePages expected touch call
        ((strides page.size cursor stop).map (BitVec.ofNat 64)) verification := by
  generalize bound : stop - cursor = distance
  induction distance using Nat.strongRecOn generalizing call cursor with
  | ind distance ih =>
      by_cases below : cursor < stop
      · obtain ⟨blockFits, laterFit⟩ := (page.blocksFit_iff below).mp (fit below)
        obtain ⟨member, short, cut⟩ := page.block_cut below
        have nonempty : 1 ≤ (page.block cursor stop).length := List.length_pos_of_mem member
        have nextFits := page.block_next_le below
        have advances : cursor <
            cursor + (page.block cursor stop).length * page.size := by
          have product := Nat.mul_le_mul_right page.size nonempty
          have positive := page.size_pos
          omega
        have mapped : 1 ≤ ((page.block cursor stop).map (BitVec.ofNat 64)).length ∧
            ((page.block cursor stop).map (BitVec.ofNat 64)).length ≤ blockSize := by
          rw [List.length_map]
          exact ⟨nonempty, short⟩
        rw [cut, List.map_append]
        cases failed : movePages.fails call with
        | true =>
            refine ⟨_, fun fuel enough => ?_, VerifiedPages.ends mapped.1 mapped.2 (Or.inl rfl)
              VerifyStatus.noConfusion fun _ => failed⟩
            obtain ⟨fuel, rfl⟩ := Nat.exists_eq_add_one.mpr (by omega : 0 < fuel)
            rw [verifyLoop_block below inside blockFits]
            simp only [failed, if_true]
        | false =>
            cases all : ((page.block cursor stop).map (BitVec.ofNat 64)).all
                (movePages.onNodes expected) with
            | true =>
                obtain ⟨later, ran, verified⟩ := @ih
                  (stop - (cursor + (page.block cursor stop).length * page.size)) (by omega)
                  (call + 1) _ (by omega) (by
                    intro more
                    obtain ⟨another, same⟩ | last := @page.block_next cursor stop
                    · rw [same]
                      exact laterFit another
                    · omega) rfl
                refine ⟨_, fun fuel enough => ?_, verified.after mapped.1 mapped.2 all⟩
                obtain ⟨fuel, rfl⟩ := Nat.exists_eq_add_one.mpr (by omega : 0 < fuel)
                rw [verifyLoop_block below inside blockFits]
                simp only [failed, all, if_true, Bool.false_eq_true, if_false]
                rw [ran fuel (by omega), Option.map_some]
            | false =>
                obtain ⟨address, listed, off⟩ := List.all_eq_false.mp all
                refine ⟨_, fun fuel enough => ?_, VerifiedPages.ends mapped.1 mapped.2 (Or.inr rfl)
                  (fun _ => ⟨address, listed, Bool.eq_false_iff.mpr off⟩)
                  VerifyStatus.noConfusion⟩
                obtain ⟨fuel, rfl⟩ := Nat.exists_eq_add_one.mpr (by omega : 0 < fuel)
                rw [verifyLoop_block below inside blockFits]
                simp only [failed, all, Bool.false_eq_true, if_false]
      · refine ⟨⟨.hbw, [], []⟩, ?_, ?_⟩
        · intro fuel enough
          obtain ⟨fuel, rfl⟩ := Nat.exists_eq_add_one.mpr (by omega : 0 < fuel)
          exact verifyLoop_stop (by omega) cursorFits
        · rw [strides_nil (by omega) page.size_pos]
          exact VerifiedPages.stop

/-- One iteration over a block that would end behind the address space. -/
theorem verifyLoop_wraps {fuel call cursor stop : Nat} (below : cursor < stop)
    (inside : stop < 2 ^ 64) (wraps : 2 ^ 64 ≤ cursor + blockSize * page.size) :
    verifyLoop page movePages expected touch (BitVec.ofNat 64 stop) (fuel + 1) call
        (BitVec.ofNat 64 cursor) =
      if movePages.fails call then some ⟨.efault, [[]], []⟩
      else (verifyLoop page movePages expected touch (BitVec.ofNat 64 stop) fuel (call + 1)
        (BitVec.ofNat 64 cursor)).map (Verification.after [] []) := by
  rw [verifyLoop, if_pos ((ofNat_lt_ofNat (by omega) inside).mpr below),
    collectPages_wraps page wraps below inside, Option.bind_some]
  simp

/-- A loop that has entered a region and answers 0 has found its first page on the nodes. -/
theorem verifyLoop_hbw_first {fuel call cursor stop : Nat} (below : cursor < stop)
    (inside : stop < 2 ^ 64) {verification : Verification}
    (ran : verifyLoop page movePages expected touch (BitVec.ofNat 64 stop) fuel call
      (BitVec.ofNat 64 cursor) = some verification)
    (hbw : verification.status = .hbw) :
    cursor + blockSize * page.size < 2 ^ 64 ∧
      BitVec.ofNat 64 cursor ∈ verification.moved.flatten ∧
      movePages.onNodes expected (BitVec.ofNat 64 cursor) = true := by
  induction fuel generalizing call verification with
  | zero => cases ran
  | succ fuel ih =>
      by_cases fits : cursor + blockSize * page.size < 2 ^ 64
      · have first : BitVec.ofNat 64 cursor ∈ (page.block cursor stop).map (BitVec.ofNat 64) :=
          List.mem_map_of_mem (page.block_cut below).1
        rw [verifyLoop_block below inside fits] at ran
        dsimp only at ran
        split at ran
        · obtain rfl := Option.some.inj ran
          cases hbw
        · split at ran
          · rename_i all
            obtain ⟨later, -, rfl⟩ := Option.map_eq_some_iff.mp ran
            refine ⟨fits, ?_, List.all_eq_true.mp all _ first⟩
            rw [Verification.after, List.flatten_cons]
            exact List.mem_append_left _ first
          · obtain rfl := Option.some.inj ran
            cases hbw
      · rw [verifyLoop_wraps below inside (by omega)] at ran
        split at ran
        · obtain rfl := Option.some.inj ran
          cases hbw
        · obtain ⟨later, again, rfl⟩ := Option.map_eq_some_iff.mp ran
          exact absurd (ih again hbw).1 fits

/-- A region whose blocks do not end within the address space is never left with the answer 0. -/
theorem verifyLoop_never_hbw {fuel call cursor stop : Nat} (below : cursor < stop)
    (inside : stop < 2 ^ 64) (leaves : ¬page.BlocksFit cursor stop) {verification : Verification}
    (ran : verifyLoop page movePages expected touch (BitVec.ofNat 64 stop) fuel call
      (BitVec.ofNat 64 cursor) = some verification) :
    verification.status ≠ .hbw := by
  induction fuel generalizing call cursor verification with
  | zero => cases ran
  | succ fuel ih =>
      intro hbw
      have fits := (verifyLoop_hbw_first below inside ran hbw).1
      rw [page.blocksFit_iff below, not_and] at leaves
      obtain ⟨more, later⟩ := Classical.not_imp.mp (leaves fits)
      obtain ⟨-, same⟩ | last := @page.block_next cursor stop
      · rw [verifyLoop_block below inside fits, same] at ran
        dsimp only at ran
        split at ran
        · obtain rfl := Option.some.inj ran
          cases hbw
        · split at ran
          · obtain ⟨rest, again, rfl⟩ := Option.map_eq_some_iff.mp ran
            exact ih more later again hbw
          · obtain rfl := Option.some.inj ran
            cases hbw
      · have bound := page.block_next_le below
        omega

end Loop

section Region

/-- The nodes of high bandwidth that are known. -/
def hbwNodes (cpu : Nat) (numanode : NodeArr) : Finset Nat :=
  setBitmaskForCurrentNumanode numaNumNodes cpu numanode

theorem MovePages.onNodes_iff (movePages : MovePages) (expected : Finset Nat) (address : Address) :
    movePages.onNodes expected address = true ↔
      ∃ node ∈ expected, movePages.node address = (node : Int) := by
  rw [onNodes, decide_eq_true_iff]
  constructor
  · intro ⟨positive, member⟩
    exact ⟨_, member, (Int.toNat_of_nonneg positive).symm⟩
  · intro ⟨node, member, equal⟩
    rw [equal, Int.toNat_natCast]
    exact ⟨Int.natCast_nonneg node, member⟩

/-- The loop of an accepted call starts at the page of the address. -/
theorem hbwVerifyMemoryRegion_eq {machine : VerifyMachine} {addr : Address} {size : SizeT}
    {flags : BitVec 32} (accepted : verifyRejects addr size flags = false) (fuel : Nat) :
    hbwVerifyMemoryRegion machine fuel addr size flags =
      verifyLoop machine.page machine.movePages
        (memkindHbwAllGetMbindNodemask machine.numanode numaNumNodes machine.cpu
          machine.nodemask).2 (flags &&& hbwTouchPages ≠ 0) (BitVec.ofNat 64 (addr + size).toNat)
        fuel 0 (BitVec.ofNat 64 (machine.page.align addr).toNat) := by
  rw [hbwVerifyMemoryRegion, accepted, BitVec.ofNat_toNat, BitVec.setWidth_eq,
    BitVec.ofNat_toNat, BitVec.setWidth_eq]
  rfl

/-- A machine of pages of 4096 bytes on which node 1 has high bandwidth and holds every page. -/
def verifyMachineExample : VerifyMachine where
  page := ⟨12, by decide⟩
  numanode := .ok fun _ => ⟨[1], 1⟩
  cpu := 0
  nodemask := ∅
  movePages := ⟨fun _ => false, fun _ => 1⟩

/-- The answer 0 rests on evidence: the nodes of high bandwidth are known, and the page of the
address was reported on one of them. -/
def Vouched (machine : VerifyMachine) (addr : Address) (verification : Verification) : Prop :=
  ∃ numanode, machine.numanode = .ok numanode ∧
    machine.page.align addr ∈ verification.moved.flatten ∧
    ∃ node ∈ hbwNodes machine.cpu numanode,
      machine.movePages.node (machine.page.align addr) = (node : Int)

/-- The answer 0 rests on evidence whatever the local variable holds and `move_pages` reports. -/
def NeverVouchesBlindly (page : PageSize) (numanode : Except DiscoveryError NodeArr) (cpu : Nat)
    (addr : Address) (size : SizeT) (flags : BitVec 32) : Prop :=
  ∀ (nodemask : Finset Nat) (movePages : MovePages) (fuel : Nat) (verification : Verification),
    hbwVerifyMemoryRegion ⟨page, numanode, cpu, nodemask, movePages⟩ fuel addr size flags =
      some verification →
    verification.status = .hbw →
    Vouched ⟨page, numanode, cpu, nodemask, movePages⟩ addr verification

/-- The region begins below its end, and the nodes are known unless the last block of the region
leaves the address space. -/
def EvidenceForced (page : PageSize) (numanode : Except DiscoveryError NodeArr) (addr : Address)
    (size : SizeT) : Prop :=
  page.align addr < addr + size ∧
    (numanode.isOk = true ∨ ¬page.BlocksFit (page.align addr).toNat (addr + size).toNat)

variable {page : PageSize} {numanode : Except DiscoveryError NodeArr} {cpu : Nat} {addr : Address}
  {size : SizeT} {flags : BitVec 32}

/-- A region that ends before it begins is accepted without a look at it. -/
theorem NeverVouchesBlindly.below (accepted : verifyRejects addr size flags = false)
    (never : NeverVouchesBlindly page numanode cpu addr size flags) :
    page.align addr < addr + size := by
  by_contra reached
  have ran : hbwVerifyMemoryRegion ⟨page, numanode, cpu, ∅, ⟨fun _ => false, fun _ => 0⟩⟩ 1 addr
      size flags = some ⟨.hbw, [], []⟩ := by
    rw [hbwVerifyMemoryRegion, accepted]
    exact if_neg reached
  obtain ⟨_, _, member, _⟩ := never _ _ _ _ ran rfl
  cases member

/-- Without the nodes the stale mask decides, and it can accept every page. -/
theorem NeverVouchesBlindly.determined (accepted : verifyRejects addr size flags = false)
    (never : NeverVouchesBlindly page numanode cpu addr size flags)
    (fit : page.BlocksFit (page.align addr).toNat (addr + size).toNat) : numanode.isOk = true := by
  cases numanode with
  | ok numanode => rfl
  | error status =>
      obtain ⟨verification, ran, verified⟩ := @verifyLoop_verified page
        ⟨fun _ => false, fun _ => 0⟩ {0} (flags &&& hbwTouchPages ≠ 0) 0
        (page.align addr).toNat (addr + size).toNat (addr + size).isLt (page.align addr).isLt
        fun _ => fit
      have hbw : verification.status = .hbw := by
        cases result : verification.status with
        | hbw => rfl
        | notHbw =>
            obtain ⟨_, _, off⟩ := verified.notHbw result
            cases off
        | efault =>
            obtain ⟨_, -, failed⟩ := verified.efault result
            cases failed
        | einval => exact absurd result verified.accepted
      obtain ⟨_, known, _⟩ := never _ _ _ _
        ((hbwVerifyMemoryRegion_eq accepted _).trans (ran _ (Nat.lt_succ_self _))) hbw
      cases known

/-- The answer 0 of an accepted call rests on evidence where the call has to look for it. -/
theorem EvidenceForced.never (accepted : verifyRejects addr size flags = false)
    (forced : EvidenceForced page numanode addr size) :
    NeverVouchesBlindly page numanode cpu addr size flags := by
  intro nodemask movePages fuel verification ran hbw
  rw [hbwVerifyMemoryRegion_eq accepted] at ran
  obtain ⟨below, determined | leaves⟩ := forced
  · cases numanode with
    | error status => cases determined
    | ok numanode =>
        obtain ⟨-, examined, on⟩ := verifyLoop_hbw_first below (addr + size).isLt ran hbw
        rw [BitVec.ofNat_toNat, BitVec.setWidth_eq] at examined on
        exact ⟨numanode, rfl, examined, (movePages.onNodes_iff _ _).mp on⟩
  · exact absurd hbw (verifyLoop_never_hbw below (addr + size).isLt leaves ran)

/-- The answer 0 always rests on evidence exactly for the calls that are rejected or have to look
for evidence. -/
theorem neverVouchesBlindly_iff (page : PageSize) (numanode : Except DiscoveryError NodeArr)
    (cpu : Nat) (addr : Address) (size : SizeT) (flags : BitVec 32) :
    NeverVouchesBlindly page numanode cpu addr size flags ↔
      verifyRejects addr size flags = true ∨ EvidenceForced page numanode addr size := by
  cases accepted : verifyRejects addr size flags with
  | true =>
      refine iff_of_true ?_ (Or.inl rfl)
      intro nodemask movePages fuel verification ran hbw
      rw [hbwVerifyMemoryRegion, accepted] at ran
      obtain rfl := Option.some.inj ran
      cases hbw
  | false =>
      constructor
      · intro never
        refine Or.inr ⟨never.below accepted, ?_⟩
        by_cases fit : page.BlocksFit (page.align addr).toNat (addr + size).toNat
        · exact Or.inl (never.determined accepted fit)
        · exact Or.inr fit
      · intro forced
        obtain rejected | forced := forced
        · cases rejected
        · exact forced.never accepted

/-- The end of a region at the top of the address space wraps to 0 and the loop is not entered. On a
machine whose nodes of high bandwidth are unknown, a page on a node that the local variable happens
to hold is accepted. -/
theorem hbwVerifyMemoryRegion_vouches_blindly :
    (hbwVerifyMemoryRegion { verifyMachineExample with movePages := ⟨fun _ => true, fun _ => -1⟩ }
        1 0x1000#64 0xfffffffffffff000#64 0 = some ⟨.hbw, [], []⟩ ∧
      ¬NeverVouchesBlindly verifyMachineExample.page verifyMachineExample.numanode 0 0x1000#64
        0xfffffffffffff000#64 0) ∧
    hbwVerifyMemoryRegion { verifyMachineExample with
        numanode := .error .unavailable, nodemask := {1} } 2 0x1000#64 1 0 =
      some ⟨.hbw, [[0x1000#64]], []⟩ ∧
      ¬NeverVouchesBlindly verifyMachineExample.page (.error .unavailable) 0 0x1000#64 1
        0 := by
  refine ⟨⟨by decide, fun never => ?_⟩, by decide, fun never => ?_⟩
  · exact absurd (never.below (by decide)) (by decide)
  · exact absurd (never.determined (by decide) (by unfold PageSize.BlocksFit; decide)) (by decide)

end Region

end Memkind
