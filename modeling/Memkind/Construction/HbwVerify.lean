/-
This file embeds `hbw_verify_memory_region` of `hbwmalloc.c`, which asks the kernel for the nodes of
the pages of a region.
-/

import Memkind.Construction.Bitmask

namespace Memkind

/-- `page_size` -/
def PageSize.bytes (page : PageSize) : SizeT := BitVec.ofNat 64 (2 ^ page.shift)

/-- `page_mask` -/
def PageSize.mask (page : PageSize) : SizeT := ~~~(page.bytes - 1)

/-- The address of the page of an address. -/
def PageSize.align (page : PageSize) (addr : Address) : Address := addr &&& page.mask

/-- `block_size` -/
def blockSize : Nat := 64

/-- `HBW_TOUCH_PAGES` -/
def hbwTouchPages : BitVec 32 := 1

/-- What `move_pages` does: its calls are numbered and can fail, and otherwise it reports a node or
a negative number for every page. -/
structure MovePages where
  fails : Nat → Bool
  node : Address → Int

/-- `memkind_hbw_all_get_mbind_nodemask` with the result of `memkind_hbw_all_numanode_init`. An
error leaves the mask as it was. -/
def memkindHbwAllGetMbindNodemask (numanode : Except DiscoveryError NodeArr) (maxnode cpu : Nat)
    (nodemask : Finset Nat) : Except DiscoveryError Unit × Finset Nat :=
  match numanode with
  | .error initErr => (.error initErr, nodemask)
  | .ok numanode => (.ok (), setBitmaskForCurrentNumanode maxnode cpu numanode)

/-- The values that `hbw_verify_memory_region` returns: 0, -1, `EFAULT` and `EINVAL`. -/
inductive VerifyStatus where
  | hbw
  | notHbw
  | efault
  | einval
  deriving DecidableEq

/-- The result, the pages of every call of `move_pages`, and the pages that were touched. -/
structure Verification where
  status : VerifyStatus
  moved : List (List Address)
  touched : List Address
  deriving DecidableEq

/-- The pages of a block stand before those of the later blocks. -/
def Verification.after (pages touched : List Address) (later : Verification) : Verification :=
  ⟨later.status, pages :: later.moved, touched ++ later.touched⟩

/-- The inner loop collects the pages up to `iterEnd` and returns them with the cursor behind them.
A page that does not fit into the arrays has no meaning. -/
def collectPages (page : PageSize) (iterEnd : Address) :
    (room : Nat) → Address → Option (List Address × Address)
  | 0, alignedBeg => if alignedBeg < iterEnd then none else some ([], alignedBeg)
  | room + 1, alignedBeg =>
      if alignedBeg < iterEnd then
        (collectPages page iterEnd room (alignedBeg + page.bytes)).map fun collected =>
          (alignedBeg :: collected.1, collected.2)
      else some ([], alignedBeg)

/-- The end of the block that starts at the cursor. -/
def iterEnd (page : PageSize) (stop alignedBeg : Address) : Address :=
  if stop < alignedBeg + BitVec.ofNat 64 blockSize * page.bytes then stop
  else alignedBeg + BitVec.ofNat 64 blockSize * page.bytes

/-- The test of a page after a call of `move_pages`. -/
def MovePages.onNodes (movePages : MovePages) (expected : Finset Nat) (page : Address) : Bool :=
  0 ≤ movePages.node page ∧ (movePages.node page).toNat ∈ expected

/-- The outer loop, where `call` counts the calls of `move_pages`. It need not end, and a run that
needs more iterations than `fuel` has no result. -/
def verifyLoop (page : PageSize) (movePages : MovePages) (expected : Finset Nat) (touch : Bool)
    (stop : Address) : (fuel call : Nat) → Address → Option Verification
  | 0, _, _ => none
  | fuel + 1, call, alignedBeg =>
      if alignedBeg < stop then
        (collectPages page (iterEnd page stop alignedBeg) blockSize alignedBeg).bind
          fun collected =>
            let touched := if touch then collected.1 else []
            if movePages.fails call then some ⟨.efault, [collected.1], touched⟩
            else if collected.1.all (movePages.onNodes expected) then
              (verifyLoop page movePages expected touch stop fuel (call + 1) collected.2).map
                (Verification.after collected.1 touched)
            else some ⟨.notHbw, [collected.1], touched⟩
      else some ⟨.hbw, [], []⟩

/-- The machine: its pages, the nodes of high bandwidth or the error of finding them, the CPU of the
caller, the content of the local variable `nodemask`, and `move_pages`. -/
structure VerifyMachine where
  page : PageSize
  numanode : Except DiscoveryError NodeArr
  cpu : Nat
  nodemask : Finset Nat
  movePages : MovePages

/-- The arguments that end in `EINVAL`. -/
def verifyRejects (addr : Address) (size : SizeT) (flags : BitVec 32) : Bool :=
  addr = 0 ∨ size = 0 ∨ flags &&& ~~~hbwTouchPages ≠ 0

/-- `hbw_verify_memory_region`. The status of `memkind_hbw_all_get_mbind_nodemask` is ignored. -/
def hbwVerifyMemoryRegion (machine : VerifyMachine) (fuel : Nat) (addr : Address) (size : SizeT)
    (flags : BitVec 32) : Option Verification :=
  if verifyRejects addr size flags then some ⟨.einval, [], []⟩
  else
    verifyLoop machine.page machine.movePages
      (memkindHbwAllGetMbindNodemask machine.numanode numaNumNodes machine.cpu
        machine.nodemask).2
      (flags &&& hbwTouchPages ≠ 0) (addr + size) fuel 0 (machine.page.align addr)

end Memkind
