/-
This file embeds the command `memtier`, which runs a program with `libmemtier`.
-/

import Memkind.Construction.Ctl

namespace Memkind

open Library

def peta : SizeT := 1048576 * 1048576 * 1048576

/-- Why `memtier` ends before it runs the program. -/
inductive MemtierExit where
  | help
  | unknownOption
  | expectsIntegers
  | missingColon
  | notTwoValues
  | notPlausible
  | noKmemDax
  | emptyRatio
  | thresholdTiers
  | noCommand
  deriving DecidableEq

/-- The array `ratio`. -/
structure Ratio where
  dram : BitVec 64
  kmemDax : BitVec 64
  deriving DecidableEq

/-- `strtoul` with the end of the number. Without a number it returns zero and the start. -/
def strtoulEnd (text : CString) : BitVec 64 × CString :=
  match strtoul text with
  | none => (0, text)
  | some number => (number.value, number.rest)

/-- The case of `-r`. -/
def memtierParseRatio (optarg : CString) : Except MemtierExit Ratio :=
  let (dram, br) := strtoulEnd optarg
  if br.head? = some '.' then .error .expectsIntegers
  else if br.head? ≠ some ':' then .error .missingColon
  else
    let (kmemDax, br) := strtoulEnd br.tail
    if br ≠ [] then
      if br.head? = some '.' then .error .expectsIntegers else .error .notTwoValues
    else if peta < dram ∨ peta < kmemDax then .error .notPlausible
    else .ok ⟨dram, kmemDax⟩

/-- The options as `getopt_long` returns them. -/
inductive MemtierOption where
  | ratio (optarg : CString)
  | threshold (optarg : CString)
  | verbose
  | help
  | unknown

/-- The variables that the options set. There is no ratio while `guess_ratio` holds. -/
structure MemtierArgs where
  ratio : Option Ratio := none
  thresh : Option CString := none

/-- The body of the loop over the options. -/
def memtierOption (args : MemtierArgs) : MemtierOption → Except MemtierExit MemtierArgs
  | .ratio optarg => do
      let ratio ← memtierParseRatio optarg
      return { args with ratio := some ratio }
  | .threshold optarg => .ok { args with thresh := some optarg }
  | .verbose => .ok args
  | .help => .error .help
  | .unknown => .error .unknownOption

/-- The value of `MEMKIND_MEM_TIERS`. -/
def memkindMemTiers (ratio : Ratio) (thresh : Option CString) : CString :=
  if ratio.kmemDax = 0 then "KIND:DRAM,RATIO:1;POLICY:STATIC_RATIO".toList
  else if ratio.dram = 0 then "KIND:KMEM_DAX,RATIO:1;POLICY:STATIC_RATIO".toList
  else
    "KIND:DRAM,RATIO:".toList ++ Nat.toDigits 10 ratio.dram.toNat ++
      ";KIND:KMEM_DAX,RATIO:".toList ++ Nat.toDigits 10 ratio.kmemDax.toNat ++
      ";POLICY:".toList ++
      (if thresh.isSome then "DYNAMIC_THRESHOLD".toList else "STATIC_RATIO".toList)

/-- The ratio and the environment variables of the program that `memtier` runs. -/
structure MemtierEnv where
  ratio : Ratio
  memTiers : CString
  memThresholds : Option CString
  deriving DecidableEq

/-- The checks of the ratio, and the environment variables. -/
def memtierSetEnv (ratio : Ratio) (thresh : Option CString) (hasCommand : Bool) :
    Except MemtierExit MemtierEnv :=
  if ratio.dram = 0 ∧ ratio.kmemDax = 0 then .error .emptyRatio
  else if thresh.isSome ∧ (ratio.dram = 0 ∨ ratio.kmemDax = 0) then .error .thresholdTiers
  else if !hasCommand then .error .noCommand
  else .ok ⟨ratio, memkindMemTiers ratio thresh, thresh⟩

/-- `* ACCURACY` -/
def accuracy (value : SizeT) : SizeT := value * 21 / 20

/-- The loop of `human_friendly_ratio` over the denominators `b`. A division by zero has no
result. -/
def humanFriendlyLoop (x y : SizeT) : Nat → SizeT → Option SizeT
  | 0, _ => none
  | fuel + 1, b =>
      let a := (2 * x * b + y) / y / 2
      if accuracy (x * b) < a * y then humanFriendlyLoop x y fuel (b + 1)
      else if accuracy (a * y) < x * b then humanFriendlyLoop x y fuel (b + 1)
      else if a = 0 ∨ b = 0 then none
      else if x / a < y / b then some (x / a)
      else some (y / b)

def humanFriendlyRatio (fuel : Nat) (x y : SizeT) : Option SizeT :=
  let (x, y) := if x < y then (y, x) else (x, y)
  if y = 0 then some x else humanFriendlyLoop x y fuel 1

/-- The ratio that `main` guesses from the capacities of `MEMKIND_REGULAR` and
`MEMKIND_DAX_KMEM`. -/
def guessRatio (fuel : Nat) (dram pmem : BitVec 64) : Option (Except MemtierExit Ratio) :=
  let dram := if dram.slt 0 then 0 else dram
  if pmem.sle 0 then some (.error .noKmemDax)
  else do
    let d ← humanFriendlyRatio fuel dram pmem
    if d = 0 then none else some (.ok ⟨dram / d, pmem / d⟩)

/-- `main` up to the call of the program. The capacities of the kinds give the ratio `guess`, which
is used when there is no `-r`. -/
def memtierMain (guess : Except MemtierExit Ratio) (options : List MemtierOption)
    (hasCommand : Bool) : Except MemtierExit MemtierEnv := do
  let args ← options.foldlM memtierOption {}
  let ratio ← args.ratio.elim guess .ok
  memtierSetEnv ratio args.thresh hasCommand

end Memkind
