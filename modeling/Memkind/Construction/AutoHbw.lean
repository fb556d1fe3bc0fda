/-
This file embeds `autohbw.c`, which moves the allocations of a program into high bandwidth memory.
-/

import Memkind.Construction.Ctl

namespace Memkind

open Library

/-- The static variables of `autohbw.c`, with the values they have before `autohbw_load`. -/
structure AutoHbw where
  hbwLowLimit : SizeT := 1 * 1024 * 1024
  hbwHighLimit : SizeT := BitVec.allOnes 64
  memkindInitDone : Bool := false
  hbwKind : Option KindPtr := none
  isAutoHBWEnabled : Bool := true

/-- `isAllocInHBW` -/
def AutoHbw.isAllocInHBW (state : AutoHbw) (size : SizeT) : Bool :=
  if !state.memkindInitDone then false
  else if !state.isAutoHBWEnabled then false
  else if size < state.hbwLowLimit then false
  else if state.hbwHighLimit < size then false
  else true

section Environment

/-- The variable `mult`. The cases of the larger units fall through to the smaller ones. -/
def limitMult (lchar : Char) : SizeT :=
  match lchar.toUpper with
  | 'G' => 1024 * 1024 * 1024
  | 'M' => 1024 * 1024
  | 'K' => 1024
  | _ => 1

def getLimit (limit : SizeT) (lchar : Char) : SizeT :=
  if 0 < limit ∧ lchar.isAlpha then
    if BitVec.allOnes 64 / limitMult lchar ≤ limit then BitVec.allOnes 64
    else limit * limitMult lchar
  else limit

def namedKinds : List (KindPtr × CString) :=
  [(memkindDefault, "memkind_default".toList), (.library 5, "memkind_hugetlb".toList),
    (.library 7, "memkind_interleave".toList), (.library 1, "memkind_hbw".toList),
    (memkindHbwPreferred, "memkind_hbw_preferred".toList),
    (.library 3, "memkind_hbw_hugetlb".toList),
    (.library 4, "memkind_hbw_preferred_hugetlb".toList),
    (.library 6, "memkind_hbw_interleave".toList)]

/-- `get_kind_by_name` compares without regard to case. -/
def getKindByName (name : CString) : Option KindPtr :=
  (namedKinds.find? fun entry => entry.2 = name.map Char.toLower).map Prod.fst

/-- What `autohbw_load` finds: whether there is high bandwidth memory, the environment variables
`AUTO_HBW_MEM_TYPE` and `AUTO_HBW_SIZE`, and whether the first allocation succeeds. -/
structure HbwEnvironment where
  hbwAvailable : Bool
  memType : Option CString := none
  size : Option CString := none
  initCall : Bool := true

/-- The part of `setEnvValues` that reads the kind. -/
def setMemType (memType : Option CString) (state : AutoHbw) : AutoHbw :=
  match memType with
  | none => state
  | some name =>
      if name = [] then state
      else
        match getKindByName name with
        | none => state
        | some kind => { state with hbwKind := some kind }

/-- The part of `setEnvValues` that reads the limits. -/
def setSizeLimits (size : Option CString) (state : AutoHbw) : AutoHbw :=
  match size with
  | none => state
  | some sizeStr =>
      let (lowlim, ptr) := strtoll sizeStr
      let (lowC, ptr) := match ptr with
        | [] => (' ', [])
        | ':' :: rest => (' ', ':' :: rest)
        | char :: rest => (char, rest)
      let (highlim, highC) := match ptr with
        | ':' :: rest =>
            let (highlim, ptr) := strtoll rest
            (highlim, ptr.head?.getD ' ')
        | _ => (state.hbwHighLimit / 1024, 'K')
      { state with
        hbwLowLimit := getLimit lowlim lowC
        hbwHighLimit := getLimit highlim highC }

/-- `autohbw_load` aborts when the first allocation fails. -/
def autohbwLoad (env : HbwEnvironment) (state : AutoHbw) : Option AutoHbw :=
  let state :=
    { state with hbwKind := some (if env.hbwAvailable then memkindHbwPreferred else memkindDefault) }
  let state := setSizeLimits env.size (setMemType env.memType state)
  if env.initCall then some { state with memkindInitDone := true } else none

end Environment

section Calls

/-- The call that an interposed function makes. -/
inductive HbwCall where
  | malloc (size : SizeT)
  | calloc (nmemb size : SizeT)
  deriving DecidableEq

/-- The call with the kind chosen for it. -/
structure HbwRequest where
  useHbw : Bool
  kind : Option KindPtr
  call : HbwCall
  deriving DecidableEq

/-- The body that the interposed functions share. -/
def AutoHbw.request (state : AutoHbw) (size : SizeT) (call : HbwCall) : HbwRequest :=
  let useHbw := state.isAllocInHBW size
  ⟨useHbw, if useHbw then state.hbwKind else some memkindDefault, call⟩

namespace AutoHbw

variable (state : AutoHbw)

/-- `MemkindMalloc` -/
def memkindMalloc (size : SizeT) : HbwRequest := state.request size (.malloc size)

/-- `MemkindCalloc` -/
def memkindCalloc (nmemb size : SizeT) : HbwRequest := state.request size (.calloc nmemb size)

def enableAutoHBW : AutoHbw := { state with isAutoHBWEnabled := true }

def disableAutoHBW : AutoHbw := { state with isAutoHBWEnabled := false }

end AutoHbw

end Calls

/-- What changes the static variables. -/
inductive HbwEvent where
  | load (env : HbwEnvironment)
  | enable
  | disable

def hbwStep : HbwEvent → AutoHbw → Option AutoHbw
  | .load env, state => autohbwLoad env state
  | .enable, state => some state.enableAutoHBW
  | .disable, state => some state.disableAutoHBW

end Memkind
