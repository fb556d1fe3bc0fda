/-
This file embeds the policy of `hbwmalloc.c` and the choice of a kind by it, for threads whose reads
and writes of the shared variables take turns.
-/

import Memkind.Construction.Statistics
import Memkind.Library.Threads

namespace Memkind

open Library

/-- `hbw_policy_t` -/
inductive HbwPolicy where
  | bind
  | preferred
  | interleave
  | bindAll
  deriving DecidableEq

/-- `hbw_pagesize_t` -/
inductive HbwPagesize where
  | kb4
  | mb2
  deriving DecidableEq

/-- The policy of a value of the enumeration. -/
def hbwPolicyOf (mode : Int) : Option HbwPolicy :=
  if mode = 1 then some .bind
  else if mode = 2 then some .preferred
  else if mode = 3 then some .interleave
  else if mode = 4 then some .bindAll
  else none

/-- The kinds that the policies choose from. -/
def memkindHbw : KindPtr := .library 1
def memkindHbwHugetlb : KindPtr := .library 3
def memkindHbwPreferredHugetlb : KindPtr := .library 4
def memkindHugetlb : KindPtr := .library 5
def memkindHbwInterleave : KindPtr := .library 6
def memkindHbwAll : KindPtr := .library 9
def memkindHbwAllHugetlb : KindPtr := .library 10

/-- The part of `hbw_choose_kind` behind `hbw_get_policy`, where `available` is the result of
`memkind_check_available` for `MEMKIND_HBW`. -/
def hbwChooseKind (available : Bool) (policy : HbwPolicy) (pagesize : HbwPagesize) : KindPtr :=
  if policy ≠ .preferred then
    match pagesize with
    | .mb2 => if policy = .bindAll then memkindHbwAllHugetlb else memkindHbwHugetlb
    | .kb4 =>
        if policy = .bind then memkindHbw
        else if policy = .bindAll then memkindHbwAll
        else memkindHbwInterleave
  else if available then
    match pagesize with
    | .mb2 => memkindHbwPreferredHugetlb
    | .kb4 => memkindHbwPreferred
  else
    match pagesize with
    | .mb2 => memkindHugetlb
    | .kb4 => memkindDefault

/-- `hbw_policy_once_g`. While a thread runs the initialization, the others wait. -/
inductive HbwOnce (Thread : Type) where
  | notStarted
  | running (thread : Thread)
  | done
  deriving DecidableEq

/-- The values that `hbw_set_policy` returns: 0, `EPERM` and `EINVAL`. -/
inductive SetPolicyStatus where
  | success
  | eperm
  | einval
  deriving DecidableEq

/-- The shared variables `hbw_policy_g`, `hbw_policy_once_g` and `pagesize_kind`, the number of
writes of the policy, the results of `hbw_set_policy`, and the requests that were served. -/
structure HbwShared (Thread : Type) where
  policy : HbwPolicy
  once : HbwOnce Thread
  pagesizeKind : HbwPagesize → Option KindPtr
  writes : Nat
  returned : List (Int × SetPolicyStatus)
  served : List (HbwPagesize × KindPtr)

/-- Who has called `hbw_set_policy`: the program with a mode, or `hbw_choose_kind`. -/
inductive PolicyCaller where
  | program (mode : Int)
  | choose (pagesize : HbwPagesize)
  deriving DecidableEq

/-- What a thread does next. -/
inductive HbwThread where
  | idle
  /-- `hbw_posix_memalign_psize` reads the policy. -/
  | check (pagesize : HbwPagesize)
  /-- `hbw_get_kind` looks for a stored kind. -/
  | lookUp (pagesize : HbwPagesize)
  /-- `hbw_choose_kind` reads the policy for the call of `hbw_set_policy`. -/
  | readMode (pagesize : HbwPagesize)
  /-- `hbw_set_policy` calls `pthread_once`. -/
  | enterOnce (caller : PolicyCaller) (policy : HbwPolicy)
  /-- The initialization writes the policy. -/
  | writePolicy (caller : PolicyCaller) (policy : HbwPolicy)
  /-- The initialization is over. -/
  | leaveOnce (caller : PolicyCaller) (policy : HbwPolicy)
  /-- `hbw_set_policy` compares its mode with the policy. -/
  | compare (caller : PolicyCaller) (policy : HbwPolicy)
  /-- `hbw_choose_kind` calls `hbw_get_policy`. -/
  | readPolicy (pagesize : HbwPagesize)
  /-- `hbw_get_kind` stores the chosen kind. -/
  | storeKind (pagesize : HbwPagesize) (kind : KindPtr)
  /-- `hbw_get_kind` reads the stored kind. -/
  | readKind (pagesize : HbwPagesize)
  /-- The kind serves the request. -/
  | serve (pagesize : HbwPagesize) (kind : KindPtr)
  deriving DecidableEq

/-- The calls of the library. `hbw_malloc` stands for those that use pages of 4 kilobytes. -/
inductive PolicyCall where
  | setPolicy (mode : Int)
  | malloc
  | posixMemalignPsize (pagesize : HbwPagesize)

/-- The shared variables and where a thread stands, after it has gone on. -/
abbrev PolicyTurn (Thread : Type) := Option (HbwShared Thread × HbwThread)

section Turns

variable {Thread : Type}

/-- The start of a call. `hbw_set_policy` returns at once for an invalid mode. -/
def HbwShared.call (shared : HbwShared Thread) : PolicyCall → HbwShared Thread × HbwThread
  | .setPolicy mode =>
      match hbwPolicyOf mode with
      | some policy => (shared, .enterOnce (.program mode) policy)
      | none => ({ shared with returned := (mode, .einval) :: shared.returned }, .idle)
  | .malloc => (shared, .lookUp .kb4)
  | .posixMemalignPsize pagesize => (shared, .check pagesize)

/-- The end of `hbw_set_policy`. `hbw_choose_kind` ignores its result. -/
def HbwShared.compare (shared : HbwShared Thread) (policy : HbwPolicy) :
    PolicyCaller → HbwShared Thread × HbwThread
  | .program mode =>
      ({ shared with
        returned := (mode, if policy ≠ shared.policy then .eperm else .success) ::
          shared.returned }, .idle)
  | .choose pagesize => (shared, .readPolicy pagesize)

/-- The next turn of a thread. A kind that is `NULL` serves no request. -/
def HbwShared.turn (available : Bool) (thread : Thread) (shared : HbwShared Thread) :
    HbwThread → PolicyTurn Thread
  | .idle => none
  | .check pagesize =>
      if pagesize = .mb2 ∧ shared.policy = .interleave then some (shared, .idle)
      else some (shared, .lookUp pagesize)
  | .lookUp pagesize =>
      if shared.pagesizeKind pagesize = none then some (shared, .readMode pagesize)
      else some (shared, .readKind pagesize)
  | .readMode pagesize => some (shared, .enterOnce (.choose pagesize) shared.policy)
  | .enterOnce caller policy =>
      match shared.once with
      | .notStarted => some ({ shared with once := .running thread }, .writePolicy caller policy)
      | .running _ => none
      | .done => some (shared, .compare caller policy)
  | .writePolicy caller policy =>
      some ({ shared with policy, writes := shared.writes + 1 }, .leaveOnce caller policy)
  | .leaveOnce caller policy => some ({ shared with once := .done }, .compare caller policy)
  | .compare caller policy => some (shared.compare policy caller)
  | .readPolicy pagesize =>
      some (shared, .storeKind pagesize (hbwChooseKind available shared.policy pagesize))
  | .storeKind pagesize kind =>
      some ({ shared with
        pagesizeKind := Function.update shared.pagesizeKind pagesize (some kind) },
        .readKind pagesize)
  | .readKind pagesize =>
      (shared.pagesizeKind pagesize).map fun kind => (shared, .serve pagesize kind)
  | .serve pagesize kind =>
      some ({ shared with served := (pagesize, kind) :: shared.served }, .idle)

/-- A process that has called nothing. -/
def policyInitial : Threads Thread (HbwShared Thread) HbwThread where
  shared := ⟨.preferred, .notStarted, fun _ => none, 0, [], []⟩
  locals _ := .idle

/-- A thread makes a call, or goes on with its call. -/
inductive PolicyLabel (Thread : Type) where
  | call (thread : Thread) (call : PolicyCall)
  | turn (thread : Thread)

def policyStep [DecidableEq Thread] (available : Bool) (label : PolicyLabel Thread)
    (state : Threads Thread (HbwShared Thread) HbwThread) :
    Option (Threads Thread (HbwShared Thread) HbwThread) :=
  match label with
  | .call thread call =>
      if state.locals thread = .idle then
        some (state.advance thread (state.shared.call call).1 (state.shared.call call).2)
      else none
  | .turn thread =>
      (state.shared.turn available thread (state.locals thread)).map fun next =>
        state.advance thread next.1 next.2

end Turns

end Memkind
