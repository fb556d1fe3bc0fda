/-
This file shows that every interleaving of threads fixes the policy of `hbwmalloc.c` once, and that
it is respected when the interleave policy is set before a request for huge pages is checked.
-/

import Memkind.Construction.HbwPolicy
import Memkind.Library.Run
import Mathlib.Data.Fintype.Defs

namespace Memkind

open Library

variable {policy : HbwPolicy} {caller : PolicyCaller} {Thread : Type}

/-- The result of `hbw_set_policy` under a policy. -/
def setPolicyResult (policy : HbwPolicy) (mode : Int) : SetPolicyStatus :=
  match hbwPolicyOf mode with
  | none => .einval
  | some asked => if asked = policy then .success else .eperm

/-- The policy was written at most once, the calls of `hbw_set_policy` returned what it decides, and
the stored kinds are those that it prescribes. -/
structure PolicyFixed (available : Bool) (shared : HbwShared Thread) : Prop where
  writes : shared.writes ≤ 1
  returned : ∀ mode status, (mode, status) ∈ shared.returned →
    status = setPolicyResult shared.policy mode
  stored : ∀ pagesize kind, shared.pagesizeKind pagesize = some kind →
    kind = hbwChooseKind available shared.policy pagesize

/-- The policy also serves no request that it does not support. -/
structure PolicyRespected (available : Bool) (shared : HbwShared Thread) : Prop
    extends PolicyFixed available shared where
  served : ∀ kind, (.mb2, kind) ∈ shared.served → shared.policy ≠ .interleave

/-- The size of the pages of a request whose check is over. -/
def HbwThread.requested : HbwThread → Option HbwPagesize
  | .idle | .check _ => none
  | .lookUp pagesize | .readMode pagesize | .readPolicy pagesize | .storeKind pagesize _
  | .readKind pagesize | .serve pagesize _ => some pagesize
  | .enterOnce caller _ | .writePolicy caller _ | .leaveOnce caller _ | .compare caller _ =>
      match caller with
      | .program _ => none
      | .choose pagesize => some pagesize

/-- The next turn writes the interleave policy. -/
def HbwThread.writesInterleave : HbwThread → Bool
  | .writePolicy _ policy => policy = .interleave
  | _ => false

/-- The condition for a turn: the interleave policy is written while no request for huge pages is
behind its check. -/
def InterleavesInTime (label : PolicyLabel Thread)
    (state : Threads Thread (HbwShared Thread) HbwThread) : Prop :=
  match label with
  | .call _ _ => True
  | .turn thread => (state.locals thread).writesInterleave = true →
      ∀ other, (state.locals other).requested ≠ some .mb2

instance InterleavesInTime.decidable [Fintype Thread] (label : PolicyLabel Thread)
    (state : Threads Thread (HbwShared Thread) HbwThread) :
    Decidable (InterleavesInTime label state) :=
  match label with
  | .call _ _ => isTrue trivial
  | .turn thread => inferInstanceAs (Decidable ((state.locals thread).writesInterleave = true →
      ∀ other, (state.locals other).requested ≠ some .mb2))

/-- What the shared variables satisfy at every time. What was returned, stored or served is there
after the policy is final. The part about huge pages is for runs in which `inTime` holds. -/
structure PolicyInvariant (available : Bool) (inTime : Prop) (shared : HbwShared Thread) :
    Prop where
  writes : shared.writes ≤ 1
  unwritten : shared.once = .notStarted → shared.writes = 0
  returned : ∀ mode status, (mode, status) ∈ shared.returned →
    (hbwPolicyOf mode = none ∨ shared.once = .done) ∧
      status = setPolicyResult shared.policy mode
  stored : ∀ pagesize kind, shared.pagesizeKind pagesize = some kind →
    shared.once = .done ∧ kind = hbwChooseKind available shared.policy pagesize
  served : inTime → ∀ kind, (.mb2, kind) ∈ shared.served →
    shared.once = .done ∧ shared.policy ≠ .interleave

/-- What a thread knows at its position. -/
def HbwThread.Knows (available : Bool) (thread : Thread) (shared : HbwShared Thread) :
    HbwThread → Prop
  | .writePolicy _ _ => shared.once = .running thread ∧ shared.writes = 0
  | .leaveOnce _ _ => shared.once = .running thread
  | .compare _ _ | .readPolicy _ => shared.once = .done
  | .storeKind pagesize kind =>
      shared.once = .done ∧ kind = hbwChooseKind available shared.policy pagesize
  | .serve _ _ => shared.once = .done
  | _ => True

/-- The program asks for the policy of its mode. -/
def PolicyCaller.Asks (policy : HbwPolicy) : PolicyCaller → Prop
  | .program mode => hbwPolicyOf mode = some policy
  | .choose _ => True

/-- A thread inside `hbw_set_policy` works for its caller. -/
def HbwThread.Asked : HbwThread → Prop
  | .enterOnce caller policy | .writePolicy caller policy | .leaveOnce caller policy
  | .compare caller policy => caller.Asks policy
  | _ => True

/-- The assertion of a position. A request for huge pages behind its check has seen another policy
than interleave. -/
structure HbwThread.Asserts (available : Bool) (inTime : Prop) (thread : Thread)
    (shared : HbwShared Thread) (position : HbwThread) : Prop where
  knows : position.Knows available thread shared
  asked : position.Asked
  huge : inTime → position.requested = some .mb2 → shared.policy ≠ .interleave

/-- The thread starts or runs the initialization. -/
def HbwShared.Initializing (thread : Thread) (shared : HbwShared Thread) : Prop :=
  shared.once = .notStarted ∨ shared.once = .running thread

/-- What a turn does to the knowledge of the other threads: a final policy stays, and nothing
happens to a thread that runs the initialization. -/
structure LeavesOthers (thread : Thread) (shared next : HbwShared Thread) : Prop where
  final : shared.once = .done → next.once = .done ∧ next.policy = shared.policy
  exclusive : ∀ other, other ≠ thread → shared.once = .running other →
    next.once = .running other ∧ next.writes = shared.writes

section Assertions

variable {available : Bool} {inTime : Prop} {thread other : Thread}
  {shared next : HbwShared Thread} {position : HbwThread}

/-- A position outside a request for huge pages. -/
theorem HbwThread.Asserts.of_free (knows : position.Knows available thread shared)
    (asked : position.Asked) (free : position.requested = none) :
    position.Asserts available inTime thread shared where
  knows := knows
  asked := asked
  huge _ requested := by
    rw [free] at requested
    cases requested

theorem HbwThread.Asserts.stable (asserts : position.Asserts available inTime other shared)
    (different : other ≠ thread) (leaves : LeavesOthers thread shared next)
    (interleaved : inTime → position.requested = some .mb2 → next.policy = .interleave →
      shared.policy = .interleave) : position.Asserts available inTime other next where
  knows := by
    have knows := asserts.knows
    cases position with
    | writePolicy caller policy =>
        obtain ⟨once, writes⟩ := leaves.exclusive other different knows.1
        exact ⟨once, writes.trans knows.2⟩
    | leaveOnce caller policy => exact (leaves.exclusive other different knows).1
    | compare caller policy => exact (leaves.final knows).1
    | readPolicy pagesize => exact (leaves.final knows).1
    | storeKind pagesize kind =>
        obtain ⟨once, policy⟩ := leaves.final knows.1
        refine ⟨once, ?_⟩
        rw [policy]
        exact knows.2
    | serve pagesize kind => exact (leaves.final knows).1
    | idle => trivial
    | check pagesize => trivial
    | lookUp pagesize => trivial
    | readMode pagesize => trivial
    | enterOnce caller policy => trivial
    | readKind pagesize => trivial
  asked := asserts.asked
  huge met requested policy := asserts.huge met requested (interleaved met requested policy)

/-- A turn that changes neither the policy nor its initialization. -/
theorem LeavesOthers.of_same (once : next.once = shared.once) (policy : next.policy = shared.policy)
    (writes : next.writes = shared.writes) : LeavesOthers thread shared next where
  final done := ⟨once.trans done, policy⟩
  exclusive _ _ running := ⟨once.trans running, writes⟩

theorem HbwShared.Initializing.once_ne_done (initializing : shared.Initializing thread) :
    shared.once ≠ .done := by
  intro done
  obtain once | once := initializing
  · rw [once] at done
    cases done
  · rw [once] at done
    cases done

theorem HbwShared.Initializing.leavesOthers (initializing : shared.Initializing thread) :
    LeavesOthers thread shared next where
  final done := absurd done initializing.once_ne_done
  exclusive other different running := by
    obtain once | once := initializing
    · rw [once] at running
      cases running
    · rw [once] at running
      exact absurd (HbwOnce.running.inj running).symm different

/-- Before the policy is final only invalid modes have returned. -/
theorem PolicyInvariant.initializing (held : PolicyInvariant available inTime shared)
    (initializing : shared.Initializing thread)
    (started : next.once = .running thread ∨ next.once = .done)
    (writes : next.writes ≤ 1) (returned : next.returned = shared.returned)
    (stored : next.pagesizeKind = shared.pagesizeKind) (served : next.served = shared.served) :
    PolicyInvariant available inTime next where
  writes := writes
  unwritten notStarted := by
    obtain once | once := started
    · rw [once] at notStarted
      cases notStarted
    · rw [once] at notStarted
      cases notStarted
  returned mode status member := by
    rw [returned] at member
    obtain ⟨invalid, result⟩ := held.returned mode status member
    have invalid := invalid.resolve_right initializing.once_ne_done
    refine ⟨Or.inl invalid, ?_⟩
    rw [result, setPolicyResult, setPolicyResult, invalid]
  stored pagesize kind found := by
    rw [stored] at found
    exact absurd (held.stored pagesize kind found).1 initializing.once_ne_done
  served met kind member := by
    rw [served] at member
    exact absurd (held.served met kind member).1 initializing.once_ne_done

/-- The call of `hbw_set_policy` returns. -/
theorem PolicyInvariant.returns (held : PolicyInvariant available inTime shared) {mode : Int}
    {status : SetPolicyStatus} (final : hbwPolicyOf mode = none ∨ shared.once = .done)
    (result : status = setPolicyResult shared.policy mode) :
    PolicyInvariant available inTime
      { shared with returned := (mode, status) :: shared.returned } where
  writes := held.writes
  unwritten := held.unwritten
  returned other otherStatus member := by
    obtain same | before := List.mem_cons.mp member
    · obtain ⟨rfl, rfl⟩ := Prod.mk.inj same
      exact ⟨final, result⟩
    · exact held.returned other otherStatus before
  stored := held.stored
  served := held.served

end Assertions

/-- What holds at every time. -/
abbrev PolicyHolds [DecidableEq Thread] (available : Bool) (inTime : Prop)
    (state : Threads Thread (HbwShared Thread) HbwThread) : Prop :=
  state.Holds (PolicyInvariant available inTime) (fun thread shared position =>
    position.Asserts available inTime thread shared)

section Turns

variable [DecidableEq Thread] {available : Bool} {inTime : Prop} {thread : Thread}
  {state : Threads Thread (HbwShared Thread) HbwThread}

/-- A turn that leaves the shared variables as they are. -/
theorem PolicyHolds.move (held : PolicyHolds available inTime state) {position : HbwThread}
    (reached : position.Asserts available inTime thread state.shared) :
    PolicyHolds available inTime (state.advance thread state.shared position) :=
  held.advance held.shared reached fun _ _ asserts => asserts

/-- A turn that keeps the policy and its initialization. -/
theorem PolicyHolds.record (held : PolicyHolds available inTime state) {position : HbwThread}
    {next : HbwShared Thread} (kept : PolicyInvariant available inTime next)
    (reached : position.Asserts available inTime thread next) (once : next.once = state.shared.once)
    (policy : next.policy = state.shared.policy) (writes : next.writes = state.shared.writes) :
    PolicyHolds available inTime (state.advance thread next position) :=
  held.advance kept reached fun _ different asserts =>
    asserts.stable different (.of_same once policy writes) fun _ _ interleaved =>
      policy.symm.trans interleaved

theorem policyCall_kept (held : PolicyHolds available inTime state) (call : PolicyCall) :
    PolicyHolds available inTime
      (state.advance thread (state.shared.call call).1 (state.shared.call call).2) := by
  cases call with
  | setPolicy mode =>
      rw [HbwShared.call]
      cases asked : hbwPolicyOf mode with
      | some policy => exact held.move (.of_free trivial asked rfl)
      | none =>
          refine held.record (held.shared.returns (Or.inl asked) ?_) (.of_free trivial trivial rfl)
            rfl rfl rfl
          rw [setPolicyResult, asked]
  | malloc =>
      refine held.move ⟨trivial, trivial, fun _ requested => ?_⟩
      cases requested
  | posixMemalignPsize pagesize => exact held.move (.of_free trivial trivial rfl)

/-- The end of `hbw_set_policy` compares with a final policy. -/
theorem policyCompare_kept (held : PolicyHolds available inTime state)
    (stands : state.locals thread = .compare caller policy) :
    PolicyHolds available inTime (state.advance thread (state.shared.compare policy caller).1
      (state.shared.compare policy caller).2) := by
  have asserts := held.locals thread
  rw [stands] at asserts
  cases caller with
  | program mode =>
      refine held.record (held.shared.returns (Or.inr asserts.knows) ?_)
        (.of_free trivial trivial rfl) rfl rfl rfl
      have asked : hbwPolicyOf mode = some policy := asserts.asked
      rw [setPolicyResult, asked]
      by_cases same : policy = state.shared.policy
      · rw [if_neg (not_not_intro same)]
        exact (if_pos same).symm
      · rw [if_pos same]
        exact (if_neg same).symm
  | choose pagesize => exact held.move ⟨asserts.knows, trivial, asserts.huge⟩

/-- The initialization writes the policy. -/
theorem policyWrite_kept (held : PolicyHolds available inTime state)
    (stands : state.locals thread = .writePolicy caller policy)
    (guarded : inTime → InterleavesInTime (.turn thread) state) :
    PolicyHolds available inTime (state.advance thread
      { state.shared with policy, writes := state.shared.writes + 1 }
      (.leaveOnce caller policy)) := by
  have asserts := held.locals thread
  rw [stands] at asserts
  obtain ⟨once, writes⟩ := asserts.knows
  -- Nobody behind a check for huge pages sees the policy change to interleave.
  have unseen : inTime → ∀ other, (state.locals other).requested = some .mb2 →
      policy ≠ .interleave := by
    intro met other requested interleave
    refine guarded met ?_ other requested
    rw [stands]
    exact decide_eq_true interleave
  refine held.advance ?_ ⟨once, asserts.asked, ?_⟩ ?_
  · refine held.shared.initializing (Or.inr once) (Or.inl once) ?_ rfl rfl rfl
    show state.shared.writes + 1 ≤ 1
    rw [writes]
  · intro met requested
    apply unseen met thread
    rw [stands]
    exact requested
  · intro other different others
    have initializing : state.shared.Initializing thread := Or.inr once
    refine others.stable different initializing.leavesOthers ?_
    intro met requested interleave
    exact absurd interleave (unseen met other requested)

/-- `pthread_once` starts the initialization, or it is over. -/
theorem policyEnter_kept (held : PolicyHolds available inTime state)
    (stands : state.locals thread = .enterOnce caller policy)
    {next : HbwShared Thread × HbwThread}
    (turned : state.shared.turn available thread (.enterOnce caller policy) = some next) :
    PolicyHolds available inTime (state.advance thread next.1 next.2) := by
  have asserts := held.locals thread
  rw [stands] at asserts
  unfold HbwShared.turn at turned
  cases once : state.shared.once with
  | notStarted =>
      rw [once] at turned
      obtain rfl := Option.some.inj turned
      have initializing : state.shared.Initializing thread := Or.inl once
      refine held.advance ?_ ⟨⟨rfl, held.shared.unwritten once⟩, asserts.asked, asserts.huge⟩ ?_
      · exact held.shared.initializing initializing (Or.inl rfl) held.shared.writes rfl rfl rfl
      · intro other different others
        exact others.stable different initializing.leavesOthers fun _ _ interleaved => interleaved
  | running owner =>
      rw [once] at turned
      cases turned
  | done =>
      rw [once] at turned
      obtain rfl := Option.some.inj turned
      exact held.move ⟨once, asserts.asked, asserts.huge⟩

/-- The initialization is over. -/
theorem policyLeave_kept (held : PolicyHolds available inTime state)
    (stands : state.locals thread = .leaveOnce caller policy) :
    PolicyHolds available inTime (state.advance thread { state.shared with once := .done }
      (.compare caller policy)) := by
  have asserts := held.locals thread
  rw [stands] at asserts
  have initializing : state.shared.Initializing thread := Or.inr asserts.knows
  refine held.advance ?_ ⟨rfl, asserts.asked, asserts.huge⟩ ?_
  · exact held.shared.initializing initializing (Or.inr rfl) held.shared.writes rfl rfl rfl
  · intro other different others
    exact others.stable different initializing.leavesOthers fun _ _ interleaved => interleaved

/-- A kind that the final policy prescribes is stored. -/
theorem policyStore_kept (held : PolicyHolds available inTime state) {pagesize : HbwPagesize}
    {kind : KindPtr} (stands : state.locals thread = .storeKind pagesize kind) :
    PolicyHolds available inTime (state.advance thread
      { state.shared with
        pagesizeKind := Function.update state.shared.pagesizeKind pagesize (some kind) }
      (.readKind pagesize)) := by
  have asserts := held.locals thread
  rw [stands] at asserts
  refine held.record ?_ ⟨trivial, trivial, asserts.huge⟩ rfl rfl rfl
  refine ⟨held.shared.writes, held.shared.unwritten, held.shared.returned, ?_, held.shared.served⟩
  intro other otherKind found
  dsimp only at found
  by_cases same : other = pagesize
  · subst same
    rw [Function.update_self] at found
    obtain rfl := Option.some.inj found
    exact asserts.knows
  · rw [Function.update_of_ne same] at found
    exact held.shared.stored other otherKind found

/-- A request is served. -/
theorem policyServe_kept (held : PolicyHolds available inTime state) {pagesize : HbwPagesize}
    {kind : KindPtr} (stands : state.locals thread = .serve pagesize kind) :
    PolicyHolds available inTime (state.advance thread
      { state.shared with served := (pagesize, kind) :: state.shared.served } .idle) := by
  have asserts := held.locals thread
  rw [stands] at asserts
  refine held.record ?_ (.of_free trivial trivial rfl) rfl rfl rfl
  refine ⟨held.shared.writes, held.shared.unwritten, held.shared.returned, held.shared.stored, ?_⟩
  intro met other member
  obtain same | before := List.mem_cons.mp member
  · obtain ⟨rfl, rfl⟩ := Prod.mk.inj same
    exact ⟨asserts.knows, asserts.huge met rfl⟩
  · exact held.shared.served met other before

/-- Every turn keeps what holds. -/
theorem policyTurn_kept (held : PolicyHolds available inTime state)
    (guarded : inTime → InterleavesInTime (.turn thread) state)
    {next : HbwShared Thread × HbwThread}
    (turned : state.shared.turn available thread (state.locals thread) = some next) :
    PolicyHolds available inTime (state.advance thread next.1 next.2) := by
  have asserts := held.locals thread
  cases stands : state.locals thread with
  | idle =>
      rw [stands] at turned
      cases turned
  | check pagesize =>
      rw [stands, HbwShared.turn] at turned
      split at turned
      · obtain rfl := Option.some.inj turned
        exact held.move (.of_free trivial trivial rfl)
      · rename_i supported
        obtain rfl := Option.some.inj turned
        refine held.move ⟨trivial, trivial, fun _ requested interleaved => ?_⟩
        exact supported ⟨Option.some.inj requested, interleaved⟩
  | lookUp pagesize =>
      rw [stands] at turned asserts
      rw [HbwShared.turn] at turned
      split at turned
      · obtain rfl := Option.some.inj turned
        exact held.move ⟨trivial, trivial, asserts.huge⟩
      · obtain rfl := Option.some.inj turned
        exact held.move ⟨trivial, trivial, asserts.huge⟩
  | readMode pagesize =>
      rw [stands] at turned asserts
      obtain rfl := Option.some.inj turned
      exact held.move ⟨trivial, trivial, asserts.huge⟩
  | enterOnce caller policy =>
      rw [stands] at turned
      exact policyEnter_kept held stands turned
  | writePolicy caller policy =>
      rw [stands] at turned
      obtain rfl := Option.some.inj turned
      exact policyWrite_kept held stands guarded
  | leaveOnce caller policy =>
      rw [stands] at turned
      obtain rfl := Option.some.inj turned
      exact policyLeave_kept held stands
  | compare caller policy =>
      rw [stands] at turned
      obtain rfl := Option.some.inj turned
      exact policyCompare_kept held stands
  | readPolicy pagesize =>
      rw [stands] at turned asserts
      obtain rfl := Option.some.inj turned
      exact held.move ⟨⟨asserts.knows, rfl⟩, trivial, asserts.huge⟩
  | storeKind pagesize kind =>
      rw [stands] at turned
      obtain rfl := Option.some.inj turned
      exact policyStore_kept held stands
  | readKind pagesize =>
      rw [stands] at turned asserts
      obtain ⟨kind, found, rfl⟩ := Option.map_eq_some_iff.mp turned
      exact held.move ⟨(held.shared.stored pagesize kind found).1, trivial, asserts.huge⟩
  | serve pagesize kind =>
      rw [stands] at turned
      obtain rfl := Option.some.inj turned
      exact policyServe_kept held stands

theorem policyStep_kept {label : PolicyLabel Thread}
    {next : Threads Thread (HbwShared Thread) HbwThread} (held : PolicyHolds available inTime state)
    (guarded : inTime → InterleavesInTime label state)
    (stepped : policyStep available label state = some next) :
    PolicyHolds available inTime next := by
  cases label with
  | call thread call =>
      rw [policyStep] at stepped
      split at stepped
      · obtain rfl := Option.some.inj stepped
        exact policyCall_kept held call
      · cases stepped
  | turn thread =>
      obtain ⟨turned, taken, rfl⟩ := Option.map_eq_some_iff.mp stepped
      exact policyTurn_kept held guarded taken

end Turns

theorem policyHolds_initial [DecidableEq Thread] (available : Bool) (inTime : Prop) :
    PolicyHolds available inTime (policyInitial : Threads Thread (HbwShared Thread) HbwThread) := by
  refine ⟨⟨Nat.zero_le 1, fun _ => rfl, ?_, ?_, ?_⟩, fun thread => ⟨trivial, trivial, ?_⟩⟩
  · intro mode status member
    cases member
  · intro pagesize kind found
    cases found
  · intro _ kind member
    cases member
  · intro _ requested
    cases requested

theorem PolicyInvariant.fixed {available : Bool} {inTime : Prop} {shared : HbwShared Thread}
    (held : PolicyInvariant available inTime shared) : PolicyFixed available shared where
  writes := held.writes
  returned mode status member := (held.returned mode status member).2
  stored pagesize kind found := (held.stored pagesize kind found).2

/-- In every interleaving of any threads the policy is fixed once. It is respected at every time
when the interleave policy is written while no request for huge pages is behind its check. -/
theorem policy_fixed_and_respected [DecidableEq Thread] (available : Bool)
    (labels : List (PolicyLabel Thread)) :
    Always (policyStep available) (fun state => PolicyFixed available state.shared) policyInitial
      labels ∧
    (Guarded (policyStep available) InterleavesInTime policyInitial labels →
      Always (policyStep available) (fun state => PolicyRespected available state.shared)
        policyInitial labels) := by
  constructor
  · have always := always_of_kept (policyStep available)
      (fun _ _ _ held stepped => policyStep_kept held False.elim stepped)
      (policyHolds_initial available False) labels
    refine always.imp _ ?_
    intro state held
    exact held.shared.fixed
  · intro guarded
    have always := always_of_guarded (policyStep available)
      (fun _ _ _ held met stepped => policyStep_kept held (fun _ => met) stepped)
      (policyHolds_initial available True) guarded
    refine always.imp _ ?_
    intro state held
    exact ⟨held.shared.fixed, fun kind member => (held.shared.served trivial kind member).2⟩

/-- One thread sets the interleave policy, and the request of the other is rejected afterwards. -/
def interleaveFirst : List (PolicyLabel Bool) :=
  [.call true (.setPolicy 3), .turn true, .turn true, .turn true, .turn true,
    .call false (.posixMemalignPsize .mb2), .turn false]

theorem policy_respected_interleaveFirst :
    Guarded (policyStep true) InterleavesInTime policyInitial interleaveFirst ∧
      ∃ final, runSteps (policyStep true) policyInitial interleaveFirst = some final ∧
        final.shared.policy = .interleave ∧ PolicyRespected true final.shared := by
  have guarded : Guarded (policyStep true) InterleavesInTime policyInitial interleaveFirst := by
    decide +kernel
  have computed : ((runSteps (policyStep true) policyInitial interleaveFirst).map fun final =>
      final.shared.policy) = some .interleave := by
    decide +kernel
  obtain ⟨final, ran, policy⟩ := Option.map_eq_some_iff.mp computed
  exact ⟨guarded, final, ran, policy,
    ((policy_fixed_and_respected true interleaveFirst).2 guarded).final _ ran⟩

/-- One thread passes the check for huge pages before the other sets the interleave policy. -/
def interleaveBehindCheck : List (PolicyLabel Bool) :=
  [.call false (.posixMemalignPsize .mb2), .turn false,
    .call true (.setPolicy 3), .turn true, .turn true, .turn true, .turn true,
    .turn false, .turn false, .turn false, .turn false, .turn false, .turn false, .turn false,
    .turn false]

theorem interleaveBehindCheck_served :
    ((runSteps (policyStep true) policyInitial interleaveBehindCheck).map fun final =>
        (final.shared.policy, final.shared.returned, final.shared.served)) =
        some (.interleave, [(3, .success)], [(.mb2, memkindHbwHugetlb)]) ∧
      ¬Always (policyStep true) (fun state => PolicyRespected true state.shared) policyInitial
        interleaveBehindCheck := by
  have computed : ((runSteps (policyStep true) policyInitial interleaveBehindCheck).map fun final =>
      (final.shared.policy, final.shared.returned, final.shared.served)) =
      some (.interleave, [(3, .success)], [(.mb2, memkindHbwHugetlb)]) := by
    decide +kernel
  refine ⟨computed, fun always => ?_⟩
  obtain ⟨final, ran, equal⟩ := Option.map_eq_some_iff.mp computed
  obtain ⟨policy, equal⟩ := Prod.mk.inj equal
  obtain ⟨_, served⟩ := Prod.mk.inj equal
  refine (always.final _ ran).served memkindHbwHugetlb ?_ policy
  rw [served]
  exact List.mem_cons_self

end Memkind
