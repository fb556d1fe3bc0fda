/-
This file runs the functions of a dynamic builder in any order, and says what the builder holds
afterwards.
-/

import Memkind.Library.Run
import Memkind.Proof.Ctl.NameReading
import Memkind.Proof.Tiering.Validation

namespace Memkind

open Library

section Calls

/-- The kinds that a registry holds. -/
def Registry.Registered (registry : Registry) : Type :=
  { pointer : KindPtr // ∃ slot, registry.partitionMap slot = some pointer }

/-- The calls on a builder. A tier is `NULL` or a kind of the registry. -/
inductive BuilderCall (registry : Registry) where
  | addTier (outcome : AddTierOutcome) (kind : Option registry.Registered) (kindRatio : BitVec 32)
  | ctlSet (initial name : CString) (val : CtlValue)

/-- What a call that succeeds does. -/
inductive BuilderEvent where
  | tier (cfg : TierCfg)
  | set (target : CtlTarget) (val : CtlValue)

/-- A builder and the calls that succeeded on it, the first one in front. -/
structure BuilderRun where
  builder : MemtierBuilder
  history : List BuilderEvent

def BuilderRun.start : BuilderRun := ⟨memtierBuilderNew .dynamicThreshold, []⟩

/-- A call and its record. -/
def BuilderCall.step {registry : Registry} (call : BuilderCall registry) (run : BuilderRun) :
    Option BuilderRun :=
  match call with
  | .addTier outcome kind kindRatio =>
      let pointer := kind.map Subtype.val
      let added := memtierBuilderAddTier outcome run.builder pointer kindRatio
      let event := pointer.map fun kind => BuilderEvent.tier ⟨kind, .ofUnsigned kindRatio.toNat⟩
      some ⟨added.2, run.history ++ if added.1 then event.toList else []⟩
  | .ctlSet initial name val =>
      let target := (readName initial run.builder.cfg.length name).join
      let event := target.map fun target => BuilderEvent.set target val
      (memtierCtlSetName initial run.builder name val).map fun result =>
        ⟨result.2, run.history ++ if result.1 = 0 then event.toList else []⟩

/-- The tier that is added. -/
def BuilderEvent.added : BuilderEvent → Option TierCfg
  | .tier cfg => some cfg
  | .set _ _ => none

/-- The value that the setting gets. -/
def BuilderEvent.sets (target : CtlTarget) : BuilderEvent → Option CtlValue
  | .tier _ => none
  | .set other val => if other = target then some val else none

/-- The value of the last call that set the setting. -/
def lastSet (target : CtlTarget) (history : List BuilderEvent) : Option CtlValue :=
  history.foldl (fun last event => (event.sets target).or last) none

theorem lastSet_append (target : CtlTarget) (history : List BuilderEvent) (event : BuilderEvent) :
    lastSet target (history ++ [event]) = (event.sets target).or (lastSet target history) := by
  rw [lastSet, List.foldl_append]
  rfl

end Calls

section Fields

def ThresholdCfg.get (thres : ThresholdCfg) : ThresholdField → SizeT
  | .val => thres.val
  | .min => thres.min
  | .max => thres.max

theorem ThresholdCfg.get_set (thres : ThresholdCfg) (value : SizeT) (field other : ThresholdField) :
    (thres.set value field).get other = if field = other then value else thres.get other := by
  cases field <;> cases other <;> rfl

/-- The defaults of a threshold as numbers. -/
def defaultField (index : Nat) : ThresholdField → Nat
  | .min => 1024 * index + 512
  | .val => 1024 * (index + 1)
  | .max => 1024 * index + 1535

theorem defaultThreshold_get {index : Nat} (small : index + 1 < 2 ^ 22) (field : ThresholdField) :
    ((defaultThreshold index).get field).toNat = defaultField index field := by
  obtain ⟨min, val, max⟩ := defaultThreshold_toNat index small
  cases field with
  | val => exact val
  | min => exact min
  | max => exact max

end Fields

section Tiers

/-- What adding a tier leaves as it was: the settings, and the thresholds between the tiers. -/
structure MemtierBuilder.Keeps (builder next : MemtierBuilder) : Prop where
  policy : next.policy = builder.policy
  checkCnt : next.checkCnt = builder.checkCnt
  trigger : next.trigger = builder.trigger
  degree : next.degree = builder.degree
  thres : ∀ index, index + 1 < builder.cfg.length → next.thres[index]? = builder.thres[index]?

theorem MemtierBuilder.Keeps.refl (builder : MemtierBuilder) : builder.Keeps builder :=
  ⟨rfl, rfl, rfl, rfl, fun _ _ => rfl⟩

/-- `builder_dynamic_update` writes the threshold behind the last tier. -/
theorem MemtierBuilder.updateBuilder_keeps {granted : Bool} {builder updated : MemtierBuilder}
    (dynamic : builder.policy = .dynamicThreshold)
    (update : builder.updateBuilder granted = some updated) :
    builder.Keeps updated ∧ (builder.cfg ≠ [] → updated.thres[builder.cfg.length - 1]? =
      some (defaultThreshold (builder.cfg.length - 1))) := by
  rw [MemtierBuilder.updateBuilder, dynamic] at update
  change builderDynamicUpdate granted builder = some updated at update
  unfold builderDynamicUpdate at update
  split at update
  · rename_i empty
    obtain rfl := Option.some.inj update
    refine ⟨.refl builder, fun present => ?_⟩
    exact absurd (List.length_eq_zero_iff.mp (Nat.lt_one_iff.mp empty)) present
  · rename_i several
    split at update
    · cases update
    · obtain rfl := Option.some.inj update
      have sized := builder.sized dynamic
      have length : (builder.thres.take (builder.cfg.length - 1)).length =
          builder.cfg.length - 1 := by
        rw [List.length_take]
        omega
      refine ⟨⟨rfl, rfl, rfl, rfl, ?_⟩, ?_⟩
      · intro index inside
        change (builder.thres.take _ ++ [_])[index]? = _
        rw [List.getElem?_append_left (by omega), List.getElem?_take_of_lt (by omega)]
      · intro _
        change (builder.thres.take _ ++ [_])[_]? = _
        rw [List.getElem?_append_right (by omega), length, Nat.sub_self]
        rfl

/-- A call that fails keeps the tiers too. -/
theorem memtierBuilderAddTier_failed {outcome : AddTierOutcome} {builder next : MemtierBuilder}
    {kind : Option KindPtr} {ratio : BitVec 32} (dynamic : builder.policy = .dynamicThreshold)
    (failed : memtierBuilderAddTier outcome builder kind ratio = (false, next)) :
    builder.Keeps next ∧ next.cfg = builder.cfg := by
  unfold memtierBuilderAddTier at failed
  split at failed
  · obtain rfl := (Prod.mk.inj failed).2
    exact ⟨.refl builder, rfl⟩
  · split at failed
    · obtain rfl := (Prod.mk.inj failed).2
      exact ⟨.refl builder, rfl⟩
    · split at failed
      · obtain rfl := (Prod.mk.inj failed).2
        exact ⟨.refl builder, rfl⟩
      · rename_i updated update
        split at failed
        · -- The second block is refused, and the threshold behind the last tier stays written.
          obtain rfl := (Prod.mk.inj failed).2
          exact ⟨(MemtierBuilder.updateBuilder_keeps dynamic update).1,
            (MemtierBuilder.updateBuilder_same update).1⟩
        · cases failed

/-- A tier is added behind the others, with the default threshold in front of it. -/
theorem memtierBuilderAddTier_added {outcome : AddTierOutcome} {builder next : MemtierBuilder}
    {kind : Option KindPtr} {ratio : BitVec 32} (dynamic : builder.policy = .dynamicThreshold)
    (added : memtierBuilderAddTier outcome builder kind ratio = (true, next)) :
    builder.Keeps next ∧ (builder.cfg ≠ [] → next.thres[builder.cfg.length - 1]? =
        some (defaultThreshold (builder.cfg.length - 1))) ∧
      ∃ pointer, kind = some pointer ∧ pointer ∉ builder.cfg.map TierCfg.kind ∧
        next.cfg = builder.cfg ++ [⟨pointer, .ofUnsigned ratio.toNat⟩] := by
  obtain ⟨pointer, updated, rfl, fresh, update, -, rfl⟩ := memtierBuilderAddTier_eq_true added
  obtain ⟨cfg, policy⟩ := MemtierBuilder.updateBuilder_same update
  obtain ⟨keeps, written⟩ := MemtierBuilder.updateBuilder_keeps dynamic update
  refine ⟨⟨policy, keeps.checkCnt, keeps.trigger, keeps.degree, keeps.thres⟩, written, pointer,
    rfl, fresh, ?_⟩
  change updated.cfg ++ _ = _
  rw [cfg]

end Tiers

section Settings

/-- What a builder holds after the calls of its history. -/
structure BuilderRun.Follows (registry : Registry) (run : BuilderRun) : Prop where
  dynamic : run.builder.policy = .dynamicThreshold
  tiers : run.builder.cfg = run.history.filterMap BuilderEvent.added
  distinct : (run.builder.cfg.map TierCfg.kind).Nodup
  registered : ∀ tier ∈ run.builder.cfg, ∃ slot, registry.partitionMap slot = some tier.kind
  thresholds : ∀ index, index + 1 < run.builder.cfg.length →
    ∃ thres, run.builder.thres[index]? = some thres ∧ ∀ field, thres.get field =
      ((lastSet (.threshold index field) run.history).map CtlValue.sizeT).getD
        ((defaultThreshold index).get field)
  -- A threshold is not set before its two tiers are there.
  unset : ∀ index field, run.builder.cfg.length ≤ index + 1 →
    lastSet (.threshold index field) run.history = none
  checkCnt : run.builder.checkCnt =
    ((lastSet (.param .checkCnt) run.history).map CtlValue.unsigned).getD thresholdCheckCnt
  trigger : run.builder.trigger =
    ((lastSet (.param .trigger) run.history).map CtlValue.float).getD thresholdTrigger
  degree : run.builder.degree =
    ((lastSet (.param .degree) run.history).map CtlValue.float).getD thresholdDegree

variable {registry : Registry} {run : BuilderRun}

theorem follows_start : BuilderRun.start.Follows registry where
  dynamic := rfl
  tiers := rfl
  distinct := List.nodup_nil
  registered := fun _ member => absurd member List.not_mem_nil
  thresholds := fun _ inside => absurd inside (Nat.not_lt_zero _)
  unset := fun _ _ _ => rfl
  checkCnt := rfl
  trigger := rfl
  degree := rfl

/-- A call that fails to add a tier. -/
theorem BuilderRun.Follows.failed (follows : run.Follows registry) {next : MemtierBuilder}
    (keeps : run.builder.Keeps next) (cfg : next.cfg = run.builder.cfg) :
    BuilderRun.Follows registry ⟨next, run.history⟩ where
  dynamic := keeps.policy.trans follows.dynamic
  tiers := cfg.trans follows.tiers
  distinct := by
    change (next.cfg.map TierCfg.kind).Nodup
    rw [cfg]
    exact follows.distinct
  registered := by
    change ∀ tier ∈ next.cfg, _
    rw [cfg]
    exact follows.registered
  thresholds := by
    change ∀ index, index + 1 < next.cfg.length → _
    rw [cfg]
    intro index inside
    rw [keeps.thres index inside]
    exact follows.thresholds index inside
  unset := by
    change ∀ index field, next.cfg.length ≤ index + 1 → _
    rw [cfg]
    exact follows.unset
  checkCnt := keeps.checkCnt.trans follows.checkCnt
  trigger := keeps.trigger.trans follows.trigger
  degree := keeps.degree.trans follows.degree

/-- The record of a tier sets nothing. -/
theorem lastSet_tier (target : CtlTarget) (history : List BuilderEvent) (cfg : TierCfg) :
    lastSet target (history ++ [.tier cfg]) = lastSet target history := by
  rw [lastSet_append]
  rfl

theorem BuilderRun.Follows.added (follows : run.Follows registry) {next : MemtierBuilder}
    {pointer : KindPtr} {ratio : ExactFloat} (keeps : run.builder.Keeps next)
    (written : run.builder.cfg ≠ [] → next.thres[run.builder.cfg.length - 1]? =
      some (defaultThreshold (run.builder.cfg.length - 1)))
    (fresh : pointer ∉ run.builder.cfg.map TierCfg.kind)
    (registered : ∃ slot, registry.partitionMap slot = some pointer)
    (cfg : next.cfg = run.builder.cfg ++ [⟨pointer, ratio⟩]) :
    BuilderRun.Follows registry ⟨next, run.history ++ [.tier ⟨pointer, ratio⟩]⟩ where
  dynamic := keeps.policy.trans follows.dynamic
  tiers := by
    change next.cfg = _
    rw [cfg, follows.tiers, List.filterMap_append]
    rfl
  distinct := by
    change (next.cfg.map TierCfg.kind).Nodup
    rw [cfg, List.map_append]
    exact follows.distinct.append (List.nodup_singleton _) (by simpa using fresh)
  registered := by
    change ∀ tier ∈ next.cfg, _
    rw [cfg]
    intro tier member
    obtain before | last := List.mem_append.mp member
    · exact follows.registered tier before
    · obtain rfl := List.mem_singleton.mp last
      exact registered
  thresholds := by
    change ∀ index, index + 1 < next.cfg.length → ∃ thres, next.thres[index]? = some thres ∧ _
    rw [cfg, List.length_append, List.length_singleton]
    intro index inside
    simp only [lastSet_tier]
    by_cases before : index + 1 < run.builder.cfg.length
    · rw [keeps.thres index before]
      exact follows.thresholds index before
    · -- The threshold in front of the new tier could not be set before, so its default stands.
      have last : index = run.builder.cfg.length - 1 := by omega
      have present : run.builder.cfg ≠ [] := by
        intro empty
        rw [empty, List.length_nil] at inside
        omega
      refine ⟨defaultThreshold index, ?_, ?_⟩
      · rw [last]
        exact written present
      · intro field
        rw [follows.unset index field (by omega)]
        rfl
  unset := by
    change ∀ index field, next.cfg.length ≤ index + 1 → _
    rw [cfg, List.length_append, List.length_singleton]
    intro index field outside
    rw [lastSet_tier]
    exact follows.unset index field (by omega)
  checkCnt := by
    rw [lastSet_tier]
    exact keeps.checkCnt.trans follows.checkCnt
  trigger := by
    rw [lastSet_tier]
    exact keeps.trigger.trans follows.trigger
  degree := by
    rw [lastSet_tier]
    exact keeps.degree.trans follows.degree

theorem lastSet_same (target : CtlTarget) (history : List BuilderEvent) (val : CtlValue) :
    lastSet target (history ++ [.set target val]) = some val := by
  rw [lastSet_append, BuilderEvent.sets, if_pos rfl, Option.some_or]

theorem lastSet_other {target other : CtlTarget} (different : other ≠ target)
    (history : List BuilderEvent) (val : CtlValue) :
    lastSet target (history ++ [.set other val]) = lastSet target history := by
  rw [lastSet_append, BuilderEvent.sets, if_neg different, Option.none_or]

theorem threshold_ne_param (index : Nat) (field : ThresholdField) (setting : CtlParam) :
    CtlTarget.threshold index field ≠ .param setting := by
  intro same
  cases same

theorem added_set (history : List BuilderEvent) (target : CtlTarget) (val : CtlValue) :
    (history ++ [BuilderEvent.set target val]).filterMap BuilderEvent.added =
      history.filterMap BuilderEvent.added := by
  rw [List.filterMap_append]
  exact List.append_nil _

theorem BuilderRun.Follows.setThreshold (follows : run.Follows registry) {index : Nat}
    (inside : index + 1 < run.builder.cfg.length) (field : ThresholdField) (val : CtlValue) :
    BuilderRun.Follows registry ⟨run.builder.setThreshold index field val.sizeT,
      run.history ++ [.set (.threshold index field) val]⟩ where
  dynamic := follows.dynamic
  tiers := by
    rw [added_set]
    exact follows.tiers
  distinct := follows.distinct
  registered := follows.registered
  thresholds := by
    change ∀ other, other + 1 < run.builder.cfg.length → _
    intro other present
    have sets := setThreshold_setsOnly follows.dynamic inside field val.sizeT
    obtain ⟨thres, held, fields⟩ := follows.thresholds other present
    by_cases same : other = index
    · subst same
      obtain ⟨before, found, changed⟩ := sets.threshold
      rw [held] at found
      obtain rfl := Option.some.inj found
      refine ⟨_, changed, fun read => ?_⟩
      rw [ThresholdCfg.get_set]
      by_cases named : field = read
      · subst named
        rw [if_pos rfl, lastSet_same]
        rfl
      · have different : CtlTarget.threshold other field ≠ .threshold other read := by
          rw [Ne, CtlTarget.threshold.injEq]
          exact fun both => named both.2
        rw [if_neg named, lastSet_other different]
        exact fields read
    · refine ⟨thres, (sets.others other same).trans held, fun read => ?_⟩
      have different : CtlTarget.threshold index field ≠ .threshold other read := by
        rw [Ne, CtlTarget.threshold.injEq]
        exact fun both => same both.1.symm
      rw [lastSet_other different]
      exact fields read
  unset := by
    change ∀ other read, run.builder.cfg.length ≤ other + 1 → _
    intro other read outside
    have different : CtlTarget.threshold index field ≠ .threshold other read := by
      rw [Ne, CtlTarget.threshold.injEq]
      omega
    rw [lastSet_other different]
    exact follows.unset other read outside
  checkCnt := by
    rw [lastSet_other (threshold_ne_param _ _ _)]
    exact follows.checkCnt
  trigger := by
    rw [lastSet_other (threshold_ne_param _ _ _)]
    exact follows.trigger
  degree := by
    rw [lastSet_other (threshold_ne_param _ _ _)]
    exact follows.degree

/-- A setting holds its last value when one of the settings is set. -/
theorem lastSet_param {Value : Type} {read : CtlValue → Value} {default current : Value}
    {history : List BuilderEvent} {other : CtlParam}
    (holds : current = ((lastSet (.param other) history).map read).getD default)
    (setting : CtlParam) (val : CtlValue) :
    (if setting = other then read val else current) =
      ((lastSet (.param other) (history ++ [.set (.param setting) val])).map read).getD
        default := by
  by_cases same : setting = other
  · subst same
    rw [if_pos rfl, lastSet_same]
    rfl
  · have different : CtlTarget.param setting ≠ .param other := by
      rw [Ne, CtlTarget.param.injEq]
      exact same
    rw [if_neg same, lastSet_other different]
    exact holds

theorem BuilderRun.Follows.setParam (follows : run.Follows registry) (setting : CtlParam)
    (val : CtlValue) :
    BuilderRun.Follows registry ⟨setting.assign run.builder val,
      run.history ++ [.set (.param setting) val]⟩ := by
  have frame : ∀ index field,
      lastSet (.threshold index field) (run.history ++ [.set (.param setting) val]) =
        lastSet (.threshold index field) run.history := by
    intro index field
    exact lastSet_other (threshold_ne_param _ _ _).symm _ _
  obtain ⟨policy, cfg, thres⟩ : (setting.assign run.builder val).policy = run.builder.policy ∧
      (setting.assign run.builder val).cfg = run.builder.cfg ∧
      (setting.assign run.builder val).thres = run.builder.thres := by
    cases setting <;> exact ⟨rfl, rfl, rfl⟩
  refine ⟨?_, ?_, ?_, ?_, ?_, ?_, ?_, ?_, ?_⟩
  · exact policy.trans follows.dynamic
  · rw [added_set]
    exact cfg.trans follows.tiers
  · rw [cfg]
    exact follows.distinct
  · rw [cfg]
    exact follows.registered
  · simp only [cfg, thres, frame]
    exact follows.thresholds
  · simp only [cfg, frame]
    exact follows.unset
  · refine Eq.trans ?_ (lastSet_param follows.checkCnt setting val)
    cases setting <;> rfl
  · refine Eq.trans ?_ (lastSet_param follows.trigger setting val)
    cases setting <;> rfl
  · refine Eq.trans ?_ (lastSet_param follows.degree setting val)
    cases setting <;> rfl

/-- One call keeps what the history says about the builder. -/
theorem BuilderRun.Follows.step (follows : run.Follows registry) (call : BuilderCall registry)
    {next : BuilderRun} (stepped : call.step run = some next) : next.Follows registry := by
  cases call with
  | addTier outcome kind kindRatio =>
      obtain rfl := Option.some.inj stepped
      cases made : memtierBuilderAddTier outcome run.builder (kind.map Subtype.val) kindRatio with
      | mk success builder =>
          cases success with
          | false =>
              obtain ⟨keeps, cfg⟩ := memtierBuilderAddTier_failed follows.dynamic made
              simpa using follows.failed keeps cfg
          | true =>
              obtain ⟨keeps, written, pointer, passed, fresh, cfg⟩ :=
                memtierBuilderAddTier_added follows.dynamic made
              obtain ⟨kind, rfl, rfl⟩ := Option.map_eq_some_iff.mp passed
              exact follows.added keeps written fresh kind.2 cfg
  | ctlSet initial name val =>
      have read := memtierCtlSetName_read run.builder val initial name follows.dynamic
      rw [BuilderCall.step, read] at stepped
      cases reading : readName initial run.builder.cfg.length name with
      | none =>
          rw [reading] at stepped
          cases stepped
      | some target =>
          rw [reading] at stepped
          obtain rfl := Option.some.inj stepped
          cases target with
          | none => simpa using follows
          | some target =>
              have fits := readName_fits reading
              cases target with
              | threshold index field => exact follows.setThreshold fits field val
              | param setting => exact follows.setParam setting val

end Settings

section Creation

/-- The validation reads the values and the bounds only. -/
theorem thresholdsValid_congr {first second : List ThresholdCfg}
    (same : first.map ThresholdCfg.get = second.map ThresholdCfg.get) :
    thresholdsValid none first = thresholdsValid none second := by
  have clamped : ∀ thresholds : List ThresholdCfg, (∀ thres ∈ thresholds, thres.Clamped) ↔
      ∀ read ∈ thresholds.map ThresholdCfg.get, read .min ≤ read .val ∧ read .val ≤ read .max := by
    intro thresholds
    rw [List.forall_mem_map]
    rfl
  have chain : ∀ thresholds : List ThresholdCfg,
      (thresholds.IsChain fun before after => before.max ≤ after.min) ↔
        (thresholds.map ThresholdCfg.get).IsChain fun before after => before .max ≤ after .min := by
    intro thresholds
    rw [List.isChain_map]
    rfl
  rw [Bool.eq_iff_iff, thresholdsValid_iff, thresholdsValid_iff, clamped, clamped,
    Option.toList_none, List.nil_append, List.nil_append, chain, chain, same]

variable {registry : Registry} {run : BuilderRun}

/-- The tiers of a builder are at most as many as the slots of the registry. -/
theorem BuilderRun.Follows.length_le (follows : run.Follows registry) :
    run.builder.cfg.length ≤ maxKind := by
  have inside : run.builder.cfg.map TierCfg.kind ⊆
      (List.finRange maxKind).filterMap registry.partitionMap := by
    intro kind member
    obtain ⟨tier, present, rfl⟩ := List.mem_map.mp member
    obtain ⟨slot, held⟩ := follows.registered tier present
    exact List.mem_filterMap.mpr ⟨slot, List.mem_finRange slot, held⟩
  calc run.builder.cfg.length = (run.builder.cfg.map TierCfg.kind).length :=
        (List.length_map _).symm
    _ ≤ ((List.finRange maxKind).filterMap registry.partitionMap).length :=
        (follows.distinct.subperm inside).length_le
    _ ≤ (List.finRange maxKind).length := List.length_filterMap_le _ _
    _ = maxKind := List.length_finRange

/-- The thresholds of a builder whose settings were never set. -/
theorem BuilderRun.Follows.thresholds_default (follows : run.Follows registry)
    (unset : ∀ target, lastSet target run.history = none) :
    (run.builder.thres.take (run.builder.cfg.length - 1)).map ThresholdCfg.get =
      ((List.range (run.builder.cfg.length - 1)).map defaultThreshold).map ThresholdCfg.get := by
  apply List.ext_getElem?
  intro index
  by_cases inside : index < run.builder.cfg.length - 1
  · obtain ⟨thres, found, fields⟩ := follows.thresholds index (by omega)
    have same : thres.get = (defaultThreshold index).get := by
      funext field
      rw [fields field, unset]
      rfl
    rw [List.getElem?_map, List.getElem?_take_of_lt inside, found, List.map_map, List.getElem?_map,
      List.getElem?_range inside, Option.map_some, same]
    rfl
  · rw [List.getElem?_eq_none, List.getElem?_eq_none]
    · rw [List.length_map, List.length_map, List.length_range]
      omega
    · rw [List.length_map, List.length_take]
      omega

theorem BuilderRun.Follows.creates (follows : run.Follows registry)
    (unset : ∀ target, lastSet target run.history = none)
    (several : 2 ≤ run.builder.cfg.length) :
    ∃ memory, builderDynamicCreateMemory ⟨true, true, true⟩ run.builder = some memory := by
  have small := follows.length_le
  have reads : ∀ cfg thresholds, (memoryThresholds cfg thresholds).map ThresholdCfg.get =
      (thresholds.take (cfg.length - 1)).map ThresholdCfg.get := by
    apply memoryThresholds_map
    intro thres expNormRatio currentRatioDiff
    funext field
    cases field <;> rfl
  have same : (memoryThresholds run.builder.cfg run.builder.thres).map ThresholdCfg.get =
      (memoryThresholds run.builder.cfg
        ((List.range' 0 (run.builder.cfg.length - 1)).map defaultThreshold)).map
          ThresholdCfg.get := by
    rw [reads, reads, follows.thresholds_default unset, List.range_eq_range',
      List.take_of_length_le]
    rw [List.length_map, List.length_range']
  refine builderDynamicCreateMemory_valid several ?_ ?_ ?_
  · rw [thresholdsValid_congr same]
    apply thresholdsValid_default
    · rw [maxKind] at small
      omega
    · intro thres member
      cases member
  · rw [follows.trigger, unset]
    rfl
  · rw [follows.degree, unset]
    rfl

end Creation

/-- The state of a builder after any calls. Its tiers are those that were added, in that order and
without repetition. Every field of a threshold between two tiers has the value of the last call
that set it, or its default. Where no setting was set, a memory is made from two tiers or more. -/
structure BuilderRun.Sound (run : BuilderRun) : Prop where
  tiers : run.builder.cfg = run.history.filterMap BuilderEvent.added
  distinct : (run.builder.cfg.map TierCfg.kind).Nodup
  thresholds : ∀ index, index + 1 < run.builder.cfg.length →
    ∃ thres, run.builder.thres[index]? = some thres ∧ ∀ field, (thres.get field).toNat =
      ((lastSet (.threshold index field) run.history).map fun val => val.sizeT.toNat).getD
        (defaultField index field)
  creates : (∀ target val, BuilderEvent.set target val ∉ run.history) →
    2 ≤ run.builder.cfg.length →
    ∃ memory, builderDynamicCreateMemory ⟨true, true, true⟩ run.builder = some memory

theorem lastSet_eq_none {history : List BuilderEvent}
    (noSet : ∀ target val, BuilderEvent.set target val ∉ history) (target : CtlTarget) :
    lastSet target history = none := by
  -- The last record decides, so the history is taken apart at its end.
  induction history using List.reverseRecOn with
  | nil => rfl
  | append_singleton before event ih =>
      have earlier := ih fun other val member => noSet other val (List.mem_append_left _ member)
      cases event with
      | tier cfg => rw [lastSet_tier, earlier]
      | set other val =>
          exact absurd (List.mem_append_right _ (List.mem_singleton_self _)) (noSet other val)

theorem BuilderRun.Follows.sound {registry : Registry} {run : BuilderRun}
    (follows : run.Follows registry) : run.Sound where
  tiers := follows.tiers
  distinct := follows.distinct
  thresholds := by
    intro index inside
    have small := follows.length_le
    rw [maxKind] at small
    obtain ⟨thres, found, fields⟩ := follows.thresholds index inside
    refine ⟨thres, found, fun field => ?_⟩
    rw [fields field]
    cases lastSet (.threshold index field) run.history with
    | none => exact defaultThreshold_get (by omega) field
    | some val => rfl
  creates := fun noSet several => follows.creates (lastSet_eq_none noSet) several

/-- A dynamic builder is sound after any calls. A call that fails to add a tier keeps the tiers and
the thresholds between them. -/
theorem builderRun_sound (registry : Registry) (calls : List (BuilderCall registry)) :
    Always BuilderCall.step BuilderRun.Sound .start calls ∧
      ∀ (builder next : MemtierBuilder) (outcome : AddTierOutcome) (kind : Option KindPtr)
        (kindRatio : BitVec 32), builder.policy = .dynamicThreshold →
        memtierBuilderAddTier outcome builder kind kindRatio = (false, next) →
          next.cfg = builder.cfg ∧
            ∀ index, index + 1 < builder.cfg.length →
              next.thres[index]? = builder.thres[index]? := by
  constructor
  · have follows : Always BuilderCall.step (BuilderRun.Follows registry) .start calls :=
      always_of_kept BuilderCall.step (fun call _ _ follows stepped => follows.step call stepped)
        follows_start calls
    exact follows.imp _ fun _ follows => follows.sound
  · intro builder next outcome kind kindRatio dynamic failed
    obtain ⟨keeps, cfg⟩ := memtierBuilderAddTier_failed dynamic failed
    exact ⟨cfg, keeps.thres⟩

/-- The second tier is refused at first, then it is added, and its threshold is set. -/
def refusedTier : List (BuilderCall .initial) :=
  let dram : Registry.Registered .initial := ⟨memkindDefault, ⟨0, by decide⟩, rfl⟩
  let kmem : Registry.Registered .initial := ⟨memkindDaxKmem, ⟨11, by decide⟩, rfl⟩
  [.addTier ⟨true, true⟩ (some dram) 1, .addTier ⟨true, false⟩ (some kmem) 2,
    .addTier ⟨true, true⟩ (some kmem) 2,
    .ctlSet [] "policy.dynamic_threshold.thresholds[0].max".toList ⟨4096, 0, .finite 0⟩]

theorem builderRun_sound_refusedTier :
    ∃ final, runSteps BuilderCall.step .start refusedTier = some final ∧
      final.builder.cfg.length = 2 ∧ final.Sound := by
  have ran : (runSteps BuilderCall.step .start refusedTier).any
      (·.builder.cfg.length = 2) = true := by decide +kernel
  obtain ⟨final, reached, length⟩ := Option.any_eq_true _ _ |>.mp ran
  have always := (builderRun_sound .initial refusedTier).1
  exact ⟨final, reached, of_decide_eq_true length, always.final _ reached⟩

/-- The memory of a sound builder routes every size to one of its tiers. -/
theorem BuilderRun.Sound.formed {run : BuilderRun} (sound : run.Sound) {outcome : MemoryOutcome}
    {memory : MemtierMemory}
    (constructed : memtierBuilderConstructMemtierMemory outcome run.builder = some memory) :
    memory.Formed :=
  memtierBuilderConstructMemtierMemory_formed sound.distinct constructed

end Memkind
