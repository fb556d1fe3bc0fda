/-
This file compares the tier strings that `ctl.c` accepts with the documented language.
-/

import Memkind.Proof.Ctl.Acceptance

namespace Memkind

open Library

section Documented

/-- A tier of the documented language: its parameters, its kind and its ratio. -/
structure DocumentedTier where
  params : List (CString × CString)
  name : KindName
  ratio : Nat

/-- Every parameter has a known name, which is given once, and a value without separators of
parameters and tiers. -/
structure DocumentedTier.Written (tier : DocumentedTier) : Prop where
  present : tier.params ≠ []
  names : ∀ param ∈ tier.params, ∃ name : TierParam, name.text = param.1
  once : (tier.params.map Prod.fst).Nodup
  values : ∀ param ∈ tier.params,
    param.2 ≠ [] ∧ ctlParamSeparator ∉ param.2 ∧ ctlStringQuerySeparator ∉ param.2

/-- The text is a decimal number. -/
def DecimalNumber (digits : CString) (number : Nat) : Prop :=
  digits ≠ [] ∧ (∀ digit ∈ digits, digit.isDigit) ∧ numeralValue 10 digits = number

/-- The kind and the ratio are those of the parameters, and the ratio is in the range of `unsigned`.
A path and a limit belong to `FS_DAX`, which needs the path. -/
structure DocumentedTier.WellFormed (tier : DocumentedTier) : Prop extends tier.Written where
  kind : (TierParam.kind.text, tier.name.text) ∈ tier.params
  ratio : ∃ digits, (TierParam.ratio.text, digits) ∈ tier.params ∧ DecimalNumber digits tier.ratio
  range : 1 ≤ tier.ratio ∧ tier.ratio ≤ uintMax
  place : if tier.name = .fsDax then TierParam.path.text ∈ tier.params.map Prod.fst
    else TierParam.path.text ∉ tier.params.map Prod.fst ∧
      TierParam.pmemSizeLimit.text ∉ tier.params.map Prod.fst

def DocumentedTier.text (tier : DocumentedTier) : CString :=
  [ctlParamSeparator].intercalate (tier.params.map paramText)

/-- `POLICY:p` -/
def policyText (policy : BuilderPolicy) : CString :=
  "POLICY".toList ++ ctlValueSeparator :: policy.text

/-- `tier(;tier)*;POLICY:p` -/
def tiersText (tiers : List DocumentedTier) (policy : BuilderPolicy) : CString :=
  [ctlStringQuerySeparator].intercalate (tiers.map DocumentedTier.text ++ [policyText policy])

/-- The text is one of the documented language, and it describes these tiers and this policy. -/
structure Describes (text : CString) (tiers : List DocumentedTier) (policy : BuilderPolicy) :
    Prop where
  present : tiers ≠ []
  formed : ∀ tier ∈ tiers, tier.WellFormed
  written : text = tiersText tiers policy

/-- The kind that a tier describes. A kind for `FS_DAX` is created from the path of the tier. -/
def DocumentedTier.HasKind (outcome : TierOutcome) (tier : DocumentedTier) (kind : KindPtr) : Prop :=
  match tier.name with
  | .dram => kind = memkindDefault
  | .kmemDax => kind = memkindDaxKmem
  | .fsDax => ∃ path size, (TierParam.path.text, path) ∈ tier.params ∧
      outcome.createPmem path size = some kind

/-- The builder has exactly these tiers in their order, with their kinds and ratios. -/
structure MemtierBuilder.HasTiers (outcome : CtlOutcome) (builder : MemtierBuilder)
    (tiers : List DocumentedTier) : Prop where
  length : builder.cfg.length = tiers.length
  tiers : ∀ (i : Nat) (tier : DocumentedTier), tiers[i]? = some tier →
    ∃ kind, builder.cfg[i]? = some ⟨kind, .ofNat tier.ratio⟩ ∧ tier.HasKind (outcome.tier i) kind

/-- The text is in the documented language, and the memory is the one of a builder that is filled
with the tiers and the policy that the text describes. -/
def Documented (outcome : CtlOutcome) (text : CString) (memory : MemtierMemory) : Prop :=
  ∃ tiers policy builder, Describes text tiers policy ∧ FillsBuilder outcome text builder ∧
    builder.HasTiers outcome tiers ∧ memory.cfg = memoryTiers builder.cfg ∧
    memory.policy = policy.memoryPolicy tiers.length

end Documented

section Strict

/-- The text before the first `CTL_VALUE_SEPARATOR` of a field. -/
def fieldName (field : CString) : CString := field.takeWhile (· ≠ ctlValueSeparator)

/-- The text after the first `CTL_VALUE_SEPARATOR` of a field. -/
def fieldValue (field : CString) : CString := (field.dropWhile (· ≠ ctlValueSeparator)).tail

/-- A decimal number in the range of `unsigned` that is kept when it is read in the base that its
first digit selects and stored as `float`. -/
def exactRatio (value : CString) : Prop :=
  value ≠ [] ∧ (∀ digit ∈ value, digit.isDigit) ∧
    (1 ≤ numeralValue 10 value ∧ numeralValue 10 value ≤ uintMax) ∧
    roundSingle (selectedValue value) = numeralValue 10 value

instance : DecidablePred exactRatio := fun value =>
  have : Decidable (∀ digit ∈ value, digit.isDigit) := List.decidableBAll _ value
  inferInstanceAs (Decidable (_ ∧ _))

/-- Every field of a tier has a name and a value, and the value of `RATIO` is exact. -/
def strictTier (query : CString) : Prop :=
  ∀ field ∈ query.splitOn ctlParamSeparator, fieldName field ≠ [] ∧ fieldValue field ≠ [] ∧
    (fieldName field = TierParam.ratio.text → exactRatio (fieldValue field))

instance : DecidablePred strictTier := fun query => by
  unfold strictTier
  infer_instance

/-- The tiers are strict, and the policy does not follow another separator. -/
def strictText (text : CString) : Prop :=
  (∀ query ∈ (text.splitOn ctlStringQuerySeparator).dropLast, strictTier query) ∧
    ∀ query ∈ (text.splitOn ctlStringQuerySeparator).getLast?,
      query.head? ≠ some ctlValueSeparator

instance : DecidablePred strictText := fun text => by
  unfold strictText
  infer_instance

theorem field_paramText {param : CString × CString} (free : ctlValueSeparator ∉ param.1) :
    fieldName (paramText param) = param.1 ∧ fieldValue (paramText param) = param.2 := by
  have inside := decide_ne_of_not_mem free
  rw [fieldName, fieldValue, paramText, List.takeWhile_append_of_pos inside,
    List.dropWhile_append_of_pos inside]
  simp

theorem not_mem_fieldName {field : CString} : ctlValueSeparator ∉ fieldName field := by
  intro member
  simpa using List.mem_takeWhile_imp member

/-- A field with a value is written as its name and its value. -/
theorem paramText_field {field : CString} (valued : fieldValue field ≠ []) :
    paramText (fieldName field, fieldValue field) = field := by
  obtain ⟨first, rest, shape⟩ : ∃ first rest,
      field.dropWhile (· ≠ ctlValueSeparator) = first :: rest := by
    apply List.exists_cons_of_ne_nil
    intro empty
    rw [fieldValue, empty] at valued
    exact valued rfl
  have stopped : first = ctlValueSeparator := by
    have head := List.head?_dropWhile_not (fun char => decide (char ≠ ctlValueSeparator)) field
    rw [shape] at head
    simpa using head
  rw [stopped] at shape
  rw [paramText, fieldName, fieldValue, shape, List.tail_cons, ← shape]
  exact List.takeWhile_append_dropWhile

theorem TierParam.text_free (name : TierParam) : name.text ≠ [] ∧ ctlValueSeparator ∉ name.text ∧
    ctlParamSeparator ∉ name.text ∧ ctlStringQuerySeparator ∉ name.text := by
  cases name <;> decide

/-- The text of a parameter has no separators besides its own. -/
theorem paramText_free {param : CString × CString} (named : ∃ name : TierParam, name.text = param.1)
    (valueComma : ctlParamSeparator ∉ param.2) (valueSemicolon : ctlStringQuerySeparator ∉ param.2) :
    ctlParamSeparator ∉ paramText param ∧ ctlStringQuerySeparator ∉ paramText param := by
  obtain ⟨name, spelled⟩ := named
  obtain ⟨-, -, noComma, noSemicolon⟩ := name.text_free
  rw [spelled] at noComma noSemicolon
  rw [paramText, List.mem_append, List.mem_append, List.mem_cons, List.mem_cons]
  refine ⟨?_, ?_⟩
  · rintro (inName | same | inValue)
    · exact noComma inName
    · exact absurd same (by decide)
    · exact valueComma inValue
  · rintro (inName | same | inValue)
    · exact noSemicolon inName
    · exact absurd same (by decide)
    · exact valueSemicolon inValue

namespace DocumentedTier

variable {tier : DocumentedTier}

section Written

variable (written : tier.Written)

include written

theorem Written.param_free {param : CString × CString} (member : param ∈ tier.params) :
    ctlParamSeparator ∉ paramText param ∧ ctlStringQuerySeparator ∉ paramText param :=
  paramText_free (written.names param member) (written.values param member).2.1
    (written.values param member).2.2

theorem Written.splitOn_text : tier.text.splitOn ctlParamSeparator = tier.params.map paramText := by
  apply List.splitOn_intercalate
  · intro field member
    obtain ⟨param, inside, rfl⟩ := List.mem_map.mp member
    exact (written.param_free inside).1
  · simpa using written.present

theorem Written.text_free : ctlStringQuerySeparator ∉ tier.text := by
  apply not_mem_intercalate (by decide)
  intro field member
  obtain ⟨param, inside, rfl⟩ := List.mem_map.mp member
  exact (written.param_free inside).2

/-- The parser finds the parameters. -/
theorem Written.queryFields_text :
    queryFields tier.text = tier.params.map fun param => (param.1, some param.2) := by
  apply fields_intercalate
  · intro param member
    obtain ⟨name, spelled⟩ := written.names param member
    rw [← spelled]
    exact ⟨name.text_free.1, name.text_free.2.1⟩
  · intro param member
    exact ⟨(written.values param member).1, (written.values param member).2.1⟩

end Written

/-- The parameters as the fields of a query. -/
theorem names_params {params : List (CString × CString)} {name : TierParam} :
    Names (params.map fun param => (param.1, some param.2)) name ↔
      name.text ∈ params.map Prod.fst := by
  simp [Names]

theorem mem_params {params : List (CString × CString)} {name value : CString} :
    (name, some value) ∈ params.map (fun param => (param.1, some param.2)) ↔
      (name, value) ∈ params := by
  simp

variable (formed : tier.WellFormed)

include formed

/-- A tier of the language is strict exactly when the ratio that is stored is its ratio. -/
theorem WellFormed.strict_iff {value : CString} {ratio : Nat}
    (member : (TierParam.ratio.text, some value) ∈ queryFields tier.text)
    (read : ReadsRatio value ratio) : strictTier tier.text ↔ roundSingle ratio = tier.ratio := by
  obtain ⟨digits, given, nonempty, allDigits, number⟩ := formed.ratio
  have only : ∀ {other}, (TierParam.ratio.text, other) ∈ tier.params → other = digits := by
    intro other inside
    exact (Prod.mk.inj (List.inj_on_of_nodup_map formed.once inside given rfl)).2
  rw [formed.queryFields_text, mem_params] at member
  obtain rfl := only member
  obtain ⟨rfl, -⟩ := (readsRatio_digits nonempty allDigits).mp read
  have field : ∀ {param}, param ∈ tier.params →
      fieldName (paramText param) = param.1 ∧ fieldValue (paramText param) = param.2 := by
    intro param inside
    obtain ⟨name, spelled⟩ := formed.names param inside
    exact field_paramText (spelled ▸ name.text_free.2.1)
  unfold strictTier
  rw [formed.splitOn_text, ← number]
  constructor
  · intro strict
    obtain ⟨-, -, kept⟩ := strict _ (List.mem_map_of_mem given)
    rw [(field given).1, (field given).2] at kept
    exact (kept rfl).2.2.2
  · intro kept written member
    obtain ⟨param, inside, rfl⟩ := List.mem_map.mp member
    rw [(field inside).1, (field inside).2]
    obtain ⟨name, spelled⟩ := formed.names param inside
    refine ⟨spelled ▸ name.text_free.1, (formed.values param inside).1, fun same => ?_⟩
    obtain ⟨text, other⟩ := param
    obtain rfl : text = TierParam.ratio.text := same
    obtain rfl := only inside
    exact ⟨nonempty, allDigits, number ▸ formed.range, kept⟩

/-- The kind of an accepted tier is the one that it describes. -/
theorem WellFormed.hasKind {outcome : TierOutcome} {kind : KindPtr}
    (admitted : AdmittedParams (queryFields tier.text))
    (made : TierKind outcome (queryFields tier.text) (some kind)) : tier.HasKind outcome kind := by
  have fields := formed.queryFields_text
  have named : (TierParam.kind.text, some tier.name.text) ∈ queryFields tier.text := by
    rw [fields, mem_params]
    exact formed.kind
  obtain ⟨params, name, ratio⟩ := tier
  cases made with
  | library other pointer =>
      obtain rfl := admitted.kind_unique named other
      cases name with
      | dram => exact (Option.some.inj pointer).symm
      | kmemDax => exact (Option.some.inj pointer).symm
      | fsDax => cases pointer
  | fsDax other given created =>
      obtain rfl : name = .fsDax := admitted.kind_unique named other
      rw [fields, mem_params] at given
      exact ⟨_, _, given, created⟩

end DocumentedTier

end Strict

theorem BuilderPolicy.text_free (policy : BuilderPolicy) :
    ctlStringQuerySeparator ∉ policyText policy ∧
      (policyText policy).head? ≠ some ctlValueSeparator := by
  cases policy <;> decide

theorem BuilderPolicy.nextToken_policyText (policy : BuilderPolicy) :
    nextToken ctlValueSeparator (policyText policy) = (some "POLICY".toList, policy.text) :=
  nextToken_append (by decide) (by decide)

section Queries

variable {tiers : List DocumentedTier} {policy : BuilderPolicy} (present : tiers ≠ [])
  (written : ∀ tier ∈ tiers, tier.Written)

include written

theorem tiersText_splitOn : (tiersText tiers policy).splitOn ctlStringQuerySeparator =
    tiers.map DocumentedTier.text ++ [policyText policy] := by
  apply List.splitOn_intercalate
  · intro query member
    obtain member | last := List.mem_append.mp member
    · obtain ⟨tier, inside, rfl⟩ := List.mem_map.mp member
      exact (written tier inside).text_free
    · rw [List.mem_singleton.mp last]
      exact policy.text_free.1
  · simp

/-- The parser finds the tiers and the policy of a text. -/
theorem tiersText_queries (short : (tiersText tiers policy).length ≤ maxEnvString - 1) :
    queries (tiersText tiers policy) = tiers.map DocumentedTier.text ++ [policyText policy] ∧
      tierCount (tiersText tiers policy) = tiers.length := by
  have whole : copied (tiersText tiers policy) = tiersText tiers policy :=
    List.take_of_length_le short
  have split := @tiersText_splitOn tiers policy written
  rw [queries, tierCount, whole]
  constructor
  · rw [tokens_eq_splitOn_of_nonempty, split]
    rw [split, List.mem_append, List.mem_map, List.mem_singleton, not_or]
    constructor
    · rintro ⟨tier, inside, empty⟩
      have fields := (written tier inside).queryFields_text
      rw [empty, queryFields, fields_nil] at fields
      exact (written tier inside).present (List.map_eq_nil_iff.mp fields.symm)
    · cases policy <;> decide
  · have length := congrArg List.length split
    rw [length_splitOn, List.length_append, List.length_map, List.length_singleton] at length
    omega

/-- The query at a position is the text of the tier at this position. -/
theorem tiersText_getElem? (short : (tiersText tiers policy).length ≤ maxEnvString - 1) {i : Nat}
    {tier : DocumentedTier} (found : tiers[i]? = some tier) :
    (queries (tiersText tiers policy))[i]? = some tier.text := by
  obtain ⟨inside, -⟩ := List.getElem?_eq_some_iff.mp found
  rw [(tiersText_queries written short).1, List.getElem?_append_left (by simpa using inside),
    List.getElem?_map, found]
  rfl

end Queries

section Overrun

variable {text : CString}

end Overrun

section Params

variable {query : CString} (strict : strictTier query)

/-- The parameters of a strict query. -/
def queryParams (query : CString) : List (CString × CString) :=
  (query.splitOn ctlParamSeparator).map fun field => (fieldName field, fieldValue field)

include strict

theorem queryParams_text : [ctlParamSeparator].intercalate ((queryParams query).map paramText) =
    query := by
  have fieldsOf : (queryParams query).map paramText = query.splitOn ctlParamSeparator := by
    rw [queryParams, List.map_map]
    conv_rhs => rw [← List.map_id (query.splitOn ctlParamSeparator)]
    apply List.map_congr_left
    intro field member
    exact paramText_field (strict field member).2.1
  rw [fieldsOf, List.intercalate_splitOn]

theorem queryParams_value {param : CString × CString} (member : param ∈ queryParams query) :
    param.2 ≠ [] ∧ ctlParamSeparator ∉ param.2 := by
  obtain ⟨field, inside, rfl⟩ := List.mem_map.mp member
  obtain ⟨-, valued, -⟩ := strict field inside
  refine ⟨valued, fun comma => not_mem_of_mem_splitOn inside ?_⟩
  rw [← paramText_field valued]
  exact List.mem_append_right _ (List.mem_cons_of_mem _ comma)

/-- The parser reads the parameters of a strict query. -/
theorem queryFields_of_strict : queryFields query =
    (queryParams query).map (fun param => (param.1, some param.2)) := by
  conv_lhs => rw [← queryParams_text strict]
  apply fields_intercalate
  · intro param member
    obtain ⟨field, inside, rfl⟩ := List.mem_map.mp member
    exact ⟨(strict field inside).1, not_mem_fieldName⟩
  · intro param member
    exact queryParams_value strict member

/-- An accepted tier that is strict is one of the language. -/
theorem exists_documentedTier (free : ctlStringQuerySeparator ∉ query)
    (admitted : AdmittedTier (queryFields query)) (named : Names (queryFields query) .kind) :
    ∃ tier : DocumentedTier, tier.text = query ∧ tier.WellFormed := by
  have fields := queryFields_of_strict strict
  rw [fields] at admitted named
  obtain ⟨value, member⟩ := named.exists_value
  obtain ⟨name, rfl⟩ := admitted.kind value member
  obtain ⟨value, given⟩ := admitted.hasRatio.exists_value
  obtain ⟨digits, -, rfl, -⟩ := admitted.ratio value given
  rw [DocumentedTier.mem_params] at member given
  have kept : exactRatio digits := by
    obtain ⟨field, inside, same⟩ := List.mem_map.mp given
    obtain ⟨fieldName, rfl⟩ := Prod.mk.inj same
    exact (strict field inside).2.2 fieldName
  refine ⟨⟨queryParams query, name, numeralValue 10 digits⟩, queryParams_text strict, ?_⟩
  exact
    { present := List.ne_nil_of_mem given
      names := fun param inside =>
        admitted.known (param.1, some param.2) (DocumentedTier.mem_params.mpr inside)
      once := by simpa [List.map_map, Function.comp_def] using admitted.once
      values := by
        intro param inside
        obtain ⟨valued, noComma⟩ := queryParams_value strict inside
        refine ⟨valued, noComma, fun semicolon => free ?_⟩
        rw [← queryParams_text strict]
        apply mem_intercalate_of_mem (List.mem_map_of_mem inside)
        exact List.mem_append_right _ (List.mem_cons_of_mem _ semicolon)
      kind := member
      ratio := ⟨digits, given, kept.1, kept.2.1, rfl⟩
      range := kept.2.2.1
      place := by
        have place := admitted.place
        have fsDax : (TierParam.kind.text, some KindName.fsDax.text) ∈
            (queryParams query).map (fun param => (param.1, some param.2)) ↔ name = .fsDax := by
          rw [DocumentedTier.mem_params]
          constructor
          · intro other
            exact admitted.kind_unique (DocumentedTier.mem_params.mpr member)
              (DocumentedTier.mem_params.mpr other)
          · rintro rfl
            exact member
        simp only [fsDax, DocumentedTier.names_params] at place
        dsimp only
        split
        · rename_i same
          rw [if_pos same] at place
          exact place.1
        · rename_i other
          rw [if_neg other] at place
          exact place }

end Params

section Text

variable {outcome : CtlOutcome} {text : CString} {memory : MemtierMemory}

/-- The tiers of a strict text are the queries that the loop handles. -/
theorem strictText.loopTokens (short : text.length ≤ maxEnvString - 1) (strict : strictText text) :
    Library.loopTokens (tierCount text) (queries text) =
      ((text.splitOn ctlStringQuerySeparator).dropLast).map some := by
  have whole : copied text = text := List.take_of_length_le short
  have nonempty : [] ∉ (text.splitOn ctlStringQuerySeparator).dropLast := by
    intro member
    exact (strict.1 [] member [] (by simp)).1 rfl
  have taken := take_tokens nonempty
  have enough : tierCount text ≤ (queries text).length := by
    have length := congrArg List.length taken
    rw [List.length_take, List.length_dropLast, length_splitOn, Nat.add_sub_cancel] at length
    rw [tierCount, queries, whole]
    omega
  rw [loopTokens_of_le enough, tierCount, queries, whole, taken]

/-- A strict text that is admitted is in the language. -/
theorem AdmittedText.describes (short : text.length ≤ maxEnvString - 1)
    (admitted : AdmittedText text) (strict : strictText text) :
    ∃ tiers policy, Describes text tiers policy := by
  have whole : copied text = text := List.take_of_length_le short
  obtain ⟨query, policy, found, named, -⟩ := admitted.policy
  obtain ⟨bound, last⟩ := List.getElem?_eq_some_iff.mp found
  have full : (queries text).length = tierCount text + 1 := Nat.le_antisymm length_tokens_le bound
  have split : text.splitOn ctlStringQuerySeparator =
      (queries text).take (tierCount text) ++ [query] := by
    conv_lhs => rw [← whole]
    rw [← tokens_eq_splitOn full, ← last, List.take_concat_get', ← full, List.take_length]
  obtain ⟨strictTiers, strictPolicy⟩ := strict
  rw [split, List.dropLast_concat] at strictTiers
  rw [split, List.getLast?_concat] at strictPolicy
  have policyQuery : query = policyText policy :=
    eq_append_of_nextToken named (strictPolicy query rfl) (by cases policy <;> decide)
  have documented : ∀ query, ∃ tier : DocumentedTier,
      query ∈ (queries text).take (tierCount text) → tier.text = query ∧ tier.WellFormed := by
    intro query
    by_cases member : query ∈ (queries text).take (tierCount text)
    · obtain ⟨tier, formed⟩ := exists_documentedTier (strictTiers query member)
        (not_mem_of_mem_splitOn (List.mem_of_mem_filter (List.mem_of_mem_take member)))
        (admitted.tiers query member).1 (admitted.tiers query member).2
      exact ⟨tier, fun _ => formed⟩
    · exact ⟨⟨[], .dram, 0⟩, fun inside => absurd inside member⟩
  choose tierOf formedOf using documented
  refine ⟨((queries text).take (tierCount text)).map tierOf, policy, ?_, ?_, ?_⟩
  · rw [ne_eq, List.map_eq_nil_iff, List.take_eq_nil_iff, not_or]
    exact ⟨admitted.several, List.ne_nil_of_mem (List.mem_of_getElem? found)⟩
  · intro tier member
    obtain ⟨query, inside, rfl⟩ := List.mem_map.mp member
    exact (formedOf query inside).2
  · have texts : (((queries text).take (tierCount text)).map tierOf).map DocumentedTier.text =
        (queries text).take (tierCount text) := by
      rw [List.map_map]
      conv_rhs => rw [← List.map_id ((queries text).take (tierCount text))]
      apply List.map_congr_left
      intro query member
      exact (formedOf query member).1
    rw [tiersText, texts, ← policyQuery, ← split, List.intercalate_splitOn]

/-- What the parser makes of a text of the language: the builder has its tiers exactly when the text
is strict. -/
theorem Describes.hasTiers_iff (short : text.length ≤ maxEnvString - 1)
    {tiers : List DocumentedTier} {policy : BuilderPolicy} {builder : MemtierBuilder}
    (describes : Describes text tiers policy) (filled : FilledBuilder outcome text builder) :
    builder.policy = policy ∧ (builder.HasTiers outcome tiers ↔ strictText text) := by
  obtain rfl := describes.written
  have written := fun tier member => (describes.formed tier member).toWritten
  obtain ⟨found, count⟩ := tiersText_queries written short
  have length : builder.cfg.length = tiers.length := filled.length.trans count
  have entry : ∀ {i : Nat} {tier : DocumentedTier}, tiers[i]? = some tier →
      ∃ (cfg : TierCfg) (ratio : Nat), builder.cfg[i]? = some cfg ∧
      tier.HasKind (outcome.tier i) cfg.kind ∧ cfg.kindRatio = .ofUnsigned ratio ∧
      (strictTier tier.text ↔ roundSingle ratio = tier.ratio) := by
    intro i tier position
    obtain ⟨inside, -⟩ := List.getElem?_eq_some_iff.mp position
    have cfgPosition := List.getElem?_eq_getElem (length ▸ inside)
    obtain ⟨query, value, ratio, place, admitted, made, member, read, stored⟩ :=
      filled.tiers i _ cfgPosition
    rw [tiersText_getElem? written short position] at place
    obtain rfl := Option.some.inj place
    have formed := describes.formed tier (List.mem_of_getElem? position)
    exact ⟨_, ratio, cfgPosition, formed.hasKind admitted.toAdmittedParams made, stored,
      formed.strict_iff member read⟩
  constructor
  · obtain ⟨query, position, named⟩ := filled.policy
    rw [found, count, List.getElem?_append_right (by rw [List.length_map]), List.length_map,
      Nat.sub_self, List.getElem?_cons_zero] at position
    obtain rfl := Option.some.inj position
    rw [policy.nextToken_policyText] at named
    exact (BuilderPolicy.text_inj (Prod.mk.inj named).2).symm
  · rw [strictText, tiersText_splitOn written, List.dropLast_concat, List.getLast?_concat]
    constructor
    · intro same
      refine ⟨?_, ?_⟩
      · intro query member
        obtain ⟨tier, inside, rfl⟩ := List.mem_map.mp member
        obtain ⟨i, position⟩ := List.mem_iff_getElem?.mp inside
        obtain ⟨cfg, ratio, cfgPosition, -, stored, strict⟩ := entry position
        obtain ⟨kind, tierPosition, -⟩ := same.tiers i tier position
        rw [cfgPosition] at tierPosition
        obtain rfl := Option.some.inj tierPosition
        exact strict.mpr (ExactFloat.ofNat_inj.mp stored).symm
      · intro query last
        obtain rfl := Option.mem_some.mp last
        exact policy.text_free.2
    · rintro ⟨strict, -⟩
      refine ⟨length, fun i tier position => ?_⟩
      obtain ⟨cfg, ratio, cfgPosition, kind, stored, strict_iff⟩ := entry position
      have kept := strict_iff.mp
        (strict _ (List.mem_map_of_mem (List.mem_of_getElem? position)))
      refine ⟨cfg.kind, ?_, kind⟩
      rw [cfgPosition, ← kept]
      exact congrArg some (congrArg (TierCfg.mk cfg.kind) stored)

variable (succeeds : outcome.Succeeds) (limits : LimitsSuffice outcome text)
  (short : text.length ≤ maxEnvString - 1)

include succeeds limits short

theorem Documented.strict (documented : Documented outcome text memory) : strictText text := by
  obtain ⟨tiers, policy, builder, describes, fills, same, -⟩ := documented
  exact (describes.hasTiers_iff short (fills.filled succeeds limits)).2.mp same

end Text

instance (result : CtlReturn) : Decidable (∃ memory, result = .memory memory) :=
  match result with
  | .crash => isFalse nofun
  | .null _ => isFalse nofun
  | .memory memory => isTrue ⟨memory, rfl⟩

/-- No tier for `FS_DAX`, and so no limit. -/
theorem limitsSuffice_of_library {outcome : CtlOutcome} {text : CString}
    (library : ∀ query ∈ queries text, ¬ NamesTierKind query .fsDax) : LimitsSuffice outcome text := by
  rintro i query member ⟨-, -, -, -, fsDax, -⟩
  exact library query member fsDax

end Memkind
