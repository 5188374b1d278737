import ServiceLevel.Proofs.Rules.MetadataSelection
import ServiceLevel.Proofs.Slo.Identifiers

/-!
# Removal of labels

The metadata of an objective select their recordings by all labels of the objective, and
no step rewrites these expressions.  When labels are removed from the recordings behind
them, a selector still names a metric that is recorded, but it finds a series only if the
recording was skipped or has lost none of the labels that the selector asks for.

The main statement says for each of the five selectors when this is so, in terms of the
names of the labels alone.  Without any config, one label of the objective is enough to
leave all of them without a series.
-/

namespace ServiceLevel

open Selector

/-! ## Recordings that keep some labels -/

/-- A recording feeds the selectors of a map exactly if it has all labels of the map. -/
theorem Rule.feeds_iff_carries
    {rule : Rule}
    {metric : String}
    {selected : Labels}
    {pairs : List (String × String)}
    (areTexts : selected.pairs = Labels.asTexts pairs) :
    rule.Feeds ⟨metric, Labels.inWrittenOrder pairs⟩ ↔ rule.Carries metric selected := by
  constructor
  · rintro ⟨record, found⟩
    refine ⟨record, ?_⟩
    intro pair member
    rw [areTexts] at member
    rcases List.mem_map.mp member with ⟨written, isOne, rfl⟩
    exact found written (List.mem_mergeSort.mpr isOne)
  · intro carries
    exact carries.feeds areTexts

namespace Processor

theorem record_keepLabels (kept skipped : List String) (rule : Rule) :
    (keepLabels kept skipped rule).record = rule.record := by
  rw [keepLabels]
  split
  · rfl
  · rfl

theorem expression_keepLabels (kept skipped : List String) (rule : Rule) :
    (keepLabels kept skipped rule).expression = rule.expression := by
  rw [keepLabels]
  split
  · rfl
  · rfl

/-- A recording that is not skipped has lost no label that is asked for. -/
theorem kept_of_carries_keepLabels
    {kept skipped : List String}
    {rule : Rule}
    {metric : String}
    {selected : Labels}
    (carries : (keepLabels kept skipped rule).Carries metric selected) :
    metric ∈ skipped ∨ ∀ name ∈ selected.keys, name ∈ kept := by
  have isRecorded : rule.record = metric := by
    rw [← record_keepLabels kept skipped rule]
    exact carries.record
  by_cases isSkipped : rule.record ∈ skipped
  · left
    rw [← isRecorded]
    exact isSkipped
  · right
    intro name isKey
    rcases List.mem_map.mp isKey with ⟨pair, member, rfl⟩
    have found := carries.labels pair member
    rw [keepLabels, if_neg (List.contains_iff_mem.not.mpr isSkipped),
      Entries.get?_filterKeys_eq_some_iff] at found
    exact List.contains_iff_mem.mp found.1

/-- A recording has what it had, if it is skipped or if what is asked for is kept. -/
theorem carries_keepLabels
    {kept skipped : List String}
    {rule : Rule}
    {metric : String}
    {selected : Labels}
    (carries : rule.Carries metric selected)
    (allowed : metric ∈ skipped ∨ ∀ name ∈ selected.keys, name ∈ kept) :
    (keepLabels kept skipped rule).Carries metric selected where
  record := by
    rw [record_keepLabels]
    exact carries.record
  labels := by
    intro pair member
    have had := carries.labels pair member
    rw [keepLabels]
    split
    · exact had
    · rename_i notSkipped
      rw [List.contains_iff_mem, carries.record] at notSkipped
      have isKept : pair.1 ∈ kept :=
        allowed.resolve_left notSkipped pair.1 (List.mem_map.mpr ⟨pair, member, rfl⟩)
      rw [Entries.get?_filterKeys_eq_some_iff]
      exact ⟨List.contains_iff_mem.mpr isKept, had⟩

/-- Removing labels removes no recording. -/
theorem exists_record_keepLabels
    {made : List Rule}
    {metric : String}
    {selected : Labels}
    (carried : ∃ source ∈ made, source.Carries metric selected)
    (kept skipped : List String) :
    ∃ recording ∈ made.map (keepLabels kept skipped), recording.record = metric := by
  rcases carried with ⟨source, member, carries⟩
  refine ⟨_, List.mem_map.mpr ⟨source, member, rfl⟩, ?_⟩
  rw [record_keepLabels]
  exact carries.record

end Processor

/-! ## Names -/

/-- The label of the window is no identity label. -/
theorem Naming.ne_windowLabel_of_mem_keys
    {slo : Slo}
    {name : String}
    (isIdentity : name ∈ (identity slo).keys) :
    name ≠ windowLabel := by
  rcases List.mem_map.mp isIdentity with ⟨pair, listed, rfl⟩
  rw [pairs_identity] at listed
  rcases List.mem_map.mp listed with ⟨identityPair, member, rfl⟩
  exact ne_windowLabel member

/-- No metric of an error ratio is called like another metric. -/
theorem Naming.errorRatio_ne
    {window : Duration}
    {metric other : String}
    (named : errorRatio window = .ok metric)
    (apart : ¬ errorRatioMetric.toList <+: other.toList) :
    metric ≠ other := by
  rcases Attempt.bind_eq_ok_iff.mp named with ⟨text, _, same⟩
  cases same
  rintro rfl
  apply apart
  rw [String.toList_append]
  exact List.prefix_append _ _

theorem Dialect.isSimpleName_of_isLabelName
    {name : String}
    (accepted : isLabelName name) :
    Labels.IsSimpleName name := by
  have ofLabelChar :
      ∀ c, isLabelChar c → c ≠ '=' ∧ c ≠ '\x7b' ∧ c ≠ '\x7d' := by
    intro c isAllowed
    refine ⟨?_, ?_, ?_⟩
    · rintro rfl
      cases isAllowed
    · rintro rfl
      cases isAllowed
    · rintro rfl
      cases isAllowed
  rcases isLabelName_iff.mp accepted with ⟨core, isWord, rfl | rfl⟩
  · intro c member
    exact ofLabelChar c (isWord.chars c member)
  · intro c member
    rw [String.toList_append] at member
    rcases List.mem_append.mp member with inCore | isLineEnd
    · exact ofLabelChar c (isWord.chars c inCore)
    · rw [List.mem_singleton.mp isLineEnd]
      decide

/-- The names of the labels of an objective that Prometheus accepts can be told apart. -/
theorem Slo.Accepted.isSimpleName
    {accepts : String → Bool}
    {slo : Slo}
    (accepted : slo.Accepted (.promql accepts)) :
    ∀ name ∈ slo.labels.keys, Labels.IsSimpleName name := by
  intro name isKey
  apply Dialect.isSimpleName_of_isLabelName
  apply accepted.isLabelName
  exact List.mem_append_left _ (List.mem_append_left _ isKey)

/-! ## The selectors of metadata -/

namespace Metadata

theorem allIn_eq_nil
    {expression : String}
    (noBrace : '\x7b' ∉ expression.toList) :
    allIn expression = [] := by
  have scanned := scan_append_of_notMem noBrace [] []
  rw [List.append_nil, scan] at scanned
  exact scanned

/-- The metrics that metadata select, in their order. -/
def selectedMetrics (current period : String) : List String :=
  [current, Naming.errorBudgetMetric, period, Naming.errorBudgetMetric,
    Naming.periodBurnRateMetric]

theorem ne_infoMetric_of_mem
    {slo : Slo}
    {alerts : BurnAlerts}
    {current period metric : String}
    (isCurrent : Naming.errorRatio alerts.pageQuick.shortWindow = .ok current)
    (isPeriod : Naming.errorRatio slo.period = .ok period)
    (isOne : metric ∈ selectedMetrics current period) :
    metric ≠ Naming.infoMetric := by
  simp only [selectedMetrics, List.mem_cons, List.not_mem_nil, or_false] at isOne
  rcases isOne with rfl | rfl | rfl | rfl | rfl
  · exact Naming.errorRatio_ne isCurrent (by decide)
  · decide
  · exact Naming.errorRatio_ne isPeriod (by decide)
  · decide
  · decide

/-- Besides the derived rules none of the metadata selects anything. -/
theorem allIn_contents
    {origin : Origin}
    {slo : Slo}
    {ratio : Binary64}
    {filter current period objective : String}
    {pairs : List (String × String)}
    (isCurrent : IsMetric current)
    (isPeriod : IsMetric period)
    (reads : Labels.ReadsAs filter pairs)
    (simple : ∀ name ∈ slo.labels.keys, Labels.IsSimpleName name) :
    (contents origin slo ratio filter current period objective).flatMap
        (fun rule => allIn rule.expression) =
      (selectedMetrics current period).map fun metric => ⟨metric, pairs⟩ := by
  have ofVector :
      ∀ (opening : String) (value : Binary64),
        '\x7b' ∉ opening.toList →
          allIn (opening ++ Quantity.conciseBinary64 value ++ ")") = [] := by
    intro opening value noBrace
    apply allIn_eq_nil
    rw [String.toList_append, String.toList_append, List.mem_append, List.mem_append,
      not_or, not_or]
    exact ⟨⟨noBrace, Alerting.notMem_conciseBinary64 value⟩, by decide⟩
  have ofInfo : allIn "vector(1)" = [] := allIn_eq_nil (by decide)
  have derivedAll := allIn_derivedRules isCurrent isPeriod reads simple
  simp only [derivedRules, List.flatMap_cons, List.flatMap_nil] at derivedAll
  simp only [contents, List.flatMap_cons, List.flatMap_nil]
  rw [ofVector _ _ (by decide), ofVector _ _ (by decide), ofVector _ _ (by decide), ofInfo]
  exact derivedAll

/-! ## Runs of the standard chain -/

/-- The steps of the standard chain. -/
def standardSteps
    (accepts : String → Bool)
    (settings : ErrorRatioSettings) : List NamedProcessor :=
  [⟨Builtin.validate.id, .validate (.promql accepts)⟩,
    ⟨Builtin.errorRatio.id, .errorRatio settings⟩,
    ⟨Builtin.metadata.id, .metadata⟩,
    ⟨Builtin.alerts.id, .alerts⟩]

/-- The rules of a progress with the rules of its three main groups replaced. -/
def withRules (rules : RuleSet) (ratios metadata alerts : List Rule) : RuleSet :=
  { rules with
    errorRatio := { rules.errorRatio with rules := ratios }
    metadata := { rules.metadata with rules := metadata }
    alerts := { rules.alerts with rules := alerts } }

/-- The standard chain accepts the objective and makes all its rules before other steps run. -/
theorem exists_of_standardSteps
    {origin : Origin}
    {alerts : BurnAlerts}
    {accepts : String → Bool}
    {settings : ErrorRatioSettings}
    {others : List NamedProcessor}
    {start stop : Progress}
    (passes : Passes origin alerts (standardSteps accepts settings ++ others) start stop) :
    start.slo.Accepted (.promql accepts) ∧
      ∃ ratios metadata alertRules,
        ErrorRatio.rules settings.optimized start.slo alerts = .ok ratios ∧
          rules origin start.slo alerts = .ok metadata ∧
          Alerting.rules start.slo alerts = .ok alertRules ∧
          Passes origin alerts others
            { start with rules := withRules start.rules ratios metadata alertRules } stop := by
  cases passes with
  | cons validated afterValidation =>
  cases afterValidation with
  | cons ratioPassed afterRatios =>
  cases afterRatios with
  | cons metadataPassed afterMetadata =>
  cases afterMetadata with
  | cons alertsPassed afterAlerts =>
      simp only [Processor.run, Processor.checking_eq_iff, Processor.replacing_eq_iff,
        Slo.validate_eq_ok_iff] at validated ratioPassed metadataPassed alertsPassed
      rcases validated with ⟨accepted, rfl⟩
      rcases ratioPassed with ⟨ratios, areRatios, rfl⟩
      rcases metadataPassed with ⟨metadata, areMetadata, rfl⟩
      rcases alertsPassed with ⟨alertRules, areAlerts, rfl⟩
      exact ⟨accepted, ratios, metadata, alertRules, areRatios, areMetadata, areAlerts, afterAlerts⟩

/-! ## Runs that end with the removal -/

/-- The names of the labels that are kept: those that identify, and the preserved ones. -/
def keptLabels (slo : Slo) (preserved : List String) : List String :=
  (Naming.identity slo).keys ++ preserved

/-- Error ratios and metadata as they are made, after the removal of labels from them. -/
structure Removed
    (origin : Origin)
    (slo : Slo)
    (alerts : BurnAlerts)
    (preserved skipped : List String)
    (progress : Progress) : Prop where
  ratios :
    ∃ made,
      List.Forall₂ (ErrorRatio.Records slo) (ErrorRatio.windows slo alerts) made ∧
        progress.rules.errorRatio.rules =
          made.map
            (Processor.keepLabels (Naming.windowLabel :: keptLabels slo preserved)
              (Naming.infoMetric :: skipped))
  metadata :
    ∃ made,
      rules origin slo alerts = .ok made ∧
        progress.rules.metadata.rules =
          made.map
            (Processor.keepLabels
              ((keptLabels slo preserved).filter fun name => name ≠ Naming.windowLabel)
              (Naming.infoMetric :: skipped))

/-- The steps of the standard chain, and the removal of labels behind them. -/
def removalSteps
    (accepts : String → Bool)
    (settings : ErrorRatioSettings)
    (preserved skipped : List String) : List NamedProcessor :=
  [⟨Builtin.validate.id, .validate (.promql accepts)⟩,
    ⟨Builtin.errorRatio.id, .errorRatio settings⟩,
    ⟨Builtin.metadata.id, .metadata⟩,
    ⟨Builtin.alerts.id, .alerts⟩,
    ⟨Shipped.removeLabels.id, .removeLabels preserved skipped⟩]

theorem removed_of_passes
    {origin : Origin}
    {alerts : BurnAlerts}
    {accepts : String → Bool}
    {settings : ErrorRatioSettings}
    {preserved skipped : List String}
    {start stop : Progress}
    (passes :
      Passes origin alerts (removalSteps accepts settings preserved skipped) start stop) :
    start.slo.Accepted (.promql accepts) ∧
      Removed origin start.slo alerts preserved skipped stop := by
  have asParts :
      removalSteps accepts settings preserved skipped =
        standardSteps accepts settings ++
          [⟨Shipped.removeLabels.id, .removeLabels preserved skipped⟩] :=
    rfl
  rw [asParts] at passes
  rcases exists_of_standardSteps passes with
    ⟨accepted, ratios, metadata, alertRules, areRatios, areMetadata, _, removal⟩
  cases removal with
  | cons removalPassed others =>
      cases others
      cases removalPassed
      exact
        ⟨accepted, ⟨ratios, ErrorRatio.records_of_rules areRatios, rfl⟩,
          ⟨metadata, areMetadata, rfl⟩⟩

/-- The selectors of the metadata of a progress, in their order. -/
def selectors (progress : Progress) : List Selector :=
  progress.rules.metadata.rules.flatMap fun rule => allIn rule.expression

/-- The recordings of error ratios and the metadata of a progress. -/
def recordings (progress : Progress) : List Rule :=
  progress.rules.errorRatio.rules ++ progress.rules.metadata.rules

section

variable {origin : Origin} {slo : Slo} {alerts : BurnAlerts}
  {preserved skipped : List String} {progress : Progress}

/-- The removal leaves the metadata with the selectors that they are made with. -/
theorem Removed.exists_selectors
    (removed : Removed origin slo alerts preserved skipped progress)
    (simple : ∀ name ∈ slo.labels.keys, Labels.IsSimpleName name) :
    ∃ current period,
      Naming.errorRatio alerts.pageQuick.shortWindow = .ok current ∧
        Naming.errorRatio slo.period = .ok period ∧
        (selectors progress).map Selector.metric = selectedMetrics current period ∧
        ∀ selector ∈ selectors progress,
          ∀ rule : Rule,
            rule.Feeds selector ↔ rule.Carries selector.metric (labels slo) := by
  rcases removed.metadata with ⟨made, isMade, behind⟩
  rcases rules_eq_ok_iff.mp isMade with
    ⟨ratio, filter, current, period, objective, _, filtered, isCurrent, isPeriod, _,
      rfl⟩
  rcases exists_readsAs filtered simple with ⟨pairs, areTexts, reads⟩
  have found :
      selectors progress =
        (selectedMetrics current period).map fun metric =>
          ⟨metric, Labels.inWrittenOrder pairs⟩ := by
    rw [selectors, behind, List.flatMap_map]
    simp only [Processor.expression_keepLabels]
    exact
      allIn_contents (Naming.isMetric_errorRatio isCurrent)
        (Naming.isMetric_errorRatio isPeriod) reads simple
  refine ⟨current, period, isCurrent, isPeriod, ?_, ?_⟩
  · rw [found, List.map_map]
    exact List.map_id _
  · intro selector member rule
    rw [found] at member
    rcases List.mem_map.mp member with ⟨metric, _, rfl⟩
    exact Rule.feeds_iff_carries areTexts

/-- What is found behind the removal was skipped, or the labels of the objective are kept. -/
theorem kept_of_exists_carries
    {kept : List String}
    {made : List Rule}
    {metric : String}
    (notInfo : metric ≠ Naming.infoMetric)
    (found :
      ∃ recording ∈ made.map (Processor.keepLabels kept (Naming.infoMetric :: skipped)),
        recording.Carries metric (labels slo)) :
    metric ∈ skipped ∨ ∀ name ∈ slo.labels.keys, name ∈ kept := by
  rcases found with ⟨_, member, carries⟩
  rcases List.mem_map.mp member with ⟨source, _, rfl⟩
  rcases Processor.kept_of_carries_keepLabels carries with isSkipped | allKept
  · left
    exact (List.mem_cons.mp isSkipped).resolve_left notInfo
  · right
    intro name isKey
    exact allKept name (Entries.mem_keys_merge.mpr (Or.inl isKey))

/-- The identity is always kept, and so the labels of the objective decide. -/
theorem exists_carries_removed_iff
    {kept : List String}
    {made : List Rule}
    {metric : String}
    (notInfo : metric ≠ Naming.infoMetric)
    (identityKept : ∀ name ∈ (Naming.identity slo).keys, name ∈ kept)
    (carried : ∃ source ∈ made, source.Carries metric (labels slo)) :
    (∃ recording ∈ made.map (Processor.keepLabels kept (Naming.infoMetric :: skipped)),
        recording.Carries metric (labels slo)) ↔
      metric ∈ skipped ∨ ∀ name ∈ slo.labels.keys, name ∈ kept := by
  constructor
  · exact kept_of_exists_carries notInfo
  · intro allowed
    rcases carried with ⟨source, member, carries⟩
    refine
      ⟨_, List.mem_map.mpr ⟨source, member, rfl⟩,
        Processor.carries_keepLabels carries ?_⟩
    refine allowed.imp (List.mem_cons_of_mem _) ?_
    intro ofSlo name isKey
    rcases Entries.mem_keys_merge.mp isKey with isOfSlo | isIdentity
    · exact ofSlo name isOfSlo
    · exact identityKept name isIdentity

/-- The metadata that others are computed from are made with all labels. -/
theorem exists_carries_of_rules
    {made : List Rule}
    (isMade : rules origin slo alerts = .ok made)
    {metric : String}
    (isMetric : metric ∈ [Naming.errorBudgetMetric, Naming.periodBurnRateMetric]) :
    ∃ source ∈ made, source.Carries metric (labels slo) := by
  have listed :
      ∃ source ∈ made, source.record = metric ∧ source.labels = labels slo := by
    rcases rules_eq_ok_iff.mp isMade with ⟨_, _, _, _, _, _, _, _, _, _, rfl⟩
    rcases List.mem_pair.mp isMetric with rfl | rfl
    · exact ⟨_, List.mem_of_getElem? (i := 1) rfl, rfl, rfl⟩
    · exact ⟨_, List.mem_of_getElem? (i := 4) rfl, rfl, rfl⟩
  rcases listed with ⟨source, member, rfl, same⟩
  exact ⟨source, member, carries_of_labels same⟩

/-- No label that is asked for may be lost, in whichever group a recording is found. -/
theorem Removed.kept_of_carries
    (removed : Removed origin slo alerts preserved skipped progress)
    {metric : String}
    (notInfo : metric ≠ Naming.infoMetric)
    (found : ∃ recording ∈ recordings progress, recording.Carries metric (labels slo)) :
    metric ∈ skipped ∨
      ∀ name ∈ slo.labels.keys, name ∈ Naming.windowLabel :: keptLabels slo preserved := by
  rcases removed.ratios with ⟨ratios, _, ratiosBehind⟩
  rcases removed.metadata with ⟨made, _, metadataBehind⟩
  rcases found with ⟨recording, member, carries⟩
  rcases List.mem_append.mp member with isRatio | isMetadata
  · rw [ratiosBehind] at isRatio
    exact kept_of_exists_carries notInfo ⟨recording, isRatio, carries⟩
  · -- The metadata keep fewer labels than the error ratios.
    rw [metadataBehind] at isMetadata
    refine (kept_of_exists_carries notInfo ⟨recording, isMetadata, carries⟩).imp_right ?_
    intro allKept name isKey
    exact List.mem_cons_of_mem _ (List.mem_filter.mp (allKept name isKey)).1

/-- An error ratio is found with the labels of the metadata if they are kept, or skipped. -/
theorem Removed.exists_ratio_iff
    (removed : Removed origin slo alerts preserved skipped progress)
    {window : Duration}
    {metric : String}
    (isWindow : window ∈ ErrorRatio.windows slo alerts)
    (named : Naming.errorRatio window = .ok metric) :
    (∃ recording ∈ recordings progress, recording.Carries metric (labels slo)) ↔
      metric ∈ skipped ∨
        ∀ name ∈ slo.labels.keys, name ∈ Naming.windowLabel :: keptLabels slo preserved := by
  rcases removed.ratios with ⟨ratios, areRatios, ratiosBehind⟩
  have notInfo : metric ≠ Naming.infoMetric := Naming.errorRatio_ne named (by decide)
  have identityKept :
      ∀ name ∈ (Naming.identity slo).keys,
        name ∈ Naming.windowLabel :: keptLabels slo preserved := by
    intro name isIdentity
    exact List.mem_cons_of_mem _ (List.mem_append_left _ isIdentity)
  have carried := ErrorRatio.exists_carries areRatios isWindow named
  constructor
  · exact removed.kept_of_carries notInfo
  · intro allowed
    rcases (exists_carries_removed_iff notInfo identityKept carried).mpr allowed with
      ⟨recording, isRatio, carries⟩
    rw [← ratiosBehind] at isRatio
    exact ⟨recording, List.mem_append_left _ isRatio, carries⟩

/-- A metric of the metadata is found if all labels but that of the window are kept. -/
theorem Removed.exists_metadata_iff
    (removed : Removed origin slo alerts preserved skipped progress)
    {metric : String}
    (isMetric : metric ∈ [Naming.errorBudgetMetric, Naming.periodBurnRateMetric]) :
    (∃ recording ∈ recordings progress, recording.Carries metric (labels slo)) ↔
      metric ∈ skipped ∨
        ∀ name ∈ slo.labels.keys,
          name ∈ (keptLabels slo preserved).filter fun name => name ≠ Naming.windowLabel := by
  rcases removed.ratios with ⟨ratios, areRatios, ratiosBehind⟩
  rcases removed.metadata with ⟨made, isMade, metadataBehind⟩
  have notInfo : metric ≠ Naming.infoMetric := by
    rcases List.mem_pair.mp isMetric with rfl | rfl
    · decide
    · decide
  have identityKept :
      ∀ name ∈ (Naming.identity slo).keys,
        name ∈ (keptLabels slo preserved).filter fun name => name ≠ Naming.windowLabel := by
    intro name isIdentity
    have notWindow := Naming.ne_windowLabel_of_mem_keys isIdentity
    exact
      List.mem_filter.mpr ⟨List.mem_append_left _ isIdentity, decide_eq_true notWindow⟩
  have carried := exists_carries_of_rules isMade isMetric
  rw [← exists_carries_removed_iff notInfo identityKept carried, ← metadataBehind, recordings]
  constructor
  · rintro ⟨recording, member, carries⟩
    rcases List.mem_append.mp member with isRatio | isMetadata
    · -- No error ratio is recorded under the name of such a metric.
      rw [ratiosBehind] at isRatio
      rcases List.mem_map.mp isRatio with ⟨source, isSource, rfl⟩
      rcases Attempt.exists_left_of_forall₂ areRatios isSource with ⟨window, _, records⟩
      have isRecorded := carries.record
      rw [Processor.record_keepLabels] at isRecorded
      refine absurd isRecorded (Naming.errorRatio_ne records.record ?_)
      rcases List.mem_pair.mp isMetric with rfl | rfl
      · decide
      · decide
    · exact ⟨recording, isMetadata, carries⟩
  · rintro ⟨recording, isMetadata, carries⟩
    exact ⟨recording, List.mem_append_right _ isMetadata, carries⟩

/-- Every selected metric is still recorded. -/
theorem Removed.exists_recorded
    (removed : Removed origin slo alerts preserved skipped progress)
    {current period : String}
    (isCurrent : Naming.errorRatio alerts.pageQuick.shortWindow = .ok current)
    (isPeriod : Naming.errorRatio slo.period = .ok period) :
    ∀ metric ∈ selectedMetrics current period,
      ∃ recording ∈ recordings progress, recording.record = metric := by
  rcases removed.ratios with ⟨ratios, areRatios, ratiosBehind⟩
  rcases removed.metadata with ⟨made, isMade, metadataBehind⟩
  have ofRatio :
      ∀ window ∈ ErrorRatio.windows slo alerts,
        ∀ metric, Naming.errorRatio window = .ok metric →
          ∃ recording ∈ recordings progress, recording.record = metric := by
    intro window isWindow metric named
    have carried := ErrorRatio.exists_carries areRatios isWindow named
    rw [recordings, ratiosBehind]
    rcases Processor.exists_record_keepLabels carried _ _ with ⟨recording, member, isRecorded⟩
    exact ⟨recording, List.mem_append_left _ member, isRecorded⟩
  have ofMetadata :
      ∀ metric ∈ [Naming.errorBudgetMetric, Naming.periodBurnRateMetric],
        ∃ recording ∈ recordings progress, recording.record = metric := by
    intro metric isMetric
    have carried := exists_carries_of_rules isMade isMetric
    rw [recordings, metadataBehind]
    rcases Processor.exists_record_keepLabels carried _ _ with ⟨recording, member, isRecorded⟩
    exact ⟨recording, List.mem_append_right _ member, isRecorded⟩
  have ofCurrent := ofRatio _ (ErrorRatio.shortWindow_mem_windows slo alerts) current isCurrent
  have ofPeriod := ofRatio _ (ErrorRatio.period_mem_windows slo alerts) period isPeriod
  simp only [List.forall_mem_cons] at ofMetadata
  simp only [selectedMetrics, List.forall_mem_cons]
  exact
    ⟨ofCurrent, ofMetadata.1, ofPeriod, ofMetadata.1, ofMetadata.2.1, ofMetadata.2.2⟩

end

/--
What is left of the selection when labels are removed behind the standard chain.  The
metadata of an accepted objective have five selectors: the error ratio of the shortest
quick window and that of the period, each beside the error budget, and the burn rate of
the period.  Whatever is preserved or skipped, each names a metric that is recorded.  An
error ratio is fed exactly if its metric is skipped or every label of the objective is an
identity label, the label of the window or preserved.  For the error budget and the burn
rate the label of the window does not count; an objective that has this label while it is
preserved is left aside.
-/
theorem selectors_feeds_iff_of_removal
    {origin : Origin}
    {alerts : BurnAlerts}
    {accepts : String → Bool}
    {settings : ErrorRatioSettings}
    {preserved skipped : List String}
    {start stop : Progress}
    (passes :
      Passes origin alerts (removalSteps accepts settings preserved skipped) start stop) :
    ∃ current period,
      Naming.errorRatio alerts.pageQuick.shortWindow = .ok current ∧
        Naming.errorRatio start.slo.period = .ok period ∧
        (selectors stop).map Selector.metric =
          [current, Naming.errorBudgetMetric, period, Naming.errorBudgetMetric,
            Naming.periodBurnRateMetric] ∧
        (∀ selector ∈ selectors stop,
          ∃ recording ∈ recordings stop, recording.record = selector.metric) ∧
        (∀ selector ∈ selectors stop,
          selector.metric ∈ [current, period] →
            ((∃ recording ∈ recordings stop, recording.Feeds selector) ↔
              selector.metric ∈ skipped ∨
                ∀ name ∈ start.slo.labels.keys,
                  name ∈ (Naming.identity start.slo).keys ∨ name = Naming.windowLabel ∨
                    name ∈ preserved)) ∧
        (∀ selector ∈ selectors stop,
          selector.metric ∈ [Naming.errorBudgetMetric, Naming.periodBurnRateMetric] →
            (Naming.windowLabel ∈ start.slo.labels.keys →
              Naming.windowLabel ∉ preserved) →
              ((∃ recording ∈ recordings stop, recording.Feeds selector) ↔
                selector.metric ∈ skipped ∨
                  ∀ name ∈ start.slo.labels.keys,
                    name ∈ (Naming.identity start.slo).keys ∨ name ∈ preserved)) := by
  rcases removed_of_passes passes with ⟨accepted, removed⟩
  rcases removed.exists_selectors accepted.isSimpleName with
    ⟨current, period, isCurrent, isPeriod, metrics, feeds⟩
  refine ⟨current, period, isCurrent, isPeriod, metrics, ?_, ?_, ?_⟩
  · intro selector member
    apply removed.exists_recorded isCurrent isPeriod
    rw [← metrics]
    exact List.mem_map.mpr ⟨selector, member, rfl⟩
  · intro selector member isRatio
    have named :
        ∃ window ∈ ErrorRatio.windows start.slo alerts,
          Naming.errorRatio window = .ok selector.metric := by
      rcases List.mem_pair.mp isRatio with same | same
      · rw [same]
        exact ⟨_, ErrorRatio.shortWindow_mem_windows _ _, isCurrent⟩
      · rw [same]
        exact ⟨_, ErrorRatio.period_mem_windows _ _, isPeriod⟩
    rcases named with ⟨window, isWindow, named⟩
    simp only [feeds selector member]
    rw [removed.exists_ratio_iff isWindow named]
    simp only [keptLabels, List.mem_cons, List.mem_append, or_left_comm]
  · intro selector member isMetadata notBoth
    simp only [feeds selector member]
    rw [removed.exists_metadata_iff isMetadata]
    apply or_congr_right
    constructor
    · intro allKept name isKey
      exact List.mem_append.mp (List.mem_filter.mp (allKept name isKey)).1
    · intro allKept name isKey
      have notWindow : name ≠ Naming.windowLabel := by
        rintro rfl
        rcases allKept _ isKey with isIdentity | isPreserved
        · exact Naming.ne_windowLabel_of_mem_keys isIdentity rfl
        · exact notBoth isKey isPreserved
      exact
        List.mem_filter.mpr
          ⟨List.mem_append.mpr (allKept name isKey), decide_eq_true notWindow⟩

/-- Of two labels one is preserved; the error budget is skipped, and nothing else is fed. -/
theorem selectors_feeds_iff_of_removal_of_preserved :
    ∃ stop : Progress,
      Passes {} Alerting.sameAlerts
          (removalSteps Promql.accepts ⟨true⟩ ["team"] [Naming.errorBudgetMetric])
          { slo :=
              Alerting.labelledSlo (Labels.ofTexts [("team", "red"), ("zone", "west")]) }
          stop ∧
        (selectors stop).length = 5 ∧
        ∀ selector ∈ selectors stop,
          (∃ recording ∈ recordings stop, recording.Feeds selector) ↔
            selector.metric = Naming.errorBudgetMetric := by
  let start : Progress :=
    { slo := Alerting.labelledSlo (Labels.ofTexts [("team", "red"), ("zone", "west")]) }
  let steps :=
    removalSteps Promql.accepts ⟨true⟩ ["team"] [Naming.errorBudgetMetric]
  have passed : (runSteps {} Alerting.sameAlerts steps start).2.isNone = true := by
    decide +kernel
  have passes :
      Passes {} Alerting.sameAlerts steps start
        (runSteps {} Alerting.sameAlerts steps start).1 := by
    apply runSteps_eq_none_iff.mp
    rw [← Option.isNone_iff_eq_none.mp passed]
  rcases selectors_feeds_iff_of_removal passes with
    ⟨current, period, _, _, metrics, _, ofRatios, ofMetadata⟩
  have hasZone : "zone" ∈ start.slo.labels.keys := by decide
  have notKept :
      ¬ ("zone" ∈ (Naming.identity start.slo).keys ∨ "zone" = Naming.windowLabel ∨
        "zone" ∈ ["team"]) := by
    decide
  have five := congrArg List.length metrics
  rw [List.length_map] at five
  refine ⟨_, passes, five, ?_⟩
  intro selector member
  have isOne :
      selector.metric ∈ [current, period] ∨
        selector.metric ∈ [Naming.errorBudgetMetric, Naming.periodBurnRateMetric] := by
    have listed := List.mem_map_of_mem (f := Selector.metric) member
    rw [metrics] at listed
    simp only [List.mem_cons, List.not_mem_nil, or_false] at listed ⊢
    rcases listed with isCurrent | isBudget | isPeriod | isBudget | isRate
    · exact Or.inl (Or.inl isCurrent)
    · exact Or.inr (Or.inl isBudget)
    · exact Or.inl (Or.inr isPeriod)
    · exact Or.inr (Or.inl isBudget)
    · exact Or.inr (Or.inr isRate)
  rcases isOne with isRatio | isMetadata
  · rw [ofRatios selector member isRatio, List.mem_singleton, or_iff_left_iff_imp]
    intro allKept
    exact absurd (allKept "zone" hasZone) notKept
  · have noWindow :
        Naming.windowLabel ∈ start.slo.labels.keys → Naming.windowLabel ∉ ["team"] := by
      decide
    rw [ofMetadata selector member isMetadata noWindow, List.mem_singleton,
      or_iff_left_iff_imp]
    intro allKept
    exact absurd ((allKept "zone" hasZone).imp_right Or.inr) notKept

/-- One label of an objective, and no config: nothing feeds any of the selectors. -/
theorem selectors_starve_without_config :
    ∃ stop : Progress,
      Passes {} Alerting.sameAlerts (removalSteps Promql.accepts ⟨false⟩ [] [])
          { slo := Alerting.labelledSlo (Labels.ofTexts [("team", "red")]) } stop ∧
        (selectors stop).length = 5 ∧
        ∀ selector ∈ selectors stop,
          ¬ ∃ recording ∈ recordings stop, recording.Feeds selector := by
  let start : Progress :=
    { slo := Alerting.labelledSlo (Labels.ofTexts [("team", "red")]) }
  let steps := removalSteps Promql.accepts ⟨false⟩ [] []
  have passed : (runSteps {} Alerting.sameAlerts steps start).2.isNone = true := by
    decide +kernel
  have passes :
      Passes {} Alerting.sameAlerts steps start
        (runSteps {} Alerting.sameAlerts steps start).1 := by
    apply runSteps_eq_none_iff.mp
    rw [← Option.isNone_iff_eq_none.mp passed]
  rcases removed_of_passes passes with ⟨accepted, removed⟩
  rcases removed.exists_selectors accepted.isSimpleName with
    ⟨current, period, isCurrent, isPeriod, metrics, feeds⟩
  have hasTeam : "team" ∈ start.slo.labels.keys := by decide
  have notKept : "team" ∉ Naming.windowLabel :: keptLabels start.slo [] := by decide
  have five := congrArg List.length metrics
  rw [List.length_map] at five
  refine ⟨_, passes, five, ?_⟩
  intro selector member fed
  have listed : selector.metric ∈ selectedMetrics current period := by
    rw [← metrics]
    exact List.mem_map.mpr ⟨selector, member, rfl⟩
  have notInfo := ne_infoMetric_of_mem isCurrent isPeriod listed
  simp only [feeds selector member] at fed
  rcases removed.kept_of_carries notInfo fed with isSkipped | allKept
  · cases isSkipped
  · exact notKept (allKept "team" hasTeam)

end Metadata

end ServiceLevel
