import ServiceLevel.Proofs.Generation.Steps
import ServiceLevel.Proofs.Rules.Correction
import ServiceLevel.Proofs.Rules.Sufficiency

/-!
# What metadata selects

The burn rates and the remaining budget of an objective are computed from its recordings,
which they select by all labels of its metadata.  Recordings merge the labels of the
objective over its identity with the label of their window in between, metadata without
it, and so each selected series is recorded whichever names the labels of the objective
have: the error ratios of the shortest quick window and of the period, the error budget,
and the burn rate of the period.  Correcting the error ratios leaves it so.
-/

namespace ServiceLevel

/-- A recording of a metric that has all labels of a map. -/
structure Rule.Carries (rule : Rule) (metric : String) (selected : Labels) : Prop where
  record : rule.record = metric
  labels : ∀ pair ∈ selected.pairs, rule.labels.get? pair.1 = some pair.2

/-- A name that can be told from everything that stands around it in a filter and a grouping. -/
def Labels.IsSimpleName (name : String) : Prop :=
  ∀ c ∈ name.toList, c ≠ '=' ∧ c ≠ '\x7b' ∧ c ≠ '\x7d'

theorem Labels.isSimpleName_of_all
    {names : List String}
    (all :
      names.all fun name =>
        name.toList.all fun c => c ≠ '=' ∧ c ≠ '\x7b' ∧ c ≠ '\x7d') :
    ∀ name ∈ names, IsSimpleName name := by
  intro name member c inName
  have allOfName := List.all_eq_true.mp all name member
  exact of_decide_eq_true (List.all_eq_true.mp allOfName c inName)

/-- Such a name ends in a filter where the equals sign behind it begins. -/
theorem Labels.IsSimpleName.isPlainName
    {name : String}
    (simple : IsSimpleName name) :
    IsPlainName name := by
  intro c inName
  rw [isNameChar, Bool.and_eq_true, decide_eq_true_eq, decide_eq_true_eq]
  exact ⟨(simple c inName).1, (simple c inName).2.2⟩

/-- A recording with all labels of a map feeds the selectors of the map. -/
theorem Rule.Carries.feeds
    {rule : Rule}
    {metric : String}
    {selected : Labels}
    {pairs : List (String × String)}
    (carries : rule.Carries metric selected)
    (areTexts : selected.pairs = Labels.asTexts pairs) :
    rule.Feeds ⟨metric, Labels.inWrittenOrder pairs⟩ := by
  refine ⟨carries.record, ?_⟩
  intro pair member
  apply carries.labels (pair.1, .text pair.2)
  rw [areTexts]
  exact List.mem_map.mpr ⟨pair, List.mem_mergeSort.mp member, rfl⟩

/-! ## Recordings with the labels of the metadata -/

/-- The metadata carry an identity label unless the labels of the objective replace it. -/
theorem Metadata.get?_labels
    {slo : Slo}
    {pair : String × String}
    (member : pair ∈ Naming.identityPairs slo) :
    (labels slo).get? pair.1 = some ((slo.labels.get? pair.1).getD (.text pair.2)) := by
  rw [labels, Entries.get?_merge, Naming.get?_identity member]
  cases slo.labels.get? pair.1 with
  | none => rfl
  | some value => rfl

/-- A recording of an error ratio has all labels of the metadata. -/
theorem ErrorRatio.Records.carries
    {slo : Slo}
    {window : Duration}
    {rule : Rule}
    {metric : String}
    (records : Records slo window rule)
    (named : Naming.errorRatio window = .ok metric) :
    rule.Carries metric (Metadata.labels slo) where
  record := by
    have recorded := records.record
    rw [named] at recorded
    exact (Except.ok.inj recorded).symm
  labels := by
    intro pair member
    rcases records.labels with ⟨text, _, labels⟩
    have found : (Metadata.labels slo).get? pair.1 = some pair.2 :=
      Entries.get?_eq_some_iff.mpr member
    rw [Metadata.labels, Entries.get?_merge] at found
    rw [labels, Entries.get?_mergeAll_three]
    rcases Option.or_eq_some_iff.mp found with ofSlo | ⟨notOfSlo, ofIdentity⟩
    · rw [ofSlo, Option.some_or]
    · have listed : pair ∈ (Naming.identity slo).pairs :=
        Entries.get?_eq_some_iff.mp ofIdentity
      rw [Naming.pairs_identity] at listed
      rcases List.mem_map.mp listed with ⟨identityPair, isIdentity, rfl⟩
      have notWindow :
          (Labels.ofTexts [(Naming.windowLabel, text)]).get? identityPair.1 = none := by
        show
          (Entries.empty.put Naming.windowLabel (Json.text text)).get?
            identityPair.1 = none
        rw [Entries.get?_put, if_neg (Naming.ne_windowLabel isIdentity),
          Entries.get?_empty]
      rw [notOfSlo, notWindow, ofIdentity]
      rfl

theorem ErrorRatio.exists_carries
    {slo : Slo}
    {alerts : BurnAlerts}
    {recordings : List Rule}
    (each : List.Forall₂ (Records slo) (windows slo alerts) recordings)
    {window : Duration}
    {metric : String}
    (isWindow : window ∈ windows slo alerts)
    (named : Naming.errorRatio window = .ok metric) :
    ∃ rule ∈ recordings, rule.Carries metric (Metadata.labels slo) := by
  rcases Attempt.exists_right_of_forall₂ each isWindow with ⟨rule, member, records⟩
  exact ⟨rule, member, records.carries named⟩

namespace Metadata

/-- The metrics that are computed from other recordings. -/
def derivedMetrics : List String :=
  [Naming.currentBurnRateMetric, Naming.periodBurnRateMetric,
    Naming.budgetRemainingMetric]

/-- The rules that are computed from other recordings. -/
def derived (made : List Rule) : List Rule :=
  made.filter fun rule => derivedMetrics.contains rule.record

/-- The rules of the burn rates and of the remaining budget, by their expressions. -/
def derivedRules (slo : Slo) (current period filter grouping : String) : List Rule :=
  [{ record := Naming.currentBurnRateMetric
     expression := burnRateExpression current filter grouping
     labels := labels slo },
   { record := Naming.periodBurnRateMetric
     expression := burnRateExpression period filter grouping
     labels := labels slo },
   { record := Naming.budgetRemainingMetric
     expression := "1 - " ++ Naming.periodBurnRateMetric ++ filter
     labels := labels slo }]

/-- What the metadata of an objective is computed from and holds. -/
theorem derived_of_rules
    {origin : Origin}
    {slo : Slo}
    {alerts : BurnAlerts}
    {made : List Rule}
    (isMade : rules origin slo alerts = .ok made) :
    ∃ current period filter,
      Naming.errorRatio alerts.pageQuick.shortWindow = .ok current ∧
        Naming.errorRatio slo.period = .ok period ∧
        (labels slo).filterText = .ok filter ∧
        derived made =
          derivedRules slo current period filter (labels slo).groupText ∧
        ∃ budget ∈ made,
          budget.record = Naming.errorBudgetMetric ∧ budget.labels = labels slo := by
  rcases rules_eq_ok_iff.mp isMade with
    ⟨ratio, filter, current, period, objective, _, filtered, isCurrent, isPeriod, _,
      rfl⟩
  refine ⟨current, period, filter, isCurrent, isPeriod, filtered, rfl, ?_⟩
  exact ⟨_, List.mem_cons_of_mem _ List.mem_cons_self, rfl, rfl⟩

theorem derived_weights
    {weights : List Rule}
    (areWeights :
      ∀ weight ∈ weights, ∃ text, weight.record = Corrected.weightMetric ++ text) :
    derived weights = [] := by
  have begins :
      ∀ metric ∈ derivedMetrics,
        ¬ Corrected.weightMetric.toList <+: metric.toList := by
    decide
  rw [derived, List.filter_eq_nil_iff]
  intro weight member isDerived
  rcases areWeights weight member with ⟨text, same⟩
  apply begins weight.record (List.contains_iff_mem.mp isDerived)
  rw [same, String.toList_append]
  exact List.prefix_append _ _

theorem carries_of_labels
    {slo : Slo}
    {rule : Rule}
    (same : rule.labels = labels slo) :
    rule.Carries rule.record (labels slo) where
  record := rfl
  labels := by
    intro pair member
    rw [same]
    exact Entries.get?_eq_some_iff.mpr member

/-! ## Runs of generation and correction -/

/-- Error ratios of all windows, and metadata with weights behind. -/
structure Recorded
    (origin : Origin)
    (slo : Slo)
    (alerts : BurnAlerts)
    (progress : Progress) : Prop where
  unchanged : progress.slo = slo
  ratios :
    List.Forall₂ (ErrorRatio.Records slo) (ErrorRatio.windows slo alerts)
      progress.rules.errorRatio.rules
  metadata :
    ∃ made weights,
      rules origin slo alerts = .ok made ∧
        (∀ weight ∈ weights,
          ∃ text, weight.record = Corrected.weightMetric ++ text) ∧
        progress.rules.metadata.rules = made ++ weights

theorem Recorded.correct
    {origin : Origin}
    {slo : Slo}
    {alerts : BurnAlerts}
    {before after : Progress}
    (recorded : Recorded origin slo alerts before)
    (passed : Processor.corrected.run origin alerts before = (after, none)) :
    Recorded origin slo alerts after := by
  rcases Processor.corrected_run_eq_iff.mp passed with
    ⟨events, ratios, added, _, areRatios, areAdded, rfl⟩
  rcases recorded with ⟨rfl, _, made, weights, isMade, areWeights, behind⟩
  refine ⟨rfl, ?_, made, weights ++ added, isMade, ?_, ?_⟩
  · refine areRatios.imp ?_
    intro window rule isRatio
    exact Corrected.records_of_ratioRule isRatio
  · intro weight member
    rcases List.mem_append.mp member with isOld | isNew
    · exact areWeights weight isOld
    · rcases Attempt.exists_left_of_forall₂ areAdded isNew with ⟨window, _, isWeight⟩
      rcases Corrected.exists_of_weightRule isWeight with ⟨text, _, _, _, _, _, rfl⟩
      exact ⟨text, rfl⟩
  · show before.rules.metadata.rules ++ added = made ++ (weights ++ added)
    rw [behind, List.append_assoc]

theorem recorded_of_passes
    {origin : Origin}
    {alerts : BurnAlerts}
    {settings : ErrorRatioSettings}
    {ratioId metadataId : String}
    {corrections : List NamedProcessor}
    {start stop : Progress}
    (corrects : ∀ step ∈ corrections, step.processor = .corrected)
    (passes :
      Passes origin alerts
        (⟨ratioId, .errorRatio settings⟩ :: ⟨metadataId, .metadata⟩ :: corrections)
        start stop) :
    Recorded origin start.slo alerts stop := by
  cases passes with
  | cons ratioPassed afterRatios =>
      cases afterRatios with
      | cons metadataPassed others =>
          simp only [Processor.run, Processor.replacing_eq_iff]
            at ratioPassed metadataPassed
          rcases ratioPassed with ⟨ratios, areRatios, rfl⟩
          rcases metadataPassed with ⟨made, isMade, rfl⟩
          apply others.preserves (Recorded origin start.slo alerts)
          · intro step member before after passed recorded
            rw [corrects step member] at passed
            exact recorded.correct passed
          · refine ⟨rfl, ErrorRatio.records_of_rules areRatios, made, [], isMade, ?_, ?_⟩
            · intro weight impossible
              cases impossible
            · exact (List.append_nil made).symm

/-! ## Selectors -/

theorem isSimpleName_of_mem_keys
    {slo : Slo}
    (simple : ∀ name ∈ slo.labels.keys, Labels.IsSimpleName name) :
    ∀ name ∈ (labels slo).keys, Labels.IsSimpleName name := by
  have ofIdentity :
      ∀ name ∈ [Naming.idLabel, Naming.nameLabel, Naming.serviceLabel],
        Labels.IsSimpleName name :=
    Labels.isSimpleName_of_all (by decide)
  intro name isKey
  rcases List.mem_map.mp isKey with ⟨pair, member, rfl⟩
  rcases Entries.mem_pairs_merge member with ofSlo | isIdentity
  · exact simple _ (List.mem_map.mpr ⟨pair, ofSlo, rfl⟩)
  · exact ofIdentity _ (List.mem_map.mpr ⟨pair, isIdentity, rfl⟩)

/-- The filter of the metadata is read as the pairs of their labels. -/
theorem exists_readsAs
    {slo : Slo}
    {filter : String}
    (filtered : (labels slo).filterText = .ok filter)
    (simple : ∀ name ∈ slo.labels.keys, Labels.IsSimpleName name) :
    ∃ pairs,
      (labels slo).pairs = Labels.asTexts pairs ∧
        Labels.ReadsAs filter (Labels.inWrittenOrder pairs) := by
  apply Labels.readsAs_filterText filtered
  intro name isKey
  exact (isSimpleName_of_mem_keys simple name isKey).isPlainName

theorem notMem_intercalate
    {c : Char}
    {texts : List String}
    (notBetween : c ∉ ", ".toList)
    (notWithin : ∀ text ∈ texts, c ∉ text.toList) :
    c ∉ (", ".intercalate texts).toList := by
  induction texts with
  | nil => exact List.not_mem_nil
  | cons first rest ih =>
      have here : c ∉ first.toList := notWithin first List.mem_cons_self
      have behind : c ∉ (", ".intercalate rest).toList :=
        ih fun text member => notWithin text (List.mem_cons_of_mem first member)
      cases rest with
      | nil =>
          rw [String.intercalate_singleton]
          exact here
      | cons second others =>
          rw [String.intercalate_cons_cons, String.toList_append,
            String.toList_append, List.mem_append, List.mem_append, not_or, not_or]
          exact ⟨⟨here, notBetween⟩, behind⟩

open Selector

/-- A burn rate selects its error ratio and the error budget. -/
theorem allIn_burnRateExpression
    {metric filter grouping : String}
    {pairs : List (String × String)}
    (isMetric : IsMetric metric)
    (reads : Labels.ReadsAs filter pairs)
    (noBrace : '\x7b' ∉ grouping.toList) :
    allIn (burnRateExpression metric filter grouping) =
      [⟨metric, pairs⟩, ⟨Naming.errorBudgetMetric, pairs⟩] := by
  have isBudget : IsMetric Naming.errorBudgetMetric := by
    have chars : Naming.errorBudgetMetric.toList.all isMetricChar := by decide
    exact List.all_eq_true.mp chars
  have between :
      Separates ("\n" ++ ("/ on(" ++ (grouping ++ ") group_left\n"))) := by
    apply Separates.append (by decide)
    apply Separates.append (by decide)
    apply Separates.append noBrace
    decide
  have closing : Separates "\n" := by decide
  have asParts :
      burnRateExpression metric filter grouping =
        metric ++ (filter ++ (("\n" ++ ("/ on(" ++ (grouping ++ ") group_left\n"))) ++
          (Naming.errorBudgetMetric ++ (filter ++ ("\n" ++ ""))))) := by
    unfold burnRateExpression
    simp only [String.append_assoc, String.append_empty]
  rw [allIn, asParts, scan_selector isMetric reads, between.scan_append,
    scan_selector isBudget reads, closing.scan_append, String.toList_empty, scan]

/-- The remaining budget selects the burn rate of the period. -/
theorem allIn_remaining
    {filter : String}
    {pairs : List (String × String)}
    (reads : Labels.ReadsAs filter pairs) :
    allIn ("1 - " ++ Naming.periodBurnRateMetric ++ filter) =
      [⟨Naming.periodBurnRateMetric, pairs⟩] := by
  have isMetric : IsMetric Naming.periodBurnRateMetric := by
    have chars : Naming.periodBurnRateMetric.toList.all isMetricChar := by decide
    exact List.all_eq_true.mp chars
  have opening : Separates "1 - " := by decide
  have asParts :
      "1 - " ++ Naming.periodBurnRateMetric ++ filter =
        "1 - " ++ (Naming.periodBurnRateMetric ++ (filter ++ "")) := by
    simp only [String.append_assoc, String.append_empty]
  rw [allIn, asParts, opening.scan_append, scan_selector isMetric reads,
    String.toList_empty, scan]

/-- The selectors of the derived rules, in their order. -/
theorem allIn_derivedRules
    {slo : Slo}
    {current period filter : String}
    {pairs : List (String × String)}
    (isCurrent : IsMetric current)
    (isPeriod : IsMetric period)
    (reads : Labels.ReadsAs filter pairs)
    (simple : ∀ name ∈ slo.labels.keys, Labels.IsSimpleName name) :
    (derivedRules slo current period filter (labels slo).groupText).flatMap
        (fun rule => allIn rule.expression) =
      [current, Naming.errorBudgetMetric, period, Naming.errorBudgetMetric,
        Naming.periodBurnRateMetric].map fun metric => ⟨metric, pairs⟩ := by
  have noBrace : '\x7b' ∉ (labels slo).groupText.toList := by
    apply notMem_intercalate (by decide)
    intro name member inName
    have isSimple :=
      isSimpleName_of_mem_keys simple name (List.mem_mergeSort.mp member)
    exact (isSimple _ inName).2.1 rfl
  simp only [derivedRules, List.flatMap_cons, List.flatMap_nil]
  rw [allIn_burnRateExpression isCurrent reads noBrace,
    allIn_burnRateExpression isPeriod reads noBrace, allIn_remaining reads]
  rfl

/-! ## Selected series -/

section Resolution

variable {origin : Origin} {slo : Slo} {alerts : BurnAlerts} {progress : Progress}

theorem Recorded.exists_ratio
    {window : Duration}
    {metric : String}
    (recorded : Recorded origin slo alerts progress)
    (isWindow : window ∈ ErrorRatio.windows slo alerts)
    (named : Naming.errorRatio window = .ok metric) :
    ∃ rule ∈ progress.rules.errorRatio.rules,
      rule.Carries metric (labels slo) :=
  ErrorRatio.exists_carries recorded.ratios isWindow named

/-- The derived rules of a progress, and the metadata that they select. -/
theorem Recorded.exists_derived
    (recorded : Recorded origin slo alerts progress) :
    ∃ current period filter,
      Naming.errorRatio alerts.pageQuick.shortWindow = .ok current ∧
        Naming.errorRatio slo.period = .ok period ∧
        (labels slo).filterText = .ok filter ∧
        derived progress.rules.metadata.rules =
          derivedRules slo current period filter (labels slo).groupText ∧
        ∀ metric ∈ [Naming.errorBudgetMetric, Naming.periodBurnRateMetric],
          ∃ rule ∈ progress.rules.metadata.rules,
            rule.Carries metric (labels slo) := by
  rcases recorded.metadata with ⟨made, weights, isMade, areWeights, behind⟩
  rcases derived_of_rules isMade with
    ⟨current, period, filter, isCurrent, isPeriod, filtered, isDerived, budget,
      inMade, isBudget, budgetLabels⟩
  have derivedAll :
      derived progress.rules.metadata.rules =
        derivedRules slo current period filter (labels slo).groupText := by
    have noWeights := derived_weights areWeights
    rw [derived] at isDerived noWeights
    rw [behind, derived, List.filter_append, isDerived, noWeights, List.append_nil]
  refine ⟨current, period, filter, isCurrent, isPeriod, filtered, derivedAll, ?_⟩
  have carriesBudget := carries_of_labels budgetLabels
  rw [isBudget] at carriesBudget
  have inMetadata : budget ∈ progress.rules.metadata.rules := by
    rw [behind]
    exact List.mem_append_left _ inMade
  have inDerived :
      ∃ rule ∈ derived progress.rules.metadata.rules,
        rule.record = Naming.periodBurnRateMetric ∧ rule.labels = labels slo := by
    rw [derivedAll]
    exact ⟨_, List.mem_cons_of_mem _ List.mem_cons_self, rfl, rfl⟩
  rcases inDerived with ⟨rate, isListed, isRate, rateLabels⟩
  have carriesRate := carries_of_labels rateLabels
  rw [isRate] at carriesRate
  simp only [List.forall_mem_cons]
  refine
    ⟨⟨budget, inMetadata, carriesBudget⟩,
      ⟨rate, (List.mem_filter.mp isListed).1, carriesRate⟩, ?_⟩
  intro metric impossible
  cases impossible

/-- The selectors that a reader of the derived rules finds are fed. -/
theorem feeds_of_allIn
    {current period filter : String}
    {sources : List Rule}
    (isCurrent : IsMetric current)
    (isPeriod : IsMetric period)
    (filtered : (labels slo).filterText = .ok filter)
    (simple : ∀ name ∈ slo.labels.keys, Labels.IsSimpleName name)
    (carried :
      ∀ metric ∈
          [current, Naming.errorBudgetMetric, period, Naming.errorBudgetMetric,
            Naming.periodBurnRateMetric],
        ∃ source ∈ sources, source.Carries metric (labels slo)) :
    let selectors :=
      (derivedRules slo current period filter (labels slo).groupText).flatMap
        fun rule => allIn rule.expression
    selectors.map Selector.metric =
        [current, Naming.errorBudgetMetric, period, Naming.errorBudgetMetric,
          Naming.periodBurnRateMetric] ∧
      ∀ selector ∈ selectors, ∃ source ∈ sources, source.Feeds selector := by
  rcases exists_readsAs filtered simple with ⟨pairs, areTexts, reads⟩
  rw [allIn_derivedRules isCurrent isPeriod reads simple]
  refine ⟨rfl, ?_⟩
  intro selector member
  rcases List.mem_map.mp member with ⟨metric, isOne, rfl⟩
  rcases carried metric isOne with ⟨source, isSource, carries⟩
  exact ⟨source, isSource, carries.feeds areTexts⟩

end Resolution

/--
Whatever labels an objective has, the series that its burn rates and its remaining budget
are computed from are recorded: with error ratios plain or optimized, and after any number
of corrections.  They are selected by the filter of the labels of the metadata and joined
on the names of these labels in ascending order.  Where no name holds a brace or an equals
sign, these selectors are all that a reader of the expressions finds.
-/
theorem derived_resolves
    {origin : Origin}
    {alerts : BurnAlerts}
    {settings : ErrorRatioSettings}
    {ratioId metadataId : String}
    {corrections : List NamedProcessor}
    {start stop : Progress}
    (corrects : ∀ step ∈ corrections, step.processor = .corrected)
    (passes :
      Passes origin alerts
        (⟨ratioId, .errorRatio settings⟩ :: ⟨metadataId, .metadata⟩ :: corrections)
        start stop) :
    ∃ current period filter names,
      Naming.errorRatio alerts.pageQuick.shortWindow = .ok current ∧
        Naming.errorRatio start.slo.period = .ok period ∧
        (labels start.slo).filterText = .ok filter ∧
        names.Perm (labels start.slo).keys ∧
        names.Pairwise (fun left right => left ≤ right) ∧
        derived stop.rules.metadata.rules =
          derivedRules start.slo current period filter (", ".intercalate names) ∧
        (∀ metric ∈ [current, period],
          ∃ rule ∈ stop.rules.errorRatio.rules,
            rule.Carries metric (labels start.slo)) ∧
        (∀ metric ∈ [Naming.errorBudgetMetric, Naming.periodBurnRateMetric],
          ∃ rule ∈ stop.rules.metadata.rules,
            rule.Carries metric (labels start.slo)) ∧
        ((∀ name ∈ start.slo.labels.keys, Labels.IsSimpleName name) →
          let selectors :=
            (derived stop.rules.metadata.rules).flatMap fun rule =>
              allIn rule.expression
          selectors.map Selector.metric =
              [current, Naming.errorBudgetMetric, period, Naming.errorBudgetMetric,
                Naming.periodBurnRateMetric] ∧
            ∀ selector ∈ selectors,
              ∃ source ∈ stop.rules.errorRatio.rules ++ stop.rules.metadata.rules,
                source.Feeds selector) := by
  have recorded := recorded_of_passes corrects passes
  rcases recorded.exists_derived with
    ⟨current, period, filter, isCurrent, isPeriod, filtered, isDerived, ofMetadata⟩
  have isQuick :
      alerts.pageQuick.shortWindow ∈ ErrorRatio.windows start.slo alerts := by
    apply List.mem_append_left
    rw [BurnAlerts.mem_windows_iff]
    exact ⟨alerts.pageQuick, List.mem_cons_self, Or.inl rfl⟩
  have isLast : start.slo.period ∈ ErrorRatio.windows start.slo alerts :=
    List.mem_append_right _ List.mem_cons_self
  have ofRatios :
      ∀ metric ∈ [current, period],
        ∃ rule ∈ stop.rules.errorRatio.rules,
          rule.Carries metric (labels start.slo) := by
    simp only [List.forall_mem_cons]
    refine ⟨recorded.exists_ratio isQuick isCurrent,
      recorded.exists_ratio isLast isPeriod, ?_⟩
    intro metric impossible
    cases impossible
  refine
    ⟨current, period, filter, Labels.sortTexts (labels start.slo).keys, isCurrent,
      isPeriod, filtered, Labels.perm_sortTexts _, Labels.pairwise_sortTexts _,
      isDerived, ofRatios, ofMetadata, ?_⟩
  intro simple
  have fromRatios :
      ∀ metric ∈ [current, period],
        ∃ source ∈ stop.rules.errorRatio.rules ++ stop.rules.metadata.rules,
          source.Carries metric (labels start.slo) := by
    intro metric isOne
    rcases ofRatios metric isOne with ⟨source, member, carries⟩
    exact ⟨source, List.mem_append_left _ member, carries⟩
  have fromMetadata :
      ∀ metric ∈ [Naming.errorBudgetMetric, Naming.periodBurnRateMetric],
        ∃ source ∈ stop.rules.errorRatio.rules ++ stop.rules.metadata.rules,
          source.Carries metric (labels start.slo) := by
    intro metric isOne
    rcases ofMetadata metric isOne with ⟨source, member, carries⟩
    exact ⟨source, List.mem_append_right _ member, carries⟩
  rw [isDerived]
  apply
    feeds_of_allIn (Naming.isMetric_errorRatio isCurrent)
      (Naming.isMetric_errorRatio isPeriod) filtered simple
  simp only [List.forall_mem_cons] at fromRatios fromMetadata ⊢
  exact
    ⟨fromRatios.1, fromMetadata.1, fromRatios.2.1, fromMetadata.1,
      fromMetadata.2.1, fromMetadata.2.2⟩

/-- An objective whose labels give other values to labels of its recordings. -/
def relabelledSlo : Slo :=
  { Processor.countedSlo (Processor.errorQuery "" "") with
    labels :=
      Labels.ofTexts
        [(Naming.windowLabel, "all"), ("team", "red"), (Naming.idLabel, "other")] }

theorem derived_resolves_of_relabelled :
    ∃ (stop : Progress) (corrections : List NamedProcessor),
      Passes {} Alerting.sameAlerts
          (⟨"ratios", .errorRatio ⟨true⟩⟩ :: ⟨"metadata", .metadata⟩ :: corrections)
          { slo := relabelledSlo } stop ∧
        corrections.length = 2 ∧
        stop.rules.metadata.rules.length = 13 ∧
        (derived stop.rules.metadata.rules).length = 3 ∧
        ∀ selector ∈
            (derived stop.rules.metadata.rules).flatMap fun rule =>
              allIn rule.expression,
          ∃ source ∈ stop.rules.errorRatio.rules ++ stop.rules.metadata.rules,
            source.Feeds selector := by
  let start : Progress := { slo := relabelledSlo }
  let corrections : List NamedProcessor :=
    [⟨"weights", .corrected⟩, ⟨"weights", .corrected⟩]
  let steps : List NamedProcessor :=
    ⟨"ratios", .errorRatio ⟨true⟩⟩ :: ⟨"metadata", .metadata⟩ :: corrections
  have corrects : ∀ step ∈ corrections, step.processor = .corrected := by
    simp [corrections]
  have passed :
      (runSteps {} Alerting.sameAlerts steps start).2.isNone = true := by
    decide +kernel
  have count :
      (runSteps {} Alerting.sameAlerts steps start).1.rules.metadata.rules.length =
        13 := by
    decide +kernel
  have passes :
      Passes {} Alerting.sameAlerts steps start
        (runSteps {} Alerting.sameAlerts steps start).1 := by
    apply runSteps_eq_none_iff.mp
    rw [← Option.isNone_iff_eq_none.mp passed]
  have simple : ∀ name ∈ start.slo.labels.keys, Labels.IsSimpleName name :=
    Labels.isSimpleName_of_all (by decide)
  rcases derived_resolves corrects passes with
    ⟨_, _, _, _, _, _, _, _, _, isDerived, _, _, selected⟩
  have three := congrArg List.length isDerived
  exact
    ⟨_, corrections, passes, rfl, count, three, (selected simple).2⟩

end Metadata

end ServiceLevel
