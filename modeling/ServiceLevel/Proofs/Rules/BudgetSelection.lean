import ServiceLevel.Proofs.Rules.LabelRemoval

/-!
# What the exhausted budget alert selects

The alert looks for the remaining budget of an objective by the labels of its metadata, and
builds the identifier among them from the service and the name.  An objective may have another
identifier, and then the remaining budget is recorded under that one: the alert selects a metric
that is recorded and no series of it, and never fires.  Labels of the objective come last in both
maps, so that one which replaces the identifier makes them agree again.
-/

namespace ServiceLevel

open Selector

/-! ## The labels of the selector -/

/-- The identifier that an objective has unless it is given one. -/
def Slo.builtId (slo : Slo) : String :=
  slo.service ++ "-" ++ slo.name

/-- The order in which texts are listed is of no account where no name is listed twice. -/
theorem Labels.get?_ofTexts_of_perm
    {first second : List (String × String)}
    (distinct : (first.map Prod.fst).Nodup)
    (perm : first.Perm second)
    (name : String) :
    (ofTexts first).get? name = (ofTexts second).get? name := by
  have names :
      ∀ pairs : List (String × String),
        (pairs.map fun pair => (pair.1, Json.text pair.2)).map Prod.fst = pairs.map Prod.fst := by
    intro pairs
    rw [List.map_map]
    rfl
  apply Option.ext
  intro value
  rw [ofTexts, ofTexts, Entries.get?_ofList_eq_some_iff, Entries.get?_ofList_eq_some_iff]
  · exact (perm.map _).mem_iff
  · rw [names]
    exact (perm.map _).nodup_iff.mp distinct
  · rw [names]
    exact distinct

/-- Only the label of the identifier tells the metadata under two identifiers apart. -/
theorem Metadata.get?_labels_withId
    {slo : Slo}
    {id : String}
    (agree : slo.id = id ∨ Naming.idLabel ∈ slo.labels.keys)
    (name : String) :
    (labels { slo with id }).get? name = (labels slo).get? name := by
  rcases agree with rfl | isReplaced
  · rfl
  · rw [labels, labels, Entries.get?_merge, Entries.get?_merge]
    by_cases isId : name = Naming.idLabel
    · rcases Option.isSome_iff_exists.mp (Entries.isSome_get?_iff.mpr isReplaced) with
        ⟨value, given⟩
      rw [isId, given]
      rfl
    · have ofOthers :
          ∀ other : String,
            (Naming.identity { slo with id := other }).get? name =
              (Labels.ofTexts
                [(Naming.nameLabel, slo.name), (Naming.serviceLabel, slo.service)]).get?
                name := by
        intro other
        simp only [Naming.identity, Labels.ofTexts, List.map_cons, List.map_nil, Entries.ofList,
          List.foldl_cons, List.foldl_nil, Entries.get?_put, if_neg isId]
      rw [ofOthers id, ← ofOthers slo.id]

namespace BudgetAlert

section Labels

variable {alert : BudgetAlert} {slo : Slo}

/-- Without labels of its own the selector asks for the metadata of the built identifier. -/
theorem get?_selectorLabels
    (bare : alert.selector = .empty)
    (name : String) :
    (alert.selectorLabels slo).get? name =
      (Metadata.labels { slo with id := slo.builtId }).get? name := by
  have rotated :
      [(Naming.nameLabel, slo.name), (Naming.serviceLabel, slo.service),
          (Naming.idLabel, slo.builtId)].Perm
        [(Naming.idLabel, slo.builtId), (Naming.nameLabel, slo.name),
          (Naming.serviceLabel, slo.service)] :=
    List.perm_append_singleton _ [_, _]
  have distinct :
      (([(Naming.nameLabel, slo.name), (Naming.serviceLabel, slo.service),
          (Naming.idLabel, slo.builtId)] : List (String × String)).map Prod.fst).Nodup := by
    show [Naming.nameLabel, Naming.serviceLabel, Naming.idLabel].Nodup
    decide
  rw [selectorLabels, bare, Entries.get?_mergeAll_three, Entries.get?_empty, Option.none_or,
    ← Slo.builtId, Labels.get?_ofTexts_of_perm distinct rotated, Metadata.labels,
    Entries.get?_merge]
  rfl

/--
A recording with the labels of the metadata has all labels that the selector asks for exactly if
the identifier is the built one or replaced by a label of the objective.
-/
theorem carries_selectorLabels_iff
    {source : Rule}
    (bare : alert.selector = .empty)
    (same : source.labels = Metadata.labels slo) :
    source.Carries source.record (alert.selectorLabels slo) ↔
      slo.id = slo.builtId ∨ Naming.idLabel ∈ slo.labels.keys := by
  constructor
  · intro carries
    by_cases isReplaced : Naming.idLabel ∈ slo.labels.keys
    · exact Or.inr isReplaced
    · have kept : slo.labels.get? Naming.idLabel = none :=
        Entries.get?_eq_none_iff.mpr isReplaced
      have isAsked :
          (alert.selectorLabels slo).get? Naming.idLabel = some (.text slo.builtId) := by
        rw [get?_selectorLabels bare, Metadata.get?_labels List.mem_cons_self, kept]
        rfl
      have found := carries.labels _ (Entries.get?_eq_some_iff.mp isAsked)
      rw [same, Metadata.get?_labels List.mem_cons_self, kept] at found
      exact Or.inl (Json.text.inj (Option.some.inj found))
  · intro agree
    refine ⟨rfl, ?_⟩
    intro pair member
    rw [same, ← Metadata.get?_labels_withId agree, ← get?_selectorLabels bare]
    exact Entries.get?_eq_some_iff.mpr member

end Labels

/-! ## The expression -/

/-- The alert of an objective selects the remaining budget, and nothing else. -/
theorem exists_selector_of_rule
    {alert : BudgetAlert}
    {slo : Slo}
    {rule : Rule}
    (made : alert.rule slo = .ok rule)
    (bare : alert.selector = .empty)
    (simple : ∀ name ∈ slo.labels.keys, Labels.IsSimpleName name) :
    ∃ pairs,
      (alert.selectorLabels slo).pairs = Labels.asTexts pairs ∧
        allIn rule.expression =
          [⟨Naming.budgetRemainingMetric, Labels.inWrittenOrder pairs⟩] := by
  rcases Attempt.bind_eq_ok_iff.mp made with ⟨filter, filtered, same⟩
  cases same
  have plainNames : ∀ name ∈ (alert.selectorLabels slo).keys, Labels.IsPlainName name := by
    intro name isKey
    rw [← Entries.isSome_get?_iff, get?_selectorLabels bare, Entries.isSome_get?_iff] at isKey
    refine (Metadata.isSimpleName_of_mem_keys ?_ name isKey).isPlainName
    exact simple
  rcases Labels.readsAs_filterText filtered plainNames with ⟨pairs, areTexts, reads⟩
  refine ⟨pairs, areTexts, ?_⟩
  have isMetric : IsMetric Naming.budgetRemainingMetric := by
    have chars : Naming.budgetRemainingMetric.toList.all isMetricChar := by decide
    exact List.all_eq_true.mp chars
  have threshold : '\x7b' ∉ (" <= " ++ Quantity.conciseBinary64 alert.threshold).toList := by
    rw [String.toList_append, List.mem_append, not_or]
    exact ⟨by decide, Alerting.notMem_conciseBinary64 alert.threshold⟩
  have noMore := Metadata.allIn_eq_nil threshold
  rw [allIn] at noMore
  rw [allIn, String.append_assoc, String.append_assoc, scan_selector isMetric reads, noMore]

end BudgetAlert

namespace Shipped

/-- A config that gives no labels to select by. -/
def GivesNoSelector (config : String) : Prop :=
  ∀ data,
    readObject config "invalid plugin config: must be an object" = .ok data →
      given? data "selector_labels" = none

theorem selector_of_readBudgetAlert
    {config : String}
    {alert : BudgetAlert}
    (bare : GivesNoSelector config)
    (read : readBudgetAlert config = .ok alert) :
    alert.selector = .empty := by
  rcases Attempt.bind_eq_ok_iff.mp read with ⟨data, isData, afterData⟩
  rcases Attempt.bind_eq_ok_iff.mp afterData with ⟨threshold, _, afterThreshold⟩
  rcases Attempt.bind_eq_ok_iff.mp afterThreshold with ⟨given, _, afterGiven⟩
  rcases Attempt.exists_of_ite_bind_eq_ok afterGiven with ⟨hold, afterHold⟩
  rcases Attempt.bind_eq_ok_iff.mp afterHold with ⟨value, _, afterValue⟩
  rcases Attempt.bind_eq_ok_iff.mp afterValue with ⟨selector, isSelector, afterSelector⟩
  rcases Attempt.bind_eq_ok_iff.mp afterSelector with ⟨labels, _, afterLabels⟩
  rcases Attempt.bind_eq_ok_iff.mp afterLabels with ⟨annotations, _, same⟩
  rw [textMap, bare data isData] at isSelector
  cases isSelector
  cases same
  rfl

end Shipped

/-! ## Alerts and metadata -/

namespace Metadata

/-- All metadata but the information about the definition have the labels of the metadata. -/
theorem labels_of_mem_rules
    {origin : Origin}
    {slo : Slo}
    {alerts : BurnAlerts}
    {made : List Rule}
    (isMade : rules origin slo alerts = .ok made)
    {rule : Rule}
    (member : rule ∈ made)
    (notInfo : rule.record ≠ Naming.infoMetric) :
    rule.labels = labels slo := by
  rcases rules_eq_ok_iff.mp isMade with ⟨_, _, _, _, _, _, _, _, _, _, rfl⟩
  simp only [contents, List.mem_cons, List.not_mem_nil, or_false] at member
  rcases member with rfl | rfl | rfl | rfl | rfl | rfl | rfl
  · rfl
  · rfl
  · rfl
  · rfl
  · rfl
  · rfl
  · exact absurd rfl notInfo

theorem exists_remaining_of_rules
    {origin : Origin}
    {slo : Slo}
    {alerts : BurnAlerts}
    {made : List Rule}
    (isMade : rules origin slo alerts = .ok made) :
    ∃ rule ∈ made, rule.record = Naming.budgetRemainingMetric := by
  rcases rules_eq_ok_iff.mp isMade with ⟨_, _, _, _, _, _, _, _, _, _, rfl⟩
  exact ⟨_, List.mem_of_getElem? (i := 5) rfl, rfl⟩

end Metadata

namespace BudgetAlert

/--
The alert behind the standard chain for an accepted objective, made from a config that gives no
labels to select by.  It comes last, and its one selector names the remaining budget, which the
metadata record.  Some metadata have all labels that it asks for exactly if the objective is
identified by its service and name, or gives the label of the identifier itself.
-/
theorem exists_feeds_iff_builtId
    {origin : Origin}
    {alerts : BurnAlerts}
    {accepts : String → Bool}
    {settings : ErrorRatioSettings}
    {config : String}
    {processor : Processor}
    {start stop : Progress}
    (created : Shipped.budgetAlert.create config = .ok processor)
    (bare : Shipped.GivesNoSelector config)
    (passes :
      Passes origin alerts
        (Metadata.standardSteps accepts settings ++ [⟨Shipped.budgetAlert.id, processor⟩])
        start stop) :
    ∃ alertRules exhausted selector,
      Alerting.rules start.slo alerts = .ok alertRules ∧
        stop.rules.alerts.rules = alertRules ++ [exhausted] ∧
        allIn exhausted.expression = [selector] ∧
        (∃ recording ∈ stop.rules.metadata.rules, recording.record = selector.metric) ∧
        ((∃ recording ∈ stop.rules.metadata.rules, recording.Feeds selector) ↔
          start.slo.id = start.slo.service ++ "-" ++ start.slo.name ∨
            Naming.idLabel ∈ start.slo.labels.keys) := by
  rcases Attempt.map_eq_ok_iff.mp created with ⟨alert, read, rfl⟩
  have isBare := Shipped.selector_of_readBudgetAlert bare read
  rcases Metadata.exists_of_standardSteps passes with
    ⟨accepted, ratios, metadata, alertRules, _, areMetadata, areAlerts, last⟩
  cases last with
  | cons alertPassed others =>
      cases others
      rw [Processor.run, Processor.replacing_eq_iff] at alertPassed
      rcases alertPassed with ⟨exhausted, made, rfl⟩
      rcases exists_selector_of_rule made isBare accepted.isSimpleName with
        ⟨pairs, areTexts, selects⟩
      rcases Metadata.exists_remaining_of_rules areMetadata with ⟨remaining, isRule, isRemaining⟩
      have feedsIff :
          ∀ recording ∈ metadata, recording.record = Naming.budgetRemainingMetric →
            (recording.Feeds ⟨Naming.budgetRemainingMetric, Labels.inWrittenOrder pairs⟩ ↔
              start.slo.id = start.slo.builtId ∨ Naming.idLabel ∈ start.slo.labels.keys) := by
        intro recording member isRecorded
        have notInfo : recording.record ≠ Naming.infoMetric := by
          rw [isRecorded]
          decide
        have same := Metadata.labels_of_mem_rules areMetadata member notInfo
        rw [Rule.feeds_iff_carries areTexts, ← isRecorded,
          carries_selectorLabels_iff isBare same]
      refine
        ⟨alertRules, exhausted, _, areAlerts, rfl, selects, ⟨remaining, isRule, isRemaining⟩, ?_⟩
      constructor
      · rintro ⟨recording, member, feeds⟩
        exact (feedsIff recording member feeds.1).mp feeds
      · intro agree
        exact ⟨remaining, isRule, (feedsIff remaining isRule isRemaining).mpr agree⟩

/-- The alert that is made without any config. -/
def unconfigured : BudgetAlert where
  threshold := .finite false 0 0
  hold := ⟨300000000⟩
  name := .text "ErrorBudgetExhausted"
  selector := .empty
  labels := .empty
  annotations := .empty

/-- Orders of a shop under an identifier, before any of their rules is made. -/
def identifiedAs (id : String) : Progress :=
  { slo := { Alerting.labelledSlo .empty with id } }

/-- Under the built identifier the alert finds the remaining budget, under another one nothing. -/
theorem exists_feeds_iff_builtId_of_orders :
    ∃ own other : Progress,
      (∀ each ∈ [("shop-orders", own), ("other", other)],
        Passes {} Alerting.sameAlerts
          (Metadata.standardSteps Promql.accepts ⟨true⟩ ++
            [⟨Shipped.budgetAlert.id, .budgetAlert unconfigured⟩])
          (identifiedAs each.1) each.2) ∧
        (∃ exhausted ∈ own.rules.alerts.rules,
          ∃ selector ∈ allIn exhausted.expression,
            ∃ recording ∈ own.rules.metadata.rules, recording.Feeds selector) ∧
        ∃ exhausted ∈ other.rules.alerts.rules,
          ∃ selector ∈ allIn exhausted.expression,
            (∃ recording ∈ other.rules.metadata.rules, recording.record = selector.metric) ∧
              ¬ ∃ recording ∈ other.rules.metadata.rules, recording.Feeds selector := by
  have read : Shipped.readBudgetAlert "" = .ok unconfigured := by decide +kernel
  have created : Shipped.budgetAlert.create "" = .ok (.budgetAlert unconfigured) :=
    Attempt.map_eq_ok_iff.mpr ⟨unconfigured, read, rfl⟩
  have bare : Shipped.GivesNoSelector "" := by
    have isEmpty :
        Shipped.readObject "" "invalid plugin config: must be an object" =
          .ok (.object []) := by
      decide +kernel
    intro data isData
    rw [isEmpty] at isData
    cases isData
    rfl
  let steps : List NamedProcessor :=
    Metadata.standardSteps Promql.accepts ⟨true⟩ ++
      [⟨Shipped.budgetAlert.id, .budgetAlert unconfigured⟩]
  have passed :
      ∀ id ∈ ["shop-orders", "other"],
        (runSteps {} Alerting.sameAlerts steps (identifiedAs id)).2.isNone = true := by
    decide +kernel
  have passes :
      ∀ id ∈ ["shop-orders", "other"],
        Passes {} Alerting.sameAlerts steps (identifiedAs id)
          (runSteps {} Alerting.sameAlerts steps (identifiedAs id)).1 := by
    intro id member
    apply runSteps_eq_none_iff.mp
    rw [← Option.isNone_iff_eq_none.mp (passed id member)]
  have ownPasses := passes "shop-orders" List.mem_cons_self
  have otherPasses := passes "other" (List.mem_cons_of_mem _ List.mem_cons_self)
  rcases exists_feeds_iff_builtId created bare ownPasses with
    ⟨_, own, ownSelector, _, isOwn, ownSelects, _, ownFeeds⟩
  rcases exists_feeds_iff_builtId created bare otherPasses with
    ⟨_, other, otherSelector, _, isOther, otherSelects, isRecorded, otherFeeds⟩
  refine ⟨_, _, ?_, ⟨own, ?_, ownSelector, ?_, ownFeeds.mpr ?_⟩, other, ?_, otherSelector, ?_,
    isRecorded, ?_⟩
  · simp only [List.forall_mem_cons]
    refine ⟨ownPasses, otherPasses, ?_⟩
    intro each impossible
    cases impossible
  · rw [isOwn]
    exact List.mem_append_right _ List.mem_cons_self
  · rw [ownSelects]
    exact List.mem_cons_self
  · decide
  · rw [isOther]
    exact List.mem_append_right _ List.mem_cons_self
  · rw [otherSelects]
    exact List.mem_cons_self
  · rw [otherFeeds]
    decide

end BudgetAlert

end ServiceLevel
