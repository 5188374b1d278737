import ServiceLevel.Proofs.Rules.MetadataSelection
import ServiceLevel.Proofs.Rules.Optimization
import ServiceLevel.Proofs.Template.Joining

/-!
# Corrected error ratios in place of the others

Whoever reads the error ratios of an objective can read the corrected ones instead: there is
one for each window as before, at the same place in the list and recorded under the same metric
with the same labels.  What is new is in front of the ratio, where the weight of the window is
selected by the identity of the objective, and at the end of the metadata, where the weights
are recorded in the order of the windows.  All else is left as it was.
-/

namespace ServiceLevel

/-! ## Weights -/

namespace Corrected

/-- The rule of the weight of a window: its share of the events of the period. -/
structure Weighs (slo : Slo) (events : EventQueries) (window : Duration) (weight : Rule) :
    Prop where
  record : ∃ text, window.prometheus = .ok text ∧ weight.record = weightMetric ++ text
  labels : weight.labels = Metadata.labels slo
  expression :
    ∃ share whole,
      totalOver events window = .ok share ∧
        totalOver events slo.period = .ok whole ∧
        weight.expression = "(" ++ share ++ ")/(" ++ whole ++ ")"

section Weights

variable {slo : Slo} {events : EventQueries} {window : Duration} {weight : Rule}

theorem weighs_of_weightRule
    (made : weightRule slo events window = .ok weight) :
    Weighs slo events window weight := by
  rcases exists_of_weightRule made with ⟨text, share, whole, written, isShare, isWhole, rfl⟩
  exact ⟨⟨text, written, rfl⟩, rfl, share, whole, isShare, isWhole, rfl⟩

theorem Weighs.isMetric
    (weighs : Weighs slo events window weight) :
    Selector.IsMetric weight.record := by
  rcases weighs.record with ⟨text, written, same⟩
  intro c member
  rw [same, String.toList_append] at member
  rcases List.mem_append.mp member with inMetric | inText
  · have ofMetric : weightMetric.toList.all Selector.isMetricChar := by decide
    exact List.all_eq_true.mp ofMetric c inMetric
  · rw [Selector.isMetricChar, Duration.isAlphanum_of_prometheus written c inText,
      Bool.true_or, Bool.true_or]

/-- The identity of an objective selects a weight unless the labels of the objective replace it. -/
theorem Weighs.feeds_iff
    (weighs : Weighs slo events window weight) :
    weight.Feeds (Naming.identitySelector slo weight.record) ↔ slo.KeepsIdentity := by
  rw [Rule.feeds_identitySelector_iff]
  · exact and_iff_right rfl
  · intro pair member
    rw [weighs.labels]
    exact Metadata.get?_labels member

end Weights

/-! ## Weighted ratios -/

open Template

/-- The values of the template of a weighted ratio. -/
def ratioData (text filter : String) : Entries String :=
  .ofList [(Naming.windowVariable, text), ("filter", filter)]

/-- The template in front of the query of errors. -/
def frontTemplate : String :=
  "(\n" ++ weightMetric ++ "\x7b\x7b.window\x7d\x7d\x7b\x7b.filter\x7d\x7d"

/-- The template of what a weight is multiplied with. -/
def behindTemplate (events : EventQueries) : String :=
  "\n* on()\n" ++ events.error ++ "\n)\n/\n(" ++ events.total ++ ")\n"

theorem split_frontTemplate :
    split frontTemplate.toList =
      ⟨("(\n" ++ weightMetric).toList,
        [(".window".toList, []), (".filter".toList, [])]⟩ := by
  have first :
      opening? frontTemplate.toList =
        some
          (("(\n" ++ weightMetric).toList, ".window".toList,
            "\x7b\x7b.filter\x7d\x7d".toList) := by
    decide +kernel
  have second :
      opening? "\x7b\x7b.filter\x7d\x7d".toList = some ([], ".filter".toList, []) := by
    decide +kernel
  rw [split_of_some first, split_of_some second, split_of_none rfl]

theorem filled_frontTemplate_eq_ok_iff
    {text filter : String}
    {chars : List Char} :
    filled (ratioData text filter) (split frontTemplate.toList) = .ok chars ↔
      chars = ("(\n" ++ (weightMetric ++ text) ++ filter).toList := by
  have isWindow : value (ratioData text filter) ".window".toList = .ok text := by
    have named : variableName? ".window".toList = some Naming.windowVariable := by
      decide +kernel
    rw [value, named]
    rfl
  have isFilter : value (ratioData text filter) ".filter".toList = .ok filter := by
    have named : variableName? ".filter".toList = some "filter" := by
      decide +kernel
    rw [value, named]
    rfl
  have joined :
      ("(\n" ++ (weightMetric ++ text) ++ filter).toList =
        ("(\n" ++ weightMetric).toList ++
          (text.toList ++ ([] ++ (filter.toList ++ []))) := by
    simp only [String.toList_append, List.append_assoc, List.nil_append, List.append_nil]
  rw [split_frontTemplate, joined, filled_cons_eq_ok_iff]
  constructor
  · rintro ⟨_, _, ofWindow, isRest, rfl⟩
    rcases filled_cons_eq_ok_iff.mp isRest with ⟨_, _, ofFilter, isEnd, rfl⟩
    rw [isWindow] at ofWindow
    rw [isFilter] at ofFilter
    cases ofWindow
    cases ofFilter
    rw [filled_nil_eq_ok_iff.mp isEnd]
  · rintro rfl
    refine ⟨text, _, isWindow, ?_, rfl⟩
    exact filled_cons_eq_ok_iff.mpr ⟨filter, [], isFilter, filled_nil_eq_ok_iff.mpr rfl, rfl⟩

theorem exists_toList_behindTemplate (events : EventQueries) :
    ∃ rest, (behindTemplate events).toList = '\n' :: rest := by
  have lineEnd : "\n* on()\n".toList = '\n' :: "* on()\n".toList := by decide
  refine ⟨("* on()\n" ++ events.error ++ "\n)\n/\n(" ++ events.total ++ ")\n").toList, ?_⟩
  simp only [behindTemplate, String.toList_append, lineEnd, List.cons_append]

/-- A weighted ratio begins with its weight, whatever the queries behind it are. -/
theorem render_template_eq_ok_iff
    {text filter expression : String}
    {events : EventQueries} :
    render ErrorRatio.title (ratioData text filter) (template events) = .ok expression ↔
      ∃ rest,
        render ErrorRatio.title (ratioData text filter) (behindTemplate events) = .ok rest ∧
          expression = "(\n" ++ (weightMetric ++ text) ++ filter ++ rest := by
  rcases exists_toList_behindTemplate events with ⟨tail, isTail⟩
  have parts : (template events).toList = frontTemplate.toList ++ '\n' :: tail := by
    rw [← isTail, ← String.toList_append]
    simp only [template, frontTemplate, behindTemplate, String.append_assoc]
    rfl
  have isFront : balanced frontTemplate.toList := by decide +kernel
  have settled : Dangling frontTemplate.toList → ¬ Doubles '\x7d' tail := by
    intro dangling
    exact absurd dangling (by decide +kernel)
  have sameBalance :
      balanced (frontTemplate.toList ++ '\n' :: tail) ↔ balanced ('\n' :: tail) := by
    rw [balanced, decide_eq_true_eq] at isFront
    rw [balanced_cons_iff (by decide) (by decide), balanced, balanced, decide_eq_true_eq,
      decide_eq_true_eq, countPairs_append (by decide), countPairs_append (by decide), isFront,
      Nat.add_left_cancel_iff]
  rw [render_eq_ok_iff_renderChars, renderChars_eq_ok_iff_filled, parts, sameBalance,
    split_append (by decide) (by decide) settled, filled_append_eq_ok_iff]
  simp only [render_eq_ok_iff_renderChars, renderChars_eq_ok_iff_filled, isTail,
    filled_frontTemplate_eq_ok_iff]
  constructor
  · rintro ⟨isBalanced, _, behind, rfl, isBehind, same⟩
    refine ⟨String.ofList behind, ?_, ?_⟩
    · rw [String.toList_ofList]
      exact ⟨isBalanced, isBehind⟩
    · rw [← String.toList_inj, same, @String.toList_append _ (String.ofList behind),
        String.toList_ofList]
  · rintro ⟨rest, ⟨isBalanced, isBehind⟩, rfl⟩
    exact ⟨isBalanced, _, _, rfl, isBehind, String.toList_append⟩

theorem ratioRule_eq_ok_iff
    {slo : Slo}
    {events : EventQueries}
    {window : Duration}
    {rule : Rule} :
    ratioRule slo events window = .ok rule ↔
      ∃ text filter rest,
        window.prometheus = .ok text ∧
          (Naming.identity slo).filterText = .ok filter ∧
          render ErrorRatio.title (ratioData text filter) (behindTemplate events) = .ok rest ∧
          ErrorRatio.windowRule slo window
              ("(\n" ++ (weightMetric ++ text) ++ filter ++ rest) = .ok rule := by
  rw [ratioRule]
  simp only [Attempt.bind_eq_ok_iff]
  constructor
  · rintro ⟨text, written, filter, filtered, expression, rendered, recorded⟩
    rcases render_template_eq_ok_iff.mp rendered with ⟨rest, isRest, rfl⟩
    exact ⟨text, filter, rest, written, filtered, isRest, recorded⟩
  · rintro ⟨text, filter, rest, written, filtered, isRest, recorded⟩
    exact
      ⟨text, written, filter, filtered, _, render_template_eq_ok_iff.mpr ⟨rest, isRest, rfl⟩,
        recorded⟩

/-! ## Position by position -/

/--
The rules of one window: its error ratio, the weighted ratio that takes the place of this one,
and the weight.  The weighted ratio is the same rule but for its expression, which begins with the
selector of the weight.
-/
structure Replaces
    (slo : Slo)
    (events : EventQueries)
    (window : Duration)
    (standard ratio weight : Rule) : Prop where
  record : ratio.record = standard.record
  labels : ratio.labels = standard.labels
  others : ratio = { standard with expression := ratio.expression }
  weighs : Weighs slo events window weight
  reads :
    ∃ text filter rest,
      window.prometheus = .ok text ∧
        (Naming.identity slo).filterText = .ok filter ∧
        render ErrorRatio.title (ratioData text filter) (behindTemplate events) = .ok rest ∧
        ratio.expression = "(\n" ++ weight.record ++ filter ++ rest
  selects :
    (Selector.allIn ratio.expression).head? =
      some (Naming.identitySelector slo weight.record)
  feeds : weight.Feeds (Naming.identitySelector slo weight.record) ↔ slo.KeepsIdentity

section Replacement

variable {slo : Slo} {alerts : BurnAlerts} {events : EventQueries} {window : Duration}

/-- A metric with its filter is the first selector of an expression in parentheses. -/
theorem head?_allIn_of_selector
    {metric filter : String}
    {pairs : List (String × String)}
    (isMetric : Selector.IsMetric metric)
    (reads : Labels.ReadsAs filter pairs)
    (rest : String) :
    (Selector.allIn ("(\n" ++ metric ++ filter ++ rest)).head? = some ⟨metric, pairs⟩ := by
  have opening : Selector.Separates "(\n" := by decide
  rw [Selector.allIn, String.append_assoc, String.append_assoc, opening.scan_append,
    Selector.scan_selector isMetric reads, List.head?_cons]

/-- Plain or averaged, an error ratio is recorded by the rule of its window. -/
theorem exists_windowRule_of_rules
    {optimized : Bool}
    {standard : List Rule}
    (made : ErrorRatio.rules optimized slo alerts = .ok standard)
    {position : Nat}
    (isWindow : (ErrorRatio.windows slo alerts)[position]? = some window) :
    ∃ expression rule,
      standard[position]? = some rule ∧
        ErrorRatio.windowRule slo window expression = .ok rule := by
  have ofPlain :
      ∀ {rule}, ErrorRatio.plainRule slo window = .ok rule →
        ∃ expression, ErrorRatio.windowRule slo window expression = .ok rule := by
    intro rule isPlain
    rcases ErrorRatio.plainRule_eq_ok_iff.mp isPlain with
      ⟨_, _, expression, _, _, _, recorded⟩
    exact ⟨expression, recorded⟩
  rcases Attempt.exists_getElem?_of_forall₂ (ErrorRatio.rulesOf_eq_ok_iff.mp made) isWindow with
    ⟨rule, isRule, ruleMade⟩
  cases optimized with
  | false =>
      rcases ofPlain ruleMade with ⟨expression, recorded⟩
      exact ⟨expression, rule, isRule, recorded⟩
  | true =>
      by_cases isPeriod : window = slo.period
      · rw [isPeriod] at ruleMade ⊢
        rcases
            ErrorRatio.exists_of_averageRule (ErrorRatio.optimizedRule_period.symm.trans ruleMade)
          with ⟨_, _, _, _, _, _, recorded⟩
        exact ⟨_, rule, isRule, recorded⟩
      · rcases ofPlain ((ErrorRatio.optimizedRule_of_ne isPeriod).symm.trans ruleMade) with
          ⟨expression, recorded⟩
        exact ⟨expression, rule, isRule, recorded⟩

theorem replaces_of_windowRule
    {expression : String}
    {standard ratio weight : Rule}
    (made : ErrorRatio.windowRule slo window expression = .ok standard)
    (isRatio : ratioRule slo events window = .ok ratio)
    (isWeight : weightRule slo events window = .ok weight) :
    Replaces slo events window standard ratio weight := by
  have weighs := weighs_of_weightRule isWeight
  rcases ratioRule_eq_ok_iff.mp isRatio with
    ⟨text, filter, rest, written, filtered, rendered, recorded⟩
  have same := ErrorRatio.windowRule_unique made recorded
  have isExpression := (ErrorRatio.windowRule_eq_ok recorded).2
  have isRecord : weight.record = weightMetric ++ text := by
    rcases weighs.record with ⟨other, otherWritten, isOther⟩
    rw [written] at otherWritten
    cases otherWritten
    exact isOther
  rw [← isRecord] at isExpression
  refine
    { record := ?_
      labels := ?_
      others := ?_
      weighs := weighs
      reads := ⟨text, filter, rest, written, filtered, rendered, isExpression⟩
      selects := ?_
      feeds := weighs.feeds_iff }
  · rw [same]
  · rw [same]
  · rw [same]
  · rw [isExpression]
    exact head?_allIn_of_selector weighs.isMetric (Naming.readsAs_identity filtered) rest

end Replacement

end Corrected

namespace Processor

/--
Corrected error ratios can take the place of those that the plain or the optimized step records:
where both steps succeed on the same objective and rules, they record as many, and at each
position the same metric with the same labels.  The metadata keep their rules and get a weight
for each of these positions, in the same order, and the ratio of a window begins with the selector
of the weight of this window.  Nothing else changes: not the objective, the other groups, or the
name and interval of any group.
-/
theorem corrected_replaces_errorRatio
    {optimized : Bool}
    {origin : Origin}
    {alerts : BurnAlerts}
    {progress standard corrected : Progress}
    (recorded :
      (Processor.errorRatio ⟨optimized⟩).run origin alerts progress = (standard, none))
    (weighted : Processor.corrected.run origin alerts progress = (corrected, none)) :
    ∃ events ratios weights,
      progress.slo.indicator.events = some events ∧
        corrected =
          { progress with
            rules :=
              { progress.rules with
                errorRatio := { progress.rules.errorRatio with rules := ratios }
                metadata := progress.rules.metadata.append weights } } ∧
        ratios.length = standard.rules.errorRatio.rules.length ∧
        weights.length = standard.rules.errorRatio.rules.length ∧
        standard.rules.errorRatio.rules.length =
          (ErrorRatio.windows progress.slo alerts).length ∧
        ∀ (position : Nat) (window : Duration),
          (ErrorRatio.windows progress.slo alerts)[position]? = some window →
            ∃ rule ratio weight,
              standard.rules.errorRatio.rules[position]? = some rule ∧
                ratios[position]? = some ratio ∧
                weights[position]? = some weight ∧
                Corrected.Replaces progress.slo events window rule ratio weight := by
  rcases errorRatio_run_eq_iff.mp recorded with ⟨rules, areRules, rfl⟩
  rcases corrected_run_eq_iff.mp weighted with
    ⟨events, ratios, weights, isEvents, areRatios, areWeights, rfl⟩
  have isCounted : progress.slo.indicator.events = some events := by
    rw [Corrected.queries] at isEvents
    split at isEvents
    · cases isEvents
    · rename_i counted
      split at isEvents
      · cases isEvents
      · cases isEvents
        exact counted
  have count := (ErrorRatio.rulesOf_eq_ok_iff.mp areRules).length_eq
  refine
    ⟨events, ratios, weights, isCounted, rfl, areRatios.length_eq.symm.trans count,
      areWeights.length_eq.symm.trans count, count.symm, ?_⟩
  intro position window isWindow
  rcases Corrected.exists_windowRule_of_rules areRules isWindow with
    ⟨_, rule, isRule, ruleMade⟩
  rcases Attempt.exists_getElem?_of_forall₂ areRatios isWindow with
    ⟨ratio, isRatio, ratioMade⟩
  rcases Attempt.exists_getElem?_of_forall₂ areWeights isWindow with
    ⟨weight, isWeight, weightMade⟩
  exact
    ⟨rule, ratio, weight, isRule, isRatio, isWeight,
      Corrected.replaces_of_windowRule ruleMade ratioMade weightMade⟩

/-- An objective whose labels replace its service, with a rule recorded before. -/
def startedWithRule : Progress :=
  { slo :=
      { countedSlo (errorQuery "" "") with
        period := ⟨3600000000⟩
        labels := Labels.ofTexts [(Naming.serviceLabel, "other"), ("team", "red")] }
    rules :=
      { metadata :=
          { name := "metadata", rules := [{ record := "earlier", expression := "1" }] } } }

theorem corrected_replaces_errorRatio_of_hourly :
    ∃ standard corrected : Progress,
      (Processor.errorRatio ⟨true⟩).run {} hourlyAlerts startedWithRule = (standard, none) ∧
        Processor.corrected.run {} hourlyAlerts startedWithRule = (corrected, none) ∧
        corrected.rules.errorRatio.rules.length = 3 ∧
        corrected.rules.metadata.rules.map Rule.record =
          ["earlier", "slo:numerator_correction:ratio5m", "slo:numerator_correction:ratio1h",
            "slo:numerator_correction:ratio1h"] ∧
        ∀ position ∈ [1, 2],
          ∃ rule ratio,
            standard.rules.errorRatio.rules[position]? = some rule ∧
              corrected.rules.errorRatio.rules[position]? = some ratio ∧
              ratio.record = rule.record ∧
              ratio.labels = rule.labels ∧
              (Selector.allIn ratio.expression).head? =
                some
                  (Naming.identitySelector startedWithRule.slo
                    "slo:numerator_correction:ratio1h") := by
  have standardOk : (ErrorRatio.rules true startedWithRule.slo hourlyAlerts).isOk := by
    decide +kernel
  have noFailure :
      (Processor.corrected.run {} hourlyAlerts startedWithRule).2.isNone = true := by
    decide +kernel
  rcases exists_errorRatio_run standardOk {} with ⟨standard, standardRun⟩
  rcases weighted : Processor.corrected.run {} hourlyAlerts startedWithRule with
    ⟨corrected, failure⟩
  rw [weighted] at noFailure
  cases Option.isNone_iff_eq_none.mp noFailure
  rcases corrected_replaces_errorRatio standardRun weighted with
    ⟨_, ratios, weights, _, rfl, sameLength, weightCount, count, each⟩
  refine ⟨standard, _, standardRun, rfl, sameLength.trans count, ?_, ?_⟩
  · have computed :
        (Processor.corrected.run {} hourlyAlerts startedWithRule).1.rules.metadata.rules.map
            Rule.record =
          ["earlier", "slo:numerator_correction:ratio5m", "slo:numerator_correction:ratio1h",
            "slo:numerator_correction:ratio1h"] := by
      decide +kernel
    rw [weighted] at computed
    exact computed
  · intro position member
    have isPeriod :
        (ErrorRatio.windows startedWithRule.slo hourlyAlerts)[position]? =
          some ⟨3600000000⟩ := by
      revert position
      decide
    rcases each position _ isPeriod with ⟨rule, ratio, weight, isRule, isRatio, _, replaces⟩
    have isHour : (⟨3600000000⟩ : Duration).prometheus = .ok "1h" := by decide +kernel
    rcases replaces.weighs.record with ⟨text, written, isWeight⟩
    rw [isHour] at written
    cases written
    have selects := replaces.selects
    rw [isWeight] at selects
    exact ⟨rule, ratio, isRule, isRatio, replaces.record, replaces.labels, selects⟩

end Processor

end ServiceLevel
