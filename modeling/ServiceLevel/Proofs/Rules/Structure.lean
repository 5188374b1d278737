import ServiceLevel.Proofs.Generation.Steps
import ServiceLevel.Proofs.Rules.QueryRendering
import ServiceLevel.Proofs.Rules.Selection

/-!
# The structure of generated expressions

The expressions of rules are put together from texts that are well structured on their
own: numbers, durations and names have no brackets and no quotes, filters quote the values
of labels, and the queries of an accepted objective are well structured for every window.
So the brackets of every rule of an accepted objective nest, and its strings end.

The names of labels are written as they are, and only metadata rules have them all.  These
rules are well structured exactly if the labels are, in the two ways they are written.
-/

namespace ServiceLevel

open Query

/-! ## Parts of expressions -/

theorem Query.isPlain_of_isMetricChar
    {c : Char}
    (isMetric : Selector.isMetricChar c) :
    isPlain c := by
  have marks : isPlain '_' ∧ isPlain ':' := by decide
  rw [Selector.isMetricChar, Bool.or_eq_true, Bool.or_eq_true] at isMetric
  rcases isMetric with (alphanum | isLine) | isColon
  · exact isPlain_of_isAlphanum alphanum
  · rw [of_decide_eq_true isLine]
    exact marks.1
  · rw [of_decide_eq_true isColon]
    exact marks.2

theorem Query.isPlain_of_isNumberChar
    {c : Char}
    (isNumber : Decimal.isNumberChar c) :
    isPlain c := by
  have marks : isPlain '.' ∧ isPlain '+' ∧ isPlain '-' := by decide
  rw [Decimal.isNumberChar, Bool.or_eq_true, Bool.or_eq_true, Bool.or_eq_true]
    at isNumber
  rcases isNumber with ((alphanum | isPoint) | isPlus) | isMinus
  · exact isPlain_of_isAlphanum alphanum
  · rw [of_decide_eq_true isPoint]
    exact marks.1
  · rw [of_decide_eq_true isPlus]
    exact marks.2.1
  · rw [of_decide_eq_true isMinus]
    exact marks.2.2

theorem Naming.closed_errorRatio
    {window : Duration}
    {metric : String}
    (named : errorRatio window = .ok metric) :
    Closed metric.toList := by
  apply closed_of_plain
  intro c member
  exact isPlain_of_isMetricChar (isMetric_errorRatio named c member)

theorem Quantity.closed_conciseBinary64 (value : Binary64) :
    Closed (conciseBinary64 value).toList := by
  apply closed_of_plain
  intro c member
  exact isPlain_of_isNumberChar (ofNumberChars_conciseBinary64 value c member)

theorem Quantity.closed_concise
    {quantity : Quantity}
    {text : String}
    (written : quantity.concise = .ok text) :
    Closed text.toList := by
  rcases Attempt.bind_eq_ok_iff.mp written with ⟨value, _, same⟩
  cases same
  exact closed_conciseBinary64 value

theorem Naming.hasClosedNames_identity (slo : Slo) :
    HasClosedNames (identity slo) := by
  have ofNames : ∀ name ∈ [idLabel, nameLabel, serviceLabel], Closed name.toList := by
    decide
  exact ofNames

theorem Naming.closed_identityFilter
    {slo : Slo}
    {filter : String}
    (written : (identity slo).filterText = .ok filter) :
    Closed filter.toList :=
  closed_filterText written (hasClosedNames_identity slo)

/-! ## Error ratios -/

namespace ErrorRatio

theorem closed_ratioChars
    {error total : List Char}
    (isError : Closed error)
    (isTotal : Closed total) :
    Closed (ratioChars error total) := by
  have opening : Leads [] ['('] ['('] := by decide
  have between : Leads ['('] ['('] [')', '\n', '/', '\n', '('] := by decide
  have closing : Leads ['('] [] [')', '\n'] := by decide
  have ratio :
      ratioChars error total =
        ['('] ++ error ++ [')', '\n', '/', '\n', '('] ++ total ++ [')', '\n'] := by
    simp [ratioChars]
  rw [ratio]
  exact
    (((opening.append (isError.within _)).append between).append
      (isTotal.within _)).append closing

/-- The rule of a sound indicator is well structured for every window that has one. -/
theorem closed_plainRule
    {slo : Slo}
    {window : Duration}
    {rule : Rule}
    (sound : Slo.SoundIndicator slo.indicator)
    (made : plainRule slo window = .ok rule) :
    Closed rule.expression.toList := by
  cases isIndicator : slo.indicator with
  | mk raw events =>
      rw [isIndicator] at sound
      cases sound with
      | events isError isTotal =>
          rcases expression_of_events isIndicator isError isTotal made with
            ⟨text, written, same⟩
          have isWord := Duration.isWord_of_prometheus written
          rw [same]
          exact
            closed_ratioChars (isError.structured _ isWord)
              (isTotal.structured _ isWord)
      | raw sound =>
          rcases expression_of_raw isIndicator made with ⟨text, written, same⟩
          have isWord := Duration.isWord_of_prometheus written
          have opening : Leads [] ['('] ['('] := by decide
          have closing : Leads ['('] [] [')'] := by decide
          have inside := (sound.structured _ isWord).within ['(']
          rw [same]
          exact opening.append (inside.append closing)

/-- A function of a metric over a window. -/
theorem closed_overTime
    {function metric filter window : String}
    (opens : Leads [] ['('] function.toList)
    (isMetric : Closed metric.toList)
    (isFilter : Closed filter.toList)
    (isWindow : Closed window.toList) :
    Closed
      (function ++ (metric ++ (filter ++ ("[" ++ (window ++ "])\n"))))).toList := by
  have range : Leads ['('] ['[', '('] "[".toList := by decide
  have ends : Leads ['[', '('] [] "])\n".toList := by decide
  apply opens.append_text
  apply (isMetric.within _).append_text
  apply (isFilter.within _).append_text
  apply range.append_text
  exact (isWindow.within _).append_text ends

theorem closed_averageExpression
    {metric filter window : String}
    (isMetric : Closed metric.toList)
    (isFilter : Closed filter.toList)
    (isWindow : Closed window.toList) :
    Closed (averageExpression metric filter window).toList := by
  have sum : Leads [] ['('] "sum_over_time(".toList := by decide
  have ignoring :
      Closed ("/ ignoring (" ++ (Naming.windowLabel ++ ")\n")).toList := by
    decide
  have count : Leads [] ['('] "count_over_time(".toList := by decide
  have asParts :
      averageExpression metric filter window =
        "sum_over_time(" ++ (metric ++ (filter ++ ("[" ++ (window ++ "])\n")))) ++
          ("/ ignoring (" ++ (Naming.windowLabel ++ ")\n") ++
            ("count_over_time(" ++
              (metric ++ (filter ++ ("[" ++ (window ++ "])\n")))))) := by
    unfold averageExpression
    simp only [String.append_assoc]
  rw [asParts]
  apply (closed_overTime sum isMetric isFilter isWindow).append_text
  apply ignoring.append_text
  exact closed_overTime count isMetric isFilter isWindow

/-- Plain or optimized, error ratios are well structured. -/
theorem closed_of_rules
    {optimized : Bool}
    {slo : Slo}
    {alerts : BurnAlerts}
    {made : List Rule}
    (sound : Slo.SoundIndicator slo.indicator)
    (isMade : rules optimized slo alerts = .ok made) :
    ∀ rule ∈ made, Closed rule.expression.toList := by
  intro rule member
  rcases Attempt.exists_left_of_forall₂ (rulesOf_eq_ok_iff.mp isMade) member with
    ⟨window, _, isRule⟩
  cases optimized with
  | false => exact closed_plainRule sound isRule
  | true =>
      simp only [if_true, optimizedRule] at isRule
      split at isRule
      · rcases averageRule_eq_ok isRule with
          ⟨_, metric, filter, text, named, filtered, written, same⟩
        have isText : Closed text.toList := by
          apply closed_of_plain
          intro c isChar
          exact
            isPlain_of_isAlphanum (Duration.isAlphanum_of_prometheus written c isChar)
        rw [same]
        exact
          closed_averageExpression (Naming.closed_errorRatio named)
            (Naming.closed_identityFilter filtered) isText
      · exact closed_plainRule sound isRule

end ErrorRatio

/-! ## Metadata -/

/--
A label map that is well structured where it is written: as a filter, and as a grouping
by its names in front of this filter.
-/
def Labels.WellStructured (labels : Labels) : Prop :=
  ∃ filter,
    labels.filterText = .ok filter ∧
      checkStructure filter = .ok () ∧
      checkStructure ("(" ++ labels.groupText ++ ")" ++ filter) = .ok ()

theorem Labels.wellStructured_iff
    {labels : Labels}
    {filter : String}
    (filtered : labels.filterText = .ok filter) :
    labels.WellStructured ↔
      Closed filter.toList ∧
        Closed ("(" ++ labels.groupText ++ ")" ++ filter).toList := by
  simp only [WellStructured, filtered, Except.ok.injEq, exists_eq_left',
    checkStructure_eq_ok_iff]

namespace Metadata

theorem closed_vector
    {opening text : String}
    (opens : Leads [] ['('] opening.toList)
    (isText : Closed text.toList) :
    Closed (opening ++ text ++ ")").toList := by
  have closing : Leads ['('] [] ")".toList := by decide
  exact (opens.append_text (isText.within _)).append_text closing

/-- Around the grouping and the filter behind it a burn rate adds only inert texts. -/
theorem closed_burnRateExpression_iff
    {metric filter grouping : String}
    (isMetric : Closed metric.toList)
    (isFilter : Closed filter.toList) :
    Closed (burnRateExpression metric filter grouping).toList ↔
      Closed ("(" ++ grouping ++ ")" ++ filter).toList := by
  have division : Closed ("\n" ++ "/ on").toList := by decide
  have joining :
      (" group_left\n" ++ Naming.errorBudgetMetric).toList.all isInert := by
    decide
  have lineEnd : "\n".toList.all isInert := by decide
  have front : Closed (metric ++ filter ++ ("\n" ++ "/ on")).toList :=
    (isMetric.append_text isFilter).append_text division
  have asParts :
      (burnRateExpression metric filter grouping).toList =
        (metric ++ filter ++ ("\n" ++ "/ on")).toList ++
          ((("(" ++ grouping).toList ++ [')'] ++
            (" group_left\n" ++ Naming.errorBudgetMetric).toList) ++
            filter.toList ++ "\n".toList) := by
    unfold burnRateExpression
    simp [String.toList_append]
  have parts :
      ("(" ++ grouping ++ ")" ++ filter).toList =
        ("(" ++ grouping).toList ++ [')'] ++ filter.toList := by
    simp [String.toList_append]
  rw [asParts, front.append_iff,
    closed_append_inert_iff (List.all_eq_true.mp lineEnd), parts,
    closed_inert_append_iff (by decide) (List.all_eq_true.mp joining)]

/-- The metadata rules are well structured exactly if the labels of the objective are. -/
theorem closed_rules_iff
    {origin : Origin}
    {slo : Slo}
    {alerts : BurnAlerts}
    {made : List Rule}
    (isMade : rules origin slo alerts = .ok made) :
    (∀ rule ∈ made, Closed rule.expression.toList) ↔
      (labels slo).WellStructured := by
  rcases rules_eq_ok_iff.mp isMade with
    ⟨ratio, filter, current, period, objective, _, filtered, isCurrent, isPeriod, _,
      rfl⟩
  have isRatio := Quantity.closed_conciseBinary64 ratio
  have isDays := Quantity.closed_conciseBinary64 slo.period.days
  have vector : Leads [] ['('] "vector(".toList := by decide
  have remainder : Leads [] ['('] "vector(1-".toList := by decide
  have difference : Closed ("1 - " ++ Naming.periodBurnRateMetric).toList := by
    decide
  have info : Closed "vector(1)".toList := by decide
  have remaining :
      Closed ("1 - " ++ Naming.periodBurnRateMetric ++ filter).toList ↔
        Closed filter.toList := by
    rw [String.toList_append]
    exact difference.append_iff
  rw [Labels.wellStructured_iff filtered]
  simp only [contents, List.forall_mem_cons, remaining]
  constructor
  · rintro ⟨_, _, _, isBurnRate, _, isFilter, _⟩
    exact
      ⟨isFilter,
        (closed_burnRateExpression_iff (Naming.closed_errorRatio isCurrent)
          isFilter).mp isBurnRate⟩
  · rintro ⟨isFilter, isGrouping⟩
    refine
      ⟨closed_vector vector isRatio, closed_vector remainder isRatio,
        closed_vector vector isDays, ?_, ?_, isFilter, info, ?_⟩
    · exact
        (closed_burnRateExpression_iff (Naming.closed_errorRatio isCurrent)
          isFilter).mpr isGrouping
    · exact
        (closed_burnRateExpression_iff (Naming.closed_errorRatio isPeriod)
          isFilter).mpr isGrouping
    · intro rule impossible
      cases impossible

/-- The names of labels are all that can spoil the metadata rules. -/
theorem wellStructured_labels
    {origin : Origin}
    {slo : Slo}
    {alerts : BurnAlerts}
    {made : List Rule}
    (isMade : rules origin slo alerts = .ok made)
    (closedNames : HasClosedNames slo.labels) :
    (labels slo).WellStructured := by
  rcases rules_eq_ok_iff.mp isMade with ⟨_, filter, _, _, _, _, filtered, _⟩
  have allClosed : HasClosedNames (labels slo) :=
    (Naming.hasClosedNames_identity slo).merge closedNames
  have isFilter : Closed filter.toList := closed_filterText filtered allClosed
  have isGrouping : Closed (labels slo).groupText.toList :=
    closed_groupText allClosed
  have opening : Leads [] ['('] "(".toList := by decide
  have grouping := closed_vector opening isGrouping
  exact (Labels.wellStructured_iff filtered).mpr ⟨isFilter, grouping.append_text isFilter⟩

end Metadata

/-! ## Alerts -/

namespace Alerting

section Condition

variable {filter factor budget : String}

theorem closed_comparison
    {metric : String}
    (isMetric : Closed metric.toList)
    (isFilter : Closed filter.toList)
    (isFactor : Closed factor.toList)
    (isBudget : Closed budget.toList) :
    Closed (comparison metric filter factor budget).toList := by
  have maximum : Leads [] ['('] "    max(".toList := by decide
  have exceeds : Leads ['('] ['(', '('] " > (".toList := by decide
  have times : Closed " * ".toList := by decide
  have without :
      Leads ['(', '('] []
        (")) without (" ++ (Naming.windowLabel ++ ")\n")).toList := by
    decide
  have asParts :
      comparison metric filter factor budget =
        "    max(" ++ (metric ++ (filter ++ (" > (" ++ (factor ++ (" * " ++
          (budget ++ (")) without (" ++ (Naming.windowLabel ++ ")\n")))))))) := by
    unfold comparison
    simp only [String.append_assoc]
  rw [asParts]
  apply maximum.append_text
  apply (isMetric.within _).append_text
  apply (isFilter.within _).append_text
  apply exceeds.append_text
  apply (isFactor.within _).append_text
  apply (times.within _).append_text
  exact (isBudget.within _).append_text without

theorem closed_condition
    {shortMetric longMetric : String}
    (isShort : Closed shortMetric.toList)
    (isLong : Closed longMetric.toList)
    (isFilter : Closed filter.toList)
    (isFactor : Closed factor.toList)
    (isBudget : Closed budget.toList) :
    Closed (condition shortMetric longMetric filter factor budget).toList := by
  have opening : Leads [] ['('] "(\n".toList := by decide
  have between : Closed "    and\n".toList := by decide
  have closing : Leads ['('] [] ")\n".toList := by decide
  have short := closed_comparison isShort isFilter isFactor isBudget
  have long := closed_comparison isLong isFilter isFactor isBudget
  unfold condition
  simp only [String.append_assoc]
  apply opening.append_text
  apply (short.within _).append_text
  apply (between.within _).append_text
  exact (long.within _).append_text closing

end Condition

theorem closed_of_rule
    {slo : Slo}
    {settings : AlertSettings}
    {quick slow : BurnAlert}
    {made : Rule}
    (isRule : rule slo settings quick slow = .ok made) :
    Closed made.expression.toList := by
  rcases rule_eq_ok_iff.mp isRule with
    ⟨filter, budget, quickShort, quickFactor, quickLong, slowShort, slowFactor,
      slowLong, filtered, _, isQuickShort, isQuickFactor, isQuickLong, isSlowShort,
      isSlowFactor, isSlowLong, rfl⟩
  have isFilter := Naming.closed_identityFilter filtered
  have isBudget := Quantity.closed_conciseBinary64 budget
  have alternative : Closed "or\n".toList := by decide
  have quickCondition :=
    closed_condition (Naming.closed_errorRatio isQuickShort)
      (Naming.closed_errorRatio isQuickLong) isFilter
      (Quantity.closed_concise isQuickFactor) isBudget
  have slowCondition :=
    closed_condition (Naming.closed_errorRatio isSlowShort)
      (Naming.closed_errorRatio isSlowLong) isFilter
      (Quantity.closed_concise isSlowFactor) isBudget
  exact (quickCondition.append_text alternative).append_text slowCondition

theorem closed_of_rules
    {slo : Slo}
    {alerts : BurnAlerts}
    {made : List Rule}
    (isMade : rules slo alerts = .ok made) :
    ∀ rule ∈ made, Closed rule.expression.toList := by
  intro rule member
  rcases Attempt.exists_left_of_forall₂ (forall₂_of_rules isMade) member with
    ⟨alertClass, _, isRule⟩
  exact closed_of_rule isRule

end Alerting

/-! ## Runs of generating steps -/

/-- The rules of a group are well structured. -/
def RuleGroup.WellStructured (group : RuleGroup) : Prop :=
  ∀ rule ∈ group.rules, Query.checkStructure rule.expression = .ok ()

/-- The rules of all groups are well structured. -/
def RuleSet.WellStructured (rules : RuleSet) : Prop :=
  ∀ group ∈ rules.allGroups, group.WellStructured

theorem RuleSet.wellStructured_iff {rules : RuleSet} :
    rules.WellStructured ↔
      rules.errorRatio.WellStructured ∧
        rules.metadata.WellStructured ∧
        rules.alerts.WellStructured ∧
        ∀ group ∈ rules.extra, group.WellStructured := by
  rw [WellStructured, allGroups, List.forall_mem_append]
  simp only [List.forall_mem_cons, List.not_mem_nil, false_implies,
    implies_true, and_true, and_assoc]

theorem RuleGroup.wellStructured_iff {group : RuleGroup} :
    group.WellStructured ↔ ∀ rule ∈ group.rules, Closed rule.expression.toList := by
  simp only [WellStructured, checkStructure_eq_ok_iff]

/--
What generating steps leave of an objective: the objective itself, well structured error
ratios and alerts, and its metadata rules if one of the steps makes them.
-/
structure Progress.Extends
    (origin : Origin)
    (alerts : BurnAlerts)
    (withMetadata : Prop)
    (before after : Progress) : Prop where
  slo : after.slo = before.slo
  errorRatios :
    before.rules.errorRatio.WellStructured → after.rules.errorRatio.WellStructured
  alertRules : before.rules.alerts.WellStructured → after.rules.alerts.WellStructured
  extra : after.rules.extra = before.rules.extra
  metadata :
    withMetadata →
      Metadata.rules origin before.slo alerts = .ok after.rules.metadata.rules
  untouched : ¬ withMetadata → after.rules.metadata = before.rules.metadata

namespace Progress.Extends

variable {origin : Origin} {alerts : BurnAlerts}

theorem refl (progress : Progress) : Progress.Extends origin alerts False progress progress where
  slo := rfl
  errorRatios := id
  alertRules := id
  extra := rfl
  metadata := False.elim
  untouched _ := rfl

theorem trans
    {first second : Prop}
    {before middle after : Progress}
    (left : Progress.Extends origin alerts first before middle)
    (right : Progress.Extends origin alerts second middle after) :
    Progress.Extends origin alerts (first ∨ second) before after where
  slo := right.slo.trans left.slo
  errorRatios := right.errorRatios ∘ left.errorRatios
  alertRules := right.alertRules ∘ left.alertRules
  extra := right.extra.trans left.extra
  metadata := by
    intro made
    by_cases isSecond : second
    · rw [← left.slo]
      exact right.metadata isSecond
    · rw [right.untouched isSecond]
      exact left.metadata (made.resolve_right isSecond)
  untouched := by
    intro notMade
    rw [right.untouched (notMade ∘ Or.inr), left.untouched (notMade ∘ Or.inl)]

/-- Only the names of labels can spoil rules, and only those of the metadata. -/
theorem wellStructured_iff
    {withMetadata : Prop}
    {before after : Progress}
    (extension : Progress.Extends origin alerts withMetadata before after)
    (structured : before.rules.WellStructured) :
    after.rules.WellStructured ↔
      (withMetadata → (Metadata.labels before.slo).WellStructured) := by
  have ⟨isRatios, isMetadata, isAlerts, isExtra⟩ :=
    RuleSet.wellStructured_iff.mp structured
  have onlyMetadata :
      after.rules.WellStructured ↔ after.rules.metadata.WellStructured := by
    rw [RuleSet.wellStructured_iff, extension.extra]
    constructor
    · rintro ⟨_, isMade, _⟩
      exact isMade
    · intro isMade
      exact ⟨extension.errorRatios isRatios, isMade, extension.alertRules isAlerts, isExtra⟩
  rw [onlyMetadata]
  by_cases made : withMetadata
  · rw [RuleGroup.wellStructured_iff, Metadata.closed_rules_iff (extension.metadata made)]
    simp only [made, true_implies]
  · rw [extension.untouched made]
    simp only [made, false_implies, isMetadata]

end Progress.Extends

namespace Processor

/-- The steps that make the error ratios, the metadata and the alerts of an objective. -/
inductive Generates : Processor → Prop
  | errorRatio (settings : ErrorRatioSettings) : Generates (.errorRatio settings)
  | metadata : Generates .metadata
  | alerts : Generates .alerts

theorem Generates.progress_extends
    {processor : Processor}
    {origin : Origin}
    {alerts : BurnAlerts}
    {before after : Progress}
    (generates : processor.Generates)
    (sound : Slo.SoundIndicator before.slo.indicator)
    (passed : processor.run origin alerts before = (after, none)) :
    Progress.Extends origin alerts (processor = .metadata) before after := by
  cases generates with
  | errorRatio settings =>
      rw [run, replacing_eq_iff] at passed
      rcases passed with ⟨made, isMade, rfl⟩
      have closed := ErrorRatio.closed_of_rules sound isMade
      exact
        { slo := rfl
          errorRatios := fun _ => RuleGroup.wellStructured_iff.mpr closed
          alertRules := id
          extra := rfl
          metadata := Processor.noConfusion
          untouched := fun _ => rfl }
  | metadata =>
      rw [run, replacing_eq_iff] at passed
      rcases passed with ⟨made, isMade, rfl⟩
      exact
        { slo := rfl
          errorRatios := id
          alertRules := id
          extra := rfl
          metadata := fun _ => isMade
          untouched := fun notMade => absurd rfl notMade }
  | alerts =>
      rw [run, replacing_eq_iff] at passed
      rcases passed with ⟨made, isMade, rfl⟩
      have closed := Alerting.closed_of_rules isMade
      exact
        { slo := rfl
          errorRatios := id
          alertRules := fun _ => RuleGroup.wellStructured_iff.mpr closed
          extra := rfl
          metadata := Processor.noConfusion
          untouched := fun _ => rfl }

/-- The rules that one step makes for an accepted objective are well structured. -/
theorem Generates.wellStructured
    {accepts : String → Bool}
    {processor : Processor}
    {origin : Origin}
    {alerts : BurnAlerts}
    {before after : Progress}
    (generates : processor.Generates)
    (accepted : before.slo.Accepted (.promql accepts))
    (passed : processor.run origin alerts before = (after, none))
    (structured : before.rules.WellStructured) :
    after.slo = before.slo ∧ after.rules.WellStructured := by
  have extension := generates.progress_extends accepted.soundIndicator passed
  refine ⟨extension.slo, (extension.wellStructured_iff structured).mpr ?_⟩
  intro made
  exact Metadata.wellStructured_labels (extension.metadata made) accepted.hasClosedNames

end Processor

/--
The expressions of an objective that Prometheus accepts are well structured: those of all
rules that any of the generating steps makes, one after another, and the error ratio of
any window.
-/
theorem Passes.checkStructure_eq_ok
    {accepts : String → Bool}
    {origin : Origin}
    {alerts : BurnAlerts}
    {steps : List NamedProcessor}
    {start stop : Progress}
    (valid : start.slo.validate (.promql accepts) = .ok ())
    (generates : ∀ step ∈ steps, step.processor.Generates)
    (passes : Passes origin alerts steps start stop)
    (structured : start.rules.WellStructured) :
    stop.rules.WellStructured ∧
      ∀ window rule,
        ErrorRatio.plainRule start.slo window = .ok rule →
          Query.checkStructure rule.expression = .ok () := by
  have accepted := Slo.validate_eq_ok_iff.mp valid
  have kept : stop.slo = start.slo ∧ stop.rules.WellStructured := by
    apply
      passes.preserves fun progress =>
        progress.slo = start.slo ∧ progress.rules.WellStructured
    · rintro step member before after passed ⟨same, wellStructured⟩
      rw [← same] at accepted ⊢
      exact (generates step member).wellStructured accepted passed wellStructured
    · exact ⟨rfl, structured⟩
  refine ⟨kept.2, ?_⟩
  intro window rule made
  exact
    checkStructure_eq_ok_iff.mpr
      (ErrorRatio.closed_plainRule accepted.soundIndicator made)

theorem Passes.checkStructure_eq_ok_of_quoted_brackets :
    ∃ (start stop : Progress) (steps : List NamedProcessor),
      start.slo.labels = Labels.ofTexts [("team", "\"(\\\n\x7d")] ∧
        start.slo.validate .prometheus = .ok () ∧
        Passes {} Alerting.sameAlerts steps start stop ∧
        (stop.rules.allGroups.map fun group => group.rules.length) = [3, 7, 1] ∧
        stop.rules.WellStructured ∧
        ∃ rule,
          ErrorRatio.plainRule start.slo ⟨7000000⟩ = .ok rule ∧
            Query.checkStructure rule.expression = .ok () := by
  let start : Progress :=
    { slo := Alerting.labelledSlo (Labels.ofTexts [("team", "\"(\\\n\x7d")]) }
  let steps : List NamedProcessor :=
    [⟨"ratios", .errorRatio ⟨true⟩⟩, ⟨"metadata", .metadata⟩, ⟨"alerts", .alerts⟩]
  have valid : start.slo.validate .prometheus = .ok () := by decide +kernel
  have passed :
      (runSteps {} Alerting.sameAlerts steps start).2.isNone = true := by
    decide +kernel
  have passes :
      Passes {} Alerting.sameAlerts steps start
        (runSteps {} Alerting.sameAlerts steps start).1 := by
    apply runSteps_eq_none_iff.mp
    rw [← Option.isNone_iff_eq_none.mp passed]
  have counts :
      ((runSteps {} Alerting.sameAlerts steps start).1.rules.allGroups.map
          fun group => group.rules.length) = [3, 7, 1] := by
    decide +kernel
  have generates : ∀ step ∈ steps, step.processor.Generates := by
    simp only [steps, List.forall_mem_cons]
    refine ⟨.errorRatio _, .metadata, .alerts, ?_⟩
    intro step impossible
    cases impossible
  have structured : start.rules.WellStructured := by
    rw [RuleSet.wellStructured_iff]
    simp [start, RuleGroup.WellStructured]
  have made :
      (ErrorRatio.plainRule start.slo ⟨7000000⟩).isOk = true := by
    decide +kernel
  rcases Attempt.exists_of_isOk made with ⟨rule, isRule⟩
  have checked := Passes.checkStructure_eq_ok valid generates passes structured
  exact
    ⟨start, _, steps, rfl, valid, passes, counts, checked.1, rule, isRule,
      checked.2 _ rule isRule⟩

end ServiceLevel
