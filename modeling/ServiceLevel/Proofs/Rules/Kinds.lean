import ServiceLevel.Processor.Basic
import ServiceLevel.Proofs.Rules.Contents
import ServiceLevel.Proofs.Rules.Correction
import ServiceLevel.Proofs.Rules.QueryRendering
import ServiceLevel.Proofs.Rules.Selection

/-!
# Kinds of rules

A rule passes its own check if it is a recording or an alert: it has the name of its
kind, not that of the other, and an expression.  All that make rules make them of one
kind.  Their expressions begin with a text of their own, so that these are not empty
whatever is inserted; only the total amount of events has the expression of its query,
which is not empty and stays so when a window is inserted.
-/

namespace ServiceLevel

namespace Rule

/-- A rule that records a metric and does not alert. -/
structure Recording (rule : Rule) : Prop where
  record : rule.record ≠ ""
  alert : rule.alert = .text ""
  expression : rule.expression ≠ ""

/-- A rule that alerts and does not record a metric. -/
structure Alerting (rule : Rule) : Prop where
  record : rule.record = ""
  alert : rule.alert.isGiven = true
  expression : rule.expression ≠ ""

theorem Recording.validate
    {rule : Rule}
    (recording : rule.Recording) :
    rule.validate = .ok () := by
  have notEmpty := recording.record
  have hasExpression := recording.expression
  rw [← String.isEmpty_eq_false_iff] at notEmpty hasExpression
  have noAlert : rule.alert.isGiven = false := by
    rw [recording.alert]
    rfl
  rw [Rule.validate, isRecording, notEmpty, noAlert, hasExpression]
  rfl

theorem Alerting.validate
    {rule : Rule}
    (alerting : rule.Alerting) :
    rule.validate = .ok () := by
  have hasExpression := alerting.expression
  rw [← String.isEmpty_eq_false_iff] at hasExpression
  rw [Rule.validate, isRecording, alerting.record, alerting.alert, hasExpression]
  rfl

/-- The labels of a rule have no part in its kind. -/
theorem Recording.relabelled
    {rule : Rule}
    (recording : rule.Recording)
    (labels : Labels) :
    Recording { rule with labels } :=
  ⟨recording.record, recording.alert, recording.expression⟩

end Rule

/-- A set with recordings in all groups but that of the alerts. -/
structure RuleSet.SortedByKind (rules : RuleSet) : Prop where
  errorRatio : ∀ rule ∈ rules.errorRatio.rules, rule.Recording
  metadata : ∀ rule ∈ rules.metadata.rules, rule.Recording
  alerts : ∀ rule ∈ rules.alerts.rules, rule.Alerting
  extra : ∀ group ∈ rules.extra, ∀ rule ∈ group.rules, rule.Recording

theorem RuleSet.SortedByKind.validate
    {rules : RuleSet}
    (sorted : rules.SortedByKind) :
    ∀ group ∈ rules.allGroups, ∀ rule ∈ group.rules, rule.validate = .ok () := by
  intro group isGroup rule isRule
  rw [allGroups, List.mem_append] at isGroup
  simp only [List.mem_cons, List.not_mem_nil, or_false] at isGroup
  rcases isGroup with (rfl | rfl | rfl) | isExtra
  · exact (sorted.errorRatio rule isRule).validate
  · exact (sorted.metadata rule isRule).validate
  · exact (sorted.alerts rule isRule).validate
  · exact (sorted.extra group isExtra rule isRule).validate

/-! ## Texts that are not empty -/

theorem append_ne_empty
    {first : String}
    (notEmpty : first ≠ "")
    (behind : String) :
    first ++ behind ≠ "" := by
  intro empty
  exact notEmpty (String.append_eq_empty_iff.mp empty).1

/-- A text that begins with no opening brace keeps its first character when it is rendered. -/
theorem Template.ne_empty_of_render
    {title text rendered : String}
    {data : Entries String}
    {c : Char}
    {rest : List Char}
    (chars : text.toList = c :: rest)
    (notOpening : c ≠ '\x7b')
    (made : render title data text = .ok rendered) :
    rendered ≠ "" := by
  rw [render_eq_ok_iff_renderChars, chars, renderChars] at made
  intro empty
  split at made
  · rw [split_cons notOpening] at made
    rcases Attempt.map_eq_ok_iff.mp made with ⟨filled, _, same⟩
    rw [empty] at same
    cases same
  · cases made

theorem Naming.errorRatio_ne_empty
    {window : Duration}
    {metric : String}
    (named : errorRatio window = .ok metric) :
    metric ≠ "" := by
  rcases Attempt.bind_eq_ok_iff.mp named with ⟨text, _, same⟩
  cases same
  exact append_ne_empty (by decide) text

/-! ## Recordings -/

namespace ErrorRatio

theorem recording_of_windowRule
    {slo : Slo}
    {window : Duration}
    {expression : String}
    {rule : Rule}
    (notEmpty : expression ≠ "")
    (made : windowRule slo window expression = .ok rule) :
    rule.Recording := by
  rcases Attempt.bind_eq_ok_iff.mp made with ⟨record, named, afterRecord⟩
  rcases Attempt.bind_eq_ok_iff.mp afterRecord with ⟨text, _, same⟩
  cases same
  exact ⟨Naming.errorRatio_ne_empty named, rfl, notEmpty⟩

theorem exists_toList_of_queryTemplate
    {indicator : Indicator}
    {template : String}
    (isTemplate : queryTemplate indicator = .ok template) :
    ∃ rest, template.toList = '(' :: rest := by
  have opening : "(".toList = ['('] := by decide
  rw [queryTemplate] at isTemplate
  split at isTemplate
  · rename_i events _
    cases isTemplate
    exact ⟨_, toList_ratio events.error events.total⟩
  · cases isTemplate
    simp only [String.toList_append, opening, List.cons_append]
    exact ⟨_, rfl⟩
  · cases isTemplate

theorem recording_of_plainRule
    {slo : Slo}
    {window : Duration}
    {rule : Rule}
    (made : plainRule slo window = .ok rule) :
    rule.Recording := by
  rcases plainRule_eq_ok_iff.mp made with
    ⟨template, text, expression, isTemplate, _, rendered, recorded⟩
  rcases exists_toList_of_queryTemplate isTemplate with ⟨rest, chars⟩
  exact
    recording_of_windowRule
      (Template.ne_empty_of_render chars (by decide) rendered) recorded

theorem averageExpression_ne_empty (metric filter window : String) :
    averageExpression metric filter window ≠ "" := by
  unfold averageExpression
  simp only [String.append_assoc]
  exact append_ne_empty (by decide) _

theorem recording_of_averageRule
    {slo : Slo}
    {window shortWindow : Duration}
    {rule : Rule}
    (made : averageRule slo window shortWindow = .ok rule) :
    rule.Recording := by
  rcases exists_of_averageRule made with ⟨metric, filter, text, _, _, _, recorded⟩
  exact
    recording_of_windowRule (averageExpression_ne_empty metric filter text) recorded

theorem recording_of_rules
    {optimized : Bool}
    {slo : Slo}
    {alerts : BurnAlerts}
    {recordings : List Rule}
    (made : rules optimized slo alerts = .ok recordings) :
    ∀ rule ∈ recordings, rule.Recording := by
  intro rule member
  rcases Attempt.exists_left_of_forall₂ (rulesOf_eq_ok_iff.mp made) member with
    ⟨window, _, recorded⟩
  cases optimized with
  | false => exact recording_of_plainRule recorded
  | true =>
      simp only [if_true, optimizedRule] at recorded
      split at recorded
      · exact recording_of_averageRule recorded
      · exact recording_of_plainRule recorded

end ErrorRatio

namespace Corrected

theorem exists_toList_of_template (events : EventQueries) :
    ∃ rest, (template events).toList = '(' :: rest := by
  have opening : "(\n".toList = ['(', '\n'] := by decide
  unfold template
  simp only [String.append_assoc, String.toList_append, opening, List.cons_append]
  exact ⟨_, rfl⟩

theorem recording_of_ratioRule
    {slo : Slo}
    {events : EventQueries}
    {window : Duration}
    {rule : Rule}
    (made : ratioRule slo events window = .ok rule) :
    rule.Recording := by
  rcases exists_of_ratioRule made with ⟨data, expression, rendered, recorded⟩
  rcases exists_toList_of_template events with ⟨rest, chars⟩
  exact
    ErrorRatio.recording_of_windowRule
      (Template.ne_empty_of_render chars (by decide) rendered) recorded

theorem recording_of_weightRule
    {slo : Slo}
    {events : EventQueries}
    {window : Duration}
    {rule : Rule}
    (made : weightRule slo events window = .ok rule) :
    rule.Recording := by
  rcases exists_of_weightRule made with ⟨text, share, whole, _, _, _, rfl⟩
  have notEmpty : "(" ++ share ++ ")/(" ++ whole ++ ")" ≠ "" := by
    simp only [String.append_assoc]
    exact append_ne_empty (by decide) _
  exact ⟨append_ne_empty (by decide) text, rfl, notEmpty⟩

end Corrected

namespace TotalAmount

theorem recording_of_amountRule
    {slo : Slo}
    {total : String}
    {window : Duration}
    {rule : Rule}
    (notEmpty : total ≠ "")
    (made : amountRule slo total window = .ok rule) :
    rule.Recording := by
  rcases Attempt.bind_eq_ok_iff.mp made with ⟨text, written, afterText⟩
  rcases Attempt.bind_eq_ok_iff.mp afterText with ⟨expression, rendered, same⟩
  have someValue := (Duration.isWord_of_prometheus written).nonempty
  have someText : total.toList ≠ [] := by
    intro empty
    exact notEmpty (String.toList_eq_nil_iff.mp empty)
  have someExpression : expression ≠ "" := by
    intro empty
    have same := (Template.render_eq_ok_iff.mp rendered).2
    rw [empty] at same
    exact Template.substitute_split_ne_nil someText someValue same.symm
  cases same
  exact ⟨append_ne_empty (by decide) text, rfl, someExpression⟩

theorem query_ne_empty
    {slo : Slo}
    {total : String}
    (isQuery : query slo = .ok total) :
    total ≠ "" := by
  simp only [query] at isQuery
  split at isQuery
  · cases isQuery
  · split at isQuery
    · cases isQuery
    · rename_i someTotal
      cases isQuery
      intro empty
      exact someTotal (String.isEmpty_iff.mpr empty)

theorem recording_of_group
    {slo : Slo}
    {alerts : BurnAlerts}
    {made : RuleGroup}
    (isGroup : group slo alerts = .ok made) :
    ∀ rule ∈ made.rules, rule.Recording := by
  rcases Attempt.bind_eq_ok_iff.mp isGroup with ⟨total, isQuery, afterQuery⟩
  rcases Attempt.bind_eq_ok_iff.mp afterQuery with ⟨amounts, walked, same⟩
  rw [Corrected.forWindows_eq_mapM, Attempt.mapM_eq_ok_iff] at walked
  cases same
  intro rule member
  rcases Attempt.exists_left_of_forall₂ walked member with ⟨window, _, amount⟩
  exact recording_of_amountRule (query_ne_empty isQuery) amount

end TotalAmount

namespace Metadata

theorem vector_ne_empty (number : String) : "vector(" ++ number ++ ")" ≠ "" :=
  append_ne_empty (append_ne_empty (by decide) number) ")"

theorem burnRateExpression_ne_empty
    {metric : String}
    (notEmpty : metric ≠ "")
    (filter grouping : String) :
    burnRateExpression metric filter grouping ≠ "" := by
  unfold burnRateExpression
  simp only [String.append_assoc]
  exact append_ne_empty notEmpty _

theorem recording_of_rules
    {origin : Origin}
    {slo : Slo}
    {alerts : BurnAlerts}
    {made : List Rule}
    (areRules : rules origin slo alerts = .ok made) :
    ∀ rule ∈ made, rule.Recording := by
  rcases rules_eq_ok_iff.mp areRules with
    ⟨ratio, filter, current, period, objective, _, _, isCurrent, isPeriod, _, rfl⟩
  have someCurrent := Naming.errorRatio_ne_empty isCurrent
  have somePeriod := Naming.errorRatio_ne_empty isPeriod
  have someBudget : "vector(1-" ++ Quantity.conciseBinary64 ratio ++ ")" ≠ "" :=
    append_ne_empty (append_ne_empty (by decide) _) ")"
  have someRemainder : "1 - " ++ Naming.periodBurnRateMetric ++ filter ≠ "" :=
    append_ne_empty (by decide) filter
  have recorded
      {record expression : String}
      {labels : Labels}
      (someRecord : record ≠ "")
      (someExpression : expression ≠ "") :
      Rule.Recording { record, expression, labels } :=
    ⟨someRecord, rfl, someExpression⟩
  simp only [contents, List.forall_mem_cons]
  refine ⟨?_, ?_, ?_, ?_, ?_, ?_, ?_, ?_⟩
  · exact recorded (by decide) (vector_ne_empty _)
  · exact recorded (by decide) someBudget
  · exact recorded (by decide) (vector_ne_empty _)
  · exact recorded (by decide) (burnRateExpression_ne_empty someCurrent _ _)
  · exact recorded (by decide) (burnRateExpression_ne_empty somePeriod _ _)
  · exact recorded (by decide) someRemainder
  · exact recorded (by decide) (by decide)
  · intro rule impossible
    cases impossible

end Metadata

/-! ## Alerts -/

theorem BudgetAlert.alerting_of_rule
    {alert : BudgetAlert}
    {slo : Slo}
    {made : Rule}
    (named : alert.name.isGiven = true)
    (isRule : alert.rule slo = .ok made) :
    made.Alerting := by
  rcases Attempt.bind_eq_ok_iff.mp isRule with ⟨filter, _, same⟩
  have notEmpty :
      Naming.budgetRemainingMetric ++ filter ++ " <= " ++
          Quantity.conciseBinary64 alert.threshold ≠
        "" := by
    simp only [String.append_assoc]
    exact append_ne_empty (by decide) _
  cases same
  exact ⟨rfl, named, notEmpty⟩

namespace Alerting

theorem alerting_of_rule
    {slo : Slo}
    {settings : AlertSettings}
    {quick slow : BurnAlert}
    {made : Rule}
    (named : settings.name.isEmpty = false)
    (isRule : rule slo settings quick slow = .ok made) :
    made.Alerting := by
  rcases rule_eq_ok_iff.mp isRule with
    ⟨filter, budget, quickShort, quickFactor, quickLong, slowShort, slowFactor,
      slowLong, _, _, _, _, _, _, _, _, rfl⟩
  have isGiven : (Json.text settings.name).isGiven = true := by
    rw [Json.isGiven_text, named, Bool.not_false]
  refine ⟨rfl, isGiven, ?_⟩
  simp only [contents, condition, String.append_assoc]
  exact append_ne_empty (by decide) _

/-- An accepted objective names the classes of alerts that it enables. -/
theorem isEmpty_name_of_mem_enabledClasses
    {dialect : Dialect}
    {slo : Slo}
    {alerts : BurnAlerts}
    {alertClass : AlertClass}
    (accepted : slo.Accepted dialect)
    (member : alertClass ∈ enabledClasses slo alerts) :
    alertClass.1.name.isEmpty = false := by
  have ⟨isOne, isEnabled⟩ := List.mem_filter.mp member
  have enabled : alertClass.1.disabled = false := by
    rw [← Bool.not_eq_true']
    exact isEnabled
  simp only [List.mem_cons, List.not_mem_nil, or_false] at isOne
  rcases isOne with rfl | rfl
  · exact Slo.isEmpty_name_of_checkAlert accepted.pageAlert enabled
  · exact Slo.isEmpty_name_of_checkAlert accepted.ticketAlert enabled

theorem alerting_of_rules
    {dialect : Dialect}
    {slo : Slo}
    {alerts : BurnAlerts}
    {made : List Rule}
    (accepted : slo.Accepted dialect)
    (areRules : rules slo alerts = .ok made) :
    ∀ rule ∈ made, rule.Alerting := by
  intro rule member
  rcases Attempt.exists_left_of_forall₂ (forall₂_of_rules areRules) member with
    ⟨alertClass, isEnabled, isRule⟩
  exact
    alerting_of_rule (isEmpty_name_of_mem_enabledClasses accepted isEnabled) isRule

end Alerting

end ServiceLevel
