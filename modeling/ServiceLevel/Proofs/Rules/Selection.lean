import ServiceLevel.Slo.Validation
import ServiceLevel.Proofs.Rules.Contents
import ServiceLevel.Proofs.Rules.Recording

/-!
# What alerts select

The expression of an alert compares four error ratios, and the optimized recording
of the period averages one.  Both are scanned for their selectors, which name the
metrics of windows of the objective and filter by its identity labels.

The main statement says when these selectors find a series: exactly if the labels of
the objective give no identity label another value.  An objective whose labels do so
passes its validation, and none of its alerts can ever fire.
-/

namespace ServiceLevel

open Selector

/-! ## Expressions as lists of selectors -/

namespace Alerting

theorem notMem_conciseBinary64 (value : Binary64) :
    '\x7b' ∉ (Quantity.conciseBinary64 value).toList := by
  intro member
  cases Quantity.ofNumberChars_conciseBinary64 value _ member

theorem notMem_concise
    {quantity : Quantity}
    {text : String}
    (written : quantity.concise = .ok text) :
    '\x7b' ∉ text.toList := by
  obtain ⟨value, _, same⟩ := Attempt.bind_eq_ok_iff.mp written
  cases same
  exact notMem_conciseBinary64 value

section Condition

variable {filter factor budget : String}
  {pairs : List (String × String)}

/-- What stands behind the selector of a comparison holds none. -/
theorem separates_share
    (factorPlain : '\x7b' ∉ factor.toList)
    (budgetPlain : '\x7b' ∉ budget.toList) :
    Separates
      (" > (" ++ (factor ++ (" * " ++ (budget ++ (")) without (" ++
        (Naming.windowLabel ++ ")\n")))))) := by
  apply Separates.append (by decide)
  apply Separates.append factorPlain
  apply Separates.append (by decide)
  apply Separates.append budgetPlain
  decide

/-- A comparison selects the series of its metric and filter. -/
theorem scan_comparison
    {metric : String}
    (isMetric : IsMetric metric)
    (reads : Labels.ReadsAs filter pairs)
    (factorPlain : '\x7b' ∉ factor.toList)
    (budgetPlain : '\x7b' ∉ budget.toList)
    (name : List Char)
    (rest : String) :
    scan name (comparison metric filter factor budget ++ rest).toList =
      ⟨metric, pairs⟩ :: scan [] rest.toList := by
  have opening : Separates "    max(" := by decide
  have share := separates_share factorPlain budgetPlain
  have asParts :
      comparison metric filter factor budget ++ rest =
        "    max(" ++ (metric ++ (filter ++
          ((" > (" ++ (factor ++ (" * " ++ (budget ++ (")) without (" ++
            (Naming.windowLabel ++ ")\n")))))) ++ rest))) := by
    unfold comparison
    simp only [String.append_assoc]
  rw [asParts, opening.scan_append, scan_selector isMetric reads,
    share.scan_append]

/-- A condition selects the series of its short and of its long window. -/
theorem scan_condition
    {shortMetric longMetric : String}
    (isShort : IsMetric shortMetric)
    (isLong : IsMetric longMetric)
    (reads : Labels.ReadsAs filter pairs)
    (factorPlain : '\x7b' ∉ factor.toList)
    (budgetPlain : '\x7b' ∉ budget.toList)
    (name : List Char)
    (rest : String) :
    scan name
        (condition shortMetric longMetric filter factor budget ++ rest).toList =
      ⟨shortMetric, pairs⟩ :: ⟨longMetric, pairs⟩ :: scan [] rest.toList := by
  have opening : Separates "(\n" := by decide
  have between : Separates "    and\n" := by decide
  have closing : Separates ")\n" := by decide
  unfold condition
  simp only [String.append_assoc]
  rw [opening.scan_append,
    scan_comparison isShort reads factorPlain budgetPlain,
    between.scan_append,
    scan_comparison isLong reads factorPlain budgetPlain,
    closing.scan_append]

end Condition

/-- The windows of the comparisons of an alert, in their order. -/
def comparedWindows (quick slow : BurnAlert) : List Duration :=
  [quick.shortWindow, quick.longWindow, slow.shortWindow, slow.longWindow]

/-- The selectors of an alert are those of the metrics of its four windows. -/
theorem allIn_of_rule
    {slo : Slo}
    {settings : AlertSettings}
    {quick slow : BurnAlert}
    {made : Rule}
    (isRule : rule slo settings quick slow = .ok made) :
    ∃ metrics,
      List.Forall₂ (fun window metric => Naming.errorRatio window = .ok metric)
          (comparedWindows quick slow) metrics ∧
        allIn made.expression =
          metrics.map (Naming.identitySelector slo) := by
  obtain
    ⟨filter, budgetRatio, quickShort, quickFactor, quickLong, slowShort, slowFactor,
      slowLong, filtered, _, isQuickShort, isQuickFactor, isQuickLong, isSlowShort,
      isSlowFactor, isSlowLong, rfl⟩ :=
    rule_eq_ok_iff.mp isRule
  refine
    ⟨[quickShort, quickLong, slowShort, slowLong],
      .cons isQuickShort (.cons isQuickLong
        (.cons isSlowShort (.cons isSlowLong .nil))), ?_⟩
  have reads := Naming.readsAs_identity filtered
  have budgetPlain := notMem_conciseBinary64 budgetRatio
  have alternative : Separates "or\n" := by decide
  have slowCondition :=
    scan_condition (Naming.isMetric_errorRatio isSlowShort)
      (Naming.isMetric_errorRatio isSlowLong) reads
      (notMem_concise isSlowFactor) budgetPlain [] ""
  rw [String.append_empty] at slowCondition
  simp only [allIn, contents, String.append_assoc]
  rw [scan_condition (Naming.isMetric_errorRatio isQuickShort)
      (Naming.isMetric_errorRatio isQuickLong) reads
      (notMem_concise isQuickFactor) budgetPlain,
    alternative.scan_append, slowCondition, String.toList_empty, scan]
  rfl

end Alerting

namespace ErrorRatio

/-- An average selects the recordings of its metric, once to add and once to count them. -/
theorem allIn_averageExpression
    {metric filter : String}
    {pairs : List (String × String)}
    (isMetric : IsMetric metric)
    (reads : Labels.ReadsAs filter pairs)
    {window : Duration}
    {text : String}
    (written : window.prometheus = .ok text) :
    allIn (averageExpression metric filter text) =
      [⟨metric, pairs⟩, ⟨metric, pairs⟩] := by
  have windowPlain : '\x7b' ∉ text.toList := by
    intro member
    cases Duration.isAlphanum_of_prometheus written _ member
  have opening : Separates "sum_over_time(" := by decide
  have between :
      Separates
        ("[" ++ (text ++ ("])\n" ++ ("/ ignoring (" ++ (Naming.windowLabel ++
          (")\n" ++ "count_over_time(")))))) := by
    apply Separates.append (by decide)
    apply Separates.append windowPlain
    decide
  have closing : Separates ("[" ++ (text ++ "])\n")) := by
    apply Separates.append (by decide)
    apply Separates.append windowPlain
    decide
  have asParts :
      averageExpression metric filter text =
        "sum_over_time(" ++ (metric ++ (filter ++
          (("[" ++ (text ++ ("])\n" ++ ("/ ignoring (" ++
            (Naming.windowLabel ++ (")\n" ++ "count_over_time(")))))) ++
            (metric ++ (filter ++ (("[" ++ (text ++ "])\n")) ++ "")))))) := by
    unfold averageExpression
    simp only [String.append_assoc, String.append_empty]
  rw [allIn, asParts, opening.scan_append, scan_selector isMetric reads,
    between.scan_append, scan_selector isMetric reads, closing.scan_append,
    String.toList_empty, scan]

/-- In the optimized form the recording of the period averages the shortest quick window. -/
theorem allIn_of_optimizedRule
    {slo : Slo}
    {alerts : BurnAlerts}
    {recording : Rule}
    (made : optimizedRule slo alerts slo.period = .ok recording) :
    ∃ metric,
      Naming.errorRatio alerts.pageQuick.shortWindow = .ok metric ∧
        allIn recording.expression =
          [Naming.identitySelector slo metric,
            Naming.identitySelector slo metric] := by
  rw [optimizedRule, if_pos rfl] at made
  obtain ⟨_, metric, filter, text, named, filtered, written, same⟩ :=
    averageRule_eq_ok made
  refine ⟨metric, named, ?_⟩
  rw [same]
  exact
    allIn_averageExpression (Naming.isMetric_errorRatio named)
      (Naming.readsAs_identity filtered) written

end ErrorRatio

/-! ## Alerts and recordings -/

namespace Alerting

/-- A class of alerts: its settings, and its quick and its slow condition. -/
abbrev AlertClass := AlertSettings × BurnAlert × BurnAlert

/-- The classes of alerts that are enabled, in their order. -/
def enabledClasses (slo : Slo) (alerts : BurnAlerts) : List AlertClass :=
  [(slo.pageAlert, alerts.pageQuick, alerts.pageSlow),
    (slo.ticketAlert, alerts.ticketQuick, alerts.ticketSlow)].filter
      fun alertClass => !alertClass.1.disabled

/-- The rule of a class. -/
def IsRuleOf (slo : Slo) (alertClass : AlertClass) (made : Rule) : Prop :=
  rule slo alertClass.1 alertClass.2.1 alertClass.2.2 = .ok made

theorem forall₂_of_classRules
    {slo : Slo}
    {severity : Severity}
    {alertClass : AlertClass}
    {made : List Rule}
    (isMade :
      classRules slo severity alertClass.1 alertClass.2.1 alertClass.2.2 =
        .ok made) :
    List.Forall₂ (IsRuleOf slo)
      ([alertClass].filter fun alertClass => !alertClass.1.disabled) made := by
  rw [classRules] at isMade
  split at isMade
  · rename_i disabled
    cases isMade
    rw [List.filter_cons_of_neg]
    · exact .nil
    · rw [disabled]
      exact Bool.false_ne_true
  · rename_i enabled
    rw [List.filter_cons_of_pos]
    · split at isMade
      · rename_i alertRule isRule
        cases isMade
        exact .cons isRule .nil
      · cases isMade
    · rw [Bool.not_eq_true] at enabled
      rw [enabled]
      rfl

/-- The alerting rules are one for each enabled class. -/
theorem forall₂_of_rules
    {slo : Slo}
    {alerts : BurnAlerts}
    {alertRules : List Rule}
    (made : rules slo alerts = .ok alertRules) :
    List.Forall₂ (IsRuleOf slo) (enabledClasses slo alerts) alertRules := by
  obtain ⟨page, isPage, afterPage⟩ := Attempt.bind_eq_ok_iff.mp made
  obtain ⟨ticket, isTicket, same⟩ := Attempt.bind_eq_ok_iff.mp afterPage
  cases same
  have pageRules :
      List.Forall₂ (IsRuleOf slo)
        ([(slo.pageAlert, alerts.pageQuick, alerts.pageSlow)].filter
          fun alertClass => !alertClass.1.disabled) page :=
    forall₂_of_classRules isPage
  have ticketRules :
      List.Forall₂ (IsRuleOf slo)
        ([(slo.ticketAlert, alerts.ticketQuick, alerts.ticketSlow)].filter
          fun alertClass => !alertClass.1.disabled) ticket :=
    forall₂_of_classRules isTicket
  rw [enabledClasses, ← List.singleton_append, List.filter_append]
  exact List.rel_append pageRules ticketRules

theorem mem_toList_of_mem_enabledClasses
    {slo : Slo}
    {alerts : BurnAlerts}
    {alertClass : AlertClass}
    (member : alertClass ∈ enabledClasses slo alerts) :
    alertClass.2.1 ∈ alerts.toList ∧ alertClass.2.2 ∈ alerts.toList := by
  have isOne := (List.mem_filter.mp member).1
  simp only [List.mem_cons, List.not_mem_nil, or_false] at isOne
  rcases isOne with rfl | rfl
  · simp [BurnAlerts.toList]
  · simp [BurnAlerts.toList]

/-- Every window that an alert compares is recorded. -/
theorem mem_windows_of_mem_comparedWindows
    {slo : Slo}
    {alerts : BurnAlerts}
    {quick slow : BurnAlert}
    (isQuick : quick ∈ alerts.toList)
    (isSlow : slow ∈ alerts.toList)
    {window : Duration}
    (member : window ∈ comparedWindows quick slow) :
    window ∈ ErrorRatio.windows slo alerts := by
  apply List.mem_append_left
  rw [BurnAlerts.mem_windows_iff]
  simp only [comparedWindows, List.mem_cons, List.not_mem_nil, or_false] at member
  rcases member with rfl | rfl | rfl | rfl
  · exact ⟨quick, isQuick, Or.inl rfl⟩
  · exact ⟨quick, isQuick, Or.inr rfl⟩
  · exact ⟨slow, isSlow, Or.inl rfl⟩
  · exact ⟨slow, isSlow, Or.inr rfl⟩

/--
The selectors of alerts and recordings.  Each enabled class has one alert, which
selects the metrics of its four windows by the identity labels, and in the optimized
form so does the recording of the period for the shortest quick window.  A selector of
these is fed by a recording exactly if the labels of the objective keep its identity.
-/
theorem exists_feeds_selected_iff
    {optimized : Bool}
    {slo : Slo}
    {alerts : BurnAlerts}
    {recordings alertRules : List Rule}
    (recorded : ErrorRatio.rules optimized slo alerts = .ok recordings)
    (alerted : rules slo alerts = .ok alertRules) :
    List.Forall₂
        (fun alertClass alertRule =>
          ∃ metrics,
            List.Forall₂
                (fun window metric => Naming.errorRatio window = .ok metric)
                (comparedWindows alertClass.2.1 alertClass.2.2) metrics ∧
              allIn alertRule.expression =
                metrics.map (Naming.identitySelector slo))
        (enabledClasses slo alerts) alertRules ∧
      (∀ alertRule ∈ alertRules,
        ∀ selector ∈ allIn alertRule.expression,
          (∃ recording ∈ recordings, recording.Feeds selector) ↔
            slo.KeepsIdentity) ∧
      (optimized = true →
        List.Forall₂
          (fun window recording =>
            window = slo.period →
              ∃ metric,
                Naming.errorRatio alerts.pageQuick.shortWindow = .ok metric ∧
                  allIn recording.expression =
                    [Naming.identitySelector slo metric,
                      Naming.identitySelector slo metric] ∧
                  ((∃ source ∈ recordings,
                    source.Feeds (Naming.identitySelector slo metric)) ↔
                    slo.KeepsIdentity))
          (ErrorRatio.windows slo alerts) recordings) := by
  have eachRule := forall₂_of_rules alerted
  refine ⟨?_, ?_, ?_⟩
  · refine eachRule.imp ?_
    intro alertClass alertRule isRule
    exact allIn_of_rule isRule
  · intro alertRule member selector selected
    obtain ⟨alertClass, isEnabled, isRule⟩ :=
      Attempt.exists_left_of_forall₂ eachRule member
    obtain ⟨metrics, named, selectors⟩ := allIn_of_rule isRule
    rw [selectors] at selected
    obtain ⟨metric, isMetric, rfl⟩ := List.mem_map.mp selected
    obtain ⟨window, isCompared, names⟩ :=
      Attempt.exists_left_of_forall₂ named isMetric
    have ⟨isQuick, isSlow⟩ := mem_toList_of_mem_enabledClasses isEnabled
    exact
      ErrorRatio.exists_feeds_iff recorded
        (mem_windows_of_mem_comparedWindows isQuick isSlow isCompared) names
  · rintro rfl
    refine (ErrorRatio.rulesOf_eq_ok_iff.mp recorded).imp ?_
    rintro window recording made rfl
    obtain ⟨metric, named, selectors⟩ :=
      ErrorRatio.allIn_of_optimizedRule made
    have isWindow :
        alerts.pageQuick.shortWindow ∈ ErrorRatio.windows slo alerts := by
      apply List.mem_append_left
      rw [BurnAlerts.mem_windows_iff]
      exact ⟨alerts.pageQuick, List.mem_cons_self, Or.inl rfl⟩
    exact
      ⟨metric, named, selectors,
        ErrorRatio.exists_feeds_iff recorded isWindow named⟩

/-- An objective that only pages, with labels of its own. -/
def labelledSlo (labels : Labels) : Slo where
  id := "shop-orders"
  name := "orders"
  service := "shop"
  indicator := ⟨some "rate(errors[\x7b\x7b.window\x7d\x7d])", none⟩
  period := ⟨3600000000⟩
  objective := .whole 99
  labels := labels
  pageAlert := { name := "OrdersPage" }
  ticketAlert := { disabled := true }

/-- Alerts whose conditions have the same windows. -/
def sameAlerts : BurnAlerts :=
  let alert : BurnAlert :=
    ⟨"alert", ⟨300000000⟩, ⟨1800000000⟩, .whole 14, .whole 1, .page⟩
  ⟨alert, alert, alert, alert⟩

theorem exists_feeds_selected_iff_of_relabelled :
    (∃ recordings alertRules,
      (labelledSlo .empty).validate .prometheus = .ok () ∧
        ErrorRatio.rules true (labelledSlo .empty) sameAlerts =
          .ok recordings ∧
        rules (labelledSlo .empty) sameAlerts = .ok alertRules ∧
        ∀ alertRule ∈ alertRules,
          ∀ selector ∈ allIn alertRule.expression,
            ∃ recording ∈ recordings, recording.Feeds selector) ∧
      ∃ labels recordings alertRules,
        (labelledSlo labels).validate .prometheus = .ok () ∧
          ErrorRatio.rules true (labelledSlo labels) sameAlerts =
            .ok recordings ∧
          rules (labelledSlo labels) sameAlerts = .ok alertRules ∧
          alertRules.length = 1 ∧
          ∀ alertRule ∈ alertRules,
            (allIn alertRule.expression).length = 4 ∧
              ∀ selector ∈ allIn alertRule.expression,
                ¬ ∃ recording ∈ recordings, recording.Feeds selector := by
  have validPlain :
      (labelledSlo .empty).validate .prometheus = .ok () := by
    decide +kernel
  have recordsPlain :
      (ErrorRatio.rules true (labelledSlo .empty) sameAlerts).isOk = true := by
    decide +kernel
  have alertsPlain :
      (rules (labelledSlo .empty) sameAlerts).isOk = true := by
    decide +kernel
  let labels : Labels := Labels.ofTexts [(Naming.idLabel, "other")]
  have valid : (labelledSlo labels).validate .prometheus = .ok () := by
    decide +kernel
  have records :
      (ErrorRatio.rules true (labelledSlo labels) sameAlerts).isOk = true := by
    decide +kernel
  have alerts : (rules (labelledSlo labels) sameAlerts).isOk = true := by
    decide +kernel
  have keeps : (labelledSlo .empty).KeepsIdentity := by
    intro pair member value given
    cases given
  have replaces : ¬ (labelledSlo labels).KeepsIdentity := by
    intro keeps
    have same :=
      keeps (Naming.idLabel, "shop-orders") List.mem_cons_self
        (.text "other") rfl
    exact absurd (Json.text.inj same) (by decide)
  constructor
  · obtain ⟨recordings, recorded⟩ := Attempt.exists_of_isOk recordsPlain
    obtain ⟨alertRules, alerted⟩ := Attempt.exists_of_isOk alertsPlain
    have selects := exists_feeds_selected_iff recorded alerted
    refine
      ⟨recordings, alertRules, validPlain, recorded, alerted, ?_⟩
    intro alertRule member selector selected
    exact (selects.2.1 alertRule member selector selected).mpr keeps
  · obtain ⟨recordings, recorded⟩ := Attempt.exists_of_isOk records
    obtain ⟨alertRules, alerted⟩ := Attempt.exists_of_isOk alerts
    have selects := exists_feeds_selected_iff recorded alerted
    have oneEnabled :
        (enabledClasses (labelledSlo labels) sameAlerts).length = 1 := rfl
    refine
      ⟨labels, recordings, alertRules, valid, recorded, alerted, ?_, ?_⟩
    · rw [← selects.1.length_eq, oneEnabled]
    · intro alertRule member
      constructor
      · obtain ⟨alertClass, _, metrics, named, selectors⟩ :=
          Attempt.exists_left_of_forall₂ selects.1 member
        rw [selectors, List.length_map, ← named.length_eq]
        rfl
      · intro selector selected feeds
        exact
          replaces ((selects.2.1 alertRule member selector selected).mp feeds)

end Alerting

end ServiceLevel
