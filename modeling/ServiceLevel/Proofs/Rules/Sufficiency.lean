import ServiceLevel.Processor.Basic
import ServiceLevel.Proofs.Rules.QueryRendering
import ServiceLevel.Proofs.Rules.Selection

/-!
# Rules of accepted objectives

An objective that is accepted has its metadata and its alerts for all alerts whose windows
are not negative.  It has its error ratios too, with one exception.  The queries of bad
and of all events are checked one by one and rendered together: where the first has an
opening pair of braces that nothing behind it closes, the braces of the second do, and
none of its error ratios can be rendered.
-/

namespace ServiceLevel

/-- A condition whose windows have texts and whose numbers can be written. -/
structure BurnAlert.Proper (alert : BurnAlert) : Prop where
  shortWindow : 0 ≤ alert.shortWindow.microseconds
  longWindow : 0 ≤ alert.longWindow.microseconds
  factor : alert.factor.InRange
  budget : alert.budget.InRange

/-- The four conditions are proper. -/
def BurnAlerts.Proper (alerts : BurnAlerts) : Prop :=
  ∀ alert ∈ alerts.toList, alert.Proper

theorem Naming.exists_errorRatio
    {window : Duration}
    (notNegative : 0 ≤ window.microseconds) :
    ∃ metric, errorRatio window = .ok metric := by
  rcases Duration.exists_prometheus notNegative with ⟨text, written⟩
  exact ⟨_, Attempt.bind_eq_ok_iff.mpr ⟨text, written, rfl⟩⟩

/-! ## Metadata and alerts -/

section Accepted

variable {dialect : Dialect} {slo : Slo} {alerts : BurnAlerts}

theorem Metadata.exists_rules_of_current
    (accepted : slo.Accepted dialect)
    {current : String}
    (isCurrent : Naming.errorRatio alerts.pageQuick.shortWindow = .ok current)
    (origin : Origin) :
    ∃ made, rules origin slo alerts = .ok made := by
  have hasTexts : (labels slo).HasTexts :=
    (Naming.hasTexts_identity slo).merge accepted.hasTexts
  rcases Quantity.exists_divNat accepted.inRange 100 with ⟨ratio, divided⟩
  rcases Quantity.exists_plain accepted.inRange with ⟨objective, shown⟩
  rcases hasTexts.exists_filterText with ⟨filter, filtered⟩
  rcases Naming.exists_errorRatio (Int.le_of_lt accepted.positive) with
    ⟨period, isPeriod⟩
  exact
    ⟨_, rules_eq_ok_iff.mpr
      ⟨ratio, filter, current, period, objective, divided, filtered, isCurrent,
        isPeriod, shown, rfl⟩⟩

theorem Metadata.exists_rules
    (accepted : slo.Accepted dialect)
    (proper : alerts.Proper)
    (origin : Origin) :
    ∃ made, rules origin slo alerts = .ok made := by
  have isQuick : alerts.pageQuick ∈ alerts.toList := List.mem_cons_self
  rcases Naming.exists_errorRatio (proper _ isQuick).shortWindow with
    ⟨current, isCurrent⟩
  exact exists_rules_of_current accepted isCurrent origin

theorem Alerting.exists_rule
    {quick slow : BurnAlert}
    (isQuick : quick.Proper)
    (isSlow : slow.Proper)
    (slo : Slo)
    (settings : AlertSettings) :
    ∃ made, rule slo settings quick slow = .ok made := by
  rcases (Naming.hasTexts_identity slo).exists_filterText with ⟨filter, filtered⟩
  rcases Quantity.exists_divNat isQuick.budget 100 with ⟨budget, divided⟩
  rcases Naming.exists_errorRatio isQuick.shortWindow with ⟨_, isQuickShort⟩
  rcases Quantity.exists_concise isQuick.factor with ⟨_, isQuickFactor⟩
  rcases Naming.exists_errorRatio isQuick.longWindow with ⟨_, isQuickLong⟩
  rcases Naming.exists_errorRatio isSlow.shortWindow with ⟨_, isSlowShort⟩
  rcases Quantity.exists_concise isSlow.factor with ⟨_, isSlowFactor⟩
  rcases Naming.exists_errorRatio isSlow.longWindow with ⟨_, isSlowLong⟩
  exact
    ⟨_, rule_eq_ok_iff.mpr
      ⟨filter, budget, _, _, _, _, _, _, filtered, divided, isQuickShort,
        isQuickFactor, isQuickLong, isSlowShort, isSlowFactor, isSlowLong, rfl⟩⟩

theorem Alerting.exists_classRules
    {quick slow : BurnAlert}
    (isQuick : quick.Proper)
    (isSlow : slow.Proper)
    (slo : Slo)
    (severity : Severity)
    (settings : AlertSettings) :
    ∃ made, classRules slo severity settings quick slow = .ok made := by
  rw [classRules]
  split
  · exact ⟨_, rfl⟩
  · rcases exists_rule isQuick isSlow slo settings with ⟨made, isRule⟩
    rw [isRule]
    exact ⟨_, rfl⟩

theorem Alerting.exists_rules
    (proper : alerts.Proper)
    (slo : Slo) :
    ∃ made, rules slo alerts = .ok made := by
  have ofPage :=
    exists_classRules (proper alerts.pageQuick (by simp [BurnAlerts.toList]))
      (proper alerts.pageSlow (by simp [BurnAlerts.toList])) slo .page slo.pageAlert
  have ofTicket :=
    exists_classRules (proper alerts.ticketQuick (by simp [BurnAlerts.toList]))
      (proper alerts.ticketSlow (by simp [BurnAlerts.toList])) slo .ticket
      slo.ticketAlert
  rcases ofPage with ⟨page, isPage⟩
  rcases ofTicket with ⟨ticket, isTicket⟩
  rw [rules, isPage, isTicket]
  exact ⟨_, rfl⟩

/-! ## Error ratios -/

namespace ErrorRatio

theorem notNegative_of_mem_windows
    (accepted : slo.Accepted dialect)
    (proper : alerts.Proper)
    {window : Duration}
    (member : window ∈ windows slo alerts) :
    0 ≤ window.microseconds := by
  rcases List.mem_append.mp member with ofAlerts | ofPeriod
  · rcases BurnAlerts.mem_windows_iff.mp ofAlerts with ⟨alert, isAlert, rfl | rfl⟩
    · exact (proper alert isAlert).shortWindow
    · exact (proper alert isAlert).longWindow
  · rw [List.mem_singleton.mp ofPeriod]
    exact Int.le_of_lt accepted.positive

/-- A window of an accepted objective has a rule unless a brace is left open. -/
theorem exists_plainRule_iff_of_accepted
    (accepted : slo.Accepted dialect)
    {window : Duration}
    (notNegative : 0 ≤ window.microseconds) :
    (∃ rule, plainRule slo window = .ok rule) ↔
      ∀ events ∈ slo.indicator.events,
        ¬ Template.Dangling events.error.toList := by
  rcases Duration.exists_prometheus notNegative with ⟨text, written⟩
  have sound := accepted.soundIndicator
  cases isIndicator : slo.indicator with
  | mk raw events =>
      rw [isIndicator] at sound
      cases sound with
      | raw sound =>
          have exists_rule := exists_plainRule_of_raw isIndicator sound written
          simp [exists_rule]
      | events error total =>
          rw [exists_plainRule_iff_of_events isIndicator error total written]
          simp

theorem exists_rules_iff
    (accepted : slo.Accepted dialect)
    (proper : alerts.Proper) :
    (∃ made, rules false slo alerts = .ok made) ↔
      ∀ events ∈ slo.indicator.events,
        ¬ Template.Dangling events.error.toList := by
  have notNegative :
      ∀ window ∈ windows slo alerts, 0 ≤ window.microseconds := by
    intro window member
    exact notNegative_of_mem_windows accepted proper member
  constructor
  · rintro ⟨made, isMade⟩
    have isPeriod : slo.period ∈ windows slo alerts :=
      List.mem_append_right _ List.mem_cons_self
    rcases Attempt.exists_right_of_forall₂ (rulesOf_eq_ok_iff.mp isMade) isPeriod
      with ⟨rule, _, made⟩
    exact
      (exists_plainRule_iff_of_accepted accepted (notNegative _ isPeriod)).mp
        ⟨rule, made⟩
  · intro settled
    have each :
        ∀ window ∈ windows slo alerts,
          ∃ rule, plainRule slo window = .ok rule := by
      intro window member
      exact
        (exists_plainRule_iff_of_accepted accepted (notNegative _ member)).mpr
          settled
    rcases Attempt.exists_mapM_eq_ok each with ⟨made, walked⟩
    exact ⟨made, rulesOf_eq_ok_iff.mpr (Attempt.mapM_eq_ok_iff.mp walked)⟩

end ErrorRatio

end Accepted

/-! ## Processors -/

namespace Processor

/-- A step that does not fail. -/
def Succeeds
    (processor : Processor)
    (origin : Origin)
    (alerts : BurnAlerts)
    (progress : Progress) : Prop :=
  (processor.run origin alerts progress).2 = none

theorem replacing_eq_none_iff
    {α : Type}
    {progress : Progress}
    {made : Except Failure α}
    {change : α → RuleSet → RuleSet} :
    (replacing progress made change).2 = none ↔ ∃ value, made = .ok value := by
  cases made with
  | error failure => simp [replacing]
  | ok value => simp [replacing]

/--
The validation of an objective is sufficient for its metadata and its alerts, and for its
error ratios exactly if the query of bad events leaves no brace open.  Each query can be
rendered for every window, and wherever there is a ratio of two queries, it is the ratio
of the rendered queries.
-/
theorem succeeds_iff_not_dangling
    {dialect : Dialect}
    {progress : Progress}
    {alerts : BurnAlerts}
    (valid : progress.slo.validate dialect = .ok ())
    (proper : alerts.Proper)
    (origin : Origin) :
    Processor.metadata.Succeeds origin alerts progress ∧
      Processor.alerts.Succeeds origin alerts progress ∧
      ((Processor.errorRatio ⟨false⟩).Succeeds origin alerts progress ↔
        ∀ events ∈ progress.slo.indicator.events,
          ¬ Template.Dangling events.error.toList) ∧
      ∀ events ∈ progress.slo.indicator.events,
        ∀ window : Duration,
          0 ≤ window.microseconds →
            ∃ text error total,
              window.prometheus = .ok text ∧
                Template.render ErrorRatio.title (ErrorRatio.windowData text)
                    events.error =
                  .ok error ∧
                Template.render ErrorRatio.title (ErrorRatio.windowData text)
                    events.total =
                  .ok total ∧
                ((∃ rule, ErrorRatio.plainRule progress.slo window = .ok rule) ↔
                  ¬ Template.Dangling events.error.toList) ∧
                ∀ rule,
                  ErrorRatio.plainRule progress.slo window = .ok rule →
                    rule.expression =
                      "(" ++ error ++ ")\n/\n(" ++ total ++ ")\n" := by
  have accepted := Slo.validate_eq_ok_iff.mp valid
  refine ⟨?_, ?_, ?_, ?_⟩
  · rw [Succeeds, run, replacing_eq_none_iff]
    exact Metadata.exists_rules accepted proper origin
  · rw [Succeeds, run, replacing_eq_none_iff]
    exact Alerting.exists_rules proper progress.slo
  · rw [Succeeds, run, replacing_eq_none_iff]
    exact ErrorRatio.exists_rules_iff accepted proper
  · intro events isEvents window notNegative
    rcases Duration.exists_prometheus notNegative with ⟨text, written⟩
    have sound := accepted.soundIndicator
    cases isIndicator : progress.slo.indicator with
    | mk raw given =>
        rw [isIndicator] at sound isEvents
        cases sound with
        | raw sound => cases isEvents
        | events isError isTotal =>
            cases isEvents
            refine
              ⟨text, _, _, written,
                Template.render_eq_ok_iff.mpr
                  ⟨isError.renders, String.toList_ofList⟩,
                Template.render_eq_ok_iff.mpr
                  ⟨isTotal.renders, String.toList_ofList⟩,
                ErrorRatio.exists_plainRule_iff_of_events isIndicator isError
                  isTotal written,
                ?_⟩
            intro rule made
            rcases ErrorRatio.expression_of_events isIndicator isError isTotal made
              with ⟨other, isWritten, same⟩
            rw [written] at isWritten
            cases isWritten
            rw [← String.toList_inj, same, ErrorRatio.toList_ratio,
              String.toList_ofList, String.toList_ofList]

/-- An objective with a query of bad events and one of all requests. -/
def countedSlo (error : String) : Slo where
  id := "shop-orders"
  name := "orders"
  service := "shop"
  indicator := ⟨none, some ⟨error, "rate(requests[\x7b\x7b.window\x7d\x7d])"⟩⟩
  period := ⟨3600000000⟩
  objective := .whole 99
  pageAlert := { name := "OrdersPage" }
  ticketAlert := { disabled := true }

/-- Two rates of errors, the second selected by what is given. -/
def errorQuery (filter other : String) : String :=
  "rate(errors" ++ filter ++ "[\x7b\x7b.window\x7d\x7d]) + rate(errors" ++ other ++ "[5m])"

theorem succeeds_iff_not_dangling_of_counted :
    ∃ settled dangling : Progress,
      settled.slo.validate .prometheus = .ok () ∧
        (Processor.errorRatio ⟨false⟩).Succeeds {} Alerting.sameAlerts settled ∧
        (∃ rule,
          ErrorRatio.plainRule settled.slo ⟨300000000⟩ = .ok rule ∧
            rule.expression =
              "(rate(errors[5m]) + rate(errors[5m]))\n/\n(rate(requests[5m]))\n") ∧
        dangling.slo.validate .prometheus = .ok () ∧
        Processor.metadata.Succeeds {} Alerting.sameAlerts dangling ∧
        Processor.alerts.Succeeds {} Alerting.sameAlerts dangling ∧
        ¬ (Processor.errorRatio ⟨false⟩).Succeeds {} Alerting.sameAlerts
          dangling := by
  have proper : Alerting.sameAlerts.Proper := by
    intro alert member
    simp only [Alerting.sameAlerts, BurnAlerts.toList, List.mem_cons,
      List.not_mem_nil, or_false, or_self] at member
    rw [member]
    exact ⟨by decide, by decide, by decide, by decide⟩
  let settled : Progress := { slo := countedSlo (errorQuery "" "") }
  let dangling : Progress :=
    { slo :=
        countedSlo
          (errorQuery "\x7bpath=\"\x7d\x7d\"\x7d" "\x7bpath=\"\x7b\x7b\"\x7d") }
  have valid : settled.slo.validate .prometheus = .ok () := by decide +kernel
  have validDangling : dangling.slo.validate .prometheus = .ok () := by
    decide +kernel
  have closed :
      ∀ events ∈ settled.slo.indicator.events,
        ¬ Template.Dangling events.error.toList := by
    decide +kernel
  have isOpen :
      ¬ ∀ events ∈ dangling.slo.indicator.events,
        ¬ Template.Dangling events.error.toList := by
    decide +kernel
  have ofSettled := succeeds_iff_not_dangling valid proper {}
  have ofDangling := succeeds_iff_not_dangling validDangling proper {}
  refine
    ⟨settled, dangling, valid, ofSettled.2.2.1.mpr closed, ?_, validDangling,
      ofDangling.1, ofDangling.2.1, ?_⟩
  · rcases ofSettled.2.2.2 _ rfl ⟨300000000⟩ (by decide) with
      ⟨text, error, total, written, isError, isTotal, exists_rule, same⟩
    rcases exists_rule.mpr (closed _ rfl) with ⟨rule, made⟩
    have isText : (⟨300000000⟩ : Duration).prometheus = .ok "5m" := by decide +kernel
    rw [isText] at written
    cases written
    have errorText :
        Template.render ErrorRatio.title (ErrorRatio.windowData "5m")
            (errorQuery "" "") =
          .ok "rate(errors[5m]) + rate(errors[5m])" := by
      decide +kernel
    have totalText :
        Template.render ErrorRatio.title (ErrorRatio.windowData "5m")
            "rate(requests[\x7b\x7b.window\x7d\x7d])" =
          .ok "rate(requests[5m])" := by
      decide +kernel
    cases isError.symm.trans errorText
    cases isTotal.symm.trans totalText
    exact ⟨rule, made, same rule made⟩
  · intro succeeds
    exact isOpen (ofDangling.2.2.1.mp succeeds)

end Processor

end ServiceLevel
