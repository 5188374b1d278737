import ServiceLevel.Rules.ErrorRatio
import ServiceLevel.Proofs.Naming

/-!
# Recordings of error ratios

Plain or optimized, the recordings of an objective are one for each of its windows,
recorded under the metric of the window and with labels that do not depend on how
the ratio is computed: the labels of the objective over those of its identity.  So a
selector of an error ratio is fed by some recording exactly if the labels of the
objective leave its identity alone.
-/

namespace ServiceLevel

/-- A recording writes a series that a selector selects. -/
def Rule.Feeds (rule : Rule) (selector : Selector) : Prop :=
  rule.record = selector.metric ∧
    ∀ pair ∈ selector.pairs, rule.labels.get? pair.1 = some (.text pair.2)

/--
A rule with the identity labels of an objective below the labels of the objective feeds the
selectors of the identity exactly if the labels of the objective keep it.
-/
theorem Rule.feeds_identitySelector_iff
    {slo : Slo}
    {rule : Rule}
    {metric : String}
    (merged :
      ∀ pair ∈ Naming.identityPairs slo,
        rule.labels.get? pair.1 = some ((slo.labels.get? pair.1).getD (.text pair.2))) :
    rule.Feeds (Naming.identitySelector slo metric) ↔
      rule.record = metric ∧ slo.KeepsIdentity := by
  have carries :
      (∀ pair ∈ Labels.inWrittenOrder (Naming.identityPairs slo),
        rule.labels.get? pair.1 = some (.text pair.2)) ↔
        slo.KeepsIdentity := by
    constructor
    · intro found pair member value given
      have here := found pair (List.mem_mergeSort.mpr member)
      rw [merged pair member, given, Option.getD_some] at here
      exact Option.some.inj here
    · intro keeps pair member
      have isIdentity := List.mem_mergeSort.mp member
      rw [merged pair isIdentity]
      cases given : slo.labels.get? pair.1 with
      | none => rfl
      | some value => rw [keeps pair isIdentity value given, Option.getD_some]
  rw [Rule.Feeds, Naming.identitySelector, carries]

/-! ## The windows -/

namespace BurnAlerts

theorem mem_foldr_insertWindow
    {window : Duration}
    {windows : List Duration} :
    window ∈ windows.foldr insertWindow [] ↔ window ∈ windows := by
  induction windows with
  | nil => rfl
  | cons first rest ih =>
      rw [List.foldr_cons, mem_insertWindow, ih, List.mem_cons]

theorem mem_windows_iff
    {alerts : BurnAlerts}
    {window : Duration} :
    window ∈ alerts.windows ↔
      ∃ alert ∈ alerts.toList,
        window = alert.shortWindow ∨ window = alert.longWindow := by
  rw [windows, mem_foldr_insertWindow, List.mem_flatMap]
  simp only [List.mem_cons, List.not_mem_nil, or_false]

end BurnAlerts

namespace ErrorRatio

/-- The shortest quick window of pages is recorded. -/
theorem shortWindow_mem_windows
    (slo : Slo)
    (alerts : BurnAlerts) :
    alerts.pageQuick.shortWindow ∈ windows slo alerts := by
  apply List.mem_append_left
  rw [BurnAlerts.mem_windows_iff]
  exact ⟨alerts.pageQuick, List.mem_cons_self, Or.inl rfl⟩

theorem period_mem_windows
    (slo : Slo)
    (alerts : BurnAlerts) :
    slo.period ∈ windows slo alerts :=
  List.mem_append_right _ List.mem_cons_self

/-! ## One recording -/

/-- A rule that records the error ratio of a window, however it computes it. -/
structure Records (slo : Slo) (window : Duration) (rule : Rule) : Prop where
  record : Naming.errorRatio window = .ok rule.record
  labels :
    ∃ text,
      window.prometheus = .ok text ∧
        rule.labels =
          Entries.mergeAll
            [Naming.identity slo, Labels.ofTexts [(Naming.windowLabel, text)],
              slo.labels]

theorem windowRule_eq_ok
    {slo : Slo}
    {window : Duration}
    {expression : String}
    {rule : Rule}
    (made : windowRule slo window expression = .ok rule) :
    Records slo window rule ∧ rule.expression = expression := by
  obtain ⟨record, named, continued⟩ := Attempt.bind_eq_ok_iff.mp made
  obtain ⟨text, written, same⟩ := Attempt.bind_eq_ok_iff.mp continued
  cases same
  exact ⟨⟨named, text, written, rfl⟩, rfl⟩

theorem records_of_plainRule
    {slo : Slo}
    {window : Duration}
    {rule : Rule}
    (made : plainRule slo window = .ok rule) :
    Records slo window rule := by
  obtain ⟨template, _, afterTemplate⟩ := Attempt.bind_eq_ok_iff.mp made
  obtain ⟨text, _, afterText⟩ := Attempt.bind_eq_ok_iff.mp afterTemplate
  obtain ⟨expression, _, recorded⟩ := Attempt.bind_eq_ok_iff.mp afterText
  exact (windowRule_eq_ok recorded).1

theorem exists_of_averageRule
    {slo : Slo}
    {window shortWindow : Duration}
    {rule : Rule}
    (made : averageRule slo window shortWindow = .ok rule) :
    ∃ metric filter text,
      Naming.errorRatio shortWindow = .ok metric ∧
        (Naming.identity slo).filterText = .ok filter ∧
        window.prometheus = .ok text ∧
        windowRule slo window (averageExpression metric filter text) = .ok rule := by
  rw [averageRule] at made
  split at made
  · cases made
  · obtain ⟨metric, named, afterMetric⟩ := Attempt.bind_eq_ok_iff.mp made
    obtain ⟨filter, filtered, afterFilter⟩ :=
      Attempt.bind_eq_ok_iff.mp afterMetric
    obtain ⟨text, written, recorded⟩ := Attempt.bind_eq_ok_iff.mp afterFilter
    exact ⟨metric, filter, text, named, filtered, written, recorded⟩

/-- The averaging rule reads the recordings of the short window by the identity labels. -/
theorem averageRule_eq_ok
    {slo : Slo}
    {window shortWindow : Duration}
    {rule : Rule}
    (made : averageRule slo window shortWindow = .ok rule) :
    Records slo window rule ∧
      ∃ metric filter text,
        Naming.errorRatio shortWindow = .ok metric ∧
          (Naming.identity slo).filterText = .ok filter ∧
          window.prometheus = .ok text ∧
          rule.expression = averageExpression metric filter text := by
  obtain ⟨metric, filter, text, named, filtered, written, recorded⟩ :=
    exists_of_averageRule made
  obtain ⟨records, same⟩ := windowRule_eq_ok recorded
  exact ⟨records, metric, filter, text, named, filtered, written, same⟩

theorem records_of_optimizedRule
    {slo : Slo}
    {alerts : BurnAlerts}
    {window : Duration}
    {rule : Rule}
    (made : optimizedRule slo alerts window = .ok rule) :
    Records slo window rule := by
  rw [optimizedRule] at made
  split at made
  · exact (averageRule_eq_ok made).1
  · exact records_of_plainRule made

/-! ## All recordings -/

/-- Rules of several windows are one for each of them. -/
theorem rulesOf_eq_ok_iff
    {slo : Slo}
    {rule : Duration → Except Failure Rule}
    {windows : List Duration}
    {recordings : List Rule} :
    rulesOf slo rule windows = .ok recordings ↔
      List.Forall₂ (fun window recording => rule window = .ok recording)
        windows recordings := by
  induction windows generalizing recordings with
  | nil =>
      rw [List.forall₂_nil_left_iff, rulesOf, Except.ok.injEq]
      exact eq_comm
  | cons window rest ih =>
      rw [rulesOf, List.forall₂_cons_left_iff]
      split
      · rename_i cause failed
        constructor
        · intro impossible
          cases impossible
        · rintro ⟨recording, others, made, _⟩
          rw [failed] at made
          cases made
      · rename_i first made
        rw [Attempt.map_eq_ok_iff]
        constructor
        · rintro ⟨others, walked, same⟩
          exact ⟨first, others, made, ih.mp walked, same.symm⟩
        · rintro ⟨recording, others, madeAgain, walked, same⟩
          rw [made] at madeAgain
          cases madeAgain
          exact ⟨others, ih.mpr walked, same.symm⟩

/-- Plain or optimized, the recordings are one for each window. -/
theorem records_of_rules
    {optimized : Bool}
    {slo : Slo}
    {alerts : BurnAlerts}
    {recordings : List Rule}
    (made : rules optimized slo alerts = .ok recordings) :
    List.Forall₂ (Records slo) (windows slo alerts) recordings := by
  refine (rulesOf_eq_ok_iff.mp made).imp ?_
  intro window recording recorded
  cases optimized with
  | false => exact records_of_plainRule recorded
  | true => exact records_of_optimizedRule recorded

/-! ## What the recordings feed -/

/-- A recording carries an identity label unless the labels of the objective replace it. -/
theorem Records.get?_labels
    {slo : Slo}
    {window : Duration}
    {rule : Rule}
    (records : Records slo window rule)
    {pair : String × String}
    (member : pair ∈ Naming.identityPairs slo) :
    rule.labels.get? pair.1 =
      some ((slo.labels.get? pair.1).getD (.text pair.2)) := by
  obtain ⟨text, _, labels⟩ := records.labels
  have notWindow :
      (Labels.ofTexts [(Naming.windowLabel, text)]).get? pair.1 = none := by
    show (Entries.empty.put Naming.windowLabel (Json.text text)).get? pair.1 = none
    rw [Entries.get?_put, if_neg (Naming.ne_windowLabel member),
      Entries.get?_empty]
  rw [labels, Entries.get?_mergeAll_three, notWindow, Option.none_or,
    Naming.get?_identity member]
  cases slo.labels.get? pair.1 with
  | none => rfl
  | some value => rfl

theorem Records.feeds_iff
    {slo : Slo}
    {window : Duration}
    {rule : Rule}
    (records : Records slo window rule)
    (metric : String) :
    rule.Feeds (Naming.identitySelector slo metric) ↔
      rule.record = metric ∧ slo.KeepsIdentity :=
  Rule.feeds_identitySelector_iff fun _ member => records.get?_labels member

/--
The error ratio of a window of the objective is fed by a recording exactly if the
labels of the objective keep its identity.
-/
theorem exists_feeds_iff
    {optimized : Bool}
    {slo : Slo}
    {alerts : BurnAlerts}
    {recordings : List Rule}
    (made : rules optimized slo alerts = .ok recordings)
    {window : Duration}
    (isWindow : window ∈ windows slo alerts)
    {metric : String}
    (named : Naming.errorRatio window = .ok metric) :
    (∃ recording ∈ recordings,
      recording.Feeds (Naming.identitySelector slo metric)) ↔
      slo.KeepsIdentity := by
  have each := records_of_rules made
  constructor
  · rintro ⟨recording, member, feeds⟩
    obtain ⟨other, _, records⟩ := Attempt.exists_left_of_forall₂ each member
    exact ((records.feeds_iff metric).mp feeds).2
  · intro keeps
    obtain ⟨recording, member, records⟩ :=
      Attempt.exists_right_of_forall₂ each isWindow
    have sameRecord : recording.record = metric := by
      have recorded := records.record
      rw [named] at recorded
      exact (Except.ok.inj recorded).symm
    exact
      ⟨recording, member, (records.feeds_iff metric).mpr ⟨sameRecord, keeps⟩⟩

end ErrorRatio

end ServiceLevel
