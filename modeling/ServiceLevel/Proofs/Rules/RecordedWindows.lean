import Mathlib.Data.List.Nodup
import ServiceLevel.Proofs.Duration.RoundTrip
import ServiceLevel.Proofs.Rules.Optimization

/-!
# The windows that are recorded

The windows of the conditions of an objective are put into one ascending list, each of them
once, and the period of the objective behind them.  One error ratio is recorded for each entry
of this list, in its order.

Windows of whole milliseconds have metrics that are told apart.  So no two windows of the
conditions are recorded under the same metric, none of them is left out, and the period is
recorded once more exactly if it is one of them.
-/

namespace ServiceLevel

/-! ## Ascending windows -/

namespace BurnAlerts

/-- A window of one of the conditions, short or long. -/
def IsWindow (alerts : BurnAlerts) (window : Duration) : Prop :=
  ∃ alert ∈ alerts.toList, window = alert.shortWindow ∨ window = alert.longWindow

/-- A window that is inserted comes behind the smaller ones and in front of the larger ones. -/
theorem ascending_insertWindow
    {windows : List Duration}
    (ascending : windows.Pairwise (· < ·))
    (window : Duration) :
    (insertWindow window windows).Pairwise (· < ·) := by
  induction windows with
  | nil => exact List.pairwise_singleton _ _
  | cons first rest ih =>
      have ⟨behindFirst, restAscending⟩ := List.pairwise_cons.mp ascending
      rw [insertWindow]
      split
      · rename_i isSmaller
        refine List.pairwise_cons.mpr ⟨?_, ascending⟩
        intro other member
        rcases List.mem_cons.mp member with rfl | inRest
        · exact isSmaller
        · exact Int.lt_trans isSmaller (behindFirst other inRest)
      · split
        · exact ascending
        · rename_i notSmaller apart
          have isLarger : first < window := by
            have notBelow : ¬ window.microseconds < first.microseconds := notSmaller
            have notEqual : window.microseconds ≠ first.microseconds := by
              intro same
              exact apart (by cases window; cases first; cases same; rfl)
            show first.microseconds < window.microseconds
            omega
          refine List.pairwise_cons.mpr ⟨?_, ih restAscending⟩
          intro other member
          rcases mem_insertWindow.mp member with rfl | inRest
          · exact isLarger
          · exact behindFirst other inRest

theorem ascending_foldr_insertWindow (windows : List Duration) :
    (windows.foldr insertWindow []).Pairwise (· < ·) := by
  induction windows with
  | nil => exact .nil
  | cons window rest ih => exact ascending_insertWindow ih window

/-- The windows of the conditions are in strictly ascending order. -/
theorem ascending_windows (alerts : BurnAlerts) : alerts.windows.Pairwise (· < ·) :=
  ascending_foldr_insertWindow _

theorem nodup_windows (alerts : BurnAlerts) : alerts.windows.Nodup := by
  refine (ascending_windows alerts).imp ?_
  rintro window _ isSmaller rfl
  exact Int.lt_irrefl _ isSmaller

end BurnAlerts

/-! ## Recordings of several windows -/

namespace ErrorRatio

section

variable {slo : Slo} {windows : List Duration} {recordings : List Rule}

/-- The metrics of recordings are those of their windows, in the same order. -/
theorem map_errorRatio_of_records
    (records : List.Forall₂ (Records slo) windows recordings) :
    windows.map Naming.errorRatio = recordings.map fun rule => .ok rule.record := by
  induction records with
  | nil => rfl
  | cons here _ ih => rw [List.map_cons, List.map_cons, ih, here.record]

/-- Different windows of whole milliseconds are recorded under different metrics. -/
theorem nodup_record_of_records
    (records : List.Forall₂ (Records slo) windows recordings)
    (distinct : windows.Nodup)
    (exact : ∀ window ∈ windows, window.IsExact) :
    (recordings.map Rule.record).Nodup := by
  have metrics : (windows.map Naming.errorRatio).Nodup := by
    refine List.Nodup.map_on ?_ distinct
    intro first isFirst second isSecond same
    exact (exact first isFirst).eq_of_errorRatio_eq (exact second isSecond) same
  rw [map_errorRatio_of_records records] at metrics
  have asMetrics :
      (recordings.map fun rule => (.ok rule.record : Except Failure String)) =
        (recordings.map Rule.record).map .ok := by
    rw [List.map_map]
    rfl
  rw [asMetrics] at metrics
  exact List.Nodup.of_map _ metrics

/-- The metric of a window is recorded exactly if the window is. -/
theorem record_mem_iff_of_records
    (records : List.Forall₂ (Records slo) windows recordings)
    (exact : ∀ window ∈ windows, window.IsExact)
    {window : Duration}
    (isExact : window.IsExact)
    {metric : String}
    (named : Naming.errorRatio window = .ok metric) :
    metric ∈ recordings.map Rule.record ↔ window ∈ windows := by
  constructor
  · intro recorded
    rcases List.mem_map.mp recorded with ⟨rule, isRule, rfl⟩
    rcases Attempt.exists_left_of_forall₂ records isRule with ⟨other, isOther, ofOther⟩
    have same : Naming.errorRatio window = Naming.errorRatio other :=
      named.trans ofOther.record.symm
    rw [isExact.eq_of_errorRatio_eq (exact other isOther) same]
    exact isOther
  · intro isWindow
    rcases Attempt.exists_right_of_forall₂ records isWindow with ⟨rule, isRule, ofWindow⟩
    have same : rule.record = metric := Except.ok.inj (ofWindow.record.symm.trans named)
    rw [← same]
    exact List.mem_map.mpr ⟨rule, isRule, rfl⟩

end

/-- The rule that is made for a window, plain or optimized. -/
def MadeFor
    (optimized : Bool)
    (slo : Slo)
    (alerts : BurnAlerts)
    (window : Duration)
    (rule : Rule) : Prop :=
  (if optimized then optimizedRule slo alerts window else plainRule slo window) = .ok rule ∧
    Records slo window rule

theorem forall₂_madeFor_of_rules
    {optimized : Bool}
    {slo : Slo}
    {alerts : BurnAlerts}
    {recordings : List Rule}
    (made : rules optimized slo alerts = .ok recordings) :
    List.Forall₂ (MadeFor optimized slo alerts) (windows slo alerts) recordings := by
  refine (rulesOf_eq_ok_iff.mp made).imp ?_
  intro window recording recorded
  cases optimized with
  | false => exact ⟨recorded, records_of_plainRule recorded⟩
  | true => exact ⟨recorded, records_of_optimizedRule recorded⟩

/--
Recordings that cover the windows of some conditions: one for each of them, in their order, and
one for the period behind them.
-/
structure Covers
    (optimized : Bool)
    (slo : Slo)
    (alerts : BurnAlerts)
    (recordings : List Rule)
    (windows : List Duration)
    (ofWindows : List Rule)
    (ofPeriod : Rule) : Prop where
  ascending : windows.Pairwise (· < ·)
  complete : ∀ window, window ∈ windows ↔ alerts.IsWindow window
  split : recordings = ofWindows ++ [ofPeriod]
  each : List.Forall₂ (MadeFor optimized slo alerts) windows ofWindows
  last : MadeFor optimized slo alerts slo.period ofPeriod
  distinct : (ofWindows.map Rule.record).Nodup
  recorded :
    ∀ window,
      alerts.IsWindow window →
        ∃ rule ∈ ofWindows, Naming.errorRatio window = .ok rule.record
  repeats : ofPeriod.record ∈ ofWindows.map Rule.record ↔ alerts.IsWindow slo.period

end ErrorRatio

namespace Processor

/--
The recordings of an objective cover its windows without clashes.  If the windows of the
conditions and the period are whole milliseconds and the step passes, it records one rule for
each window of a condition, the windows in strictly ascending order, and then one for the
period.  The metrics of the former are different, the metric of each of the eight windows is
among them, and the metric of the period is among them exactly if it is one of these windows.
-/
theorem errorRatio_covers_windows
    {optimized : Bool}
    {origin : Origin}
    {alerts : BurnAlerts}
    {before after : Progress}
    (exact : ∀ alert ∈ alerts.toList, alert.shortWindow.IsExact ∧ alert.longWindow.IsExact)
    (exactPeriod : before.slo.period.IsExact)
    (passed : (Processor.errorRatio ⟨optimized⟩).run origin alerts before = (after, none)) :
    ∃ windows ofWindows ofPeriod,
      ErrorRatio.Covers optimized before.slo alerts after.rules.errorRatio.rules windows
        ofWindows ofPeriod := by
  rcases errorRatio_run_eq_iff.mp passed with ⟨recordings, isMade, rfl⟩
  have made := ErrorRatio.forall₂_madeFor_of_rules isMade
  rcases Attempt.exists_split_of_forall₂ made.flip with
    ⟨ofWindows, ofPeriod, behind, split, each, last, nothing⟩
  cases List.forall₂_nil_right_iff.mp nothing
  have records : List.Forall₂ (ErrorRatio.Records before.slo) alerts.windows ofWindows :=
    each.flip.imp fun _ _ isMadeFor => isMadeFor.2
  have exactWindows : ∀ window ∈ alerts.windows, window.IsExact := by
    intro window isWindow
    rcases BurnAlerts.mem_windows_iff.mp isWindow with ⟨alert, isAlert, rfl | rfl⟩
    · exact (exact alert isAlert).1
    · exact (exact alert isAlert).2
  refine
    ⟨alerts.windows, ofWindows, ofPeriod,
      { ascending := BurnAlerts.ascending_windows alerts
        complete := fun window => BurnAlerts.mem_windows_iff
        split
        each := each.flip
        last
        distinct :=
          ErrorRatio.nodup_record_of_records records (BurnAlerts.nodup_windows alerts)
            exactWindows
        recorded := ?_
        repeats := ?_ }⟩
  · intro window isWindow
    rcases Attempt.exists_right_of_forall₂ records (BurnAlerts.mem_windows_iff.mpr isWindow)
      with ⟨rule, isRule, ofWindow⟩
    exact ⟨rule, isRule, ofWindow.record⟩
  · exact
      (ErrorRatio.record_mem_iff_of_records records exactWindows exactPeriod
        last.2.record).trans BurnAlerts.mem_windows_iff

theorem errorRatio_covers_windows_of_hourly :
    (∃ after windows ofWindows ofPeriod,
      (Processor.errorRatio ⟨true⟩).run {} hourlyAlerts (startedFor ⟨3600000000⟩) =
          (after, none) ∧
        ErrorRatio.Covers true (startedFor ⟨3600000000⟩).slo hourlyAlerts
          after.rules.errorRatio.rules windows ofWindows ofPeriod ∧
        ofPeriod.record ∈ ofWindows.map Rule.record) ∧
      ∃ after windows ofWindows ofPeriod,
        (Processor.errorRatio ⟨false⟩).run {} hourlyAlerts (startedFor ⟨7200000000⟩) =
            (after, none) ∧
          ErrorRatio.Covers false (startedFor ⟨7200000000⟩).slo hourlyAlerts
            after.rules.errorRatio.rules windows ofWindows ofPeriod ∧
          ofPeriod.record ∉ ofWindows.map Rule.record := by
  have exact :
      ∀ alert ∈ hourlyAlerts.toList,
        alert.shortWindow.IsExact ∧ alert.longWindow.IsExact := by
    intro alert isAlert
    have same : alert = hourlyAlerts.pageQuick := by
      revert alert
      decide
    rw [same]
    exact ⟨⟨300000, by decide, rfl⟩, ⟨3600000, by decide, rfl⟩⟩
  have optimizedOk :
      (ErrorRatio.rules true (startedFor ⟨3600000000⟩).slo hourlyAlerts).isOk := by
    decide +kernel
  have plainOk :
      (ErrorRatio.rules false (startedFor ⟨7200000000⟩).slo hourlyAlerts).isOk := by
    decide +kernel
  rcases exists_errorRatio_run optimizedOk {} with ⟨optimized, optimizedRun⟩
  rcases exists_errorRatio_run plainOk {} with ⟨plain, plainRun⟩
  rcases errorRatio_covers_windows exact ⟨3600000, by decide, rfl⟩ optimizedRun with
    ⟨windows, ofWindows, ofPeriod, covers⟩
  rcases errorRatio_covers_windows exact ⟨7200000, by decide, rfl⟩ plainRun with
    ⟨others, ofOthers, ofOther, coversOthers⟩
  refine
    ⟨⟨optimized, windows, ofWindows, ofPeriod, optimizedRun, covers, covers.repeats.mpr ?_⟩,
      plain, others, ofOthers, ofOther, plainRun, coversOthers, ?_⟩
  · exact ⟨hourlyAlerts.pageQuick, by decide, .inr rfl⟩
  · intro repeated
    rcases coversOthers.repeats.mp repeated with ⟨alert, isAlert, isWindow⟩
    revert alert
    decide

end Processor

end ServiceLevel
