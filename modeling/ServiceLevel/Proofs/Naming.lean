import ServiceLevel.Naming
import ServiceLevel.Proofs.Attempt
import ServiceLevel.Proofs.Characters
import ServiceLevel.Proofs.Entries
import ServiceLevel.Proofs.Selector

/-!
# Identity labels and metrics

The rules of an objective are found by three labels that identify it.  A filter
of these labels is read as their pairs, and the metric of a window as a name.
-/

namespace ServiceLevel

namespace Naming

/-- The labels that identify the rules of an objective, as pairs of texts. -/
def identityPairs (slo : Slo) : List (String × String) :=
  [(idLabel, slo.id), (nameLabel, slo.name), (serviceLabel, slo.service)]

theorem pairs_identity (slo : Slo) :
    (identity slo).pairs = Labels.asTexts (identityPairs slo) :=
  rfl

theorem hasTexts_identity (slo : Slo) : (identity slo).HasTexts := by
  intro pair member
  rw [pairs_identity] at member
  rcases List.mem_map.mp member with ⟨⟨name, value⟩, _, rfl⟩
  exact ⟨value, rfl⟩

theorem get?_identity
    {slo : Slo}
    {pair : String × String}
    (member : pair ∈ identityPairs slo) :
    (identity slo).get? pair.1 = some (.text pair.2) := by
  rw [Entries.get?_eq_some_iff, pairs_identity]
  exact List.mem_map.mpr ⟨pair, member, rfl⟩

theorem ne_windowLabel
    {slo : Slo}
    {pair : String × String}
    (member : pair ∈ identityPairs slo) :
    pair.1 ≠ windowLabel := by
  have apart : windowLabel ∉ (identityPairs slo).map Prod.fst := by
    show windowLabel ∉ [idLabel, nameLabel, serviceLabel]
    decide
  intro same
  apply apart
  rw [← same]
  exact List.mem_map.mpr ⟨pair, member, rfl⟩

/-- The selector of a metric of an objective. -/
def identitySelector (slo : Slo) (metric : String) : Selector where
  metric := metric
  pairs := Labels.inWrittenOrder (identityPairs slo)

/-- The filter of the identity labels is read as their pairs. -/
theorem readsAs_identity
    {slo : Slo}
    {filter : String}
    (written : (identity slo).filterText = .ok filter) :
    Labels.ReadsAs filter (Labels.inWrittenOrder (identityPairs slo)) := by
  have plainNames : ∀ name ∈ (identity slo).keys, Labels.IsPlainName name := by
    have ofNames :
        ∀ name ∈ [idLabel, nameLabel, serviceLabel],
          name.toList.all Labels.isNameChar := by
      decide
    intro name isKey
    exact List.all_eq_true.mp (ofNames name isKey)
  obtain ⟨pairs, isPlain, reads⟩ := Labels.readsAs_filterText written plainNames
  rw [pairs_identity] at isPlain
  have same : identityPairs slo = pairs := Labels.asTexts_injective isPlain
  rw [same]
  exact reads

/-- The metric of the error ratio of a window is a name. -/
theorem isMetric_errorRatio
    {window : Duration}
    {metric : String}
    (named : errorRatio window = .ok metric) :
    Selector.IsMetric metric := by
  obtain ⟨text, written, same⟩ := Attempt.bind_eq_ok_iff.mp named
  cases same
  intro c member
  rw [String.toList_append] at member
  rcases List.mem_append.mp member with inMetric | inText
  · have ofMetric : errorRatioMetric.toList.all Selector.isMetricChar := by decide
    exact List.all_eq_true.mp ofMetric c inMetric
  · rw [Selector.isMetricChar, Duration.isAlphanum_of_prometheus written c inText,
      Bool.true_or, Bool.true_or]

end Naming

/-- An objective whose labels give no identity label another value. -/
def Slo.KeepsIdentity (slo : Slo) : Prop :=
  ∀ pair ∈ Naming.identityPairs slo,
    ∀ value ∈ slo.labels.get? pair.1, value = .text pair.2

end ServiceLevel
