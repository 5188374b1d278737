import ServiceLevel.Proofs.Number.Notation
import ServiceLevel.Proofs.Rules.Sufficiency

/-!
# Usable objectives

An objective has to be a number above zero that is not above a hundred, so that the rules that
show it show finite decimals.  The check refuses what is at most zero and what is above a
hundred.  Not-a-number is neither: it is accepted in every definition that is accepted with a
percentage, and it is the only objective that is accepted and is not usable.
-/

namespace ServiceLevel

namespace Quantity

/-- A number above zero that is not above a hundred. -/
def IsPercentage (quantity : Quantity) : Prop :=
  ∃ value ∈ quantity.value?, 0 < value ∧ value ≤ 100

theorem not_isPercentage_nan : ¬ (float .nan).IsPercentage := by
  rintro ⟨value, isValue, _⟩
  cases isValue

variable {quantity : Quantity}

/-! ## Numbers in rules -/

theorem inPrecision_of_divNat
    {divisor : Nat}
    {ratio : Binary64}
    (divided : quantity.divNat divisor = .ok ratio) :
    ratio.InPrecision := by
  cases quantity with
  | whole value => exact (isFinite_of_rounded divided).2
  | float value =>
      cases divided
      exact Binary64.inPrecision_divNat value divisor

theorem inPrecision_of_toBinary64
    (inPrecision : quantity.InPrecision)
    {rounded : Binary64}
    (isRounded : quantity.toBinary64 = .ok rounded) :
    rounded.InPrecision := by
  cases quantity with
  | whole value => exact (isFinite_of_rounded isRounded).2
  | float value =>
      cases isRounded
      exact inPrecision

theorem IsPercentage.isFinite_of_divNat
    (isPercentage : quantity.IsPercentage)
    {ratio : Binary64}
    (divided : quantity.divNat 100 = .ok ratio) :
    ratio.isFinite = true := by
  cases quantity with
  | whole value => exact (isFinite_of_rounded divided).1
  | float value =>
      cases divided
      obtain ⟨share, isValue, positive, notAbove⟩ := isPercentage
      apply Binary64.isFinite_divNat isValue (by decide)
      rw [abs_of_pos positive]
      exact notAbove

theorem IsPercentage.isFinite_of_toBinary64
    (isPercentage : quantity.IsPercentage)
    {rounded : Binary64}
    (isRounded : quantity.toBinary64 = .ok rounded) :
    rounded.isFinite = true := by
  cases quantity with
  | whole value => exact (isFinite_of_rounded isRounded).1
  | float value =>
      cases isRounded
      obtain ⟨share, isValue, _⟩ := isPercentage
      cases rounded with
      | nan => cases isValue
      | infinity negative => cases isValue
      | finite negative significand exponent => rfl

end Quantity

/-! ## The check -/

namespace Slo

/-- Percentages pass the check, and with them not-a-number and nothing else. -/
theorem checkObjective_eq_ok_iff {objective : Quantity} :
    checkObjective objective = .ok () ↔
      objective = .float .nan ∨ objective.IsPercentage := by
  cases isValue : objective.value? with
  | some value =>
      have notNan : objective ≠ .float .nan := by
        rintro rfl
        cases isValue
      have compared := Quantity.compareInt?_eq_of_mem (Option.mem_def.mpr isValue)
      have passes :
          checkObjective objective = .ok () ↔ ¬ (value < 0 ∨ value = 0 ∨ 100 < value) := by
        simp only [checkObjective, compared, Option.some.injEq, compare_lt_iff_lt,
          compare_eq_iff_eq, compare_gt_iff_gt]
        simp [or_assoc]
      have percentage : objective.IsPercentage ↔ 0 < value ∧ value ≤ 100 := by
        simp [Quantity.IsPercentage, isValue]
      rw [passes, percentage, or_iff_right notNan, ← or_assoc, ← le_iff_lt_or_eq, not_or,
        not_le, not_lt]
  | none =>
      have notPercentage : ¬ objective.IsPercentage := by
        rintro ⟨value, found, _⟩
        rw [isValue] at found
        cases found
      rw [or_iff_left notPercentage]
      cases objective with
      | whole value => cases isValue
      | float value =>
          cases value with
          | nan => exact iff_of_true rfl rfl
          | infinity negative => cases negative <;> decide
          | finite negative significand exponent => cases isValue

/-- What is accepted with some objective is accepted without a number as its objective. -/
theorem Accepted.withNan
    {dialect : Dialect}
    {slo : Slo}
    (accepted : slo.Accepted dialect) :
    { slo with objective := .float .nan }.Accepted dialect :=
  { accepted with objective := checkObjective_eq_ok_iff.mpr (.inl rfl) }

end Slo

/-! ## The rules -/

namespace Metadata

/-- The expressions of the rules that record a metric. -/
def expressions (metric : String) (rules : List Rule) : List String :=
  (rules.filter (·.record = metric)).map (·.expression)

/-- The objectives in the labels of the rules with information about the definition. -/
def shownObjectives (rules : List Rule) : List (Option Json) :=
  (rules.filter (·.record = Naming.infoMetric)).map (·.labels.get? Naming.objectiveLabel)

/-- One rule each shows the objective, the error budget and the information, with decimals. -/
structure ShowsNumerals (rules : List Rule) : Prop where
  objective :
    ∃ ratio : String,
      Decimal.IsNumeral ratio.toList ∧
        expressions Naming.objectiveMetric rules = ["vector(" ++ ratio ++ ")"]
  errorBudget :
    ∃ ratio : String,
      Decimal.IsNumeral ratio.toList ∧
        expressions Naming.errorBudgetMetric rules = ["vector(1-" ++ ratio ++ ")"]
  info :
    ∃ objective : String,
      Decimal.IsNumeral objective.toList ∧ shownObjectives rules = [some (.text objective)]

section Contents

variable
    {origin : Origin}
    {slo : Slo}
    {ratio : Binary64}
    {filter current period objective : String}

theorem expressions_objective :
    expressions Naming.objectiveMetric
        (contents origin slo ratio filter current period objective) =
      ["vector(" ++ Quantity.conciseBinary64 ratio ++ ")"] := rfl

theorem expressions_errorBudget :
    expressions Naming.errorBudgetMetric
        (contents origin slo ratio filter current period objective) =
      ["vector(1-" ++ Quantity.conciseBinary64 ratio ++ ")"] := rfl

theorem shownObjectives_contents :
    shownObjectives (contents origin slo ratio filter current period objective) =
      [some (.text objective)] := by
  have listed :
      (Labels.ofTexts
          [(Naming.versionLabel, origin.version), (Naming.modeLabel, origin.mode),
            (Naming.specLabel, origin.spec), (Naming.objectiveLabel, objective)]).get?
          Naming.objectiveLabel =
        some (.text objective) := rfl
  show [(infoLabels origin slo objective).get? Naming.objectiveLabel] = _
  rw [infoLabels, Entries.get?_merge, listed, Option.some_or]

theorem showsNumerals_contents_iff :
    ShowsNumerals (contents origin slo ratio filter current period objective) ↔
      Decimal.IsNumeral (Quantity.conciseBinary64 ratio).toList ∧
        Decimal.IsNumeral objective.toList := by
  constructor
  · rintro ⟨⟨ratioText, isRatio, showsRatio⟩, _, ⟨shown, isShown, showsObjective⟩⟩
    rw [expressions_objective] at showsRatio
    rw [shownObjectives_contents] at showsObjective
    have sameRatio : Quantity.conciseBinary64 ratio = ratioText := by
      simpa using showsRatio
    have sameObjective : objective = shown := by
      simpa using showsObjective
    rw [sameRatio, sameObjective]
    exact ⟨isRatio, isShown⟩
  · rintro ⟨isRatio, isShown⟩
    exact
      ⟨⟨_, isRatio, expressions_objective⟩, ⟨_, isRatio, expressions_errorBudget⟩,
        ⟨_, isShown, shownObjectives_contents⟩⟩

end Contents

/--
An accepted objective is a percentage exactly if it is not not-a-number, and then the rules that
show it show finite decimals.  Not-a-number is accepted in place of any accepted objective, and
shown as no decimal.
-/
theorem usable_iff_ne_nan
    {dialect : Dialect}
    {slo : Slo}
    (valid : slo.validate dialect = .ok ())
    (inPrecision : slo.objective.InPrecision) :
    (slo.objective.IsPercentage ↔ slo.objective ≠ .float .nan) ∧
      (∀ (origin : Origin) (alerts : BurnAlerts) (current : String),
        Naming.errorRatio alerts.pageQuick.shortWindow = .ok current →
          ∃ made,
            rules origin slo alerts = .ok made ∧
              (ShowsNumerals made ↔ slo.objective ≠ .float .nan)) ∧
      { slo with objective := .float .nan }.validate dialect = .ok () := by
  have accepted := Slo.validate_eq_ok_iff.mp valid
  have isPercentage_iff : slo.objective.IsPercentage ↔ slo.objective ≠ .float .nan := by
    constructor
    · intro isPercentage isNan
      rw [isNan] at isPercentage
      exact Quantity.not_isPercentage_nan isPercentage
    · exact (Slo.checkObjective_eq_ok_iff.mp accepted.objective).resolve_left
  refine ⟨isPercentage_iff, ?_, Slo.validate_eq_ok_iff.mpr accepted.withNan⟩
  intro origin alerts current isCurrent
  rcases exists_rules_of_current accepted isCurrent origin with ⟨made, isMade⟩
  rcases rules_eq_ok_iff.mp isMade with
    ⟨ratio, filter, named, period, objective, divided, _, _, _, shown, rfl⟩
  rcases Attempt.bind_eq_ok_iff.mp shown with ⟨rounded, isRounded, written⟩
  cases written
  refine ⟨_, isMade, ?_⟩
  rw [showsNumerals_contents_iff,
    Quantity.isNumeral_conciseBinary64_iff (Quantity.inPrecision_of_divNat divided),
    Quantity.isNumeral_plainBinary64_iff
      (Quantity.inPrecision_of_toBinary64 inPrecision isRounded)]
  constructor
  · rintro ⟨isFinite, _⟩ isNan
    rw [isNan] at divided
    cases divided
    cases isFinite
  · intro notNan
    have isPercentage := isPercentage_iff.mpr notNan
    exact
      ⟨isPercentage.isFinite_of_divNat divided, isPercentage.isFinite_of_toBinary64 isRounded⟩

/-- A definition with the given objective. -/
def sloWithObjective (objective : Quantity) : Slo :=
  { Processor.countedSlo (Processor.errorQuery "" "") with objective }

theorem usable_iff_ne_nan_of_orders :
    ∃ usable unusable : Slo,
      usable.validate .prometheus = .ok () ∧
        (∃ made,
          rules {} usable Alerting.sameAlerts = .ok made ∧
            expressions Naming.objectiveMetric made = ["vector(0.9990000000000001)"] ∧
            ShowsNumerals made) ∧
        unusable.validate .prometheus = .ok () ∧
        ∃ made,
          rules {} unusable Alerting.sameAlerts = .ok made ∧
            expressions Naming.objectiveMetric made = ["vector(nan)"] ∧
            ¬ ShowsNumerals made := by
  -- The floating point number nearest to 99.9.
  let usable := sloWithObjective (.float (.finite false 7029837543348634 (-46)))
  let unusable := sloWithObjective (.float .nan)
  have valid : usable.validate .prometheus = .ok () := by decide +kernel
  have current :
      Naming.errorRatio Alerting.sameAlerts.pageQuick.shortWindow =
        .ok "slo:sli_error:ratio_rate5m" := by
    decide +kernel
  have ofUsable := usable_iff_ne_nan valid (by decide : 7029837543348634 < 2 ^ 53)
  have validUnusable : unusable.validate .prometheus = .ok () := ofUsable.2.2
  have ofUnusable := usable_iff_ne_nan validUnusable trivial
  rcases ofUsable.2.1 {} Alerting.sameAlerts _ current with ⟨made, isMade, shows⟩
  rcases ofUnusable.2.1 {} Alerting.sameAlerts _ current with ⟨bare, isBare, showsBare⟩
  refine
    ⟨usable, unusable, valid, ⟨made, isMade, ?_, shows.mpr (by decide)⟩,
      validUnusable, bare, isBare, ?_, fun numerals => showsBare.mp numerals rfl⟩
  · have expression :
        (rules {} usable Alerting.sameAlerts).map (expressions Naming.objectiveMetric) =
          .ok ["vector(0.9990000000000001)"] := by
      decide +kernel
    rw [isMade] at expression
    exact Except.ok.inj expression
  · have expression :
        (rules {} unusable Alerting.sameAlerts).map (expressions Naming.objectiveMetric) =
          .ok ["vector(nan)"] := by
      decide +kernel
    rw [isBare] at expression
    exact Except.ok.inj expression

end Metadata

end ServiceLevel
