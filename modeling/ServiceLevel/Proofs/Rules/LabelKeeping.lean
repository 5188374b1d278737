import ServiceLevel.Processor.Plugin
import ServiceLevel.Proofs.Rules.LabelRemoval

/-!
# Labels that are kept

The removal of labels leaves of each rule exactly the labels of some names, in their order and
with their values: the names of the identity, the names that its config preserves, and in the
error ratios the name of the window.  Rules of a skipped metric are left as they are, and so is
everything that is no label of an error ratio or of the metadata.  What has been removed once
is not removed again.

The main statement says this of every config, and it says when the preserved names are all kept
in the metadata.  The name of the window is taken back from them, even if the config preserves
it, so that they are kept exactly if no rule that is not skipped has a label of this name.
-/

namespace ServiceLevel

/-! ## Rules that lose labels -/

/-- A rule that has lost its labels but those of some names, and nothing else. -/
structure Rule.Keeps (isKept : String → Prop) (rule left : Rule) : Prop where
  others : left = { rule with labels := left.labels }
  inOrder : left.labels.pairs.Sublist rule.labels.pairs
  mem_iff :
    ∀ pair, pair ∈ left.labels.pairs ↔ pair ∈ rule.labels.pairs ∧ isKept pair.1

/-- What is left of a rule: all of it if its metric is skipped, else the labels of some names. -/
structure Rule.Leaves (isSkipped isKept : String → Prop) (rule left : Rule) : Prop where
  skipped : isSkipped rule.record → left = rule
  kept : ¬ isSkipped rule.record → rule.Keeps isKept left

section

variable {isKept others isSkipped : String → Prop} {rule left : Rule}

/-- Names that no label of a rule has need not be told apart. -/
theorem Rule.Keeps.congr
    (keeps : rule.Keeps isKept left)
    (same : ∀ name ∈ rule.labels.keys, isKept name ↔ others name) :
    rule.Keeps others left where
  others := keeps.others
  inOrder := keeps.inOrder
  mem_iff := by
    intro pair
    rw [keeps.mem_iff]
    apply and_congr_right
    intro member
    exact same pair.1 (List.mem_map.mpr ⟨pair, member, rfl⟩)

/-- What is kept of a rule tells which of its names are kept. -/
theorem Rule.Keeps.iff_of_keeps
    (keeps : rule.Keeps isKept left)
    (keepsToo : rule.Keeps others left)
    {name : String}
    (isKey : name ∈ rule.labels.keys) :
    isKept name ↔ others name := by
  rcases List.mem_map.mp isKey with ⟨pair, member, rfl⟩
  have here := (keeps.mem_iff pair).symm.trans (keepsToo.mem_iff pair)
  simpa only [member, true_and] using here

theorem Rule.Leaves.congr
    (leaves : rule.Leaves isSkipped isKept left)
    {skips : String → Prop}
    (sameSkipped : isSkipped rule.record ↔ skips rule.record)
    (same : ¬ skips rule.record → ∀ name ∈ rule.labels.keys, isKept name ↔ others name) :
    rule.Leaves skips others left where
  skipped := fun isOne => leaves.skipped (sameSkipped.mpr isOne)
  kept := fun isNone =>
    (leaves.kept fun isOne => isNone (sameSkipped.mp isOne)).congr (same isNone)

end

namespace Processor

theorem leaves_keepLabels (kept skipped : List String) (rule : Rule) :
    rule.Leaves (· ∈ skipped) (· ∈ kept) (keepLabels kept skipped rule) where
  skipped := by
    intro isSkipped
    rw [keepLabels, if_pos (List.contains_iff_mem.mpr isSkipped)]
  kept := by
    intro notSkipped
    rw [keepLabels, if_neg (List.contains_iff_mem.not.mpr notSkipped)]
    refine ⟨rfl, List.filter_sublist, ?_⟩
    intro pair
    simp [Entries.filterKeys]

theorem filterKeys_filterKeys
    {α : Type}
    (entries : Entries α)
    (keep : String → Bool) :
    (entries.filterKeys keep).filterKeys keep = entries.filterKeys keep := by
  apply Entries.ext
  exact List.filter_filter.trans (by simp only [Bool.and_self, Entries.filterKeys])

/-- Labels that were kept once are kept again. -/
theorem keepLabels_keepLabels (kept skipped : List String) (rule : Rule) :
    keepLabels kept skipped (keepLabels kept skipped rule) = keepLabels kept skipped rule := by
  by_cases isSkipped : rule.record ∈ skipped
  · have unchanged := (leaves_keepLabels kept skipped rule).skipped isSkipped
    rw [unchanged, unchanged]
  · have notSkipped := List.contains_iff_mem.not.mpr isSkipped
    have behind : keepLabels kept skipped rule =
        { rule with labels := rule.labels.filterKeys kept.contains } := by
      rw [keepLabels, if_neg notSkipped]
    rw [behind, keepLabels, if_neg notSkipped, filterKeys_filterKeys]

theorem mapRules_keepLabels_mapRules
    (kept skipped : List String)
    (group : RuleGroup) :
    (group.mapRules (keepLabels kept skipped)).mapRules (keepLabels kept skipped) =
      group.mapRules (keepLabels kept skipped) := by
  have twice : keepLabels kept skipped ∘ keepLabels kept skipped = keepLabels kept skipped :=
    funext (keepLabels_keepLabels kept skipped)
  simp only [RuleGroup.mapRules, List.map_map, twice]

/-- The removal of labels has nothing to remove from what it has left. -/
theorem withoutLabels_withoutLabels
    (preserved skipped : List String)
    (slo : Slo)
    (rules : RuleSet) :
    withoutLabels preserved skipped slo (withoutLabels preserved skipped slo rules) =
      withoutLabels preserved skipped slo rules := by
  simp only [withoutLabels, mapRules_keepLabels_mapRules]

end Processor

/-! ## Configs -/

namespace Shipped

/-- The items of a field of a config, if it is a list. -/
def listed (data : Json) (name : String) : List Json :=
  match given? data name with
  | some (.array items) => items
  | _ => []

/-- A config preserves the labels of a name. -/
def Preserves (data : Json) (label : String) : Prop :=
  .text label ∈ listed data "preserveLabels"

/-- A config has the rules of a metric skipped, as the rule with the origin always is. -/
def Skips (data : Json) (metric : String) : Prop :=
  metric = Naming.infoMetric ∨ .text metric ∈ listed data "skipMetrics"

theorem mem_textMembers
    {items : List Json}
    {names : List String}
    (read : textMembers items = .ok names)
    {name : String} :
    name ∈ names ↔ .text name ∈ items := by
  induction items generalizing names with
  | nil =>
      cases read
      simp
  | cons item rest ih =>
      cases item with
      | text first =>
          rcases Attempt.map_eq_ok_iff.mp read with ⟨others, readRest, rfl⟩
          simp [ih readRest]
      | array items => cases read
      | object fields => cases read
      | null => simpa using ih read
      | bool value => simpa using ih read
      | number value => simpa using ih read

/-- A list that is given or missing is the list of the field. -/
theorem listed_of_getD
    {data : Json}
    {name : String}
    {items : List Json}
    (isField : (given? data name).getD (.array []) = .array items) :
    listed data name = items := by
  rw [listed]
  cases found : given? data name with
  | none =>
      rw [found] at isField
      cases isField
      rfl
  | some value =>
      rw [found, Option.getD_some] at isField
      rw [isField]

/-- What is not given is an empty object, and neither has any lists. -/
theorem readObject_eq_ok
    {config message : String}
    {data : Json}
    (read : readObject config message = .ok data) :
    ∃ document,
      readConfig config = .ok document ∧ ∀ name, listed data name = listed document name := by
  rcases Attempt.bind_eq_ok_iff.mp read with ⟨document, isDocument, afterDocument⟩
  refine ⟨document, isDocument, ?_⟩
  split at afterDocument
  · rename_i notGiven
    cases afterDocument
    intro name
    have noField : given? document name = none := by
      cases document with
      | object fields =>
          cases fields with
          | nil => rfl
          | cons first rest => cases notGiven
      | _ => rfl
    rw [listed, listed, noField]
    rfl
  · split at afterDocument
    · cases afterDocument
      intro name
      rfl
    · cases afterDocument

/-- An accepted config is read as the texts that it lists. -/
theorem removeLabels_of_create
    {config : String}
    {processor : Processor}
    (accepted : Shipped.removeLabels.create config = .ok processor) :
    ∃ data preserved skipped,
      readConfig config = .ok data ∧
        processor = .removeLabels preserved skipped ∧
        (∀ label, label ∈ preserved ↔ Preserves data label) ∧
        ∀ metric, metric ∈ Naming.infoMetric :: skipped ↔ Skips data metric := by
  rcases Attempt.bind_eq_ok_iff.mp accepted with ⟨object, isObject, afterObject⟩
  rcases readObject_eq_ok isObject with ⟨data, isData, sameLists⟩
  split at afterObject
  · rename_i preservedItems skippedItems arePreserved areSkipped
    rcases Attempt.bind_eq_ok_iff.mp afterObject with ⟨preserved, readPreserved, afterPreserved⟩
    rcases Attempt.bind_eq_ok_iff.mp afterPreserved with ⟨skipped, readSkipped, same⟩
    cases same
    refine ⟨data, preserved, skipped, isData, rfl, ?_, ?_⟩
    · intro label
      rw [Preserves, ← sameLists, listed_of_getD arePreserved]
      exact mem_textMembers readPreserved
    · intro metric
      rw [Skips, ← sameLists, listed_of_getD areSkipped, List.mem_cons]
      exact or_congr_right (mem_textMembers readSkipped)
  · cases afterObject

end Shipped

/-! ## The removal -/

namespace Processor

/-- A progress that differs at most in the labels of error ratios and of metadata. -/
structure SameButLabels (before after : Progress) : Prop where
  others :
    after =
      { before with
        rules :=
          { before.rules with
            errorRatio :=
              { before.rules.errorRatio with rules := after.rules.errorRatio.rules }
            metadata :=
              { before.rules.metadata with rules := after.rules.metadata.rules } } }

/-- What is left of rules is what is left of each. -/
theorem forall₂_map_keepLabels_iff
    {leaves : Rule → Rule → Prop}
    {kept skipped : List String}
    {rules : List Rule} :
    List.Forall₂ leaves rules (rules.map (keepLabels kept skipped)) ↔
      ∀ rule ∈ rules, leaves rule (keepLabels kept skipped rule) := by
  rw [List.forall₂_map_right_iff, List.forall₂_same]

section

variable {isSkipped isKept isPreserved : String → Prop} {rules left : List Rule}

/--
Where one of the preserved names is lost, the preserved names are all kept exactly if no rule
that is not skipped has a label of that name.
-/
theorem forall₂_leaves_iff_of_lost
    {lost : String}
    (leaves :
      List.Forall₂
        (Rule.Leaves isSkipped fun name => isKept name ∨ isPreserved name ∧ name ≠ lost)
        rules left)
    (notKept : ¬ isKept lost) :
    List.Forall₂ (Rule.Leaves isSkipped fun name => isKept name ∨ isPreserved name) rules left ↔
      (isPreserved lost → ∀ rule ∈ rules, lost ∈ rule.labels.keys → isSkipped rule.record) := by
  induction leaves with
  | nil => simp
  | @cons rule here rules others leavesHere _ ih =>
      rw [List.forall₂_cons, ih, List.forall_mem_cons]
      have first :
          rule.Leaves isSkipped (fun name => isKept name ∨ isPreserved name) here ↔
            (isPreserved lost → lost ∈ rule.labels.keys → isSkipped rule.record) := by
        constructor
        · intro leavesAll preserved isKey
          by_contra notSkipped
          have same :=
            (leavesHere.kept notSkipped).iff_of_keeps (leavesAll.kept notSkipped) isKey
          rcases same.mpr (Or.inr preserved) with kept | ⟨_, apart⟩
          · exact notKept kept
          · exact apart rfl
        · intro lostNowhere
          refine leavesHere.congr Iff.rfl ?_
          intro notSkipped name isKey
          apply or_congr_right
          rw [and_iff_left_iff_imp]
          rintro preserved rfl
          exact notSkipped (lostNowhere preserved isKey)
      rw [first]
      constructor
      · rintro ⟨ofFirst, ofOthers⟩ preserved
        exact ⟨ofFirst preserved, ofOthers preserved⟩
      · intro each
        exact ⟨fun preserved => (each preserved).1, fun preserved => (each preserved).2⟩

end

/--
What an accepted config leaves.  The removal passes for every objective and every rules made
before.  It leaves of each error ratio that is not skipped exactly the labels of the identity,
of the window and of the preserved names, in their order and with their values, and of each of
the metadata those of the identity and of the preserved names, less the window.  So the
metadata keep what is preserved exactly if the window is not preserved or no rule that is not
skipped has it for a label.  All else stays as it was, skipped rules included, and when the
removal is run again nothing changes.
-/
theorem removal_keeps_preserved_iff
    {config : String}
    {processor : Processor}
    (accepted : Shipped.removeLabels.create config = .ok processor)
    (origin : Origin)
    (alerts : BurnAlerts)
    (before : Progress) :
    ∃ data after,
      readConfig config = .ok data ∧
        processor.run origin alerts before = (after, none) ∧
        SameButLabels before after ∧
        List.Forall₂
          (Rule.Leaves (Shipped.Skips data) fun name =>
            name ∈ (Naming.identity before.slo).keys ∨ name = Naming.windowLabel ∨
              Shipped.Preserves data name)
          before.rules.errorRatio.rules after.rules.errorRatio.rules ∧
        List.Forall₂
          (Rule.Leaves (Shipped.Skips data) fun name =>
            name ∈ (Naming.identity before.slo).keys ∨
              Shipped.Preserves data name ∧ name ≠ Naming.windowLabel)
          before.rules.metadata.rules after.rules.metadata.rules ∧
        (List.Forall₂
            (Rule.Leaves (Shipped.Skips data) fun name =>
              name ∈ (Naming.identity before.slo).keys ∨ Shipped.Preserves data name)
            before.rules.metadata.rules after.rules.metadata.rules ↔
          (Shipped.Preserves data Naming.windowLabel →
            ∀ rule ∈ before.rules.metadata.rules,
              Naming.windowLabel ∈ rule.labels.keys → Shipped.Skips data rule.record)) ∧
        processor.run origin alerts after = (after, none) := by
  rcases Shipped.removeLabels_of_create accepted with
    ⟨data, preserved, skipped, isData, rfl, isPreserved, isSkipped⟩
  have ratios :
      List.Forall₂
        (Rule.Leaves (Shipped.Skips data) fun name =>
          name ∈ (Naming.identity before.slo).keys ∨ name = Naming.windowLabel ∨
            Shipped.Preserves data name)
        before.rules.errorRatio.rules
        (withoutLabels preserved skipped before.slo before.rules).errorRatio.rules := by
    apply forall₂_map_keepLabels_iff.mpr
    intro rule _
    refine (leaves_keepLabels _ _ rule).congr (isSkipped rule.record) ?_
    intro _ name _
    simp only [List.mem_cons, List.mem_append, isPreserved, or_left_comm]
  have metadata :
      List.Forall₂
        (Rule.Leaves (Shipped.Skips data) fun name =>
          name ∈ (Naming.identity before.slo).keys ∨
            Shipped.Preserves data name ∧ name ≠ Naming.windowLabel)
        before.rules.metadata.rules
        (withoutLabels preserved skipped before.slo before.rules).metadata.rules := by
    apply forall₂_map_keepLabels_iff.mpr
    intro rule _
    refine (leaves_keepLabels _ _ rule).congr (isSkipped rule.record) ?_
    intro _ name _
    have identityApart := @Naming.ne_windowLabel_of_mem_keys before.slo name
    simp only [List.mem_filter, List.mem_append, isPreserved, decide_eq_true_eq]
    tauto
  have windowApart : Naming.windowLabel ∉ (Naming.identity before.slo).keys :=
    fun isIdentity => Naming.ne_windowLabel_of_mem_keys isIdentity rfl
  refine
    ⟨data, { before with rules := withoutLabels preserved skipped before.slo before.rules },
      isData, rfl, ⟨rfl⟩, ratios, metadata, forall₂_leaves_iff_of_lost metadata windowApart, ?_⟩
  rw [run, withoutLabels_withoutLabels]

/-- A config that preserves a label and the window, and skips a metric. -/
def preservingConfig : String :=
  "\x7b\"preserveLabels\": [\"team\", \"sloth_window\"], \"skipMetrics\": [\"kept\"]\x7d"

/-- Rules of the metadata with the same labels, the first of them of the skipped metric. -/
def startedWithWindows : Progress :=
  let labels :=
    Labels.ofTexts
      [("sloth_window", "5m"), ("zone", "west"), ("team", "red"), ("sloth_id", "other")]
  { slo := Alerting.labelledSlo .empty
    rules :=
      { metadata :=
          { rules :=
              [{ record := "kept", expression := "1", labels },
                { record := "reduced", expression := "1", labels }] } } }

/-- The window is preserved, and lost but where the metric is skipped. -/
theorem removal_keeps_preserved_iff_of_window :
    ∃ processor after,
      Shipped.removeLabels.create preservingConfig = .ok processor ∧
        processor.run {} Alerting.sameAlerts startedWithWindows = (after, none) ∧
        (after.rules.metadata.rules.map fun rule => rule.labels.keys) =
          [["sloth_window", "zone", "team", "sloth_id"], ["team", "sloth_id"]] ∧
        processor.run {} Alerting.sameAlerts after = (after, none) := by
  have names :
      (Shipped.removeLabels.create preservingConfig).toOption.map
          (fun processor =>
            (processor.run {} Alerting.sameAlerts startedWithWindows).1.rules.metadata.rules.map
              fun rule => rule.labels.keys) =
        some [["sloth_window", "zone", "team", "sloth_id"], ["team", "sloth_id"]] := by
    decide +kernel
  rcases Option.map_eq_some_iff.mp names with ⟨processor, isProcessor, areNames⟩
  have accepted := Attempt.toOption_eq_some_iff.mp isProcessor
  rcases removal_keeps_preserved_iff accepted {} Alerting.sameAlerts startedWithWindows with
    ⟨_, after, _, passed, _, _, _, _, again⟩
  rw [passed] at areNames
  exact ⟨processor, after, accepted, passed, areNames, again⟩

end Processor

end ServiceLevel
