import ServiceLevel.Proofs.Generation.Attribution
import ServiceLevel.Proofs.Rules.Kinds
import ServiceLevel.Proofs.Rules.Sufficiency

/-!
# The kinds of generated rules

Nothing checks the rules that a generation has made.  As long as only plugins of the
library take part, nothing has to: each of their processors keeps recordings among
recordings and alerts among alerts, wherever in a chain it stands and however often.

An alert has its name from the objective, which may be checked behind the step that makes
the alert.  But no such processor changes the objective, and unless its chain overrides
the standard one, the objective is checked at some point of the run, so that it is the
accepted one at every point.
-/

namespace ServiceLevel

/-! ## Supplied processors -/

/-- A plugin of the library that makes processors. -/
inductive Plugin.Supplied : Plugin → Prop
  | builtin (standard : Builtin) : Supplied (.builtin standard)
  | shipped (extra : Shipped) : Supplied (.shipped extra)

/-- A processor that is no script, and that has a name for its alert. -/
def Processor.Supplied : Processor → Prop
  | .host _ => False
  | .budgetAlert alert => alert.name.isGiven = true
  | _ => True

theorem Builtin.supplied_of_create
    {accepts : String → Bool}
    {standard : Builtin}
    {config : String}
    {processor : Processor}
    (made : standard.create accepts config = .ok processor) :
    processor.Supplied := by
  cases standard with
  | validate =>
      cases made
      trivial
  | errorRatio =>
      rcases Attempt.map_eq_ok_iff.mp made with ⟨settings, _, rfl⟩
      trivial
  | metadata =>
      cases made
      trivial
  | alerts =>
      cases made
      trivial
  | idle =>
      cases made
      trivial
  | debug =>
      rcases Attempt.map_eq_ok_iff.mp made with ⟨settings, _, rfl⟩
      trivial

namespace Shipped

theorem isGiven_getD_given?
    {data : Json}
    {name : String}
    {fallback : Json}
    (isGiven : fallback.isGiven = true) :
    ((given? data name).getD fallback).isGiven = true := by
  cases found : given? data name with
  | none => exact isGiven
  | some value => exact (Option.filter_eq_some_iff.mp found).2

/-- An alert whose config has no name for it has one of its own. -/
theorem isGiven_name_of_readBudgetAlert
    {config : String}
    {alert : BudgetAlert}
    (read : readBudgetAlert config = .ok alert) :
    alert.name.isGiven = true := by
  rcases Attempt.bind_eq_ok_iff.mp read with ⟨data, _, afterData⟩
  rcases Attempt.bind_eq_ok_iff.mp afterData with ⟨threshold, _, afterThreshold⟩
  rcases Attempt.bind_eq_ok_iff.mp afterThreshold with ⟨given, _, afterGiven⟩
  rcases Attempt.exists_of_ite_bind_eq_ok afterGiven with ⟨hold, afterHold⟩
  rcases Attempt.bind_eq_ok_iff.mp afterHold with ⟨value, _, afterValue⟩
  rcases Attempt.bind_eq_ok_iff.mp afterValue with ⟨selector, _, afterSelector⟩
  rcases Attempt.bind_eq_ok_iff.mp afterSelector with ⟨labels, _, afterLabels⟩
  rcases Attempt.bind_eq_ok_iff.mp afterLabels with ⟨annotations, _, same⟩
  cases same
  exact isGiven_getD_given? rfl

theorem exists_of_readInfoLabels
    {config : String}
    {processor : Processor}
    (read : readInfoLabels config = .ok processor) :
    ∃ labels metric, processor = .infoLabels labels metric := by
  rcases Attempt.bind_eq_ok_iff.mp read with ⟨data, _, afterData⟩
  simp only at afterData
  split at afterData
  · rcases Attempt.bind_eq_ok_iff.mp afterData with ⟨fields, _, afterFields⟩
    split at afterFields
    · cases afterFields
    · cases afterFields
      exact ⟨_, _, rfl⟩
  · cases afterData

theorem exists_of_readRemoveLabels
    {config : String}
    {processor : Processor}
    (read : readRemoveLabels config = .ok processor) :
    ∃ preserved skipped, processor = .removeLabels preserved skipped := by
  rcases Attempt.bind_eq_ok_iff.mp read with ⟨data, _, afterData⟩
  split at afterData
  · rcases Attempt.bind_eq_ok_iff.mp afterData with ⟨preserved, _, afterPreserved⟩
    rcases Attempt.bind_eq_ok_iff.mp afterPreserved with ⟨skipped, _, same⟩
    cases same
    exact ⟨_, _, rfl⟩
  · cases afterData

theorem exists_of_readIntervals
    {config : String}
    {processor : Processor}
    (read : readIntervals config = .ok processor) :
    ∃ chosen, processor = .intervals chosen := by
  rcases Attempt.bind_eq_ok_iff.mp read with ⟨data, _, afterData⟩
  simp only at afterData
  split at afterData
  · rcases Attempt.bind_eq_ok_iff.mp afterData with ⟨intervals, _, afterIntervals⟩
    rcases Attempt.bind_eq_ok_iff.mp afterIntervals with ⟨common, _, afterCommon⟩
    split at afterCommon
    · rcases Attempt.bind_eq_ok_iff.mp afterCommon with ⟨errorRatio, _, afterErrorRatio⟩
      rcases Attempt.bind_eq_ok_iff.mp afterErrorRatio with ⟨metadata, _, afterMetadata⟩
      rcases Attempt.bind_eq_ok_iff.mp afterMetadata with ⟨alerts, _, same⟩
      cases same
      exact ⟨_, rfl⟩
    · cases afterCommon
  · cases afterData

theorem supplied_of_create
    {extra : Shipped}
    {config : String}
    {processor : Processor}
    (made : extra.create config = .ok processor) :
    processor.Supplied := by
  cases extra with
  | corrected =>
      cases made
      trivial
  | budgetAlert =>
      rcases Attempt.map_eq_ok_iff.mp made with ⟨alert, read, rfl⟩
      exact isGiven_name_of_readBudgetAlert read
  | infoLabels =>
      rcases exists_of_readInfoLabels made with ⟨labels, metric, rfl⟩
      trivial
  | removeLabels =>
      rcases exists_of_readRemoveLabels made with ⟨preserved, skipped, rfl⟩
      trivial
  | intervals =>
      rcases exists_of_readIntervals made with ⟨chosen, rfl⟩
      trivial
  | totalAmount =>
      cases made
      trivial
  | validateMetricsql =>
      cases made
      trivial

end Shipped

theorem NamedProcessor.create_of_make
    {accepts : String → Bool}
    {plugin : Plugin}
    {config : Setting}
    {step : NamedProcessor}
    (made : make accepts plugin config = .ok step) :
    ∃ written,
      config.write = .ok written ∧
        plugin.create accepts written = .ok (some step.processor) := by
  simp only [make] at made
  split at made
  · cases made
  · split at made
    · cases made
    · cases made
    · rename_i written isWritten _ processor created
      cases made
      exact ⟨written, isWritten, created⟩

/-- What a plugin of the library makes is a supplied processor. -/
theorem Plugin.Supplied.of_make
    {accepts : String → Bool}
    {plugin : Plugin}
    {config : Setting}
    {step : NamedProcessor}
    (supplied : plugin.Supplied)
    (made : NamedProcessor.make accepts plugin config = .ok step) :
    step.processor.Supplied := by
  rcases NamedProcessor.create_of_make made with ⟨written, _, created⟩
  cases supplied with
  | builtin standard =>
      rcases Attempt.map_eq_ok_iff.mp created with ⟨processor, isMade, same⟩
      cases same
      exact Builtin.supplied_of_create isMade
  | shipped extra =>
      rcases Attempt.map_eq_ok_iff.mp created with ⟨processor, isMade, same⟩
      cases same
      exact Shipped.supplied_of_create isMade

/-! ## Steps of supplied processors -/

namespace Processor

theorem forall_mem_labelFirst
    {holds : Rule → Prop}
    {rules : List Rule}
    (all : ∀ rule ∈ rules, holds rule)
    (relabelled : ∀ rule labels, holds rule → holds { rule with labels })
    (labels : Labels)
    (metric : Json) :
    ∀ rule ∈ labelFirst labels metric rules, holds rule := by
  induction rules with
  | nil => exact all
  | cons first rest ih =>
      have ⟨ofFirst, ofRest⟩ := List.forall_mem_cons.mp all
      rw [labelFirst]
      split
      · exact List.forall_mem_cons.mpr ⟨relabelled first _ ofFirst, ofRest⟩
      · exact List.forall_mem_cons.mpr ⟨ofFirst, ih ofRest⟩

theorem recording_keepLabels
    {rule : Rule}
    (recording : rule.Recording)
    (kept skipped : List String) :
    (keepLabels kept skipped rule).Recording := by
  rw [keepLabels]
  split
  · exact recording
  · exact recording.relabelled _

theorem recording_mapRules_keepLabels
    {group : RuleGroup}
    (recordings : ∀ rule ∈ group.rules, rule.Recording)
    (kept skipped : List String) :
    ∀ rule ∈ (group.mapRules (keepLabels kept skipped)).rules, rule.Recording := by
  intro rule member
  rcases List.mem_map.mp member with ⟨old, isOld, rfl⟩
  exact recording_keepLabels (recordings old isOld) kept skipped

theorem Supplied.isHost_eq_false
    {processor : Processor}
    (supplied : processor.Supplied) :
    processor.isHost = false := by
  cases processor with
  | host process => exact supplied.elim
  | _ => rfl

/-- A supplied processor that passes keeps the rules of an accepted objective sorted. -/
theorem Supplied.sortedByKind_run
    {processor : Processor}
    {dialect : Dialect}
    {origin : Origin}
    {alerts : BurnAlerts}
    {before after : Progress}
    (supplied : processor.Supplied)
    (accepted : before.slo.Accepted dialect)
    (passed : processor.run origin alerts before = (after, none))
    (sorted : before.rules.SortedByKind) :
    after.rules.SortedByKind := by
  cases processor with
  | host process => exact supplied.elim
  | validate dialect =>
      rw [run, checking_eq_iff] at passed
      rw [passed.2]
      exact sorted
  | validateMetricsql =>
      rw [run, checking_eq_iff] at passed
      rw [passed.2]
      exact sorted
  | errorRatio settings =>
      rw [run, replacing_eq_iff] at passed
      rcases passed with ⟨made, areRules, rfl⟩
      exact { sorted with errorRatio := ErrorRatio.recording_of_rules areRules }
  | metadata =>
      rw [run, replacing_eq_iff] at passed
      rcases passed with ⟨made, areRules, rfl⟩
      exact { sorted with metadata := Metadata.recording_of_rules areRules }
  | alerts =>
      rw [run, replacing_eq_iff] at passed
      rcases passed with ⟨made, areRules, rfl⟩
      exact { sorted with alerts := Alerting.alerting_of_rules accepted areRules }
  | totalAmount =>
      rw [run, replacing_eq_iff] at passed
      rcases passed with ⟨group, isGroup, rfl⟩
      have recordings := TotalAmount.recording_of_group isGroup
      refine { sorted with extra := ?_ }
      exact
        List.forall_mem_append.mpr
          ⟨sorted.extra, List.forall_mem_singleton.mpr recordings⟩
  | budgetAlert alert =>
      rw [run, replacing_eq_iff] at passed
      rcases passed with ⟨rule, isRule, rfl⟩
      have alerting := BudgetAlert.alerting_of_rule supplied isRule
      refine { sorted with alerts := ?_ }
      exact
        List.forall_mem_append.mpr
          ⟨sorted.alerts, List.forall_mem_singleton.mpr alerting⟩
  | idle =>
      cases passed
      exact sorted
  | debug id settings =>
      cases passed
      exact sorted
  | corrected =>
      rcases corrected_run_eq_iff.mp passed with
        ⟨events, ratios, weights, _, areRatios, areWeights, rfl⟩
      refine { sorted with errorRatio := ?_, metadata := ?_ }
      · intro rule member
        rcases Attempt.exists_left_of_forall₂ areRatios member with ⟨window, _, isRatio⟩
        exact Corrected.recording_of_ratioRule isRatio
      · refine List.forall_mem_append.mpr ⟨sorted.metadata, ?_⟩
        intro rule member
        rcases Attempt.exists_left_of_forall₂ areWeights member with
          ⟨window, _, isWeight⟩
        exact Corrected.recording_of_weightRule isWeight
  | infoLabels labels metric =>
      cases passed
      refine { sorted with metadata := ?_ }
      apply forall_mem_labelFirst sorted.metadata
      intro rule labels recording
      exact recording.relabelled labels
  | removeLabels preserved skipped =>
      cases passed
      exact
        { sorted with
          errorRatio := recording_mapRules_keepLabels sorted.errorRatio _ _
          metadata := recording_mapRules_keepLabels sorted.metadata _ _ }
  | intervals chosen =>
      cases passed
      exact ⟨sorted.errorRatio, sorted.metadata, sorted.alerts, sorted.extra⟩

end Processor

/-! ## Runs of supplied processors -/

section Runs

variable {origin : Origin} {alerts : BurnAlerts} {steps : List NamedProcessor}
  {start stop : Progress}

theorem Passes.slo_of_supplied
    (passes : Passes origin alerts steps start stop)
    (supplied : ∀ step ∈ steps, step.processor.Supplied) :
    stop.slo = start.slo :=
  passes.slo_eq fun step member => (supplied step member).isHost_eq_false

/-- An objective is accepted if a step that checks it is among those that pass. -/
theorem Passes.accepted
    {dialect : Dialect}
    (passes : Passes origin alerts steps start stop)
    (supplied : ∀ step ∈ steps, step.processor.Supplied)
    (validates : ∃ step ∈ steps, step.processor = .validate dialect) :
    start.slo.Accepted dialect := by
  rcases validates with ⟨step, member, isValidation⟩
  rcases passes.exists_of_mem member with ⟨front, before, after, isPart, inFront, here⟩
  rw [isValidation, Processor.run, Processor.checking_eq_iff] at here
  have unchanged : before.slo = start.slo := by
    apply inFront.slo_of_supplied
    intro other inPart
    exact supplied other (isPart inPart)
  rw [← unchanged]
  exact Slo.validate_eq_ok_iff.mp here.1

/-- Supplied processors keep rules sorted if a check of the objective is among them. -/
theorem Passes.sortedByKind
    {dialect : Dialect}
    (passes : Passes origin alerts steps start stop)
    (supplied : ∀ step ∈ steps, step.processor.Supplied)
    (validates : ∃ step ∈ steps, step.processor = .validate dialect)
    (atStart : start.rules.SortedByKind) :
    stop.rules.SortedByKind := by
  have accepted := passes.accepted supplied validates
  -- The objective is carried along, for it is the accepted one that alerts are named by.
  have preserved : stop.slo = start.slo ∧ stop.rules.SortedByKind := by
    apply passes.preserves
      (fun progress => progress.slo = start.slo ∧ progress.rules.SortedByKind)
    · rintro step member before after passed ⟨same, sorted⟩
      have isSupplied := supplied step member
      have left :=
        Processor.slo_run_of_isHost_eq_false isSupplied.isHost_eq_false origin alerts before
      rw [passed] at left
      rw [← same] at accepted
      exact
        ⟨left.trans same, isSupplied.sortedByKind_run accepted passed sorted⟩
    · exact ⟨rfl, atStart⟩
  exact preserved.2

end Runs

/-! ## Generations with supplied plugins -/

namespace RuleSet

theorem rules_nameGroup (name : String) (group : RuleGroup) :
    (nameGroup name group).rules = group.rules := by
  rw [nameGroup]
  split
  · rfl
  · rfl

theorem exists_of_mem_nameExtra
    {sloId : String}
    {index : Nat}
    {groups : List RuleGroup}
    {group : RuleGroup}
    (member : group ∈ nameExtra sloId index groups) :
    ∃ other ∈ groups, group.rules = other.rules := by
  induction groups generalizing index with
  | nil => cases member
  | cons first rest ih =>
      rcases List.mem_cons.mp member with rfl | inRest
      · exact ⟨first, List.mem_cons_self, rules_nameGroup _ first⟩
      · rcases ih inRest with ⟨other, isOther, same⟩
        exact ⟨other, List.mem_cons_of_mem first isOther, same⟩

/-- Naming groups leaves their rules. -/
theorem SortedByKind.withNames
    {rules : RuleSet}
    (sorted : rules.SortedByKind)
    (sloId : String) :
    (rules.withNames sloId).SortedByKind where
  errorRatio := by
    rw [RuleSet.withNames, rules_nameGroup]
    exact sorted.errorRatio
  metadata := by
    rw [RuleSet.withNames, rules_nameGroup]
    exact sorted.metadata
  alerts := by
    rw [RuleSet.withNames, rules_nameGroup]
    exact sorted.alerts
  extra := by
    intro group member
    rcases exists_of_mem_nameExtra member with ⟨other, isOther, same⟩
    rw [same]
    exact sorted.extra other isOther

end RuleSet

namespace Generator

theorem fields_of_make
    {optimized : Bool}
    {appEntries : List ChainEntry}
    {plugins : Option (String → Option Plugin)}
    {accepts : String → Bool}
    {generator : Generator}
    (made : make optimized appEntries plugins accepts = .ok generator) :
    generator.appEntries = appEntries ∧ generator.plugins = plugins := by
  rcases Attempt.bind_eq_ok_iff.mp made with ⟨standard, _, same⟩
  cases same
  exact ⟨rfl, rfl⟩

/-- The standard processors are supplied, and one of them checks the objective. -/
theorem supplied_of_make
    {optimized : Bool}
    {appEntries : List ChainEntry}
    {plugins : Option (String → Option Plugin)}
    {accepts : String → Bool}
    {generator : Generator}
    (made : make optimized appEntries plugins accepts = .ok generator) :
    (∀ step ∈ generator.standard, step.processor.Supplied) ∧
      ∃ step ∈ generator.standard, step.processor = .validate (.promql accepts) := by
  rcases Attempt.bind_eq_ok_iff.mp made with ⟨standard, walked, same⟩
  have each := Attempt.mapM_eq_ok_iff.mp walked
  cases same
  constructor
  · intro step member
    rcases Attempt.exists_left_of_forall₂ each member with ⟨builtin, _, isMade⟩
    exact (Plugin.Supplied.builtin builtin).of_make isMade
  · have isStandard : Builtin.validate ∈ Builtin.standard := List.mem_cons_self
    rcases Attempt.exists_right_of_forall₂ each isStandard with
      ⟨step, member, isMade⟩
    rcases NamedProcessor.create_of_make isMade with ⟨written, _, created⟩
    have isValidation :
        Except.ok (some (Processor.validate (.promql accepts))) =
          (.ok (some step.processor) : Except Failure (Option Processor)) :=
      created
    exact ⟨step, member, (Option.some.inj (Except.ok.inj isValidation)).symm⟩

theorem supplied_of_processorsOf
    {generator : Generator}
    {entries : List ChainEntry}
    {steps : List NamedProcessor}
    (supplied :
      ∀ entry ∈ entries,
        ∀ plugin, generator.resolve entry.id = .ok plugin → plugin.Supplied)
    (made : generator.processorsOf entries = .ok steps) :
    ∀ step ∈ steps, step.processor.Supplied := by
  intro step member
  rw [processorsOf_eq_mapM, Attempt.mapM_eq_ok_iff] at made
  rcases Attempt.exists_left_of_forall₂ made member with ⟨entry, isEntry, isMade⟩
  rcases Attempt.bind_eq_ok_iff.mp isMade with ⟨plugin, resolved, created⟩
  exact (supplied entry isEntry plugin resolved).of_make created

/-- The entries for a request name no plugins but those of the library. -/
def NamesSupplied (generator : Generator) (request : GenerationRequest) : Prop :=
  ∀ entry ∈ generator.entries request,
    ∀ plugin, generator.resolve entry.id = .ok plugin → plugin.Supplied

section Supplied

variable {generator : Generator} {request : GenerationRequest}

/-- The processors of an objective are supplied if the plugins of all entries are. -/
theorem supplied_of_jobFor
    {slo : Slo}
    {job : Job}
    (standard : ∀ step ∈ generator.standard, step.processor.Supplied)
    (supplied : generator.NamesSupplied request)
    (isOne : slo ∈ request.group.slos)
    (keeps : slo.chain.overrides = false)
    (made : generator.jobFor request slo = .ok job) :
    (∀ step ∈ job.steps, step.processor.Supplied) ∧
      generator.standard ⊆ job.steps := by
  obtain ⟨_, steps, areSteps, rfl⟩ := jobFor_eq_ok_iff.mp made
  rcases processorsFor_eq_ok_iff.mp areSteps with
    ⟨firsts, lasts, areFirsts, areLasts, joined⟩
  have labelledKeeps : (request.labelled slo).chain.overrides = false := keeps
  rw [labelledKeeps, if_neg Bool.false_ne_true] at joined
  have ofEntries
      {entries : List ChainEntry}
      {made : List NamedProcessor}
      (isPart :
        entries ⊆ Chain.merge request.group.chain slo.chain generator.appEntries)
      (areMade : generator.processorsOf entries = .ok made) :
      ∀ step ∈ made, step.processor.Supplied := by
    apply supplied_of_processorsOf _ areMade
    intro entry member
    exact supplied entry (mem_entries_of_mem_merge isOne (isPart member))
  rw [← joined]
  constructor
  · intro step member
    rcases List.mem_append.mp member with inFront | isLast
    · rcases List.mem_append.mp inFront with isFirst | isStandard
      · exact ofEntries List.filter_sublist.subset areFirsts step isFirst
      · exact standard step isStandard
    · exact ofEntries List.filter_sublist.subset areLasts step isLast
  · intro step member
    exact List.mem_append_left _ (List.mem_append_right _ member)

/-- Supplied processors do not read the context. -/
theorem ignoresContext_of_supplied
    (standard : ∀ step ∈ generator.standard, step.processor.Supplied)
    (supplied : generator.NamesSupplied request)
    (keeps : ∀ slo ∈ request.group.slos, slo.chain.overrides = false) :
    generator.IgnoresContext request := by
  intro slo isOne job made step member
  have ⟨areSupplied, _⟩ := supplied_of_jobFor standard supplied isOne (keeps slo isOne) made
  exact
    Processor.respects_of_isHost_eq_false (areSupplied step member).isHost_eq_false

theorem sortedByKind_of_generateOne
    {dialect : Dialect}
    {calculate : AlertCalculation}
    {slo : Slo}
    {result : Generated}
    (standard : ∀ step ∈ generator.standard, step.processor.Supplied)
    (validates : ∃ step ∈ generator.standard, step.processor = .validate dialect)
    (supplied : generator.NamesSupplied request)
    (isOne : slo ∈ request.group.slos)
    (keeps : slo.chain.overrides = false)
    (made : generator.generateOne calculate request slo = .ok result) :
    result.slo = request.labelled slo ∧ result.rules.SortedByKind := by
  rcases Attempt.bind_eq_ok_iff.mp made with ⟨job, isJob, isDone⟩
  have ⟨areSupplied, hasStandard⟩ :=
    supplied_of_jobFor standard supplied isOne keeps isJob
  have hasValidation :
      ∃ step ∈ job.steps, step.processor = .validate dialect := by
    rcases validates with ⟨step, member, isValidation⟩
    exact ⟨step, hasStandard member, isValidation⟩
  have atStart : RuleSet.SortedByKind {} := by
    constructor <;> exact fun _ impossible => absurd impossible List.not_mem_nil
  rcases ran : job.run request.origin calculate {} with ⟨last, outcome⟩
  rw [Job.outcome, ran] at isDone
  rcases Job.ends_of_run ran with ⟨shared, ends, _⟩
  cases isDone
  cases ends with
  | @done alerts stop calculated passes =>
      have unchanged := passes.slo_of_supplied areSupplied
      have sorted := passes.sortedByKind areSupplied hasValidation atStart
      constructor
      · rw [unchanged, ← slo_of_jobFor isJob]
        rfl
      · exact sorted.withNames stop.slo.id

/--
The rules of a generation, whatever queries the built-in validation accepts.  If no objective
overrides the standard processors and all entries of chains name plugins of the library, each
objective that is generated is left as it was, with recordings in all its groups but that of the
alerts, with alerts in that group, and with no rule that would not pass its own check.
-/
theorem generate_sortedByKind
    {optimized : Bool}
    {appEntries : List ChainEntry}
    {plugins : Option (String → Option Plugin)}
    {accepts : String → Bool}
    {calculate : AlertCalculation}
    {results : List Generated}
    (made : make optimized appEntries plugins accepts = .ok generator)
    (keeps : ∀ slo ∈ request.group.slos, slo.chain.overrides = false)
    (supplied : generator.NamesSupplied request)
    (generated : (generator.generate calculate request).result = .ok results) :
    List.Forall₂
      (fun slo result =>
        result.slo = request.labelled slo ∧
          result.rules.SortedByKind ∧
          ∀ group ∈ result.rules.allGroups,
            ∀ rule ∈ group.rules, rule.validate = .ok ())
      request.group.slos results := by
  have ⟨standard, validates⟩ := supplied_of_make made
  have ignores := ignoresContext_of_supplied standard supplied keeps
  have each := ((generate_eq_ok_iff ignores).mp generated).2
  have eachOne :=
    (List.forall₂_and_left request.group.slos results).mpr
      ⟨fun _ member => member, each⟩
  refine eachOne.imp ?_
  rintro slo result ⟨isOne, isGenerated⟩
  have ⟨unchanged, sorted⟩ :=
    sortedByKind_of_generateOne standard validates supplied isOne (keeps slo isOne)
      isGenerated
  exact ⟨unchanged, sorted, sorted.validate⟩

end Supplied

/-- Only plugins of the library are resolved where only these are found. -/
theorem supplied_of_resolve
    {generator : Generator}
    (finds :
      ∀ find ∈ generator.plugins, ∀ name, ∀ plugin ∈ find name, plugin.Supplied)
    {id : Json}
    {plugin : Plugin}
    (resolved : generator.resolve id = .ok plugin) :
    plugin.Supplied := by
  cases id with
  | text name =>
      simp only [resolve] at resolved
      split at resolved
      · cases resolved
        exact .builtin _
      · split at resolved
        · rename_i found
          cases resolved
          rcases Option.bind_eq_some_iff.mp found with ⟨find, present, isFound⟩
          exact finds find present name plugin isFound
        · cases resolved
  | null => cases resolved
  | bool value => cases resolved
  | number value => cases resolved
  | array items => cases resolved
  | object fields => cases resolved

/-- The shipped plugin with an identifier. -/
def shippedPlugin (id : String) : Option Plugin :=
  (Shipped.all.find? fun shipped => shipped.id = id).map .shipped

theorem supplied_of_shippedPlugin
    {id : String}
    {plugin : Plugin}
    (found : plugin ∈ shippedPlugin id) :
    plugin.Supplied := by
  rcases Option.map_eq_some_iff.mp found with ⟨shipped, _, rfl⟩
  exact .shipped shipped

/-- An objective with plugins before and behind the standard processors. -/
def suppliedSlo : Slo :=
  { Processor.countedSlo (Processor.errorQuery "" "") with
    chain :=
      ⟨[⟨.text "sloth.dev/core/alert_rules/v1", .null, -2⟩,
        ⟨.text "sloth.dev/contrib/denominator_corrected_rules/v1", .null, 0⟩,
        ⟨.text "sloth.dev/contrib/sli_total_amount/v1", .null, 1⟩], false⟩ }

/-- A request for one objective, with plugins for its group. -/
def suppliedRequest : GenerationRequest where
  group :=
    { slos := [suppliedSlo]
      chain :=
        ⟨[⟨.text "sloth.dev/contrib/error_budget_exhausted_alert/v1", .null, 3⟩,
          ⟨.text "sloth.dev/contrib/remove_labels/v1", .null, 2⟩], false⟩ }

/-- The entries for all objectives. -/
def suppliedEntries : List ChainEntry :=
  [⟨.text "sloth.dev/contrib/sli_total_amount/v1", .null, -3⟩]

theorem generate_sortedByKind_of_supplied :
    ∃ (generator : Generator) (results : List Generated),
      (generator.generate (fun _ _ _ => .ok Alerting.sameAlerts)
          suppliedRequest).result =
        .ok results ∧
      (results.map fun result =>
          result.rules.allGroups.map fun group => group.rules.length) =
        [[3, 10, 2, 3, 3]] ∧
      ∀ result ∈ results, result.rules.SortedByKind := by
  let calculate : AlertCalculation := fun _ _ _ => .ok Alerting.sameAlerts
  let firstEntries : List ChainEntry :=
    [⟨.text "sloth.dev/contrib/sli_total_amount/v1", .null, -3⟩,
      ⟨.text "sloth.dev/core/alert_rules/v1", .null, -2⟩]
  let lastEntries : List ChainEntry :=
    [⟨.text "sloth.dev/contrib/denominator_corrected_rules/v1", .null, 0⟩,
      ⟨.text "sloth.dev/contrib/sli_total_amount/v1", .null, 1⟩,
      ⟨.text "sloth.dev/contrib/remove_labels/v1", .null, 2⟩,
      ⟨.text "sloth.dev/contrib/error_budget_exhausted_alert/v1", .null, 3⟩]
  have merged :
      Chain.merge suppliedRequest.group.chain suppliedSlo.chain suppliedEntries =
        firstEntries ++ lastEntries := by
    cbv
  let outcome : Except Failure Generated :=
    make false suppliedEntries (some shippedPlugin) >>= fun generator =>
      generator.processorsOf firstEntries >>= fun firsts =>
        generator.processorsOf lastEntries >>= fun lasts =>
          Job.outcome {} calculate
            ⟨suppliedRequest.labelled suppliedSlo, firsts ++ generator.standard ++ lasts⟩
  have counted :
      outcome.toOption.map
          (fun result => result.rules.allGroups.map fun group => group.rules.length) =
        some [3, 10, 2, 3, 3] := by
    decide +kernel
  rcases Option.map_eq_some_iff.mp counted with ⟨result, isResult, sameCounts⟩
  have isDone : outcome = .ok result := Attempt.toOption_eq_some_iff.mp isResult
  rcases Attempt.bind_eq_ok_iff.mp isDone with ⟨generator, made, afterMade⟩
  rcases Attempt.bind_eq_ok_iff.mp afterMade with ⟨firsts, areFirsts, afterFirsts⟩
  rcases Attempt.bind_eq_ok_iff.mp afterFirsts with ⟨lasts, areLasts, jobDone⟩
  rcases fields_of_make made with ⟨sameEntries, samePlugins⟩
  have areSteps :
      generator.processorsFor suppliedRequest.group
          (suppliedRequest.labelled suppliedSlo) =
        .ok (firsts ++ generator.standard ++ lasts) := by
    apply processorsFor_eq_ok_iff.mpr
    refine ⟨firsts, lasts, ?_, ?_, rfl⟩
    · rw [sameEntries]
      show generator.processorsOf (Chain.before (Chain.merge _ suppliedSlo.chain _)) = _
      rw [merged]
      exact areFirsts
    · rw [sameEntries]
      show generator.processorsOf (Chain.after (Chain.merge _ suppliedSlo.chain _)) = _
      rw [merged]
      exact areLasts
  have generatedOne :
      generator.generateOne calculate suppliedRequest suppliedSlo = .ok result :=
    Attempt.bind_eq_ok_iff.mpr
      ⟨_, jobFor_eq_ok_iff.mpr ⟨rfl, _, areSteps, rfl⟩, jobDone⟩
  have isOnly : suppliedRequest.only suppliedSlo = suppliedRequest := rfl
  have generated :
      (generator.generate calculate suppliedRequest).result = .ok [result] := by
    rw [← isOnly]
    exact generate_only_eq_ok_iff.mpr ⟨result, generatedOne, rfl⟩
  have keeps :
      ∀ slo ∈ suppliedRequest.group.slos, slo.chain.overrides = false := by
    decide
  have supplied : generator.NamesSupplied suppliedRequest := by
    intro entry member plugin resolved
    apply supplied_of_resolve _ resolved
    rw [samePlugins]
    rintro find isFind name other found
    cases isFind
    exact supplied_of_shippedPlugin found
  have each := generate_sortedByKind made keeps supplied generated
  refine ⟨generator, [result], generated, congrArg (fun counts => [counts]) sameCounts, ?_⟩
  intro other member
  rcases Attempt.exists_left_of_forall₂ each member with ⟨slo, _, _, sorted, _⟩
  exact sorted

end Generator

end ServiceLevel
