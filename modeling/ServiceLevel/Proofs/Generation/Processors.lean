import Mathlib.Data.List.Permutation
import ServiceLevel.Generation
import ServiceLevel.Proofs.Attempt
import ServiceLevel.Proofs.Chain.Arrangement

/-!
# The processors of an objective

An objective is processed by the processors of the entries declared for it,
arranged around the standard ones.  The main statement describes their list as a
whole: which entry has made which processor, and in which order they run.  An
overriding chain runs alone, so that nothing outside of it can change its list.

The identifier of a processor is that of its plugin.  It is the identifier of the
entry wherever plugins are looked up by their identifiers, as the repositories of
an application do.
-/

namespace ServiceLevel

/-! ## Making processors -/

/-- A processor carries the identifier of the plugin that made it. -/
theorem NamedProcessor.id_of_make
    {accepts : String → Bool}
    {plugin : Plugin}
    {config : Setting}
    {step : NamedProcessor}
    (made : make accepts plugin config = .ok step) :
    step.id = plugin.id := by
  simp only [make] at made
  split at made
  · cases made
  · split at made
    · cases made
    · cases made
    · cases made
      rfl

namespace Generator

/-- Every plugin found under a name has this name as its identifier. -/
def FindsByName (generator : Generator) : Prop :=
  ∀ find ∈ generator.plugins,
    ∀ name, ∀ plugin ∈ find name, plugin.id = name

/-- A plugin that is found by name is found under its identifier. -/
theorem id_of_resolve
    {generator : Generator}
    (findsByName : generator.FindsByName)
    {id : Json}
    {plugin : Plugin}
    (resolved : generator.resolve id = .ok plugin) :
    id = .text plugin.id := by
  cases id with
  | text name =>
      simp only [resolve] at resolved
      split at resolved
      · rename_i builtin found
        cases resolved
        have sameName : builtin.id = name := by
          simpa using List.find?_some found
        rw [Plugin.id, sameName]
      · split at resolved
        · rename_i other found
          cases resolved
          obtain ⟨find, present, foundByName⟩ :=
            Option.bind_eq_some_iff.mp found
          rw [findsByName find present name plugin foundByName]
        · cases resolved
  | null => cases resolved
  | bool value => cases resolved
  | number value => cases resolved
  | array items => cases resolved
  | object fields => cases resolved

theorem id_of_processorOf
    {generator : Generator}
    (findsByName : generator.FindsByName)
    {entry : ChainEntry}
    {step : NamedProcessor}
    (made : generator.processorOf entry = .ok step) :
    entry.id = .text step.id := by
  obtain ⟨plugin, resolved, created⟩ := Attempt.bind_eq_ok_iff.mp made
  rw [NamedProcessor.id_of_make created]
  exact id_of_resolve findsByName resolved

theorem processorsOf_eq_mapM
    (generator : Generator)
    (entries : List ChainEntry) :
    generator.processorsOf entries =
      entries.mapM generator.processorOf := by
  induction entries with
  | nil => rfl
  | cons entry rest ih =>
      rw [List.mapM_cons, ← ih]
      rfl

/-! ## The list of an objective -/

/-- The processors of placed entries, one of each and in their order. -/
structure Makes
    (generator : Generator)
    (order : List Chain.Placed)
    (steps : List NamedProcessor) : Prop where
  each :
    List.Forall₂
      (fun placed step => generator.processorOf placed.1 = .ok step)
      order steps
  ids :
    generator.FindsByName →
      (steps.map fun step => Json.text step.id) =
        order.map fun placed => placed.1.id

theorem makes_of_processorsOf
    {generator : Generator}
    {order : List Chain.Placed}
    {steps : List NamedProcessor}
    (made : generator.processorsOf (order.map Prod.fst) = .ok steps) :
    generator.Makes order steps := by
  rw [processorsOf_eq_mapM, Attempt.mapM_eq_ok_iff,
    List.forall₂_map_left_iff] at made
  refine ⟨made, ?_⟩
  intro findsByName
  induction made with
  | nil => rfl
  | cons first rest ih =>
      rw [List.map_cons, List.map_cons, ih,
        id_of_processorOf findsByName first]

/-- The processors that run before, among and after the standard ones. -/
theorem processorsFor_eq_ok_iff
    {generator : Generator}
    {group : SloGroup}
    {slo : Slo}
    {steps : List NamedProcessor} :
    generator.processorsFor group slo = .ok steps ↔
      ∃ firsts lasts,
        generator.processorsOf
            (Chain.before
              (Chain.merge group.chain slo.chain generator.appEntries)) =
          .ok firsts ∧
        generator.processorsOf
            (Chain.after
              (Chain.merge group.chain slo.chain generator.appEntries)) =
          .ok lasts ∧
        firsts ++
            (if slo.chain.overrides then [] else generator.standard) ++
            lasts =
          steps := by
  rw [processorsFor, Attempt.bind_eq_ok_iff]
  constructor
  · rintro ⟨firsts, madeFirsts, continued⟩
    obtain ⟨lasts, madeLasts, same⟩ := Attempt.bind_eq_ok_iff.mp continued
    cases same
    exact ⟨firsts, lasts, madeFirsts, madeLasts, rfl⟩
  · rintro ⟨firsts, lasts, madeFirsts, madeLasts, same⟩
    refine ⟨firsts, madeFirsts, Attempt.bind_eq_ok_iff.mpr ?_⟩
    exact ⟨lasts, madeLasts, congrArg Except.ok same⟩

/-- The arranged parts of what a chain declares, with the processors of each. -/
theorem exists_makes_parts
    {generator : Generator}
    {declared : List ChainEntry}
    {firsts lasts : List NamedProcessor}
    (madeFirsts :
      generator.processorsOf
          (Chain.before (Chain.sortEntries declared)) = .ok firsts)
    (madeLasts :
      generator.processorsOf
          (Chain.after (Chain.sortEntries declared)) = .ok lasts) :
    ∃ early late : List Chain.Placed,
      Chain.Arranged declared (early ++ late) ∧
        (∀ placed ∈ early, placed.1.priority < 0) ∧
        (∀ placed ∈ late, 0 ≤ placed.1.priority) ∧
        generator.Makes early firsts ∧
        generator.Makes late lasts := by
  obtain ⟨early, late, arranged, negative, notNegative, isBefore, isAfter⟩ :=
    Chain.exists_arranged_parts declared
  rw [← isBefore] at madeFirsts
  rw [← isAfter] at madeLasts
  exact
    ⟨early, late, arranged, negative, notNegative,
      makes_of_processorsOf madeFirsts, makes_of_processorsOf madeLasts⟩

theorem Makes.append
    {generator : Generator}
    {left right : List Chain.Placed}
    {firsts lasts : List NamedProcessor}
    (makesFirsts : generator.Makes left firsts)
    (makesLasts : generator.Makes right lasts) :
    generator.Makes (left ++ right) (firsts ++ lasts) where
  each := List.rel_append makesFirsts.each makesLasts.each
  ids := by
    intro findsByName
    rw [List.map_append, List.map_append, makesFirsts.ids findsByName,
      makesLasts.ids findsByName]

/-- An overriding chain has the same processors wherever its plugins are found. -/
theorem processorsFor_of_overrides
    {generator other : Generator}
    {slo : Slo}
    (overrides : slo.chain.overrides = true)
    (samePlugins : other.plugins = generator.plugins)
    (sameAccepts : other.accepts = generator.accepts)
    (group otherGroup : SloGroup) :
    other.processorsFor otherGroup slo =
      generator.processorsFor group slo := by
  have sameResolve : other.resolve = generator.resolve := by
    funext id
    simp only [resolve, samePlugins]
  have sameProcessor : other.processorOf = generator.processorOf := by
    funext entry
    simp only [processorOf, sameResolve, sameAccepts]
  have sameProcessors : other.processorsOf = generator.processorsOf := by
    funext entries
    rw [processorsOf_eq_mapM, processorsOf_eq_mapM, sameProcessor]
  simp only [processorsFor, Chain.merge, overrides, if_true, sameProcessors]

/--
The effective order of processors.  Around the standard ones run the processors
of all declared entries, each exactly once, by priority and then by declaration
on the levels of application, group and objective.  An overriding chain has the
processors of its own entries only, whatever else is declared.
-/
theorem processorsFor_effective_order
    {generator : Generator}
    {group : SloGroup}
    {slo : Slo}
    {steps : List NamedProcessor}
    (made : generator.processorsFor group slo = .ok steps) :
    (slo.chain.overrides = false →
      ∃ (early late : List Chain.Placed) (firsts lasts : List NamedProcessor),
        Chain.Arranged
            (generator.appEntries ++ group.chain.entries ++ slo.chain.entries)
            (early ++ late) ∧
          (∀ placed ∈ early, placed.1.priority < 0) ∧
          (∀ placed ∈ late, 0 ≤ placed.1.priority) ∧
          generator.Makes early firsts ∧
          generator.Makes late lasts ∧
          steps = firsts ++ generator.standard ++ lasts) ∧
      (slo.chain.overrides = true →
        (∃ order : List Chain.Placed,
          Chain.Arranged slo.chain.entries order ∧
            generator.Makes order steps) ∧
          ∀ (other : Generator) (otherGroup : SloGroup),
            other.plugins = generator.plugins →
              other.accepts = generator.accepts →
                other.processorsFor otherGroup slo = .ok steps) := by
  obtain ⟨firsts, lasts, madeFirsts, madeLasts, same⟩ :=
    processorsFor_eq_ok_iff.mp made
  constructor
  · intro keeps
    rw [Chain.merge, keeps] at madeFirsts madeLasts
    obtain
      ⟨early, late, arranged, negative, notNegative, makesFirsts, makesLasts⟩ :=
      exists_makes_parts madeFirsts madeLasts
    rw [keeps] at same
    exact
      ⟨early, late, firsts, lasts, arranged, negative, notNegative,
        makesFirsts, makesLasts, same.symm⟩
  · intro overrides
    constructor
    · rw [Chain.merge, overrides] at madeFirsts madeLasts
      obtain ⟨early, late, arranged, _, _, makesFirsts, makesLasts⟩ :=
        exists_makes_parts madeFirsts madeLasts
      rw [overrides, if_pos rfl, List.append_nil] at same
      rw [← same]
      exact ⟨early ++ late, arranged, makesFirsts.append makesLasts⟩
    · intro other otherGroup samePlugins sameAccepts
      rw [processorsFor_of_overrides overrides samePlugins sameAccepts group otherGroup]
      exact made

/-- An objective whose chain declares a plugin in front of the standard processors. -/
def orderedSlo (overrides : Bool) : Slo where
  id := "shop-orders"
  name := "orders"
  service := "shop"
  indicator := ⟨some "errors", none⟩
  period := ⟨2592000000000⟩
  objective := .whole 99
  chain := ⟨[⟨.text "note", .null, -1⟩, ⟨.text "mark", .null, 0⟩], overrides⟩

/-- A generator for which the same plugin is declared twice. -/
def orderedGenerator : Generator where
  standard := [⟨"standard", .idle⟩]
  appEntries := [⟨.text "mark", .null, 5⟩, ⟨.text "note", .null, -1⟩]
  plugins := some fun name =>
    if name = "note" then some (.scripted { id := "note", actions := [.trace] })
    else if name = "mark" then
      some (.scripted { id := "mark", actions := [.setValue "mark"] })
    else none

theorem processorsFor_effective_order_of_repeated_plugins :
    (orderedGenerator.processorsFor ⟨[], {}⟩ (orderedSlo false)).map
        (·.map NamedProcessor.id) =
      .ok ["note", "note", "standard", "mark", "mark"] ∧
    (orderedGenerator.processorsFor ⟨[], {}⟩ (orderedSlo true)).map
        (·.map NamedProcessor.id) =
      .ok ["note", "mark"] ∧
    (∃ (early late : List Chain.Placed) (firsts lasts : List NamedProcessor),
      Chain.Arranged
          (orderedGenerator.appEntries ++ [] ++ (orderedSlo false).chain.entries)
          (early ++ late) ∧
        orderedGenerator.processorsFor ⟨[], {}⟩ (orderedSlo false) =
          .ok (firsts ++ [⟨"standard", .idle⟩] ++ lasts)) ∧
    ∃ order : List Chain.Placed,
      Chain.Arranged (orderedSlo true).chain.entries order := by
  have made :
      orderedGenerator.processorsFor ⟨[], {}⟩ (orderedSlo false) =
        .ok
          [⟨"note", .scripted "note" "null" [.trace]⟩,
            ⟨"note", .scripted "note" "null" [.trace]⟩,
            ⟨"standard", .idle⟩,
            ⟨"mark", .scripted "mark" "null" [.setValue "mark"]⟩,
            ⟨"mark", .scripted "mark" "null" [.setValue "mark"]⟩] := by
    cbv
  have madeAlone :
      orderedGenerator.processorsFor ⟨[], {}⟩ (orderedSlo true) =
        .ok
          [⟨"note", .scripted "note" "null" [.trace]⟩,
            ⟨"mark", .scripted "mark" "null" [.setValue "mark"]⟩] := by
    cbv
  obtain ⟨early, late, firsts, lasts, arranged, _, _, _, _, same⟩ :=
    (processorsFor_effective_order made).1 rfl
  obtain ⟨order, arrangedAlone, _⟩ :=
    ((processorsFor_effective_order madeAlone).2 rfl).1
  refine ⟨?_, ?_, ⟨early, late, firsts, lasts, arranged, ?_⟩, order, arrangedAlone⟩
  · rw [made]
    rfl
  · rw [madeAlone]
    rfl
  · rw [made, same]
    rfl

end Generator

end ServiceLevel
