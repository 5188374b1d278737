import ServiceLevel.Source.Loaded
import ServiceLevel.Source.Standard
import ServiceLevel.Proofs.Attempt
import ServiceLevel.Proofs.Source.Binding
import ServiceLevel.Proofs.Source.Declaring

/-!
# What the loaders accept

A loader names the module of a source, has it run in a sandbox of its own and then looks at
three symbols.  Here is said what it takes for a source to define a plugin of a kind, and the
main statement is that the loader accepts exactly those sources.  What it gives is fixed by the
end of the run alone: a symbol that was bound several times, by assignments, definitions or
imports in any order, has the value of the last binding.

What given functions and objects do is up to the library that plugin code runs with, and all is
said for every one.  There is one way in which a loader refuses a source: the plugin cannot be
loaded.
-/

namespace ServiceLevel

open Source

/-! ## Entries -/

namespace Source.Value

/-- All parameters are positional, and there are so many of them. -/
structure AllPositional (count : Nat) (parameters : List Parameter) : Prop where
  positional :
    ∀ parameter ∈ parameters,
      parameter.kind = .positional ∨ parameter.kind = .positionalOnly
  number : parameters.length = count

/--
A value that can be called with a number of positional arguments and takes nothing else: a
function or a class with so many parameters, with defaults or without, a given function, or an
object that the library has made such, as the methods of what a class makes.
-/
inductive TakesExactly (count : Nat) : Value → Prop
  | function {parameters : List Parameter} (place : Nat) (name : String)
      (defaults : List (Option Value)) (given : Option Value) (body : Body)
      (all : AllPositional count parameters) :
      TakesExactly count (.function place name parameters defaults given body)
  | constructor {parameters : List Parameter} (place : Nat) (name : String)
      (defaults : List (Option Value)) (all : AllPositional count parameters) :
      TakesExactly count (.constructor place name parameters defaults)
  | given (name : String) :
      TakesExactly count (.given name (some count))
  | object (place : Nat) (typeName : String) :
      TakesExactly count (.object place typeName (some count))

theorem positionalCount?_eq_some_iff
    {count : Nat}
    {parameters : List Parameter} :
    positionalCount? parameters = some count ↔ AllPositional count parameters := by
  rw [positionalCount?]
  constructor
  · intro counted
    split at counted
    · rename_i areAll
      cases counted
      refine ⟨?_, rfl⟩
      intro parameter member
      simpa using List.all_eq_true.mp areAll parameter member
    · cases counted
  · rintro ⟨positional, rfl⟩
    rw [if_pos]
    rw [List.all_eq_true]
    intro parameter member
    simpa using positional parameter member

theorem arity?_eq_some_iff
    {count : Nat}
    {value : Value} :
    value.arity? = some count ↔ value.TakesExactly count := by
  constructor
  · intro takes
    cases value with
    | function place name parameters defaults given body =>
        exact .function place name defaults given body (positionalCount?_eq_some_iff.mp takes)
    | constructor place name parameters defaults =>
        exact .constructor place name defaults (positionalCount?_eq_some_iff.mp takes)
    | given name parameters =>
        cases takes
        exact .given name
    | object place typeName parameters =>
        cases takes
        exact .object place typeName
    | _ => cases takes
  · intro takes
    cases takes with
    | function place name defaults given body all => exact positionalCount?_eq_some_iff.mpr all
    | constructor place name defaults all => exact positionalCount?_eq_some_iff.mpr all
    | given name => rfl
    | object place typeName => rfl

end Source.Value

namespace LoadedPlugin

/-! ## The symbols of a plugin -/

theorem lookup_eq_ok_iff
    {sandbox : Sandbox}
    {name : String}
    {value : Value} :
    sandbox.lookup name = .ok value ↔ sandbox.symbols.get? name = some value := by
  rw [Sandbox.lookup]
  cases sandbox.symbols.get? name with
  | none => simp
  | some found => simp

theorem textSymbol_eq_ok_iff
    {sandbox : Sandbox}
    {label symbol content : String} :
    textSymbol sandbox label symbol = .ok content ↔
      sandbox.symbols.get? symbol = some (.text content) := by
  rw [← lookup_eq_ok_iff, textSymbol, Attempt.bind_eq_ok_iff]
  constructor
  · rintro ⟨value, found, isText⟩
    rw [found]
    split at isText
    · cases isText
      rfl
    · cases isText
  · intro found
    exact ⟨_, found, rfl⟩

/-- At the end of its run a source has left a plugin of a kind in its sandbox. -/
structure IsLeftIn (kind : PluginKind) (sandbox : Sandbox) (id : String) (entry : Value) :
    Prop where
  versioned : sandbox.symbols.get? kind.versionSymbol = some (.text kind.version)
  identified : sandbox.symbols.get? kind.idSymbol = some (.text id)
  nonempty : id ≠ ""
  entered : sandbox.symbols.get? kind.entrySymbol = some entry
  takes : entry.TakesExactly kind.entryArity

theorem ofSandbox_eq_ok_iff
    {library : Library}
    {kind : PluginKind}
    {sandbox : Sandbox}
    {plugin : LoadedPlugin} :
    ofSandbox library kind sandbox = .ok plugin ↔
      plugin.library = library ∧
        plugin.sandbox = sandbox ∧ IsLeftIn kind sandbox plugin.id plugin.entry := by
  rw [ofSandbox, Attempt.bind_eq_ok_iff]
  constructor
  · rintro ⟨version, versioned, continued⟩
    split at continued
    · cases continued
    rename_i sameVersion
    obtain ⟨id, identified, continued⟩ := Attempt.bind_eq_ok_iff.mp continued
    split at continued
    · cases continued
    rename_i nonempty
    obtain ⟨entry, entered, continued⟩ := Attempt.bind_eq_ok_iff.mp continued
    split at continued
    · rename_i takes
      cases continued
      rw [not_ne_iff] at sameVersion
      subst sameVersion
      refine
        ⟨rfl, rfl, textSymbol_eq_ok_iff.mp versioned, textSymbol_eq_ok_iff.mp identified, ?_,
          lookup_eq_ok_iff.mp entered, Value.arity?_eq_some_iff.mp takes⟩
      rintro rfl
      exact nonempty rfl
    · cases continued
  · obtain ⟨id, given, own, entry⟩ := plugin
    rintro ⟨rfl, rfl, versioned, identified, nonempty, entered, takes⟩
    refine ⟨kind.version, textSymbol_eq_ok_iff.mpr versioned, ?_⟩
    rw [if_neg (not_not_intro rfl), Attempt.bind_eq_ok_iff]
    refine ⟨id, textSymbol_eq_ok_iff.mpr identified, ?_⟩
    rw [if_neg (by simpa using nonempty), Attempt.bind_eq_ok_iff]
    refine ⟨entry, lookup_eq_ok_iff.mpr entered, ?_⟩
    rw [if_pos (Value.arity?_eq_some_iff.mpr takes)]
    rfl

/-! ## Refusals -/

theorem kind_of_lookup
    {sandbox : Sandbox}
    {name : String}
    {failure : Failure}
    (failed : sandbox.lookup name = .error failure) :
    failure.kind = .pluginLoad := by
  rw [Sandbox.lookup] at failed
  split at failed
  · cases failed
  · cases failed
    rfl

theorem kind_of_textSymbol
    {sandbox : Sandbox}
    {label symbol : String}
    {failure : Failure}
    (failed : textSymbol sandbox label symbol = .error failure) :
    failure.kind = .pluginLoad := by
  rcases Attempt.bind_eq_error_iff.mp failed with missing | ⟨value, _, refused⟩
  · exact kind_of_lookup missing
  · split at refused
    · cases refused
    · cases refused
      rfl

theorem kind_of_ofSandbox
    {library : Library}
    {kind : PluginKind}
    {sandbox : Sandbox}
    {failure : Failure}
    (failed : ofSandbox library kind sandbox = .error failure) :
    failure.kind = .pluginLoad := by
  rcases Attempt.bind_eq_error_iff.mp failed with noVersion | ⟨version, _, versioned⟩
  · exact kind_of_textSymbol noVersion
  split at versioned
  · cases versioned
    rfl
  rcases Attempt.bind_eq_error_iff.mp versioned with noId | ⟨id, _, named⟩
  · exact kind_of_textSymbol noId
  split at named
  · cases named
    rfl
  rcases Attempt.bind_eq_error_iff.mp named with noEntry | ⟨entry, _, entered⟩
  · exact kind_of_lookup noEntry
  · split at entered
    · cases entered
    · cases entered
      rfl

theorem kind_of_stopped (cause : Failure) : (stopped cause).kind = .pluginLoad := by
  rw [stopped]
  split
  · assumption
  · rfl

theorem kind_of_run
    {library : Library}
    {source : Source}
    {before after : Sandbox}
    {failure : Failure}
    (failed : before.run library source = (.error failure, after)) :
    failure.kind = .pluginLoad := by
  rw [Sandbox.run] at failed
  split at failed
  · cases failed
    rfl
  split at failed
  · rename_i refused
    cases failed
    rw [Source.guard] at refused
    split at refused
    · cases refused
    · cases refused
      rfl
  split at failed
  · cases failed
    rfl
  split at failed
  · cases failed
  · cases failed
    exact kind_of_stopped _

/-- A loader refuses a source in one way only: the plugin cannot be loaded. -/
theorem kind_of_ofSource
    {library : Library}
    {kind : PluginKind}
    {source : Source}
    {failure : Failure}
    (failed : (ofSource library kind source).1 = .error failure) :
    failure.kind = .pluginLoad := by
  rw [ofSource] at failed
  split at failed
  · rename_i unnamed
    cases failed
    rw [moduleName, moduleNameOf] at unnamed
    split at unnamed
    · cases unnamed
    · cases unnamed
      rfl
  split at failed
  · rename_i stopped
    cases failed
    exact kind_of_run stopped
  split at failed
  · rename_i refused
    cases failed
    exact kind_of_ofSandbox refused
  · cases failed

/-! ## Sources -/

/-- A source that names its module and runs to its end, where it has left a plugin. -/
structure IsDefinedBy (library : Library) (kind : PluginKind) (source : Source)
    (plugin : LoadedPlugin) : Prop where
  wellFormed : source.isWellFormed
  distinct : source.hasDistinctParameters
  guarded : source.guard Surface.importable = .ok ()
  ran :
    ∃ name,
      FirstDeclares (lines source.outline) name ∧
        runAll library source.statements (.fresh name) = (.ok (), plugin.sandbox)
  given : plugin.library = library
  left : IsLeftIn kind plugin.sandbox plugin.id plugin.entry

theorem ofSource_eq_ok_iff
    {library : Library}
    {kind : PluginKind}
    {source : Source}
    {plugin : LoadedPlugin} :
    (ofSource library kind source).1 = .ok plugin ↔ plugin.IsDefinedBy library kind source := by
  rw [ofSource]
  constructor
  · intro loaded
    split at loaded
    · cases loaded
    rename_i name named
    split at loaded
    · cases loaded
    rename_i sandbox ran
    split at loaded
    · cases loaded
    rename_i other left
    cases loaded
    obtain ⟨wellFormed, guarded, distinct, ran⟩ := Sandbox.run_eq_ok_iff.mp ran
    obtain ⟨given, rfl, left⟩ := ofSandbox_eq_ok_iff.mp left
    exact
      ⟨wellFormed, distinct, guarded, ⟨name, moduleName_eq_ok_iff.mp named, ran⟩, given, left⟩
  · rintro ⟨wellFormed, distinct, guarded, ⟨name, named, ran⟩, given, left⟩
    rw [moduleName_eq_ok_iff.mpr named]
    simp only [Sandbox.run_eq_ok_iff.mpr ⟨wellFormed, guarded, distinct, ran⟩,
      ofSandbox_eq_ok_iff.mpr ⟨given, rfl, left⟩]

/-- The lines of a plugin end with line feeds alone. -/
theorem IsDefinedBy.lineEnd_eq_feed
    {library : Library}
    {kind : PluginKind}
    {source : Source}
    {plugin : LoadedPlugin}
    (defined : plugin.IsDefinedBy library kind source) :
    source.lineEnd = .feed := by
  obtain ⟨name, named, _⟩ := defined.ran
  exact (moduleName_eq_ok_iff_written.mp (moduleName_eq_ok_iff.mpr named)).1

theorem get?_fresh_eq_none
    {name symbol : String}
    (notBuiltins : symbol ≠ Surface.builtinsName)
    (notName : symbol ≠ "__name__") :
    (Sandbox.fresh name).symbols.get? symbol = none := by
  simp [Sandbox.fresh, Entries.ofList, notBuiltins, notName]

/-- The symbols of a plugin are none of those that its sandbox begins with. -/
theorem get?_fresh_symbol (kind : PluginKind) (name : String) :
    (Sandbox.fresh name).symbols.get? kind.idSymbol = none ∧
      (Sandbox.fresh name).symbols.get? kind.entrySymbol = none := by
  constructor
  · cases kind <;> exact get?_fresh_eq_none (by decide) (by decide)
  · cases kind <;> exact get?_fresh_eq_none (by decide) (by decide)

/--
Whatever plugin code is given, the loader of a kind accepts exactly the sources that define a
plugin of that kind: they name their module, the guard lets them pass, they run to their end,
and there the three symbols stand for what they have to.  What it gives carries the identifier
and the entry that the last statements that bind their symbols gave them, and the line that
named its module ends as all others do, with a line feed alone.  Of every other source it says
that the plugin cannot be loaded.
-/
theorem ofSource_exact (library : Library) (kind : PluginKind) (source : Source) :
    (∀ plugin : LoadedPlugin,
        (ofSource library kind source).1 = .ok plugin ↔
          plugin.IsDefinedBy library kind source) ∧
      (∀ plugin : LoadedPlugin, (ofSource library kind source).1 = .ok plugin →
        source.lineEnd = .feed ∧
          ∃ name,
            FirstDeclares (lines source.outline) name ∧
              (Statement.binding library).Last (.fresh name) source.statements kind.idSymbol
                (.text plugin.id) ∧
              (Statement.binding library).Last (.fresh name) source.statements kind.entrySymbol
                plugin.entry) ∧
      ((∀ plugin : LoadedPlugin, ¬ plugin.IsDefinedBy library kind source) →
        ∃ failure,
          (ofSource library kind source).1 = .error failure ∧ failure.kind = .pluginLoad) := by
  refine ⟨fun plugin => ofSource_eq_ok_iff, ?_, ?_⟩
  · intro plugin loaded
    have defined := ofSource_eq_ok_iff.mp loaded
    obtain ⟨name, named, ran⟩ := defined.ran
    obtain ⟨newId, newEntry⟩ := get?_fresh_symbol kind name
    exact
      ⟨defined.lineEnd_eq_feed, name, named, last_of_get?_runAll ran newId defined.left.identified,
        last_of_get?_runAll ran newEntry defined.left.entered⟩
  · intro undefined
    cases loaded : (ofSource library kind source).1 with
    | ok plugin => exact absurd (ofSource_eq_ok_iff.mp loaded) (undefined plugin)
    | error failure => exact ⟨failure, rfl, kind_of_ofSource loaded⟩

/-- A source that binds its symbols again, by imports and items too, until it is a plugin. -/
def rebound : Source where
  statements :=
    [.function "new_plugin" [{ name := "config" }] (.returns (.constant .null)),
      .assign (.name "PLUGIN_ID") (.call (.name "str") [.constant (.text "first")]),
      .comment "# plugin-module:  rebound ",
      .importNames 0 "slogen.model" [⟨"SLO_PLUGIN_VERSION", some "PLUGIN_VERSION"⟩],
      .importNames 0 "re" [⟨"search", some "new_plugin"⟩, ⟨"compile", some "new_plugin"⟩],
      .assign (.name "PATTERN") (.call (.name "new_plugin") [.constant (.text "[a-z]+")]),
      .assign (.name "ids") (.list [.constant (.text "zeroth"), .name "PLUGIN_ID"]),
      .assign (.index (.name "ids") (.constant (.ofInt (-1)))) (.constant (.text "second")),
      .assign (.list [.name "first", .name "PLUGIN_ID"]) (.name "ids")]

/-- The source is a plugin with its second identifier, and no plugin of the other kind. -/
theorem ofSource_exact_of_rebound :
    (∃ plugin,
      (ofSource .standard .processor rebound).1 = .ok plugin ∧
        plugin.id = "second" ∧
        plugin.entry.TakesExactly 2 ∧
        ∃ name,
          FirstDeclares (lines rebound.outline) name ∧
            (Statement.binding .standard).Last (.fresh name) rebound.statements "new_plugin"
              plugin.entry) ∧
      ∃ failure,
        (ofSource .standard .indicator rebound).1 = .error failure ∧
          failure.kind = .pluginLoad := by
  obtain ⟨accepts, carries, _⟩ := ofSource_exact .standard .processor rebound
  obtain ⟨acceptsOther, _, refuses⟩ := ofSource_exact .standard .indicator rebound
  constructor
  · have loadsSecond :
        (ofSource .standard .processor rebound).1.toOption.map LoadedPlugin.id =
          some "second" := by
      decide +kernel
    obtain ⟨plugin, loaded, isSecond⟩ := Option.map_eq_some_iff.mp loadsSecond
    have isLoaded := Attempt.toOption_eq_some_iff.mp loaded
    obtain ⟨_, name, named, _, entered⟩ := carries plugin isLoaded
    exact
      ⟨plugin, isLoaded, isSecond, ((accepts plugin).mp isLoaded).left.takes, name, named,
        entered⟩
  · apply refuses
    intro plugin defined
    have loadsNone : (ofSource .standard .indicator rebound).1.toOption.isSome = false := by
      decide +kernel
    rw [(acceptsOther plugin).mpr defined] at loadsNone
    cases loadsNone

end LoadedPlugin

end ServiceLevel
