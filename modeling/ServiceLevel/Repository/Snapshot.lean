import ServiceLevel.Indicator.Query
import ServiceLevel.Processor.Plugin

/-!
# Snapshots of loaded plugins

A snapshot maps identifiers to plugins, separately for the two kinds.  Adding a
plugin whose identifier is taken by another one of its kind is a collision.
-/

namespace ServiceLevel

/-- A plugin of one of the two kinds. -/
inductive AnyPlugin where
  | indicator (plugin : IndicatorPlugin)
  | processor (plugin : Plugin)

namespace AnyPlugin

/-- The kind of a plugin. -/
def kind : AnyPlugin → PluginKind
  | .indicator _ => .indicator
  | .processor _ => .processor

/-- The identifier of a plugin. -/
def id : AnyPlugin → String
  | .indicator plugin => plugin.id
  | .processor plugin => plugin.id

end AnyPlugin

/-- The plugins that a scan has loaded. -/
structure Snapshot where
  indicators : Entries IndicatorPlugin := .empty
  processors : Entries Plugin := .empty

namespace Snapshot

/-- Whether an identifier is taken by a plugin of a kind. -/
def holds (snapshot : Snapshot) (kind : PluginKind) (id : String) : Bool :=
  match kind with
  | .indicator => (snapshot.indicators.get? id).isSome
  | .processor => (snapshot.processors.get? id).isSome

/-- A snapshot with one more plugin. -/
def put (snapshot : Snapshot) : AnyPlugin → Snapshot
  | .indicator plugin =>
    { snapshot with indicators := snapshot.indicators.put plugin.id plugin }
  | .processor plugin =>
    { snapshot with processors := snapshot.processors.put plugin.id plugin }

/-- A snapshot with one more plugin, unless its identifier is taken. -/
def add (snapshot : Snapshot) (plugin : AnyPlugin) : Except Failure Snapshot :=
  if snapshot.holds plugin.kind plugin.id then
    .error (.collision (.text plugin.id) (.text plugin.kind.name))
  else .ok (snapshot.put plugin)

/-- The indicator plugin with an identifier. -/
def indicator (snapshot : Snapshot) (id : String) : Except Failure IndicatorPlugin :=
  match snapshot.indicators.get? id with
  | some plugin => .ok plugin
  | none => .error (.notFound (.text id))

/-- The plugin with an identifier that makes processors. -/
def processor (snapshot : Snapshot) (id : String) : Except Failure Plugin :=
  match snapshot.processors.get? id with
  | some plugin => .ok plugin
  | none => .error (.notFound (.text id))

theorem holds_put (snapshot : Snapshot) (plugin : AnyPlugin) (kind : PluginKind) (id : String) :
    (snapshot.put plugin).holds kind id =
      (decide (plugin.kind = kind ∧ id = plugin.id) || snapshot.holds kind id) := by
  by_cases same : id = plugin.id <;> cases plugin <;> cases kind <;>
    simp_all [put, holds, AnyPlugin.kind, AnyPlugin.id]

end Snapshot

end ServiceLevel
