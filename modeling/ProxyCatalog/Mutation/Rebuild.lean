import ProxyCatalog.Assembly
import ProxyCatalog.Mutation

/-!
# Mutations that rebuild a database

A change of the rules or of the pools of a database rebuilds it: its rules are built, the storage
engines report its schemas, and the global rules are built again against the result. The store is
then brought to the new schemas by the difference from the old ones. Where new pools were opened
for the change, they are closed again if a later step fails.
-/

namespace ProxyCatalog

namespace Snapshot

/-- The database with this name, which has to exist. -/
def findDatabase (s : Snapshot) (name : String) : Except Fault Database :=
  match s.database? name with
  | some d => .ok d
  | none => .error (.databaseNotFound name)

/-- The snapshot with a rebuilt database, and the global rules built again. -/
def withRebuilt (reg : Registry) (s : Snapshot) (d : Database) : Except Fault Snapshot := do
  let rules ← reg.buildGlobal (RuleSet.configs s.catalog.globalRules)
  return s.withCatalog (.make (s.catalog.databasesWith d) rules s.catalog.props)

/-- Rebuilds a database with new pools and rules, and brings the store to its schemas. -/
def rebuild (reg : Registry) (s : Snapshot) (d : Database) (pools : Pools)
    (configs : List RuleConfig) : SiteM Snapshot := do
  let rebuilt ← Assembly.fromEngines reg d.name pools configs s.catalog.props
  let next ← SiteM.ofExcept (s.withRebuilt reg rebuilt)
  Site.persistDelta rebuilt.name (.between rebuilt.schemas d.schemas)
  return next

/-- Plans to replace the rules of a database. -/
def alterRules (reg : Registry) (s : Snapshot) (database : String) (configs : List RuleConfig) :
    SiteM (Option Change) := do
  let d ← SiteM.ofExcept (s.findDatabase database)
  let next ← s.rebuild reg d d.pools configs
  return some { snapshot := next, releases := Change.releasesOfRebuild s d }

/-- Rebuilds a database after a switch of its pools, and persists its cached rows. -/
def rebuildSwitched (reg : Registry) (s : Snapshot) (d : Database) (sw : Switch)
    (configs : List RuleConfig) : SiteM Snapshot := do
  let next ← s.rebuild reg d (sw.apply d.pools) configs
  ((s.rows.database? d.name).getD ∅).entries.forM fun e => Site.persistRows d.name e.1 e.2
  return next

/-- Plans to switch the pools of a database, and to give it rules. -/
def switchPools (reg : Registry) (s : Snapshot) (d : Database) (specs : NameMap PoolSpec)
    (mode : SwitchMode) (configs : List RuleConfig) : SiteM (Option Change) := do
  let sw ← Site.openSwitch d.pools specs mode
  let next ← Site.closingOnFault sw.opened (s.rebuildSwitched reg d sw configs)
  return some
    { snapshot := next, releases := Change.releasesOfRebuild s d, retired := sw.stale }

/-- Plans to replace the pools of a database. Its rules are built again from their
configurations. -/
def alterPools (reg : Registry) (s : Snapshot) (database : String) (specs : NameMap PoolSpec) :
    SiteM (Option Change) := do
  let d ← SiteM.ofExcept (s.findDatabase database)
  s.switchPools reg d specs .replace (RuleSet.configs d.rules)

/-- Plans to add or change pools of a database and to replace its rules. -/
def alterPoolsAndRules (reg : Registry) (s : Snapshot) (database : String)
    (specs : NameMap PoolSpec) (configs : List RuleConfig) : SiteM (Option Change) := do
  let d ← SiteM.ofExcept (s.findDatabase database)
  s.switchPools reg d specs .overlay configs

end Snapshot

end ProxyCatalog
