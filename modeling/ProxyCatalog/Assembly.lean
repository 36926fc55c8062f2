import ProxyCatalog.Site.PoolAccess
import ProxyCatalog.Site.StoreAccess
import ProxyCatalog.Snapshot

/-!
# Assembling databases and snapshots

A database is assembled from its pools, its rule configurations and its schemas. The schemas come
from the durable store, when a proxy starts, or from the storage engines, when a change has to see
what is there now; views are in the store in either case, since engines report tables only.

`assemble` makes the first snapshot of a proxy out of the store. Pools are opened database by
database, and those of the databases assembled so far are closed again if a later step fails. The
databases are kept by their folded names, so one that replaces another leaves its pools open.
-/

namespace ProxyCatalog

namespace Assembly

/-- Adds a schema without objects unless there is one of this name. -/
def withDefault (schemas : NameMap Schema) (name : String) : NameMap Schema :=
  if schemas.contains name then schemas else schemas.insert name ∅

/-! ### One database -/

/-- Assembles a database from the schemas in the store, without asking the storage engines. -/
def fromStore (reg : Registry) (name : String) (pools : Pools) (configs : List RuleConfig)
    (props : Properties) : SiteM Database := do
  let protocol ← SiteM.ofExcept (props.protocol pools.dialects)
  let stored ← Site.foldNames name (← Site.loadSchemas name)
  let schemas := withDefault stored (protocol.defaultSchema name)
  let rules ← SiteM.ofExcept (reg.buildDatabase name configs pools (some schemas))
  return .make name protocol pools rules schemas

/-- Puts the stored views of a database over those of its schemas. -/
def withStoredViews (database : String) (schemas : NameMap Schema) : SiteM (NameMap Schema) := do
  let entries ← schemas.entries.mapM fun e => do
    let views ← Site.loadViews database e.1
    return (e.1, e.2.putViews views)
  return .ofList entries

/-- Assembles a database from what the storage engines report, its rules being built before the
schemas are known and the routes of single tables loaded after. -/
def fromEngines (reg : Registry) (name : String) (pools : Pools) (configs : List RuleConfig)
    (props : Properties) : SiteM Database := do
  let protocol ← SiteM.ofExcept (props.protocol pools.dialects)
  let rules ← SiteM.ofExcept (reg.buildDatabase name configs pools none)
  let defaultSchema := protocol.defaultSchema name
  let found ← Site.discover ⟨name, protocol, pools, rules, props, defaultSchema⟩ none
  let schemas ← withStoredViews name (withDefault found defaultSchema)
  SiteM.ofExcept (Database.make name protocol pools rules schemas).reloadRoutes

/-! ### The first snapshot -/

/-- Puts the persisted rows of a database into the row cache. -/
def withStoredRows (rows : RowCache) (database : String) (stored : DatabaseRows) : RowCache :=
  stored.entries.foldl (fun rows e => rows.withSchema database e.1 e.2) rows

/-- Closes the pools of databases. -/
def closeDatabases (databases : NameMap Database) (s : Site) : Site :=
  databases.values.foldl (fun s d => s.closePools d.pools) s

/-- Opens the pools of a database and assembles it from the store. Its pools are closed again if it
cannot be assembled, but not if its rules cannot be read. -/
def openDatabase (reg : Registry) (props : Properties) (name : String) : SiteM Database := do
  let specs ← Site.loadPools name
  let opening ← Site.openSwitch ∅ specs .overlay
  let configs ← Site.loadDatabaseRules name
  Site.closingOnFault opening.opened (fromStore reg name (opening.apply ∅) configs props)

/-- Assembles the databases with the given names, beside those assembled so far, and then the
global rules. Whatever fails, the databases that stand in the map by then are closed. -/
def assembleFrom (reg : Registry) (props : Properties) :
    List String → NameMap Database → RowCache → SiteM Snapshot
  | [], databases, rows => Site.onFault (closeDatabases databases) do
    let configs ← Site.loadGlobalRules
    let rules ← SiteM.ofExcept (reg.buildGlobal configs)
    return ⟨.make databases rules props, rows⟩
  | name :: names, databases, rows => do
    let d ← Site.onFault (closeDatabases databases) (openDatabase reg props name)
    -- A database that stood under the same name is no longer in the map.
    let loaded := databases.insert d.name d
    let stored ← Site.onFault (closeDatabases loaded) (Site.loadRows name)
    assembleFrom reg props names loaded (withStoredRows rows name stored)

/-- Assembles the first snapshot. Stored properties are put over the initial ones. -/
def assemble (reg : Registry) (initial : Properties) : SiteM Snapshot := do
  let stored ← Site.loadProperties
  let names ← Site.loadDatabaseNames
  assembleFrom reg (initial.merged stored) names ∅ ∅

end Assembly

end ProxyCatalog
