import ProxyCatalog.Mutation.Direct
import ProxyCatalog.Mutation.Rebuild

/-!
# Mutations that reload

Reloading takes the truth from outside: a whole database from the configuration in the store and
the storage engines, one schema or one table from the engines. Here the store is compared with what
is found, so it agrees afterwards whatever it held before.

A schema in which the engines report no table is dropped, and so is a table that they do not
report.
-/

namespace ProxyCatalog

namespace Snapshot

/-! ### A database -/

/-- Rebuilds a database from the configuration in the store. The stored properties and global rules
replace the installed ones. -/
def rebuildStored (reg : Registry) (s : Snapshot) (d : Database) (sw : Switch) :
    SiteM Snapshot := do
  let props ← Site.loadProperties
  let configs ← Site.loadDatabaseRules d.name
  let globalConfigs ← Site.loadGlobalRules
  let rebuilt ← Assembly.fromEngines reg d.name (sw.apply d.pools) configs props
  let rules ← SiteM.ofExcept (reg.buildGlobal globalConfigs)
  -- The other parts of the difference are written by comparing with what the store really holds.
  (DatabaseDelta.between rebuilt.schemas d.schemas).dropped.forM fun name =>
    Site.dropSchema d.name name
  rebuilt.schemas.entries.forM fun e => Site.compareAndPersist d.name e.1 e.2
  return s.withCatalog (.make (s.catalog.databasesWith rebuilt) rules props)

/-- Plans to rebuild a database from the configuration in the store. -/
def reloadDatabase (reg : Registry) (s : Snapshot) (database : String) :
    SiteM (Option Change) := do
  let d ← SiteM.ofExcept (s.findDatabase database)
  let specs ← Site.loadPools d.name
  let sw ← Site.openSwitch d.pools specs .replace
  let next ← Site.closingOnFault sw.opened (s.rebuildStored reg d sw)
  return some { snapshot := next, retired := sw.stale }

/-! ### A schema -/

/-- The one pool of a database with this name, which has to exist. -/
def findPool (d : Database) (pool : String) : Except Fault Pools :=
  match d.pools.subset? pool with
  | some p => .ok p
  | none => .error (.poolNotFound d.name pool)

/-- What the storage engines behind some pools report for one schema of a database. -/
def discoverSchema (s : Snapshot) (d : Database) (pools : Pools) (schema : String)
    (tables : Option (List String)) : SiteM (Option Schema) := do
  let name := Text.lower schema
  let found ← Site.discover ⟨d.name, d.protocol, pools, d.rules, s.catalog.props, name⟩ tables
  return found.get? name

/-- Plans to reload a schema through one pool. Stored views are put over the reported ones. -/
def reloadSchema (s : Snapshot) (database schema pool : String) : SiteM (Option Change) := do
  let d ← SiteM.ofExcept (s.findDatabase database)
  let pools ← SiteM.ofExcept (findPool d pool)
  let found ← s.discoverSchema d pools schema none
  let views ← Site.loadViews d.name schema
  let content := (found.getD ∅).putViews views
  let changed ←
    if content.tables.isEmpty then do
      Site.dropSchema d.name schema
      pure (d.withoutSchema schema)
    else do
      Site.compareAndPersist d.name schema content
      pure (d.withSchema schema content)
  let changed ← SiteM.ofExcept changed.reloadRoutes
  return some { snapshot := s.withDatabase changed }

/-! ### A table -/

/-- The database with a table put or taken out, as it was found or not. Nothing is left to do where
neither the schema nor the table exists. -/
def withFoundTable (d : Database) (schema table : String) (found : Option Table) :
    Except Fault (Option Database) :=
  match d.schema? schema, found with
  | none, none => .ok none
  | content, some t =>
    ((d.withSchema schema ((content.getD ∅).putTable t)).reloadUnlessKnown schema [table]).map some
  | some content, none =>
    .ok (some ((d.withSchema schema (content.removeTable table)).forgetTable schema table))

/-- Plans to reload a table through some pools of a database. -/
def reloadTableThrough (s : Snapshot) (d : Database) (pools : Pools) (schema table : String) :
    SiteM (Option Change) := do
  let found ← s.discoverSchema d pools schema (some [table])
  match ← SiteM.ofExcept (withFoundTable d schema table (found.bind (·.table? table))) with
  | none => return none
  | some changed =>
    match changed.schema? schema with
    | some content => Site.compareAndPersist changed.name schema content
    | none => pure ()
    return some { snapshot := s.withDatabase changed }

/-- Plans to reload a table, through one pool or all pools. -/
def reloadTable (s : Snapshot) (database schema table : String) (pool : Option String) :
    SiteM (Option Change) := do
  let d ← SiteM.ofExcept (s.findDatabase database)
  let pools ← match pool with
    | none => pure d.pools
    | some name => SiteM.ofExcept (findPool d name)
  s.reloadTableThrough d pools schema table

end Snapshot

end ProxyCatalog
