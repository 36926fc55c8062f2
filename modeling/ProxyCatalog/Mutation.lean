import ProxyCatalog.Site
import ProxyCatalog.Snapshot

/-!
# Mutations

The changes that an operator, or an event in the cluster, makes to a running proxy. Every mutation
follows one course: from the current snapshot it plans a `Change`, which needs the store and the
storage engines for some mutations and nothing for others; the new snapshot is then installed; and
last the change is followed up by releasing and retiring what the old snapshot no longer needs. A
mutation that plans nothing leaves the current snapshot installed, and so does one that fails.

This module names the mutations; the modules below it plan them.
-/

namespace ProxyCatalog

/-- What becomes of a snapshot, and what is to be done once it is installed. -/
structure Change where
  snapshot : Snapshot
  /-- The rules to ask, in order, to release what they hold. -/
  releases : List Release := []
  /-- The pools that nothing uses any more. -/
  retired : Pools := ∅
deriving DecidableEq

namespace Change

/-- The requests to the rules of a set that hold resources. -/
def releasesOf (rules : RuleSet) (database : Option String) : List Release :=
  rules.heldKinds.map fun k => ⟨k, database⟩

/-- The requests that follow a rebuild of a database: the rules replaced were its own and the
global ones, which are built anew with it. -/
def releasesOfRebuild (s : Snapshot) (d : Database) : List Release :=
  releasesOf d.rules (some d.name) ++ releasesOf s.catalog.globalRules (some d.name)

end Change

/-- Tables and views to put into one schema or to take out of it. -/
structure SchemaChange where
  database : String
  schema : String
  changedTable : Option Table
  changedView : Option View
  deletedTable : Option String
  deletedView : Option String
deriving DecidableEq

namespace SchemaChange

/-- Nothing to put and nothing to take out. -/
def isEmpty (c : SchemaChange) : Bool :=
  c.changedTable.isNone && c.changedView.isNone && c.deletedTable.isNone && c.deletedView.isNone

/-- The names of the objects to put. -/
def changedNames (c : SchemaChange) : List String :=
  (c.changedTable.map Table.name).toList ++ (c.changedView.map View.name).toList

end SchemaChange

/-- A change of the row cache that needs no schema. -/
inductive CacheChange where
  | addDatabase (database : String)
  | dropDatabase (database : String)
  | addSchema (database schema : String)
  | dropSchema (database schema : String)
  | addTable (database schema table : String)
  | dropTable (database schema table : String)
  | deleteRow (database schema table key : String)
deriving DecidableEq

namespace CacheChange

/-- The row cache after the change; `none` where it changes nothing. -/
def apply (rows : RowCache) : CacheChange → Option RowCache
  | addDatabase d => rows.addDatabase d
  | dropDatabase d => rows.dropDatabase d
  | addSchema d s => rows.addSchema d s
  | dropSchema d s => rows.dropSchema d s
  | addTable d s t => rows.addTable d s t
  | dropTable d s t => rows.dropTable d s t
  | deleteRow d s t key => rows.deleteRow d s t key

end CacheChange

/-- A change to a running proxy. -/
inductive Mutation where
  /-- Adds a database without pools and rules. -/
  | addDatabase (database : String)
  | dropDatabase (database : String)
  /-- Adds a schema without objects. -/
  | addSchema (database schema : String)
  | dropSchema (database schema : String)
  /-- Puts or takes out single tables and views. -/
  | alterSchema (change : SchemaChange)
  /-- Replaces the rules of a database. -/
  | alterRules (database : String) (configs : List RuleConfig)
  /-- Replaces the pools of a database. -/
  | alterPools (database : String) (specs : NameMap PoolSpec)
  /-- Adds or changes pools of a database and replaces its rules. -/
  | alterPoolsAndRules (database : String) (specs : NameMap PoolSpec) (configs : List RuleConfig)
  /-- Replaces the global rules. -/
  | alterGlobalRules (configs : List RuleConfig)
  /-- Replaces the global properties. -/
  | alterProperties (values : NameMap String)
  /-- Rebuilds a database from the configuration in the store. -/
  | reloadDatabase (database : String)
  /-- Asks for one schema anew, through one pool. -/
  | reloadSchema (database schema pool : String)
  /-- Asks for one table anew, through one pool or all pools. -/
  | reloadTable (database schema table : String) (pool : Option String)
  | changeCache (change : CacheChange)
  /-- Puts a row into the row cache. -/
  | alterRow (database schema table : String) (payload : RowPayload)
deriving DecidableEq

end ProxyCatalog
