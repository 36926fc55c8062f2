import ProxyCatalog.Site

/-!
# Access to the durable store

The operations of the store as actions of a proxy. An operation fails where the site says that the
access does, and every write fails while the store is not writable; an operation that fails changes
nothing. Successful writes are recorded under the names they were given.

`Site.compareAndPersist` brings a stored schema to a given one by writing the difference only.
-/

namespace ProxyCatalog

namespace Site

/-! ### Reading -/

/-- Fails where the access does. -/
def reach (access : StoreAccess) : SiteM Unit := do
  let s : Site ← get
  if s.failing access then throw (.storeFailed access.method)

/-- Reads from the store. -/
def readStore {α : Type} (access : StoreAccess) (read : Store → α) : SiteM α := do
  reach access
  let s : Site ← get
  return read s.store

/-- The names of the stored databases. -/
def loadDatabaseNames : SiteM (List String) :=
  readStore { method := .loadDatabaseNames } Store.databaseNames

/-- The declared pools of a database. -/
def loadPools (database : String) : SiteM (NameMap PoolSpec) :=
  readStore { method := .loadPools, database } fun s => (s.node database).pools

/-- The rule configurations of a database. -/
def loadDatabaseRules (database : String) : SiteM (List RuleConfig) :=
  readStore { method := .loadDatabaseRules, database } fun s => (s.node database).rules

/-- The global rule configurations. -/
def loadGlobalRules : SiteM (List RuleConfig) :=
  readStore { method := .loadGlobalRules } Store.globalRules

/-- The stored properties. -/
def loadProperties : SiteM Properties :=
  readStore { method := .loadProperties } Store.props

/-- The stored schemas of a database. -/
def loadSchemas (database : String) : SiteM (NameMap Schema) :=
  readStore { method := .loadSchemas, database } fun s => (s.node database).schemas

/-- A stored schema. -/
def loadSchema (database schema : String) : SiteM (Option Schema) :=
  readStore { method := .loadSchema, database, schema } fun s => s.schema? database schema

/-- The views of a stored schema. -/
def loadViews (database schema : String) : SiteM (List View) :=
  readStore { method := .loadViews, database, schema } fun s => s.views database schema

/-- The persisted rows of a database. -/
def loadRows (database : String) : SiteM DatabaseRows :=
  readStore { method := .loadRows, database } fun s => (s.node database).rows

/-! ### Writing -/

/-- Writes to the store. -/
def writeStore (access : StoreAccess) (write : StoreWrite) (f : Store → Store) : SiteM Unit := do
  reach access
  let s : Site ← get
  if !s.writable then throw .storeReadOnly
  set ({ s with store := f s.store }.record [.wrote write])

/-- Puts all objects of `content` into a stored schema. -/
def persistSchema (database schema : String) (content : Schema) : SiteM Unit :=
  writeStore { method := .persistSchema, database, schema }
    (.putSchema database schema content.tables.keys content.views.keys)
    fun s => s.putSchema database schema content

/-- Deletes the names that occur in `content` from a stored schema. -/
def deleteObjects (database schema : String) (content : Schema) : SiteM Unit :=
  writeStore { method := .deleteObjects, database, schema }
    (.deleteObjects database schema content.tables.keys content.views.keys)
    fun s => s.deleteObjects database schema content

/-- Drops a stored schema. -/
def dropSchema (database schema : String) : SiteM Unit :=
  writeStore { method := .dropSchema, database, schema } (.dropSchema database schema)
    fun s => s.dropSchema database schema

/-- Persists the rows of a schema. -/
def persistRows (database schema : String) (rows : SchemaRows) : SiteM Unit :=
  writeStore { method := .persistRows, database, schema } (.putRows database schema)
    fun s => s.putRows database schema rows

/-- Writes the difference of a schema from the stored one. -/
def compareAndPersist (database schema : String) (content : Schema) : SiteM Unit := do
  let stored ← loadSchema database schema
  let delta := SchemaDelta.between content (stored.getD ∅)
  persistSchema database schema delta.added
  if !delta.deleted.isEmpty then deleteObjects database schema delta.deleted

/-- Writes the difference between two versions of the schemas of a database. -/
def persistDelta (database : String) (delta : DatabaseDelta) : SiteM Unit := do
  delta.added.entries.forM fun e => persistSchema database e.1 e.2
  delta.deleted.entries.forM fun e => deleteObjects database e.1 e.2
  delta.dropped.forM fun name => dropSchema database name

/-- Gives up the connection to the store. -/
def closeStore : SiteM Unit := do
  reach { method := .close }
  modify fun s : Site => { s with storeClosed := true }

end Site

end ProxyCatalog
