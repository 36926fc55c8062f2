import ProxyCatalog.Mutation

/-!
# Mutations that need nothing but the snapshot

Databases and schemas are added and dropped, objects of a schema are put and taken out, and global
rules, properties and rows are replaced without asking the store or the storage engines. The plans
are therefore functions of the snapshot.

Adding what is there and dropping what is not plans nothing. A schema may only be added to a
database that exists; objects put into a missing schema are passed over.
-/

namespace ProxyCatalog

namespace Snapshot

/-! ### Databases and schemas -/

/-- Plans to add a database. -/
def addDatabase (s : Snapshot) (name : String) : Except Fault (Option Change) :=
  match s.database? name with
  | some _ => .ok none
  | none => do
    let protocol ← s.catalog.props.protocol ∅
    return some { snapshot := s.withDatabase (.empty name protocol) }

/-- Plans to drop a database. The global rules release what they hold for it, its own rules all
that they hold, and its pools are retired. -/
def dropDatabase (s : Snapshot) (name : String) : Option Change :=
  (s.database? name).map fun d =>
    { snapshot := s.withCatalog (s.catalog.withoutDatabase name)
      releases := Change.releasesOf s.catalog.globalRules (some d.name)
        ++ Change.releasesOf d.rules none
      retired := d.pools }

/-- Plans to add a schema. -/
def addSchema (s : Snapshot) (database schema : String) : Except Fault (Option Change) :=
  match s.database? database with
  | none => .error (.databaseNotFound database)
  | some d => .ok <|
    match d.schema? schema with
    | some _ => none
    | none => some { snapshot := s.withDatabase (d.withSchema schema ∅) }

/-- Plans to drop a schema. -/
def dropSchema (s : Snapshot) (database schema : String) : Option Change := do
  let d ← s.database? database
  let _ ← d.schema? schema
  return { snapshot := s.withDatabase (d.withoutSchema schema) }

end Snapshot

/-! ### Objects of a schema -/

namespace Database

/-- Takes a table out of a schema, and out of the routes. -/
def deleteTable (d : Database) (schema : String) (content : Schema) (table : String) :
    Database × Schema :=
  (d.forgetTable schema table, content.removeTable table)

/-- Takes a view out of a schema, and out of the routes. -/
def deleteView (d : Database) (schema : String) (content : Schema) (view : String) :
    Database × Schema :=
  (d.forgetTable schema view, content.removeView view)

/-- The database with the parts of a change carried out on a schema of the given content:
deletions first, so that an object both deleted and put is there afterwards. -/
def withObjects (d : Database) (content : Schema) (c : SchemaChange) : Database :=
  let (d, content) := match c.deletedTable with
    | some t => d.deleteTable c.schema content t
    | none => (d, content)
  let (d, content) := match c.deletedView with
    | some v => d.deleteView c.schema content v
    | none => (d, content)
  let content := content.putTables c.changedTable.toList
  let content := content.putViews c.changedView.toList
  d.withSchema c.schema content

/-- Loads the routes anew if the single-table rule does not know one of the names. -/
def reloadUnlessKnown (d : Database) (schema : String) (names : List String) :
    Except Fault Database :=
  if names.all fun n => d.rules.knowsTable schema n then .ok d else d.reloadRoutes

end Database

namespace Snapshot

/-- Plans to put objects into a schema and to take objects out. -/
def alterSchema (s : Snapshot) (c : SchemaChange) : Except Fault (Option Change) :=
  match s.database? c.database with
  | none => .ok none
  | some d =>
    match d.schema? c.schema with
    | none => .ok none
    | some content =>
      if c.isEmpty then .ok none
      else do
        let d ← (d.withObjects content c).reloadUnlessKnown c.schema c.changedNames
        return some { snapshot := s.withDatabase d }

/-! ### Global rules and properties -/

/-- Plans to replace the global rules. An empty list is passed over. -/
def alterGlobalRules (reg : Registry) (s : Snapshot) (configs : List RuleConfig) :
    Except Fault (Option Change) :=
  if configs.isEmpty then .ok none
  else do
    let rules ← reg.buildGlobal configs
    return some
      { snapshot := s.withCatalog { s.catalog with globalRules := rules }
        releases := Change.releasesOf s.catalog.globalRules none }

/-- Plans to replace the global properties. -/
def alterProperties (s : Snapshot) (values : NameMap String) : Except Fault (Option Change) := do
  let props ← Properties.make values
  return some { snapshot := s.withCatalog { s.catalog with props } }

/-! ### Rows -/

/-- Plans a change of the row cache. -/
def changeCache (s : Snapshot) (c : CacheChange) : Option Change :=
  (c.apply s.rows).map fun rows => { snapshot := s.withRows rows }

/-- The definition of a table, as far as there is one. -/
def table? (s : Snapshot) (database schema table : String) : Option Table := do
  let d ← s.database? database
  let content ← d.schema? schema
  content.table? table

/-- Plans to put a row into the cache. The table has to be cached and to have a definition, which
gives the values their types; otherwise the row is passed over. -/
def alterRow (s : Snapshot) (database schema table : String) (payload : RowPayload) :
    Except Fault (Option Change) :=
  match s.rows.table? database schema table, s.table? database schema table with
  | some _, some definition => do
    let row ← Row.convert definition payload
    return (s.rows.putRow database schema table row).map fun rows =>
      { snapshot := s.withRows rows }
  | _, _ => .ok none

end Snapshot

end ProxyCatalog
