import ProxyCatalog.Fault
import ProxyCatalog.Pool
import ProxyCatalog.Rule
import ProxyCatalog.Schema

/-!
# Loading the routes of single tables

The routes of a single-table rule come from two sources. The entries listed in its configuration
come first, later ones over earlier ones; an entry without a schema means the default schema of the
dialect behind its pool. Then every table and view of the database's schemas that no rule
distributes and that has no route yet is routed to the fallback pool: the configured default pool
or else the first pool by name.

The pools, the schemas and the rules are those known at the time of loading. Where the pools are
unknown no pool is missed, and where the schemas are unknown only the listed entries are routed.
-/

namespace ProxyCatalog

/-- A listed single table. -/
structure SingleEntry where
  pool : String
  schema? : Option String
  table : String
deriving DecidableEq

namespace SingleEntry

/-- Reads an entry: a pool, perhaps a schema, and a table, with points between them. -/
def parse? (text : String) : Option SingleEntry :=
  match (text.toList.splitOn '.').map String.ofList with
  | [pool, table] => some ⟨pool, none, table⟩
  | [pool, schema, table] => some ⟨pool, some schema, table⟩
  | _ => none

/-- The folded schema of the entry. -/
def schema (e : SingleEntry) (database : String) (pools : Option Pools) : String :=
  match e.schema? with
  | some s => Text.lower s
  | none =>
    let dialect := (pools.bind (·.get? e.pool)).map StorageUnit.dialect
    (dialect.getD .mySQL).defaultSchema database

end SingleEntry

namespace SingleConfig

/-- The pools are unknown or have one of this name. -/
def hasPool (pools : Option Pools) (name : String) : Bool :=
  match pools with
  | none => true
  | some p => p.contains name

/-- Routes one listed entry. -/
def routeEntry (database : String) (pools : Option Pools) (routes : Routes) (text : String) :
    Except RuleFault Routes :=
  match SingleEntry.parse? text with
  | none => .error (.malformedEntry text)
  | some e =>
    if hasPool pools e.pool then
      .ok (routes.put (e.schema database pools) (Text.lower e.table) e.pool)
    else .error (.unknownEntryPool text)

/-- Routes all listed entries, in their order. -/
def listedRoutes (c : SingleConfig) (database : String) (pools : Option Pools) :
    Except RuleFault Routes :=
  c.entries.foldlM (routeEntry database pools) ∅

/-- The configured default pool has to be one of the known pools. -/
def checkDefault (c : SingleConfig) (pools : Option Pools) : Except RuleFault Unit :=
  match c.defaultPool with
  | none => .ok ()
  | some ds => if hasPool pools ds then .ok () else .error (.unknownDefaultPool ds)

/-- The pool of tables that are not listed: the configured one or the first by name. -/
def fallbackPool? (c : SingleConfig) (pools : Option Pools) : Option String :=
  c.defaultPool.or (pools.bind fun p => p.keys.head?)

/-- Routes the objects of one schema that nothing distributes and that have no route yet. -/
def fillSchema (rules : RuleSet) (fallback : String) (routes : Routes) (name : String)
    (schema : Schema) : Routes :=
  (schema.objectNames.filter fun t => !rules.distributes t).foldl
    (fun routes t => routes.putNew name t fallback) routes

/-- Routes the objects of all schemas that nothing distributes and that have no route yet. -/
def fill (rules : RuleSet) (fallback : String) (routes : Routes) (schemas : NameMap Schema) :
    Routes :=
  schemas.entries.foldl (fun routes e => fillSchema rules fallback routes e.1 e.2) routes

/-- **Loads** the routes of a single-table rule. -/
def load (c : SingleConfig) (database : String) (pools : Option Pools)
    (schemas : Option (NameMap Schema)) (rules : RuleSet) : Except RuleFault Routes := do
  let listed ← c.listedRoutes database pools
  c.checkDefault pools
  match schemas, c.fallbackPool? pools with
  | some schemas, some fallback => return fill rules fallback listed schemas
  | _, _ => return listed

end SingleConfig

namespace RuleSet

/-- Loads the routes of the first single-table rule anew. -/
def reload (rs : RuleSet) (database : String) (pools : Pools) (schemas : NameMap Schema) :
    Except RuleFault RuleSet :=
  match rs.router? with
  | none => .ok rs
  | some (c, _) => do
    let routes ← c.load database (some pools) (some schemas) rs
    return rs.mapRoutes fun _ => routes

end RuleSet

end ProxyCatalog
