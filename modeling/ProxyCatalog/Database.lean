import ProxyCatalog.Properties
import ProxyCatalog.Rule.Build

/-!
# Databases

A logical database: its pools, rules and schemas under one folded name. The routes of its
single-table rule repeat part of its schemas, so an operation that changes the schemas either
reloads the routes or forgets a table in them.
-/

namespace ProxyCatalog

/-- A logical database. -/
structure Database where
  /-- The folded name. -/
  name : String
  /-- The dialect spoken to clients. -/
  protocol : Dialect
  pools : Pools
  rules : RuleSet
  /-- The schemas, by folded name. -/
  schemas : NameMap Schema
deriving DecidableEq

namespace Database

/-- The database with these parts, its name and the names of its schemas folded. -/
def make (name : String) (protocol : Dialect) (pools : Pools) (rules : RuleSet)
    (schemas : NameMap Schema) : Database :=
  ⟨Text.lower name, protocol, pools, rules, schemas.rekey Text.lower⟩

/-- A database without pools and rules, with an empty default schema. -/
def empty (name : String) (protocol : Dialect) : Database :=
  make name protocol ∅ [] (.single (protocol.defaultSchema name) ∅)

/-- The schema with this name, in any spelling. -/
def schema? (d : Database) (name : String) : Option Schema :=
  d.schemas.get? (Text.lower name)

/-- Puts a schema. -/
def withSchema (d : Database) (name : String) (s : Schema) : Database :=
  { d with schemas := d.schemas.insert (Text.lower name) s }

/-- Takes out a schema. -/
def withoutSchema (d : Database) (name : String) : Database :=
  { d with schemas := d.schemas.erase (Text.lower name) }

theorem schema?_withSchema (d : Database) (name : String) (s : Schema) (x : String) :
    (d.withSchema name s).schema? x =
      if Text.lower name = Text.lower x then some s else d.schema? x :=
  NameMap.get?_insert _ _ _ _

theorem schema?_withSchema_self (d : Database) (name : String) (s : Schema) :
    (d.withSchema name s).schema? name = some s :=
  NameMap.get?_insert_self _ _ _

theorem schema?_withoutSchema (d : Database) (name x : String) :
    (d.withoutSchema name).schema? x =
      if Text.lower name = Text.lower x then none else d.schema? x :=
  NameMap.get?_erase _ _ _

/-- The single-table rule, if any, loads its routes anew. -/
def reloadRoutes (d : Database) : Except Fault Database :=
  ((d.rules.reload d.name d.pools d.schemas).mapError Fault.rule).map fun rules =>
    { d with rules }

/-- The single-table rule, if any, forgets a table. -/
def forgetTable (d : Database) (schema table : String) : Database :=
  { d with rules := d.rules.forgetTable schema table }

end Database

end ProxyCatalog
