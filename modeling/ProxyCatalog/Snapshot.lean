import ProxyCatalog.Database
import ProxyCatalog.RowCache

/-!
# Snapshots

A snapshot is all that a query reads: the databases, the global rules and properties, and the row
cache. It is a value that is replaced as a whole, so a query that holds one is not disturbed by
changes.
-/

namespace ProxyCatalog

/-- The databases, by folded name, with the global rules and properties. -/
structure Catalog where
  databases : NameMap Database
  globalRules : RuleSet
  props : Properties
deriving DecidableEq

namespace Catalog

/-- The catalog with these parts, the names of the databases folded. -/
def make (databases : NameMap Database) (globalRules : RuleSet) (props : Properties) : Catalog :=
  ⟨databases.rekey Text.lower, globalRules, props⟩

/-- The database with this name, in any spelling. -/
def database? (c : Catalog) (name : String) : Option Database :=
  c.databases.get? (Text.lower name)

/-- The databases as they are after putting one. -/
def databasesWith (c : Catalog) (d : Database) : NameMap Database :=
  c.databases.insert d.name d

/-- Puts a database, over the one of its name. -/
def withDatabase (c : Catalog) (d : Database) : Catalog :=
  { c with databases := c.databasesWith d }

/-- Takes out a database. -/
def withoutDatabase (c : Catalog) (name : String) : Catalog :=
  { c with databases := c.databases.erase (Text.lower name) }

theorem database?_withDatabase (c : Catalog) (d : Database) (x : String) :
    (c.withDatabase d).database? x = if d.name = Text.lower x then some d else c.database? x :=
  NameMap.get?_insert _ _ _ _

theorem database?_withoutDatabase (c : Catalog) (name x : String) :
    (c.withoutDatabase name).database? x =
      if Text.lower name = Text.lower x then none else c.database? x :=
  NameMap.get?_erase _ _ _

end Catalog

/-- All that a query reads. -/
structure Snapshot where
  catalog : Catalog
  rows : RowCache
deriving DecidableEq

namespace Snapshot

/-- The database with this name, in any spelling. -/
def database? (s : Snapshot) (name : String) : Option Database :=
  s.catalog.database? name

/-- The same rows with another catalog. -/
def withCatalog (s : Snapshot) (c : Catalog) : Snapshot :=
  { s with catalog := c }

/-- The snapshot with a database put. -/
def withDatabase (s : Snapshot) (d : Database) : Snapshot :=
  s.withCatalog (s.catalog.withDatabase d)

/-- The same catalog with other rows. -/
def withRows (s : Snapshot) (rows : RowCache) : Snapshot :=
  { s with rows }

end Snapshot

end ProxyCatalog
