import ProxyCatalog.Database
import ProxyCatalog.Site.Event

/-!
# Discovery

The tables of a database are found by asking the storage engines behind its pools. A `Material` is
what an engine is told about the database, and a `Discovery` answers with schemas under the names
that the engines use, which may differ in case. `mergeFolded` merges those that do. What is reported
has no order of its own, so a `Visiting` says in which order the schemas are merged.

`Discovery.ofEngines` is the discovery of engines whose contents are known, as `EngineSchema`s.
-/

namespace ProxyCatalog

/-- What storage engines are told about the database they serve. -/
structure Material where
  database : String
  protocol : Dialect
  /-- The pools to ask, perhaps only some of those of the database. -/
  pools : Pools
  rules : RuleSet
  props : Properties
  /-- The schema under which engines without schemas report their tables. -/
  defaultSchema : String

namespace Material

/-- The question that a journal records. -/
def inquiry (m : Material) (tables : Option (List String)) : Inquiry where
  database := m.database
  protocol := m.protocol
  defaultSchema := m.defaultSchema
  pools := m.pools.keys
  rules := m.rules.map Rule.kind
  props := m.props.values.entries.length
  tables := tables

end Material

/-- The answer of storage engines to a material and, perhaps, a list of tables to look for. -/
abbrev Discovery : Type := Material → Option (List String) → Except Fault (NameMap Schema)

namespace Schema

/-- Puts reported schemas, in the order of the list, each over what was reported before under a
name of the same folded form. -/
def mergeFolded (reported : List (String × Schema)) : NameMap Schema :=
  reported.foldl (fun merged e =>
    merged.insert (Text.lower e.1) ((merged.getD (Text.lower e.1) ∅).absorb e.2)) ∅

end Schema

/-- The order in which the schemas found for a database are **visited**. A map has none that can be
relied on, so it may be any. -/
structure Visiting where
  /-- The schemas of a database, one after another. -/
  order : String → NameMap Schema → List (String × Schema)
  /-- Every schema is visited, once. -/
  perm : ∀ database found, (order database found).Perm found.entries

namespace Visiting

/-- Schemas are visited in the order of their names. -/
def byName : Visiting where
  order _ found := found.entries
  perm _ _ := .refl _

/-- Folds the names of the schemas found for a database and merges those that become equal, in the
order in which they are visited. -/
def fold (v : Visiting) (database : String) (found : NameMap Schema) : NameMap Schema :=
  Schema.mergeFolded (v.order database found)

end Visiting

/-! ### Engines with known contents -/

/-- A schema as a storage engine keeps it. The engine may tell tables apart whose folded names are
equal, so this is a list of tables and not a `Schema`. -/
structure EngineSchema where
  tables : List Table
  views : List View
deriving DecidableEq

namespace EngineSchema

/-- The tables that are asked for: the listed ones, in any case of ASCII letters, or all. -/
def asked (s : EngineSchema) : Option (List String) → List Table
  | none => s.tables
  | some names => s.tables.filter fun t => names.any fun n => Text.eqIgnoringCase n t.name

end EngineSchema

/-- The schemas in the storage engine behind each pool. The name `$default` stands for the default
schema of the material. -/
abbrev Engines : Type := NameMap (NameMap EngineSchema)

namespace Discovery

/-- Adds what an engine holds to the schemas reported so far: the tables that are asked for and
every view. -/
def report (m : Material) (tables : Option (List String)) (reported : NameMap Schema)
    (contents : NameMap EngineSchema) : NameMap Schema :=
  contents.entries.foldl (fun reported e =>
    let name := if e.1 = "$default" then m.defaultSchema else e.1
    let known := reported.getD name ∅
    reported.insert name ((known.putTables (e.2.asked tables)).putViews e.2.views)) reported

/-- The discovery of engines with known contents, which are out of reach or answer with all that
the pools of the material hold. -/
def ofEngines (reachable : Bool) (engines : Engines) : Discovery := fun m tables =>
  if reachable then
    .ok (m.pools.keys.foldl (fun reported pool =>
      report m tables reported (engines.getD pool ∅)) ∅)
  else .error (.unreachableStorage m.database)

end Discovery

end ProxyCatalog
