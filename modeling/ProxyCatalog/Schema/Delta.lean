import ProxyCatalog.Schema

/-!
# What changed between two schemas

A durable store is brought from one version of a schema to the next by writing what was added or
changed and deleting what is gone. `SchemaDelta.between` computes these two parts for one schema,
and `DatabaseDelta.between` for all schemas of a database, where whole schemas may be gone too.

`SchemaDelta.apply` says what carrying out a delta makes of the older version of a schema.
-/

namespace ProxyCatalog

/-! ### One schema -/

/-- The difference of a proposed schema from the current one. -/
structure SchemaDelta where
  /-- Objects that are missing from the current schema or differ there. -/
  added : Schema
  /-- Objects of the current schema that are missing from the proposed one. -/
  deleted : Schema
deriving DecidableEq

namespace SchemaDelta

/-- The values of `proposed` that `current` does not have under the same name. -/
def changedValues {α : Type} [DecidableEq α] (proposed current : NameMap α) : List α :=
  (proposed.filter fun k v => current.get? k != some v).values

/-- The values of `current` whose names `proposed` does not have. -/
def missingValues {α : Type} (proposed current : NameMap α) : List α :=
  (current.filter fun k _ => !proposed.contains k).values

/-- The difference of two versions. -/
def between (proposed current : Schema) : SchemaDelta where
  added := .ofLists (changedValues proposed.tables current.tables)
    (changedValues proposed.views current.views)
  deleted := .ofLists (missingValues proposed.tables current.tables)
    (missingValues proposed.views current.views)

theorem tables_added (proposed current : Schema) :
    (between proposed current).added.tables =
      proposed.tables.filter fun k v => current.tables.get? k != some v :=
  Schema.tables_ofLists (proposed.tables_keyed.filter _) _

theorem views_added (proposed current : Schema) :
    (between proposed current).added.views =
      proposed.views.filter fun k v => current.views.get? k != some v :=
  Schema.views_ofLists _ (proposed.views_keyed.filter _)

theorem tables_deleted (proposed current : Schema) :
    (between proposed current).deleted.tables =
      current.tables.filter fun k _ => !proposed.tables.contains k :=
  Schema.tables_ofLists (current.tables_keyed.filter _) _

theorem views_deleted (proposed current : Schema) :
    (between proposed current).deleted.views =
      current.views.filter fun k _ => !proposed.views.contains k :=
  Schema.views_ofLists _ (current.views_keyed.filter _)

/-- Nothing to write and nothing to delete. -/
def isEmpty (d : SchemaDelta) : Bool :=
  d.added.isEmpty && d.deleted.isEmpty

/-- The current schema with the delta carried out. -/
def apply (d : SchemaDelta) (current : Schema) : Schema :=
  (current.absorb d.added).without d.deleted

end SchemaDelta

/-! ### All schemas of a database -/

/-- The difference of the proposed schemas of a database from the current ones. -/
structure DatabaseDelta where
  /-- Per schema the objects to write. A schema that is new appears with all its objects. -/
  added : NameMap Schema
  /-- Per schema of both versions the objects to delete. -/
  deleted : NameMap Schema
  /-- Schemas of the current version only, by name. -/
  dropped : List String
deriving DecidableEq

namespace DatabaseDelta

/-- The difference of two versions. Schemas without anything to write, or without anything to
delete, are left out of the respective part. -/
def between (proposed current : NameMap Schema) : DatabaseDelta :=
  let deltas := proposed.mapValues fun name s => SchemaDelta.between s (current.getD name ∅)
  { added := (deltas.mapValues fun _ d => d.added).filter fun _ s => !s.isEmpty
    deleted := (deltas.mapValues fun _ d => d.deleted).filter fun _ s => !s.isEmpty
    dropped := current.keys.filter fun name => !proposed.contains name }

/-- Nothing to write, to delete or to drop. -/
def isEmpty (d : DatabaseDelta) : Bool :=
  d.added.isEmpty && d.deleted.isEmpty && d.dropped.isEmpty

end DatabaseDelta

end ProxyCatalog
