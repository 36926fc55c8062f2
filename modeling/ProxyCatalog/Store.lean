import ProxyCatalog.Pool
import ProxyCatalog.Properties
import ProxyCatalog.Rule.Config
import ProxyCatalog.RowCache
import ProxyCatalog.Schema.Delta

/-!
# The durable store

The store outlives a proxy. It holds, per database, the declared pools, the rule configurations,
the schemas and the persisted rows, and beside them the global rule configurations and properties.
Names of databases and schemas are folded on every access.

This module says what a write makes of the contents; whether the store can be reached and written
is a matter of the site (`ProxyCatalog.Site.StoreAccess`). Writing a schema opens the nodes it
needs; deleting objects or dropping a schema where there is none changes nothing.

Main statements: `schema?_putSchema`, `schema?_deleteObjects` and `schema?_dropSchema` give the
stored schemas after a write. All but the one written to are as they were.
-/

namespace ProxyCatalog

/-- What the store holds for one database. -/
structure StoreNode where
  pools : NameMap PoolSpec
  rules : List RuleConfig
  schemas : NameMap Schema
  rows : DatabaseRows
deriving DecidableEq

namespace StoreNode

/-- Nothing stored. -/
def empty : StoreNode :=
  ⟨∅, [], ∅, ∅⟩

end StoreNode

/-- The contents of the store. -/
structure Store where
  props : Properties
  globalRules : List RuleConfig
  databases : NameMap StoreNode
deriving DecidableEq

namespace Store

/-- The store without contents. -/
def empty : Store :=
  ⟨∅, [], ∅⟩

/-! ### Reading -/

/-- What is stored for a database. -/
def node? (s : Store) (database : String) : Option StoreNode :=
  s.databases.get? (Text.lower database)

/-- What is stored for a database, or nothing. -/
def node (s : Store) (database : String) : StoreNode :=
  (s.node? database).getD .empty

/-- The names of the stored databases. -/
def databaseNames (s : Store) : List String :=
  s.databases.keys

/-- A stored schema. -/
def schema? (s : Store) (database schema : String) : Option Schema :=
  (s.node? database).bind (·.schemas.get? (Text.lower schema))

/-- The views of a stored schema. -/
def views (s : Store) (database schema : String) : List View :=
  ((s.schema? database schema).getD ∅).views.values

/-- The persisted rows of a schema. -/
def rows? (s : Store) (database schema : String) : Option SchemaRows :=
  (s.node? database).bind (·.rows.get? (Text.lower schema))

/-! ### Configuration by the operator -/

/-- Gives a database its node. -/
def setNode (s : Store) (database : String) (n : StoreNode) : Store :=
  { s with databases := s.databases.insert (Text.lower database) n }

/-- Changes the node of a database, which is opened if need be. -/
def updateNode (s : Store) (database : String) (f : StoreNode → StoreNode) : Store :=
  s.setNode database (f (s.node database))

theorem node?_setNode (s : Store) (database : String) (n : StoreNode) (x : String) :
    (s.setNode database n).node? x =
      if Text.lower database = Text.lower x then some n else s.node? x :=
  NameMap.get?_insert _ _ _ _

theorem node_updateNode (s : Store) (database : String) (f : StoreNode → StoreNode) (x : String) :
    (s.updateNode database f).node x =
      if Text.lower database = Text.lower x then f (s.node database) else s.node x := by
  rw [node, updateNode, node?_setNode]
  split <;> rfl

private theorem schema?_setNode (s : Store) (database : String) (n : StoreNode) (d x : String) :
    (s.setNode database n).schema? d x =
      if Text.lower database = Text.lower d then n.schemas.get? (Text.lower x)
      else s.schema? d x := by
  rw [schema?, node?_setNode]
  split <;> rfl

private theorem node_congr (s : Store) {d x : String} (h : Text.lower d = Text.lower x) :
    s.node x = s.node d := by
  rw [node, node, node?, node?, h]

theorem schema?_eq (s : Store) (database schema : String) :
    s.schema? database schema = (s.node database).schemas.get? (Text.lower schema) := by
  rw [schema?, node]
  cases s.node? database <;> rfl

/-- Stores the pools of a database. -/
def setPools (s : Store) (database : String) (pools : NameMap PoolSpec) : Store :=
  s.updateNode database fun n => { n with pools }

/-- Stores the rule configurations of a database. -/
def setRules (s : Store) (database : String) (rules : List RuleConfig) : Store :=
  s.updateNode database fun n => { n with rules }

/-! ### Writing -/

/-- Puts all objects of `content` into a schema, which is opened if need be. -/
def putSchema (s : Store) (database schema : String) (content : Schema) : Store :=
  s.updateNode database fun n =>
    let key := Text.lower schema
    { n with schemas := n.schemas.insert key ((n.schemas.getD key ∅).absorb content) }

theorem schema?_putSchema (s : Store) (database schema : String) (content : Schema)
    (d x : String) :
    (s.putSchema database schema content).schema? d x =
      if Text.lower database = Text.lower d ∧ Text.lower schema = Text.lower x then
        some (((s.schema? database schema).getD ∅).absorb content)
      else s.schema? d x := by
  simp only [schema?_eq, putSchema, node_updateNode]
  by_cases hd : Text.lower database = Text.lower d
  · simp only [hd, if_true, true_and, NameMap.get?_insert, NameMap.getD, s.node_congr hd]
  · simp only [hd, if_false, false_and]

/-- Deletes the names that occur in `content` from a schema. -/
def deleteObjects (s : Store) (database schema : String) (content : Schema) : Store :=
  match s.node? database, s.schema? database schema with
  | some n, some stored =>
    let schemas := n.schemas.insert (Text.lower schema) (stored.without content)
    s.setNode database { n with schemas }
  | _, _ => s

theorem schema?_deleteObjects (s : Store) (database schema : String) (content : Schema)
    (d x : String) :
    (s.deleteObjects database schema content).schema? d x =
      if Text.lower database = Text.lower d ∧ Text.lower schema = Text.lower x then
        (s.schema? d x).map (·.without content)
      else s.schema? d x := by
  have hsame (hd : Text.lower database = Text.lower d) (n : StoreNode)
      (hn : s.node? database = some n) : s.schema? d x = n.schemas.get? (Text.lower x) := by
    rw [schema?_eq, s.node_congr hd, node, hn]; rfl
  rw [deleteObjects]
  split
  · next n stored hn hs =>
    rw [schema?_setNode]
    by_cases hd : Text.lower database = Text.lower d
    · have hst : n.schemas.get? (Text.lower schema) = some stored := by
        rw [schema?, hn] at hs; exact hs
      by_cases hx : Text.lower schema = Text.lower x
      · rw [if_pos hd, if_pos ⟨hd, hx⟩, hsame hd n hn, NameMap.get?_insert, if_pos hx, ← hx, hst]
        rfl
      · simp only [hd, hx, and_false, if_true, if_false, NameMap.get?_insert, hsame hd n hn]
    · simp only [hd, false_and, if_false]
  · next hnone =>
    -- Without a node or a schema to delete from there is nothing under these names.
    split
    · next h =>
      have hs : s.schema? d x = s.schema? database schema := by
        rw [schema?_eq, schema?_eq, s.node_congr h.1, h.2]
      rw [hs]
      cases hn : s.node? database with
      | none => rw [schema?, hn]; rfl
      | some n =>
        cases hst : s.schema? database schema with
        | none => rfl
        | some stored => exact absurd hst (hnone n stored hn)
    · rfl

/-- Drops a schema. -/
def dropSchema (s : Store) (database schema : String) : Store :=
  match s.node? database with
  | some n => s.setNode database { n with schemas := n.schemas.erase (Text.lower schema) }
  | none => s

theorem schema?_dropSchema (s : Store) (database schema d x : String) :
    (s.dropSchema database schema).schema? d x =
      if Text.lower database = Text.lower d ∧ Text.lower schema = Text.lower x then none
      else s.schema? d x := by
  have hsame (hd : Text.lower database = Text.lower d) : s.schema? d x =
      (s.node? database).bind (·.schemas.get? (Text.lower x)) := by
    rw [schema?, node?, node?, hd]
  rw [dropSchema]
  split
  · next n hn =>
    rw [schema?_setNode]
    by_cases hd : Text.lower database = Text.lower d
    · simp only [hd, true_and, if_true, NameMap.get?_erase, hsame hd, hn, Option.bind_some]
    · simp only [hd, false_and, if_false]
  · next hn =>
    by_cases hd : Text.lower database = Text.lower d
    · simp only [hsame hd, hn, Option.bind_none, ite_self]
    · simp only [hd, false_and, if_false]

/-- Stores the rows of a schema, in place of those it had. -/
def putRows (s : Store) (database schema : String) (rows : SchemaRows) : Store :=
  s.updateNode database fun n => { n with rows := n.rows.insert (Text.lower schema) rows }

end Store

end ProxyCatalog
