import ProxyCatalog.Dialect

/-!
# Connection pools

A pool is declared by its properties, a `PoolSpec`. Once opened it is known by a `PoolHandle`, and
no two openings give the same handle; a `StorageUnit` is a handle with the properties it was opened
from. The pools of one database are a map from pool names to storage units.

`Pools.switched` replaces some pools by others. Stale names are taken out before the new ones are
put in, so a pool whose properties changed keeps its name and gets a new handle.
-/

namespace ProxyCatalog

/-- The declared properties of a pool. -/
structure PoolSpec where
  className : String
  props : NameMap String
deriving DecidableEq

namespace PoolSpec

/-- Where the pool connects to, if its properties say so. -/
def url? (p : PoolSpec) : Option String :=
  (p.props.get? "url").or (p.props.get? "jdbcUrl")

/-- The names of the fields, in their order. -/
def fieldNames : List String :=
  ["pool_class_name", "props"]

/-- Reads the properties of a pool. -/
def ofDocument? (d : Document) : Option PoolSpec := do
  let fs ← d.fields? fieldNames
  return {
    className := ← Document.required fs "pool_class_name" Document.text?
    props := ← Document.withDefault fs "props" (Document.map? Document.text?) ∅ }

/-- Writes the properties of a pool. -/
def toDocument (p : PoolSpec) : Document :=
  .object [("pool_class_name", .text p.className), ("props", .ofMap .text p.props)]

end PoolSpec

/-- An opened pool: its name and the number of the opening. -/
structure PoolHandle where
  name : String
  serial : Nat
deriving DecidableEq

namespace PoolHandle

/-- The handle in messages. -/
def label (h : PoolHandle) : String :=
  h.name ++ "#" ++ toString h.serial

end PoolHandle

/-- An opened pool with the properties it was opened from. -/
structure StorageUnit where
  spec : PoolSpec
  handle : PoolHandle
  /-- The dialect of the storage engine behind the pool. -/
  dialect : Dialect
deriving DecidableEq

/-- The pools of one database, by name. Pool names are not folded. -/
abbrev Pools : Type := NameMap StorageUnit

namespace Pools

/-- The declared properties of all pools. -/
def specs (p : Pools) : NameMap PoolSpec :=
  p.mapValues fun _ u => u.spec

theorem get?_specs (p : Pools) (name : String) :
    p.specs.get? name = (p.get? name).map StorageUnit.spec :=
  NameMap.get?_mapValues p _ name

/-- The dialects of the storage engines behind the pools. -/
def dialects (p : Pools) : NameMap Dialect :=
  p.mapValues fun _ u => u.dialect

/-- The one pool with this name alone. -/
def subset? (p : Pools) (name : String) : Option Pools :=
  (p.get? name).map (NameMap.single name)

/-- The pools without the stale ones and with the new ones put over the rest. -/
def switched (p : Pools) (stale : List String) (opened : Pools) : Pools :=
  (p.filter fun name _ => !stale.contains name).overlay opened

theorem get?_switched (p : Pools) (stale : List String) (opened : Pools) (name : String) :
    (p.switched stale opened).get? name =
      (opened.get? name).or (if name ∈ stale then none else p.get? name) := by
  rw [switched, NameMap.get?_overlay, NameMap.get?_filter]
  congr 1
  by_cases h : name ∈ stale <;> cases p.get? name <;> simp [h]

end Pools

end ProxyCatalog
