import ProxyCatalog.Schema.Table
import ProxyCatalog.Text.Settled

/-!
# Schemas

A schema holds tables and views under their folded names. A name may denote a table and a view at
the same time; they live in two maps. Look-ups and removals fold the name they are given, so any
spelling finds the object.

An object stands under the folded form of its own name, which is part of what a schema is, so a
schema is determined by its objects alone.

`Schema.absorb` puts all objects of one schema over those of another, and `Schema.without` takes
out all names that occur in another; with these two a schema is patched.
-/

namespace ProxyCatalog

/-- Tables and views under their folded names. -/
structure Schema where
  tables : NameMap Table
  views : NameMap View
  tables_keyed : tables.KeyedBy fun t => Text.lower t.name
  views_keyed : views.KeyedBy fun v => Text.lower v.name
deriving DecidableEq

namespace Schema

/-- The schema without objects. -/
def empty : Schema where
  tables := ∅
  views := ∅
  tables_keyed := .empty _
  views_keyed := .empty _

instance : EmptyCollection Schema := ⟨empty⟩

instance : Inhabited Schema := ⟨empty⟩

/-- A schema is determined by its tables and its views. -/
@[ext] theorem ext {s t : Schema} (ht : s.tables = t.tables) (hv : s.views = t.views) : s = t := by
  cases s; cases t; simp_all

/-- No table and no view. -/
def isEmpty (s : Schema) : Bool :=
  s.tables.isEmpty && s.views.isEmpty

/-! ### Look-up -/

/-- The table with this name, in any spelling. -/
def table? (s : Schema) (name : String) : Option Table :=
  s.tables.get? (Text.lower name)

/-- The view with this name, in any spelling. -/
def view? (s : Schema) (name : String) : Option View :=
  s.views.get? (Text.lower name)

/-- The names of all tables and all views, tables first. -/
def objectNames (s : Schema) : List String :=
  s.tables.keys ++ s.views.keys

/-! ### Change -/

/-- Puts a table, over the one of the same name. -/
def putTable (s : Schema) (t : Table) : Schema :=
  { s with
    tables := s.tables.insert (Text.lower t.name) t
    tables_keyed := s.tables_keyed.insert t }

/-- Puts a view, over the one of the same name. -/
def putView (s : Schema) (v : View) : Schema :=
  { s with
    views := s.views.insert (Text.lower v.name) v
    views_keyed := s.views_keyed.insert v }

/-- Takes out the table with this name. -/
def removeTable (s : Schema) (name : String) : Schema :=
  { s with
    tables := s.tables.erase (Text.lower name)
    tables_keyed := s.tables_keyed.erase _ }

/-- Takes out the view with this name. -/
def removeView (s : Schema) (name : String) : Schema :=
  { s with
    views := s.views.erase (Text.lower name)
    views_keyed := s.views_keyed.erase _ }

/-- Puts tables in order. -/
def putTables (s : Schema) (ts : List Table) : Schema :=
  ts.foldl putTable s

/-- Puts views in order. -/
def putViews (s : Schema) (vs : List View) : Schema :=
  vs.foldl putView s

/-- The schema of some tables and views, later ones over earlier ones. -/
def ofLists (ts : List Table) (vs : List View) : Schema :=
  (empty.putTables ts).putViews vs

/-- All objects of `t` put over those of `s`. -/
def absorb (s t : Schema) : Schema :=
  (s.putTables t.tables.values).putViews t.views.values

/-- The schema without the names that occur in `t`, table names and view names apart. -/
def without (s t : Schema) : Schema :=
  t.views.keys.foldl removeView (t.tables.keys.foldl removeTable s)

/-! ### Effect on the objects -/

theorem tables_putTables (s : Schema) (ts : List Table) :
    (s.putTables ts).tables = ts.foldl (fun m t => m.insert (Text.lower t.name) t) s.tables := by
  induction ts generalizing s with
  | nil => rfl
  | cons t ts ih => exact ih (s.putTable t)

@[simp] theorem views_putTables (s : Schema) (ts : List Table) :
    (s.putTables ts).views = s.views := by
  induction ts generalizing s with
  | nil => rfl
  | cons t ts ih => exact ih (s.putTable t)

@[simp] theorem tables_putViews (s : Schema) (vs : List View) :
    (s.putViews vs).tables = s.tables := by
  induction vs generalizing s with
  | nil => rfl
  | cons v vs ih => exact ih (s.putView v)

theorem views_putViews (s : Schema) (vs : List View) :
    (s.putViews vs).views = vs.foldl (fun m v => m.insert (Text.lower v.name) v) s.views := by
  induction vs generalizing s with
  | nil => rfl
  | cons v vs ih => exact ih (s.putView v)

theorem tables_absorb (s t : Schema) : (s.absorb t).tables = s.tables.overlay t.tables := by
  rw [absorb, tables_putViews, tables_putTables, NameMap.foldl_insert_values t.tables_keyed]

theorem views_absorb (s t : Schema) : (s.absorb t).views = s.views.overlay t.views := by
  rw [absorb, views_putViews, views_putTables, NameMap.foldl_insert_values t.views_keyed]

/-- The tables listed by a map are the tables of that map. -/
theorem tables_ofLists {m : NameMap Table} (h : m.KeyedBy fun t => Text.lower t.name)
    (vs : List View) : (ofLists m.values vs).tables = m := by
  rw [ofLists, tables_putViews, tables_putTables, NameMap.foldl_insert_values h]
  exact NameMap.empty_overlay m

/-- The views listed by a map are the views of that map. -/
theorem views_ofLists (ts : List Table) {m : NameMap View}
    (h : m.KeyedBy fun v => Text.lower v.name) : (ofLists ts m.values).views = m := by
  rw [ofLists, views_putViews, views_putTables, NameMap.foldl_insert_values h]
  exact NameMap.empty_overlay m

/-- A name under which a schema holds a table is folded. -/
theorem lower_of_mem_tables {s : Schema} {k : String} (h : k ∈ s.tables.keys) :
    Text.lower k = k := by
  obtain ⟨t, ht⟩ := Option.isSome_iff_exists.1 (NameMap.mem_keys_iff.1 h)
  rw [s.tables_keyed k t ht, Text.lower_lower]

/-- A name under which a schema holds a view is folded. -/
theorem lower_of_mem_views {s : Schema} {k : String} (h : k ∈ s.views.keys) :
    Text.lower k = k := by
  obtain ⟨v, hv⟩ := Option.isSome_iff_exists.1 (NameMap.mem_keys_iff.1 h)
  rw [s.views_keyed k v hv, Text.lower_lower]

private theorem foldl_removeTable (s : Schema) (names : List String) (k : String)
    (h : ∀ n ∈ names, Text.lower n = n) :
    (names.foldl removeTable s).views = s.views ∧
      (names.foldl removeTable s).tables.get? k =
        if k ∈ names then none else s.tables.get? k := by
  induction names generalizing s with
  | nil => simp
  | cons n ns ih =>
    obtain ⟨hv, ht⟩ := ih (s.removeTable n) fun m hm => h m (by simp [hm])
    refine ⟨hv, ?_⟩
    rw [List.foldl_cons, ht]
    simp only [removeTable, NameMap.get?_erase, h n (by simp), List.mem_cons]
    by_cases hk : k ∈ ns
    · simp [hk]
    · simp [hk, eq_comm]

private theorem foldl_removeView (s : Schema) (names : List String) (k : String)
    (h : ∀ n ∈ names, Text.lower n = n) :
    (names.foldl removeView s).tables = s.tables ∧
      (names.foldl removeView s).views.get? k =
        if k ∈ names then none else s.views.get? k := by
  induction names generalizing s with
  | nil => simp
  | cons n ns ih =>
    obtain ⟨hv, ht⟩ := ih (s.removeView n) fun m hm => h m (by simp [hm])
    refine ⟨hv, ?_⟩
    rw [List.foldl_cons, ht]
    simp only [removeView, NameMap.get?_erase, h n (by simp), List.mem_cons]
    by_cases hk : k ∈ ns
    · simp [hk]
    · simp [hk, eq_comm]

theorem get?_tables_without (s t : Schema) (k : String) :
    (s.without t).tables.get? k = if k ∈ t.tables.keys then none else s.tables.get? k := by
  rw [without, (foldl_removeView _ _ k fun _ => lower_of_mem_views).1]
  exact (foldl_removeTable s _ k fun _ => lower_of_mem_tables).2

theorem get?_views_without (s t : Schema) (k : String) :
    (s.without t).views.get? k = if k ∈ t.views.keys then none else s.views.get? k := by
  rw [without, (foldl_removeView _ _ k fun _ => lower_of_mem_views).2,
    (foldl_removeTable s _ k fun _ => lower_of_mem_tables).1]

end Schema

end ProxyCatalog
