import ProxyCatalog.Row

/-!
# The row cache

Rows that the proxy keeps at hand, by database, schema and table. Names are folded at each of these
levels; unique keys are not. Every operation but `withSchema` gives `none` where it would change
nothing for lack of its target: adding what is there, dropping what is not, or reaching into a
parent that is missing.

The rows of a table keep the order of their first arrival, and a key occurs once
(`TableRows.KeyUnique`); `row?_put` and `row?_delete` give the rows found after a change.
-/

namespace ProxyCatalog

/-- The cached rows of one table. -/
structure TableRows where
  /-- The folded name of the table. -/
  name : String
  rows : List Row
deriving DecidableEq

namespace TableRows

/-- No rows of the table with this name, in any spelling. -/
def empty (name : String) : TableRows :=
  ⟨Text.lower name, []⟩

/-- The row with a key. -/
def row? (t : TableRows) (key : String) : Option Row :=
  t.rows.find? (·.key == key)

/-- The row in place of the first one with its key, or else at the end. -/
def replaceOrAppend (row : Row) : List Row → List Row
  | [] => [row]
  | r :: rest => if r.key = row.key then row :: rest else r :: replaceOrAppend row rest

/-- Puts a row. -/
def put (t : TableRows) (row : Row) : TableRows :=
  { t with rows := replaceOrAppend row t.rows }

/-- Takes out the rows with a key. -/
def delete (t : TableRows) (key : String) : TableRows :=
  { t with rows := t.rows.filter (·.key != key) }

/-- No two rows have the same key. -/
def KeyUnique (t : TableRows) : Prop :=
  (t.rows.map Row.key).Nodup

theorem row?_put (t : TableRows) (row : Row) (key : String) :
    (t.put row).row? key = if row.key = key then some row else t.row? key := by
  obtain ⟨name, rows⟩ := t
  simp only [row?, put]
  induction rows with
  | nil => by_cases h : row.key = key <;> simp [replaceOrAppend, h]
  | cons r rest ih =>
    rw [replaceOrAppend]
    split
    · next hr => by_cases h : row.key = key <;> simp [h, hr]
    · next hr =>
      rw [List.find?_cons, List.find?_cons, ih]
      by_cases h : r.key = key
      · have hne : row.key ≠ key := fun e => hr (h.trans e.symm)
        simp [h, hne]
      · rw [beq_eq_false_iff_ne.2 h]

theorem row?_delete (t : TableRows) (key k : String) :
    (t.delete key).row? k = if key = k then none else t.row? k := by
  obtain ⟨name, rows⟩ := t
  simp only [row?, delete, List.find?_filter]
  by_cases h : key = k
  · subst h; simp
  · rw [if_neg h]
    congr 1
    funext r
    by_cases hr : r.key = k
    · simp [hr, Ne.symm h]
    · simp [hr]

theorem KeyUnique.empty (name : String) : (TableRows.empty name).KeyUnique :=
  List.nodup_nil

private theorem key_mem_replaceOrAppend {row : Row} {rows : List Row} {key : String}
    (h : key ∈ (replaceOrAppend row rows).map Row.key) :
    key = row.key ∨ key ∈ rows.map Row.key := by
  induction rows with
  | nil => simpa [replaceOrAppend] using h
  | cons r rest ih =>
    simp only [replaceOrAppend] at h
    split at h
    · simp only [List.map_cons, List.mem_cons] at h ⊢
      exact h.imp_right .inr
    · simp only [List.map_cons, List.mem_cons] at h ⊢
      rcases h with h | h
      · exact .inr (.inl h)
      · exact (ih h).imp_right .inr

theorem KeyUnique.put {t : TableRows} (h : t.KeyUnique) (row : Row) : (t.put row).KeyUnique := by
  obtain ⟨name, rows⟩ := t
  simp only [KeyUnique, TableRows.put] at h ⊢
  induction rows with
  | nil => simp [replaceOrAppend]
  | cons r rest ih =>
    rw [List.map_cons, List.nodup_cons] at h
    simp only [replaceOrAppend]
    split
    · next hr => rw [List.map_cons, List.nodup_cons, ← hr]; exact h
    · next hr =>
      rw [List.map_cons, List.nodup_cons]
      refine ⟨fun hm => ?_, ih h.2⟩
      rcases key_mem_replaceOrAppend hm with e | hm
      · exact hr e
      · exact h.1 hm

theorem KeyUnique.delete {t : TableRows} (h : t.KeyUnique) (key : String) :
    (t.delete key).KeyUnique :=
  (List.filter_sublist.map Row.key).nodup h

end TableRows

/-- The cached rows of the tables of a schema, by folded name. -/
abbrev SchemaRows : Type := NameMap TableRows

/-- The cached rows of the schemas of a database, by folded name. -/
abbrev DatabaseRows : Type := NameMap SchemaRows

/-- The cached rows of all databases, by folded name. -/
structure RowCache where
  databases : NameMap DatabaseRows
deriving DecidableEq, Inhabited

namespace RowCache

instance : EmptyCollection RowCache := ⟨⟨∅⟩⟩

/-! ### Look-up -/

/-- The cached rows of a database. -/
def database? (c : RowCache) (database : String) : Option DatabaseRows :=
  c.databases.get? (Text.lower database)

/-- The cached rows of a schema. -/
def schema? (c : RowCache) (database schema : String) : Option SchemaRows :=
  (c.database? database).bind (·.get? (Text.lower schema))

/-- The cached rows of a table. -/
def table? (c : RowCache) (database schema table : String) : Option TableRows :=
  (c.schema? database schema).bind (·.get? (Text.lower table))

/-- The cached row with a key. -/
def row? (c : RowCache) (database schema table key : String) : Option Row :=
  (c.table? database schema table).bind (·.row? key)

/-! ### Change at one level -/

/-- Changes the rows of a database that is cached. -/
def updateDatabase (c : RowCache) (database : String) (f : DatabaseRows → Option DatabaseRows) :
    Option RowCache :=
  (c.databases.update? (Text.lower database) f).map RowCache.mk

/-- Changes the rows of a schema that is cached. -/
def updateSchema (c : RowCache) (database schema : String)
    (f : SchemaRows → Option SchemaRows) : Option RowCache :=
  c.updateDatabase database fun d => d.update? (Text.lower schema) f

/-- Changes the rows of a table that is cached. -/
def updateTable (c : RowCache) (database schema table : String)
    (f : TableRows → Option TableRows) : Option RowCache :=
  c.updateSchema database schema fun s => s.update? (Text.lower table) f

/-! ### Operations -/

/-- Adds a database without schemas. -/
def addDatabase (c : RowCache) (database : String) : Option RowCache :=
  (c.databases.insertNew? (Text.lower database) ∅).map RowCache.mk

/-- Drops a database with all its rows. -/
def dropDatabase (c : RowCache) (database : String) : Option RowCache :=
  (c.databases.eraseOld? (Text.lower database)).map RowCache.mk

/-- Adds a schema without tables. -/
def addSchema (c : RowCache) (database schema : String) : Option RowCache :=
  c.updateDatabase database fun d => d.insertNew? (Text.lower schema) ∅

/-- Drops a schema with all its rows. -/
def dropSchema (c : RowCache) (database schema : String) : Option RowCache :=
  c.updateDatabase database fun d => d.eraseOld? (Text.lower schema)

/-- Adds a table without rows. -/
def addTable (c : RowCache) (database schema table : String) : Option RowCache :=
  c.updateSchema database schema fun s => s.insertNew? (Text.lower table) (.empty table)

/-- Drops a table with all its rows. -/
def dropTable (c : RowCache) (database schema table : String) : Option RowCache :=
  c.updateSchema database schema fun s => s.eraseOld? (Text.lower table)

/-- Puts a row into a table that is cached. -/
def putRow (c : RowCache) (database schema table : String) (row : Row) : Option RowCache :=
  c.updateTable database schema table fun t => some (t.put row)

/-- Deletes a row that is cached. -/
def deleteRow (c : RowCache) (database schema table key : String) : Option RowCache :=
  c.updateTable database schema table fun t => (t.row? key).map fun _ => t.delete key

/-- Puts the rows of a whole schema, in place of those it had; its database is added if need
be. -/
def withSchema (c : RowCache) (database schema : String) (rows : SchemaRows) : RowCache :=
  let key := Text.lower database
  ⟨c.databases.insert key ((c.databases.getD key ∅).insert (Text.lower schema) rows)⟩

end RowCache

end ProxyCatalog
