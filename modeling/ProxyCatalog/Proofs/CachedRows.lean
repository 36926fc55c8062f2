import ProxyCatalog.Proofs.Confinement
import ProxyCatalog.Proofs.Restoration
import ProxyCatalog.Proofs.Spelling
import Mathlib.Logic.Basic

/-!
# The row cache as maps within maps

Each operation on the row cache is about one place in it: a database, a schema, a table or a row. It
is idle, with `none`, where the place above is missing, where it would add what is there, or where
it would take out what is not. Otherwise it changes what is at its place and nothing beside it.
Places are written as paths of folded names, the key of a row, which is not folded, coming last.

* `RowCache.AgreesOff`: two caches are the same at every place apart from a path. It is narrowed
  level by level, as the operations reach down (`AgreesOff.inDatabase`, `inSchema`, `inTable`).
* `TableRows.puts_put`, `TableRows.KeyUnique.takesOut_delete`: the rows of a table stay in order.
* `RowCache.Built.nested_maps`: the whole, for every cache that is built by such operations.
-/

namespace ProxyCatalog

/-! ### One level -/

namespace NameMap

variable {α : Type} {m m' : NameMap α} {k x : String} {v : α} {f : α → Option α}

/-- An update is idle where there is nothing to update or nothing to do. -/
theorem update?_eq_none : m.update? k f = none ↔ ∀ v, m.get? k = some v → f v = none := by
  rw [update?]
  cases m.get? k with
  | none => exact iff_of_true rfl nofun
  | some v =>
    cases hf : f v with
    | none => simp [hf]
    | some v' => simp [hf]

theorem insertNew?_eq_none : m.insertNew? k v = none ↔ (m.get? k).isSome := by
  rw [insertNew?]
  split
  next h => exact iff_of_true rfl h
  next h => exact iff_of_false (Option.some_ne_none _) h

theorem eraseOld?_eq_none : m.eraseOld? k = none ↔ m.get? k = none := by
  rw [eraseOld?, contains]
  cases m.get? k with
  | none => exact iff_of_true rfl rfl
  | some v => exact iff_of_false (Option.some_ne_none _) (Option.some_ne_none _)

theorem get?_of_update? (h : m.update? k f = some m') (hx : k ≠ x) : m'.get? x = m.get? x := by
  obtain ⟨v, v', -, -, rfl⟩ := update?_eq_some h
  rw [get?_insert, if_neg hx]

theorem get?_of_insertNew? (h : m.insertNew? k v = some m') (hx : k ≠ x) :
    m'.get? x = m.get? x := by
  obtain ⟨-, rfl⟩ := insertNew?_eq_some.1 h
  rw [get?_insert, if_neg hx]

theorem get?_of_eraseOld? (h : m.eraseOld? k = some m') (hx : k ≠ x) : m'.get? x = m.get? x := by
  obtain ⟨-, rfl⟩ := eraseOld?_eq_some.1 h
  rw [get?_erase, if_neg hx]

end NameMap

/-! ### The rows of a table -/

namespace TableRows

variable {t t' : TableRows} {row : Row} {key : String}

/-- A row was **put**: in place of the one with its key, or last if there is none. -/
inductive Puts (row : Row) (t : TableRows) : TableRows → Prop
  | replaced {before after : List Row} {old : Row} : t.rows = before ++ old :: after →
      old.key = row.key → Puts row t ⟨t.name, before ++ row :: after⟩
  | appended : (∀ r ∈ t.rows, r.key ≠ row.key) → Puts row t ⟨t.name, t.rows ++ [row]⟩

/-- The row with a key was **taken out** from between the others. -/
inductive TakesOut (key : String) (t : TableRows) : TableRows → Prop
  | mk {before after : List Row} {old : Row} : t.rows = before ++ old :: after → old.key = key →
      TakesOut key t ⟨t.name, before ++ after⟩

/-- **A row takes the place of the one with its key**, or comes last. -/
theorem replaceOrAppend_cases (row : Row) (rows : List Row) :
    (∃ before old after, rows = before ++ old :: after ∧ old.key = row.key ∧
      replaceOrAppend row rows = before ++ row :: after) ∨
    ((∀ r ∈ rows, r.key ≠ row.key) ∧ replaceOrAppend row rows = rows ++ [row]) := by
  induction rows with
  | nil => exact .inr ⟨fun _ hr => absurd hr List.not_mem_nil, rfl⟩
  | cons r rest ih =>
    rw [replaceOrAppend]
    split
    next hr => exact .inl ⟨[], r, rest, rfl, hr, rfl⟩
    next hr =>
      obtain ⟨before, old, after, hrest, hold, hput⟩ | ⟨hnew, hput⟩ := ih
      · exact .inl ⟨r :: before, old, after, congrArg (r :: ·) hrest, hold, congrArg (r :: ·) hput⟩
      · exact .inr ⟨List.forall_mem_cons.2 ⟨hr, hnew⟩, congrArg (r :: ·) hput⟩

theorem puts_put (t : TableRows) (row : Row) : t.Puts row (t.put row) := by
  obtain ⟨before, old, after, hrows, hold, hput⟩ | ⟨hnew, hput⟩ := replaceOrAppend_cases row t.rows
  · rw [put, hput]
    exact .replaced hrows hold
  · rw [put, hput]
    exact .appended hnew

/-- Where no key occurs twice only one row is taken out. -/
theorem KeyUnique.takesOut_delete (h : t.KeyUnique) (hrow : t.row? key = some row) :
    t.TakesOut key (t.delete key) := by
  obtain ⟨hkey, before, after, hrows, hbefore⟩ := List.find?_eq_some_iff_append.1 hrow
  have hold : row.key = key := beq_iff_eq.1 hkey
  rw [KeyUnique, hrows, List.map_append, List.map_cons, List.nodup_append] at h
  obtain ⟨-, hafter, -⟩ := h
  have hfirst : before.filter (·.key != key) = before :=
    List.filter_eq_self.2 hbefore
  have hlast : after.filter (·.key != key) = after := by
    refine List.filter_eq_self.2 fun r hr => bne_iff_ne.2 fun hsame => ?_
    exact (List.nodup_cons.1 hafter).1 (hold ▸ hsame ▸ List.mem_map_of_mem hr)
  have hdelete : t.delete key = ⟨t.name, before ++ after⟩ := by
    rw [TableRows.delete, hrows, List.filter_append, List.filter_cons_of_neg (by simp [hold]),
      hfirst, hlast]
  rw [hdelete]
  exact .mk hrows hold

end TableRows

/-! ### Places beside each other -/

/-- Two paths are **apart** if neither leads through the other. -/
def Apart (p q : List String) : Prop :=
  ¬ p <+: q ∧ ¬ q <+: p

instance {p q : List String} : Decidable (Apart p q) :=
  inferInstanceAs (Decidable (_ ∧ _))

@[simp] theorem apart_cons {a b : String} {p q : List String} :
    Apart (a :: p) (b :: q) ↔ a ≠ b ∨ Apart p q := by
  rw [Apart, Apart, List.cons_prefix_cons, List.cons_prefix_cons]
  by_cases h : a = b
  · simp [h]
  · simp [h, Ne.symm h]

@[simp] theorem not_apart_nil_left {q : List String} : ¬ Apart [] q :=
  fun h => h.1 List.nil_prefix

@[simp] theorem not_apart_nil_right {p : List String} : ¬ Apart p [] :=
  fun h => h.2 List.nil_prefix

namespace RowCache

variable {c c' : RowCache} {database schema table key : String}

/-! ### What a change of one level finds -/

/-- What is updated was found, and is found afterwards. -/
theorem found_updateDatabase {f : DatabaseRows → Option DatabaseRows}
    (h : c.updateDatabase database f = some c') :
    ∃ r r', c.database? database = some r ∧ f r = some r' ∧ c'.database? database = some r' := by
  obtain ⟨databases, hdatabases, rfl⟩ := Option.map_eq_some_iff.1 h
  obtain ⟨r, r', hr, hr', rfl⟩ := NameMap.update?_eq_some hdatabases
  exact ⟨r, r', hr, hr', NameMap.get?_insert_self _ _ _⟩

theorem found_updateSchema {f : SchemaRows → Option SchemaRows}
    (h : c.updateSchema database schema f = some c') :
    ∃ r r', c.schema? database schema = some r ∧ f r = some r' ∧
      c'.schema? database schema = some r' := by
  obtain ⟨d, d', hd, hd', hfound⟩ := found_updateDatabase h
  obtain ⟨r, r', hr, hr', rfl⟩ := NameMap.update?_eq_some hd'
  refine ⟨r, r', ?_, hr', ?_⟩
  · rw [schema?, hd]
    exact hr
  · rw [schema?, hfound]
    exact NameMap.get?_insert_self _ _ _

/-- An update of a database is idle where it is missing or the update is idle in it. -/
theorem updateDatabase_eq_none {f : DatabaseRows → Option DatabaseRows} :
    c.updateDatabase database f = none ↔ ∀ r, c.database? database = some r → f r = none := by
  rw [updateDatabase, Option.map_eq_none_iff, NameMap.update?_eq_none]
  rfl

theorem updateSchema_eq_none {f : SchemaRows → Option SchemaRows} :
    c.updateSchema database schema f = none ↔
      ∀ r, c.schema? database schema = some r → f r = none := by
  rw [updateSchema, updateDatabase_eq_none, schema?]
  simp only [NameMap.update?_eq_none, Option.bind_eq_some_iff, forall_exists_index, and_imp]
  exact ⟨fun h r d hd hr => h d hd r hr, fun h d hd r hr => h r d hd hr⟩

theorem updateTable_eq_none {f : TableRows → Option TableRows} :
    c.updateTable database schema table f = none ↔
      ∀ r, c.table? database schema table = some r → f r = none := by
  rw [updateTable, updateSchema_eq_none, table?]
  simp only [NameMap.update?_eq_none, Option.bind_eq_some_iff, forall_exists_index, and_imp]
  exact ⟨fun h r d hd hr => h d hd r hr, fun h d hd r hr => h r d hd hr⟩

/-! ### What a change leaves alone -/

/-- Two caches **agree off** a path: the same is found at every place apart from it. -/
structure AgreesOff (path : List String) (c c' : RowCache) : Prop where
  database : ∀ x, Apart path [Text.lower x] → c'.database? x = c.database? x
  schema : ∀ x y, Apart path [Text.lower x, Text.lower y] → c'.schema? x y = c.schema? x y
  table : ∀ x y z, Apart path [Text.lower x, Text.lower y, Text.lower z] →
    c'.table? x y z = c.table? x y z
  row : ∀ x y z k, Apart path [Text.lower x, Text.lower y, Text.lower z, k] →
    c'.row? x y z k = c.row? x y z k

namespace AgreesOff

/-- What concerns one database leaves the others. -/
theorem of_database
    (h : ∀ x, Text.lower database ≠ Text.lower x → c'.database? x = c.database? x) :
    AgreesOff [Text.lower database] c c' := by
  have hschema (x y : String) (hx : Text.lower database ≠ Text.lower x) :
      c'.schema? x y = c.schema? x y := by
    rw [schema?, schema?, h x hx]
  have htable (x y z : String) (hx : Text.lower database ≠ Text.lower x) :
      c'.table? x y z = c.table? x y z := by
    rw [table?, table?, hschema x y hx]
  refine ⟨fun x hx => h x (by simpa using hx), fun x y hx => hschema x y (by simpa using hx),
    fun x y z hx => htable x y z (by simpa using hx), fun x y z k hx => ?_⟩
  rw [row?, row?, htable x y z (by simpa using hx)]

/-- What concerns one schema leaves the other schemas of its database, too. -/
theorem schema_of (h : AgreesOff [Text.lower database] c c')
    (hin : ∀ y, Text.lower schema ≠ Text.lower y → c'.schema? database y = c.schema? database y) :
    AgreesOff [Text.lower database, Text.lower schema] c c' := by
  have hschema (x y : String)
      (hxy : Text.lower database ≠ Text.lower x ∨ Text.lower schema ≠ Text.lower y) :
      c'.schema? x y = c.schema? x y := by
    by_cases hx : Text.lower database = Text.lower x
    · have hin' := hin y (hxy.resolve_left (not_not_intro hx))
      rw [schema?, schema?, database?, database?, hx] at hin'
      exact hin'
    · exact h.schema x y (by simpa using hx)
  have htable (x y z : String)
      (hxy : Text.lower database ≠ Text.lower x ∨ Text.lower schema ≠ Text.lower y) :
      c'.table? x y z = c.table? x y z := by
    rw [table?, table?, hschema x y hxy]
  refine ⟨fun x hx => h.database x (by simpa using hx),
    fun x y hxy => hschema x y (by simpa using hxy),
    fun x y z hxy => htable x y z (by simpa using hxy), fun x y z k hxy => ?_⟩
  rw [row?, row?, htable x y z (by simpa using hxy)]

/-- What concerns one table leaves the other tables of its schema, too. -/
theorem table_of (h : AgreesOff [Text.lower database, Text.lower schema] c c')
    (hin : ∀ z, Text.lower table ≠ Text.lower z →
      c'.table? database schema z = c.table? database schema z) :
    AgreesOff [Text.lower database, Text.lower schema, Text.lower table] c c' := by
  have htable (x y z : String) (hxyz : Text.lower database ≠ Text.lower x ∨
      Text.lower schema ≠ Text.lower y ∨ Text.lower table ≠ Text.lower z) :
      c'.table? x y z = c.table? x y z := by
    by_cases hxy : Text.lower database = Text.lower x ∧ Text.lower schema = Text.lower y
    · obtain ⟨hx, hy⟩ := hxy
      have hz := (hxyz.resolve_left (not_not_intro hx)).resolve_left (not_not_intro hy)
      have hin' := hin z hz
      simp only [table?, schema?, database?, hx, hy] at hin'
      exact hin'
    · rw [not_and_or] at hxy
      exact h.table x y z (by simpa using hxy)
  refine ⟨fun x hx => h.database x (by simpa using hx),
    fun x y hxy => h.schema x y (by simpa using hxy),
    fun x y z hxyz => htable x y z (by simpa using hxyz), fun x y z k hxyz => ?_⟩
  rw [row?, row?, htable x y z (by simpa using hxyz)]

/-- What concerns one row leaves the other rows of its table, too. -/
theorem row_of (h : AgreesOff [Text.lower database, Text.lower schema, Text.lower table] c c')
    (hin : ∀ k, key ≠ k → c'.row? database schema table k = c.row? database schema table k) :
    AgreesOff [Text.lower database, Text.lower schema, Text.lower table, key] c c' := by
  refine ⟨fun x hx => h.database x (by simpa using hx),
    fun x y hxy => h.schema x y (by simpa using hxy),
    fun x y z hxyz => h.table x y z (by simpa using hxyz), fun x y z k hxyzk => ?_⟩
  by_cases hxyz : Text.lower database = Text.lower x ∧ Text.lower schema = Text.lower y ∧
      Text.lower table = Text.lower z
  · obtain ⟨hx, hy, hz⟩ := hxyz
    have hk : key ≠ k := by simpa [hx, hy, hz] using hxyzk
    have hin' := hin k hk
    simp only [row?, table?, schema?, database?, hx, hy, hz] at hin'
    exact hin'
  · rw [not_and_or, not_and_or] at hxyz
    exact h.row x y z k (by simpa using hxyz)

/-! ### Changes of one level -/

theorem updateDatabase {f : DatabaseRows → Option DatabaseRows}
    (hc : c.updateDatabase database f = some c') : AgreesOff [Text.lower database] c c' :=
  of_database fun _ hx => database?_updateDatabase hc hx

/-- A change of a database that leaves its other schemas alone is one of the schema. -/
theorem inDatabase {f : DatabaseRows → Option DatabaseRows}
    (hc : c.updateDatabase database f = some c')
    (hf : ∀ r r' y, f r = some r' → Text.lower schema ≠ y → r'.get? y = r.get? y) :
    AgreesOff [Text.lower database, Text.lower schema] c c' := by
  refine (updateDatabase hc).schema_of fun y hy => ?_
  obtain ⟨r, r', hr, hr', hfound⟩ := found_updateDatabase hc
  rw [schema?, schema?, hr, hfound]
  exact hf r r' _ hr' hy

theorem updateSchema {f : SchemaRows → Option SchemaRows}
    (hc : c.updateSchema database schema f = some c') :
    AgreesOff [Text.lower database, Text.lower schema] c c' :=
  inDatabase hc fun _ _ _ hr hy => NameMap.get?_of_update? hr hy

/-- A change of a schema that leaves its other tables alone is one of the table. -/
theorem inSchema {f : SchemaRows → Option SchemaRows}
    (hc : c.updateSchema database schema f = some c')
    (hf : ∀ r r' z, f r = some r' → Text.lower table ≠ z → r'.get? z = r.get? z) :
    AgreesOff [Text.lower database, Text.lower schema, Text.lower table] c c' := by
  refine (updateSchema hc).table_of fun z hz => ?_
  obtain ⟨r, r', hr, hr', hfound⟩ := found_updateSchema hc
  rw [table?, table?, hr, hfound]
  exact hf r r' _ hr' hz

theorem updateTable {f : TableRows → Option TableRows}
    (hc : c.updateTable database schema table f = some c') :
    AgreesOff [Text.lower database, Text.lower schema, Text.lower table] c c' :=
  inSchema hc fun _ _ _ hr hz => NameMap.get?_of_update? hr hz

/-- A change of a table that leaves its rows under other keys alone is one of the row. -/
theorem inTable {f : TableRows → Option TableRows}
    (hc : c.updateTable database schema table f = some c')
    (hf : ∀ r r' k, f r = some r' → key ≠ k → r'.row? k = r.row? k) :
    AgreesOff [Text.lower database, Text.lower schema, Text.lower table, key] c c' := by
  refine (updateTable hc).row_of fun k hk => ?_
  obtain ⟨r, r', hr, hr', hfound⟩ := table?_updateTable hc
  rw [row?, row?, hr, hfound]
  exact hf r r' k hr' hk

/-- To put the rows of a schema leaves everything else. -/
theorem withSchema (c : RowCache) (database schema : String) (rows : SchemaRows) :
    AgreesOff [Text.lower database, Text.lower schema] c (c.withSchema database schema rows) := by
  have hdatabase (x : String) (hx : Text.lower database ≠ Text.lower x) :
      (c.withSchema database schema rows).database? x = c.database? x := by
    rw [database?, RowCache.withSchema, NameMap.get?_insert, if_neg hx]
    rfl
  refine (of_database hdatabase).schema_of fun y hy => ?_
  rw [schema?_withSchema, if_neg fun h => hy h.2]

end AgreesOff

/-! ### Operations -/

/-- An **operation** on the row cache. -/
inductive Operation where
  | change (change : CacheChange)
  | putRow (database schema table : String) (row : Row)
  | withSchema (database schema : String) (rows : SchemaRows)

namespace Operation

/-- The row cache after an operation; `none` where it is idle. -/
def apply (c : RowCache) : Operation → Option RowCache
  | change e => e.apply c
  | putRow d s t row => c.putRow d s t row
  | withSchema d s rows => some (c.withSchema d s rows)

/-- The path to the **target** of an operation. -/
def target : Operation → List String
  | change (.addDatabase d) | change (.dropDatabase d) => [Text.lower d]
  | change (.addSchema d s) | change (.dropSchema d s) | withSchema d s _ =>
    [Text.lower d, Text.lower s]
  | change (.addTable d s t) | change (.dropTable d s t) =>
    [Text.lower d, Text.lower s, Text.lower t]
  | change (.deleteRow d s t key) => [Text.lower d, Text.lower s, Text.lower t, key]
  | putRow d s t row => [Text.lower d, Text.lower s, Text.lower t, row.key]

/-- An operation is **idle** where the parent of its target is missing, where it would add what is
present, or where it would take out what is absent. -/
def Idle (c : RowCache) : Operation → Prop
  | change (.addDatabase d) => (c.database? d).isSome
  | change (.dropDatabase d) => c.database? d = none
  | change (.addSchema d s) => c.database? d = none ∨ (c.schema? d s).isSome
  | change (.dropSchema d s) => c.database? d = none ∨ c.schema? d s = none
  | change (.addTable d s t) => c.schema? d s = none ∨ (c.table? d s t).isSome
  | change (.dropTable d s t) => c.schema? d s = none ∨ c.table? d s t = none
  | change (.deleteRow d s t key) => c.table? d s t = none ∨ c.row? d s t key = none
  | putRow d s t _ => c.table? d s t = none
  | withSchema _ _ _ => False

/-- What is found at the target of an operation **after** it: something without contents, nothing
but the parent, the rows with one put or one taken out, or the rows that were given. -/
def Leaves (c c' : RowCache) : Operation → Prop
  | change (.addDatabase d) => c'.database? d = some ∅
  | change (.dropDatabase d) => c'.database? d = none
  | change (.addSchema d s) => c'.schema? d s = some ∅
  | change (.dropSchema d s) => (c'.database? d).isSome ∧ c'.schema? d s = none
  | change (.addTable d s t) => c'.table? d s t = some (.empty t)
  | change (.dropTable d s t) => (c'.schema? d s).isSome ∧ c'.table? d s t = none
  | change (.deleteRow d s t key) => ∃ rows rows', c.table? d s t = some rows ∧
      c'.table? d s t = some rows' ∧ rows.TakesOut key rows' ∧ c'.row? d s t key = none
  | putRow d s t row => ∃ rows rows', c.table? d s t = some rows ∧
      c'.table? d s t = some rows' ∧ rows.Puts row rows' ∧ c'.row? d s t row.key = some row
  | withSchema d s rows => c'.schema? d s = some rows

variable {op : Operation}

/-- What holds of all that is found holds, or nothing is found. -/
private theorem forall_eq_some_iff {α : Type} {x : Option α} {p : α → Prop} {q : Prop}
    (h : ∀ r, x = some r → (p r ↔ q)) : (∀ r, x = some r → p r) ↔ x = none ∨ q := by
  cases x with
  | none => exact iff_of_true nofun (.inl rfl)
  | some r => simpa using h r rfl

/-- An operation gives `none` exactly **where it is idle**. -/
theorem apply_eq_none_iff : op.apply c = none ↔ op.Idle c := by
  -- A place is reached through the one above it.
  have hschema {d s : String} {r : DatabaseRows} (hr : c.database? d = some r) :
      c.schema? d s = r.get? (Text.lower s) := by
    rw [schema?, hr, Option.bind_some]
  have htable {d s t : String} {r : SchemaRows} (hr : c.schema? d s = some r) :
      c.table? d s t = r.get? (Text.lower t) := by
    rw [table?, hr, Option.bind_some]
  have hrow {d s t key : String} {r : TableRows} (hr : c.table? d s t = some r) :
      c.row? d s t key = r.row? key := by
    rw [row?, hr, Option.bind_some]
  cases op with
  | change e =>
    cases e with
    | addDatabase d => exact Option.map_eq_none_iff.trans NameMap.insertNew?_eq_none
    | dropDatabase d => exact Option.map_eq_none_iff.trans NameMap.eraseOld?_eq_none
    | addSchema d s =>
      refine updateDatabase_eq_none.trans (forall_eq_some_iff fun r hr => ?_)
      rw [NameMap.insertNew?_eq_none, hschema hr]
    | dropSchema d s =>
      refine updateDatabase_eq_none.trans (forall_eq_some_iff fun r hr => ?_)
      rw [NameMap.eraseOld?_eq_none, hschema hr]
    | addTable d s t =>
      refine updateSchema_eq_none.trans (forall_eq_some_iff fun r hr => ?_)
      rw [NameMap.insertNew?_eq_none, htable hr]
    | dropTable d s t =>
      refine updateSchema_eq_none.trans (forall_eq_some_iff fun r hr => ?_)
      rw [NameMap.eraseOld?_eq_none, htable hr]
    | deleteRow d s t key =>
      refine updateTable_eq_none.trans (forall_eq_some_iff fun r hr => ?_)
      rw [Option.map_eq_none_iff, hrow hr]
  | putRow d s t row =>
    exact updateTable_eq_none.trans
      ((forall_eq_some_iff fun _ _ => iff_of_false (Option.some_ne_none _) id).trans
        (or_iff_left id))
  | withSchema d s rows => exact iff_of_false (Option.some_ne_none _) id

/-- **What an operation leaves at its target**, where no key occurs twice in a table. -/
theorem leaves_of_apply
    (hkeys : ∀ d s t rows, c.table? d s t = some rows → rows.KeyUnique)
    (h : op.apply c = some c') : op.Leaves c c' := by
  cases op with
  | change e =>
    cases e with
    | addDatabase d =>
      obtain ⟨databases, hm, rfl⟩ := Option.map_eq_some_iff.1 h
      obtain ⟨-, rfl⟩ := NameMap.insertNew?_eq_some.1 hm
      exact NameMap.get?_insert_self _ _ _
    | dropDatabase d =>
      obtain ⟨databases, hm, rfl⟩ := Option.map_eq_some_iff.1 h
      obtain ⟨-, rfl⟩ := NameMap.eraseOld?_eq_some.1 hm
      exact NameMap.get?_erase_self _ _
    | addSchema d s =>
      obtain ⟨r, r', -, hr', hfound⟩ := found_updateDatabase h
      obtain ⟨-, rfl⟩ := NameMap.insertNew?_eq_some.1 hr'
      rw [Leaves, schema?, hfound]
      exact NameMap.get?_insert_self _ _ _
    | dropSchema d s =>
      obtain ⟨r, r', -, hr', hfound⟩ := found_updateDatabase h
      obtain ⟨-, rfl⟩ := NameMap.eraseOld?_eq_some.1 hr'
      rw [Leaves, schema?, hfound]
      exact ⟨rfl, NameMap.get?_erase_self _ _⟩
    | addTable d s t =>
      obtain ⟨r, r', -, hr', hfound⟩ := found_updateSchema h
      obtain ⟨-, rfl⟩ := NameMap.insertNew?_eq_some.1 hr'
      rw [Leaves, table?, hfound]
      exact NameMap.get?_insert_self _ _ _
    | dropTable d s t =>
      obtain ⟨r, r', -, hr', hfound⟩ := found_updateSchema h
      obtain ⟨-, rfl⟩ := NameMap.eraseOld?_eq_some.1 hr'
      rw [Leaves, table?, hfound]
      exact ⟨rfl, NameMap.get?_erase_self _ _⟩
    | deleteRow d s t key =>
      obtain ⟨r, r', hr, hr', hfound⟩ := table?_updateTable h
      obtain ⟨row, hrow, rfl⟩ := Option.map_eq_some_iff.1 hr'
      refine ⟨r, _, hr, hfound, (hkeys d s t r hr).takesOut_delete hrow, ?_⟩
      rw [row?, hfound, Option.bind_some, TableRows.row?_delete, if_pos rfl]
  | putRow d s t row =>
    obtain ⟨r, r', hr, hr', hfound⟩ := table?_updateTable h
    obtain rfl := Option.some.inj hr'
    refine ⟨r, _, hr, hfound, r.puts_put row, ?_⟩
    rw [row?, hfound, Option.bind_some, TableRows.row?_put, if_pos rfl]
  | withSchema d s rows =>
    obtain rfl := Option.some.inj h
    rw [Leaves, schema?_withSchema, if_pos ⟨rfl, rfl⟩]

/-- **An operation changes nothing beside its target.** -/
theorem agreesOff_of_apply (h : op.apply c = some c') : AgreesOff op.target c c' := by
  cases op with
  | change e =>
    cases e with
    | addDatabase d =>
      have hc : (CacheChange.addDatabase d).apply c = some c' := h
      exact .of_database fun x hx => database?_change hc hx
    | dropDatabase d =>
      have hc : (CacheChange.dropDatabase d).apply c = some c' := h
      exact .of_database fun x hx => database?_change hc hx
    | addSchema d s => exact .inDatabase h fun _ _ _ hr hy => NameMap.get?_of_insertNew? hr hy
    | dropSchema d s => exact .inDatabase h fun _ _ _ hr hy => NameMap.get?_of_eraseOld? hr hy
    | addTable d s t => exact .inSchema h fun _ _ _ hr hz => NameMap.get?_of_insertNew? hr hz
    | dropTable d s t => exact .inSchema h fun _ _ _ hr hz => NameMap.get?_of_eraseOld? hr hz
    | deleteRow d s t key =>
      refine .inTable h fun r r' k hr' hk => ?_
      obtain ⟨row, -, rfl⟩ := Option.map_eq_some_iff.1 hr'
      rw [TableRows.row?_delete, if_neg hk]
  | putRow d s t row =>
    refine .inTable h fun r r' k hr' hk => ?_
    obtain rfl := Option.some.inj hr'
    rw [TableRows.row?_put, if_neg hk]
  | withSchema d s rows =>
    obtain rfl := Option.some.inj h
    exact .withSchema c d s rows

end Operation

/-! ### Runs of operations -/

/-- A cache is **built** by operations from none, those that are idle left out. The rows of a whole
schema are taken from a cache that is built as well. -/
inductive Built : RowCache → Prop
  | empty : Built ∅
  | change {c c' : RowCache} {e : CacheChange} : Built c → e.apply c = some c' → Built c'
  | putRow {c c' : RowCache} {database schema table : String} {row : Row} : Built c →
      c.putRow database schema table row = some c' → Built c'
  | withSchema {c source : RowCache} {d s : String} {rows : SchemaRows} (database schema : String) :
      Built c → Built source → source.schema? d s = some rows →
        Built (c.withSchema database schema rows)

theorem Proper.schema? (h : c.Proper) {rows : SchemaRows}
    (hr : c.schema? database schema = some rows) : SchemaRows.Proper rows := by
  obtain ⟨d, hd, hr⟩ := Option.bind_eq_some_iff.1 hr
  exact (h.database? hd).entry _ rows hr

theorem Proper.table? (h : c.Proper) {rows : TableRows}
    (hr : c.table? database schema table = some rows) :
    TableRows.Proper (Text.lower table) rows := by
  obtain ⟨s, hs, hr⟩ := Option.bind_eq_some_iff.1 hr
  exact (h.schema? hs).entry _ rows hr

/-- **However a row cache is built, it is proper.** -/
theorem Built.proper (h : c.Built) : c.Proper := by
  induction h with
  | empty => exact .empty
  | change _ hc ih => exact ih.change hc
  | putRow _ hc ih => exact ih.putRow hc
  | withSchema database schema _ _ hrows ih ihsource => exact ih.withSchema (ihsource.schema? hrows)

/-- **The row cache is maps within maps.** However it is built, no key occurs twice in a table. An
operation gives `none` exactly where it is idle, and otherwise it leaves at its target what it
says, the other rows of a table in their order, and changes nothing beside it. -/
theorem Built.nested_maps (h : c.Built) :
    (∀ d s t rows, c.table? d s t = some rows → rows.KeyUnique) ∧
      ∀ op : Operation, (op.apply c = none ↔ op.Idle c) ∧
        ∀ c', op.apply c = some c' → op.Leaves c c' ∧ AgreesOff op.target c c' := by
  have hkeys (d s t : String) (rows : TableRows) (hr : c.table? d s t = some rows) :
      rows.KeyUnique := (h.proper.table? hr).2
  exact ⟨hkeys, fun op => ⟨Operation.apply_eq_none_iff, fun c' hc =>
    ⟨Operation.leaves_of_apply hkeys hc, Operation.agreesOff_of_apply hc⟩⟩⟩

/-- A cache of one table with some rows. -/
private def ordersOf (rows : List Row) : RowCache :=
  ⟨.single "foo_db" (.single "public" (.single "t_order" ⟨"t_order", rows⟩))⟩

/-- One with two rows. -/
private def orders : RowCache :=
  ordersOf [⟨"1", []⟩, ⟨"2", [.null]⟩]

private theorem orders_built : orders.Built := by
  have hdatabase : (CacheChange.addDatabase "FOO_DB").apply ∅ = some ⟨.single "foo_db" ∅⟩ := by
    decide +kernel
  have hschema : (CacheChange.addSchema "foo_db" "PUBLIC").apply ⟨.single "foo_db" ∅⟩ =
      some ⟨.single "foo_db" (.single "public" ∅)⟩ := by
    decide +kernel
  have htable : (CacheChange.addTable "foo_db" "public" "T_Order").apply
      ⟨.single "foo_db" (.single "public" ∅)⟩ = some (ordersOf []) := by
    decide +kernel
  have hfirst : (ordersOf []).putRow "foo_db" "public" "t_order" ⟨"1", []⟩ =
      some (ordersOf [⟨"1", []⟩]) := by
    decide +kernel
  have hsecond : (ordersOf [⟨"1", []⟩]).putRow "foo_db" "public" "t_order" ⟨"2", [.null]⟩ =
      some orders := by
    decide +kernel
  exact .putRow (.putRow (.change (.change (.change .empty hdatabase) hschema) htable) hfirst)
    hsecond

/-- **A row that is put again** takes its place, and the row after it is found as before. The table
cannot be added in another spelling. -/
theorem orders_nested_maps :
    let op : Operation := .putRow "FOO_DB" "Public" "T_ORDER" ⟨"1", [.bool true]⟩
    let orders' := ordersOf [⟨"1", [.bool true]⟩, ⟨"2", [.null]⟩]
    orders.Built ∧ op.apply orders = some orders' ∧
      orders'.row? "foo_db" "PUBLIC" "t_order" "2" = orders.row? "foo_db" "PUBLIC" "t_order" "2" ∧
        (Operation.change (.addTable "foo_db" "public" "T_Order")).apply orders = none := by
  intro op orders'
  have hput : op.apply orders = some orders' := by decide +kernel
  obtain ⟨-, hoperation⟩ := orders_built.nested_maps
  obtain ⟨-, hbeside⟩ := (hoperation op).2 orders' hput
  obtain ⟨hidle, -⟩ := hoperation (.change (.addTable "foo_db" "public" "T_Order"))
  exact ⟨orders_built, hput, hbeside.row _ _ _ _ (by decide +kernel),
    hidle.2 (.inr (by decide +kernel))⟩

end RowCache

end ProxyCatalog
