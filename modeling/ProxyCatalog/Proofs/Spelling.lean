import ProxyCatalog.Proofs.Reconfiguration
import ProxyCatalog.Proofs.Unanimity

/-!
# Names in any spelling

Databases, schemas, tables and views are called by any spelling of their names. A mutation that
calls them otherwise is the same mutation: it installs the same snapshot, leaves the same store, and
opens and retires the same pools. What it may differ in is how names are spelled in the journal, and
in the fault of a database that is not there.

Pools and rows are called by their very names. These are not folded (`Mutation.folded`).

* `Site.IgnoresCase`: neither the storage engines nor the failures of the store tell one spelling of
  a requested name from another. `Site.IgnoresSpelling`: what the engines report is unanimous, too.
* `SpeltAlike`: two runs come to the same, the spelling of names aside.
* `SiteM.Synonymous`: two actions come to the same from sites that differ in the spelling of what is
  recorded and in the order in which schemas are visited. It passes from the parts of an action to
  the whole (`Synonymous.bind`).
* `Mutation.plan_folded`: a mutation is planned like the one with folded names.
* `World.spelt_alike`: it is applied like any other spelling of it.
-/

namespace ProxyCatalog

/-! ### Folding what is requested -/

/-- The change with folded names. The objects to put are given as they are. -/
def SchemaChange.folded (c : SchemaChange) : SchemaChange :=
  { c with
    database := Text.lower c.database
    schema := Text.lower c.schema
    deletedTable := c.deletedTable.map Text.lower
    deletedView := c.deletedView.map Text.lower }

/-- The change with folded names. The key of a row is not a name. -/
def CacheChange.folded : CacheChange → CacheChange
  | addDatabase d => .addDatabase (Text.lower d)
  | dropDatabase d => .dropDatabase (Text.lower d)
  | addSchema d s => .addSchema (Text.lower d) (Text.lower s)
  | dropSchema d s => .dropSchema (Text.lower d) (Text.lower s)
  | addTable d s t => .addTable (Text.lower d) (Text.lower s) (Text.lower t)
  | dropTable d s t => .dropTable (Text.lower d) (Text.lower s) (Text.lower t)
  | deleteRow d s t key => .deleteRow (Text.lower d) (Text.lower s) (Text.lower t) key

/-- The mutation with the names of databases, schemas, tables and views **folded**. Two mutations
with one folded form are spellings of each other. The names of pools, and what is to be put, are
given as they are. -/
def Mutation.folded : Mutation → Mutation
  | addDatabase d => .addDatabase (Text.lower d)
  | dropDatabase d => .dropDatabase (Text.lower d)
  | addSchema d s => .addSchema (Text.lower d) (Text.lower s)
  | dropSchema d s => .dropSchema (Text.lower d) (Text.lower s)
  | alterSchema c => .alterSchema c.folded
  | alterRules d configs => .alterRules (Text.lower d) configs
  | alterPools d specs => .alterPools (Text.lower d) specs
  | alterPoolsAndRules d specs configs => .alterPoolsAndRules (Text.lower d) specs configs
  | alterGlobalRules configs => .alterGlobalRules configs
  | alterProperties values => .alterProperties values
  | reloadDatabase d => .reloadDatabase (Text.lower d)
  | reloadSchema d s pool => .reloadSchema (Text.lower d) (Text.lower s) pool
  | reloadTable d s t pool => .reloadTable (Text.lower d) (Text.lower s) (Text.lower t) pool
  | changeCache c => .changeCache c.folded
  | alterRow d s t payload => .alterRow (Text.lower d) (Text.lower s) (Text.lower t) payload

/-! ### Folding what is reported -/

/-- The fault with the name of a missing database folded. -/
def Fault.folded : Fault → Fault
  | databaseNotFound name => .databaseNotFound (Text.lower name)
  | e => e

/-- The access with the name of the schema folded. -/
def StoreAccess.folded (a : StoreAccess) : StoreAccess :=
  { a with schema := a.schema.map Text.lower }

/-- The write with the name of the schema folded. -/
def StoreWrite.folded : StoreWrite → StoreWrite
  | putSchema d s tables views => .putSchema d (Text.lower s) tables views
  | deleteObjects d s tables views => .deleteObjects d (Text.lower s) tables views
  | dropSchema d s => .dropSchema d (Text.lower s)
  | putRows d s => .putRows d (Text.lower s)

/-- The question with the names of the tables folded. -/
def Inquiry.folded (q : Inquiry) : Inquiry :=
  { q with tables := q.tables.map (·.map Text.lower) }

/-- The event with the names folded that a caller spells. -/
def Event.folded : Event → Event
  | asked q => .asked q.folded
  | wrote w => .wrote w.folded
  | e => e

namespace Site

/-- The site with a journal of folded events, and with no order of visiting of its own. -/
def folded (s : Site) : Site :=
  { s with journal := s.journal.map Event.folded, visiting := .byName }

/-- Recorded events are folded one by one. -/
theorem folded_record (s : Site) (es : List Event) :
    (s.record es).folded = s.folded.record (es.map Event.folded) := by
  simp only [folded, record, List.map_append]

/-- Sites are the same but for spelling if they are so in their journals and the same besides, the
order of visiting excepted. -/
theorem folded_eq_iff {s t : Site} : s.folded = t.folded ↔
    ∃ es v, t = { s with journal := es, visiting := v } ∧
      es.map Event.folded = s.journal.map Event.folded := by
  constructor
  · intro h
    refine ⟨t.journal, t.visiting, ?_, (congrArg journal h).symm⟩
    calc t
      _ = { t.folded with journal := t.journal, visiting := t.visiting } := rfl
      _ = { s.folded with journal := t.journal, visiting := t.visiting } := by rw [h]
  · rintro ⟨es, v, rfl, hes⟩
    simp only [folded, hes]

/-- Pools have no folded names. -/
theorem folded_closePools (s : Site) (pools : Pools) :
    (s.closePools pools).folded = s.folded.closePools pools := by
  rw [closePools, closePools, folded_record, List.map_map]
  rfl

/-- Retiring pools is the same at any two sites that are the same but for spelling. -/
theorem folded_retire (s : Site) (delay : Option Nat) (pools : Pools) :
    (s.retire delay pools).folded = s.folded.retire delay pools := by
  cases delay with
  | none => exact folded_closePools s pools
  | some ms => rfl

/-- **Case is ignored** by the storage engines, as to the tables that are asked for, and by the
failures of the store, as to the schemas. A store in memory has no failures. -/
structure IgnoresCase (s : Site) : Prop where
  discovery : ∀ q tables, s.discovery q (some (tables.map Text.lower)) = s.discovery q (some tables)
  failing : ∀ access : StoreAccess, s.failing access.folded = s.failing access

/-- **Spelling is ignored** altogether: what is reported is unanimous, too, so that no spelling of a
schema stands against another. -/
structure IgnoresSpelling (s : Site) : Prop extends s.IgnoresCase where
  unanimous : s.discovery.Unanimous

/-- What an action does to a site makes it look at no spelling. -/
theorem IgnoresSpelling.of_steady {s t : Site} (h : s.IgnoresSpelling) (hst : s.Steady t) :
    t.IgnoresSpelling := by
  obtain ⟨es, hl⟩ := hst
  refine ⟨⟨?_, ?_⟩, ?_⟩
  · rw [hl.discovery]
    exact h.discovery
  · rw [hl.failing]
    exact h.failing
  · rw [hl.discovery]
    exact h.unanimous

end Site

/-! ### Look-ups -/

/-- Databases are looked up under folded names. -/
@[simp] theorem Snapshot.database?_lower (s : Snapshot) (name : String) :
    s.database? (Text.lower name) = s.database? name := by
  simp only [database?, Catalog.database?, Text.lower_lower]

/-- Schemas are looked up under folded names. -/
@[simp] theorem Database.schema?_lower (d : Database) (name : String) :
    d.schema? (Text.lower name) = d.schema? name := by
  simp only [schema?, Text.lower_lower]

@[simp] theorem Database.withSchema_lower (d : Database) (name : String) (content : Schema) :
    d.withSchema (Text.lower name) content = d.withSchema name content := by
  simp only [withSchema, Text.lower_lower]

@[simp] theorem Database.withoutSchema_lower (d : Database) (name : String) :
    d.withoutSchema (Text.lower name) = d.withoutSchema name := by
  simp only [withoutSchema, Text.lower_lower]

/-- Tables are looked up under folded names. -/
@[simp] theorem Schema.table?_lower (s : Schema) (name : String) :
    s.table? (Text.lower name) = s.table? name := by
  simp only [table?, Text.lower_lower]

@[simp] theorem Schema.removeTable_lower (s : Schema) (name : String) :
    s.removeTable (Text.lower name) = s.removeTable name := by
  simp only [removeTable, Text.lower_lower]

@[simp] theorem Schema.removeView_lower (s : Schema) (name : String) :
    s.removeView (Text.lower name) = s.removeView name := by
  simp only [removeView, Text.lower_lower]

@[simp] theorem RuleSet.knowsTable_lower_schema (rs : RuleSet) (schema table : String) :
    rs.knowsTable (Text.lower schema) table = rs.knowsTable schema table := by
  simp only [knowsTable, route?, Routes.find?, Text.lower_lower]

@[simp] theorem RuleSet.knowsTable_lower_table (rs : RuleSet) (schema table : String) :
    rs.knowsTable schema (Text.lower table) = rs.knowsTable schema table := by
  simp only [knowsTable, route?, Routes.find?, Text.lower_lower]

/-- Routes are taken out under folded names. -/
@[simp] theorem Database.forgetTable_lower (d : Database) (schema table : String) :
    d.forgetTable (Text.lower schema) (Text.lower table) = d.forgetTable schema table := by
  simp only [forgetTable, RuleSet.forgetTable, Routes.remove, Text.lower_lower]

@[simp] theorem Dialect.defaultSchema_lower (d : Dialect) (database : String) :
    d.defaultSchema (Text.lower database) = d.defaultSchema database := by
  simp only [defaultSchema, Text.lower_lower]

/-- A database is made under the folded name, and so is its default schema. -/
@[simp] theorem Database.empty_lower (name : String) (protocol : Dialect) :
    empty (Text.lower name) protocol = empty name protocol := by
  simp only [empty, make, Text.lower_lower, Dialect.defaultSchema_lower]

@[simp] theorem Store.schema?_lower (s : Store) (database schema : String) :
    s.schema? database (Text.lower schema) = s.schema? database schema := by
  simp only [schema?, Text.lower_lower]

@[simp] theorem Store.views_lower (s : Store) (database schema : String) :
    s.views database (Text.lower schema) = s.views database schema := by
  simp only [views, schema?_lower]

@[simp] theorem Store.putSchema_lower (s : Store) (database schema : String) (content : Schema) :
    s.putSchema database (Text.lower schema) content = s.putSchema database schema content := by
  simp only [putSchema, Text.lower_lower]

/-- The store folds the names of schemas, too. -/
@[simp] theorem Store.deleteObjects_lower (s : Store) (database schema : String)
    (content : Schema) :
    s.deleteObjects database (Text.lower schema) content =
      s.deleteObjects database schema content := by
  simp only [deleteObjects, schema?_lower, Text.lower_lower]

@[simp] theorem Store.dropSchema_lower (s : Store) (database schema : String) :
    s.dropSchema database (Text.lower schema) = s.dropSchema database schema := by
  simp only [dropSchema, Text.lower_lower]

/-! ### Plans from the snapshot alone -/

/-- **The row cache is changed in any spelling.** A table made for the cache has a folded name. -/
theorem CacheChange.apply_folded (c : CacheChange) (rows : RowCache) :
    c.folded.apply rows = c.apply rows := by
  cases c <;> simp only [folded, apply, RowCache.addDatabase, RowCache.dropDatabase,
    RowCache.addSchema, RowCache.dropSchema, RowCache.addTable, RowCache.dropTable,
    RowCache.deleteRow, RowCache.updateTable, RowCache.updateSchema, RowCache.updateDatabase,
    TableRows.empty, Text.lower_lower]

/-- Objects are taken out of a schema in any spelling. -/
theorem Database.withObjects_folded (d : Database) (content : Schema) (c : SchemaChange) :
    d.withObjects content c.folded = d.withObjects content c := by
  obtain ⟨database, schema, changedTable, changedView, deletedTable, deletedView⟩ := c
  cases deletedTable <;> cases deletedView <;>
    simp only [withObjects, SchemaChange.folded, Option.map_some, Option.map_none, deleteTable,
      deleteView, forgetTable_lower, Schema.removeTable_lower, Schema.removeView_lower,
      withSchema_lower]

namespace Snapshot

variable (s : Snapshot)

/-- A database is added in any spelling. -/
theorem addDatabase_lower (name : String) :
    s.addDatabase (Text.lower name) = s.addDatabase name := by
  simp only [addDatabase, database?_lower, Database.empty_lower]

theorem dropDatabase_lower (name : String) :
    s.dropDatabase (Text.lower name) = s.dropDatabase name := by
  simp only [dropDatabase, database?_lower, Catalog.withoutDatabase, Text.lower_lower]

/-- A missing database is reported as it was called. -/
theorem addSchema_lower (database schema : String) :
    (s.addSchema (Text.lower database) (Text.lower schema)).mapError Fault.folded =
      (s.addSchema database schema).mapError Fault.folded := by
  simp only [addSchema, database?_lower, Database.schema?_lower, Database.withSchema_lower]
  cases s.database? database with
  | none => exact congrArg (Except.error ∘ Fault.databaseNotFound) (Text.lower_lower _)
  | some d => rfl

theorem dropSchema_lower (database schema : String) :
    s.dropSchema (Text.lower database) (Text.lower schema) = s.dropSchema database schema := by
  simp only [dropSchema, database?_lower, Database.schema?_lower, Database.withoutSchema_lower]

/-- **Objects of a schema are changed in any spelling.** Whether routes have to be loaded does not
depend on it. -/
theorem alterSchema_folded (c : SchemaChange) : s.alterSchema c.folded = s.alterSchema c := by
  have hempty : c.folded.isEmpty = c.isEmpty := by
    simp only [SchemaChange.isEmpty, SchemaChange.folded, Option.isNone_map]
  have hknown (d : Database) : d.reloadUnlessKnown c.folded.schema c.folded.changedNames =
      d.reloadUnlessKnown c.schema c.changedNames := by
    simp only [Database.reloadUnlessKnown, SchemaChange.folded, RuleSet.knowsTable_lower_schema]
    rfl
  simp only [alterSchema, hempty, hknown, Database.withObjects_folded]
  simp only [SchemaChange.folded, database?_lower, Database.schema?_lower]

/-- A row is put into the table in any spelling. -/
theorem alterRow_lower (database schema table : String) (payload : RowPayload) :
    s.alterRow (Text.lower database) (Text.lower schema) (Text.lower table) payload =
      s.alterRow database schema table payload := by
  simp only [alterRow, Snapshot.table?, database?_lower, Database.schema?_lower,
    Schema.table?_lower, RowCache.table?, RowCache.schema?, RowCache.database?, RowCache.putRow,
    RowCache.updateTable, RowCache.updateSchema, RowCache.updateDatabase, Text.lower_lower]

end Snapshot

/-! ### Two runs -/

/-- Two runs **come to the same**, the spelling of names aside. -/
structure SpeltAlike {α : Type} (p q : Except Fault α × Site) : Prop where
  result : p.1.mapError Fault.folded = q.1.mapError Fault.folded
  site : p.2.folded = q.2.folded

namespace SiteM

open Site

variable {α β : Type}

/-- **Synonymous** actions come to the same from sites that are the same but for spelling, in
whatever orders schemas are visited there. -/
def Synonymous (x y : SiteM α) : Prop :=
  ∀ s t : Site, s.IgnoresSpelling → s.folded = t.folded →
    SpeltAlike (x.run s) (y.run t) ∧ (x.run s).2.IgnoresSpelling

namespace Synonymous

/-- Outcomes that are the same but for a missing database are synonymous. -/
theorem ofExcept {x y : Except Fault α} (h : x.mapError Fault.folded = y.mapError Fault.folded) :
    Synonymous (SiteM.ofExcept x) (SiteM.ofExcept y) := by
  intro s t hs hst
  rw [run_ofExcept, run_ofExcept]
  exact ⟨⟨h, hst⟩, hs⟩

theorem pure (a : α) : Synonymous (Pure.pure a) (Pure.pure a) :=
  ofExcept (x := .ok a) rfl

/-- **Sequences are synonymous** if their parts are. -/
theorem bind {x y : SiteM α} {f g : α → SiteM β} (hxy : Synonymous x y)
    (hfg : ∀ a, Synonymous (f a) (g a)) : Synonymous (x >>= f) (y >>= g) := by
  intro s t hs hst
  obtain ⟨⟨hresult, hsite⟩, hcase⟩ := hxy s t hs hst
  rw [run_bind, run_bind]
  cases hx : x.run s with
  | mk r s' =>
    cases hy : y.run t with
    | mk r' t' =>
      rw [hx, hy] at hresult hsite
      rw [hx] at hcase
      -- Results that are the same but for spelling are both faults or the same value.
      cases r with
      | ok a =>
        cases r' with
        | ok b =>
          obtain rfl := Except.ok.inj hresult
          exact hfg a s' t' hcase hsite
        | error e => cases hresult
      | error e =>
        cases r' with
        | ok b => cases hresult
        | error e' => exact ⟨⟨congrArg Except.error (Except.error.inj hresult), hsite⟩, hcase⟩

/-- Loops are synonymous if their bodies are. -/
theorem forM {f g : α → SiteM PUnit} (h : ∀ a, Synonymous (f a) (g a)) (l : List α) :
    Synonymous (l.forM f) (l.forM g) := by
  induction l with
  | nil => exact pure _
  | cons a l ih => exact bind (h a) fun _ => ih

theorem mapM {f g : α → SiteM β} (h : ∀ a, Synonymous (f a) (g a)) (l : List α) :
    Synonymous (l.mapM f) (l.mapM g) := by
  induction l with
  | nil =>
    rw [List.mapM_nil, List.mapM_nil]
    exact pure _
  | cons a l ih =>
    rw [List.mapM_cons, List.mapM_cons]
    exact bind (h a) fun _ => bind ih fun _ => pure _

/-! ### The store and the storage engines -/

/-- What is read is the same if the store does not tell the spellings apart. -/
theorem readStore {access access' : StoreAccess} (h : access.folded = access'.folded)
    {read read' : Store → α} (hread : ∀ s, read s = read' s) :
    Synonymous (Site.readStore access read) (Site.readStore access' read') := by
  intro s t hs hst
  obtain ⟨es, v, rfl, -⟩ := folded_eq_iff.1 hst
  have hmethod : access.method = access'.method := (StoreAccess.mk.inj h).1
  rw [run_readStore, run_readStore, ← hs.failing access, h, hs.failing access', hmethod, hread]
  exact ⟨⟨rfl, hst⟩, hs⟩

/-- What is written is the same, and recorded in one spelling or the other. -/
theorem writeStore {access access' : StoreAccess} (h : access.folded = access'.folded)
    {write write' : StoreWrite} (hwrite : write.folded = write'.folded) {f f' : Store → Store}
    (hf : ∀ s, f s = f' s) :
    Synonymous (Site.writeStore access write f) (Site.writeStore access' write' f') := by
  intro s t hs hst
  obtain ⟨es, v, rfl, hes⟩ := folded_eq_iff.1 hst
  have hmethod : access.method = access'.method := (StoreAccess.mk.inj h).1
  rw [run_writeStore, run_writeStore, ← hs.failing access, h, hs.failing access', hmethod, hf]
  split
  · exact ⟨⟨rfl, hst⟩, hs⟩
  · split
    · refine ⟨⟨rfl, folded_eq_iff.2 ⟨_, _, rfl, ?_⟩⟩, { hs with }⟩
      simp only [record, List.map_append, hes, List.map_singleton, Event.folded, hwrite]
    · exact ⟨⟨rfl, hst⟩, hs⟩

/-- What is found is the same in every order of visiting it. -/
theorem discover (q : Material) {tables tables' : Option (List String)}
    (h : tables.map (·.map Text.lower) = tables'.map (·.map Text.lower)) :
    Synonymous (Site.discover q tables) (Site.discover q tables') := by
  intro s t hs hst
  obtain ⟨es, v, rfl, hes⟩ := folded_eq_iff.1 hst
  have hanswer (tables : Option (List String)) :
      s.discovery q (tables.map (·.map Text.lower)) = s.discovery q tables := by
    cases tables with
    | none => rfl
    | some tables => exact hs.discovery q tables
  have hfound : s.findings q tables =
      ({ s with journal := es, visiting := v } : Site).findings q tables' := by
    rw [findings_congr (t := { s with journal := es, visiting := v }) hs.unanimous rfl, findings,
      findings, ← hanswer tables, h, hanswer tables']
  have hasked : (Event.asked (q.inquiry tables)).folded =
      (Event.asked (q.inquiry tables')).folded := by
    simp only [Event.folded, Inquiry.folded, Material.inquiry, h]
  rw [run_discover, run_discover, hfound]
  refine ⟨⟨rfl, ?_⟩, { hs with }⟩
  rw [folded_record, folded_record, hst, List.map_singleton, List.map_singleton, hasked]

/-- A schema is compared with what is stored for it in any spelling. -/
theorem compareAndPersist (database : String) {schema schema' : String}
    (h : Text.lower schema = Text.lower schema') (content : Schema) :
    Synonymous (Site.compareAndPersist database schema content)
      (Site.compareAndPersist database schema' content) := by
  have haccess (method : StoreMethod) :
      StoreAccess.folded { method, database, schema } =
        StoreAccess.folded { method, database, schema := schema' } := by
    simp only [StoreAccess.folded, Option.map_some, h]
  refine bind (readStore (haccess _) fun s => ?_) fun stored =>
    bind (writeStore (haccess _) ?_ fun s => ?_) fun _ => ?_
  · rw [← s.schema?_lower, h, s.schema?_lower]
  · simp only [StoreWrite.folded, h]
  · rw [← s.putSchema_lower, h, s.putSchema_lower]
  · split
    · refine writeStore (haccess _) ?_ fun s => ?_
      · simp only [StoreWrite.folded, h]
      · rw [← s.deleteObjects_lower, h, s.deleteObjects_lower]
    · exact pure _

/-- A schema is dropped from the store in any spelling. -/
theorem dropSchema (database : String) {schema schema' : String}
    (h : Text.lower schema = Text.lower schema') :
    Synonymous (Site.dropSchema database schema) (Site.dropSchema database schema') := by
  refine writeStore ?_ ?_ fun s => ?_
  · simp only [StoreAccess.folded, Option.map_some, h]
  · simp only [StoreWrite.folded, h]
  · rw [← s.dropSchema_lower, h, s.dropSchema_lower]

theorem persistDelta (database : String) (delta : DatabaseDelta) :
    Synonymous (Site.persistDelta database delta) (Site.persistDelta database delta) :=
  bind (forM (fun _ => writeStore rfl rfl fun _ => rfl) _) fun _ =>
    bind (forM (fun _ => writeStore rfl rfl fun _ => rfl) _) fun _ =>
      forM (fun _ => dropSchema database rfl) _

/-! ### Pools -/

/-- Pools are opened in the same way whatever the journal says and in whatever order schemas are
visited. -/
theorem openSwitch (current : Pools) (proposed : NameMap PoolSpec) (mode : SwitchMode) :
    Synonymous (Site.openSwitch current proposed mode)
      (Site.openSwitch current proposed mode) := by
  refine bind (fun s t hs hst => ?_) fun _ => pure _
  let specs := (SwitchPlan.compute current.specs proposed mode).created
  refine ⟨?_, hs.of_steady (sparing_openPools specs s).1⟩
  obtain ⟨es, v, rfl, hes⟩ := folded_eq_iff.1 hst
  obtain ⟨⟨pools, fault⟩, n, fs, hopened, hopened'⟩ := openEach_congr specs.entries
    (s := s) (t := { s with journal := es, visiting := v }) rfl rfl
  have hsite : ({ s with openings := n, journal := s.journal ++ fs } : Site).folded =
      ({ s with openings := n, journal := es ++ fs, visiting := v } : Site).folded := by
    simp only [folded, List.map_append, hes]
  rw [run_openPools, run_openPools, hopened, hopened']
  cases fault with
  | none => exact ⟨rfl, hsite⟩
  | some e =>
    refine ⟨rfl, ?_⟩
    rw [folded_closePools, folded_closePools]
    exact congrArg (closePools pools) hsite

/-- The same pools are closed after a fault. -/
theorem closingOnFault (pools : Pools) {x y : SiteM α} (h : Synonymous x y) :
    Synonymous (Site.closingOnFault pools x) (Site.closingOnFault pools y) := by
  intro s t hs hst
  obtain ⟨⟨hresult, hsite⟩, hcase⟩ := h s t hs hst
  rw [run_closingOnFault, run_closingOnFault]
  cases hx : x.run s with
  | mk r s' =>
    cases hy : y.run t with
    | mk r' t' =>
      rw [hx, hy] at hresult hsite
      rw [hx] at hcase
      cases r with
      | ok a =>
        cases r' with
        | ok b => exact ⟨⟨hresult, hsite⟩, hcase⟩
        | error e => cases hresult
      | error e =>
        cases r' with
        | ok b => cases hresult
        | error e' =>
          refine ⟨⟨hresult, ?_⟩, { hcase with }⟩
          rw [folded_closePools, folded_closePools]
          exact congrArg (closePools pools) hsite

/-! ### Assembling databases -/

/-- **A database is assembled in any order of visiting** what is found for it. -/
theorem fromEngines (reg : Registry) (name : String) (pools : Pools) (configs : List RuleConfig)
    (props : Properties) :
    Synonymous (Assembly.fromEngines reg name pools configs props)
      (Assembly.fromEngines reg name pools configs props) := by
  have hviews (schemas : NameMap Schema) : Synonymous (Assembly.withStoredViews name schemas)
      (Assembly.withStoredViews name schemas) :=
    bind (mapM (fun _ => bind (readStore rfl fun _ => rfl) fun _ => pure _) _) fun _ => pure _
  exact bind (ofExcept rfl) fun _ => bind (ofExcept rfl) fun _ => bind (discover _ rfl) fun _ =>
    bind (hviews _) fun _ => ofExcept rfl

end Synonymous

end SiteM

/-! ### Plans that ask -/

namespace Snapshot

variable (s : Snapshot)

/-- A missing database is reported as it was called. -/
theorem findDatabase_lower (name : String) :
    (s.findDatabase (Text.lower name)).mapError Fault.folded =
      (s.findDatabase name).mapError Fault.folded := by
  simp only [findDatabase, database?_lower]
  cases s.database? name with
  | none => exact congrArg (Except.error ∘ Fault.databaseNotFound) (Text.lower_lower _)
  | some d => rfl

open SiteM

/-- A plan for a database is the same for every spelling of its name. -/
theorem synonymous_findDatabase {α : Type} (name : String) {f g : Database → SiteM α}
    (h : ∀ d, Synonymous (f d) (g d)) : Synonymous (SiteM.ofExcept (s.findDatabase name) >>= f)
      (SiteM.ofExcept (s.findDatabase (Text.lower name)) >>= g) :=
  .bind (.ofExcept (s.findDatabase_lower name).symm) h

/-- A rebuild comes to the same in any order of visiting. -/
theorem synonymous_rebuild (reg : Registry) (d : Database) (pools : Pools)
    (configs : List RuleConfig) :
    Synonymous (s.rebuild reg d pools configs) (s.rebuild reg d pools configs) :=
  .bind (.fromEngines _ _ _ _ _) fun _ => .bind (.ofExcept rfl) fun _ =>
    .bind (.persistDelta _ _) fun _ => .pure _

/-- A switch of pools comes to the same in any order of visiting. -/
theorem synonymous_switchPools (reg : Registry) (d : Database) (specs : NameMap PoolSpec)
    (mode : SwitchMode) (configs : List RuleConfig) :
    Synonymous (s.switchPools reg d specs mode configs)
      (s.switchPools reg d specs mode configs) := by
  refine .bind (.openSwitch _ _ _) fun sw => .bind (.closingOnFault _ ?_) fun _ => .pure _
  exact .bind (s.synonymous_rebuild _ _ _ _) fun _ =>
    .bind (.forM (fun _ => .writeStore rfl rfl fun _ => rfl) _) fun _ => .pure _

/-- A database is reloaded in any spelling. -/
theorem synonymous_reloadDatabase (reg : Registry) (database : String) :
    Synonymous (s.reloadDatabase reg database) (s.reloadDatabase reg (Text.lower database)) := by
  refine s.synonymous_findDatabase database fun d =>
    .bind (.readStore rfl fun _ => rfl) fun specs =>
      .bind (.openSwitch _ _ _) fun sw => .bind (.closingOnFault _ ?_) fun _ => .pure _
  exact .bind (.readStore rfl fun _ => rfl) fun _ => .bind (.readStore rfl fun _ => rfl) fun _ =>
    .bind (.readStore rfl fun _ => rfl) fun _ => .bind (.fromEngines _ _ _ _ _) fun _ =>
      .bind (.ofExcept rfl) fun _ => .bind (.forM (fun _ => .dropSchema _ rfl) _) fun _ =>
        .bind (.forM (fun _ => .compareAndPersist _ rfl _) _) fun _ => .pure _

/-- A schema is asked for in any spelling, and so are tables. -/
theorem synonymous_discoverSchema (d : Database) (pools : Pools) (schema : String)
    (tables : Option (List String)) :
    Synonymous (s.discoverSchema d pools schema tables)
      (s.discoverSchema d pools (Text.lower schema) (tables.map (·.map Text.lower))) := by
  rw [discoverSchema, discoverSchema, Text.lower_lower]
  refine .bind (.discover _ ?_) fun _ => .pure _
  cases tables <;> simp

/-- A schema is reloaded in any spelling. -/
theorem synonymous_reloadSchema (database schema pool : String) :
    Synonymous (s.reloadSchema database schema pool)
      (s.reloadSchema (Text.lower database) (Text.lower schema) pool) := by
  have hlower := (Text.lower_lower schema).symm
  refine s.synonymous_findDatabase database fun d => .bind (.ofExcept rfl) fun pools =>
    .bind (s.synonymous_discoverSchema d pools schema none) fun found =>
      .bind (.readStore ?_ fun t => (t.views_lower _ _).symm) fun views => ?_
  · simp only [StoreAccess.folded, Option.map_some, Text.lower_lower]
  simp only [Database.withoutSchema_lower, Database.withSchema_lower]
  split
  · exact .bind (.dropSchema _ hlower) fun _ =>
      .bind (.pure _) fun _ => .bind (.ofExcept rfl) fun _ => .pure _
  · exact .bind (.compareAndPersist _ hlower _) fun _ =>
      .bind (.pure _) fun _ => .bind (.ofExcept rfl) fun _ => .pure _

/-- A table that was found is put into the schema in any spelling. -/
theorem withFoundTable_lower (d : Database) (schema table : String) (found : Option Table) :
    withFoundTable d (Text.lower schema) (Text.lower table) found =
      withFoundTable d schema table found := by
  simp only [withFoundTable, Database.schema?_lower, Database.withSchema_lower,
    Schema.removeTable_lower, Database.forgetTable_lower, Database.reloadUnlessKnown,
    RuleSet.knowsTable_lower_schema, List.all_cons, List.all_nil, RuleSet.knowsTable_lower_table]
  rfl

/-- A table is reloaded in any spelling. -/
theorem synonymous_reloadTable (database schema table : String) (pool : Option String) :
    Synonymous (s.reloadTable database schema table pool)
      (s.reloadTable (Text.lower database) (Text.lower schema) (Text.lower table) pool) := by
  have hthrough (d : Database) (pools : Pools) :
      Synonymous (s.reloadTableThrough d pools schema table)
        (s.reloadTableThrough d pools (Text.lower schema) (Text.lower table)) := by
    refine .bind (s.synonymous_discoverSchema d pools schema (some [table])) fun found => ?_
    simp only [Schema.table?_lower, withFoundTable_lower, Database.schema?_lower]
    refine .bind (.ofExcept rfl) fun changed => ?_
    cases changed with
    | none => exact .pure _
    | some changed =>
      dsimp only
      cases changed.schema? schema with
      | none => exact .pure _
      | some content =>
        exact .bind (.compareAndPersist _ (Text.lower_lower schema).symm _) fun _ => .pure _
  refine s.synonymous_findDatabase database fun d => ?_
  cases pool with
  | none => exact hthrough d d.pools
  | some name => exact .bind (.ofExcept rfl) fun pools => hthrough d pools

end Snapshot

/-- **A mutation is planned in any spelling.** -/
theorem Mutation.plan_folded (m : Mutation) (reg : Registry) (s : Snapshot) :
    SiteM.Synonymous (m.plan reg s) (m.folded.plan reg s) := by
  cases m with
  | addDatabase database =>
    rw [folded, plan, plan, s.addDatabase_lower]
    exact .ofExcept rfl
  | dropDatabase database =>
    rw [folded, plan, plan, s.dropDatabase_lower]
    exact .pure _
  | addSchema database schema => exact .ofExcept (s.addSchema_lower database schema).symm
  | dropSchema database schema =>
    rw [folded, plan, plan, s.dropSchema_lower]
    exact .pure _
  | alterSchema c =>
    rw [folded, plan, plan, s.alterSchema_folded]
    exact .ofExcept rfl
  | alterRules database configs =>
    exact s.synonymous_findDatabase database fun _ =>
      .bind (s.synonymous_rebuild _ _ _ _) fun _ => .pure _
  | alterPools database specs =>
    exact s.synonymous_findDatabase database fun _ => s.synonymous_switchPools _ _ _ _ _
  | alterPoolsAndRules database specs configs =>
    exact s.synonymous_findDatabase database fun _ => s.synonymous_switchPools _ _ _ _ _
  | alterGlobalRules configs => exact .ofExcept rfl
  | alterProperties values => exact .ofExcept rfl
  | reloadDatabase database => exact s.synonymous_reloadDatabase reg database
  | reloadSchema database schema pool => exact s.synonymous_reloadSchema database schema pool
  | reloadTable database schema table pool =>
    exact s.synonymous_reloadTable database schema table pool
  | changeCache c =>
    rw [folded, plan, plan, Snapshot.changeCache, Snapshot.changeCache, c.apply_folded]
    exact .pure _
  | alterRow database schema table payload =>
    rw [folded, plan, plan, s.alterRow_lower]
    exact .ofExcept rfl

/-! ### Pools and rows by their very names -/

theorem NameMap.update?_eq_some {α : Type} {m m' : NameMap α} {k : String} {f : α → Option α}
    (h : m.update? k f = some m') :
    ∃ v v', m.get? k = some v ∧ f v = some v' ∧ m' = m.insert k v' := by
  obtain ⟨v, hv, h⟩ := Option.bind_eq_some_iff.1 h
  obtain ⟨v', hv', h⟩ := Option.bind_eq_some_iff.1 h
  exact ⟨v, v', hv, hv', (Option.some.inj h).symm⟩

namespace RowCache

variable {c c' : RowCache} {database schema table : String}

/-- A change of the rows of a table is a change of what is found there. -/
theorem table?_updateTable {f : TableRows → Option TableRows}
    (h : c.updateTable database schema table f = some c') :
    ∃ rows rows', c.table? database schema table = some rows ∧ f rows = some rows' ∧
      c'.table? database schema table = some rows' := by
  obtain ⟨databases, hdatabases, rfl⟩ := Option.map_eq_some_iff.1 h
  obtain ⟨d, d', hd, hd', rfl⟩ := NameMap.update?_eq_some hdatabases
  obtain ⟨s, s', hs, hs', rfl⟩ := NameMap.update?_eq_some hd'
  obtain ⟨rows, rows', hrows, hrows', rfl⟩ := NameMap.update?_eq_some hs'
  refine ⟨rows, rows', ?_, hrows', ?_⟩
  · simp only [table?, schema?, database?, hd, hs, hrows, Option.bind_some]
  · simp only [table?, schema?, database?, NameMap.get?_insert_self, Option.bind_some]

/-- Rows under other keys stay where one is deleted. -/
theorem row?_deleteRow {key k : String} (h : c.deleteRow database schema table key = some c')
    (hk : k ≠ key) : c'.row? database schema table k = c.row? database schema table k := by
  obtain ⟨rows, rows', hrows, hdelete, hrows'⟩ := table?_updateTable h
  obtain ⟨row, -, rfl⟩ := Option.map_eq_some_iff.1 hdelete
  rw [row?, row?, hrows, hrows', Option.bind_some, Option.bind_some, TableRows.row?_delete,
    if_neg hk.symm]

/-- Rows under other keys stay where one is put. -/
theorem row?_putRow {row : Row} {k : String} (h : c.putRow database schema table row = some c')
    (hk : k ≠ row.key) : c'.row? database schema table k = c.row? database schema table k := by
  obtain ⟨rows, rows', hrows, hput, hrows'⟩ := table?_updateTable h
  obtain rfl := Option.some.inj hput
  rw [row?, row?, hrows, hrows', Option.bind_some, Option.bind_some, TableRows.row?_put,
    if_neg hk.symm]

end RowCache

/-- A pool is found under its very name. -/
theorem Snapshot.findPool_eq_error {d : Database} {pool : String}
    (h : d.pools.contains pool = false) : findPool d pool = .error (.poolNotFound d.name pool) := by
  rw [NameMap.contains, Option.isSome_eq_false_iff, Option.isNone_iff_eq_none] at h
  rw [findPool, Pools.subset?, h]
  rfl

namespace Mutation

/-- The mutations that reload **through a pool** of this name. -/
inductive Through (database pool : String) : Mutation → Prop
  | reloadSchema (schema : String) : Through database pool (.reloadSchema database schema pool)
  | reloadTable (schema table : String) :
    Through database pool (.reloadTable database schema table (some pool))

/-- The mutations of the cached row **under a key** of a table. -/
inductive UnderKey (database schema table key : String) : Mutation → Prop
  | deleteRow :
    UnderKey database schema table key (.changeCache (.deleteRow database schema table key))
  | alterRow (values : List (Option String)) :
    UnderKey database schema table key (.alterRow database schema table ⟨key, values⟩)

variable {m : Mutation} {reg : Registry} {s : Snapshot} {site t : Site}

/-- A pool that is missing under its very name is missing, and nothing is done. -/
theorem Through.plan {database pool : String} (h : m.Through database pool) {d : Database}
    (hd : s.database? database = some d) (hpool : d.pools.contains pool = false) :
    (m.plan reg s).run site = (.error (.poolNotFound d.name pool), site) := by
  have hmissing : (SiteM.ofExcept (Snapshot.findPool d pool)).run site =
      (.error (.poolNotFound d.name pool), site) := by
    rw [Snapshot.findPool_eq_error hpool, SiteM.run_ofExcept]
  cases h with
  | reloadSchema schema =>
    exact (Snapshot.run_findDatabase hd _ _).trans (SiteM.run_bind_error.2 (.inl hmissing))
  | reloadTable schema table =>
    exact (Snapshot.run_findDatabase hd _ _).trans (SiteM.run_bind_error.2 (.inl hmissing))

/-- Rows under other keys stay. -/
theorem UnderKey.row? {database schema table key k : String} {c : Change}
    (h : m.UnderKey database schema table key) (hk : k ≠ key)
    (hplan : (m.plan reg s).run site = (.ok (some c), t)) :
    c.snapshot.rows.row? database schema table k = s.rows.row? database schema table k := by
  cases h with
  | deleteRow =>
    obtain ⟨rows, hrows, rfl⟩ := Snapshot.changeCache_some (SiteM.run_pure_ok.1 hplan).1
    exact RowCache.row?_deleteRow hrows hk
  | alterRow values =>
    obtain ⟨row, rows, hkey, hrows, rfl⟩ := Snapshot.alterRow_ok (SiteM.run_ofExcept_ok.1 hplan).1
    exact RowCache.row?_putRow hrows fun hrow => hk (hrow.trans hkey)

end Mutation

/-! ### Mutations in any spelling -/

namespace World

variable {w : World}

/-- To follow a change up is the same from sites that are the same but for spelling. -/
theorem folded_followUp (w : World) (c : Change) : (w.followUp c).site.folded =
    ({ w with site := w.site.folded }.followUp c).site := by
  rw [followUp_eq, followUp_eq]
  dsimp only
  rw [Site.folded_retire, Site.folded_record, List.map_map]
  rfl

/-- A mutation comes to the same as the one with folded names, wherever the same proxy is in the
same surroundings but for spelling. -/
theorem apply_folded {w w' : World} (hproxy : w.proxy = w'.proxy) (h : w.site.IgnoresSpelling)
    (hsite : w.site.folded = w'.site.folded) (m : Mutation) :
    SpeltAlike ((w.apply m).1, (w.apply m).2.site)
        ((w'.apply m.folded).1, (w'.apply m.folded).2.site) ∧
      (w.apply m).2.proxy = (w'.apply m.folded).2.proxy := by
  obtain ⟨proxy, s⟩ := w
  obtain ⟨proxy', s'⟩ := w'
  obtain rfl : proxy = proxy' := hproxy
  obtain ⟨⟨hresult, hsite⟩, -⟩ := m.plan_folded proxy.registry proxy.snapshot s s' h hsite
  rw [apply, apply]
  dsimp only
  generalize (m.plan proxy.registry proxy.snapshot).run s = p at *
  generalize (m.folded.plan proxy.registry proxy.snapshot).run s' = p' at *
  obtain ⟨r, t⟩ := p
  obtain ⟨r', t'⟩ := p'
  cases r with
  | error e =>
    cases r' with
    | error e' => exact ⟨⟨congrArg Except.error (Except.error.inj hresult), hsite⟩, rfl⟩
    | ok r' => cases hresult
  | ok r =>
    cases r' with
    | error e => cases hresult
    | ok r' =>
      obtain rfl := Except.ok.inj hresult
      cases r with
      | none => exact ⟨⟨rfl, hsite⟩, rfl⟩
      | some c =>
        refine ⟨⟨rfl, ?_⟩, ?_⟩
        · dsimp only at hsite ⊢
          rw [folded_followUp, folded_followUp, install, install, hsite]
        · rw [(followUp_rest _ c).1, (followUp_rest _ c).1]
          rfl

end World

end ProxyCatalog
