import ProxyCatalog.Proofs.Merging
import ProxyCatalog.Proofs.Repair
import ProxyCatalog.Proofs.Routing

/-!
# Reloading a schema or a table

A schema or a table is reloaded by itself, through one pool or through all pools of its database.
Such a reload has a scope, the schema, in the snapshot as well as in the store. Within it, snapshot
and store agree afterwards, whatever the store held before; without, nothing is changed
(`World.ChangedAt`).

* `World.SchemaReloaded`: a reloaded schema has the tables that the storage engines report, and the
  reported views with the stored ones over them. Where no table is reported there is no schema.
* `World.TableReloaded`: a reloaded table is as it is reported, or absent, and the other objects of
  its schema are as they were.
* `World.reload_within_scope`: this is what reloads come to, when they succeed. Where neither the
  schema nor the table exists, nothing is done.
-/

namespace ProxyCatalog

/-! ### One schema of the store -/

namespace Store

/-- The store `t` is `s` with **one schema rewritten**. -/
structure RewrittenAt (database schema : String) (s t : Store) : Prop extends
    Rewritten database s t where
  schemas : ∀ x, Text.lower x ≠ Text.lower schema → t.schema? database x = s.schema? database x

theorem RewrittenAt.congr {x y schema : String} {s t : Store} (h : s.RewrittenAt x schema t)
    (hxy : Text.lower x = Text.lower y) : s.RewrittenAt y schema t where
  toRewritten := h.toRewritten.congr hxy
  schemas z hz := by
    rw [t.schema?_congr hxy.symm rfl, s.schema?_congr hxy.symm rfl, h.schemas z hz]

theorem rewrittenAt_withSchema (s : Store) (database schema : String) (content : Schema) :
    s.RewrittenAt database schema (s.withSchema database schema content) where
  toRewritten := (kept_rewritten database s).withSchema (.refl database s) _ _
  schemas x hx := by
    rw [schema?_withSchema, if_neg fun h => hx h.2.symm]

theorem rewrittenAt_dropSchema (s : Store) (database schema : String) :
    s.RewrittenAt database schema (s.dropSchema database schema) where
  toRewritten := (kept_rewritten database s).dropSchema (.refl database s) _
  schemas x hx := by
    rw [schema?_dropSchema, if_neg fun h => hx h.2.symm]

end Store

/-! ### Tables put and taken out -/

namespace Schema

theorem table?_putTable (s : Schema) (t : Table) (x : String) :
    (s.putTable t).table? x = if Text.lower t.name = Text.lower x then some t else s.table? x :=
  NameMap.get?_insert _ _ _ _

theorem table?_removeTable (s : Schema) (name x : String) :
    (s.removeTable name).table? x =
      if Text.lower name = Text.lower x then none else s.table? x :=
  NameMap.get?_erase _ _ _

/-- The schema `s'` is `s` with a table **replaced** by what was found under its name. -/
structure Replaced (table : String) (found : Option Table) (s s' : Schema) : Prop where
  found : s'.table? table = found
  others : ∀ x, Text.lower x ≠ Text.lower table → s'.table? x = s.table? x
  views : s'.views = s.views

theorem replaced_putTable (s : Schema) {t : Table} {table : String}
    (ht : Text.lower t.name = Text.lower table) : s.Replaced table (some t) (s.putTable t) where
  found := by rw [table?_putTable, if_pos ht]
  others x hx := by rw [table?_putTable, if_neg (ht ▸ hx.symm)]
  views := rfl

theorem replaced_removeTable (s : Schema) (table : String) :
    s.Replaced table none (s.removeTable table) where
  found := by rw [table?_removeTable, if_pos rfl]
  others x hx := by rw [table?_removeTable, if_neg hx.symm]
  views := rfl

end Schema

namespace Database

variable {d d' : Database} {schema table : String} {found : Option Table}

/-- To load the routes leaves the schemas alone. -/
theorem schema?_of_reloadRoutes (h : d.reloadRoutes = .ok d') (x : String) :
    d'.schema? x = d.schema? x := by
  obtain ⟨f, rfl⟩ := reloadRoutes_rest h
  rfl

/-- Nothing is left to do where neither the schema nor the table exists, and only there. -/
theorem withFoundTable_eq_none : Snapshot.withFoundTable d schema table found = .ok none ↔
    d.schema? schema = none ∧ found = none := by
  have hsome {r : Except Fault Database} (h : r.map some = .ok none) : False := by
    cases r with
    | error e => cases h
    | ok d' => cases Except.ok.inj h
  unfold Snapshot.withFoundTable
  cases d.schema? schema with
  | none =>
    cases found with
    | none => exact ⟨fun _ => ⟨rfl, rfl⟩, fun _ => rfl⟩
    | some t => exact ⟨fun h => (hsome h).elim, fun h => by cases h.2⟩
  | some content =>
    refine ⟨fun h => ?_, fun h => by cases h.1⟩
    cases found with
    | none => cases Except.ok.inj h
    | some t => exact (hsome h).elim

/-- A table that was found or not is replaced in its schema, and no other schema is touched. -/
theorem replaced_of_withFoundTable
    (hfound : ∀ t, found = some t → Text.lower t.name = Text.lower table)
    (h : Snapshot.withFoundTable d schema table found = .ok (some d')) :
    (∃ content, d'.schema? schema = some content ∧
        ((d.schema? schema).getD ∅).Replaced table found content) ∧
      ∀ x, Text.lower x ≠ Text.lower schema → d'.schema? x = d.schema? x := by
  rcases withFoundTable_eq_ok h with ⟨t, rfl, hd'⟩ | ⟨content, rfl, hs, rfl⟩
  · have hschemas := (reloadUnlessKnown_eq_ok hd').1
    refine ⟨⟨_, ?_, Schema.replaced_putTable _ (hfound t rfl)⟩, fun x hx => ?_⟩
    · rw [Database.schema?, hschemas, ← Database.schema?, schema?_withSchema_self]
    · rw [Database.schema?, hschemas, ← Database.schema?, schema?_withSchema, if_neg hx.symm]
  · refine ⟨⟨content.removeTable table, ?_, ?_⟩, fun x hx => ?_⟩
    · exact schema?_withSchema_self _ _ _
    · rw [hs]
      exact Schema.replaced_removeTable content table
    · exact (schema?_withSchema _ _ _ _).trans (if_neg hx.symm)

end Database

namespace World

variable {w w' : World} {d d' : Database} {o : Outcome} {database schema : String}

/-! ### The scope -/

/-- From `w` to `w'` nothing is **changed but one schema**, and with it the routes of the
single-table rule of its database: neither in the snapshot, where `d` becomes `d'`, nor in the
store. -/
structure ChangedAt (database schema : String) (w w' : World) (d d' : Database) : Prop where
  before : w.proxy.snapshot.database? database = some d
  after : w'.proxy.snapshot.database? database = some d'
  /-- Name, protocol, pools and rule configurations of the database stay. -/
  revised : d.Revised d'
  schemas : ∀ x, Text.lower x ≠ Text.lower schema → d'.schema? x = d.schema? x
  databases : ∀ x, Text.lower x ≠ Text.lower database →
    w'.proxy.snapshot.database? x = w.proxy.snapshot.database? x
  globalRules : w'.proxy.snapshot.catalog.globalRules = w.proxy.snapshot.catalog.globalRules
  props : w'.proxy.snapshot.catalog.props = w.proxy.snapshot.catalog.props
  rows : w'.proxy.snapshot.rows = w.proxy.snapshot.rows
  store : w.site.store.RewrittenAt database schema w'.site.store

/-- A revised database that is installed keeps the change within its scope. -/
theorem changedAt_of_installed (hs : w.proxy.snapshot.InOrder)
    (hd : w.proxy.snapshot.database? database = some d) (hd' : d.Revised d')
    (hschemas : ∀ x, Text.lower x ≠ Text.lower schema → d'.schema? x = d.schema? x)
    (hsnapshot : w'.proxy.snapshot = w.proxy.snapshot.withDatabase d')
    (hstore : w.site.store.RewrittenAt d.name schema w'.site.store) :
    ChangedAt database schema w w' d d' := by
  have hname : d'.name = Text.lower database := hd'.name.trans (hs.name_eq hd)
  have hdatabase (x : String) : w'.proxy.snapshot.database? x =
      if d'.name = Text.lower x then some d' else w.proxy.snapshot.database? x := by
    rw [hsnapshot]
    exact Catalog.database?_withDatabase _ _ _
  refine ⟨hd, ?_, hd', hschemas, fun x hx => ?_, ?_, ?_, ?_, ?_⟩
  · rw [hdatabase, if_pos hname]
  · rw [hdatabase, hname, if_neg hx.symm]
  · rw [hsnapshot]
    rfl
  · rw [hsnapshot]
    rfl
  · rw [hsnapshot]
    rfl
  · exact hstore.congr (by rw [hs.name_eq hd, Text.lower_lower])

/-- Asked through some pools of the database `d`, the storage engines **report** `found` for a
schema: everything that they report under some spelling of its name. -/
def Finds (w : World) (d : Database) (pools : Pools) (schema : String)
    (tables : Option (List String)) (found : Schema) : Prop :=
  ∃ reported, w.site.discovery ⟨d.name, d.protocol, pools, d.rules, w.proxy.snapshot.catalog.props,
      Text.lower schema⟩ tables = .ok reported ∧
    found.MergedFrom (Schema.Reports reported schema)

theorem finds_of_discoverSchema {pools : Pools} {tables : Option (List String)}
    {found : Option Schema} {t : Site}
    (h : (w.proxy.snapshot.discoverSchema d pools schema tables).run w.site = (.ok found, t)) :
    w.Finds d pools schema tables (found.getD ∅) := by
  obtain ⟨schemas, hschemas, rfl, -⟩ := Snapshot.discoverSchema_ok h
  obtain ⟨reported, hreported, rfl⟩ := Site.findings_eq_ok.1 hschemas
  exact ⟨reported, hreported, Visiting.mergedFrom_fold _ d.name reported schema⟩

/-! ### A schema -/

/-- A schema was **reloaded**, with the content `found` reported for it. -/
structure SchemaReloaded (database schema : String) (found : Schema) (w w' : World)
    (d d' : Database) : Prop extends ChangedAt database schema w w' d d' where
  /-- The store and the snapshot agree. -/
  agrees : w'.site.store.schema? database schema = d'.schema? schema
  absent : found.tables = ∅ → d'.schema? schema = none
  present : found.tables ≠ ∅ → ∃ content, d'.schema? schema = some content ∧
    content.tables = found.tables ∧
      content.views = found.views.overlay ((w.site.store.schema? database schema).getD ∅).views

/-- Without a table that is reported the schema is dropped. -/
private theorem schemaReloaded_of_dropped (hs : w.proxy.snapshot.InOrder) {found : Schema}
    (hd : w.proxy.snapshot.database? database = some d) (hfound : found.tables = ∅)
    (hd' : (d.withoutSchema schema).reloadRoutes = .ok d')
    (hsnapshot : w'.proxy.snapshot = w.proxy.snapshot.withDatabase d')
    (hstore : w'.site.store = w.site.store.dropSchema d.name schema) :
    SchemaReloaded database schema found w w' d d' := by
  have hschemas (x : String) : d'.schema? x =
      if Text.lower schema = Text.lower x then none else d.schema? x := by
    rw [Database.schema?_of_reloadRoutes hd', Database.schema?_withoutSchema]
  have hgone : d'.schema? schema = none := by
    rw [hschemas, if_pos rfl]
  have hname : Text.lower d.name = Text.lower database := by
    rw [hs.name_eq hd, Text.lower_lower]
  refine ⟨changedAt_of_installed hs hd ?_ (fun x hx => ?_) hsnapshot ?_, ?_, fun _ => hgone, ?_⟩
  · exact (d.revised_withoutSchema schema).trans (Database.revised_reloadRoutes hd')
  · rw [hschemas, if_neg hx.symm]
  · rw [hstore]
    exact Store.rewrittenAt_dropSchema _ _ _
  · rw [hstore, Store.schema?_dropSchema, if_pos ⟨hname, rfl⟩, hgone]
  · exact fun hne => (hne hfound).elim

/-- With a table that is reported the schema is put, and written as it is put. -/
private theorem schemaReloaded_of_written (hs : w.proxy.snapshot.InOrder) {found : Schema}
    (hd : w.proxy.snapshot.database? database = some d) (hfound : found.tables ≠ ∅)
    (hd' : (d.withSchema schema (found.putViews (w.site.store.views d.name schema))).reloadRoutes =
      .ok d')
    (hsnapshot : w'.proxy.snapshot = w.proxy.snapshot.withDatabase d')
    (hstore : w'.site.store = w.site.store.withSchema d.name schema
      (found.putViews (w.site.store.views d.name schema))) :
    SchemaReloaded database schema found w w' d d' := by
  let content := found.putViews (w.site.store.views d.name schema)
  have hschemas (x : String) : d'.schema? x =
      if Text.lower schema = Text.lower x then some content else d.schema? x := by
    rw [Database.schema?_of_reloadRoutes hd', Database.schema?_withSchema]
  have hput : d'.schema? schema = some content := by
    rw [hschemas, if_pos rfl]
  have hname : Text.lower d.name = Text.lower database := by
    rw [hs.name_eq hd, Text.lower_lower]
  have hviews : content.views =
      found.views.overlay ((w.site.store.schema? database schema).getD ∅).views := by
    rw [Schema.views_putViews, Store.views, NameMap.foldl_insert_values (Schema.views_keyed _),
      w.site.store.schema?_congr hname rfl]
  refine ⟨changedAt_of_installed hs hd ?_ (fun x hx => ?_) hsnapshot ?_, ?_, ?_, ?_⟩
  · exact (d.revised_withSchema schema content).trans (Database.revised_reloadRoutes hd')
  · rw [hschemas, if_neg hx.symm]
  · rw [hstore]
    exact Store.rewrittenAt_withSchema _ _ _ _
  · rw [hstore, Store.schema?_withSchema, if_pos ⟨hname, rfl⟩, hput]
  · exact fun hnone => (hfound hnone).elim
  · exact fun _ => ⟨content, hput, Schema.tables_putViews _ _, hviews⟩

theorem schemaReloaded_of_apply (hs : w.proxy.snapshot.InOrder) {pool : String}
    (h : w.apply (.reloadSchema database schema pool) = (.ok o, w')) :
    ∃ d d' pools found, d.pools.subset? pool = some pools ∧ w.Finds d pools schema none found ∧
      SchemaReloaded database schema found w w' d d' := by
  obtain ⟨r, t, hplan, hproxy, hstore⟩ := planned_of_apply h
  obtain ⟨d, pools, found, d', u, hd, hpools, hfound, -, -, rfl, hcontent⟩ :=
    Snapshot.reloadSchema_run hplan
  have hsnapshot : w'.proxy.snapshot = w.proxy.snapshot.withDatabase d' := by
    rw [hproxy]
    rfl
  refine ⟨d, d', pools, found.getD ∅, hpools, finds_of_discoverSchema hfound, ?_⟩
  -- The stored views that are put over what is reported add no table to it.
  dsimp only at hcontent
  rw [Schema.tables_putViews] at hcontent
  split at hcontent
  · next hempty =>
    obtain ⟨hd', hdropped⟩ := hcontent
    have hnone := NameMap.isEmpty_iff.1 hempty
    exact schemaReloaded_of_dropped hs hd hnone hd' hsnapshot (hstore.trans hdropped)
  · next hempty =>
    obtain ⟨hd', hwritten⟩ := hcontent
    have hsome (hnone : (found.getD ∅).tables = ∅) : False :=
      hempty (NameMap.isEmpty_iff.2 hnone)
    exact schemaReloaded_of_written hs hd hsome hd' hsnapshot (hstore.trans hwritten)

/-! ### A table -/

/-- A table was **reloaded**, with `found` reported for it. -/
structure TableReloaded (database schema table : String) (found : Option Table) (w w' : World)
    (d d' : Database) : Prop extends ChangedAt database schema w w' d d' where
  /-- The store and the snapshot agree. -/
  agrees : w'.site.store.schema? database schema = d'.schema? schema
  content : ∃ content, d'.schema? schema = some content ∧
    ((d.schema? schema).getD ∅).Replaced table found content

/-- A table that was found or not is replaced, and its schema is written as it then is. -/
private theorem tableReloaded_of_written (hs : w.proxy.snapshot.InOrder) {table : String}
    {found : Option Table} (hd : w.proxy.snapshot.database? database = some d)
    (hfound : ∀ t, found = some t → Text.lower t.name = Text.lower table) (hrevised : d.Revised d')
    (hchanged : Snapshot.withFoundTable d schema table found = .ok (some d'))
    (hsnapshot : w'.proxy.snapshot = w.proxy.snapshot.withDatabase d')
    (hstore : w'.site.store = (d'.schema? schema).elim w.site.store
      (w.site.store.withSchema d.name schema)) :
    TableReloaded database schema table found w w' d d' := by
  obtain ⟨⟨content, hcontent, hreplaced⟩, hschemas⟩ :=
    Database.replaced_of_withFoundTable hfound hchanged
  have hname : Text.lower d.name = Text.lower database := by
    rw [hs.name_eq hd, Text.lower_lower]
  rw [hcontent, Option.elim_some] at hstore
  refine ⟨changedAt_of_installed hs hd hrevised hschemas hsnapshot ?_, ?_, content, hcontent,
    hreplaced⟩
  · rw [hstore]
    exact Store.rewrittenAt_withSchema _ _ _ _
  · rw [hstore, Store.schema?_withSchema, if_pos ⟨hname, rfl⟩, hcontent]

theorem tableReloaded_of_apply (hs : w.proxy.snapshot.InOrder) {table : String}
    {pool : Option String}
    (h : w.apply (.reloadTable database schema table pool) = (.ok o, w')) :
    ∃ d pools found, w.proxy.snapshot.database? database = some d ∧
      pool.elim (some d.pools) d.pools.subset? = some pools ∧
        w.Finds d pools schema (some [table]) found ∧
          if d.schema? schema = none ∧ found.table? table = none then
            w'.proxy = w.proxy ∧ w'.site.store = w.site.store
          else ∃ d', TableReloaded database schema table (found.table? table) w w' d d' := by
  obtain ⟨r, t, hplan, hproxy, hstore⟩ := planned_of_apply h
  obtain ⟨d, pools, hd, hpools, hplan⟩ := Snapshot.reloadTable_run hplan
  obtain ⟨found, u, changed, hfound, -, hchanged, hr⟩ := Snapshot.reloadTableThrough_run hplan
  have hbind : found.bind (·.table? table) = (found.getD ∅).table? table := by
    cases found <;> rfl
  rw [hbind] at hchanged
  refine ⟨d, pools, found.getD ∅, hd, hpools, finds_of_discoverSchema hfound, ?_⟩
  cases changed with
  | none =>
    obtain ⟨rfl, hunwritten⟩ := hr
    rw [if_pos (Database.withFoundTable_eq_none.1 hchanged)]
    exact ⟨hproxy, hstore.trans hunwritten⟩
  | some d' =>
    obtain ⟨rfl, -, hwritten⟩ := hr
    have hsnapshot : w'.proxy.snapshot = w.proxy.snapshot.withDatabase d' := by
      rw [hproxy]
      rfl
    have hnamed (t : Table) (ht : (found.getD ∅).table? table = some t) :
        Text.lower t.name = Text.lower table :=
      ((found.getD ∅).tables_keyed _ t ht).symm
    have hrevision : (Mutation.reloadTable database schema table pool).Revision d d' :=
      .reloadTable hnamed hchanged
    have hrevised := hrevision.revised
    have hexists : ¬(d.schema? schema = none ∧ (found.getD ∅).table? table = none) := by
      intro hnone
      rw [Database.withFoundTable_eq_none.2 hnone] at hchanged
      cases Except.ok.inj hchanged
    rw [if_neg hexists]
    rw [hrevised.name] at hwritten
    exact ⟨d', tableReloaded_of_written hs hd hnamed hrevised hchanged hsnapshot
      (hstore.trans hwritten)⟩

/-! ### Both -/

/-- **A reload of a schema or a table makes snapshot and store agree** within its scope, and touches
nothing else. So it is whatever the store held before and whatever the storage engines report. -/
theorem reload_within_scope (hw : w.Reachable) (store : Store) :
    (∀ database schema pool o w',
      (w.withStore store).apply (.reloadSchema database schema pool) = (.ok o, w') →
        ∃ d d' pools found, d.pools.subset? pool = some pools ∧
          w.Finds d pools schema none found ∧
            SchemaReloaded database schema found (w.withStore store) w' d d') ∧
    (∀ database schema table pool o w',
      (w.withStore store).apply (.reloadTable database schema table pool) = (.ok o, w') →
        ∃ d pools found, w.proxy.snapshot.database? database = some d ∧
          pool.elim (some d.pools) d.pools.subset? = some pools ∧
            w.Finds d pools schema (some [table]) found ∧
              if d.schema? schema = none ∧ found.table? table = none then
                w'.proxy = w.proxy ∧ w'.site.store = store
              else ∃ d', TableReloaded database schema table (found.table? table)
                (w.withStore store) w' d d') := by
  have hs : (w.withStore store).proxy.snapshot.InOrder := hw.inOrder
  constructor
  · intro database schema pool o w' h
    exact schemaReloaded_of_apply hs h
  · intro database schema table pool o w' h
    exact tableReloaded_of_apply hs h

/-- A store that has a view in place of the table of the snapshot. -/
private def viewStore : Store :=
  Sample.store.putSchema "foo_db" "foo_db" (.ofLists [] [⟨"v_item", "SELECT 1"⟩])
    |>.deleteObjects "foo_db" "foo_db" (.ofLists [⟨"t_order", [], [], []⟩] [])

/-- The storage engines report one table, under another spelling of the schema. -/
private def beforeRediscovery : World :=
  Sample.world.after
    [.change (.discovery fun _ _ => .ok (.single "Foo_DB" (.ofLists [⟨"T_Item", [], [], []⟩] [])))]

/-- **A reloaded schema is stored as it is installed**: with the reported table, the stored view,
and without the table of old. -/
theorem rediscovered_schema_stored :
    ∃ w' d', (beforeRediscovery.withStore viewStore).apply
          (.reloadSchema "foo_db" "foo_DB" "ds_0") = (.ok .installed, w') ∧
        w'.proxy.snapshot.database? "foo_db" = some d' ∧
          d'.schema? "foo_DB" =
            some (.ofLists [⟨"T_Item", [], [], []⟩] [⟨"v_item", "SELECT 1"⟩]) ∧
          w'.site.store.schema? "foo_db" "foo_DB" = d'.schema? "foo_DB" := by
  have happly : (beforeRediscovery.withStore viewStore).apply
      (.reloadSchema "foo_db" "foo_DB" "ds_0") = (.ok .installed, _) :=
    Except.run_eq_ok (by decide +kernel)
  have hinstalled : (((beforeRediscovery.withStore viewStore).apply
      (.reloadSchema "foo_db" "foo_DB" "ds_0")).2.proxy.snapshot.database? "foo_db").bind
        (·.schema? "foo_DB") =
      some (.ofLists [⟨"T_Item", [], [], []⟩] [⟨"v_item", "SELECT 1"⟩]) := by
    decide +kernel
  obtain ⟨d, d', pools, found, -, -, hreloaded⟩ :=
    (reload_within_scope (Sample.started_world.reachable.after _) viewStore).1 _ _ _ _ _ happly
  have hd' := hreloaded.after
  rw [hd', Option.bind_some] at hinstalled
  exact ⟨_, d', happly, hd', hinstalled, hreloaded.agrees⟩

end World

end ProxyCatalog
