import ProxyCatalog.Proofs.Merging
import ProxyCatalog.Proofs.Repair
import ProxyCatalog.Proofs.Drift

/-!
# The contents of a database that is built anew

Whatever mutation builds a database anew, its schemas come from three sources: the storage engines
report tables, the dialect towards clients demands a default schema, and the store has the views.
Where the engines report tables only, and no two spellings of a name disagree, nothing else is in
the database, and writing it back leaves the stored views alone.

* `Assembly.contains_engineSchemas`, `Assembly.content_of_engineSchemas`: the names and the contents
  of the schemas of an assembled database.
* `World.assembled_of_apply`: every mutation that builds a database anew installs one that was
  assembled with the properties that are installed with it.
* `Database.Shows`: the database has what was reported, and the stored views.
* `World.contents_of_rebuild`: so it is after every such mutation.
-/

namespace ProxyCatalog

/-! ### Assembled schemas -/

namespace Assembly

variable {store : Store} {name : String} {protocol : Dialect} {found schemas : NameMap Schema}

theorem contains_withDefault (schemas : NameMap Schema) (name k : String) :
    (withDefault schemas name).contains k ↔ schemas.contains k ∨ k = name := by
  rw [NameMap.contains, get?_withDefault, Option.isSome_or, Bool.or_eq_true, NameMap.contains,
    @eq_comm _ k]
  split <;> simp_all

/-- The default schema is without objects, as a schema that is not there. -/
theorem getD_withDefault (schemas : NameMap Schema) (name k : String) :
    (withDefault schemas name).getD k ∅ = schemas.getD k ∅ := by
  rw [NameMap.getD, get?_withDefault, NameMap.getD]
  cases schemas.get? k with
  | some content => rfl
  | none =>
    rw [Option.none_or]
    split <;> rfl

/-- **The names of the schemas** are those that are found and the default name. -/
theorem contains_engineSchemas {k : String} :
    (engineSchemas store name protocol found).contains k ↔
      found.contains k ∨ k = protocol.defaultSchema name := by
  rw [engineSchemas, NameMap.contains, NameMap.get?_mapValues, Option.isSome_map,
    ← NameMap.contains, contains_withDefault]

/-- **The content of a schema** is what is found of it, with the stored views put over it. -/
theorem content_of_engineSchemas {k : String} {content : Schema}
    (h : (engineSchemas store name protocol found).get? k = some content) :
    content = (found.getD k ∅).putViews (store.views name k) := by
  rw [engineSchemas, NameMap.get?_mapValues] at h
  obtain ⟨base, hbase, rfl⟩ := Option.map_eq_some_iff.1 h
  rw [← getD_withDefault found (protocol.defaultSchema name), NameMap.getD, hbase]
  rfl

end Assembly

/-! ### What a database shows -/

/-- The database **shows** what was reported for it, and the stored views. -/
structure Database.Shows (d : Database) (reported : NameMap Schema) (store : Store) : Prop where
  tables : ∀ schema content, d.schema? schema = some content → ∀ table t,
    content.table? table = some t ↔
      ∃ part, Schema.Reports reported schema part ∧ part.table? table = some t
  views : ∀ schema content, d.schema? schema = some content →
    content.views = ((store.schema? d.name schema).getD ∅).views

/-- An assembled database shows what the storage engines report if these are tables that they agree
about, in whatever order they are visited. -/
theorem Database.shows_of_schemas {d : Database} {protocol : Dialect} {reported : NameMap Schema}
    {store : Store} (v : Visiting) (database : String)
    (hschemas : d.schemas =
      Assembly.engineSchemas store d.name protocol (v.fold database reported))
    (htables : Schema.TablesOnly reported) (hagree : Schema.Agreeing reported) :
    d.Shows reported store := by
  have hcontent {schema : String} {content : Schema} (h : d.schema? schema = some content) :
      content = ((v.fold database reported).getD (Text.lower schema) ∅).putViews
        (store.views d.name (Text.lower schema)) := by
    rw [schema?, hschemas] at h
    exact Assembly.content_of_engineSchemas h
  refine ⟨fun schema content h table t => ?_, fun schema content h => ?_⟩
  · have hmerged := v.mergedFrom_fold database reported schema
    rw [hcontent h, Schema.table?, Schema.tables_putViews, ← Schema.table?]
    exact hmerged.table?_eq_some_iff hagree
  · have hmerged := v.mergedFrom_fold database reported schema
    rw [hcontent h, Schema.views_putViews, Store.views,
      NameMap.foldl_insert_values (Schema.views_keyed _), hmerged.views_eq_empty htables,
      NameMap.empty_overlay, store.schema?_congr rfl (Text.lower_lower schema)]

namespace World

variable {w w' : World} {m : Mutation} {o : Outcome} {database : String}

/-- **Every mutation that builds a database anew** installs one that was assembled from the storage
engines with the properties that are installed with it. Views that are stored as they are installed
stay so. -/
theorem assembled_of_apply (hw : w.Reachable) (hm : m.rebuilds? = some database)
    (h : w.apply m = (.ok o, w')) :
    ∃ d' pools configs u v, w'.proxy.snapshot.database? database = some d' ∧ w.site.Sparing u ∧
      (Assembly.fromEngines w.proxy.registry (Text.lower database) pools configs
        w'.proxy.snapshot.catalog.props).run u = (.ok d', v) ∧
      ∀ schema content, d'.schema? schema = some content →
        content.views = ((w.site.store.schema? database schema).getD ∅).views →
          ((w'.site.store.schema? database schema).getD ∅).views = content.views := by
  have hs := hw.inOrder
  by_cases hr : m.reconfigures? = some database
  · obtain ⟨d, d', t, c, hd, hc, hsnapshot, hstore, hd', -⟩ := reconfiguration_of_apply hw hr h
    obtain ⟨pools, u, v, hu, hbuilt⟩ := hc.built
    rw [hs.name_eq hd, ← Snapshot.props_of_withRebuilt hc.installed, ← hsnapshot] at hbuilt
    refine ⟨d', pools, _, u, v, hd', hu, hbuilt, fun schema content hcontent hviews => ?_⟩
    have hname : Text.lower d.name = Text.lower database := by
      rw [hs.name_eq hd, Text.lower_lower]
    have hfollows := (hc.stored (hs.database hd) hcontent).1
    rw [Store.schema?_congr _ hname rfl, Store.schema?_congr _ hname rfl, ← hstore] at hfollows
    -- A view that changes is written as it is installed, and one that does not is stored.
    ext1 k
    rw [hfollows.views k, ← hviews]
    exact ite_self _
  · have hm : m = .reloadDatabase database := by
      cases m with
      | reloadDatabase name => exact congrArg _ (Option.some.inj hm)
      | alterRules name configs => exact (hr hm).elim
      | alterPools name specs => exact (hr hm).elim
      | alterPoolsAndRules name specs configs => exact (hr hm).elim
      | _ => cases hm
    subst hm
    obtain ⟨d, d', t, c, hd, hc, hsnapshot, hstore, hd'⟩ := reload_of_apply hs h
    obtain ⟨sw, u, v, hopen, hbuilt⟩ := hc.built
    obtain ⟨rules, -, hinstalled⟩ := hc.installed
    have hprops : w'.proxy.snapshot.catalog.props = w.site.store.props := by
      rw [hsnapshot, hinstalled]
      rfl
    rw [hs.name_eq hd, ← hprops] at hbuilt
    refine ⟨d', _, _, u, v, hd', (Site.sparing_openSwitch _ _ _).of_run hopen, hbuilt,
      fun schema content hcontent _ => ?_⟩
    have hname : Text.lower d.name = Text.lower database := by
      rw [hs.name_eq hd, Text.lower_lower]
    have hrepaired := (hc.repaired (hs.database hd)).congr hname
    rw [hstore, hrepaired.installed schema content hcontent]
    rfl

/-- **What a rebuild installs.** The schemas are those that are reported under some spelling and
the default schema of the dialect towards clients. Where the storage engines report tables only and
agree about them, every schema has the tables that were reported for it and the views that the store
held, and the store still holds these. -/
theorem contents_of_rebuild (hw : w.Reachable) (hm : m.rebuilds? = some database)
    (h : w.apply m = (.ok o, w')) :
    ∃ d' rules reported, w'.proxy.snapshot.database? database = some d' ∧
      w'.proxy.snapshot.catalog.props.protocol d'.pools.dialects = .ok d'.protocol ∧
      RuleSet.configs rules = RuleSet.configs d'.rules ∧
      w.site.discovery ⟨d'.name, d'.protocol, d'.pools, rules, w'.proxy.snapshot.catalog.props,
        d'.protocol.defaultSchema d'.name⟩ none = .ok reported ∧
      (∀ k, d'.schemas.contains k ↔
        (∃ spelling, reported.contains spelling ∧ Text.lower spelling = k) ∨
          k = d'.protocol.defaultSchema d'.name) ∧
      (Schema.TablesOnly reported → Schema.Agreeing reported →
        d'.Shows reported w.site.store ∧ d'.Shows reported w'.site.store) := by
  obtain ⟨d', pools, configs, u, v, hd', ⟨⟨es, hleads⟩, hstore⟩, hbuilt, hviews⟩ :=
    assembled_of_apply hw hm h
  obtain ⟨protocol, rules, found, f, hprotocol, -, hfound, rfl⟩ := Assembly.fromEngines_eq hbuilt
  have hname : Text.lower (Text.lower database) = Text.lower database := Text.lower_lower _
  rw [hleads.findings] at hfound
  obtain ⟨reported, hreported, rfl⟩ := Site.findings_eq_ok.1 hfound
  rw [hstore, hname] at hd' hviews
  let found := w.site.visiting.fold (Text.lower database) reported
  let d' : Database := ⟨Text.lower database, protocol, pools, rules.mapRoutes f,
    Assembly.engineSchemas w.site.store (Text.lower database) protocol found⟩
  refine ⟨d', rules, reported, hd', hprotocol, (RuleSet.configs_mapRoutes f rules).symm, hreported,
    fun k => ?_, fun htables hagree => ?_⟩
  · exact Assembly.contains_engineSchemas.trans (or_congr_left Visiting.contains_fold)
  have hbefore : d'.Shows reported w.site.store :=
    Database.shows_of_schemas _ _ rfl htables hagree
  refine ⟨hbefore, hbefore.tables, fun schema content h => ?_⟩
  have hstored := hbefore.views schema content h
  rw [Store.schema?_congr _ hname rfl] at hstored ⊢
  exact (hviews schema content h hstored).symm

/-! ### Two spellings and a stored view -/

/-- The storage engines report two schemas whose names differ in case, and one without tables. -/
private def spelledTables : NameMap Schema :=
  .ofList [("FOO_DB", .ofLists [⟨"t_item", [], [], []⟩] []),
    ("Foo_db", .ofLists [⟨"t_order", [], [], []⟩] []), ("BAR", ∅)]

/-- A view was stored when the storage engines reported it. -/
private def beforeRebuild : World :=
  Sample.world.after
    [.change (.discovery fun _ _ => .ok spelledTables),
      .mutate (.reloadSchema "foo_db" "foo_db" "ds_0"),
      .change (.discovery fun _ _ => .ok (.single "foo_db"
        (.ofLists [⟨"t_order", [], [], []⟩] [⟨"v_item", "SELECT 1"⟩])))]

/-- **Spellings are merged and the stored view is kept** when the rules of the database are
replaced: a table that only one spelling reports is in the schema, beside the view. -/
theorem spellings_merged :
    ∃ w' d', beforeRebuild.apply (.alterRules "foo_db" [.single ⟨[], none⟩]) =
        (.ok .installed, w') ∧
      w'.proxy.snapshot.database? "foo_db" = some d' ∧ d'.schemas.contains "bar" ∧
        ∃ content, d'.schema? "foo_db" = some content ∧
          content.table? "t_item" = some ⟨"t_item", [], [], []⟩ ∧
            content.views = .single "v_item" ⟨"v_item", "SELECT 1"⟩ := by
  have happly : beforeRebuild.apply (.alterRules "foo_db" [.single ⟨[], none⟩]) =
      (.ok .installed, _) := Except.run_eq_ok (by decide +kernel)
  have hname : ((beforeRebuild.apply (.alterRules "foo_db"
      [.single ⟨[], none⟩])).2.proxy.snapshot.database? "foo_db").map Database.name =
        some "foo_db" := by
    decide +kernel
  obtain ⟨d', rules, reported, hd', -, -, hreported, hnames, hshows⟩ :=
    contents_of_rebuild (Sample.started_world.reachable.after _) rfl happly
  obtain rfl : spelledTables = reported := Except.ok.inj hreported
  rw [hd', Option.map_some, Option.some.injEq] at hname
  obtain ⟨hbefore, -⟩ := hshows (by decide +kernel) (by decide +kernel)
  have hbar : d'.schemas.contains "bar" :=
    (hnames "bar").2 (.inl ⟨"BAR", by decide +kernel, by decide⟩)
  have hfoo : d'.schemas.contains "foo_db" :=
    (hnames "foo_db").2 (.inl ⟨"Foo_db", by decide +kernel, by decide⟩)
  obtain ⟨content, hcontent⟩ := Option.isSome_iff_exists.1 hfoo
  have hschema : d'.schema? "foo_db" = some content := hcontent
  have htable : content.table? "t_item" = some ⟨"t_item", [], [], []⟩ := by
    have hpart : spelledTables.get? "FOO_DB" =
        some (.ofLists [⟨"t_item", [], [], []⟩] []) := by
      decide +kernel
    exact (hbefore.tables "foo_db" content hschema "t_item" _).2
      ⟨_, ⟨"FOO_DB", by decide, hpart⟩, by decide⟩
  have hview : ((beforeRebuild.site.store.schema? "foo_db" "foo_db").getD ∅).views =
      .single "v_item" ⟨"v_item", "SELECT 1"⟩ := by
    decide +kernel
  have hviews := hbefore.views "foo_db" content hschema
  rw [hname] at hviews
  exact ⟨_, d', happly, hd', hbar, content, hschema, htable, hviews.trans hview⟩

end World

end ProxyCatalog
