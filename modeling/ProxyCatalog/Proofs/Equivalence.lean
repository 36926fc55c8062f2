import ProxyCatalog.Proofs.Unanimity
import ProxyCatalog.Proofs.Reconfiguration

/-!
# The two ways of assembly

A database is assembled from the store when a proxy starts, and from the storage engines whenever it
is built anew. The first way builds the rules once, with the schemas at hand. The second builds them
before any schema is known, puts the stored views over what the engines report, and loads the routes
last. Where the engines mirror the store the two ways come to the same, be it a fault or a database.

* `Assembly.engineSchemas_mirror`: both ways end with the same schemas, the default schema included.
* `Registry.map_bare_buildDatabase`, in the theory of building, gives the same fault or the same
  rules but for the routes; and loading the routes last adds no fault of its own.
* `Database.Loaded.alike`: routes that are loaded from the same schemas are the same, so they agree
  although one database has loaded them against the rules built so far and the other against all.
* `Assembly.fromStore_alike_fromEngines`: the two ways come to the same.
-/

namespace ProxyCatalog

/-! ### What is stored and what is reported -/

namespace Schema

/-- The schema without its views. -/
def withoutViews (s : Schema) : Schema :=
  ofLists s.tables.values []

/-- A schema gets its views back. -/
theorem putViews_withoutViews (s : Schema) : s.withoutViews.putViews s.views.values = s := by
  ext1
  · rw [tables_putViews]
    exact tables_ofLists s.tables_keyed []
  · rw [views_putViews, NameMap.foldl_insert_values s.views_keyed, withoutViews, ofLists,
      views_putViews, views_putTables]
    exact NameMap.empty_overlay s.views

end Schema

theorem Store.views_of_folded (store : Store) (database : String) {schema : String}
    (h : Text.lower schema = schema) : store.views database schema =
      (((store.node database).schemas.get? schema).getD ∅).views.values := by
  rw [views, schema?_eq, h]

/-- The stored schemas of a database **without their views**, as engines report them that hold the
tables. -/
def Store.withoutViews (store : Store) (database : String) : NameMap Schema :=
  (store.node database).schemas.mapValues fun _ content => content.withoutViews

/-- The storage engines behind these pools **mirror** the store: for exactly the stored schemas of a
database they report exactly the stored tables. -/
def Site.Mirrors (s : Site) (database : String) (pools : Pools) : Prop :=
  ∀ m : Material, m.database = database → m.pools = pools →
    s.discovery m none = .ok (s.store.withoutViews database)

/-- Folded names are found as they are mirrored. -/
theorem Site.Mirrors.findings {s : Site} {database : String} {pools : Pools}
    (h : s.Mirrors database pools) (hfolded : (s.store.node database).schemas.Folded)
    {m : Material} (hdatabase : m.database = database) (hpools : m.pools = pools) :
    s.findings m none = .ok (s.store.withoutViews database) := by
  have hreported : (s.store.withoutViews database).Folded := hfolded.mapValues _
  rw [Site.findings, h m hdatabase hpools]
  exact congrArg Except.ok (s.visiting.fold_of_folded hreported m.database)

namespace Assembly

variable {reg : Registry} {name : String} {pools : Pools} {configs : List RuleConfig}
  {props : Properties} {s : Site} {store : Store}

/-- The schemas of a database assembled from a store whose names are folded. -/
def storedSchemas (store : Store) (name : String) (protocol : Dialect) : NameMap Schema :=
  withDefault (store.node name).schemas (protocol.defaultSchema name)

theorem folded_storedSchemas (h : (store.node name).schemas.Folded) (protocol : Dialect) :
    (storedSchemas store name protocol).Folded :=
  folded_withDefault h (protocol.lower_defaultSchema name)

/-- **The schemas are the same** where the stored ones are reported but for their views. -/
theorem engineSchemas_mirror (h : (store.node name).schemas.Folded) (protocol : Dialect) :
    engineSchemas store name protocol (store.withoutViews name) =
      storedSchemas store name protocol := by
  rw [engineSchemas, storedSchemas]
  ext1 k
  rw [NameMap.get?_mapValues, get?_withDefault, get?_withDefault, Store.withoutViews,
    NameMap.get?_mapValues]
  cases hk : (store.node name).schemas.get? k with
  | some content =>
    have hfold : Text.lower k = k := h k (by rw [NameMap.contains, hk]; rfl)
    have hviews : store.views name k = content.views.values := by
      rw [store.views_of_folded name hfold, hk]
      rfl
    simp only [Option.map_some, Option.some_or, hviews, Schema.putViews_withoutViews]
  | none =>
    simp only [Option.map_none, Option.none_or]
    split
    · next hdefault =>
      -- A default schema that is not stored has no stored views.
      have hviews : store.views name k = [] := by
        rw [store.views_of_folded name (hdefault ▸ protocol.lower_defaultSchema name), hk]
        rfl
      rw [hviews]
      rfl
    · rfl

/-! ### Assembly at a store in memory -/

/-- What is assembled from a store in memory. -/
theorem run_fromStore (hs : s.InMemory) (hfolded : (s.store.node name).schemas.Folded) :
    ((fromStore reg name pools configs props).run s).1 = do
      let protocol ← props.protocol pools.dialects
      let schemas := storedSchemas s.store name protocol
      let rules ← reg.buildDatabase name configs pools (some schemas)
      return .make name protocol pools rules schemas := by
  rw [fromStore, SiteM.fst_run_ofExcept_bind]
  refine congrArg _ (funext fun protocol => ?_)
  rw [Site.loadSchemas, SiteM.run_bind_of_ok (hs.run_readStore _ _),
    SiteM.run_bind_of_ok (Site.run_foldNames _ _ s), s.visiting.fold_of_folded hfolded]
  exact SiteM.fst_run_ofExcept_bind _ _ s

theorem run_withStoredViews (hs : s.InMemory) (name : String) (schemas : NameMap Schema) :
    (withStoredViews name schemas).run s =
      (.ok (schemas.mapValues fun k content => content.putViews (s.store.views name k)), s) := by
  have hentries := Site.run_mapM (f := fun e => do
      let views ← Site.loadViews name e.1
      return (e.1, e.2.putViews views))
    (fun e => SiteM.run_bind_of_ok (hs.run_readStore _ _) _) schemas.entries
  rw [withStoredViews, SiteM.run_bind_of_ok hentries]
  refine SiteM.run_pure_ok.2 ⟨?_, rfl⟩
  exact NameMap.ofList_entries
    (schemas.mapValues fun k content => content.putViews (s.store.views name k))

/-- What is assembled from the storage engines where the store is in memory. -/
theorem run_fromEngines (hs : s.InMemory) :
    ((fromEngines reg name pools configs props).run s).1 = (do
      let protocol ← props.protocol pools.dialects
      let rules ← reg.buildDatabase name configs pools none
      let found ←
        s.findings ⟨name, protocol, pools, rules, props, protocol.defaultSchema name⟩ none
      (Database.make name protocol pools rules
        (engineSchemas s.store name protocol found)).reloadRoutes) := by
  rw [fromEngines, SiteM.fst_run_ofExcept_bind]
  refine congrArg _ (funext fun protocol => ?_)
  rw [SiteM.fst_run_ofExcept_bind]
  refine congrArg _ (funext fun rules => ?_)
  let m : Material := ⟨name, protocol, pools, rules, props, protocol.defaultSchema name⟩
  have hasked := Site.run_discover m none s
  cases hfound : s.findings m none with
  | error e =>
    rw [SiteM.run_bind, hasked, hfound]
    rfl
  | ok found =>
    rw [hfound] at hasked
    -- The question leaves a mark in the journal, and the store is as it was.
    have hmarked : (s.record [.asked (m.inquiry none)]).InMemory := hs
    rw [SiteM.run_bind_of_ok hasked, SiteM.run_bind_of_ok (run_withStoredViews hmarked _ _),
      SiteM.run_ofExcept]
    rfl

end Assembly

/-! ### Databases that are alike -/

namespace Database

/-- Two databases are **alike**: they have the same name, dialect, pools, rule configurations in the
same order, and schemas, and the single-table rule that routes, the first of each, sends every table
to the same pool or to none. -/
structure Alike (d d' : Database) : Prop where
  name : d.name = d'.name
  protocol : d.protocol = d'.protocol
  pools : d.pools = d'.pools
  configs : RuleSet.configs d.rules = RuleSet.configs d'.rules
  schemas : d.schemas = d'.schemas
  route? : ∀ schema table, d.rules.route? schema table = d'.rules.route? schema table

variable {d d' : Database}

/-- Whether routes can be loaded is not a matter of the routes there are. -/
theorem Loadable.of_bare (h : d.Loadable) (hname : d.name = d'.name) (hpools : d.pools = d'.pools)
    (hrules : RuleSet.bare d.rules = RuleSet.bare d'.rules) : d'.Loadable := by
  intro c r hr
  obtain ⟨r', hr'⟩ := RuleSet.router?_of_bare hrules.symm hr
  rw [← hname, ← hpools]
  exact h c r' hr'

/-- **Loaded routes are determined** by the rules bare of them, the pools and the schemas. -/
theorem Loaded.route?_eq (h : d.Loaded) (h' : d'.Loaded) (hname : d.name = d'.name)
    (hpools : d.pools = d'.pools) (hschemas : d.schemas = d'.schemas)
    (hrules : RuleSet.bare d.rules = RuleSet.bare d'.rules) (schema table : String) :
    d.rules.route? schema table = d'.rules.route? schema table := by
  cases hr : d.rules.router? with
  | none =>
    have hr' : d'.rules.router? = none := by
      cases hr' : d'.rules.router? with
      | none => rfl
      | some cr =>
        obtain ⟨r, hsome⟩ := RuleSet.router?_of_bare hrules.symm hr'
        rw [hr] at hsome
        cases hsome
    rw [RuleSet.route?_eq_none hr, RuleSet.route?_eq_none hr']
  | some cr =>
    obtain ⟨c, r⟩ := cr
    obtain ⟨r', hr'⟩ := RuleSet.router?_of_bare hrules hr
    have hdistributes (t : String) : d.rules.distributes t = d'.rules.distributes t := by
      rw [← RuleSet.distributes_bare, hrules, RuleSet.distributes_bare]
    have hload := h c r hr
    rw [SingleConfig.load_congr hdistributes, hname, hpools, hschemas, h' c r' hr'] at hload
    obtain rfl := Except.ok.inj hload
    rw [RuleSet.route?_eq hr, RuleSet.route?_eq hr']

theorem Loaded.alike (h : d.Loaded) (h' : d'.Loaded) (hname : d.name = d'.name)
    (hprotocol : d.protocol = d'.protocol) (hpools : d.pools = d'.pools)
    (hschemas : d.schemas = d'.schemas)
    (hrules : RuleSet.bare d.rules = RuleSet.bare d'.rules) : d.Alike d' where
  name := hname
  protocol := hprotocol
  pools := hpools
  configs := by rw [← RuleSet.configs_bare, hrules, RuleSet.configs_bare]
  schemas := hschemas
  route? := h.route?_eq h' hname hpools hschemas hrules

end Database

/-! ### The two ways -/

namespace Assembly

variable {name : String} {pools : Pools} {s : Site}

/-- Loading the routes last makes up for building without schemas. -/
private theorem alike_of_buildDatabase {reg : Registry} {configs : List RuleConfig}
    {protocol : Dialect} {schemas : NameMap Schema} {rules rules' : RuleSet}
    (hs : schemas.Folded) (h : reg.buildDatabase name configs pools (some schemas) = .ok rules)
    (hrules : RuleSet.bare rules = RuleSet.bare rules') :
    ∃ d', (Database.make name protocol pools rules' schemas).reloadRoutes = .ok d' ∧
      (Database.make name protocol pools rules schemas).Alike d' := by
  have hloaded : (Database.make name protocol pools rules schemas).Loaded :=
    loaded_of_buildDatabase hs h
  have hloadable : (Database.make name protocol pools rules' schemas).Loadable :=
    hloaded.loadable.of_bare rfl rfl hrules
  obtain ⟨d', hd'⟩ := Database.reloadRoutes_isOk_iff.2 hloadable
  have hloaded' := Database.loaded_of_reloadRoutes hd'
  obtain ⟨f, rfl⟩ := Database.reloadRoutes_rest hd'
  refine ⟨_, hd', hloaded.alike hloaded' rfl rfl rfl rfl ?_⟩
  exact hrules.trans (RuleSet.bare_mapRoutes f rules').symm

/-- **The two ways of assembly come to the same** where the storage engines mirror a store in
memory: both fail with the same fault, or both give databases that are alike. -/
theorem fromStore_alike_fromEngines (reg : Registry) (configs : List RuleConfig)
    (props : Properties) (hs : s.InMemory) (hfolded : (s.store.node name).schemas.Folded)
    (hmirrors : s.Mirrors name pools) :
    (∃ e, ((fromStore reg name pools configs props).run s).1 = .error e ∧
      ((fromEngines reg name pools configs props).run s).1 = .error e) ∨
    ∃ d d', ((fromStore reg name pools configs props).run s).1 = .ok d ∧
      ((fromEngines reg name pools configs props).run s).1 = .ok d' ∧ d.Alike d' := by
  cases hprotocol : props.protocol pools.dialects with
  | error e =>
    rw [run_fromStore hs hfolded, run_fromEngines hs, hprotocol]
    exact .inl ⟨e, rfl, rfl⟩
  | ok protocol =>
    have hstore : ((fromStore reg name pools configs props).run s).1 =
        reg.buildDatabase name configs pools (some (storedSchemas s.store name protocol)) >>=
          fun rules => .ok (.make name protocol pools rules
            (storedSchemas s.store name protocol)) := by
      rw [run_fromStore hs hfolded, hprotocol]
      rfl
    have hengines : ((fromEngines reg name pools configs props).run s).1 =
        reg.buildDatabase name configs pools none >>= fun rules => (Database.make name protocol
          pools rules (storedSchemas s.store name protocol)).reloadRoutes := by
      rw [run_fromEngines hs, hprotocol, Except.ok_bind]
      refine congrArg _ (funext fun rules => ?_)
      rw [hmirrors.findings hfolded rfl rfl, Except.ok_bind, engineSchemas_mirror hfolded]
    rw [hstore, hengines]
    rcases Except.map_eq_map (reg.map_bare_buildDatabase name configs pools
        (some (storedSchemas s.store name protocol)) none) with
      ⟨e, hfault, hfault'⟩ | ⟨rules, rules', hrules, hrules', hbare⟩
    · rw [hfault, hfault']
      exact .inl ⟨e, rfl, rfl⟩
    · obtain ⟨d', hd', halike⟩ := alike_of_buildDatabase
        (folded_storedSchemas hfolded protocol) hrules hbare
      rw [hrules, hrules']
      exact .inr ⟨_, d', rfl, hd', halike⟩

/-! ### Engines that hold what is stored -/

/-- A database with a distributed table, a listed one and a view. -/
private def mirroredNode : StoreNode where
  pools := ∅
  rules := []
  schemas := .single "foo_db"
    (.ofLists [⟨"t_order", [], [], []⟩, ⟨"t_user", [], [], []⟩] [⟨"v_order", ""⟩])
  rows := ∅

/-- A site with this database, the tables of which are in one storage engine. -/
private def mirroringSite : Site :=
  .ofStore { props := ∅, globalRules := [], databases := .single "foo_db" mirroredNode }
    (.ofEngines true (.single "ds_0" (.single "foo_db"
      ⟨[⟨"t_order", [], [], []⟩, ⟨"t_user", [], [], []⟩], []⟩)))

/-- The pool of this engine, and another one. -/
private def mirroringPools : Pools :=
  (NameMap.single "ds_0" ⟨⟨"", ∅⟩, ⟨"ds_0", 1⟩, .mySQL⟩).insert "ds_1"
    ⟨⟨"", ∅⟩, ⟨"ds_1", 2⟩, .mySQL⟩

/-- Rules of which the second distributes a table that the first would route. -/
private def mirroredRules : List RuleConfig :=
  [.single ⟨["ds_1.T_USER"], none⟩, .sharding ⟨[⟨"t_order", ""⟩], [], none, ∅⟩]

/-- Both ways give the database of the small site the same routes: to the listed table and to the
view, which no engine reports, but not to the table that is distributed. -/
theorem mirrored_database_alike :
    mirroringSite.InMemory ∧ (mirroringSite.store.node "Foo_DB").schemas.Folded ∧
      mirroringSite.Mirrors "Foo_DB" mirroringPools ∧
        ∃ d d', ((fromStore .standard "Foo_DB" mirroringPools mirroredRules ∅).run
            mirroringSite).1 = .ok d ∧
          ((fromEngines .standard "Foo_DB" mirroringPools mirroredRules ∅).run
            mirroringSite).1 = .ok d' ∧
          d.Alike d' ∧ d.rules.route? "foo_db" "t_user" = some "ds_1" ∧
            d.rules.route? "foo_db" "v_order" = some "ds_0" ∧
              d.rules.route? "foo_db" "t_order" = none := by
  have hmemory : mirroringSite.InMemory := fun _ => rfl
  have hfolded : (mirroringSite.store.node "Foo_DB").schemas.Folded := by
    have hnode : mirroringSite.store.node "Foo_DB" = mirroredNode := by decide +kernel
    rw [hnode]
    exact .insert .empty (by decide) _
  have hmirrors : mirroringSite.Mirrors "Foo_DB" mirroringPools := by
    rintro ⟨database, protocol, pools, rules, props, defaultSchema⟩ rfl rfl
    -- The engine names its schema, so the answer depends on nothing but the pools.
    have hanswer : mirroringSite.discovery
        ⟨"Foo_DB", protocol, mirroringPools, rules, props, defaultSchema⟩ none =
          mirroringSite.discovery ⟨"Foo_DB", .mySQL, mirroringPools, [], ∅, "foo_db"⟩ none := rfl
    rw [hanswer]
    refine congrArg Except.ok ?_
    decide +kernel
  have hassembled : (((fromStore .standard "Foo_DB" mirroringPools mirroredRules ∅).run
      mirroringSite).1.toOption.map fun d => (["t_user", "v_order", "t_order"].map
        (d.rules.route? "foo_db"))) = some [some "ds_1", some "ds_0", none] := by
    decide +kernel
  obtain ⟨e, hstore, -⟩ | ⟨d, d', hstore, hengines, halike⟩ :=
    fromStore_alike_fromEngines .standard mirroredRules ∅ hmemory hfolded hmirrors
  · rw [hstore] at hassembled
    cases hassembled
  · rw [hstore] at hassembled
    injection hassembled with hroutes
    injection hroutes with huser hrest
    injection hrest with hview hrest
    injection hrest with horder
    exact ⟨hmemory, hfolded, hmirrors, d, d', hstore, hengines, halike, huser, hview, horder⟩

end Assembly

end ProxyCatalog
