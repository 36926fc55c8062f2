import ProxyCatalog.Proofs.Accounts
import ProxyCatalog.Proofs.Persistence

/-!
# Reconfigurations

A database that gets new pools or new rules is assembled again from the storage engines. This module
says what is assembled, what is installed, and what becomes of the store.

* `Assembly.fromEngines_ok`: the database is made of what the engines report and of the stored views
  that are put over it.
* `Mutation.Reconfiguration`: what a mutation comes to that gives a database new pools or rules by
  the word of the operator. Every one that succeeds is of this kind (`plan_reconfiguration`,
  `World.reconfiguration_of_apply`).
* `Mutation.DatabaseReload`: what a reload of a database comes to.
-/

namespace ProxyCatalog

/-! ### Assembly from the storage engines -/

namespace Assembly

variable {reg : Registry} {name : String} {pools : Pools} {configs : List RuleConfig}
  {props : Properties} {s t : Site} {d : Database}

theorem withStoredViews_ok {schemas r : NameMap Schema}
    (h : (withStoredViews name schemas).run s = (.ok r, t)) :
    r = (schemas.mapValues fun k content => content.putViews (s.store.views name k)) ∧ t = s := by
  obtain ⟨entries, s₁, hentries, h⟩ := SiteM.run_bind_ok.1 h
  obtain ⟨rfl, rfl⟩ := SiteM.run_pure_ok.1 h
  have hreads := Site.mapM_reads
    (g := fun store e => (e.1, e.2.putViews (store.views name e.1))) (fun e s t b hb => ?_) hentries
  · refine ⟨?_, hreads.2⟩
    rw [hreads.1]
    exact NameMap.ofList_entries
      (schemas.mapValues fun k content => content.putViews (s.store.views name k))
  · obtain ⟨views, s₂, hviews, hb⟩ := SiteM.run_bind_ok.1 hb
    obtain ⟨rfl, rfl⟩ := Site.readStore_ok hviews
    obtain ⟨rfl, rfl⟩ := SiteM.run_pure_ok.1 hb
    exact ⟨rfl, rfl⟩

/-- The schemas of a database assembled from the storage engines: what is found, and
the default schema, with the stored views put over them. -/
def engineSchemas (store : Store) (name : String) (protocol : Dialect)
    (found : NameMap Schema) : NameMap Schema :=
  (withDefault found (protocol.defaultSchema name)).mapValues
    fun k content => content.putViews (store.views name k)

/-- **A database from the storage engines** is made of what is found and of the stored views.
Only the question is left in the journal. -/
theorem fromEngines_ok (h : (fromEngines reg name pools configs props).run s = (.ok d, t)) :
    ∃ protocol rules found, props.protocol pools.dialects = .ok protocol ∧
      reg.buildDatabase name configs pools none = .ok rules ∧
        let q : Material := ⟨name, protocol, pools, rules, props, protocol.defaultSchema name⟩
        s.findings q none = .ok found ∧ t = s.record [.asked (q.inquiry none)] ∧
          (Database.make name protocol pools rules
            (engineSchemas s.store name protocol found)).reloadRoutes = .ok d := by
  obtain ⟨protocol, s₁, hfirst, h⟩ := SiteM.run_bind_ok.1 h
  obtain ⟨hprotocol, rfl⟩ := SiteM.run_ofExcept_ok.1 hfirst
  obtain ⟨rules, s₂, hsecond, h⟩ := SiteM.run_bind_ok.1 h
  obtain ⟨hrules, rfl⟩ := SiteM.run_ofExcept_ok.1 hsecond
  obtain ⟨found, s₃, hasked, h⟩ := SiteM.run_bind_ok.1 h
  rw [Site.run_discover] at hasked
  obtain ⟨hfound, hrecorded⟩ := Prod.mk.inj hasked
  obtain ⟨schemas, s₄, hschemas, h⟩ := SiteM.run_bind_ok.1 h
  obtain ⟨rfl, rfl⟩ := withStoredViews_ok hschemas
  obtain ⟨hreload, rfl⟩ := SiteM.run_ofExcept_ok.1 h
  subst hrecorded
  exact ⟨protocol, rules, found, hprotocol, hrules, hfound, rfl, hreload⟩

theorem folded_engineSchemas {found : NameMap Schema} (h : found.Folded) (store : Store)
    (name : String) (protocol : Dialect) : (engineSchemas store name protocol found).Folded :=
  (folded_withDefault h (protocol.lower_defaultSchema name)).mapValues _

/-- The database as a whole. Loading its routes last changes these alone. -/
theorem fromEngines_eq (h : (fromEngines reg name pools configs props).run s = (.ok d, t)) :
    ∃ protocol rules found f, props.protocol pools.dialects = .ok protocol ∧
      reg.buildDatabase name configs pools none = .ok rules ∧
        s.findings ⟨name, protocol, pools, rules, props, protocol.defaultSchema name⟩ none =
          .ok found ∧
          d = ⟨Text.lower name, protocol, pools, rules.mapRoutes f,
            engineSchemas s.store name protocol found⟩ := by
  obtain ⟨protocol, rules, found, hprotocol, hrules, hfound, -, hreload⟩ := fromEngines_ok h
  obtain ⟨f, rfl⟩ := Database.reloadRoutes_rest hreload
  refine ⟨protocol, rules, found, f, hprotocol, hrules, hfound, ?_⟩
  simp only [Database.make,
    (folded_engineSchemas (Site.folded_findings hfound) _ _ _).rekey_eq_self]

theorem schemas_of_fromEngines
    (h : (fromEngines reg name pools configs props).run s = (.ok d, t)) :
    ∃ protocol found, d.schemas = engineSchemas s.store name protocol found := by
  obtain ⟨protocol, rules, found, f, -, -, -, rfl⟩ := fromEngines_eq h
  exact ⟨protocol, found, rfl⟩

theorem configs_of_fromEngines
    (h : (fromEngines reg name pools configs props).run s = (.ok d, t)) :
    RuleSet.configs d.rules = RuleConfig.sortByKind configs := by
  obtain ⟨protocol, rules, found, f, -, hrules, -, rfl⟩ := fromEngines_eq h
  rw [← Registry.configs_of_buildDatabase hrules]
  exact RuleSet.configs_mapRoutes f rules

/-- A stored view is put into the schema of its name. -/
theorem views_engineSchemas {store : Store} {protocol : Dialect} {found : NameMap Schema}
    {schema : String} {content : Schema}
    (h : (engineSchemas store name protocol found).get? schema = some content) (k : String)
    (v : View) (hv : ((store.schema? name schema).getD ∅).views.get? k = some v) :
    content.views.get? k = some v := by
  rw [engineSchemas, NameMap.get?_mapValues] at h
  obtain ⟨base, -, rfl⟩ := Option.map_eq_some_iff.1 h
  rw [Schema.views_putViews, Store.views, NameMap.foldl_insert_values (Schema.views_keyed _),
    NameMap.get?_overlay, hv]
  rfl

end Assembly

/-! ### Rebuilds -/

namespace Snapshot

variable {reg : Registry} {s next : Snapshot} {d : Database} {pools : Pools} {sw : Switch}
  {configs : List RuleConfig} {site t : Site}

/-- What a rebuild installs, and what it makes of the store. -/
theorem rebuild_run (h : (s.rebuild reg d pools configs).run site = (.ok next, t)) :
    ∃ d' u, (Assembly.fromEngines reg d.name pools configs s.catalog.props).run site =
        (.ok d', u) ∧ s.withRebuilt reg d' = .ok next ∧
      t.store = site.store.withDelta d'.name (.between d'.schemas d.schemas) := by
  obtain ⟨d', u, hbuilt, hnext, hdelta⟩ := rebuild_steps h
  have hunwritten := ((Assembly.reading_fromEngines _ _ _ _ _).of_run hbuilt).2
  rw [← hunwritten]
  exact ⟨d', u, hbuilt, hnext, Site.persistDelta_ok hdelta⟩

/-- The cached rows stay over a rebuild. -/
theorem rows_of_rebuild (hs : s.InOrder) (hd : d.InOrder)
    (h : (s.rebuild reg d pools configs).run site = (.ok next, t)) : next.rows = s.rows := by
  obtain ⟨d', u, hbuilt, hnext, -⟩ := rebuild_steps h
  exact (withRebuilt_ok hs (Assembly.assembled_of_fromEngines hd.name hbuilt).folded hnext).2

theorem rebuildSwitched_run (h : (s.rebuildSwitched reg d sw configs).run site = (.ok next, t)) :
    ∃ d' u, (Assembly.fromEngines reg d.name (sw.apply d.pools) configs s.catalog.props).run site =
        (.ok d', u) ∧ s.withRebuilt reg d' = .ok next ∧
      t.store = (site.store.withDelta d'.name (.between d'.schemas d.schemas)).withRows d.name
        ((s.rows.database? d.name).getD ∅) := by
  obtain ⟨u, hrebuilt, hrows⟩ := rebuildSwitched_steps h
  obtain ⟨d', u', hbuilt, hnext, hstore⟩ := rebuild_run hrebuilt
  exact ⟨d', u', hbuilt, hnext, by rw [Site.persistRows_ok hrows, hstore]⟩

/-- Pools are opened first, and those that were replaced are retired once the rest is done. -/
theorem switchPools_run {specs : NameMap PoolSpec} {mode : SwitchMode} {r : Option Change}
    (h : (s.switchPools reg d specs mode configs).run site = (.ok r, t)) :
    ∃ sw u next, (Site.openSwitch d.pools specs mode).run site = (.ok sw, u) ∧
      (s.rebuildSwitched reg d sw configs).run u = (.ok next, t) ∧
        r = some { snapshot := next, releases := Change.releasesOfRebuild s d,
                   retired := sw.stale } := by
  obtain ⟨sw, u, hopen, h⟩ := SiteM.run_bind_ok.1 h
  obtain ⟨next, v, hbuilt, h⟩ := SiteM.run_bind_ok.1 h
  obtain ⟨rfl, rfl⟩ := SiteM.run_pure_ok.1 h
  exact ⟨sw, u, next, hopen, Site.closingOnFault_ok.1 hbuilt, rfl⟩

end Snapshot

namespace Mutation

open Snapshot

/-- The configurations that a reconfiguration builds the rules of the database from: those that are
given with it, or else those of the rules that the database has. -/
def configsFor (d : Database) : Mutation → List RuleConfig
  | alterRules _ configs => configs
  | alterPoolsAndRules _ _ configs => configs
  | _ => RuleSet.configs d.rules

/-- The cached rows that the mutation persists: where it switches the pools of a database, all rows
of this database. -/
def savedRows (s : Snapshot) (d : Database) : Mutation → DatabaseRows
  | alterPools .. => (s.rows.database? d.name).getD ∅
  | alterPoolsAndRules .. => (s.rows.database? d.name).getD ∅
  | _ => ∅

/-- A **reconfiguration** of the database `d`, between the sites `site` and `t`: the database `d'`
is assembled from the storage engines in its place, with the rules that the mutation is for, and the
store is written the difference of their schemas, and rows. -/
structure Reconfiguration (reg : Registry) (s : Snapshot) (m : Mutation) (d d' : Database)
    (site t : Site) (c : Change) : Prop where
  built : ∃ pools u v, site.Sparing u ∧
    (Assembly.fromEngines reg d.name pools (m.configsFor d) s.catalog.props).run u = (.ok d', v)
  installed : s.withRebuilt reg d' = .ok c.snapshot
  store : t.store = (site.store.withDelta d'.name (.between d'.schemas d.schemas)).withRows d.name
    (m.savedRows s d)

variable {reg : Registry} {s : Snapshot} {m : Mutation} {site t : Site} {r : Option Change}

theorem Reconfiguration.assembled {d d' : Database} {c : Change}
    (h : m.Reconfiguration reg s d d' site t c) (hd : d.InOrder) :
    ∃ pools, d'.Assembled d.name pools := by
  obtain ⟨pools, u, v, -, hbuilt⟩ := h.built
  exact ⟨pools, Assembly.assembled_of_fromEngines hd.name hbuilt⟩

/-- **Every planned reconfiguration** is one. -/
theorem plan_reconfiguration {database : String} (hm : m.reconfigures? = some database)
    (h : (m.plan reg s).run site = (.ok r, t)) :
    ∃ d d' c, s.database? database = some d ∧ r = some c ∧
      m.Reconfiguration reg s d d' site t c := by
  have hswitch {d : Database} {specs : NameMap PoolSpec} {mode : SwitchMode}
      (hrows : m.savedRows s d = (s.rows.database? d.name).getD ∅)
      (h : (s.switchPools reg d specs mode (m.configsFor d)).run site = (.ok r, t)) :
      ∃ d' c, r = some c ∧ m.Reconfiguration reg s d d' site t c := by
    obtain ⟨sw, u, next, hopen, hbuilt, hr⟩ := switchPools_run h
    obtain ⟨d', v, hbuilt, hnext, hstore⟩ := rebuildSwitched_run hbuilt
    have hu := (Site.sparing_openSwitch _ _ _).of_run hopen
    rw [hu.2, ← hrows] at hstore
    exact ⟨d', _, hr, ⟨_, u, v, hu, hbuilt⟩, hnext, hstore⟩
  cases m with
  | alterRules name configs =>
    obtain rfl := Option.some.inj hm
    obtain ⟨d, hd, h⟩ := run_findDatabase_ok h
    obtain ⟨next, s₁, hnext, h⟩ := SiteM.run_bind_ok.1 h
    obtain ⟨rfl, rfl⟩ := SiteM.run_pure_ok.1 h
    obtain ⟨d', u, hbuilt, hnext, hstore⟩ := rebuild_run hnext
    exact ⟨d, d', _, hd, rfl, ⟨_, _, u, Site.Course.refl _, hbuilt⟩, hnext, hstore⟩
  | alterPools name specs =>
    obtain rfl := Option.some.inj hm
    obtain ⟨d, hd, h⟩ := run_findDatabase_ok h
    obtain ⟨d', c, hr, hc⟩ := hswitch rfl h
    exact ⟨d, d', c, hd, hr, hc⟩
  | alterPoolsAndRules name specs configs =>
    obtain rfl := Option.some.inj hm
    obtain ⟨d, hd, h⟩ := run_findDatabase_ok h
    obtain ⟨d', c, hr, hc⟩ := hswitch rfl h
    exact ⟨d, d', c, hd, hr, hc⟩
  | _ => cases hm

/-- A **reload** of the database `d`, between the sites `site` and `t`: the database `d'` is
assembled in its place from the configuration in the store, whose properties and global rules are
installed with it, and the schemas in the store are replaced by its own. -/
structure DatabaseReload (reg : Registry) (s : Snapshot) (d d' : Database) (site t : Site)
    (c : Change) : Prop where
  built : ∃ sw u v,
    (Site.openSwitch d.pools (site.store.node d.name).pools .replace).run site = (.ok sw, u) ∧
      (Assembly.fromEngines reg d.name (sw.apply d.pools) (site.store.node d.name).rules
        site.store.props).run u = (.ok d', v)
  installed : ∃ rules, reg.buildGlobal site.store.globalRules = .ok rules ∧
    c.snapshot = s.withCatalog (.make (s.catalog.databasesWith d') rules site.store.props)
  store : t.store = site.store.withReloaded d.name d'.schemas d.schemas

/-- **Every planned reload** of a database is one. -/
theorem plan_reloadDatabase {database : String}
    (h : ((reloadDatabase database).plan reg s).run site = (.ok r, t)) :
    ∃ d d' c, s.database? database = some d ∧ r = some c ∧
      DatabaseReload reg s d d' site t c := by
  obtain ⟨d, sw, u, next, hd, hopen, hnext, rfl⟩ := reloadDatabase_steps h
  obtain ⟨d', rules, v, hbuilt, hrules, hinstalled, hstore⟩ := rebuildStored_run hnext
  -- Opening pools comes before the store is asked for the rest, and writes nothing.
  have hunwritten := ((Site.sparing_openSwitch _ _ _).of_run hopen).2
  rw [hunwritten] at hbuilt hrules hinstalled hstore
  exact ⟨d, d', _, hd, rfl, ⟨sw, u, v, hopen, hbuilt⟩, ⟨rules, hrules, hinstalled⟩, hstore⟩

/-- Every mutation that builds a database anew installs one that was assembled from the storage
engines. -/
theorem plan_rebuild (hs : s.InOrder) {database : String} (hm : m.rebuilds? = some database)
    {c : Change} (h : (m.plan reg s).run site = (.ok (some c), t)) :
    ∃ d d' pools configs props u v, s.database? database = some d ∧
      (Assembly.fromEngines reg d.name pools configs props).run u = (.ok d', v) ∧
        c.snapshot.catalog.databases = s.catalog.databasesWith d' := by
  have hreconfigures (hm : m.reconfigures? = some database) :
      ∃ d d' pools configs props u v, s.database? database = some d ∧
        (Assembly.fromEngines reg d.name pools configs props).run u = (.ok d', v) ∧
          c.snapshot.catalog.databases = s.catalog.databasesWith d' := by
    obtain ⟨d, d', c', hd, hc, hconfiguration⟩ := plan_reconfiguration hm h
    obtain rfl := Option.some.inj hc
    obtain ⟨pools, u, v, -, hbuilt⟩ := hconfiguration.built
    have hfolded := (Assembly.assembled_of_fromEngines (hs.database hd).name hbuilt).folded
    exact ⟨d, d', pools, _, _, u, v, hd, hbuilt,
      (withRebuilt_ok hs hfolded hconfiguration.installed).1⟩
  cases m with
  | alterRules name configs => exact hreconfigures hm
  | alterPools name specs => exact hreconfigures hm
  | alterPoolsAndRules name specs configs => exact hreconfigures hm
  | reloadDatabase name =>
    obtain rfl := Option.some.inj hm
    obtain ⟨d, d', c', hd, hc, hreload⟩ := plan_reloadDatabase h
    obtain rfl := Option.some.inj hc
    obtain ⟨sw, u, v, -, hbuilt⟩ := hreload.built
    obtain ⟨rules, -, hinstalled⟩ := hreload.installed
    have hfolded := (Assembly.assembled_of_fromEngines (hs.database hd).name hbuilt).folded
    refine ⟨d, d', _, _, _, u, v, hd, hbuilt, ?_⟩
    rw [hinstalled]
    exact databases_make hs hfolded _ _
  | _ => cases hm

/-- **What every database of a plan has.** A plan adds an empty database, revises one, or puts one
that was assembled from the storage engines; the others were there before. -/
theorem plan_forall {P : Database → Prop} (hempty : ∀ name protocol, P (.empty name protocol))
    (hrevision : ∀ {d d'}, m.Revision d d' → P d → P d')
    (hengines : ∀ {name pools configs props u d v},
      (Assembly.fromEngines reg name pools configs props).run u = (.ok d, v) → P d)
    (hs : s.InOrder) (hd : ∀ name d, s.catalog.databases.get? name = some d → P d) {c : Change}
    (h : (m.plan reg s).run site = (.ok (some c), t)) :
    ∀ name d, c.snapshot.catalog.databases.get? name = some d → P d := by
  have hput {d' : Database} (hd' : P d') :
      ∀ name d, (s.catalog.databasesWith d').get? name = some d → P d := by
    intro name d hname
    rw [Catalog.databasesWith, NameMap.get?_insert] at hname
    split at hname
    · exact Option.some.inj hname ▸ hd'
    · exact hd name d hname
  obtain ⟨opened, he, -⟩ := plan_effect hs h
  cases he with
  | addDatabase hnew => exact hput (hempty _ _)
  | dropDatabase hdrop =>
    intro name d hname
    rw [Snapshot.withCatalog, Catalog.withoutDatabase, NameMap.get?_erase] at hname
    split at hname
    · cases hname
    · exact hd name d hname
  | revise hm hold hrev => exact hput (hrevision hrev (hd _ _ hold))
  | rebuild hm =>
    obtain ⟨d, d', pools, configs, props, u, v, -, hbuilt, hdatabases⟩ := plan_rebuild hs hm h
    rw [hdatabases]
    exact hput (hengines hbuilt)
  | aside hm hsame =>
    rw [hsame]
    exact hd

end Mutation

namespace World

variable {w w' : World} {m : Mutation} {o : Outcome}

/-- What follows an installation leaves the proxy and the contents of the store alone. -/
theorem followUp_rest (w : World) (c : Change) :
    (w.followUp c).proxy = w.proxy ∧ (w.followUp c).site.store = w.site.store := by
  rw [followUp_eq]
  refine ⟨rfl, ?_⟩
  dsimp only
  cases w.proxy.settings.closeDelay? <;> rfl

/-- A mutation leaves the surroundings of the proxy alone. -/
theorem Reachable.surroundings_apply (hw : w.Reachable) (m : Mutation) :
    let t := (w.apply m).2.site
    t.writable = w.site.writable ∧ t.failing = w.site.failing ∧
      t.connector = w.site.connector ∧ t.discovery = w.site.discovery := by
  have hsteady {t : Site} (h : w.site.Steady t) : t.writable = w.site.writable ∧
      t.failing = w.site.failing ∧ t.connector = w.site.connector ∧
        t.discovery = w.site.discovery := by
    obtain ⟨es, hl⟩ := h
    exact ⟨hl.writable, hl.failing, hl.connector, hl.discovery⟩
  rcases apply_cases hw.inOrder m with ⟨e, t, happly, hundone⟩ | ⟨t, happly, hquiet⟩ |
    ⟨opened, c, t, happly, -, hopened⟩
  · rw [happly]
    exact hsteady hundone.steady
  · rw [happly]
    exact hsteady hquiet.steady
  · rw [happly, followUp_eq]
    have hrest := hsteady hopened.steady
    generalize ({ w with site := t }.install c.snapshot).proxy.settings.closeDelay? = delay
    cases delay with
    | none => exact hrest
    | some ms => exact hrest

/-- What is installed and stored after a mutation that succeeds is a matter of its plan. -/
theorem planned_of_apply (h : w.apply m = (.ok o, w')) :
    ∃ r t, (m.plan w.proxy.registry w.proxy.snapshot).run w.site = (.ok r, t) ∧
      w'.proxy = r.elim w.proxy (fun c => { w.proxy with snapshot := c.snapshot }) ∧
        w'.site.store = t.store := by
  obtain ⟨r, t, hplan, hr⟩ := apply_ok h
  refine ⟨r, t, hplan, ?_⟩
  cases r with
  | none =>
    obtain ⟨-, rfl⟩ := hr
    exact ⟨rfl, rfl⟩
  | some c =>
    obtain ⟨-, rfl⟩ := hr
    exact ({ w with site := t }.install c.snapshot).followUp_rest c

/-- **What every installed database has**, because every database has it whose rules were just
built, and revisions and loads keep it. Where the schemas are known at building, their names are
folded. -/
theorem Reachable.forall_databases {P : Registry → Database → Prop}
    (hbuilt : ∀ {reg name configs protocol pools known rules schemas},
      (∀ s : NameMap Schema, known = some s → s.Folded) →
        reg.buildDatabase name configs pools known = .ok rules →
          P reg (.make name protocol pools rules schemas))
    (hrevision : ∀ {reg m d d'}, Mutation.Revision d m d' → P reg d → P reg d')
    (hreload : ∀ {reg d d'}, d.reloadRoutes = .ok d' → P reg d → P reg d')
    (hw : w.Reachable) {name : String} {d : Database}
    (hd : w.proxy.snapshot.catalog.databases.get? name = some d) : P w.proxy.registry d := by
  refine hw.snapshot_induction (P := fun reg s =>
    ∀ name d, s.catalog.databases.get? name = some d → P reg d)
    (fun _ hstart => ?_) (fun hs hP hplan => ?_) name d hd
  · refine Assembly.forall_of_assembleFrom (fun hassembled => ?_) (fun _ _ h => by cases h)
      (Assembly.assemble_ok (Proxy.start_run hstart).2)
    obtain ⟨protocol, rules, -, hrules, rfl, -⟩ := Assembly.fromStore_ok hassembled
    refine hbuilt (fun known hknown => Option.some.inj hknown ▸ ?_) hrules
    exact Assembly.folded_withDefault (Visiting.folded_fold _ _ _) (protocol.lower_defaultSchema _)
  · refine Mutation.plan_forall (fun name protocol => ?_) hrevision (fun hassembled => ?_) hs hP
      hplan
    · -- Without configurations, what is built is an empty list.
      have hrules (reg : Registry) : reg.buildDatabase name [] ∅ none = .ok [] := rfl
      exact hbuilt (fun _ hknown => by cases hknown) (hrules _)
    · obtain ⟨protocol, rules, found, -, hrules, -, -, hd⟩ := Assembly.fromEngines_ok hassembled
      exact hreload hd (hbuilt (fun _ hknown => by cases hknown) hrules)

/-- **A reconfiguration that succeeds** installs what it assembled, under the name of the database
that it was about, and keeps the cached rows. -/
theorem reconfiguration_of_apply (hw : w.Reachable) {database : String}
    (hm : m.reconfigures? = some database) (h : w.apply m = (.ok o, w')) :
    ∃ d d' t c, w.proxy.snapshot.database? database = some d ∧
      m.Reconfiguration w.proxy.registry w.proxy.snapshot d d' w.site t c ∧
        w'.proxy.snapshot = c.snapshot ∧ w'.site.store = t.store ∧
          w'.proxy.snapshot.database? database = some d' ∧
            w'.proxy.snapshot.rows = w.proxy.snapshot.rows := by
  obtain ⟨r, t, hplan, hproxy, hstore⟩ := planned_of_apply h
  obtain ⟨d, d', c, hd, rfl, hc⟩ := Mutation.plan_reconfiguration hm hplan
  have hsnapshot : w'.proxy.snapshot = c.snapshot := by
    rw [hproxy]
    rfl
  obtain ⟨pools, hassembled⟩ := hc.assembled (hw.inOrder.database hd)
  obtain ⟨hdatabases, hrows⟩ := Snapshot.withRebuilt_ok hw.inOrder hassembled.folded hc.installed
  refine ⟨d, d', t, c, hd, hc, hsnapshot, hstore, ?_, by rw [hsnapshot, hrows]⟩
  rw [hsnapshot, Snapshot.database?, Catalog.database?, hdatabases, Catalog.databasesWith,
    hassembled.name_eq, hw.inOrder.name_eq hd]
  exact NameMap.get?_insert_self _ _ _

end World

end ProxyCatalog
