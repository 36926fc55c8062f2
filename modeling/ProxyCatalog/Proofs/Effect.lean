import ProxyCatalog.Proofs.Comparison
import ProxyCatalog.Proxy

/-!
# The effect of a mutation

What each mutation does, said once. `Mutation.Planned` relates a snapshot to the changes that a
mutation may plan for it and to the pools that are opened for the change, and `Mutation.Revision`
relates a database to what the mutations of its schemas make of it. Every invariant of the installed
snapshot is shown by cases over these two, or over `Mutation.Effect`, which keeps of a planned
change what becomes of databases and pools.

* `planned_of_plan`: a plan that succeeds has planned one of these changes, and has opened the pools
  that go with it and closed none. A plan for nothing has opened none either (`plan_quiet`).
* `plan_cases`: the actions that plans are made of, for what has to be shown whether or not a plan
  succeeds.
* `plan_clean`: a plan that fails has closed every pool that it opened, and no other.
* `plan_atomic`: a plan that fails at a store in memory has left the store alone. A reloaded schema
  is written before its routes are loaded; this last step does not fail, since the routes of an
  installed database can be loaded.
-/

namespace ProxyCatalog

open Site

namespace Mutation

/-- The database that the mutation builds anew. -/
def rebuilds? : Mutation → Option String
  | alterRules database _ => some database
  | alterPools database _ => some database
  | alterPoolsAndRules database _ _ => some database
  | reloadDatabase database => some database
  | _ => none

/-- The database to which the mutation gives new pools or new rules. -/
def reconfigures? : Mutation → Option String
  | alterRules database _ => some database
  | alterPools database _ => some database
  | alterPoolsAndRules database _ _ => some database
  | _ => none

theorem rebuilds?_of_reconfigures? {m : Mutation} {database : String}
    (h : m.reconfigures? = some database) : m.rebuilds? = some database := by
  cases m with
  | alterRules | alterPools | alterPoolsAndRules => exact h
  | _ => cases h

/-- The database whose schemas the mutation changes. -/
def revises? : Mutation → Option String
  | addSchema database _ => some database
  | dropSchema database _ => some database
  | alterSchema change => some change.database
  | reloadSchema database _ _ => some database
  | reloadTable database _ _ _ => some database
  | _ => none

/-- The mutation leaves every database as it is. -/
def isAside : Mutation → Bool
  | alterGlobalRules _ => true
  | alterProperties _ => true
  | changeCache _ => true
  | alterRow .. => true
  | _ => false

/-- What a mutation that changes schemas makes of the database that it is about. -/
inductive Revision (d : Database) : Mutation → Database → Prop
  | addSchema {database schema : String} (hnew : d.schema? schema = none) :
      Revision d (.addSchema database schema) (d.withSchema schema ∅)
  | dropSchema {database schema : String} :
      Revision d (.dropSchema database schema) (d.withoutSchema schema)
  | alterSchema {change : SchemaChange} {content : Schema} {d' : Database}
      (hs : d.schema? change.schema = some content)
      (hd' : (d.withObjects content change).reloadUnlessKnown change.schema change.changedNames =
        .ok d') :
      Revision d (.alterSchema change) d'
  | reloadSchema {database schema pool : String} {d₁ d' : Database}
      (hd₁ : d₁ = d.withoutSchema schema ∨ ∃ content, d₁ = d.withSchema schema content)
      (hd' : d₁.reloadRoutes = .ok d') :
      Revision d (.reloadSchema database schema pool) d'
  | reloadTable {database schema table : String} {pool : Option String} {found : Option Table}
      {d' : Database} (hfound : ∀ t, found = some t → Text.lower t.name = Text.lower table)
      (hd' : Snapshot.withFoundTable d schema table found = .ok (some d')) :
      Revision d (.reloadTable database schema table pool) d'

/-- What a mutation **plans** for a snapshot: a change, and the pools opened for it. New pools are
in the books as the current ones are, and pools leave them by being retired. -/
inductive Planned (reg : Registry) (s : Snapshot) : Mutation → Pools → Change → Prop
  | addDatabase {name : String} {protocol : Dialect} (hnew : s.database? name = none) :
      Planned reg s (.addDatabase name) ∅ { snapshot := s.withDatabase (.empty name protocol) }
  | dropDatabase {name : String} {d : Database} (hd : s.database? name = some d) :
      Planned reg s (.dropDatabase name) ∅
        { snapshot := s.withCatalog (s.catalog.withoutDatabase name)
          releases := Change.releasesOf s.catalog.globalRules (some d.name)
            ++ Change.releasesOf d.rules none
          retired := d.pools }
  | revise {m : Mutation} {database : String} {d d' : Database} (hm : m.revises? = some database)
      (hd : s.database? database = some d) (hd' : m.Revision d d') :
      Planned reg s m ∅ { snapshot := s.withDatabase d' }
  | reconfigure {m : Mutation} {database : String} {d d' : Database} {pools opened retired : Pools}
      {next : Snapshot} (hm : m.reconfigures? = some database)
      (hd : s.database? database = some d) (hd' : d'.Assembled d.name pools)
      (hbooks : (Pools.handles pools ++ Pools.handles retired).Perm
        (Pools.handles d.pools ++ Pools.handles opened))
      (hnext : s.withRebuilt reg d' = .ok next) :
      Planned reg s m opened
        { snapshot := next, releases := Change.releasesOfRebuild s d, retired }
  | reload {database : String} {d d' : Database} {pools opened retired : Pools} {rules : RuleSet}
      {configs : List RuleConfig} {props : Properties} (hd : s.database? database = some d)
      (hd' : d'.Assembled d.name pools)
      (hbooks : (Pools.handles pools ++ Pools.handles retired).Perm
        (Pools.handles d.pools ++ Pools.handles opened))
      (hrules : reg.buildGlobal configs = .ok rules) :
      Planned reg s (.reloadDatabase database) opened
        { snapshot := s.withCatalog (.make (s.catalog.databasesWith d') rules props), retired }
  | alterGlobalRules {configs : List RuleConfig} {rules : RuleSet}
      (hrules : reg.buildGlobal configs = .ok rules) :
      Planned reg s (.alterGlobalRules configs) ∅
        { snapshot := s.withCatalog { s.catalog with globalRules := rules }
          releases := Change.releasesOf s.catalog.globalRules none }
  | alterProperties {values : NameMap String} {props : Properties}
      (hprops : Properties.make values = .ok props) :
      Planned reg s (.alterProperties values) ∅
        { snapshot := s.withCatalog { s.catalog with props } }
  | changeCache {change : CacheChange} {rows : RowCache} (hrows : change.apply s.rows = some rows) :
      Planned reg s (.changeCache change) ∅ { snapshot := s.withRows rows }
  | alterRow {database schema table : String} {payload : RowPayload} {row : Row} {rows : RowCache}
      (hkey : row.key = payload.key)
      (hrows : s.rows.putRow database schema table row = some rows) :
      Planned reg s (.alterRow database schema table payload) ∅ { snapshot := s.withRows rows }

/-- The **effect** of a mutation on the databases of a snapshot and on their pools: a change, and
the pools opened for it. -/
inductive Effect (s : Snapshot) : Mutation → Pools → Change → Prop
  | addDatabase {name : String} {protocol : Dialect} (hnew : s.database? name = none) :
      Effect s (.addDatabase name) ∅ { snapshot := s.withDatabase (.empty name protocol) }
  | dropDatabase {name : String} {d : Database} {releases : List Release}
      (hd : s.database? name = some d) :
      Effect s (.dropDatabase name) ∅
        { snapshot := s.withCatalog (s.catalog.withoutDatabase name), releases, retired := d.pools }
  | revise {m : Mutation} {database : String} {d d' : Database} (hm : m.revises? = some database)
      (hd : s.database? database = some d) (hd' : m.Revision d d') :
      Effect s m ∅ { snapshot := s.withDatabase d' }
  | rebuild {m : Mutation} {database : String} {d d' : Database} {pools opened : Pools}
      {c : Change} (hm : m.rebuilds? = some database) (hd : s.database? database = some d)
      (hd' : d'.Assembled d.name pools)
      (hbooks : (Pools.handles pools ++ Pools.handles c.retired).Perm
        (Pools.handles d.pools ++ Pools.handles opened))
      (hc : c.snapshot.catalog.databases = s.catalog.databasesWith d') :
      Effect s m opened c
  | aside {m : Mutation} {c : Change} (hm : m.isAside = true)
      (hc : c.snapshot.catalog.databases = s.catalog.databases) (hr : c.retired = ∅) :
      Effect s m ∅ c

end Mutation

/-! ### Rebuilding -/

namespace Snapshot

variable {reg : Registry} {s next : Snapshot} {d : Database} {pools : Pools} {sw : Switch}
  {configs : List RuleConfig} {site t : Site}

theorem findDatabase_eq_ok {name : String} :
    s.findDatabase name = .ok d ↔ s.database? name = some d := by
  rw [findDatabase]
  cases s.database? name with
  | none => exact ⟨nofun, nofun⟩
  | some d' => rw [Except.ok.injEq, Option.some.injEq]

/-- What begins with finding a database that is there goes on with it. -/
theorem run_findDatabase {α : Type} {name : String} (hd : s.database? name = some d)
    (f : Database → SiteM α) (site : Site) :
    (SiteM.ofExcept (s.findDatabase name) >>= f).run site = (f d).run site := by
  rw [findDatabase_eq_ok.2 hd]
  exact SiteM.run_bind_of_ok (SiteM.run_ofExcept _ _) f

/-- What begins with finding a database succeeds if there is one and the rest does. -/
theorem run_findDatabase_ok {α : Type} {name : String} {f : Database → SiteM α} {a : α}
    (h : (SiteM.ofExcept (s.findDatabase name) >>= f).run site = (.ok a, t)) :
    ∃ d, s.database? name = some d ∧ (f d).run site = (.ok a, t) := by
  obtain ⟨d, u, hfind, h⟩ := SiteM.run_bind_ok.1 h
  obtain ⟨hd, rfl⟩ := SiteM.run_ofExcept_ok.1 hfind
  exact ⟨d, findDatabase_eq_ok.1 hd, h⟩

/-- What begins with finding a database may rely on its being there. -/
theorem within_findDatabase {R : Site → Site → Prop} [Course R] {α : Type} {name : String}
    {f : Database → SiteM α} (hf : ∀ d, s.database? name = some d → (f d).Within R) :
    (SiteM.ofExcept (s.findDatabase name) >>= f).Within R :=
  .bind_run (.ofExcept _) fun _ d _ h =>
    hf d (findDatabase_eq_ok.1 (SiteM.run_ofExcept_ok.1 h).1)

/-- Folding the names of databases in order changes none of them. -/
theorem databases_make (hs : s.InOrder) {d' : Database} (hd' : Text.lower d'.name = d'.name)
    (rules : RuleSet) (props : Properties) :
    (Catalog.make (s.catalog.databasesWith d') rules props).databases =
      s.catalog.databasesWith d' :=
  (hs.folded_databasesWith hd').rekey_eq_self

/-- A rebuilt database is installed beside the others, and the cached rows stay. -/
theorem withRebuilt_ok (hs : s.InOrder) {d' : Database} (hd' : Text.lower d'.name = d'.name)
    (h : s.withRebuilt reg d' = .ok next) :
    next.catalog.databases = s.catalog.databasesWith d' ∧ next.rows = s.rows := by
  obtain ⟨rules, -, h⟩ := Except.bind_eq_ok h
  obtain rfl := Except.ok.inj h
  exact ⟨databases_make hs hd' _ _, rfl⟩

theorem props_of_withRebuilt {d' : Database} (h : s.withRebuilt reg d' = .ok next) :
    next.catalog.props = s.catalog.props := by
  obtain ⟨rules, -, h⟩ := Except.bind_eq_ok h
  obtain rfl := Except.ok.inj h
  rfl

/-- **The steps of a rebuild.** The database is assembled, the global rules are built again, and
the difference of the schemas is written. -/
theorem rebuild_steps (h : (s.rebuild reg d pools configs).run site = (.ok next, t)) :
    ∃ d' u, (Assembly.fromEngines reg d.name pools configs s.catalog.props).run site =
        (.ok d', u) ∧ s.withRebuilt reg d' = .ok next ∧
      (Site.persistDelta d'.name (.between d'.schemas d.schemas)).run u = (.ok ⟨⟩, t) := by
  obtain ⟨d', s₁, hbuilt, h⟩ := SiteM.run_bind_ok.1 h
  obtain ⟨next', s₂, hmade, h⟩ := SiteM.run_bind_ok.1 h
  obtain ⟨u, s₃, hdelta, h⟩ := SiteM.run_bind_ok.1 h
  obtain ⟨rfl, rfl⟩ := SiteM.run_pure_ok.1 h
  obtain ⟨hnext, rfl⟩ := SiteM.run_ofExcept_ok.1 hmade
  exact ⟨d', s₁, hbuilt, hnext, hdelta⟩

/-- A rebuild installs a database that was assembled from the storage engines. -/
theorem rebuild_ok (hd : d.InOrder)
    (h : (s.rebuild reg d pools configs).run site = (.ok next, t)) :
    ∃ d' : Database, d'.Assembled d.name pools ∧ s.withRebuilt reg d' = .ok next := by
  obtain ⟨d', u, hbuilt, hnext, -⟩ := rebuild_steps h
  exact ⟨d', Assembly.assembled_of_fromEngines hd.name hbuilt, hnext⟩

/-- The cached rows are persisted once the database is rebuilt. -/
theorem rebuildSwitched_steps
    (h : (s.rebuildSwitched reg d sw configs).run site = (.ok next, t)) :
    ∃ u, (s.rebuild reg d (sw.apply d.pools) configs).run site = (.ok next, u) ∧
      (((s.rows.database? d.name).getD ∅).entries.forM fun e =>
        Site.persistRows d.name e.1 e.2).run u = (.ok ⟨⟩, t) := by
  obtain ⟨next', s₁, hrebuilt, h⟩ := SiteM.run_bind_ok.1 h
  obtain ⟨u, s₂, hrows, h⟩ := SiteM.run_bind_ok.1 h
  obtain ⟨rfl, rfl⟩ := SiteM.run_pure_ok.1 h
  exact ⟨s₁, hrebuilt, hrows⟩

/-- **The steps of a reload of a database.** Properties and rules are read from the store, the
database is assembled and the global rules are built; then schemas that are gone are dropped, and
all others compared and written. -/
theorem rebuildStored_steps (h : (s.rebuildStored reg d sw).run site = (.ok next, t)) :
    ∃ d' rules u v, (Assembly.fromEngines reg d.name (sw.apply d.pools)
        (site.store.node d.name).rules site.store.props).run site = (.ok d', u) ∧
      reg.buildGlobal site.store.globalRules = .ok rules ∧
        next = s.withCatalog (.make (s.catalog.databasesWith d') rules site.store.props) ∧
          ((DatabaseDelta.between d'.schemas d.schemas).dropped.forM fun name =>
            Site.dropSchema d.name name).run u = (.ok ⟨⟩, v) ∧
            (d'.schemas.entries.forM fun e => Site.compareAndPersist d.name e.1 e.2).run v =
              (.ok ⟨⟩, t) ∧
              t.store = site.store.withReloaded d.name d'.schemas d.schemas := by
  obtain ⟨props, s₁, hprops, h⟩ := SiteM.run_bind_ok.1 h
  obtain ⟨configs, s₂, hconfigs, h⟩ := SiteM.run_bind_ok.1 h
  obtain ⟨globalConfigs, s₃, hglobal, h⟩ := SiteM.run_bind_ok.1 h
  obtain ⟨d', s₄, hbuilt, h⟩ := SiteM.run_bind_ok.1 h
  obtain ⟨rules, s₅, hmade, h⟩ := SiteM.run_bind_ok.1 h
  obtain ⟨u, s₆, hdropped, h⟩ := SiteM.run_bind_ok.1 h
  obtain ⟨u', s₇, hwritten, h⟩ := SiteM.run_bind_ok.1 h
  obtain ⟨rfl, rfl⟩ := SiteM.run_pure_ok.1 h
  -- The configuration is read before anything is done.
  obtain ⟨rfl, rfl⟩ := readStore_ok hprops
  obtain ⟨rfl, rfl⟩ := readStore_ok hconfigs
  obtain ⟨rfl, rfl⟩ := readStore_ok hglobal
  obtain ⟨hrules, rfl⟩ := SiteM.run_ofExcept_ok.1 hmade
  refine ⟨d', rules, s₄, s₆, hbuilt, hrules, rfl, hdropped, hwritten, ?_⟩
  have hunwritten := ((Assembly.reading_fromEngines _ _ _ _ _).of_run hbuilt).2
  have hdropped := forM_writes (g := fun s name => s.dropSchema d.name name)
    (fun _ _ _ => writeStore_ok) hdropped
  rw [forM_compareAndPersist_ok hwritten, hdropped, hunwritten, Store.withReloaded]

/-- **What a reload of a database comes to.** The database is assembled from the configuration in
the store, whose properties and global rules are installed with it, and its schemas are compared and
written. -/
theorem rebuildStored_run (h : (s.rebuildStored reg d sw).run site = (.ok next, t)) :
    ∃ d' rules u, (Assembly.fromEngines reg d.name (sw.apply d.pools)
        (site.store.node d.name).rules site.store.props).run site = (.ok d', u) ∧
      reg.buildGlobal site.store.globalRules = .ok rules ∧
        next = s.withCatalog (.make (s.catalog.databasesWith d') rules site.store.props) ∧
          t.store = site.store.withReloaded d.name d'.schemas d.schemas := by
  obtain ⟨d', rules, u, v, hbuilt, hrules, hnext, -, -, hstore⟩ := rebuildStored_steps h
  exact ⟨d', rules, u, hbuilt, hrules, hnext, hstore⟩

theorem rebuildStored_ok (hd : d.InOrder)
    (h : (s.rebuildStored reg d sw).run site = (.ok next, t)) :
    ∃ (d' : Database) (rules : RuleSet), d'.Assembled d.name (sw.apply d.pools) ∧
      reg.buildGlobal site.store.globalRules = .ok rules ∧
        next = s.withCatalog (.make (s.catalog.databasesWith d') rules site.store.props) := by
  obtain ⟨d', rules, u, hbuilt, hrules, hnext, -⟩ := rebuildStored_run h
  exact ⟨d', rules, Assembly.assembled_of_fromEngines hd.name hbuilt, hrules, hnext⟩

/-- The steps of a **reload** of a database: its pools are switched to those in the store, and then
it is built anew. -/
theorem reloadDatabase_steps {database : String} {r : Option Change}
    (h : (s.reloadDatabase reg database).run site = (.ok r, t)) :
    ∃ d sw u next, s.database? database = some d ∧
      (openSwitch d.pools (site.store.node d.name).pools .replace).run site = (.ok sw, u) ∧
        (s.rebuildStored reg d sw).run u = (.ok next, t) ∧
          r = some { snapshot := next, retired := sw.stale } := by
  obtain ⟨d, hd, h⟩ := run_findDatabase_ok h
  obtain ⟨specs, s₁, hspecs, h⟩ := SiteM.run_bind_ok.1 h
  obtain ⟨rfl, rfl⟩ := readStore_ok hspecs
  obtain ⟨sw, u, hopen, h⟩ := SiteM.run_bind_ok.1 h
  obtain ⟨next, v, hnext, h⟩ := SiteM.run_bind_ok.1 h
  obtain ⟨rfl, rfl⟩ := SiteM.run_pure_ok.1 h
  exact ⟨d, sw, u, next, hd, hopen, closingOnFault_ok.1 hnext, rfl⟩

theorem alterRules_ok (hs : s.InOrder) {database : String} {r : Option Change}
    (h : (s.alterRules reg database configs).run site = (.ok r, t)) :
    ∃ d d' next, s.database? database = some d ∧ d'.Assembled d.name d.pools ∧
      s.withRebuilt reg d' = .ok next ∧
        r = some { snapshot := next, releases := Change.releasesOfRebuild s d } := by
  obtain ⟨d, hd, h⟩ := run_findDatabase_ok h
  obtain ⟨next, s₁, hnext, h⟩ := SiteM.run_bind_ok.1 h
  obtain ⟨rfl, -⟩ := SiteM.run_pure_ok.1 h
  obtain ⟨d', hd', hrebuilt⟩ := rebuild_ok (hs.database hd) hnext
  exact ⟨d, d', next, hd, hd', hrebuilt, rfl⟩

theorem updates_rebuild (reg : Registry) (s : Snapshot) (d : Database) (pools : Pools)
    (configs : List RuleConfig) : (s.rebuild reg d pools configs).Updates := by
  refine .bind (Assembly.reading_fromEngines _ _ _ _ _) fun d' => .bind (.ofExcept _) fun next => ?_
  exact SiteM.Writes.updates (.bind (.persistDelta _ _) fun _ => .pure _)

theorem updates_rebuildSwitched (reg : Registry) (s : Snapshot) (d : Database) (sw : Switch)
    (configs : List RuleConfig) : (s.rebuildSwitched reg d sw configs).Updates :=
  .bind_writes (updates_rebuild _ _ _ _ _) fun _ =>
    .bind (.forM _ fun _ => .writeStore _ _ _) fun _ => .pure _

theorem updates_rebuildStored (reg : Registry) (s : Snapshot) (d : Database) (sw : Switch) :
    (s.rebuildStored reg d sw).Updates := by
  refine .bind (reading_readStore _ _) fun props => .bind (reading_readStore _ _) fun configs => ?_
  refine .bind (reading_readStore _ _) fun globalConfigs => ?_
  refine .bind (Assembly.reading_fromEngines _ _ _ _ _) fun d' => ?_
  refine .bind (.ofExcept _) fun rules => ?_
  exact SiteM.Writes.updates (.bind (.forM _ fun _ => .writeStore _ _ _) fun _ =>
    .bind (.forM _ fun _ => .compareAndPersist _ _ _) fun _ => .pure _)

/-! ### Switching pools -/

/-- A rebuild around a switch of pools. -/
private def switching (current : Pools) (specs : NameMap PoolSpec) (mode : SwitchMode)
    (body : Switch → SiteM Snapshot) (releases : List Release) : SiteM (Option Change) := do
  let sw ← openSwitch current specs mode
  let next ← closingOnFault sw.opened (body sw)
  return some { snapshot := next, releases, retired := sw.stale }

section Switching

variable {current : Pools} {specs : NameMap PoolSpec} {mode : SwitchMode}
  {body : Switch → SiteM Snapshot} {releases : List Release}

private theorem switching_ok (hbody : ∀ sw, (body sw).Updates) {r : Option Change}
    (h : (switching current specs mode body releases).run site = (.ok r, t)) :
    ∃ sw u next, (body sw).run u = (.ok next, t) ∧
      r = some { snapshot := next, releases, retired := sw.stale } ∧
        site.Opened t (Pools.handles sw.opened) ∧
          (Pools.handles (sw.apply current) ++ Pools.handles sw.stale).Perm
            (Pools.handles current ++ Pools.handles sw.opened) := by
  obtain ⟨sw, u, hopen, h⟩ := SiteM.run_bind_ok.1 h
  obtain ⟨next, v, hbuilt, h⟩ := SiteM.run_bind_ok.1 h
  obtain ⟨rfl, rfl⟩ := SiteM.run_pure_ok.1 h
  obtain ⟨ho, -, hbooks⟩ := openSwitch_ok hopen
  have hbuilt := closingOnFault_ok.1 hbuilt
  have hq := (hbody sw).quiet u
  rw [hbuilt] at hq
  exact ⟨sw, u, next, hbuilt, rfl, ho.trans_quiet hq, hbooks⟩

private theorem clean_switching (hbody : ∀ sw, (body sw).Updates) :
    (switching current specs mode body releases).Clean := by
  intro s u e hrun
  rcases SiteM.run_bind_error.1 hrun with hopen | ⟨sw, v, hopen, hrun⟩
  · exact openSwitch_error hopen
  · rcases SiteM.run_bind_error.1 hrun with hbuilt | ⟨next, w, -, hpure⟩
    · exact (openSwitch_ok hopen).1.closingOnFault (hbody sw).quiet hbuilt
    · cases hpure

private theorem atomic_switching (hbody : ∀ sw, (body sw).Updates) :
    (switching current specs mode body releases).Atomic :=
  .bind (sparing_openSwitch _ _ _) fun sw =>
    .bind_pure (atomic_closingOnFault (hbody sw).undone) _

end Switching

/-! ### Reloading -/

theorem reading_discoverSchema (s : Snapshot) (d : Database) (pools : Pools) (schema : String)
    (tables : Option (List String)) :
    (s.discoverSchema d pools schema tables).Within Reading :=
  .bind (reading_discover _ _) fun _ => .pure _

/-- The routes of a database in order load again, whatever becomes of its schemas. This is what
keeps a reload of a schema from failing once it has written. -/
theorem updates_reloadSchema (hs : s.InOrder) (database schema pool : String) :
    (s.reloadSchema database schema pool).Updates := by
  refine .bind_ofExcept fun d hd => .bind (.ofExcept _) fun pools => ?_
  refine .bind (reading_discoverSchema _ _ _ _ _) fun found => ?_
  refine .bind (reading_readStore _ _) fun views => ?_
  have hloadable := (hs.database (findDatabase_eq_ok.1 hd)).loadable
  -- A load sees the configuration and the pools, which are those of the installed database.
  have hreload (d' : Database) (hd' : d'.Loadable) :
      (do
        let changed ← SiteM.ofExcept d'.reloadRoutes
        return some ({ snapshot := s.withDatabase changed } : Change)).Writes := by
    obtain ⟨d'', hd''⟩ := Database.reloadRoutes_isOk_iff.2 hd'
    rw [hd'']
    exact .bind (.pure d'') fun _ => .pure _
  dsimp only
  split
  · exact SiteM.Writes.updates (.bind (.writeStore _ _ _) fun _ => hreload _ hloadable)
  · exact SiteM.Writes.updates (.bind (.compareAndPersist _ _ _) fun _ => hreload _ hloadable)

theorem findPool_eq_ok {pool : String} :
    findPool d pool = .ok pools ↔ d.pools.subset? pool = some pools := by
  rw [findPool]
  cases d.pools.subset? pool with
  | none => exact ⟨nofun, nofun⟩
  | some p => rw [Except.ok.injEq, Option.some.injEq]

/-- What is discovered of a schema is looked up among what is found. -/
theorem discoverSchema_ok {schema : String} {tables : Option (List String)} {found : Option Schema}
    (h : (s.discoverSchema d pools schema tables).run site = (.ok found, t)) :
    let q : Material := ⟨d.name, d.protocol, pools, d.rules, s.catalog.props, Text.lower schema⟩
    ∃ schemas, site.findings q tables = .ok schemas ∧ found = schemas.get? (Text.lower schema) ∧
      t = site.record [.asked (q.inquiry tables)] := by
  obtain ⟨schemas, s₁, hasked, h⟩ := SiteM.run_bind_ok.1 h
  obtain ⟨rfl, rfl⟩ := SiteM.run_pure_ok.1 h
  rw [run_discover] at hasked
  obtain ⟨hschemas, rfl⟩ := Prod.mk.inj hasked
  exact ⟨schemas, hschemas, rfl, rfl⟩

/-- **What a reload of a schema comes to.** The content is what was found, with the stored views
over it. Without tables the schema is dropped; otherwise it is compared and written. -/
theorem reloadSchema_run {database schema pool : String} {r : Option Change}
    (h : (s.reloadSchema database schema pool).run site = (.ok r, t)) :
    ∃ d pools found d' u, s.database? database = some d ∧ d.pools.subset? pool = some pools ∧
      (s.discoverSchema d pools schema none).run site = (.ok found, u) ∧
        site.writable = true ∧ u.Quiet t ∧ r = some { snapshot := s.withDatabase d' } ∧
          let content := (found.getD ∅).putViews (site.store.views d.name schema)
          if content.tables.isEmpty then
            (d.withoutSchema schema).reloadRoutes = .ok d' ∧
              t.store = site.store.dropSchema d.name schema
          else (d.withSchema schema content).reloadRoutes = .ok d' ∧
            t.store = site.store.withSchema d.name schema content := by
  obtain ⟨d, hd, h⟩ := run_findDatabase_ok h
  obtain ⟨pools, s₁, hpool, h⟩ := SiteM.run_bind_ok.1 h
  obtain ⟨hpools, rfl⟩ := SiteM.run_ofExcept_ok.1 hpool
  obtain ⟨found, s₂, hfound, h⟩ := SiteM.run_bind_ok.1 h
  obtain ⟨views, s₃, hviews, h⟩ := SiteM.run_bind_ok.1 h
  obtain ⟨rfl, rfl⟩ := readStore_ok hviews
  obtain ⟨⟨es, hl, -⟩, hunwritten⟩ := (reading_discoverSchema _ _ _ _ _).of_run hfound
  rw [hunwritten] at h
  have hwritable (hw : s₃.writable = true) : site.writable = true := hl.writable.symm.trans hw
  have hreload {d₁ : Database} {u : Site} (h : (do
        let changed ← SiteM.ofExcept d₁.reloadRoutes
        return some ({ snapshot := s.withDatabase changed } : Change) :
          SiteM (Option Change)).run u = (.ok r, t)) :
      ∃ d', d₁.reloadRoutes = .ok d' ∧ r = some { snapshot := s.withDatabase d' } ∧ u = t := by
    obtain ⟨d', u', hloaded, h⟩ := SiteM.run_bind_ok.1 h
    obtain ⟨rfl, rfl⟩ := SiteM.run_pure_ok.1 h
    obtain ⟨hd', rfl⟩ := SiteM.run_ofExcept_ok.1 hloaded
    exact ⟨d', hd', rfl, rfl⟩
  dsimp only at h ⊢
  split at h
  · next hempty =>
    obtain ⟨u, s₅, hdropped, h⟩ := SiteM.run_bind_ok.1 h
    obtain ⟨d', hd', hr, rfl⟩ := hreload h
    refine ⟨d, pools, found, d', s₃, hd, findPool_eq_ok.1 hpools, hfound,
      hwritable (SiteM.Demands.writeStore _ _ _ _ _ _ hdropped),
      (quiet_writeStore _ _ _).of_run hdropped, hr, ?_⟩
    rw [if_pos hempty, writeStore_ok hdropped, hunwritten]
    exact ⟨hd', rfl⟩
  · next hempty =>
    obtain ⟨u, s₅, hwritten, h⟩ := SiteM.run_bind_ok.1 h
    obtain ⟨d', hd', hr, rfl⟩ := hreload h
    refine ⟨d, pools, found, d', s₃, hd, findPool_eq_ok.1 hpools, hfound,
      hwritable (SiteM.Demands.compareAndPersist _ _ _ _ _ _ hwritten),
      (SiteM.Writes.compareAndPersist _ _ _).quiet.of_run hwritten, hr, ?_⟩
    rw [if_neg hempty, compareAndPersist_ok hwritten, hunwritten]
    exact ⟨hd', rfl⟩

theorem reloadSchema_ok {database schema pool : String} {r : Option Change}
    (h : (s.reloadSchema database schema pool).run site = (.ok r, t)) :
    ∃ d d₁ d' : Database, s.database? database = some d ∧
      (d₁ = d.withoutSchema schema ∨ ∃ content, d₁ = d.withSchema schema content) ∧
        d₁.reloadRoutes = .ok d' ∧ r = some { snapshot := s.withDatabase d' } := by
  obtain ⟨d, pools, found, d', u, hd, -, -, -, -, hr, hcontent⟩ := reloadSchema_run h
  dsimp only at hcontent
  split at hcontent
  · exact ⟨d, _, d', hd, .inl rfl, hcontent.1, hr⟩
  · exact ⟨d, _, d', hd, .inr ⟨_, rfl⟩, hcontent.1, hr⟩

theorem updates_reloadTableThrough (s : Snapshot) (d : Database) (pools : Pools)
    (schema table : String) : (s.reloadTableThrough d pools schema table).Updates := by
  refine .bind (reading_discoverSchema _ _ _ _ _) fun found => ?_
  refine .bind (.ofExcept _) fun changed => SiteM.Writes.updates ?_
  cases changed with
  | none => exact .pure _
  | some changed =>
    dsimp only
    split
    · exact .bind (.compareAndPersist _ _ _) fun _ => .pure _
    · exact .pure _

theorem updates_reloadTable (s : Snapshot) (database schema table : String)
    (pool : Option String) : (s.reloadTable database schema table pool).Updates := by
  refine .bind (.ofExcept _) fun d => ?_
  cases pool with
  | none => exact updates_reloadTableThrough _ _ _ _ _
  | some name => exact .bind (.ofExcept _) fun pools => updates_reloadTableThrough _ _ _ _ _

/-- A table that is found under a name bears it. -/
theorem named_of_found {found : Option Schema} {table : String} {t : Table}
    (h : found.bind (·.table? table) = some t) : Text.lower t.name = Text.lower table := by
  obtain ⟨content, -, ht⟩ := Option.bind_eq_some_iff.1 h
  exact (content.tables_keyed _ t ht).symm

/-- **What a reload of a table comes to.** The table is put or taken out as it was found, and the
schema is compared and written. -/
theorem reloadTableThrough_run {schema table : String} {r : Option Change}
    (h : (s.reloadTableThrough d pools schema table).run site = (.ok r, t)) :
    ∃ found u changed, (s.discoverSchema d pools schema (some [table])).run site = (.ok found, u) ∧
      u.Quiet t ∧ withFoundTable d schema table (found.bind (·.table? table)) = .ok changed ∧
        match changed with
        | none => r = none ∧ t.store = site.store
        | some d' => r = some { snapshot := s.withDatabase d' } ∧
          ((d'.schema? schema).isSome → site.writable = true) ∧
          t.store = (d'.schema? schema).elim site.store (site.store.withSchema d'.name schema) := by
  obtain ⟨found, s₁, hfound, h⟩ := SiteM.run_bind_ok.1 h
  obtain ⟨changed, s₂, hmade, h⟩ := SiteM.run_bind_ok.1 h
  obtain ⟨hchanged, rfl⟩ := SiteM.run_ofExcept_ok.1 hmade
  obtain ⟨⟨es, hl, -⟩, hunwritten⟩ := (reading_discoverSchema _ _ _ _ _).of_run hfound
  refine ⟨found, s₁, changed, hfound, ?_⟩
  rw [← hunwritten, ← hl.writable]
  cases changed with
  | none =>
    obtain ⟨rfl, rfl⟩ := SiteM.run_pure_ok.1 h
    exact ⟨Course.refl _, hchanged, rfl, rfl⟩
  | some d' =>
    dsimp only at h ⊢
    cases hcontent : d'.schema? schema with
    | none =>
      rw [hcontent] at h
      obtain ⟨rfl, rfl⟩ := SiteM.run_pure_ok.1 h
      exact ⟨Course.refl _, hchanged, rfl, nofun, rfl⟩
    | some content =>
      rw [hcontent] at h
      obtain ⟨u, s₃, hwritten, h⟩ := SiteM.run_bind_ok.1 h
      obtain ⟨rfl, rfl⟩ := SiteM.run_pure_ok.1 h
      exact ⟨(SiteM.Writes.compareAndPersist _ _ _).quiet.of_run hwritten, hchanged, rfl,
        fun _ => SiteM.Demands.compareAndPersist _ _ _ _ _ _ hwritten,
        compareAndPersist_ok hwritten⟩

/-- A reload of a table goes through one pool or through all pools of the database. -/
theorem reloadTable_run {database schema table : String} {pool : Option String} {r : Option Change}
    (h : (s.reloadTable database schema table pool).run site = (.ok r, t)) :
    ∃ d pools, s.database? database = some d ∧
      pool.elim (some d.pools) d.pools.subset? = some pools ∧
        (s.reloadTableThrough d pools schema table).run site = (.ok r, t) := by
  obtain ⟨d, hd, h⟩ := run_findDatabase_ok h
  cases pool with
  | none => exact ⟨d, d.pools, hd, rfl, h⟩
  | some name =>
    obtain ⟨pools, s₁, hpool, h⟩ := SiteM.run_bind_ok.1 h
    obtain ⟨hpools, rfl⟩ := SiteM.run_ofExcept_ok.1 hpool
    exact ⟨d, pools, hd, findPool_eq_ok.1 hpools, h⟩

theorem reloadTable_ok {database schema table : String} {pool : Option String} {c : Change}
    (h : (s.reloadTable database schema table pool).run site = (.ok (some c), t)) :
    ∃ d found d', s.database? database = some d ∧
      (∀ t, found = some t → Text.lower t.name = Text.lower table) ∧
        withFoundTable d schema table found = .ok (some d') ∧
          c = { snapshot := s.withDatabase d' } := by
  obtain ⟨d, pools, hd, -, h⟩ := reloadTable_run h
  obtain ⟨found, u, changed, -, -, hchanged, hr⟩ := reloadTableThrough_run h
  cases changed with
  | none => cases hr.1
  | some d' => exact ⟨d, _, d', hd, fun _ => named_of_found, hchanged, Option.some.inj hr.1⟩

/-! ### Changes that need nothing but the snapshot -/

theorem addDatabase_ok {name : String} {c : Change} (h : s.addDatabase name = .ok (some c)) :
    s.database? name = none ∧
      ∃ protocol, c = { snapshot := s.withDatabase (.empty name protocol) } := by
  rw [addDatabase] at h
  split at h
  · cases h
  · next hnone =>
    obtain ⟨protocol, -, h⟩ := Except.bind_eq_ok h
    exact ⟨hnone, protocol, (Option.some.inj (Except.ok.inj h)).symm⟩

theorem addSchema_ok {database schema : String} {c : Change}
    (h : s.addSchema database schema = .ok (some c)) :
    ∃ d, s.database? database = some d ∧ d.schema? schema = none ∧
      c = { snapshot := s.withDatabase (d.withSchema schema ∅) } := by
  rw [addSchema] at h
  split at h
  · cases h
  · next d hd =>
    have h := Except.ok.inj h
    split at h
    · cases h
    · next hnone => exact ⟨d, hd, hnone, (Option.some.inj h).symm⟩

theorem dropSchema_some {database schema : String} {c : Change}
    (h : s.dropSchema database schema = some c) :
    ∃ d, s.database? database = some d ∧
      c = { snapshot := s.withDatabase (d.withoutSchema schema) } := by
  obtain ⟨d, hd, h⟩ := Option.bind_eq_some_iff.1 h
  obtain ⟨content, -, h⟩ := Option.bind_eq_some_iff.1 h
  exact ⟨d, hd, (Option.some.inj h).symm⟩

theorem alterSchema_ok {change : SchemaChange} {c : Change}
    (h : s.alterSchema change = .ok (some c)) :
    ∃ d content d', s.database? change.database = some d ∧
      d.schema? change.schema = some content ∧
        (d.withObjects content change).reloadUnlessKnown change.schema change.changedNames =
          .ok d' ∧ c = { snapshot := s.withDatabase d' } := by
  rw [alterSchema] at h
  split at h
  · cases h
  · next d hd =>
    split at h
    · cases h
    · next content hs =>
      split at h
      · cases h
      · obtain ⟨d', hd', h⟩ := Except.bind_eq_ok h
        exact ⟨d, content, d', hd, hs, hd', (Option.some.inj (Except.ok.inj h)).symm⟩

theorem alterGlobalRules_ok {c : Change}
    (h : s.alterGlobalRules reg configs = .ok (some c)) :
    ∃ rules, reg.buildGlobal configs = .ok rules ∧
      c = { snapshot := s.withCatalog { s.catalog with globalRules := rules }
            releases := Change.releasesOf s.catalog.globalRules none } := by
  rw [alterGlobalRules] at h
  split at h
  · cases h
  · obtain ⟨rules, hrules, h⟩ := Except.bind_eq_ok h
    exact ⟨rules, hrules, (Option.some.inj (Except.ok.inj h)).symm⟩

theorem alterProperties_ok {values : NameMap String} {c : Change}
    (h : s.alterProperties values = .ok (some c)) :
    ∃ props, Properties.make values = .ok props ∧
      c = { snapshot := s.withCatalog { s.catalog with props } } := by
  obtain ⟨props, hprops, h⟩ := Except.bind_eq_ok h
  exact ⟨props, hprops, (Option.some.inj (Except.ok.inj h)).symm⟩

theorem changeCache_some {change : CacheChange} {c : Change} (h : s.changeCache change = some c) :
    ∃ rows, change.apply s.rows = some rows ∧ c = { snapshot := s.withRows rows } := by
  obtain ⟨rows, hrows, rfl⟩ := Option.map_eq_some_iff.1 h
  exact ⟨rows, hrows, rfl⟩

theorem alterRow_ok {database schema table : String} {payload : RowPayload} {c : Change}
    (h : s.alterRow database schema table payload = .ok (some c)) :
    ∃ row rows, row.key = payload.key ∧ s.rows.putRow database schema table row = some rows ∧
      c = { snapshot := s.withRows rows } := by
  rw [alterRow] at h
  split at h
  · obtain ⟨row, hrow, h⟩ := Except.bind_eq_ok h
    obtain ⟨rows, hrows, rfl⟩ := Option.map_eq_some_iff.1 (Except.ok.inj h)
    exact ⟨row, rows, Row.key_of_convert hrow, hrows, rfl⟩
  · cases h

end Snapshot

/-! ### Plans -/

namespace Mutation

open Snapshot

variable {reg : Registry} {s : Snapshot} {m : Mutation} {site t : Site} {c : Change}

private theorem switchPools_eq (reg : Registry) (s : Snapshot) (d : Database)
    (specs : NameMap PoolSpec) (mode : SwitchMode) (configs : List RuleConfig) :
    s.switchPools reg d specs mode configs =
      switching d.pools specs mode (fun sw => s.rebuildSwitched reg d sw configs)
        (Change.releasesOfRebuild s d) :=
  rfl

private theorem updates_alterRules (reg : Registry) (s : Snapshot) (database : String)
    (configs : List RuleConfig) : (s.alterRules reg database configs).Updates :=
  .bind (.ofExcept _) fun _ => .bind_writes (updates_rebuild _ _ _ _ _) fun _ => .pure _

/-- A switch of pools is planned as a reconfiguration. -/
private theorem planned_of_switchPools {database : String} {d : Database}
    (hm : m.reconfigures? = some database) (hs : s.InOrder) (hd : s.database? database = some d)
    {specs : NameMap PoolSpec} {mode : SwitchMode} {configs : List RuleConfig}
    (h : (s.switchPools reg d specs mode configs).run site = (.ok (some c), t)) :
    ∃ opened, m.Planned reg s opened c ∧ site.Opened t (Pools.handles opened) := by
  rw [switchPools_eq] at h
  obtain ⟨sw, u, next, hnext, hc, hopened, hbooks⟩ :=
    switching_ok (fun sw => updates_rebuildSwitched _ _ _ sw _) h
  obtain rfl := Option.some.inj hc
  obtain ⟨v, hrebuilt, -⟩ := rebuildSwitched_steps hnext
  obtain ⟨d', hd', hnext⟩ := rebuild_ok (hs.database hd) hrebuilt
  exact ⟨sw.opened, .reconfigure hm hd hd' hbooks hnext, hopened⟩

/-- **Every change that is planned** is one that the mutation may plan, and the pools that go with
it have been opened, and no others. -/
theorem planned_of_plan (hs : s.InOrder) (h : (m.plan reg s).run site = (.ok (some c), t)) :
    ∃ opened, m.Planned reg s opened c ∧ site.Opened t (Pools.handles opened) := by
  have hquiet (hc : m.Planned reg s ∅ c) (ht : site.Quiet t) :
      ∃ opened, m.Planned reg s opened c ∧ site.Opened t (Pools.handles opened) :=
    ⟨∅, hc, ht.opened⟩
  have hpure {r : Except Fault (Option Change)}
      (h : (SiteM.ofExcept r).run site = (.ok (some c), t)) :
      r = .ok (some c) ∧ site.Quiet t := by
    obtain ⟨hr, rfl⟩ := SiteM.run_ofExcept_ok.1 h
    exact ⟨hr, Course.refl site⟩
  have hsome {r : Option Change} (h : (pure r : SiteM (Option Change)).run site =
      (.ok (some c), t)) : r = some c ∧ site.Quiet t := by
    obtain ⟨hr, rfl⟩ := SiteM.run_pure_ok.1 h
    exact ⟨hr, Course.refl site⟩
  cases m with
  -- Mutations that read nothing but the snapshot.
  | addDatabase name =>
    obtain ⟨h, ht⟩ := hpure h
    obtain ⟨hnone, protocol, rfl⟩ := addDatabase_ok h
    exact hquiet (.addDatabase hnone) ht
  | dropDatabase name =>
    obtain ⟨h, ht⟩ := hsome h
    obtain ⟨d, hd, rfl⟩ := Option.map_eq_some_iff.1 h
    exact hquiet (.dropDatabase hd) ht
  | addSchema database schema =>
    obtain ⟨h, ht⟩ := hpure h
    obtain ⟨d, hd, hnone, rfl⟩ := addSchema_ok h
    exact hquiet (.revise rfl hd (.addSchema hnone)) ht
  | dropSchema database schema =>
    obtain ⟨h, ht⟩ := hsome h
    obtain ⟨d, hd, rfl⟩ := dropSchema_some h
    exact hquiet (.revise rfl hd .dropSchema) ht
  | alterSchema change =>
    obtain ⟨h, ht⟩ := hpure h
    obtain ⟨d, content, d', hd, hschema, hd', rfl⟩ := alterSchema_ok h
    exact hquiet (.revise rfl hd (.alterSchema hschema hd')) ht
  | alterGlobalRules configs =>
    obtain ⟨h, ht⟩ := hpure h
    obtain ⟨rules, hrules, rfl⟩ := alterGlobalRules_ok h
    exact hquiet (.alterGlobalRules hrules) ht
  | alterProperties values =>
    obtain ⟨h, ht⟩ := hpure h
    obtain ⟨props, hprops, rfl⟩ := alterProperties_ok h
    exact hquiet (.alterProperties hprops) ht
  | changeCache change =>
    obtain ⟨h, ht⟩ := hsome h
    obtain ⟨rows, hrows, rfl⟩ := changeCache_some h
    exact hquiet (.changeCache hrows) ht
  | alterRow database schema table payload =>
    obtain ⟨h, ht⟩ := hpure h
    obtain ⟨row, rows, hkey, hrows, rfl⟩ := alterRow_ok h
    exact hquiet (.alterRow hkey hrows) ht
  -- Mutations that ask the store and the storage engines, and open no pool.
  | alterRules database configs =>
    have hq := (updates_alterRules reg s database configs).quiet.of_run h
    obtain ⟨d, d', next, hd, hd', hnext, hc⟩ := alterRules_ok hs h
    obtain rfl := Option.some.inj hc
    exact hquiet (.reconfigure rfl hd hd' (.refl _) hnext) hq
  | reloadSchema database schema pool =>
    have hq := (updates_reloadSchema hs database schema pool).quiet.of_run h
    obtain ⟨d, d₁, d', hd, hd₁, hd', hc⟩ := reloadSchema_ok h
    obtain rfl := Option.some.inj hc
    exact hquiet (.revise rfl hd (.reloadSchema hd₁ hd')) hq
  | reloadTable database schema table pool =>
    have hq := (updates_reloadTable s database schema table pool).quiet.of_run h
    obtain ⟨d, found, d', hd, hfound, hd', rfl⟩ := reloadTable_ok h
    exact hquiet (.revise rfl hd (.reloadTable hfound hd')) hq
  -- Mutations that switch pools.
  | alterPools database specs =>
    obtain ⟨d, hd, h⟩ := run_findDatabase_ok h
    exact planned_of_switchPools rfl hs hd h
  | alterPoolsAndRules database specs configs =>
    obtain ⟨d, hd, h⟩ := run_findDatabase_ok h
    exact planned_of_switchPools rfl hs hd h
  | reloadDatabase database =>
    obtain ⟨d, hd, h⟩ := run_findDatabase_ok h
    obtain ⟨specs, s₁, hspecs, h⟩ := SiteM.run_bind_ok.1 h
    have hq := (quiet_readStore _ _).of_run hspecs
    obtain ⟨sw, u, next, hnext, hc, hopened, hbooks⟩ :=
      switching_ok (fun sw => updates_rebuildStored _ _ _ sw) h
    obtain rfl := Option.some.inj hc
    obtain ⟨d', rules, hd', hrules, rfl⟩ := rebuildStored_ok (hs.database hd) hnext
    exact ⟨sw.opened, .reload hd hd' hbooks hrules, Quiet.trans_opened hq hopened⟩

/-- A planned change has an effect on databases and pools. -/
theorem Planned.effect {opened : Pools} (h : m.Planned reg s opened c) (hs : s.InOrder) :
    m.Effect s opened c := by
  cases h with
  | addDatabase hnew => exact .addDatabase hnew
  | dropDatabase hd => exact .dropDatabase hd
  | revise hm hd hd' => exact .revise hm hd hd'
  | reconfigure hm hd hd' hbooks hnext =>
    exact .rebuild (rebuilds?_of_reconfigures? hm) hd hd' hbooks
      (withRebuilt_ok hs hd'.folded hnext).1
  | reload hd hd' hbooks hrules =>
    exact .rebuild rfl hd hd' hbooks (databases_make hs hd'.folded _ _)
  | alterGlobalRules hrules => exact .aside rfl rfl rfl
  | alterProperties hprops => exact .aside rfl rfl rfl
  | changeCache hrows => exact .aside rfl rfl rfl
  | alterRow hkey hrows => exact .aside rfl rfl rfl

/-- **Every planned mutation has an effect**, and has opened the pools of this effect alone. -/
theorem plan_effect (hs : s.InOrder) (h : (m.plan reg s).run site = (.ok (some c), t)) :
    ∃ opened, m.Effect s opened c ∧ site.Opened t (Pools.handles opened) := by
  obtain ⟨opened, hplanned, hopened⟩ := planned_of_plan hs h
  exact ⟨opened, hplanned.effect hs, hopened⟩

/-- **The actions that plans are made of.** Most plans read the snapshot alone. The others rebuild a
database, perhaps after a switch of its pools, or reload a part of it. What all of these have, every
plan has. -/
theorem plan_cases {P : SiteM (Option Change) → Prop}
    (hdirect : ∀ r, P (SiteM.ofExcept r))
    (hrules : ∀ {database} configs, m.rebuilds? = some database →
      P (s.alterRules reg database configs))
    (hswitch : ∀ {database} specs mode (configs : Database → List RuleConfig),
      m.rebuilds? = some database →
        P (SiteM.ofExcept (s.findDatabase database) >>= fun d =>
          s.switchPools reg d specs mode (configs d)))
    (hreload : ∀ {database}, m.rebuilds? = some database → P (s.reloadDatabase reg database))
    (hschema : ∀ {database} schema pool, m.revises? = some database →
      P (s.reloadSchema database schema pool))
    (htable : ∀ {database} schema table pool, m.revises? = some database →
      P (s.reloadTable database schema table pool)) :
    P (m.plan reg s) := by
  cases m with
  | alterRules database configs => exact hrules configs rfl
  | alterPools database specs => exact hswitch specs .replace (fun d => RuleSet.configs d.rules) rfl
  | alterPoolsAndRules database specs configs =>
    exact hswitch specs .overlay (fun _ => configs) rfl
  | reloadDatabase database => exact hreload rfl
  | reloadSchema database schema pool => exact hschema schema pool rfl
  | reloadTable database schema table pool => exact htable schema table pool rfl
  | dropDatabase name => exact hdirect (.ok (s.dropDatabase name))
  | dropSchema database schema => exact hdirect (.ok (s.dropSchema database schema))
  | changeCache change => exact hdirect (.ok (s.changeCache change))
  | _ => exact hdirect _

/-- A plan for nothing has opened and closed nothing. -/
theorem plan_quiet (hs : s.InOrder) (h : (m.plan reg s).run site = (.ok none, t)) :
    site.Quiet t := by
  revert h
  refine plan_cases (P := fun x => x.run site = (.ok none, t) → site.Quiet t)
    (fun r => (SiteM.Within.ofExcept r).of_run)
    (fun configs _ => (updates_alterRules reg s _ configs).quiet.of_run)
    (fun specs mode configs _ h => ?_) (fun _ h => ?_)
    (fun schema pool _ => (updates_reloadSchema hs _ schema pool).quiet.of_run)
    (fun schema table pool _ => (updates_reloadTable s _ schema table pool).quiet.of_run)
  -- A switch of pools plans a change.
  · obtain ⟨d, s₁, -, h⟩ := SiteM.run_bind_ok.1 h
    rw [switchPools_eq] at h
    obtain ⟨_, _, _, -, hr, -⟩ := switching_ok (fun sw => updates_rebuildSwitched _ _ _ sw _) h
    cases hr
  · obtain ⟨d, s₁, -, h⟩ := SiteM.run_bind_ok.1 h
    obtain ⟨specs, s₂, -, h⟩ := SiteM.run_bind_ok.1 h
    obtain ⟨_, _, _, -, hr, -⟩ := switching_ok (fun sw => updates_rebuildStored _ _ _ sw) h
    cases hr

/-- **A plan that fails** has closed every pool that it opened, and no other. -/
theorem plan_clean (hs : s.InOrder) : (m.plan reg s).Clean := by
  refine plan_cases (fun r => .of_quiet (.ofExcept r))
    (fun configs _ => .of_quiet (updates_alterRules reg s _ configs).quiet)
    (fun specs mode configs _ => .bind (.ofExcept _) fun d => ?_)
    (fun _ => .bind (.ofExcept _) fun d => .bind (quiet_readStore _ _) fun specs =>
      clean_switching fun sw => updates_rebuildStored _ _ _ sw)
    (fun schema pool _ => .of_quiet (updates_reloadSchema hs _ schema pool).quiet)
    (fun schema table pool _ => .of_quiet (updates_reloadTable s _ schema table pool).quiet)
  rw [switchPools_eq]
  exact clean_switching fun sw => updates_rebuildSwitched _ _ _ sw _

/-- **A plan that fails** at a store in memory leaves the store as it was. -/
theorem plan_atomic (hs : s.InOrder) : (m.plan reg s).Atomic := by
  refine plan_cases (fun r => .of_sparing (.ofExcept r))
    (fun configs _ => (updates_alterRules reg s _ configs).undone)
    (fun specs mode configs _ => .bind (.ofExcept _) fun d => ?_)
    (fun _ => .bind (.ofExcept _) fun d =>
      .bind ((reading_readStore _ _).mono fun _ _ h => h.sparing) fun specs =>
        atomic_switching fun sw => updates_rebuildStored _ _ _ sw)
    (fun schema pool _ => (updates_reloadSchema hs _ schema pool).undone)
    (fun schema table pool _ => (updates_reloadTable s _ schema table pool).undone)
  rw [switchPools_eq]
  exact atomic_switching fun sw => updates_rebuildSwitched _ _ _ sw _

end Mutation

end ProxyCatalog
