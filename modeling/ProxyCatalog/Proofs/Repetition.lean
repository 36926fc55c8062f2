import ProxyCatalog.Proofs.Equivalence
import ProxyCatalog.Proofs.Proper
import ProxyCatalog.Proofs.Rediscovery
import ProxyCatalog.Proofs.Standstill

/-!
# What is done twice

Rebuilds and reloads ask the storage engines, and bring the snapshot and the store to the answer.
Done again at once, with the same answer, they find everything as they would make it: pools are
neither opened nor retired, and the snapshot and the store stay exactly as they are. The answer has
to be unanimous, for it may be visited in another order the second time.

* `Site.Answered`: a question that was asked between two sites, and its answer.
* `Assembly.fromEngines_again`: the same database is assembled again although the store has been
  written since, because the views that were written are those of this very database.
* `SiteM.Rests`: a plan that only asks, and installs the snapshot that is there.
* `SiteM.Settles`: a way of planning that rests where it was just carried out. One lemma for each
  kind of mutation says so (`Snapshot.alterRules_settles` and so on), and `World.apply_again` puts
  them together.
-/

namespace ProxyCatalog

/-! ### Questions and answers -/

/-- The material **bare** of the routes of single tables, which a reload may change. -/
def Material.bare (q : Material) : Material :=
  { q with rules := RuleSet.bare q.rules }

namespace Site

variable {s t u : Site} {q : Material} {tables : Option (List String)} {answer : NameMap Schema}

/-- A question was **asked** on the way from one site to another. -/
def Asked (s t : Site) (q : Material) (tables : Option (List String)) : Prop :=
  ∃ es, t.journal = s.journal ++ es ∧ Event.asked (q.inquiry tables) ∈ es

theorem Asked.then_journal (h : s.Asked t q tables) (hu : ∃ es, u.journal = t.journal ++ es) :
    s.Asked u q tables := by
  obtain ⟨es, hes, hmem⟩ := h
  obtain ⟨fs, hfs⟩ := hu
  exact ⟨es ++ fs, by rw [hfs, hes, List.append_assoc], List.mem_append_left fs hmem⟩

/-- A question was **answered** on the way from one site to another: it was asked, and this is what
was found. -/
structure Answered (s t : Site) (q : Material) (tables : Option (List String))
    (answer : NameMap Schema) : Prop where
  found : s.findings q tables = .ok answer
  asked : s.Asked t q tables

namespace Answered

theorem of_discover (h : s.findings q tables = .ok answer) :
    s.Answered (s.record [.asked (q.inquiry tables)]) q tables answer :=
  ⟨h, _, rfl, List.mem_cons_self⟩

theorem then_steady (h : s.Answered t q tables answer) (hu : t.Steady u) :
    s.Answered u q tables answer :=
  ⟨h.found, h.asked.then_journal (hu.imp fun _ hl => hl.journal)⟩

theorem after_steady (hs : s.Steady t) (h : t.Answered u q tables answer) :
    s.Answered u q tables answer := by
  obtain ⟨es, hl⟩ := hs
  obtain ⟨fs, hfs, hmem⟩ := h.asked
  refine ⟨by rw [← hl.findings, h.found], es ++ fs, ?_, List.mem_append_right es hmem⟩
  rw [hfs, hl.journal, List.append_assoc]

end Answered

end Site

/-! ### Assembly -/

namespace Assembly

variable {reg : Registry} {name : String} {pools : Pools} {configs : List RuleConfig}
  {props : Properties} {s t s' : Site} {d : Database}

/-- The stored views of a database are what they were, or they have become its own. -/
def ViewsKept (name : String) (d : Database) (before after : Store) : Prop :=
  ∀ k content, d.schemas.get? k = some content → ∀ v,
    ((after.schema? name k).getD ∅).views.get? v = ((before.schema? name k).getD ∅).views.get? v ∨
      ((after.schema? name k).getD ∅).views.get? v = content.views.get? v

/-- The views that are put over what is found come to the same. -/
theorem engineSchemas_again {before after : Store} {protocol : Dialect}
    {answer : NameMap Schema} (hd : d.schemas = engineSchemas before name protocol answer)
    (h : ViewsKept name d before after) :
    engineSchemas after name protocol answer = engineSchemas before name protocol answer := by
  have hkept := h
  rw [ViewsKept, hd] at hkept
  ext1 k
  simp only [engineSchemas, NameMap.get?_mapValues] at hkept ⊢
  cases hk : (withDefault answer (protocol.defaultSchema name)).get? k with
  | none => rfl
  | some base =>
    refine congrArg some (Schema.putViews_stored fun v => ?_)
    exact hkept k (base.putViews (before.views name k)) (by rw [hk]; rfl) v

/-- The stored views follow a difference that is written. -/
theorem viewsKept_withDelta {d d' : Database} (hd : d.schemas.Folded) (hd' : d'.schemas.Folded)
    {before after : Store} (h : ∀ k, after.schema? name k =
      (before.withDelta name (.between d'.schemas d.schemas)).schema? name k) :
    ViewsKept name d' before after := by
  intro k content hk v
  have hfold : Text.lower k = k := hd' k (by rw [NameMap.contains, hk]; rfl)
  have hget : d'.schemas.get? (Text.lower k) = some content := by rw [hfold, hk]
  rw [h, (before.follows_withDelta hd' hd name hget).views v]
  split
  · exact .inl rfl
  · exact .inr rfl

/-- **The same database is assembled again** where the same question is answered alike and the
stored views are kept. -/
theorem fromEngines_again (h : (fromEngines reg name pools configs props).run s = (.ok d, t)) :
    ∃ q answer, q.database = name ∧ s.Answered t q none answer ∧
      ∀ s' : Site, s'.InMemory → s'.findings q none = .ok answer →
        ViewsKept name d s.store s'.store →
          ∃ t', (fromEngines reg name pools configs props).run s' = (.ok d, t') ∧
            s'.Reading t' := by
  obtain ⟨protocol, rules, answer, hprotocol, hrules, hanswer, rfl, hreload⟩ := fromEngines_ok h
  refine ⟨_, answer, rfl, .of_discover hanswer, fun s' hmemory hanswer' hkept => ?_⟩
  have hschemas : d.schemas = engineSchemas s.store name protocol answer := by
    obtain ⟨f, rfl⟩ := Database.reloadRoutes_rest hreload
    exact (folded_engineSchemas (Site.folded_findings hanswer) _ _ _).rekey_eq_self
  have hrun : ((fromEngines reg name pools configs props).run s').1 = .ok d := by
    rw [run_fromEngines hmemory, hprotocol, Except.ok_bind, hrules, Except.ok_bind, hanswer',
      Except.ok_bind, engineSchemas_again hschemas hkept, hreload]
  exact ⟨_, Prod.ext hrun rfl, reading_fromEngines _ _ _ _ _ s'⟩

/-- The order of configurations of different kinds makes no difference. -/
theorem fromEngines_sortByKind (reg : Registry) (name : String) (pools : Pools)
    (configs : List RuleConfig) (props : Properties) :
    fromEngines reg name pools (RuleConfig.sortByKind configs) props =
      fromEngines reg name pools configs props := by
  simp only [fromEngines, Registry.buildDatabase_sortByKind]

end Assembly

/-! ### Writes -/

/-- A write that leaves the store as it is, once questions were asked, is **done in vain**. -/
theorem SiteM.Writes.done_in_vain {x : SiteM Unit} (hx : x.Writes) {s t : Site}
    (hmemory : s.InMemory) (hwritable : s.writable = true) (hreading : s.Reading t)
    (hsame : ∀ u, x.run t = (.ok (), u) → u.store = t.store) :
    ∃ u, x.run t = (.ok (), u) ∧ s.Reading u := by
  obtain ⟨⟨⟩, u, hrun⟩ := hx.done t (hmemory.of_steady hreading.1.steady)
    (by rw [hreading.1.steady.writable, hwritable])
  exact ⟨u, hrun, Site.Course.trans hreading ⟨hx.quiet.of_run hrun, hsame u hrun⟩⟩

namespace Site

variable {s t s' : Site} {name : String}

/-- Rows that were persisted are persisted again in vain. -/
theorem persistRows_again {rows : DatabaseRows} (hr : NameMap.Folded rows)
    (h : (rows.entries.forM fun e => persistRows name e.1 e.2).run s = (.ok ⟨⟩, t))
    (hmemory : s'.InMemory) (hwritable : s'.writable = s.writable) (hstore : s'.store = t.store) :
    ∃ t', (rows.entries.forM fun e => persistRows name e.1 e.2).run s' = (.ok ⟨⟩, t') ∧
      s'.Reading t' := by
  obtain ⟨t', hrun⟩ := SiteM.Repeatable.forM_writeStore _ _ _ _ h hmemory hwritable
  refine ⟨t', hrun, (SiteM.Writes.forM _ fun _ => .writeStore _ _ _).quiet.of_run hrun, ?_⟩
  change t'.store = s'.store
  rw [persistRows_ok hrun, hstore, persistRows_ok h, Store.withRows_withRows s.store hr name]

/-- A schema that is stored as it is is compared in vain. -/
theorem compareAndPersist_in_vain {schema : String} {content : Schema} (hmemory : s.InMemory)
    (hwritable : s.writable = true) (hreading : s.Reading t)
    (hstored : s.store.schema? name schema = some content) :
    ∃ u, (compareAndPersist name schema content).run t = (.ok (), u) ∧ s.Reading u := by
  refine (SiteM.Writes.compareAndPersist _ _ _).done_in_vain hmemory hwritable hreading
    fun u hrun => ?_
  rw [compareAndPersist_ok hrun, show t.store = s.store from hreading.2]
  exact Store.withSchema_eq_self hstored

/-- Schemas that are stored as they are are compared in vain. -/
theorem compareAndPersist_again {schemas : NameMap Schema}
    (h : (schemas.entries.forM fun e => compareAndPersist name e.1 e.2).run s = (.ok ⟨⟩, t))
    (hmemory : s'.InMemory) (hwritable : s'.writable = s.writable)
    (hstored : ∀ k content, schemas.get? k = some content →
      s'.store.schema? name k = some content) :
    ∃ t', (schemas.entries.forM fun e => compareAndPersist name e.1 e.2).run s' = (.ok ⟨⟩, t') ∧
      s'.Reading t' := by
  obtain ⟨t', hrun⟩ := SiteM.Repeatable.forM _ (fun _ => .compareAndPersist _ _ _)
    (fun _ => .compareAndPersist _ _ _) h hmemory hwritable
  refine ⟨t', hrun, (SiteM.Writes.forM _ fun _ => .compareAndPersist _ _ _).quiet.of_run hrun, ?_⟩
  change t'.store = s'.store
  rw [forM_compareAndPersist_ok hrun, Store.withSchemas_eq_self hstored]

end Site

/-! ### Plans that rest -/

/-- A plan **rests** at a snapshot and a site. It succeeds and does nothing but ask, and what it
installs, if anything, is the snapshot that is there. -/
def SiteM.Rests (x : SiteM (Option Change)) (s : Snapshot) (site : Site) : Prop :=
  ∃ r t, x.run site = (.ok r, t) ∧ site.Reading t ∧
    ∀ c, r = some c → c.snapshot = s ∧ c.retired = ∅

/-- The snapshot that is installed once this is planned. -/
def Snapshot.after (s : Snapshot) (r : Option Change) : Snapshot :=
  r.elim s Change.snapshot

/-- A way of planning **settles** for a snapshot at a site. If it succeeds, then it has asked a
question, and it rests afterwards wherever the same question, but for the routes that it tells of,
is answered alike, and the store is as it was left. -/
def SiteM.Settles (plan : Snapshot → SiteM (Option Change)) (s : Snapshot) (site : Site) : Prop :=
  ∀ r t, (plan s).run site = (.ok r, t) →
    ∃ q q' tables answer, q'.bare = q.bare ∧ site.Answered t q tables answer ∧
      ∀ site' : Site, site'.InMemory → site'.writable = site.writable → site'.store = t.store →
        site'.findings q' tables = .ok answer → (plan (s.after r)).Rests (s.after r) site'

namespace Snapshot

variable {reg : Registry} {s next : Snapshot} {d d' : Database} {pools : Pools} {sw : Switch}
  {configs : List RuleConfig} {site t site' : Site} {database : String} {r : Option Change}

/-- A database is put where it is. -/
theorem databasesWith_eq_self {c : Catalog} (h : c.databases.get? d.name = some d) :
    c.databasesWith d = c.databases :=
  NameMap.insert_eq_self h

theorem withDatabase_eq_self (h : s.catalog.databases.get? d.name = some d) :
    s.withDatabase d = s := by
  rw [withDatabase, Catalog.withDatabase, databasesWith_eq_self h]
  rfl

/-- A snapshot that was made of others with a database put is made of itself with the same
database. -/
theorem withCatalog_make (hs : s.InOrder) (hd : Text.lower d.name = d.name) (rules : RuleSet)
    (props : Properties) (hnext : next =
      s.withCatalog (.make (s.catalog.databasesWith d) rules props)) :
    next.catalog.databases.get? d.name = some d ∧
      next.withCatalog (.make (next.catalog.databasesWith d) rules props) = next := by
  have hdatabases : next.catalog.databases = s.catalog.databasesWith d := by
    rw [hnext]
    exact databases_make hs hd rules props
  have hput : next.catalog.databases.get? d.name = some d := by
    rw [hdatabases]
    exact NameMap.get?_insert_self _ _ _
  refine ⟨hput, ?_⟩
  rw [databasesWith_eq_self hput, hdatabases, hnext]
  rfl

/-- A rebuilt database is installed once more as it is. -/
theorem withRebuilt_again (hs : s.InOrder) (hd : Text.lower d.name = d.name)
    (h : s.withRebuilt reg d = .ok next) :
    next.catalog.databases.get? d.name = some d ∧ next.withRebuilt reg d = .ok next := by
  obtain ⟨rules, hrules, h⟩ := Except.bind_eq_ok h
  obtain ⟨hput, hmake⟩ := withCatalog_make hs hd rules s.catalog.props (Except.ok.inj h).symm
  refine ⟨hput, ?_⟩
  have hglobal : next.catalog.globalRules = rules := by
    rw [← Except.ok.inj h]
    rfl
  have hprops : next.catalog.props = s.catalog.props := by
    rw [← Except.ok.inj h]
    rfl
  rw [withRebuilt, hglobal, Registry.buildGlobal_configs hrules, Except.ok_bind, hprops]
  exact congrArg Except.ok hmake

/-- What begins with finding a database rests if the rest does. -/
theorem rests_findDatabase {f : Database → SiteM (Option Change)}
    (hd : s.database? database = some d) (h : (f d).Rests s site) :
    (SiteM.ofExcept (s.findDatabase database) >>= f).Rests s site := by
  obtain ⟨r, t, hrun, hr⟩ := h
  exact ⟨r, t, (run_findDatabase hd f site).trans hrun, hr⟩

/-! ### Rebuilds -/

theorem rebuild_sortByKind (reg : Registry) (s : Snapshot) (d : Database) (pools : Pools)
    (configs : List RuleConfig) :
    s.rebuild reg d pools (RuleConfig.sortByKind configs) = s.rebuild reg d pools configs := by
  simp only [rebuild, Assembly.fromEngines_sortByKind]

theorem switchPools_sortByKind (reg : Registry) (s : Snapshot) (d : Database)
    (specs : NameMap PoolSpec) (mode : SwitchMode) (configs : List RuleConfig) :
    s.switchPools reg d specs mode (RuleConfig.sortByKind configs) =
      s.switchPools reg d specs mode configs := by
  simp only [switchPools, rebuildSwitched, rebuild_sortByKind]

/-- **A rebuild that was carried out** is carried out again in vain. -/
theorem rebuild_again (hs : s.InOrder) (hd : d.InOrder)
    (h : (s.rebuild reg d pools configs).run site = (.ok next, t)) :
    ∃ d' q answer, d'.Assembled d.name pools ∧
      RuleSet.configs d'.rules = RuleConfig.sortByKind configs ∧
        next.catalog.databases.get? d'.name = some d' ∧ site.Answered t q none answer ∧
          ∀ site' : Site, site'.InMemory → site'.findings q none = .ok answer →
            (∀ k, site'.store.schema? d.name k = t.store.schema? d.name k) →
              ∃ t', (next.rebuild reg d' pools configs).run site' = (.ok next, t') ∧
                site'.Reading t' := by
  obtain ⟨d', u, hbuilt, hnext, hdelta⟩ := rebuild_steps h
  have hassembled := Assembly.assembled_of_fromEngines hd.name hbuilt
  obtain ⟨hput, hagain⟩ := withRebuilt_again hs hassembled.folded hnext
  obtain ⟨q, answer, -, hanswered, hassemble⟩ := Assembly.fromEngines_again hbuilt
  have hquiet := (SiteM.Writes.persistDelta _ _).quiet.of_run hdelta
  refine ⟨d', q, answer, hassembled, Assembly.configs_of_fromEngines hbuilt, hput,
    hanswered.then_steady hquiet.steady, fun site' hmemory hanswer hstored => ?_⟩
  have hkept : Assembly.ViewsKept d.name d' site.store site'.store := by
    refine Assembly.viewsKept_withDelta hd.schemas hassembled.schemas fun k => ?_
    have hunwritten := ((Assembly.reading_fromEngines _ _ _ _ _).of_run hbuilt).2
    rw [hstored, Site.persistDelta_ok hdelta, hunwritten, hassembled.name_eq]
  obtain ⟨t', hassembled', hreading⟩ := hassemble site' hmemory hanswer hkept
  refine ⟨t', ?_, hreading⟩
  rw [rebuild, hassembled.name_eq, props_of_withRebuilt hnext, SiteM.run_bind_of_ok hassembled',
    hagain, DatabaseDelta.between_self]
  rfl

theorem alterRules_settles (hs : s.InOrder) (database : String) (configs : List RuleConfig) :
    SiteM.Settles (fun s => s.alterRules reg database configs) s site := by
  intro r t h
  obtain ⟨d, hd, h⟩ := run_findDatabase_ok h
  obtain ⟨next, s₁, hnext, h⟩ := SiteM.run_bind_ok.1 h
  obtain ⟨rfl, rfl⟩ := SiteM.run_pure_ok.1 h
  obtain ⟨d', q, answer, hassembled, -, hput, hanswered, hagain⟩ :=
    rebuild_again hs (hs.database hd) hnext
  refine ⟨q, q, none, answer, rfl, hanswered, fun site' hmemory _ hstore hanswer => ?_⟩
  obtain ⟨t', hrun, hreading⟩ := hagain site' hmemory hanswer fun k => by rw [hstore]
  have hd' : next.database? database = some d' := by
    rwa [hassembled.name_eq, hs.name_eq hd] at hput
  refine rests_findDatabase hd' ⟨_, t', SiteM.run_bind_ok.2 ⟨next, t', ?_, rfl⟩, hreading, ?_⟩
  · rw [hassembled.pools_eq]
    exact hrun
  · rintro c ⟨⟩
    exact ⟨rfl, rfl⟩

/-- **A switch of pools that was carried out** is carried out again in vain. -/
theorem switchPools_again (hs : s.InOrder) (hrows : s.rows.Proper) (hd : d.InOrder)
    {specs : NameMap PoolSpec} {mode : SwitchMode}
    (h : (s.switchPools reg d specs mode configs).run site = (.ok r, t)) :
    ∃ d' q answer, d'.name = d.name ∧ RuleSet.configs d'.rules = RuleConfig.sortByKind configs ∧
      (s.after r).catalog.databases.get? d'.name = some d' ∧ site.Answered t q none answer ∧
        ∀ site' : Site, site'.InMemory → site'.writable = site.writable →
          site'.store = t.store → site'.findings q none = .ok answer →
            ((s.after r).switchPools reg d' specs mode configs).Rests (s.after r) site' := by
  obtain ⟨sw, u, next, hopen, hbuilt, rfl⟩ := switchPools_run h
  obtain ⟨v, hrebuilt, hsaved⟩ := rebuildSwitched_steps hbuilt
  obtain ⟨d', q, answer, hassembled, hconfigs, hput, hanswered, hagain⟩ :=
    rebuild_again hs hd hrebuilt
  have hopened := (Site.sparing_openSwitch _ _ _).of_run hopen
  have hquiet := (SiteM.Writes.forM _ fun _ => .writeStore _ _ _).quiet.of_run hsaved
  refine ⟨d', q, answer, hassembled.name_eq, hconfigs, hput,
    (hanswered.then_steady hquiet.steady).after_steady hopened.1,
    fun site' hmemory hwritable hstore hanswer => ?_⟩
  -- The pools are those that were proposed, so the switch is one of no pools.
  have hdone : mode.specsAfter d'.pools.specs specs = d'.pools.specs := by
    rw [hassembled.pools_eq, Site.specs_of_openSwitch hopen, SwitchMode.specsAfter_specsAfter]
  obtain ⟨t', hrun, hreading⟩ := hagain site' hmemory hanswer fun k => by
    rw [hstore, Site.persistRows_ok hsaved]
    exact Store.schema?_withRows v.store d.name _ d.name k
  have hrebuilding := (updates_rebuild _ _ _ _ _).quiet.of_run hrebuilt
  have hwritable' : t'.writable = v.writable := by
    rw [hreading.1.steady.writable, hwritable,
      (Site.Course.trans hopened.1 hrebuilding.steady).writable]
  obtain ⟨t'', hrun', hreading'⟩ := Site.persistRows_again (hrows.folded_database? d.name) hsaved
    (hmemory.of_steady hreading.1.steady) hwritable' (hreading.2.trans hstore)
  -- The cached rows are those that were persisted.
  have hsame : next.rows.database? d'.name = s.rows.database? d.name := by
    rw [rows_of_rebuild hs hd hrebuilt, hassembled.name_eq]
  refine ⟨some { snapshot := next, releases := Change.releasesOfRebuild next d', retired := ∅ },
    t'', ?_, Site.Course.trans hreading hreading', ?_⟩
  · change (next.switchPools reg d' specs mode configs).run site' = _
    rw [switchPools, SiteM.run_bind_of_ok (Site.run_openSwitch_done hdone site')]
    refine SiteM.run_bind_ok.2 ⟨next, t'', Site.closingOnFault_ok.2 ?_, rfl⟩
    rw [rebuildSwitched, Switch.apply_nothing, hassembled.pools_eq, hsame, hassembled.name_eq]
    exact SiteM.run_bind_ok.2 ⟨next, t', hrun, SiteM.run_bind_ok.2 ⟨⟨⟩, t'', hrun', rfl⟩⟩
  · rintro c ⟨⟩
    exact ⟨rfl, rfl⟩

theorem alterPools_settles (hs : s.InOrder) (hrows : s.rows.Proper) (database : String)
    (specs : NameMap PoolSpec) :
    SiteM.Settles (fun s => s.alterPools reg database specs) s site := by
  intro r t h
  obtain ⟨d, hd, h⟩ := run_findDatabase_ok h
  obtain ⟨d', q, answer, hname, hconfigs, hput, hanswered, hagain⟩ :=
    switchPools_again hs hrows (hs.database hd) h
  refine ⟨q, q, none, answer, rfl, hanswered, fun site' hmemory hwritable hstore hanswer => ?_⟩
  have hd' : (s.after r).database? database = some d' := by
    rwa [hname, hs.name_eq hd] at hput
  refine rests_findDatabase hd' ?_
  rw [hconfigs, switchPools_sortByKind]
  exact hagain site' hmemory hwritable hstore hanswer

theorem alterPoolsAndRules_settles (hs : s.InOrder) (hrows : s.rows.Proper) (database : String)
    (specs : NameMap PoolSpec) (configs : List RuleConfig) :
    SiteM.Settles (fun s => s.alterPoolsAndRules reg database specs configs) s site := by
  intro r t h
  obtain ⟨d, hd, h⟩ := run_findDatabase_ok h
  obtain ⟨d', q, answer, hname, -, hput, hanswered, hagain⟩ :=
    switchPools_again hs hrows (hs.database hd) h
  refine ⟨q, q, none, answer, rfl, hanswered, fun site' hmemory hwritable hstore hanswer => ?_⟩
  have hd' : (s.after r).database? database = some d' := by
    rwa [hname, hs.name_eq hd] at hput
  exact rests_findDatabase hd' (hagain site' hmemory hwritable hstore hanswer)

/-! ### Reloads -/

/-- **A database that was reloaded** is reloaded again in vain: the store and the storage engines
agree with what is installed. -/
theorem rebuildStored_again (hs : s.InOrder) (hd : d.InOrder)
    (h : (s.rebuildStored reg d sw).run site = (.ok next, t)) :
    ∃ d' q answer, d'.Assembled d.name (sw.apply d.pools) ∧
      next.catalog.databases.get? d'.name = some d' ∧ site.Answered t q none answer ∧
        site.store.Rewritten d.name t.store ∧
          ∀ site' : Site, site'.InMemory → site'.writable = site.writable →
            site'.store = t.store → site'.findings q none = .ok answer →
              ∃ t', (next.rebuildStored reg d' ⟨∅, ∅⟩).run site' = (.ok next, t') ∧
                site'.Reading t' := by
  obtain ⟨d', rules, u, v, hbuilt, hrules, hnext, hdropped, hwritten, hstored⟩ :=
    rebuildStored_steps h
  have hassembled := Assembly.assembled_of_fromEngines hd.name hbuilt
  obtain ⟨hput, hmake⟩ := withCatalog_make hs hassembled.folded rules site.store.props hnext
  obtain ⟨q, answer, -, hanswered, hassemble⟩ := Assembly.fromEngines_again hbuilt
  have hread := (Assembly.reading_fromEngines _ _ _ _ _).of_run hbuilt
  have hquiet : u.Quiet t := Site.Course.trans
    ((SiteM.Writes.forM _ fun _ => .writeStore _ _ _).quiet.of_run hdropped)
    ((SiteM.Writes.forM _ fun _ => .compareAndPersist _ _ _).quiet.of_run hwritten)
  have hrest : site.store.Rewritten d.name t.store := by
    rw [hstored]
    exact (Store.kept_rewritten d.name site.store).withReloaded (.refl _ _) _ _
  have hschema (k : String) (content : Schema) (hk : d'.schemas.get? k = some content) :
      t.store.schema? d.name k = some content := by
    have hfold : Text.lower k = k := hassembled.schemas k (by rw [NameMap.contains, hk]; rfl)
    rw [hstored, Store.schema?_withReloaded _ hassembled.schemas hd.schemas, hfold, hk,
      Option.some_or]
  refine ⟨d', q, answer, hassembled, hput, hanswered.then_steady hquiet.steady, hrest,
    fun site' hmemory hwritable hstore hanswer => ?_⟩
  obtain ⟨t', hrun, hreading⟩ := hassemble site' hmemory hanswer fun k content hk v =>
    .inr (by rw [hstore, hschema k content hk, Option.getD_some])
  have hdropping := (SiteM.Writes.forM _ fun _ => .writeStore _ _ _).quiet.of_run hdropped
  have hwritable' : t'.writable = v.writable := by
    rw [hreading.1.steady.writable, hwritable,
      (Site.Course.trans hread.1 hdropping).steady.writable]
  obtain ⟨t'', hrun', hreading'⟩ := Site.compareAndPersist_again hwritten
    (hmemory.of_steady hreading.1.steady) hwritable' fun k content hk => by
      rw [show t'.store = site'.store from hreading.2, hstore, hschema k content hk]
  refine ⟨t'', ?_, Site.Course.trans hreading hreading'⟩
  -- The configuration is read as it was, and no schema is gone.
  refine SiteM.run_bind_ok.2 ⟨_, site', hmemory.run_readStore _ _, ?_⟩
  refine SiteM.run_bind_ok.2 ⟨_, site', hmemory.run_readStore _ _, ?_⟩
  refine SiteM.run_bind_ok.2 ⟨_, site', hmemory.run_readStore _ _, ?_⟩
  rw [hassembled.name_eq, Switch.apply_nothing, hassembled.pools_eq, hstore, hrest.rules,
    hrest.props, hrest.globalRules, hrules]
  refine SiteM.run_bind_ok.2 ⟨d', t', hrun, SiteM.run_bind_ok.2 ⟨rules, t', rfl, ?_⟩⟩
  rw [DatabaseDelta.between_self, hmake]
  exact SiteM.run_bind_ok.2 ⟨⟨⟩, t', rfl, SiteM.run_bind_ok.2 ⟨⟨⟩, t'', hrun', rfl⟩⟩

theorem reloadDatabase_settles (hs : s.InOrder) (database : String) :
    SiteM.Settles (fun s => s.reloadDatabase reg database) s site := by
  intro r t h
  obtain ⟨d, sw, u, next, hd, hopen, hnext, rfl⟩ := reloadDatabase_steps h
  obtain ⟨d', q, answer, hassembled, hput, hanswered, hrest, hagain⟩ :=
    rebuildStored_again hs (hs.database hd) hnext
  obtain ⟨hsteady, hunwritten⟩ := (Site.sparing_openSwitch _ _ _).of_run hopen
  refine ⟨q, q, none, answer, rfl, hanswered.after_steady hsteady,
    fun site' hmemory hwritable hstore hanswer => ?_⟩
  have hwritable' : site'.writable = u.writable := by rw [hsteady.writable, hwritable]
  obtain ⟨t', hrun, hreading⟩ := hagain site' hmemory hwritable' hstore hanswer
  have hd' : next.database? database = some d' := by
    rwa [hassembled.name_eq, hs.name_eq hd] at hput
  -- The stored pools are those that were put in place.
  have hdone : SwitchMode.replace.specsAfter d'.pools.specs (site'.store.node d'.name).pools =
      d'.pools.specs := by
    rw [hassembled.name_eq, hassembled.pools_eq, Site.specs_of_openSwitch hopen, hstore,
      hrest.pools, hunwritten]
    rfl
  refine rests_findDatabase hd' ⟨some { snapshot := next, retired := ∅ }, t', ?_, hreading, ?_⟩
  · refine SiteM.run_bind_ok.2 ⟨_, site', hmemory.run_readStore _ _, ?_⟩
    rw [SiteM.run_bind_of_ok (Site.run_openSwitch_done hdone site')]
    exact SiteM.run_bind_ok.2 ⟨next, t', Site.closingOnFault_ok.2 hrun, rfl⟩
  · rintro c ⟨⟩
    exact ⟨rfl, rfl⟩

/-- A revised database puts the same question, but for its routes. -/
theorem bare_of_revised (h : d.Revised d') (pools : Pools) (props : Properties) (schema : String) :
    Material.bare ⟨d'.name, d'.protocol, pools, d'.rules, props, schema⟩ =
      Material.bare ⟨d.name, d.protocol, pools, d.rules, props, schema⟩ := by
  obtain ⟨schemas, f, rfl⟩ := h.rest
  simp only [Material.bare, RuleSet.bare_mapRoutes]

/-- A revised database is found where it was put. -/
theorem database?_withDatabase_revised (hs : s.InOrder) (hd : s.database? database = some d)
    (h : d.Revised d') :
    (s.withDatabase d').database? database = some d' ∧
      (s.withDatabase d').withDatabase d' = s.withDatabase d' := by
  have hput : (s.withDatabase d').catalog.databases.get? d'.name = some d' :=
    NameMap.get?_insert_self _ _ _
  refine ⟨?_, withDatabase_eq_self hput⟩
  rw [h.name, hs.name_eq hd] at hput
  exact hput

/-- What is discovered of a schema where the storage engines answer. -/
theorem run_discoverSchema {schema : String} {tables : Option (List String)}
    {answer : NameMap Schema} (hanswer : site.findings ⟨d.name, d.protocol, pools, d.rules,
      s.catalog.props, Text.lower schema⟩ tables = .ok answer) :
    ∃ t, (s.discoverSchema d pools schema tables).run site =
        (.ok (answer.get? (Text.lower schema)), t) ∧ site.Reading t := by
  refine ⟨_, ?_, reading_discoverSchema s d pools schema tables site⟩
  rw [discoverSchema, SiteM.run_bind, Site.run_discover, hanswer]
  rfl

/-- A reload of a schema rests where it finds what is installed and stored. -/
theorem reloadSchema_rests {schema pool : String} {answer : NameMap Schema}
    (hd : s.database? database = some d) (hput : s.withDatabase d = s)
    (hpools : d.pools.subset? pool = some pools) (hloaded : d.Loaded) (hmemory : site.InMemory)
    (hwritable : site.writable = true) (hanswer : site.findings ⟨d.name, d.protocol, pools,
      d.rules, s.catalog.props, Text.lower schema⟩ none = .ok answer)
    (hcontent :
      let found := answer.get? (Text.lower schema)
      let content := (found.getD ∅).putViews (site.store.views d.name schema)
      if content.tables.isEmpty then
        d.schema? schema = none ∧ site.store.dropSchema d.name schema = site.store
      else d.schema? schema = some content ∧ site.store.schema? d.name schema = some content) :
    (s.reloadSchema database schema pool).Rests s site := by
  obtain ⟨t, hfound, hreading⟩ := run_discoverSchema hanswer
  have hstore : t.store = site.store := hreading.2
  have hmemory' : t.InMemory := hmemory.of_steady hreading.1.steady
  have hpool : (SiteM.ofExcept (findPool d pool)).run site = (.ok pools, site) := by
    rw [findPool_eq_ok.2 hpools, SiteM.run_ofExcept]
  have hviews : (Site.loadViews d.name schema).run t =
      (.ok (site.store.views d.name schema), t) := by
    rw [Site.loadViews, hmemory'.run_readStore, hstore]
  have hrest (u : Site) : (do
      let changed ← pure d
      let changed ← SiteM.ofExcept changed.reloadRoutes
      return some ({ snapshot := s.withDatabase changed } : Change) :
        SiteM (Option Change)).run u = (.ok (some { snapshot := s }), u) := by
    rw [SiteM.run_bind_of_ok (SiteM.run_pure d u), hloaded.reloadRoutes_eq,
      SiteM.run_bind_of_ok (SiteM.run_ofExcept (.ok d) u), hput, SiteM.run_pure]
  refine rests_findDatabase hd ⟨some { snapshot := s }, ?_⟩
  rw [SiteM.run_bind_of_ok hpool, SiteM.run_bind_of_ok hfound, SiteM.run_bind_of_ok hviews]
  dsimp only at hcontent ⊢
  split at hcontent
  · next hempty =>
    obtain ⟨hnone, hdropped⟩ := hcontent
    obtain ⟨u, hrun, hreading'⟩ : ∃ u, (Site.dropSchema d.name schema).run t = (.ok (), u) ∧
        site.Reading u := by
      refine SiteM.Writes.done_in_vain (.writeStore _ _ _) hmemory hwritable hreading
        fun u hrun => ?_
      rw [Site.writeStore_ok hrun, hstore]
      exact hdropped
    rw [if_pos hempty, SiteM.run_bind_of_ok hrun, Database.withoutSchema_eq_self hnone, hrest u]
    exact ⟨u, rfl, hreading', by rintro c ⟨⟩; exact ⟨rfl, rfl⟩⟩
  · next hempty =>
    obtain ⟨hsome, hstored⟩ := hcontent
    obtain ⟨u, hrun, hreading'⟩ := Site.compareAndPersist_in_vain hmemory hwritable hreading hstored
    rw [if_neg hempty, SiteM.run_bind_of_ok hrun, Database.withSchema_eq_self hsome, hrest u]
    exact ⟨u, rfl, hreading', by rintro c ⟨⟩; exact ⟨rfl, rfl⟩⟩

theorem reloadSchema_settles (hs : s.InOrder) (database schema pool : String) :
    SiteM.Settles (fun s => s.reloadSchema database schema pool) s site := by
  intro r t h
  obtain ⟨d, pools, found, d', u, hd, hpools, hfound, hwritable, hquiet, rfl, hcontent⟩ :=
    reloadSchema_run h
  obtain ⟨answer, hanswer, rfl, rfl⟩ := discoverSchema_ok hfound
  dsimp only at hcontent
  have hrevised : d.Revised d' := by
    split at hcontent
    · exact (Database.revised_withoutSchema d schema).trans
        (Database.revised_reloadRoutes hcontent.1)
    · exact (Database.revised_withSchema d schema _).trans
        (Database.revised_reloadRoutes hcontent.1)
  have hloaded : d'.Loaded := by
    split at hcontent <;> exact Database.loaded_of_reloadRoutes hcontent.1
  obtain ⟨hd', hput⟩ := database?_withDatabase_revised hs hd hrevised
  refine ⟨_, ⟨d'.name, d'.protocol, pools, d'.rules, s.catalog.props, Text.lower schema⟩, none,
    answer, bare_of_revised hrevised _ _ _,
    (Site.Answered.of_discover hanswer).then_steady hquiet.steady,
    fun site' hmemory hwritable' hstore hanswer' => ?_⟩
  refine reloadSchema_rests hd' hput (by rw [hrevised.pools, hpools]) hloaded hmemory
    (hwritable'.trans hwritable) hanswer' ?_
  dsimp only
  rw [hstore, hrevised.name]
  split at hcontent
  · next hempty =>
    obtain ⟨hreload, hstored⟩ := hcontent
    -- Views alone do not keep a schema.
    rw [Schema.tables_putViews] at hempty ⊢
    rw [if_pos hempty, hstored, Store.dropSchema_dropSchema,
      Database.schema?_of_reloadRoutes hreload, Database.schema?_withoutSchema, if_pos rfl]
    exact ⟨rfl, rfl⟩
  · next hempty =>
    obtain ⟨hreload, hstored⟩ := hcontent
    have hschema := site.store.schema?_withSchema d.name schema
      (((answer.get? (Text.lower schema)).getD ∅).putViews
        (site.store.views d.name schema)) d.name schema
    rw [if_pos ⟨rfl, rfl⟩, ← hstored] at hschema
    have hsame : ((answer.get? (Text.lower schema)).getD ∅).putViews
        (t.store.views d.name schema) = ((answer.get?
          (Text.lower schema)).getD ∅).putViews (site.store.views d.name schema) := by
      rw [Store.views, Store.views]
      exact Schema.putViews_stored fun k => .inr (by rw [hschema]; rfl)
    rw [hsame, if_neg hempty, Database.schema?_of_reloadRoutes hreload, Database.schema?_withSchema,
      if_pos rfl]
    exact ⟨rfl, hschema⟩

/-- **A table is put or taken out once.** -/
theorem withFoundTable_again {schema table : String} {found : Option Table}
    (h : withFoundTable d schema table found = .ok (some d')) :
    withFoundTable d' schema table found = .ok (some d') := by
  rcases Database.withFoundTable_eq_ok h with ⟨t, rfl, hd'⟩ | ⟨content, rfl, -, rfl⟩
  · have hschema : d'.schema? schema = some (((d.schema? schema).getD ∅).putTable t) := by
      rw [Database.schema?, (Database.reloadUnlessKnown_eq_ok hd').1]
      exact NameMap.get?_insert_self _ _ _
    rw [withFoundTable, hschema, Option.getD_some,
      Schema.putTable_eq_self (NameMap.get?_insert_self _ _ _),
      Database.withSchema_eq_self hschema, Database.reloadUnlessKnown_idem hd']
    rfl
  · have hschema : ((d.withSchema schema (content.removeTable table)).forgetTable schema
        table).schema? schema = some (content.removeTable table) :=
      NameMap.get?_insert_self _ _ _
    unfold withFoundTable
    rw [hschema]
    dsimp only
    rw [Schema.removeTable_removeTable, Database.withSchema_eq_self hschema,
      Database.forgetTable_forgetTable]

/-- A reload of a table rests where there is nothing to do, or the schema is stored as it is
installed. -/
theorem reloadTable_rests {schema table : String} {pool : Option String}
    {answer : NameMap Schema} (hd : s.database? database = some d)
    (hpools : pool.elim (some d.pools) d.pools.subset? = some pools) (hmemory : site.InMemory)
    (hanswer : site.findings ⟨d.name, d.protocol, pools, d.rules, s.catalog.props,
      Text.lower schema⟩ (some [table]) = .ok answer)
    (hfound :
      let found := (answer.get? (Text.lower schema)).bind (·.table? table)
      withFoundTable d schema table found = .ok none ∨
        withFoundTable d schema table found = .ok (some d) ∧ s.withDatabase d = s ∧
          ∀ content, d.schema? schema = some content →
            site.writable = true ∧ site.store.schema? d.name schema = some content) :
    (s.reloadTable database schema table pool).Rests s site := by
  obtain ⟨t, hdiscover, hreading⟩ := run_discoverSchema hanswer
  have hthrough : (s.reloadTableThrough d pools schema table).Rests s site := by
    rcases hfound with hnone | ⟨hsome, hput, hcontent⟩
    · refine ⟨none, t, ?_, hreading, fun _ h => by cases h⟩
      rw [reloadTableThrough, SiteM.run_bind_of_ok hdiscover, hnone]
      rfl
    · refine ⟨some { snapshot := s }, ?_⟩
      rw [reloadTableThrough, SiteM.run_bind_of_ok hdiscover, hsome,
        SiteM.run_bind_of_ok (SiteM.run_ofExcept (.ok (some d)) t)]
      dsimp only
      rw [hput]
      cases hschema : d.schema? schema with
      | none => exact ⟨t, rfl, hreading, by rintro c ⟨⟩; exact ⟨rfl, rfl⟩⟩
      | some content =>
        obtain ⟨hwritable, hstored⟩ := hcontent content hschema
        obtain ⟨u, hrun, hreading'⟩ :=
          Site.compareAndPersist_in_vain hmemory hwritable hreading hstored
        refine ⟨u, SiteM.run_bind_ok.2 ⟨⟨⟩, u, hrun, rfl⟩, hreading', ?_⟩
        rintro c ⟨⟩
        exact ⟨rfl, rfl⟩
  refine rests_findDatabase hd ?_
  cases pool with
  | none =>
    obtain rfl := Option.some.inj hpools
    exact hthrough
  | some name =>
    obtain ⟨r, u, hrun, hr⟩ := hthrough
    exact ⟨r, u, SiteM.run_bind_ok.2
      ⟨pools, site, by rw [findPool_eq_ok.2 hpools, SiteM.run_ofExcept], hrun⟩, hr⟩

theorem reloadTable_settles (hs : s.InOrder) (database schema table : String)
    (pool : Option String) :
    SiteM.Settles (fun s => s.reloadTable database schema table pool) s site := by
  intro r t h
  obtain ⟨d, pools, hd, hpools, h⟩ := reloadTable_run h
  obtain ⟨found, u, changed, hdiscover, hquiet, hchanged, hr⟩ := reloadTableThrough_run h
  obtain ⟨answer, hanswer, rfl, rfl⟩ := discoverSchema_ok hdiscover
  have hanswered := (Site.Answered.of_discover hanswer).then_steady hquiet.steady
  cases changed with
  | none =>
    obtain ⟨rfl, -⟩ := hr
    exact ⟨_, _, _, answer, rfl, hanswered, fun site' hmemory _ _ hanswer' =>
      reloadTable_rests hd hpools hmemory hanswer' (.inl hchanged)⟩
  | some d' =>
    obtain ⟨rfl, hwritable, hstored⟩ := hr
    have hrevision : Mutation.Revision d (.reloadTable database schema table pool) d' :=
      .reloadTable (fun _ => named_of_found) hchanged
    obtain ⟨hd', hput⟩ := database?_withDatabase_revised hs hd hrevision.revised
    refine ⟨_, ⟨d'.name, d'.protocol, pools, d'.rules, s.catalog.props, Text.lower schema⟩, _,
      answer, bare_of_revised hrevision.revised _ _ _, hanswered,
      fun site' hmemory hwritable' hstore hanswer' => ?_⟩
    refine reloadTable_rests hd' (by rw [hrevision.revised.pools, hpools]) hmemory hanswer'
      (.inr ⟨withFoundTable_again hchanged, hput, fun content hcontent => ?_⟩)
    rw [hcontent] at hwritable hstored
    refine ⟨hwritable'.trans (hwritable rfl), ?_⟩
    rw [hstore, hstored]
    exact (site.store.schema?_withSchema d'.name schema content d'.name schema).trans
      (if_pos ⟨rfl, rfl⟩)

end Snapshot

/-! ### Mutations -/

namespace Mutation

/-- The mutations that **ask** the storage engines: those that rebuild a database, and those that
reload a schema or a table. -/
def asks : Mutation → Bool
  | alterRules .. => true
  | alterPools .. => true
  | alterPoolsAndRules .. => true
  | reloadDatabase _ => true
  | reloadSchema .. => true
  | reloadTable .. => true
  | _ => false

/-- **Every plan that asks settles.** -/
theorem plan_settles {m : Mutation} (hm : m.asks = true) {reg : Registry} {s : Snapshot}
    (hs : s.InOrder) (hrows : s.rows.Proper) (site : Site) :
    SiteM.Settles (fun s => m.plan reg s) s site := by
  cases m with
  | alterRules database configs => exact Snapshot.alterRules_settles hs database configs
  | alterPools database specs => exact Snapshot.alterPools_settles hs hrows database specs
  | alterPoolsAndRules database specs configs =>
    exact Snapshot.alterPoolsAndRules_settles hs hrows database specs configs
  | reloadDatabase database => exact Snapshot.reloadDatabase_settles hs database
  | reloadSchema database schema pool => exact Snapshot.reloadSchema_settles hs database schema pool
  | reloadTable database schema table pool =>
    exact Snapshot.reloadTable_settles hs database schema table pool
  | _ => cases hm

end Mutation

namespace World

variable {w w' : World} {m : Mutation} {o : Outcome}

/-- A mutation whose plan rests is carried out in vain. -/
theorem apply_of_rests
    (h : (m.plan w.proxy.registry w.proxy.snapshot).Rests w.proxy.snapshot w.site) :
    ∃ o w', w.apply m = (.ok o, w') ∧ w'.proxy = w.proxy ∧ w'.site.store = w.site.store ∧
      w'.site.created = w.site.created ∧ w'.site.retired = w.site.retired := by
  obtain ⟨r, t, hplan, ⟨hquiet, hstore⟩, hr⟩ := h
  cases r with
  | none =>
    refine ⟨.unchanged, { w with site := t }, ?_, rfl, hstore, hquiet.created, hquiet.retired⟩
    rw [apply, hplan]
  | some c =>
    obtain ⟨hsnapshot, hretired⟩ := hr c rfl
    refine ⟨.installed, ({ w with site := t }.install c.snapshot).followUp c, ?_, ?_, ?_, ?_, ?_⟩
    · rw [apply, hplan]
    · rw [(followUp_rest _ c).1, hsnapshot]
      rfl
    · rw [(followUp_rest _ c).2]
      exact hstore
    · rw [(followUp_nothing _ hretired).1]
      exact hquiet.created
    · rw [(followUp_nothing _ hretired).2]
      exact hquiet.retired

/-- What follows an installation is recorded after all that was before. -/
theorem journal_followUp (w : World) (c : Change) :
    ∃ es, (w.followUp c).site.journal = w.site.journal ++ es := by
  rw [followUp_eq]
  dsimp only
  cases w.proxy.settings.closeDelay? with
  | none => exact ⟨_, List.append_assoc _ _ _⟩
  | some ms => exact ⟨_, rfl⟩

/-- **Rebuilds and reloads are idempotent** where the answers are unanimous. Where the store is in
memory, such a mutation that succeeds has asked the storage engines a question. If the report is
unanimous, and the mutation is applied again at once and the engines report the same to its
question, which has the same words but for the routes of the rules, then it succeeds again, in
whatever order the report is visited this time. It leaves the proxy with all that is installed and
the contents of the store exactly as the first run left them, and no pool is opened or retired. -/
theorem apply_again (hw : w.Reachable) (hmemory : w.site.InMemory) (hm : m.asks = true)
    (h : w.apply m = (.ok o, w')) :
    ∃ q q' tables reported, q'.bare = q.bare ∧ w.site.discovery q tables = .ok reported ∧
      w.site.Asked w'.site q tables ∧
      (Schema.Unanimous reported → ∀ (f : Discovery) (v : Visiting), f q' tables = .ok reported →
        ∃ o' w'', (w'.move (.change (.discovery f))).applyVisiting v m = (.ok o', w'') ∧
          w''.proxy = w'.proxy ∧ w''.site.store = w'.site.store ∧
            w''.site.created = w'.site.created ∧ w''.site.retired = w'.site.retired) := by
  obtain ⟨r, t, hplan, hproxy, hstore⟩ := planned_of_apply h
  obtain ⟨q, q', tables, answer, hbare, hanswered, hrests⟩ :=
    Mutation.plan_settles hm hw.inOrder hw.proper_rows w.site r t hplan
  obtain ⟨reported, hreported, hmerged⟩ := Site.findings_eq_ok.1 hanswered.found
  have hjournal : ∃ es, w'.site.journal = t.journal ++ es := by
    obtain ⟨r', t', hplan', hr⟩ := apply_ok h
    obtain ⟨hr', rfl⟩ := Prod.mk.inj (hplan.symm.trans hplan')
    obtain rfl := Except.ok.inj hr'
    cases r with
    | none =>
      obtain ⟨-, rfl⟩ := hr
      exact ⟨[], (List.append_nil _).symm⟩
    | some c =>
      obtain ⟨-, rfl⟩ := hr
      exact journal_followUp _ c
  obtain ⟨hwritable, hfailing, -⟩ := hw.surroundings_apply m
  rw [h] at hwritable hfailing
  refine ⟨q, q', tables, reported, hbare, hreported, hanswered.asked.then_journal hjournal,
    fun hunanimous f v hf => ?_⟩
  have hinstalled : w'.proxy.snapshot = w.proxy.snapshot.after r := by
    rw [hproxy]
    cases r <;> rfl
  have hregistry : w'.proxy.registry = w.proxy.registry := by
    rw [hproxy]
    cases r <;> rfl
  let again : World := (w'.move (.change (.discovery f))).move (.change (.visiting v))
  -- The same is found whatever the order of visiting it.
  have hfound : again.site.findings q' tables = .ok answer := by
    refine Site.findings_eq_ok.2 ⟨reported, hf, ?_⟩
    rw [← hmerged, show q'.database = q.database from (Material.mk.inj hbare).1]
    exact v.fold_eq_fold hunanimous w.site.visiting q.database
  refine apply_of_rests (w := again) ?_
  change (m.plan w'.proxy.registry w'.proxy.snapshot).Rests w'.proxy.snapshot _
  rw [hinstalled, hregistry]
  exact hrests _ (fun access => (congrFun hfailing access).trans (hmemory access)) hwritable hstore
    hfound

/-! ### Pools and rules given twice -/

/-- What the storage engines report, under two spellings. -/
private def repeatedReport : NameMap Schema :=
  .ofList [("FOO_DB", .ofLists [⟨"t_order", [], [], []⟩, ⟨"t_item", [], [], []⟩] []),
    ("foo_db", .ofLists [⟨"t_item", [], [], []⟩] [])]

/-- The small world, with storage engines that report this, and with a cached row table. -/
private def beforeRepeated : World :=
  Sample.world.after
    [.mutate (.changeCache (.addSchema "foo_db" "foo_db")),
      .change (.discovery fun _ _ => .ok repeatedReport)]

/-- One pool gets other properties and one is new. -/
private def repeatedChange : Mutation :=
  .alterPoolsAndRules "Foo_DB"
    (.ofList [("ds_0", ⟨"changed", ∅⟩), ("ds_1", ⟨"", ∅⟩)]) [.single ⟨["ds_1.t_item"], none⟩]

/-- **A switch of pools that is repeated** opens and retires nothing the second time. -/
theorem repeated_switch_rests :
    ∃ w' o' w'', beforeRepeated.apply repeatedChange = (.ok .installed, w') ∧
      (w'.move (.change (.discovery fun _ _ => .ok repeatedReport))).applyVisiting .backwards
          repeatedChange = (.ok o', w'') ∧
        w''.proxy = w'.proxy ∧ w''.site.store = w'.site.store ∧
          w''.site.created = w'.site.created ∧ w''.site.retired = w'.site.retired := by
  have happly : beforeRepeated.apply repeatedChange = (.ok .installed, _) :=
    Except.run_eq_ok (by decide +kernel)
  obtain ⟨q, q', tables, reported, -, hreported, -, hagain⟩ :=
    apply_again (Sample.started_world.reachable.after _) (fun _ => rfl) rfl happly
  obtain rfl : repeatedReport = reported := Except.ok.inj hreported
  obtain ⟨o', w'', hsecond⟩ :=
    hagain (by decide +kernel) (fun _ _ => .ok repeatedReport) .backwards rfl
  exact ⟨_, o', w'', happly, hsecond⟩

/-- **Where two spellings are reported that differ**, a mutation that is applied again to the same
report may install another definition, and store it. -/
theorem repetition_told :
    let m := Mutation.alterRules "foo_db" []
    let w' := (Sample.disputed.applyVisiting .byName m).2
    Sample.disputed.Reachable ∧ Sample.disputed.site.InMemory ∧ m.asks = true ∧
      (Sample.disputed.applyVisiting .byName m).1 = .ok .installed ∧
        (w'.applyVisiting .backwards m).2.proxy.snapshot ≠ w'.proxy.snapshot ∧
          (w'.applyVisiting .backwards m).2.site.store ≠ w'.site.store :=
  ⟨Sample.reachable_disputed, fun _ => rfl, rfl, Except.toOption_eq_some.1 (by decide +kernel),
    by decide +kernel, by decide +kernel⟩

end World

end ProxyCatalog
