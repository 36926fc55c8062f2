import ProxyCatalog.Proofs.Reconfiguration
import ProxyCatalog.Proofs.Switching

/-!
# What a reload of a database repairs

The snapshot and the store may come to disagree about a database, through objects that are put by
name and through whatever is done to the store behind the back of the proxy. A reload closes the
gap from both sides. It takes pools, rules and properties from the store, the schemas from the
storage engines, and makes the store hold what it installs.

* `Store.Repaired`: the store holds the installed schemas as they are, and no schema that was
  installed before and is no longer. All that it held besides is as it was.
* `World.store_repaired`: so it is after every reload that succeeds, and what is installed is
  configured as the store says.
-/

namespace ProxyCatalog

/-! ### Repaired stores -/

/-- The store `t` is `s` **repaired** after the database `d` was replaced by `d'`. -/
structure Store.Repaired (database : String) (d d' : Database) (s t : Store) : Prop where
  /-- Installed schemas are stored as they are, those without objects included. -/
  installed : ∀ schema content, d'.schema? schema = some content →
    t.schema? database schema = some content
  /-- Schemas that are installed no longer are not stored. -/
  dropped : ∀ schema, (d.schema? schema).isSome → d'.schema? schema = none →
    t.schema? database schema = none
  /-- Schemas that neither version has are as they were. -/
  untouched : ∀ schema, d.schema? schema = none → d'.schema? schema = none →
    t.schema? database schema = s.schema? database schema
  /-- Nothing but the schemas of this database is written. -/
  rest : s.Rewritten database t

/-- A reload repairs a store, whatever this held. -/
theorem Store.repaired_withReloaded (s : Store) {database : String} {d d' : Database}
    (hd : d.schemas.Folded) (hd' : d'.schemas.Folded) :
    s.Repaired database d d' (s.withReloaded database d'.schemas d.schemas) where
  installed schema content h := by
    rw [Database.schema?] at h
    rw [schema?_withReloaded s hd' hd, h, Option.some_or]
  dropped schema hold hnew := by
    rw [Database.schema?] at hnew
    have hcontains : d.schemas.contains (Text.lower schema) = true := hold
    rw [schema?_withReloaded s hd' hd, hnew, Option.none_or, if_pos hcontains]
  untouched schema hold hnew := by
    rw [Database.schema?] at hold hnew
    have hcontains : ¬ d.schemas.contains (Text.lower schema) = true := by
      rw [NameMap.contains, hold]
      exact Bool.false_ne_true
    rw [schema?_withReloaded s hd' hd, hnew, Option.none_or, if_neg hcontains]
  rest := (kept_rewritten database s).withReloaded (.refl database s) _ _

/-- The spelling of the database makes no difference. -/
theorem Store.Repaired.congr {s t : Store} {x y : String} {d d' : Database}
    (h : s.Repaired x d d' t) (hxy : Text.lower x = Text.lower y) : s.Repaired y d d' t := by
  have hschema (r : Store) (schema : String) : r.schema? y schema = r.schema? x schema :=
    r.schema?_congr hxy.symm rfl
  refine ⟨?_, ?_, ?_, h.rest.congr hxy⟩
  · intro schema content hnew
    rw [hschema, h.installed schema content hnew]
  · intro schema hold hnew
    rw [hschema, h.dropped schema hold hnew]
  · intro schema hold hnew
    rw [hschema, hschema, h.untouched schema hold hnew]

/-- A snapshot **follows the configuration** in the store, about one database and altogether. -/
structure Snapshot.Configured (s : Snapshot) (d : Database) (store : Store) : Prop where
  props : s.catalog.props = store.props
  pools : d.pools.specs = (store.node d.name).pools
  rules : RuleConfig.StablySorted (store.node d.name).rules (RuleSet.configs d.rules)
  globalRules :
    RuleConfig.StablySorted store.globalRules (RuleSet.configs s.catalog.globalRules)

/-! ### Reloads -/

namespace Mutation.DatabaseReload

variable {reg : Registry} {s : Snapshot} {d d' : Database} {site t : Site} {c : Change}

theorem assembled (h : DatabaseReload reg s d d' site t c) (hd : d.InOrder) :
    ∃ pools, d'.Assembled d.name pools ∧ pools.specs = (site.store.node d.name).pools := by
  obtain ⟨sw, u, v, hopen, hbuilt⟩ := h.built
  exact ⟨_, Assembly.assembled_of_fromEngines hd.name hbuilt, Site.specs_of_openSwitch hopen⟩

theorem repaired (h : DatabaseReload reg s d d' site t c) (hd : d.InOrder) :
    site.store.Repaired d.name d d' t.store := by
  obtain ⟨pools, hd', -⟩ := h.assembled hd
  rw [h.store]
  exact Store.repaired_withReloaded _ hd.schemas hd'.schemas

theorem configured (h : DatabaseReload reg s d d' site t c) (hd : d.InOrder) :
    c.snapshot.Configured d' t.store := by
  obtain ⟨pools, hd', hspecs⟩ := h.assembled hd
  obtain ⟨sw, u, v, -, hbuilt⟩ := h.built
  obtain ⟨rules, hrules, hsnapshot⟩ := h.installed
  -- The configuration was read before the store was written to, which left it alone.
  have hrest := (h.repaired hd).rest
  refine ⟨?_, ?_, ?_, ?_⟩
  · rw [hsnapshot, hrest.props]
    rfl
  · rw [hd'.name_eq, hd'.pools_eq, hspecs, hrest.pools]
  · rw [hd'.name_eq, hrest.rules, Assembly.configs_of_fromEngines hbuilt]
    exact RuleConfig.stablySorted_sortByKind _
  · have hconfigs : RuleSet.configs c.snapshot.catalog.globalRules =
        RuleConfig.sortByKind site.store.globalRules := by
      rw [hsnapshot]
      exact Registry.configs_of_buildGlobal hrules
    rw [hrest.globalRules, hconfigs]
    exact RuleConfig.stablySorted_sortByKind _

end Mutation.DatabaseReload

namespace World

variable {w w' : World} {o : Outcome} {database : String}

/-- **A reload of a database that succeeds** installs what it assembled. -/
theorem reload_of_apply (hs : w.proxy.snapshot.InOrder)
    (h : w.apply (.reloadDatabase database) = (.ok o, w')) :
    ∃ d d' t c, w.proxy.snapshot.database? database = some d ∧
      Mutation.DatabaseReload w.proxy.registry w.proxy.snapshot d d' w.site t c ∧
        w'.proxy.snapshot = c.snapshot ∧ w'.site.store = t.store ∧
          w'.proxy.snapshot.database? database = some d' := by
  obtain ⟨r, t, hplan, hproxy, hstore⟩ := planned_of_apply h
  obtain ⟨d, d', c, hd, rfl, hc⟩ := Mutation.plan_reloadDatabase hplan
  have hsnapshot : w'.proxy.snapshot = c.snapshot := by
    rw [hproxy]
    rfl
  obtain ⟨pools, hd', -⟩ := hc.assembled (hs.database hd)
  obtain ⟨rules, -, hinstalled⟩ := hc.installed
  have hmake := Snapshot.databases_make hs hd'.folded rules w.site.store.props
  refine ⟨d, d', t, c, hd, hc, hsnapshot, hstore, ?_⟩
  rw [hsnapshot, hinstalled, Snapshot.database?, Catalog.database?, ← hs.name_eq hd, ← hd'.name_eq]
  exact (congrArg (·.get? d'.name) hmake).trans (NameMap.get?_insert_self _ _ _)

/-- The same world with other contents of the store. -/
def withStore (w : World) (store : Store) : World :=
  { w with site := { w.site with store } }

/-- **A reload of a database repairs the store.** Whatever the store held, it holds afterwards every
installed schema as it is installed and none that was installed before and is no longer, and all
else as it was. What is installed follows the configuration in the store. -/
theorem store_repaired (hw : w.Reachable) (store : Store)
    (h : (w.withStore store).apply (.reloadDatabase database) = (.ok o, w')) :
    ∃ d d', w.proxy.snapshot.database? database = some d ∧
      w'.proxy.snapshot.database? database = some d' ∧
        store.Repaired database d d' w'.site.store ∧
          w'.proxy.snapshot.Configured d' w'.site.store := by
  have hs : (w.withStore store).proxy.snapshot.InOrder := hw.inOrder
  obtain ⟨d, d', t, c, hd, hc, hsnapshot, hstore, hd'⟩ := reload_of_apply hs h
  have hname : Text.lower d.name = Text.lower database := by
    rw [hs.name_eq hd, Text.lower_lower]
  refine ⟨d, d', hd, hd', ?_, ?_⟩
  · rw [hstore]
    exact (hc.repaired (hs.database hd)).congr hname
  · rw [hsnapshot, hstore]
    exact hc.configured (hs.database hd)

/-! ### A store that drifted -/

/-- What the storage engines report. -/
private def reportedSchema : Schema :=
  .ofLists [⟨"t_order", [], [], []⟩, ⟨"t_item", [], [], []⟩] []

/-- What no storage engine knows. -/
private def strayedSchema : Schema :=
  .ofLists [⟨"t_stray", [], [], []⟩] []

/-- A store that has other objects than the snapshot, and in a schema that the snapshot has not. -/
private def driftedStore : Store :=
  { Sample.store with
    databases := .single "foo_db"
      { pools := .single "ds_0" ⟨"", ∅⟩
        rules := [.single ⟨[], none⟩]
        schemas := .ofList [("foo_db", strayedSchema), ("gone", strayedSchema),
          ("other", strayedSchema)]
        rows := ∅ } }

/-- A schema is added that the storage engines do not report afterwards. -/
private def beforeReload : World :=
  Sample.world.after
    [.change (.discovery fun _ _ => .ok (.single "FOO_DB" reportedSchema)),
      .mutate (.addSchema "foo_db" "gone")]

/-- **A drifted store is repaired**: the reported schema is stored as it is installed, the added one
is gone from the store too, and the one that only the store knew is still there. -/
theorem drifted_store_repaired :
    ∃ w' : World,
      (beforeReload.withStore driftedStore).apply (.reloadDatabase "foo_db") =
          (.ok .installed, w') ∧
        w'.site.store.schema? "foo_db" "foo_db" = some reportedSchema ∧
          w'.site.store.schema? "foo_db" "gone" = none ∧
            w'.site.store.schema? "foo_db" "other" = some strayedSchema := by
  have happly : (beforeReload.withStore driftedStore).apply (.reloadDatabase "foo_db") =
      (.ok .installed, _) := Except.run_eq_ok (by decide +kernel)
  obtain ⟨d, d', hd, hd', hrepaired, -⟩ :=
    store_repaired (Sample.started_world.reachable.after _) driftedStore happly
  have hbefore : (beforeReload.proxy.snapshot.database? "foo_db").map
      (fun d => (d.schema? "gone", d.schema? "other")) = some (some ∅, none) := by
    decide +kernel
  have hafter : (((beforeReload.withStore driftedStore).apply
      (.reloadDatabase "foo_db")).2.proxy.snapshot.database? "foo_db").map
        (fun d => (d.schema? "foo_db", d.schema? "gone", d.schema? "other")) =
      some (some reportedSchema, none, none) := by
    decide +kernel
  have hd : beforeReload.proxy.snapshot.database? "foo_db" = some d := hd
  rw [hd, Option.map_some, Option.some.injEq, Prod.mk.injEq] at hbefore
  rw [hd', Option.map_some, Option.some.injEq, Prod.mk.injEq, Prod.mk.injEq] at hafter
  obtain ⟨hgone, hother⟩ := hbefore
  obtain ⟨hfoo, hgone', hother'⟩ := hafter
  refine ⟨_, happly, hrepaired.installed "foo_db" _ hfoo, hrepaired.dropped "gone" ?_ hgone', ?_⟩
  · rw [hgone]
    rfl
  · rw [hrepaired.untouched "other" hother hother']
    decide +kernel

end World

end ProxyCatalog
