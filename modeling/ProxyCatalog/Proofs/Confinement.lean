import ProxyCatalog.Proofs.Proper

/-!
# What a mutation leaves alone

A mutation that is about one database leaves every other alone: in the snapshot, with its pools,
rules and schemas, in the row cache and in the store. Whether it succeeds makes no difference.
Beside the databases a snapshot has parts that all of them share, the properties and the global
rules, and these are changed by the mutations that are for it and by the reload of a database.

A rebuild of a database does build the global rules again. It comes to nothing, since the global
rules that are installed are always those that are built from their configurations
(`Snapshot.Settled`, `World.Reachable.settled`).

* `Mutation.Spares`: the mutation is not about a database.
* `World.Reachable.database?_apply`, `rows_apply`, `node?_apply`: what it then leaves alone.
* `World.confined`: the whole.
-/

namespace ProxyCatalog

/-! ### Settled global rules -/

namespace RuleConfig

/-- Sorting again changes nothing. -/
theorem sortByKind_sortByKind (cs : List RuleConfig) :
    sortByKind (sortByKind cs) = sortByKind cs :=
  sortByKind_eq_self (sortByKind_pairwise cs)

end RuleConfig

namespace Registry

variable {reg : Registry} {cs : List RuleConfig} {rules : RuleSet}

/-- Global rules are built again from their configurations as they are. -/
theorem buildGlobal_configs (h : reg.buildGlobal cs = .ok rules) :
    reg.buildGlobal (RuleSet.configs rules) = .ok rules := by
  rw [configs_of_buildGlobal h, ← h, buildGlobal, buildGlobal, build, build,
    RuleConfig.sortByKind_sortByKind]

end Registry

/-- The global rules are **settled**: they are those that are built from their configurations. -/
def Snapshot.Settled (reg : Registry) (s : Snapshot) : Prop :=
  reg.buildGlobal (RuleSet.configs s.catalog.globalRules) = .ok s.catalog.globalRules

/-- Where the global rules are settled, a rebuilt database is put beside the others. -/
theorem Snapshot.Settled.withRebuilt {reg : Registry} {s : Snapshot} (h : s.Settled reg)
    (hs : s.InOrder) {d : Database} (hd : Text.lower d.name = d.name) :
    s.withRebuilt reg d = .ok (s.withDatabase d) := by
  have hmake : Catalog.make (s.catalog.databasesWith d) s.catalog.globalRules s.catalog.props =
      s.catalog.withDatabase d := by
    rw [Catalog.make, (hs.folded_databasesWith hd).rekey_eq_self]
    rfl
  rw [Snapshot.withRebuilt, h, Except.ok_bind, hmake]
  rfl

/-- The global rules of the first snapshot are settled. -/
theorem Assembly.settled_of_assembleFrom {reg : Registry} {props : Properties}
    {names : List String} {databases : NameMap Database} {rows : RowCache} {s t : Site}
    {snapshot : Snapshot}
    (h : (assembleFrom reg props names databases rows).run s = (.ok snapshot, t)) :
    snapshot.Settled reg := by
  induction names generalizing databases rows s with
  | nil =>
    obtain ⟨rules, hrules, rfl, -⟩ := assembleFrom_nil_ok h
    exact Registry.buildGlobal_configs hrules
  | cons name names ih =>
    obtain ⟨d, u, -, h⟩ := assembleFrom_cons_ok h
    exact ih h

/-! ### Scopes -/

namespace Mutation

/-- The mutation is **not about** a database. -/
def Spares (m : Mutation) (x : String) : Prop :=
  ∀ database, m.database? = some database → Text.lower database ≠ Text.lower x

/-- The mutation changes the row cache. -/
def changesRows : Mutation → Bool
  | changeCache _ => true
  | alterRow .. => true
  | _ => false

/-- The mutation changes the properties. -/
def changesProperties : Mutation → Bool
  | alterProperties _ => true
  | reloadDatabase _ => true
  | _ => false

/-- The mutation changes the global rules. -/
def changesGlobalRules : Mutation → Bool
  | alterGlobalRules _ => true
  | reloadDatabase _ => true
  | _ => false

end Mutation

/-! ### The row cache -/

namespace RowCache

variable {rows rows' : RowCache} {database x : String}

/-- To put the rows of one database leaves those of the others. -/
private theorem database?_insert {v : DatabaseRows} (hx : Text.lower database ≠ Text.lower x) :
    (RowCache.mk (rows.databases.insert (Text.lower database) v)).database? x =
      rows.database? x := by
  rw [database?, NameMap.get?_insert, if_neg hx]
  rfl

theorem database?_updateDatabase {f : DatabaseRows → Option DatabaseRows}
    (h : rows.updateDatabase database f = some rows')
    (hx : Text.lower database ≠ Text.lower x) : rows'.database? x = rows.database? x := by
  obtain ⟨databases, hm, rfl⟩ := Option.map_eq_some_iff.1 h
  obtain ⟨v, -, hm⟩ := Option.bind_eq_some_iff.1 hm
  obtain ⟨v', -, hm⟩ := Option.bind_eq_some_iff.1 hm
  obtain rfl := Option.some.inj hm
  exact database?_insert hx

/-- **A change of the row cache leaves the rows of other databases alone.** -/
theorem database?_change {change : CacheChange} (h : change.apply rows = some rows')
    (hx : Text.lower change.database ≠ Text.lower x) : rows'.database? x = rows.database? x := by
  cases change with
  | addDatabase d =>
    obtain ⟨databases, hm, rfl⟩ := Option.map_eq_some_iff.1 h
    obtain ⟨-, rfl⟩ := NameMap.insertNew?_eq_some.1 hm
    exact database?_insert hx
  | dropDatabase d =>
    obtain ⟨databases, hm, rfl⟩ := Option.map_eq_some_iff.1 h
    obtain ⟨-, rfl⟩ := NameMap.eraseOld?_eq_some.1 hm
    exact (NameMap.get?_erase _ _ _).trans (if_neg hx)
  | addSchema d s => exact database?_updateDatabase h hx
  | dropSchema d s => exact database?_updateDatabase h hx
  | addTable d s t => exact database?_updateDatabase h hx
  | dropTable d s t => exact database?_updateDatabase h hx
  | deleteRow d s t key => exact database?_updateDatabase h hx

end RowCache

/-! ### The store -/

namespace Store

/-- No write about a database touches what is stored for another. -/
theorem kept_node {database x : String} (hx : Text.lower database ≠ Text.lower x)
    (node : Option StoreNode) : Kept (fun t => t.node? x = node) database fun _ => True := by
  have hput (t : Store) (n : StoreNode) (ht : t.node? x = node) :
      (t.setNode database n).node? x = node := by
    rw [node?_setNode, if_neg hx, ht]
  exact .of_schemas (fun t _ ht => hput t _ ht) fun t _ _ _ ht => hput t _ ht

end Store

/-! ### Plans -/

namespace Mutation

open Snapshot

variable {reg : Registry} {s : Snapshot} {m : Mutation} {site t : Site} {c : Change}
  {opened : Pools} {x : String}

/-- **An effect leaves alone the databases that the mutation is not about.** -/
theorem Effect.database?_of_spares (h : m.Effect s opened c) (hs : s.InOrder) (hx : m.Spares x) :
    c.snapshot.database? x = s.database? x := by
  -- What is put is put under the name of the database that the mutation is about.
  have hput {database : String} {d d' : Database} (hm : m.database? = some database)
      (hd : s.database? database = some d) (hname : d'.name = d.name) :
      (s.catalog.withDatabase d').database? x = s.database? x := by
    rw [Catalog.database?_withDatabase, hname, hs.name_eq hd, if_neg (hx database hm)]
    rfl
  cases h with
  | addDatabase hnew =>
    exact (Catalog.database?_withDatabase _ _ _).trans (if_neg (hx _ rfl))
  | dropDatabase hd =>
    exact (Catalog.database?_withoutDatabase _ _ _).trans (if_neg (hx _ rfl))
  | revise hm hd hd' => exact hput (database?_of_revises? hm) hd hd'.revised.name
  | rebuild hm hd hd' hbooks hc =>
    rw [← hput (database?_of_rebuilds? hm) hd hd'.name_eq]
    exact congrArg (fun databases => databases.get? (Text.lower x)) hc
  | aside hm hc hr => exact congrArg (fun databases => databases.get? (Text.lower x)) hc

/-- **A plan leaves alone the rows of databases that the mutation is not about.** -/
theorem rows_of_spares (hs : s.InOrder) (h : (m.plan reg s).run site = (.ok (some c), t))
    (hx : m.Spares x) : c.snapshot.rows.database? x = s.rows.database? x := by
  rcases plan_rows hs h with hsame | ⟨change, rfl, hc⟩ | ⟨_, _, _, _, _, rfl, hc⟩
  · rw [hsame]
  · exact RowCache.database?_change hc (hx _ rfl)
  · exact RowCache.database?_updateDatabase hc (hx _ rfl)

/-- What a plan makes of the parts that all databases share. -/
theorem plan_shared (hs : s.InOrder) (hsettled : s.Settled reg)
    (h : (m.plan reg s).run site = (.ok (some c), t)) :
    c.snapshot.Settled reg ∧
      (m.changesProperties = false → c.snapshot.catalog.props = s.catalog.props) ∧
      (m.changesGlobalRules = false →
        c.snapshot.catalog.globalRules = s.catalog.globalRules) := by
  obtain ⟨opened, hplanned, -⟩ := planned_of_plan hs h
  cases hplanned with
  | reconfigure hm hd hd' hbooks hnext =>
    -- The global rules are built again, and come out the same.
    rw [hsettled.withRebuilt hs hd'.folded] at hnext
    obtain rfl := Except.ok.inj hnext
    exact ⟨hsettled, fun _ => rfl, fun _ => rfl⟩
  | reload hd hd' hbooks hrules => exact ⟨Registry.buildGlobal_configs hrules, nofun, nofun⟩
  | alterGlobalRules hrules => exact ⟨Registry.buildGlobal_configs hrules, fun _ => rfl, nofun⟩
  | alterProperties hprops => exact ⟨hsettled, nofun, fun _ => rfl⟩
  | _ => exact ⟨hsettled, fun _ => rfl, fun _ => rfl⟩

/-- A mutation of the row cache does nothing to the site. -/
theorem site_of_changesRows (hm : m.changesRows = true) :
    ((m.plan reg s).run site).2 = site := by
  cases m with
  | changeCache change => rfl
  | alterRow database schema table payload => rw [plan, SiteM.run_ofExcept]
  | _ => cases hm

theorem catalog_of_changesRows (hm : m.changesRows = true)
    (h : (m.plan reg s).run site = (.ok (some c), t)) : c.snapshot.catalog = s.catalog := by
  cases m with
  | changeCache change =>
    obtain ⟨rows, -, rfl⟩ := changeCache_some (SiteM.run_pure_ok.1 h).1
    rfl
  | alterRow database schema table payload =>
    obtain ⟨row, rows, -, -, rfl⟩ := alterRow_ok (SiteM.run_ofExcept_ok.1 h).1
    rfl
  | _ => cases hm

/-- Every other mutation leaves the row cache alone. -/
theorem rows_of_changesRows (hs : s.InOrder) (hm : m.changesRows = false)
    (h : (m.plan reg s).run site = (.ok (some c), t)) : c.snapshot.rows = s.rows := by
  rcases plan_rows hs h with hsame | ⟨change, rfl, -⟩ | ⟨_, _, _, _, _, rfl, -⟩
  · exact hsame
  · cases hm
  · cases hm

end Mutation

/-! ### Applying mutations -/

namespace World

open Mutation

variable {w : World} {m : Mutation} {x : String}

/-- **In every world that is reached the global rules are settled.** -/
theorem Reachable.settled (h : w.Reachable) :
    w.proxy.snapshot.Settled w.proxy.registry :=
  h.snapshot_induction (P := fun reg s => s.InOrder → s.Settled reg)
    (fun _ hstart _ =>
      Assembly.settled_of_assembleFrom (Assembly.assemble_ok (Proxy.start_run hstart).2))
    (fun hs hsettled hplan _ => (plan_shared hs (hsettled hs) hplan).1) h.inOrder

/-- What is installed after a mutation is what was installed before, or what was planned. -/
theorem snapshot_apply (w : World) (m : Mutation) :
    (w.apply m).2.proxy.snapshot = w.proxy.snapshot ∨
      ∃ c t, (m.plan w.proxy.registry w.proxy.snapshot).run w.site = (.ok (some c), t) ∧
        (w.apply m).2.proxy.snapshot = c.snapshot := by
  obtain ⟨-, hsame | ⟨m', c, t, hm, hplan, hc⟩⟩ := w.snapshot_move (.mutate m)
  · exact .inl hsame
  · obtain rfl := Move.mutate.inj hm
    exact .inr ⟨c, t, hplan, hc⟩

theorem Reachable.database?_apply (hw : w.Reachable) (hx : m.Spares x) :
    (w.apply m).2.proxy.snapshot.database? x = w.proxy.snapshot.database? x := by
  rcases w.snapshot_apply m with hsame | ⟨c, t, hplan, hc⟩
  · rw [hsame]
  · obtain ⟨opened, heffect, -⟩ := plan_effect hw.inOrder hplan
    rw [hc, heffect.database?_of_spares hw.inOrder hx]

theorem Reachable.rows_apply (hw : w.Reachable) (hx : m.Spares x) :
    (w.apply m).2.proxy.snapshot.rows.database? x = w.proxy.snapshot.rows.database? x := by
  rcases w.snapshot_apply m with hsame | ⟨c, t, hplan, hc⟩
  · rw [hsame]
  · rw [hc, rows_of_spares hw.inOrder hplan hx]

theorem Reachable.node?_apply (hw : w.Reachable) (hx : m.Spares x) :
    (w.apply m).2.site.store.node? x = w.site.store.node? x := by
  have hkept (database : String) (d : Database) (hm : m.database? = some database)
      (hd : w.proxy.snapshot.database? database = some d) :
      Store.Kept (fun t => t.node? x = w.site.store.node? x) d.name fun _ => True := by
    have hname : Text.lower d.name ≠ Text.lower x := by
      rw [hw.inOrder.name_eq hd, Text.lower_lower]
      exact hx database hm
    exact Store.kept_node hname _
  exact upholds_apply hw.inOrder hkept (fun _ _ _ _ _ _ => trivial) rfl

theorem Reachable.props_apply (hw : w.Reachable) (hm : m.changesProperties = false) :
    (w.apply m).2.proxy.snapshot.catalog.props = w.proxy.snapshot.catalog.props := by
  rcases w.snapshot_apply m with hsame | ⟨c, t, hplan, hc⟩
  · rw [hsame]
  · rw [hc, (plan_shared hw.inOrder hw.settled hplan).2.1 hm]

theorem Reachable.globalRules_apply (hw : w.Reachable) (hm : m.changesGlobalRules = false) :
    (w.apply m).2.proxy.snapshot.catalog.globalRules = w.proxy.snapshot.catalog.globalRules := by
  rcases w.snapshot_apply m with hsame | ⟨c, t, hplan, hc⟩
  · rw [hsame]
  · rw [hc, (plan_shared hw.inOrder hw.settled hplan).2.2 hm]

/-- **Mutations are confined.** Whether it succeeds or fails, a mutation leaves alone every database
that it is not about: its name, protocol, pools, rules and schemas, its cached rows, and all that is
stored for it. Only mutations of rows change the row cache, and they change neither the catalog nor
the store. The properties and the global rules are changed by the mutations that are for it, and by
the reload of a database. -/
theorem confined (hw : w.Reachable) (m : Mutation) :
    let w' := (w.apply m).2
    (∀ x, m.Spares x →
      w'.proxy.snapshot.database? x = w.proxy.snapshot.database? x ∧
      w'.proxy.snapshot.rows.database? x = w.proxy.snapshot.rows.database? x ∧
      w'.site.store.node? x = w.site.store.node? x) ∧
    (m.changesRows = false → w'.proxy.snapshot.rows = w.proxy.snapshot.rows) ∧
    (m.changesRows = true →
      w'.proxy.snapshot.catalog = w.proxy.snapshot.catalog ∧ w'.site.store = w.site.store) ∧
    (m.changesProperties = false →
      w'.proxy.snapshot.catalog.props = w.proxy.snapshot.catalog.props) ∧
    (m.changesGlobalRules = false →
      w'.proxy.snapshot.catalog.globalRules = w.proxy.snapshot.catalog.globalRules) := by
  refine ⟨fun x hx => ⟨hw.database?_apply hx, hw.rows_apply hx, hw.node?_apply hx⟩,
    fun hm => ?_, fun hm => ?_, hw.props_apply, hw.globalRules_apply⟩
  · rcases w.snapshot_apply m with hsame | ⟨c, t, hplan, hc⟩
    · rw [hsame]
    · rw [hc, rows_of_changesRows hw.inOrder hm hplan]
  · constructor
    · rcases w.snapshot_apply m with hsame | ⟨c, t, hplan, hc⟩
      · rw [hsame]
      · rw [hc, catalog_of_changesRows hm hplan]
    · rw [store_apply, site_of_changesRows hm]

/-- To add a database to the small world leaves the one that is there alone. -/
theorem confined_addDatabase :
    let w := (Sample.world.apply (.addDatabase "bar_db")).2
    w.proxy.snapshot.database? "bar_db" ≠ none ∧
      w.proxy.snapshot.database? "FOO_DB" = Sample.world.proxy.snapshot.database? "FOO_DB" ∧
        w.site.store.node? "foo_db" = Sample.world.site.store.node? "foo_db" := by
  obtain ⟨hothers, -⟩ := confined Sample.started_world.reachable (.addDatabase "bar_db")
  have hspares (x : String) (hx : Text.lower "bar_db" ≠ Text.lower x) :
      (Mutation.addDatabase "bar_db").Spares x := by
    rintro _ ⟨⟩
    exact hx
  obtain ⟨hdatabase, -, -⟩ := hothers "FOO_DB" (hspares _ (by decide))
  obtain ⟨-, -, hnode⟩ := hothers "foo_db" (hspares _ (by decide))
  exact ⟨by decide, hdatabase, hnode⟩

end World

end ProxyCatalog
