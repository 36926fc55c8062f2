import ProxyCatalog.Proofs.Integrity
import ProxyCatalog.Proofs.Routing

/-!
# Tables that are distributed

A table that a sharding rule distributes lies on several pools. A single-table rule is to route it
to none of them of its own accord, but only where its configuration lists the table. The order in
which the rules were given plays no part, since sharding rules are built first, and neither does the
spelling of the names, since both kinds of rules fold them.

* `ShardingConfig.Distributes`: the configuration names the table, as a logic table or as a
  broadcast table. A rule distributes what its configuration does (`Rule.Faithful`).
* `Database.Apart`: every route of a database is listed, or nothing distributes its table. So it is
  where the rules were just built, and loading and forgetting routes keep it.
* `World.listed_of_distributed`: what comes of it for every installed database.
-/

namespace ProxyCatalog

/-! ### What a configuration distributes -/

/-- The sharding configuration **distributes** a table: it names it, in any spelling, as a logic
table or as a broadcast table. -/
def ShardingConfig.Distributes (c : ShardingConfig) (table : String) : Prop :=
  Text.Among (c.tables.map ShardingTable.logicTable ++ c.broadcastTables) table

instance (c : ShardingConfig) (table : String) : Decidable (c.Distributes table) :=
  inferInstanceAs (Decidable (Text.Among _ table))

/-- The configuration distributes a table; only one of a sharding rule does. -/
def RuleConfig.Distributes : RuleConfig → String → Prop
  | .sharding c, table => c.Distributes table
  | _, _ => False

/-- A set that grows by one name at each step has the names of all steps in the end. -/
private theorem NameSet.contains_foldlM {α ε : Type} {f : NameSet → α → Except ε NameSet}
    (name : α → String) (hf : ∀ names a names', f names a = .ok names' →
      ∀ x, names'.contains x ↔ names.contains x ∨ name a = x)
    {l : List α} {names names' : NameSet} (h : l.foldlM f names = .ok names') (x : String) :
    names'.contains x ↔ names.contains x ∨ ∃ a ∈ l, name a = x := by
  induction l generalizing names with
  | nil =>
    obtain rfl : names = names' := Except.ok.inj h
    simp
  | cons a l ih =>
    rw [List.foldlM_cons] at h
    obtain ⟨names₁, ha, hrest⟩ := Except.bind_eq_ok h
    rw [ih hrest, hf names a names₁ ha, or_assoc]
    simp only [List.mem_cons, exists_eq_or_imp]

namespace ShardingConfig

variable {c : ShardingConfig} {names : NameSet}

theorem contains_logicTables (h : c.logicTables = .ok names) (x : String) :
    names.contains x ↔ ∃ t ∈ c.tables, Text.lower t.logicTable = x := by
  have hstep := NameSet.contains_foldlM (fun t : ShardingTable => Text.lower t.logicTable)
    (fun names t names' ht x => ?_) h x
  · exact hstep.trans ⟨fun h => h.resolve_left Bool.false_ne_true, .inr⟩
  · split at ht
    · cases ht
    · split at ht
      · cases ht
      · next next hnew =>
        obtain rfl := Except.ok.inj ht
        obtain ⟨-, rfl⟩ := NameMap.insertNew?_eq_some.1 hnew
        exact NameMap.contains_insert.trans or_comm

/-- The names that a sharding rule is built with are those in its configuration, folded. -/
theorem contains_distributedTables (h : c.distributedTables = .ok names) (table : String) :
    names.contains (Text.lower table) ↔ c.Distributes table := by
  obtain ⟨logic, hlogic, h⟩ := Except.bind_eq_ok h
  obtain ⟨u, -, h⟩ := Except.bind_eq_ok h
  obtain rfl := Except.ok.inj h
  rw [NameMap.contains_overlay, contains_logicTables hlogic, NameSet.ofNames,
    NameMap.contains_ofList]
  simp only [Distributes, Text.Among, List.map_map, List.mem_append, List.mem_map,
    Function.comp_apply, or_and_right, exists_or]
  refine or_congr_left ⟨?_, ?_⟩
  · rintro ⟨t, ht, hname⟩; exact ⟨t.logicTable, ⟨t, ht, rfl⟩, hname⟩
  · rintro ⟨_, ⟨t, ht, rfl⟩, hname⟩; exact ⟨t, ht, hname⟩

end ShardingConfig

/-! ### What a rule distributes -/

namespace Rule

/-- The rule is **faithful**: it distributes the tables that its configuration distributes. -/
def Faithful (r : Rule) : Prop :=
  ∀ table, r.distributes table ↔ r.config.Distributes table

/-- The rule routes a table only if it lists it or nothing distributes it. Rules without routes
route none. -/
def Apart (database : String) (pools : Pools) (rules : RuleSet) : Rule → Prop
  | .single c r => ∀ schema table, (r.find? schema table).isSome →
    c.Lists database (some pools) schema table ∨ rules.distributes table = false
  | _ => True

/-- **What a shipped builder makes** is faithful. -/
theorem faithful_of_ofConfig {ctx : BuildContext} {c : RuleConfig} {rule : Rule}
    (h : ofConfig ctx c = .ok rule) : rule.Faithful := by
  intro table
  cases c with
  | sharding c =>
    obtain ⟨names, hnames, rfl⟩ := Except.map_eq_ok h
    exact ShardingConfig.contains_distributedTables hnames table
  | sqlFederation c =>
    obtain rfl := Except.ok.inj h
    exact ⟨nofun, nofun⟩
  | _ =>
    obtain ⟨u, -, rfl⟩ := Except.map_eq_ok h
    exact ⟨nofun, nofun⟩

end Rule

/-- A load keeps apart from what the rules distribute that it sees. -/
theorem SingleConfig.apart_of_load {c : SingleConfig} {database : String} {pools : Pools}
    {schemas : Option (NameMap Schema)} {rules : RuleSet} {routes : Routes}
    (h : c.load database (some pools) schemas rules = .ok routes) :
    (Rule.single c routes).Apart database pools rules := by
  intro schema table hroute
  obtain ⟨listed, hl, hat⟩ := at?_of_load h
  obtain ⟨pool, hpool⟩ := Option.isSome_iff_exists.1 hroute
  rcases hat _ _ _ hpool with hlisted | ⟨hnot, -⟩
  · exact .inl ((isSome_find?_listedRoutes hl).1 (Option.isSome_iff_exists.2 ⟨pool, hlisted⟩))
  · exact .inr (rules.distributes_lower table ▸ hnot)

/-! ### Databases -/

namespace Database

/-- The routes of a database are **apart** from what its sharding rules distribute. -/
structure Apart (d : Database) : Prop where
  faithful : ∀ rule ∈ d.rules, rule.Faithful
  routes : ∀ rule ∈ d.rules, rule.Apart d.name d.pools d.rules

variable {d d' : Database}

/-- A rule distributes a table if and only if its configuration does. -/
theorem Apart.distributes_iff (h : d.Apart) (table : String) :
    d.rules.distributes table ↔ ∃ c ∈ RuleSet.configs d.rules, c.Distributes table := by
  rw [RuleSet.distributes, List.any_eq_true]
  constructor
  · rintro ⟨rule, hrule, ht⟩
    exact ⟨rule.config, List.mem_map_of_mem hrule, (h.faithful rule hrule table).1 ht⟩
  · rintro ⟨c, hc, ht⟩
    obtain ⟨rule, hrule, rfl⟩ := List.mem_map.1 hc
    exact ⟨rule, hrule, (h.faithful rule hrule table).2 ht⟩

theorem apart_of_buildDatabase {reg : Registry} {name : String} {configs : List RuleConfig}
    {schemas : Option (NameMap Schema)} (hreg : reg.held = []) (hname : d.name = Text.lower name)
    (h : reg.buildDatabase name configs d.pools schemas = .ok d.rules) : d.Apart where
  faithful := Registry.forall_of_buildDatabase (fun _ _ _ hrule =>
    Rule.faithful_of_ofConfig (Registry.ofConfig_of_buildOne hreg hrule)) h
  routes := by
    intro rule hrule
    cases rule with
    | single c r =>
      have hload := Registry.load_of_buildDatabase h hrule
      rw [← SingleConfig.load_lower, ← hname] at hload
      exact SingleConfig.apart_of_load hload
    | _ => trivial

/-- A change of routes leaves alone what is distributed. -/
theorem Apart.mapRoutes (h : d.Apart) {f : Routes → Routes}
    (hf : ∀ c r, d.rules.router? = some (c, r) →
      (Rule.single c (f r)).Apart d.name d.pools d.rules) :
    ({ d with rules := d.rules.mapRoutes f } : Database).Apart where
  faithful := RuleSet.forall_mapRoutes h.faithful fun _ _ _ _ => ⟨nofun, nofun⟩
  routes := by
    have hsame (rule : Rule) (hrule : rule.Apart d.name d.pools d.rules) :
        rule.Apart d.name d.pools (d.rules.mapRoutes f) := by
      cases rule with
      | single c r =>
        intro schema table hroute
        rw [RuleSet.distributes_mapRoutes]
        exact hrule schema table hroute
      | _ => trivial
    exact RuleSet.forall_mapRoutes (fun rule hrule => hsame rule (h.routes rule hrule))
      fun c r hr => hsame _ (hf c r hr)

/-- Forgetting a table gives no other one a route. -/
theorem Apart.forgetTable (h : d.Apart) (schema table : String) :
    (d.forgetTable schema table).Apart := by
  refine h.mapRoutes fun c r hr s t hroute => ?_
  rw [Routes.find?, Routes.at?_remove] at hroute
  split at hroute
  · cases hroute
  · exact h.routes _ (RuleSet.mem_of_router? hr) s t hroute

theorem Apart.reloadRoutes (h : d.Apart) (hd' : d.reloadRoutes = .ok d') : d'.Apart := by
  obtain ⟨f, rfl, hload⟩ := reloadRoutes_ok hd'
  exact h.mapRoutes fun c r hr => SingleConfig.apart_of_load (hload c r hr)

end Database

/-! ### Every installed database -/

namespace World

variable {w : World} {name : String} {d : Database}

theorem Reachable.apart (hw : w.Reachable) (hreg : w.proxy.registry.held = [])
    (hd : w.proxy.snapshot.catalog.databases.get? name = some d) : d.Apart := by
  refine hw.forall_databases (P := fun reg d => reg.held = [] → d.Apart)
    (fun _ hrules hreg => Database.apart_of_buildDatabase hreg rfl hrules) (fun hrev hd hreg => ?_)
    (fun hreload hd hreg => (hd hreg).reloadRoutes hreload) hd hreg
  exact hrev.kept (fun _ _ _ h => ⟨h.faithful, h.routes⟩) (fun _ _ h => ⟨h.faithful, h.routes⟩)
    (fun _ schema table h => h.forgetTable schema table)
    (fun _ _ hreload h => h.reloadRoutes hreload) (hd hreg)

/-- **A distributed table has no route but a listed one.** Where no kind of rule is held, whatever
single-table rule of an installed database routes a table that a sharding configuration of the
database names, the configuration of this single-table rule lists the table. -/
theorem listed_of_distributed (hw : w.Reachable) (hreg : w.proxy.registry.held = [])
    (hd : w.proxy.snapshot.catalog.databases.get? name = some d) {c : SingleConfig} {r : Routes}
    (hr : .single c r ∈ d.rules) {sc : ShardingConfig}
    (hsc : .sharding sc ∈ RuleSet.configs d.rules) {schema table : String}
    (ht : sc.Distributes table) (hroute : (r.find? schema table).isSome) :
    c.Lists d.name (some d.pools) schema table := by
  have hapart := hw.apart hreg hd
  refine (hapart.routes _ hr schema table hroute).resolve_right fun hnot => ?_
  have hdist := (hapart.distributes_iff table).2 ⟨_, hsc, ht⟩
  rw [hnot] at hdist
  cases hdist

/-- Orders are distributed, and regions are copied everywhere. -/
private def distribution : ShardingConfig :=
  ⟨[⟨"T_Order", "ds_0.t_order_0"⟩], ["t_region"], none, ∅⟩

/-- Distributes both tables of the small site, and lists one of them as a single table. The
single-table rule is given first. -/
private def distribute : List Move :=
  [.mutate (.alterRules "foo_db"
      [.single ⟨["ds_0.t_order"], none⟩, .sharding distribution]),
    .change (.discovery fun _ _ => .ok (.single "foo_db"
      (.ofLists [⟨"t_order", [], [], []⟩, ⟨"t_region", [], [], []⟩] [])))]

/-- In the small site, the distributed table that has a route is listed; the other has none. -/
theorem listed_where_distributed :
    ∃ d c r, (Sample.world.after distribute).proxy.snapshot.catalog.databases.get? "foo_db" =
        some d ∧ .single c r ∈ d.rules ∧ .sharding distribution ∈ RuleSet.configs d.rules ∧
      (distribution.Distributes "T_ORDER" ∧ (r.find? "foo_db" "T_ORDER").isSome ∧
        c.Lists d.name (some d.pools) "foo_db" "T_ORDER") ∧
      distribution.Distributes "T_REGION" ∧ r.find? "foo_db" "T_REGION" = none := by
  let routes : Routes := .single "foo_db" (.single "t_order" "ds_0")
  have hrules : ((Sample.world.after distribute).proxy.snapshot.catalog.databases.get?
      "foo_db").any (fun d => decide (.single ⟨["ds_0.t_order"], none⟩ routes ∈ d.rules ∧
        .sharding distribution ∈ RuleSet.configs d.rules)) := by
    decide +kernel
  obtain ⟨d, hd, hrules⟩ := (Option.any_eq_true _ _).1 hrules
  obtain ⟨hsingle, hsharding⟩ := of_decide_eq_true hrules
  have hreg : (Sample.world.after distribute).proxy.registry.held = [] := by
    rw [registry_after]
    rfl
  have horder : distribution.Distributes "T_ORDER" := by decide
  have hroute : (routes.find? "foo_db" "T_ORDER").isSome := by decide
  have hlisted := listed_of_distributed (Sample.started_world.reachable.after distribute) hreg hd
    hsingle hsharding horder hroute
  exact ⟨d, _, routes, hd, hsingle, hsharding, ⟨horder, hroute, hlisted⟩, by decide, by decide⟩

end World

end ProxyCatalog
