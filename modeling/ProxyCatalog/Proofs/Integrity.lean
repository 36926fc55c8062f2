import ProxyCatalog.Proofs.Reconfiguration

/-!
# Referential integrity

Rules refer to the pools of their database by name: the groups of a readwrite-splitting rule, the
default pool and the listed entries of a single-table rule, and its routes. Pools and rules are
changed by different mutations, each of which leaves the other side alone, so every reference is
checked whenever either side is replaced.

* `RuleConfig.RefersTo` and `Rule.RoutesTo`: the references of a configuration, and the routes of a
  rule, lead to given pools. So it is of every rule that a shipped builder makes
  (`Rule.integral_of_ofConfig`).
* `Database.Integral`: it holds of all rules of a database and its own pools. Loading and forgetting
  routes keep it.
* `World.referential_integrity`: every installed database is integral, and its routes can be loaded.
-/

namespace ProxyCatalog

/-! ### References -/

/-- The pools that the configuration **refers to** are among these, and the entries that it lists
can be read. -/
def RuleConfig.RefersTo (pools : Pools) : RuleConfig → Prop
  | .readwriteSplitting c => ∀ g ∈ c.groups,
    pools.contains g.writePool ∧ ∀ r ∈ g.readPools, pools.contains r
  | .single c => (∀ pool, c.defaultPool = some pool → pools.contains pool) ∧
    ∀ text ∈ c.entries, ∃ e, SingleEntry.parse? text = some e ∧ pools.contains e.pool
  | _ => True

/-- The rule **routes** tables to these pools alone. -/
def Rule.RoutesTo (pools : Pools) : Rule → Prop
  | .single _ r => ∀ s t pool, r.at? s t = some pool → pools.contains pool
  | _ => True

/-- A database is **integral** if its rules refer and route to its own pools. -/
structure Database.Integral (d : Database) : Prop where
  refers : ∀ c ∈ RuleSet.configs d.rules, c.RefersTo d.pools
  routes : ∀ rule ∈ d.rules, rule.RoutesTo d.pools

/-! ### Checks that succeed -/

/-- **A group passes its check** if its pools exist and its load balancer is declared. -/
theorem ReadwriteConfig.checkGroup_eq_ok {c : ReadwriteConfig} {pools : Pools}
    {g : ReadwriteGroup} :
    c.checkGroup (some pools) g = .ok ⟨⟩ ↔
      pools.contains g.writePool ∧ (∀ r ∈ g.readPools, pools.contains r) ∧
        ∀ b ∈ g.balancer, c.balancers.contains b := by
  have hread : (g.readPools.forM fun r => if pools.contains r then .ok () else
      (.error (.unknownReadPool r g.name) : Except RuleFault Unit)) = .ok ⟨⟩ ↔
        ∀ r ∈ g.readPools, pools.contains r :=
    Except.forM_eq_ok.trans (forall₂_congr fun r _ => Except.check_eq_ok)
  rw [checkGroup, ← hread]
  simp only [Option.map_some, Option.getD_some]
  cases hw : pools.contains g.writePool with
  | false => exact iff_of_false nofun fun h => Bool.false_ne_true h.1
  | true =>
    refine Except.check_bind_eq_ok.trans ?_
    cases g.balancer with
    | none => simp [pure, Except.pure]
    | some b => cases hb : c.balancers.contains b <;> simp [hb, pure, Except.pure, throw]

namespace SingleConfig

variable {c : SingleConfig} {database : String} {pools : Pools} {schemas : Option (NameMap Schema)}
  {rules : RuleSet} {routes : Routes}

/-- The pool to fall back on is a known one, if the default pool is. -/
private theorem contains_fallback (h : ∀ ds, c.defaultPool = some ds → pools.contains ds)
    {pool : String} (hp : c.fallbackPool? (some pools) = some pool) : pools.contains pool := by
  rcases Option.or_eq_some_iff.1 hp with hd | ⟨-, hfirst⟩
  · exact h pool hd
  · exact NameMap.mem_keys_iff.1 (List.mem_of_mem_head? hfirst)

/-- **A load that succeeds** refers and routes to the known pools. -/
theorem pools_of_load (h : c.load database (some pools) schemas rules = .ok routes) :
    (RuleConfig.single c).RefersTo pools ∧ (Rule.single c routes).RoutesTo pools := by
  obtain ⟨listed, hl, hat⟩ := at?_of_load h
  obtain ⟨hread, hd⟩ := loadable_iff.1 (load_isOk_iff.1 ⟨routes, h⟩)
  refine ⟨⟨hd, hread⟩, fun s t pool hp => ?_⟩
  -- What is not listed was routed to the fallback pool.
  rcases hat s t pool hp with hp | ⟨-, hp⟩
  · exact (pools_of_listedRoutes hl).2 s t pool hp
  · exact contains_fallback hd hp

end SingleConfig

/-! ### The routes within a set of rules -/

namespace RuleSet

/-- Where the routes are changed, it is in one rule. -/
theorem forall_mapRoutes {P : Rule → Prop} {rs : RuleSet} {f : Routes → Routes}
    (h : ∀ rule ∈ rs, P rule)
    (hf : ∀ c r, rs.router? = some (c, r) → P (.single c (f r))) :
    ∀ rule ∈ rs.mapRoutes f, P rule := by
  induction rs with
  | nil => exact h
  | cons rule rs ih =>
    rw [List.forall_mem_cons] at h
    cases rule with
    | single c r => exact List.forall_mem_cons.2 ⟨hf c r rfl, h.2⟩
    | _ => exact List.forall_mem_cons.2 ⟨h.1, ih h.2 hf⟩

end RuleSet

/-! ### Rules that are built -/

/-- **What a shipped builder makes** refers and routes to the pools it was given. -/
theorem Rule.integral_of_ofConfig {ctx : BuildContext} {pools : Pools} {c : RuleConfig}
    {rule : Rule} (hpools : ctx.pools = some pools) (h : Rule.ofConfig ctx c = .ok rule) :
    rule.config.RefersTo pools ∧ rule.RoutesTo pools := by
  cases c with
  | single c =>
    rw [Rule.ofConfig, hpools] at h
    obtain ⟨routes, hload, rfl⟩ := Except.map_eq_ok h
    exact SingleConfig.pools_of_load hload
  | readwriteSplitting c =>
    rw [Rule.ofConfig, hpools] at h
    obtain ⟨u, hcheck, rfl⟩ := Except.map_eq_ok h
    refine ⟨fun g hg => ?_, trivial⟩
    obtain ⟨hwrite, hread, -⟩ :=
      ReadwriteConfig.checkGroup_eq_ok.1 (Except.forM_eq_ok.1 hcheck g hg)
    exact ⟨hwrite, hread⟩
  | sqlFederation c =>
    obtain rfl := Except.ok.inj h
    exact ⟨trivial, trivial⟩
  | _ =>
    obtain ⟨u, -, rfl⟩ := Except.map_eq_ok h
    exact ⟨trivial, trivial⟩

namespace Registry

variable {reg : Registry} {scope : RuleScope} {ctx : BuildContext} {c : RuleConfig} {rule : Rule}

/-- Where no kind is held, every rule is made by a shipped builder. -/
theorem ofConfig_of_buildOne (hreg : reg.held = []) (h : reg.buildOne scope ctx c = .ok rule) :
    Rule.ofConfig ctx c = .ok rule := by
  obtain ⟨-, h⟩ := buildOne_eq_ok.1 h
  have hheld : ¬ reg.held.contains c.kind := by
    rw [hreg]
    exact Bool.false_ne_true
  rw [if_neg hheld] at h
  exact h.2

end Registry

namespace Database

variable {d d' : Database}

/-- The rules that are built for a database refer and route to its pools. -/
theorem integral_of_buildDatabase {reg : Registry} {name : String} {configs : List RuleConfig}
    {schemas : Option (NameMap Schema)} (hreg : reg.held = [])
    (h : reg.buildDatabase name configs d.pools schemas = .ok d.rules) : d.Integral := by
  have hall := Registry.forall_of_buildDatabase
    (P := fun rule => rule.config.RefersTo d.pools ∧ rule.RoutesTo d.pools)
    (fun built c rule hrule =>
      Rule.integral_of_ofConfig rfl (Registry.ofConfig_of_buildOne hreg hrule)) h
  refine ⟨fun c hc => ?_, fun rule hrule => (hall rule hrule).2⟩
  obtain ⟨rule, hrule, rfl⟩ := List.mem_map.1 hc
  exact (hall rule hrule).1

/-! ### What keeps a database integral -/

theorem Integral.withSchema (h : d.Integral) (schema : String) (content : Schema) :
    (d.withSchema schema content).Integral :=
  ⟨h.refers, h.routes⟩

theorem Integral.withoutSchema (h : d.Integral) (schema : String) :
    (d.withoutSchema schema).Integral :=
  ⟨h.refers, h.routes⟩

theorem Integral.mapRoutes (h : d.Integral) {f : Routes → Routes}
    (hf : ∀ c r, d.rules.router? = some (c, r) → (Rule.single c (f r)).RoutesTo d.pools) :
    ({ d with rules := d.rules.mapRoutes f } : Database).Integral where
  refers := by
    rw [RuleSet.configs_mapRoutes]
    exact h.refers
  routes := RuleSet.forall_mapRoutes h.routes hf

/-- Forgetting a table leads no other table elsewhere. -/
theorem Integral.forgetTable (h : d.Integral) (schema table : String) :
    (d.forgetTable schema table).Integral := by
  refine h.mapRoutes fun c r hr s t pool hp => ?_
  rw [Routes.at?_remove] at hp
  split at hp
  · cases hp
  · exact h.routes _ (RuleSet.mem_of_router? hr) s t pool hp

theorem Integral.reloadRoutes (h : d.Integral) (hd' : d.reloadRoutes = .ok d') : d'.Integral := by
  obtain ⟨f, rfl, hload⟩ := reloadRoutes_ok hd'
  exact h.mapRoutes fun c r hr => (SingleConfig.pools_of_load (hload c r hr)).2

end Database

/-! ### Every installed database -/

namespace World

variable {w : World} {name : String} {d : Database}

theorem Reachable.integral (hw : w.Reachable) (hreg : w.proxy.registry.held = [])
    (hd : w.proxy.snapshot.catalog.databases.get? name = some d) : d.Integral := by
  refine hw.forall_databases (P := fun reg d => reg.held = [] → d.Integral)
    (fun _ hrules hreg => Database.integral_of_buildDatabase hreg hrules) (fun hrev hd hreg => ?_)
    (fun hreload hd hreg => (hd hreg).reloadRoutes hreload) hd hreg
  exact hrev.kept (fun _ schema content h => h.withSchema schema content)
    (fun _ schema h => h.withoutSchema schema)
    (fun _ schema table h => h.forgetTable schema table)
    (fun _ _ hreload h => h.reloadRoutes hreload) (hd hreg)

/-- **Referential integrity.** Where no kind of rule is held, every installed database has the
pools that its rules refer to, and those that its single-table rules route to, so its routes can be
loaded. -/
theorem referential_integrity (hw : w.Reachable) (hreg : w.proxy.registry.held = [])
    (hd : w.proxy.snapshot.catalog.databases.get? name = some d) :
    (∀ c, .readwriteSplitting c ∈ RuleSet.configs d.rules → ∀ g ∈ c.groups,
      d.pools.contains g.writePool ∧ ∀ r ∈ g.readPools, d.pools.contains r) ∧
    (∀ c, .single c ∈ RuleSet.configs d.rules →
      (∀ pool, c.defaultPool = some pool → d.pools.contains pool) ∧
        ∀ text ∈ c.entries, ∃ e, SingleEntry.parse? text = some e ∧ d.pools.contains e.pool) ∧
    (∀ c r, .single c r ∈ d.rules → ∀ schema table pool, r.find? schema table = some pool →
      d.pools.contains pool) ∧
    ∃ d', d.reloadRoutes = .ok d' := by
  have hintegral := hw.integral hreg hd
  refine ⟨fun c hc => hintegral.refers _ hc, fun c hc => hintegral.refers _ hc, ?_, ?_⟩
  · intro c r hr schema table pool hp
    exact hintegral.routes _ hr _ _ pool hp
  · exact Database.reloadRoutes_isOk_iff.2 (hw.inOrder.databases name d hd).loadable

/-- Reads of the small site go to another pool than writes. -/
private def split : ReadwriteConfig :=
  ⟨[⟨"group", "ds_0", ["ds_1"], none⟩], ∅⟩

/-- Adds this pool to the small site, and gives it rules that refer to it. -/
private def splitReads : List Move :=
  [.mutate (.alterPoolsAndRules "foo_db" (.single "ds_1" ⟨"", ∅⟩)
      [.single ⟨["ds_1.t_item"], some "ds_0"⟩, .readwriteSplitting split]),
    .change (.discovery fun _ _ => .ok ∅)]

/-- In the small site, once reads go to a pool of their own, this pool is there. -/
theorem split_reads_refer :
    ∃ d, (Sample.world.after splitReads).proxy.snapshot.catalog.databases.get? "foo_db" = some d ∧
      .readwriteSplitting split ∈ RuleSet.configs d.rules ∧ d.pools.contains "ds_1" ∧
        ∃ d', d.reloadRoutes = .ok d' := by
  have hrules : ((Sample.world.after splitReads).proxy.snapshot.catalog.databases.get?
      "foo_db").any (fun d => decide (.readwriteSplitting split ∈ RuleSet.configs d.rules)) := by
    decide +kernel
  obtain ⟨d, hd, hsplit⟩ := (Option.any_eq_true _ _).1 hrules
  have hsplit := of_decide_eq_true hsplit
  have hreg : (Sample.world.after splitReads).proxy.registry.held = [] := by
    rw [registry_after]
    rfl
  obtain ⟨hgroups, -, -, hreload⟩ :=
    referential_integrity (Sample.started_world.reachable.after splitReads) hreg hd
  have hpools := (hgroups split hsplit _ List.mem_cons_self).2
  exact ⟨d, hd, hsplit, hpools "ds_1" List.mem_cons_self, hreload⟩

end World

end ProxyCatalog
