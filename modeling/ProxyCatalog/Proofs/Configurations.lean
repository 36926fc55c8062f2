import ProxyCatalog.Proofs.Confinement

/-!
# Rule configurations over rebuilds

A rule keeps the configuration that it was built from, and a rebuild that is given no
configurations takes those of the rules that are there. They are sorted by kind each time, which
changes nothing the second time, however many configurations of one kind there are. Loading and
forgetting routes changes no configuration either.

* `RuleConfig.Arranged`: the configurations of a scope are sorted by kind and of this scope. So are
  those of all rules that are built, and hence those of every installed database and of the global
  rules (`World.Reachable.arranged`, `World.Reachable.arranged_global`).
* `World.ruleConfigs?_of_apply`: the configurations of a database after a reconfiguration.
* `World.configurations_kept`: what this comes to for each kind of reconfiguration.
-/

namespace ProxyCatalog

/-! ### Arranged configurations -/

namespace RuleConfig

/-- The configurations are **arranged** for a scope: they are sorted by kind, and all of their kinds
are of this scope. -/
structure Arranged (scope : RuleScope) (cs : List RuleConfig) : Prop where
  ordered : cs.Pairwise fun a b => a.kind.rank ≤ b.kind.rank
  ofScope : ∀ c ∈ cs, c.kind.scope = scope

end RuleConfig

namespace Registry

/-- Whatever rules are built have arranged configurations. -/
theorem arranged_of_build {reg : Registry} {owner : RuleOwner} {scope : RuleScope}
    {cs : List RuleConfig} {rules : RuleSet} (ctx : BuildContext)
    (h : reg.build owner scope { ctx with built := [] } cs = .ok rules) :
    RuleConfig.Arranged scope (RuleSet.configs rules) where
  ordered := by
    rw [configs_of_build ctx h]
    exact RuleConfig.sortByKind_pairwise cs
  ofScope := by
    rw [RuleSet.configs, List.forall_mem_map]
    refine forall_of_build ctx (fun built c rule hrule => ?_) h
    rw [config_of_buildOne hrule]
    exact (buildOne_eq_ok.1 hrule).1

theorem arranged_of_buildDatabase {reg : Registry} {database : String} {cs : List RuleConfig}
    {pools : Pools} {schemas : Option (NameMap Schema)} {rules : RuleSet}
    (h : reg.buildDatabase database cs pools schemas = .ok rules) :
    RuleConfig.Arranged .database (RuleSet.configs rules) :=
  arranged_of_build ⟨some database, some pools, schemas, []⟩ h

end Registry

/-- A revision of a database keeps the configurations of its rules. -/
theorem Database.Revised.configs {d d' : Database} (h : d.Revised d') :
    RuleSet.configs d'.rules = RuleSet.configs d.rules := by
  obtain ⟨schemas, f, rfl⟩ := h.rest
  exact RuleSet.configs_mapRoutes f d.rules

/-! ### Reconfigurations -/

/-- The configurations of the rules of a database, if there is one of this name. -/
def Snapshot.ruleConfigs? (s : Snapshot) (database : String) : Option (List RuleConfig) :=
  (s.database? database).map fun d => RuleSet.configs d.rules

namespace Mutation

/-- The rule configurations that the mutation gives a database in place of those it has. -/
def givenConfigs? : Mutation → Option (String × List RuleConfig)
  | alterRules database configs => some (database, configs)
  | alterPoolsAndRules database _ configs => some (database, configs)
  | _ => none

theorem reconfigures?_of_givenConfigs? {m : Mutation} {database : String}
    {configs : List RuleConfig} (hm : m.givenConfigs? = some (database, configs)) :
    m.reconfigures? = some database ∧ ∀ d, m.configsFor d = configs := by
  cases m with
  | alterRules name cs =>
    obtain ⟨rfl, rfl⟩ := Prod.mk.inj (Option.some.inj hm)
    exact ⟨rfl, fun _ => rfl⟩
  | alterPoolsAndRules name specs cs =>
    obtain ⟨rfl, rfl⟩ := Prod.mk.inj (Option.some.inj hm)
    exact ⟨rfl, fun _ => rfl⟩
  | _ => cases hm

theorem changesGlobalRules_of_reconfigures? {m : Mutation} {database : String}
    (hm : m.reconfigures? = some database) : m.changesGlobalRules = false := by
  cases m with
  | alterGlobalRules configs => cases hm
  | reloadDatabase name => cases hm
  | _ => rfl

end Mutation

namespace World

variable {w w' : World} {m : Mutation} {o : Outcome} {database : String}

/-- **The configurations of every installed database are arranged.** -/
theorem Reachable.arranged (hw : w.Reachable) {name : String} {d : Database}
    (hd : w.proxy.snapshot.catalog.databases.get? name = some d) :
    RuleConfig.Arranged .database (RuleSet.configs d.rules) :=
  hw.forall_databases (P := fun _ d => RuleConfig.Arranged .database (RuleSet.configs d.rules))
    (fun _ hrules => Registry.arranged_of_buildDatabase hrules)
    (fun hrev hd => hrev.revised.configs ▸ hd)
    (fun hreload hd => (Database.revised_reloadRoutes hreload).configs ▸ hd) hd

/-- The configurations of the global rules are arranged, for they were built. -/
theorem Reachable.arranged_global (hw : w.Reachable) :
    RuleConfig.Arranged .global (RuleSet.configs w.proxy.snapshot.catalog.globalRules) :=
  Registry.arranged_of_build ⟨none, none, none, []⟩ hw.settled

/-- **A reconfiguration that succeeds** leaves the database with the configurations that it is for,
sorted by kind. -/
theorem ruleConfigs?_of_apply (hw : w.Reachable) (hm : m.reconfigures? = some database)
    (h : w.apply m = (.ok o, w')) :
    ∃ d, w.proxy.snapshot.database? database = some d ∧
      w'.proxy.snapshot.ruleConfigs? database = some (RuleConfig.sortByKind (m.configsFor d)) := by
  obtain ⟨d, d', t, c, hd, hc, -, -, hd', -⟩ := reconfiguration_of_apply hw hm h
  obtain ⟨pools, u, v, -, hbuilt⟩ := hc.built
  refine ⟨d, hd, ?_⟩
  rw [Snapshot.ruleConfigs?, hd', Option.map_some, Assembly.configs_of_fromEngines hbuilt]

/-- **Rule configurations survive rebuilds.** A change of the pools leaves a database with the
configurations that it had, in their order; a change of the rules leaves it with the given ones,
stably sorted by kind. Neither changes the configurations of the global rules. Those of each
database and the global ones are sorted by kind at all times, and of kinds of their scope. -/
theorem configurations_kept (hw : w.Reachable) :
    (∀ database specs o w', w.apply (.alterPools database specs) = (.ok o, w') →
      ∃ configs, w.proxy.snapshot.ruleConfigs? database = some configs ∧
        w'.proxy.snapshot.ruleConfigs? database = some configs) ∧
    (∀ m database o w', m.reconfigures? = some database → w.apply m = (.ok o, w') →
      RuleSet.configs w'.proxy.snapshot.catalog.globalRules =
        RuleSet.configs w.proxy.snapshot.catalog.globalRules) ∧
    (∀ m database configs o w', m.givenConfigs? = some (database, configs) →
      w.apply m = (.ok o, w') → ∃ sorted,
        w'.proxy.snapshot.ruleConfigs? database = some sorted ∧
          RuleConfig.StablySorted configs sorted) ∧
    (∀ name d, w.proxy.snapshot.catalog.databases.get? name = some d →
      RuleConfig.Arranged .database (RuleSet.configs d.rules)) ∧
    RuleConfig.Arranged .global (RuleSet.configs w.proxy.snapshot.catalog.globalRules) := by
  refine ⟨fun database specs o w' h => ?_, fun m database o w' hm h => ?_,
    fun m database configs o w' hm h => ?_, fun _ _ => hw.arranged, hw.arranged_global⟩
  · obtain ⟨d, hd, hconfigs⟩ := ruleConfigs?_of_apply hw rfl h
    -- What the database has is sorted already.
    have hself := RuleConfig.sortByKind_eq_self (hw.arranged hd).ordered
    refine ⟨RuleSet.configs d.rules, ?_, hconfigs.trans (congrArg some hself)⟩
    rw [Snapshot.ruleConfigs?, hd, Option.map_some]
  · have hrules := hw.globalRules_apply (Mutation.changesGlobalRules_of_reconfigures? hm)
    rw [h] at hrules
    rw [hrules]
  · obtain ⟨hreconfigures, hgiven⟩ := Mutation.reconfigures?_of_givenConfigs? hm
    obtain ⟨d, -, hconfigs⟩ := ruleConfigs?_of_apply hw hreconfigures h
    exact ⟨_, hconfigs, hgiven d ▸ RuleConfig.stablySorted_sortByKind _⟩

/-- Two configurations of each of two kinds, in no order. -/
private def mixedConfigs : List RuleConfig :=
  [.single ⟨["ds_0.t_order"], none⟩, .sharding ⟨[⟨"t_item", ""⟩], [], none, ∅⟩,
    .single ⟨[], some "ds_0"⟩, .sharding ⟨[], ["t_region"], none, ∅⟩]

/-- The same configurations, stably sorted. -/
private def sortedConfigs : List RuleConfig :=
  [.sharding ⟨[⟨"t_item", ""⟩], [], none, ∅⟩, .sharding ⟨[], ["t_region"], none, ∅⟩,
    .single ⟨["ds_0.t_order"], none⟩, .single ⟨[], some "ds_0"⟩]

/-- The storage engines are reached, and the small database is given these rules. -/
private def giveMixed : List Move :=
  [.mutate (.alterRules "foo_db" mixedConfigs),
    .change (.discovery fun _ _ => .ok (.single "foo_db" ∅))]

/-- They are sorted when they are given, and stay so when a pool is put beside that of the small
database. -/
theorem mixed_kinds_kept :
    let w := Sample.world.after giveMixed
    let pools : NameMap PoolSpec := .ofList [("ds_0", ⟨"", ∅⟩), ("ds_1", ⟨"", ∅⟩)]
    w.proxy.snapshot.ruleConfigs? "foo_db" = some sortedConfigs ∧
      (w.apply (.alterPools "foo_db" pools)).2.proxy.snapshot.ruleConfigs? "foo_db" =
        some sortedConfigs := by
  intro w pools
  have hw : w.Reachable := Sample.started_world.reachable.after giveMixed
  obtain ⟨hpools, -⟩ := configurations_kept hw
  have happly : w.apply (.alterPools "foo_db" pools) = (.ok .installed, _) :=
    Except.run_eq_ok (by decide +kernel)
  obtain ⟨configs, hbefore, hafter⟩ := hpools "foo_db" pools _ _ happly
  have hsorted : (w.proxy.snapshot.ruleConfigs? "foo_db").any
      (fun configs => decide (configs = sortedConfigs)) := by
    decide +kernel
  obtain ⟨_, hsorted, hconfigs⟩ := (Option.any_eq_true _ _).1 hsorted
  obtain rfl := of_decide_eq_true hconfigs
  exact ⟨hsorted, hafter.trans (hbefore.symm.trans hsorted)⟩

end World

end ProxyCatalog
