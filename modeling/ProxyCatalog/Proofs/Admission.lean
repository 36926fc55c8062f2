import ProxyCatalog.Proofs.Integrity

/-!
# Which configurations are admitted

Whether a set of rules can be built is a matter of its configurations one by one: each is admitted
or refused by itself, whatever the schemas and the rules built before it. And it is monotone in the
pools: a configuration that is admitted with some pools is admitted with more of them, and with the
same names of pools opened anew.

* `Registry.build_eq`: building gives the rules, or the reasons for which configurations are refused
  one by one.
* `Registry.buildDatabase_isOk_iff`: rules are built exactly if each configuration is admitted.
* `Registry.Admits.mono`: more pools admit no less.
* `World.Reachable.admitted`: the rules of an installed database are admitted with its pools, so
  they can always be built again.
-/

namespace ProxyCatalog

/-! ### Refusals -/

namespace Registry

variable {reg : Registry} {owner : RuleOwner} {scope : RuleScope} {ctx : BuildContext}
  {c : RuleConfig} {cs : List RuleConfig}

/-- Why a configuration is **refused**, if it is. -/
def refusal? (reg : Registry) (scope : RuleScope) (ctx : BuildContext) (c : RuleConfig) :
    Option BuildFault :=
  match reg.buildOne scope ctx c with
  | .ok _ => none
  | .error fault => some fault

theorem refusal?_eq_none :
    reg.refusal? scope ctx c = none ↔ ∃ rule, reg.buildOne scope ctx c = .ok rule := by
  rw [refusal?]
  cases reg.buildOne scope ctx c with
  | ok rule => exact iff_of_true rfl ⟨rule, rfl⟩
  | error fault => exact iff_of_false nofun nofun

/-- **A configuration is refused for the same reason** whatever the schemas and the rules built
before. -/
theorem refusal?_congr (reg : Registry) (scope : RuleScope) (ctx : BuildContext)
    (schemas : Option (NameMap Schema)) (built : RuleSet) :
    reg.refusal? scope { ctx with schemas, built } = reg.refusal? scope ctx := by
  funext c
  have hmap := reg.map_bare_buildOne scope ctx schemas built c
  rcases Except.map_eq_map hmap with ⟨fault, hfault, hfault'⟩ | ⟨rule, rule', hrule, hrule', -⟩
  · rw [refusal?, refusal?, hfault, hfault']
  · rw [refusal?, refusal?, hrule, hrule']

/-- The faults are those of the configurations one by one, in their order. -/
theorem faults_buildEach :
    (reg.buildEach scope ctx cs).2 = cs.filterMap (reg.refusal? scope ctx) := by
  induction cs generalizing ctx with
  | nil => rfl
  | cons c cs ih =>
    rw [buildEach]
    cases hone : reg.buildOne scope ctx c with
    | ok rule =>
      have hc : reg.refusal? scope ctx c = none := refusal?_eq_none.2 ⟨rule, hone⟩
      -- The rules after this one see it, and are refused for the same reasons as without it.
      have hsame := reg.refusal?_congr scope ctx ctx.schemas (ctx.built ++ [rule])
      rw [List.filterMap_cons_none hc, ← hsame]
      exact ih
    | error fault =>
      have hc : reg.refusal? scope ctx c = some fault := by rw [refusal?, hone]
      rw [List.filterMap_cons_some hc, ← ih]

/-- **What building gives**: the rules if nothing is refused, and else the reasons for which
configurations are refused, in the order of their kinds. -/
theorem build_eq :
    reg.build owner scope ctx cs =
      match (RuleConfig.sortByKind cs).filterMap (reg.refusal? scope ctx) with
      | [] => .ok (reg.buildEach scope ctx (RuleConfig.sortByKind cs)).1
      | faults => .error (.rules owner faults) := by
  rw [← faults_buildEach, build]
  generalize reg.buildEach scope ctx (RuleConfig.sortByKind cs) = p
  obtain ⟨rules, faults⟩ := p
  cases faults with
  | nil => rfl
  | cons fault faults => rfl

/-- Rules are built exactly if no configuration is refused. -/
theorem build_isOk_iff :
    (∃ rules, reg.build owner scope ctx cs = .ok rules) ↔
      ∀ c ∈ cs, reg.refusal? scope ctx c = none := by
  have hsorted : (RuleConfig.sortByKind cs).filterMap (reg.refusal? scope ctx) = [] ↔
      ∀ c ∈ cs, reg.refusal? scope ctx c = none := by
    simp only [List.filterMap_eq_nil_iff, RuleConfig.mem_sortByKind]
  rw [← hsorted, build_eq]
  cases (RuleConfig.sortByKind cs).filterMap (reg.refusal? scope ctx) with
  | nil => exact iff_of_true ⟨_, rfl⟩ rfl
  | cons fault faults => exact iff_of_false nofun nofun

end Registry

/-! ### More pools -/

namespace ReadwriteConfig

variable {c : ReadwriteConfig} {pools pools' : Pools}

theorem checkGroup_mono {g : ReadwriteGroup} (hpools : ∀ x, pools.contains x → pools'.contains x)
    (h : c.checkGroup (some pools) g = .ok ⟨⟩) : c.checkGroup (some pools') g = .ok ⟨⟩ := by
  obtain ⟨hwrite, hread, hbalancer⟩ := checkGroup_eq_ok.1 h
  exact checkGroup_eq_ok.2 ⟨hpools _ hwrite, fun r hr => hpools r (hread r hr), hbalancer⟩

theorem check_mono (hpools : ∀ x, pools.contains x → pools'.contains x)
    (h : c.check (some pools) = .ok ⟨⟩) : c.check (some pools') = .ok ⟨⟩ :=
  Except.forM_eq_ok.2 fun g hg => checkGroup_mono hpools (Except.forM_eq_ok.1 h g hg)

end ReadwriteConfig

namespace SingleConfig

variable {c : SingleConfig} {database database' : String} {pools pools' : Pools}

/-- What can be loaded can be loaded with more pools, and under any name of the database. -/
theorem Loadable.mono (h : c.Loadable database pools)
    (hpools : ∀ x, pools.contains x → pools'.contains x) : c.Loadable database' pools' := by
  obtain ⟨hread, hd⟩ := loadable_iff.1 h
  refine loadable_iff.2 ⟨fun text hmem => ?_, fun ds hds => hpools ds (hd ds hds)⟩
  obtain ⟨e, he, hpool⟩ := hread text hmem
  exact ⟨e, he, hpools _ hpool⟩

end SingleConfig

/-! ### Configurations that are admitted -/

namespace Registry

variable {reg : Registry} {name name' : String} {pools pools' : Pools} {c : RuleConfig}
  {cs : List RuleConfig}

/-- A configuration is **admitted** with these pools if a rule is built of it. -/
def Admits (reg : Registry) (name : String) (pools : Pools) (c : RuleConfig) : Prop :=
  ∃ rule, reg.buildOne .database ⟨some name, some pools, none, []⟩ c = .ok rule

/-- What is admitted is what is not refused, whatever the schemas and the rules built before. -/
theorem admits_iff {schemas : Option (NameMap Schema)} {built : RuleSet} :
    reg.Admits name pools c ↔
      reg.refusal? .database ⟨some name, some pools, schemas, built⟩ c = none := by
  have hsame := reg.refusal?_congr .database ⟨some name, some pools, none, []⟩ schemas built
  rw [Admits, ← refusal?_eq_none, ← hsame]

/-- What a shipped builder makes it makes with more pools. -/
private theorem ofConfig_mono (hpools : ∀ x, pools.contains x → pools'.contains x)
    (h : ∃ rule, Rule.ofConfig ⟨some name, some pools, none, []⟩ c = .ok rule) :
    ∃ rule, Rule.ofConfig ⟨some name', some pools', none, []⟩ c = .ok rule := by
  obtain ⟨rule, h⟩ := h
  cases c with
  | single c =>
    obtain ⟨routes, hload, -⟩ := Except.map_eq_ok h
    have hloadable : c.Loadable name pools := SingleConfig.load_isOk_iff.1 ⟨routes, hload⟩
    obtain ⟨routes', hload'⟩ := SingleConfig.load_isOk_iff.2 (hloadable.mono hpools)
    exact ⟨.single c routes', congrArg (Except.map (Rule.single c)) hload'⟩
  | readwriteSplitting c =>
    obtain ⟨u, hcheck, -⟩ := Except.map_eq_ok h
    exact ⟨_, congrArg (Except.map _) (ReadwriteConfig.check_mono hpools hcheck)⟩
  | _ => exact ⟨rule, h⟩

/-- **More pools admit no less**, and the name of the database makes no difference. -/
theorem Admits.mono (h : reg.Admits name pools c)
    (hpools : ∀ x, pools.contains x → pools'.contains x) : reg.Admits name' pools' c := by
  obtain ⟨rule, h⟩ := h
  obtain ⟨hscope, hbuilt⟩ := buildOne_eq_ok.1 h
  split at hbuilt
  · next hheld => exact ⟨rule, buildOne_eq_ok.2 ⟨hscope, by rwa [if_pos hheld]⟩⟩
  · next hheld =>
    obtain ⟨hshipped, hmade⟩ := hbuilt
    obtain ⟨rule', hmade'⟩ : ∃ rule',
        Rule.ofConfig ⟨some name', some pools', none, []⟩ c = .ok rule' :=
      ofConfig_mono hpools ⟨rule, hmade⟩
    exact ⟨rule', buildOne_eq_ok.2 ⟨hscope, by rw [if_neg hheld]; exact ⟨hshipped, hmade'⟩⟩⟩

/-- **Rules are built** exactly if each configuration is admitted. -/
theorem buildDatabase_isOk_iff {schemas : Option (NameMap Schema)} :
    (∃ rules, reg.buildDatabase name cs pools schemas = .ok rules) ↔
      ∀ c ∈ cs, reg.Admits name pools c :=
  build_isOk_iff.trans (forall₂_congr fun _ _ => admits_iff.symm)

end Registry

/-! ### Installed databases -/

namespace Database

variable {reg : Registry} {name : String} {protocol : Dialect} {pools : Pools} {rules : RuleSet}
  {schemas : NameMap Schema} {built : Option (NameMap Schema)} {configs : List RuleConfig}

/-- The rules of the database are **admitted** with its pools. -/
def Admitted (reg : Registry) (d : Database) : Prop :=
  ∀ c ∈ RuleSet.configs d.rules, reg.Admits d.name d.pools c

/-- Rules that were built are admitted where they were built. -/
theorem admitted_of_buildDatabase (h : reg.buildDatabase name configs pools built = .ok rules) :
    (make name protocol pools rules schemas).Admitted reg := by
  intro c hc
  have hconfigs := Registry.configs_of_buildDatabase h
  have hadmits : reg.Admits name pools c := by
    refine Registry.buildDatabase_isOk_iff.1 ⟨rules, h⟩ c (RuleConfig.mem_sortByKind.1 ?_)
    rw [← hconfigs]
    exact hc
  exact hadmits.mono fun _ hx => hx

theorem Revised.admitted {d d' : Database} (h : d.Revised d') (hd : d.Admitted reg) :
    d'.Admitted reg := by
  obtain ⟨schemas, f, rfl⟩ := h.rest
  intro c hc
  rw [RuleSet.configs_mapRoutes] at hc
  exact hd c hc

end Database

/-- **The rules of an installed database are admitted** with its pools. -/
theorem World.Reachable.admitted {w : World} (hw : w.Reachable) {database : String} {d : Database}
    (hd : w.proxy.snapshot.database? database = some d) : d.Admitted w.proxy.registry :=
  hw.forall_databases (P := fun reg d => d.Admitted reg)
    (fun _ hrules => Database.admitted_of_buildDatabase hrules) (fun hrev => hrev.revised.admitted)
    (fun hreload => (Database.revised_reloadRoutes hreload).admitted) hd

end ProxyCatalog
