import ProxyCatalog.Mutation.Reload
import ProxyCatalog.Proofs.Building

/-!
# Pools without their numbers

Handles are numbered in the order in which pools are opened, so the same work done in another order
gives other numbers. Nothing that a proxy makes of its pools depends on them. `Pools.unnumbered`
takes the numbers away, and so do `Database.unnumbered`, `Material.unnumbered` and
`Snapshot.unnumbered`; what is left are the names of the pools with their properties and dialects.

* `Registry.buildDatabase_unnumbered`, `Database.reloadRoutes_unnumbered`: rules are built, and
  routes loaded, without a look at the numbers.
* `Database.unnumbered_eq_iff`: databases that are the same but for the numbers differ in nothing
  but their pools.
* `Connector.Steady`, `Discovery.Blind`: what is expected of the world around a proxy for its order
  of work not to matter.
-/

namespace ProxyCatalog

/-! ### Pools -/

/-- The pool with its number taken away. -/
def StorageUnit.unnumbered (u : StorageUnit) : StorageUnit :=
  { u with handle := ⟨u.handle.name, 0⟩ }

namespace Pools

/-- The pools with their numbers taken away. -/
def unnumbered (p : Pools) : Pools :=
  p.mapValues fun _ u => u.unnumbered

theorem get?_unnumbered (p : Pools) (name : String) :
    p.unnumbered.get? name = (p.get? name).map StorageUnit.unnumbered :=
  NameMap.get?_mapValues p _ name

/-- The names of the pools stay. -/
@[simp] theorem contains_unnumbered (p : Pools) (name : String) :
    p.unnumbered.contains name = p.contains name := by
  rw [NameMap.contains, NameMap.contains, get?_unnumbered, Option.isSome_map]

@[simp] theorem keys_unnumbered (p : Pools) : p.unnumbered.keys = p.keys :=
  List.map_map

/-- The properties of the pools stay. -/
@[simp] theorem specs_unnumbered (p : Pools) : p.unnumbered.specs = p.specs := by
  ext1 name
  rw [get?_specs, get?_specs, get?_unnumbered, Option.map_map]
  rfl

/-- The dialects of the pools stay. -/
@[simp] theorem dialects_unnumbered (p : Pools) : p.unnumbered.dialects = p.dialects := by
  ext1 name
  rw [dialects, dialects, NameMap.get?_mapValues, NameMap.get?_mapValues, get?_unnumbered,
    Option.map_map]
  rfl

theorem insert_unnumbered (p : Pools) (name : String) (u : StorageUnit) :
    unnumbered (p.insert name u) = p.unnumbered.insert name u.unnumbered := by
  ext1 x
  rw [get?_unnumbered, NameMap.get?_insert, NameMap.get?_insert, get?_unnumbered]
  split <;> rfl

/-- The same pool is found by its name. -/
theorem subset?_unnumbered (p : Pools) (name : String) :
    p.unnumbered.subset? name = (p.subset? name).map unnumbered := by
  rw [subset?, subset?, get?_unnumbered, Option.map_map, Option.map_map]
  refine congrArg (Option.map · _) (funext fun u => ?_)
  ext1 x
  simp only [Function.comp_apply, get?_unnumbered, NameMap.get?_single]
  split <;> rfl

/-- **Pools are switched by name.** What is switched without numbers is what was switched, without
numbers. -/
theorem switched_unnumbered (p : Pools) (stale : List String) (opened : Pools) :
    p.unnumbered.switched stale opened.unnumbered = (p.switched stale opened).unnumbered := by
  ext1 name
  rw [get?_unnumbered, get?_switched, get?_switched, get?_unnumbered, get?_unnumbered]
  cases opened.get? name with
  | some u => rfl
  | none => split <;> rfl

end Pools

namespace Switch

/-- The switch with the numbers of its pools taken away. -/
def unnumbered (sw : Switch) : Switch :=
  ⟨sw.opened.unnumbered, sw.stale.unnumbered⟩

/-- A switch is carried out by name. -/
theorem apply_unnumbered (sw : Switch) (current : Pools) :
    sw.unnumbered.apply current.unnumbered = (sw.apply current).unnumbered := by
  rw [apply, apply, unnumbered, Pools.keys_unnumbered, Pools.switched_unnumbered]

/-- The same pools become stale. -/
theorem staleUnits_unnumbered (current : Pools) (plan : SwitchPlan) :
    staleUnits current.unnumbered plan = (staleUnits current plan).unnumbered := by
  ext1 name
  rw [get?_staleUnits, Pools.get?_unnumbered, Pools.get?_unnumbered, get?_staleUnits]
  split <;> rfl

end Switch

/-! ### Loading routes -/

namespace SingleConfig

variable (pools : Option Pools)

theorem hasPool_unnumbered (name : String) :
    hasPool (pools.map Pools.unnumbered) name = hasPool pools name := by
  cases pools with
  | none => rfl
  | some p => exact p.contains_unnumbered name

/-- The schema of an entry is a matter of the dialect of its pool. -/
theorem schema_unnumbered (e : SingleEntry) (database : String) :
    e.schema database (pools.map Pools.unnumbered) = e.schema database pools := by
  rw [SingleEntry.schema, SingleEntry.schema]
  cases pools with
  | none => rfl
  | some p =>
    simp only [Option.map_some, Option.bind_some, Pools.get?_unnumbered, Option.map_map]
    rfl

/-- The same routes are listed by the entries of a configuration. -/
theorem listedRoutes_unnumbered (c : SingleConfig) (database : String) :
    c.listedRoutes database (pools.map Pools.unnumbered) = c.listedRoutes database pools := by
  refine congrArg (fun f => c.entries.foldlM f ∅) (funext fun routes => funext fun text => ?_)
  rw [routeEntry, routeEntry]
  cases SingleEntry.parse? text with
  | none => rfl
  | some e =>
    dsimp only
    rw [hasPool_unnumbered, schema_unnumbered]

/-- **Routes are loaded without a look at the numbers of pools.** -/
theorem load_unnumbered (c : SingleConfig) (database : String) (schemas : Option (NameMap Schema))
    (rules : RuleSet) :
    c.load database (pools.map Pools.unnumbered) schemas rules =
      c.load database pools schemas rules := by
  have hdefault : c.checkDefault (pools.map Pools.unnumbered) = c.checkDefault pools := by
    rw [checkDefault, checkDefault]
    simp only [hasPool_unnumbered]
  have hfallback : c.fallbackPool? (pools.map Pools.unnumbered) = c.fallbackPool? pools := by
    rw [fallbackPool?, fallbackPool?]
    cases pools with
    | none => rfl
    | some p => simp only [Option.map_some, Option.bind_some, Pools.keys_unnumbered]
  rw [load, load, listedRoutes_unnumbered, hdefault, hfallback]

end SingleConfig

/-- The routes of a rule set are loaded again without a look at the numbers of pools. -/
theorem RuleSet.reload_unnumbered (rs : RuleSet) (database : String) (pools : Pools)
    (schemas : NameMap Schema) :
    rs.reload database pools.unnumbered schemas = rs.reload database pools schemas := by
  rw [reload, reload]
  cases rs.router? with
  | none => rfl
  | some r =>
    have hload := SingleConfig.load_unnumbered (some pools) r.1 database (some schemas) rs
    rw [Option.map_some] at hload
    dsimp only
    rw [hload]

/-! ### Building rules -/

/-- The groups of a configuration name pools, not numbers. -/
theorem ReadwriteConfig.check_unnumbered (c : ReadwriteConfig) (pools : Option Pools) :
    c.check (pools.map Pools.unnumbered) = c.check pools := by
  have hhas (name : String) :
      (pools.map Pools.unnumbered).map (fun p => p.contains name) =
        pools.map fun p => p.contains name := by
    rw [Option.map_map]
    exact congrArg (Option.map · pools) (funext fun p => p.contains_unnumbered name)
  refine congrArg (fun f => c.groups.forM f) (funext fun g => ?_)
  rw [checkGroup, checkGroup]
  simp only [hhas]

/-- Whatever its kind, a configuration becomes the same rule. -/
theorem Rule.ofConfig_unnumbered (ctx : BuildContext) (c : RuleConfig) :
    ofConfig { ctx with pools := ctx.pools.map Pools.unnumbered } c = ofConfig ctx c := by
  cases c with
  | single c => rw [ofConfig, ofConfig, SingleConfig.load_unnumbered]
  | readwriteSplitting c => rw [ofConfig, ofConfig, ReadwriteConfig.check_unnumbered]
  | _ => rfl

namespace Registry

variable (reg : Registry)

/-- Rules that are built one upon the other are the same all along. -/
theorem buildEach_unnumbered (scope : RuleScope) (ctx : BuildContext) (cs : List RuleConfig) :
    reg.buildEach scope { ctx with pools := ctx.pools.map Pools.unnumbered } cs =
      reg.buildEach scope ctx cs := by
  induction cs generalizing ctx with
  | nil => rfl
  | cons c cs ih =>
    have hone : reg.buildOne scope { ctx with pools := ctx.pools.map Pools.unnumbered } c =
        reg.buildOne scope ctx c := by
      rw [buildOne, buildOne, Rule.build, Rule.build, Rule.ofConfig_unnumbered]
    rw [buildEach, buildEach, hone, ih ctx]
    cases reg.buildOne scope ctx c with
    | error fault => rfl
    | ok rule => exact ih { ctx with built := ctx.built ++ [rule] }

/-- **Rules are built without a look at the numbers of pools.** -/
theorem buildDatabase_unnumbered (database : String) (cs : List RuleConfig) (pools : Pools)
    (schemas : Option (NameMap Schema)) :
    reg.buildDatabase database cs pools.unnumbered schemas =
      reg.buildDatabase database cs pools schemas := by
  have heach := reg.buildEach_unnumbered .database ⟨some database, some pools, schemas, []⟩
    (RuleConfig.sortByKind cs)
  rw [Option.map_some] at heach
  rw [buildDatabase, buildDatabase, build, build, heach]

end Registry

/-! ### Databases -/

namespace Database

/-- The database with the numbers of its pools taken away. -/
def unnumbered (d : Database) : Database :=
  { d with pools := d.pools.unnumbered }

/-- Databases that are the same but for the numbers of their pools differ in their pools alone. -/
theorem unnumbered_eq_iff {d d' : Database} :
    d.unnumbered = d'.unnumbered ↔
      ∃ pools, d' = { d with pools } ∧ d.pools.unnumbered = pools.unnumbered := by
  obtain ⟨name, protocol, pools, rules, schemas⟩ := d
  obtain ⟨name', protocol', pools', rules', schemas'⟩ := d'
  constructor
  · intro h
    obtain ⟨rfl, rfl, hpools, rfl, rfl⟩ := Database.mk.inj h
    exact ⟨pools', rfl, hpools⟩
  · rintro ⟨pools'', h, hpools⟩
    obtain ⟨rfl, rfl, rfl, rfl, rfl⟩ := Database.mk.inj h
    exact congrArg (fun pools => Database.mk name' protocol' pools rules' schemas') hpools

/-- **The same routes are loaded** for a database, and it fails to load them for the same reason. -/
theorem reloadRoutes_unnumbered (d : Database) :
    d.unnumbered.reloadRoutes = d.reloadRoutes.map unnumbered := by
  have hreload := d.rules.reload_unnumbered d.name d.pools d.schemas
  rw [reloadRoutes, reloadRoutes, unnumbered]
  dsimp only
  rw [hreload]
  cases d.rules.reload d.name d.pools d.schemas <;> rfl

/-- It is known without a look at the numbers whether routes have to be loaded. -/
theorem reloadUnlessKnown_unnumbered (d : Database) (schema : String) (names : List String) :
    d.unnumbered.reloadUnlessKnown schema names =
      (d.reloadUnlessKnown schema names).map unnumbered := by
  rw [reloadUnlessKnown, reloadUnlessKnown, reloadRoutes_unnumbered]
  change (if names.all fun n => d.rules.knowsTable schema n then _ else _) = _
  split <;> rfl

theorem withObjects_unnumbered (d : Database) (content : Schema) (c : SchemaChange) :
    d.unnumbered.withObjects content c = (d.withObjects content c).unnumbered := by
  rw [withObjects, withObjects]
  cases c.deletedTable <;> cases c.deletedView <;> rfl

end Database

namespace Snapshot

theorem findPool_unnumbered (d : Database) (pool : String) :
    findPool d.unnumbered pool = (findPool d pool).map Pools.unnumbered := by
  have hsubset : d.unnumbered.pools.subset? pool = (d.pools.subset? pool).map Pools.unnumbered :=
    d.pools.subset?_unnumbered pool
  rw [findPool, findPool, hsubset]
  cases d.pools.subset? pool <;> rfl

/-- A table that was found is put into a database without a look at the numbers of its pools. -/
theorem withFoundTable_unnumbered (d : Database) (schema table : String) (found : Option Table) :
    withFoundTable d.unnumbered schema table found =
      (withFoundTable d schema table found).map (Option.map Database.unnumbered) := by
  have hput (content : Schema) (t : Table) :
      ((d.unnumbered.withSchema schema (content.putTable t)).reloadUnlessKnown schema
        [table]).map some =
      (((d.withSchema schema (content.putTable t)).reloadUnlessKnown schema [table]).map some).map
        (Option.map Database.unnumbered) := by
    have hreload :=
      (d.withSchema schema (content.putTable t)).reloadUnlessKnown_unnumbered schema [table]
    rw [show d.unnumbered.withSchema schema (content.putTable t) =
      (d.withSchema schema (content.putTable t)).unnumbered from rfl, hreload]
    cases (d.withSchema schema (content.putTable t)).reloadUnlessKnown schema [table] <;> rfl
  unfold withFoundTable
  rw [show d.unnumbered.schema? schema = d.schema? schema from rfl]
  cases d.schema? schema with
  | none =>
    cases found with
    | none => rfl
    | some t => exact hput ∅ t
  | some content =>
    cases found with
    | none => rfl
    | some t => exact hput content t

/-- The snapshot with the numbers of all pools taken away. -/
def unnumbered (s : Snapshot) : Snapshot :=
  s.withCatalog
    { s.catalog with databases := s.catalog.databases.mapValues fun _ d => d.unnumbered }

end Snapshot

/-! ### The world around -/

/-- The material with the numbers of its pools taken away. -/
def Material.unnumbered (m : Material) : Material :=
  { m with pools := m.pools.unnumbered }

/-- A discovery that is **blind** to the numbers of pools: it answers by what the material says
about them. -/
def Discovery.Blind (f : Discovery) : Prop :=
  ∀ m m' tables, m.unnumbered = m'.unnumbered → f m tables = f m' tables

/-- A **steady** connector: whether a pool opens, and as what dialect, does not depend on how many
were opened before. -/
def Connector.Steady (f : Connector) : Prop :=
  ∀ n n' name spec, f n name spec = f n' name spec

end ProxyCatalog
