import ProxyCatalog.Assembly
import ProxyCatalog.Proofs.Building
import ProxyCatalog.Proofs.Conduct

/-!
# Databases in order

What holds of every database that is installed: its name and the names of its schemas are folded,
and its routes can be loaded (`Database.InOrder`). A snapshot is in order if all its databases are
and each stands under its name (`Snapshot.InOrder`).

However a database is assembled, it is in order and its routes are loaded (`Database.Assembled`,
`assembled_of_fromStore`, `assembled_of_fromEngines`), and nothing but questions is asked on the
way (`reading_fromStore`, `reading_fromEngines`). What the store is asked for decides all of a
database that comes from it (`fromStore_ok`).
-/

namespace ProxyCatalog

/-! ### Maps under folded names -/

namespace NameMap

variable {α β : Type}

/-- All names of the map are **folded**. -/
def Folded (m : NameMap α) : Prop :=
  ∀ k, m.contains k → Text.lower k = k

variable {m : NameMap α}

theorem Folded.empty : (∅ : NameMap α).Folded :=
  nofun

theorem Folded.insert (h : m.Folded) {k : String} (hk : Text.lower k = k) (v : α) :
    (m.insert k v).Folded := by
  intro x hx
  rcases contains_insert.1 hx with rfl | hx
  · exact hk
  · exact h x hx

/-- Anything may be put under a folded name. -/
theorem Folded.insert_lower (h : m.Folded) (k : String) (v : α) :
    (m.insert (Text.lower k) v).Folded :=
  h.insert (Text.lower_lower k) v

theorem Folded.erase (h : m.Folded) (k : String) : (m.erase k).Folded := by
  intro x hx
  rw [contains, get?_erase] at hx
  split at hx
  · cases hx
  · exact h x hx

theorem Folded.filter (h : m.Folded) (p : String → α → Bool) : (m.filter p).Folded := by
  intro x hx
  refine h x ?_
  rw [contains, get?_filter, Option.isSome_filter] at hx
  rw [contains]
  exact Option.isSome_of_any hx

theorem Folded.mapValues (h : m.Folded) (f : String → α → β) : (m.mapValues f).Folded := by
  intro x hx
  refine h x ?_
  rwa [contains, get?_mapValues, Option.isSome_map] at hx

/-- A map of entries under folded names is one under folded names. -/
theorem Folded.ofList {l : List (String × α)} (h : ∀ e ∈ l, Text.lower e.1 = e.1) :
    (ofList l).Folded :=
  List.foldlRecOn l (motive := Folded) _ .empty fun _ hm e he => hm.insert (h e he) e.2

/-- Folding all names makes them folded. -/
theorem Folded.rekey (m : NameMap α) : (m.rekey Text.lower).Folded := by
  refine .ofList fun e he => ?_
  obtain ⟨e', -, rfl⟩ := List.mem_map.1 he
  exact Text.lower_lower _

/-- Names that are folded are not changed by folding them. -/
theorem Folded.rekey_eq_self (h : m.Folded) : m.rekey Text.lower = m :=
  NameMap.rekey_eq_self fun k hk => h k (mem_keys_iff.1 hk)

end NameMap

/-- Schemas that were merged stand under folded names. -/
theorem Visiting.folded_fold (v : Visiting) (database : String) (found : NameMap Schema) :
    (v.fold database found).Folded :=
  List.foldlRecOn _ (motive := NameMap.Folded) _ .empty fun _ hm e _ => hm.insert_lower e.1 _

/-- What is found stands under folded names. -/
theorem Site.folded_findings {s : Site} {m : Material} {tables : Option (List String)}
    {found : NameMap Schema} (h : s.findings m tables = .ok found) : found.Folded := by
  obtain ⟨reported, -, rfl⟩ := findings_eq_ok.1 h
  exact s.visiting.folded_fold m.database reported

/-- A default schema has a folded name, whether it is named after the database or not. -/
theorem Dialect.lower_defaultSchema (d : Dialect) (database : String) :
    Text.lower (d.defaultSchema database) = d.defaultSchema database := by
  have hpublic : Text.lower "public" = "public" := by decide
  cases d with
  | postgreSQL => exact hpublic
  | openGauss => exact hpublic
  | _ => exact Text.lower_lower database

/-! ### Order -/

/-- A database **in order**: its names are folded, and its routes can be loaded. -/
structure Database.InOrder (d : Database) : Prop where
  name : Text.lower d.name = d.name
  schemas : d.schemas.Folded
  loadable : d.Loadable

/-- A snapshot **in order**: every database is, and stands under its name. -/
structure Snapshot.InOrder (s : Snapshot) : Prop where
  keyed : s.catalog.databases.KeyedBy Database.name
  databases : ∀ k d, s.catalog.databases.get? k = some d → d.InOrder

namespace Snapshot.InOrder

variable {s : Snapshot}

/-- Databases stand under their names, so these names are folded. -/
theorem folded (h : s.InOrder) : s.catalog.databases.Folded := by
  intro k hk
  obtain ⟨d, hd⟩ := Option.isSome_iff_exists.1 hk
  rw [h.keyed k d hd]
  exact (h.databases k d hd).name

theorem database (h : s.InOrder) {name : String} {d : Database} (hd : s.database? name = some d) :
    d.InOrder :=
  h.databases _ d hd

/-- A database that is found bears the folded name. -/
theorem name_eq (h : s.InOrder) {name : String} {d : Database} (hd : s.database? name = some d) :
    d.name = Text.lower name :=
  (h.keyed _ d hd).symm

/-- Putting a database under its folded name keeps the names of the databases folded. -/
theorem folded_databasesWith (h : s.InOrder) {d : Database} (hd : Text.lower d.name = d.name) :
    (s.catalog.databasesWith d).Folded :=
  h.folded.insert hd d

end Snapshot.InOrder

/-! ### Assembly -/

/-- A database **assembled** under a folded name from these pools. -/
structure Database.Assembled (d : Database) (name : String) (pools : Pools) : Prop where
  name_eq : d.name = name
  pools_eq : d.pools = pools
  folded : Text.lower d.name = d.name
  schemas : d.schemas.Folded
  loaded : d.Loaded

/-- However it was assembled, a database is in order. -/
theorem Database.Assembled.inOrder {d : Database} {name : String} {pools : Pools}
    (h : d.Assembled name pools) : d.InOrder :=
  ⟨h.folded, h.schemas, h.loaded.loadable⟩

namespace Assembly

open Site

variable {reg : Registry} {name : String} {pools : Pools} {configs : List RuleConfig}
  {props : Properties} {s t : Site} {d : Database}

/-- The default schema is there in any case, without objects if it was not there before. -/
theorem get?_withDefault (schemas : NameMap Schema) (name k : String) :
    (withDefault schemas name).get? k =
      (schemas.get? k).or (if name = k then some ∅ else none) := by
  rw [withDefault]
  split
  · next hname =>
    split
    · next hk =>
      obtain ⟨content, hcontent⟩ := Option.isSome_iff_exists.1 hname
      rw [← hk, hcontent]
      rfl
    · rw [Option.or_none]
  · next hname =>
    rw [NameMap.get?_insert]
    split
    · next hk =>
      rw [NameMap.contains, Option.not_isSome_iff_eq_none, hk] at hname
      rw [hname]
      rfl
    · rw [Option.or_none]

/-- The default schema joins the others under a folded name. -/
theorem folded_withDefault {schemas : NameMap Schema} (h : schemas.Folded) {name : String}
    (hn : Text.lower name = name) : (withDefault schemas name).Folded := by
  rw [withDefault]
  split
  · exact h
  · exact h.insert hn ∅

/-- Where the rules are built with the schemas at hand, the routes of the database are loaded. -/
theorem loaded_of_buildDatabase {protocol : Dialect} {schemas : NameMap Schema} {rules : RuleSet}
    (hs : schemas.Folded) (h : reg.buildDatabase name configs pools (some schemas) = .ok rules) :
    (Database.make name protocol pools rules schemas).Loaded := by
  intro c r hr
  simp only [Database.make, hs.rekey_eq_self]
  rw [SingleConfig.load_lower]
  exact Registry.load_of_buildDatabase h (RuleSet.mem_of_router? hr)

/-- **A database from the store** is made of what is stored for it, and nothing is done to the
site. -/
theorem fromStore_ok (h : (fromStore reg name pools configs props).run s = (.ok d, t)) :
    ∃ protocol rules, props.protocol pools.dialects = .ok protocol ∧
      let schemas := withDefault (s.visiting.fold name (s.store.node name).schemas)
        (protocol.defaultSchema name)
      reg.buildDatabase name configs pools (some schemas) = .ok rules ∧
        d = .make name protocol pools rules schemas ∧ t = s := by
  obtain ⟨protocol, s₁, hresolved, h⟩ := SiteM.run_bind_ok.1 h
  obtain ⟨found, s₂, hfound, h⟩ := SiteM.run_bind_ok.1 h
  obtain ⟨schemas, s₃, hfolded, h⟩ := SiteM.run_bind_ok.1 h
  obtain ⟨rules, s₄, hbuilt, h⟩ := SiteM.run_bind_ok.1 h
  obtain ⟨rfl, rfl⟩ := SiteM.run_pure_ok.1 h
  obtain ⟨hprotocol, rfl⟩ := SiteM.run_ofExcept_ok.1 hresolved
  obtain ⟨rfl, rfl⟩ := readStore_ok hfound
  rw [run_foldNames] at hfolded
  obtain ⟨hschemas, rfl⟩ := Prod.mk.inj hfolded
  obtain rfl := Except.ok.inj hschemas
  obtain ⟨hrules, rfl⟩ := SiteM.run_ofExcept_ok.1 hbuilt
  exact ⟨protocol, rules, hprotocol, hrules, rfl, rfl⟩

/-- A database from the store is built with its schemas at hand, so its routes are loaded. -/
theorem assembled_of_fromStore (hn : Text.lower name = name)
    (h : (fromStore reg name pools configs props).run s = (.ok d, t)) :
    d.Assembled name pools := by
  obtain ⟨protocol, rules, -, hrules, rfl, -⟩ := fromStore_ok h
  have hfolded := folded_withDefault (s.visiting.folded_fold name (s.store.node name).schemas)
    (protocol.lower_defaultSchema name)
  exact ⟨hn, rfl, Text.lower_lower name, .rekey _, loaded_of_buildDatabase hfolded hrules⟩

/-- A database from the storage engines loads its routes last. -/
theorem assembled_of_fromEngines (hn : Text.lower name = name)
    (h : (fromEngines reg name pools configs props).run s = (.ok d, t)) :
    d.Assembled name pools := by
  obtain ⟨protocol, s₁, -, h⟩ := SiteM.run_bind_ok.1 h
  obtain ⟨rules, s₂, -, h⟩ := SiteM.run_bind_ok.1 h
  obtain ⟨reported, s₃, -, h⟩ := SiteM.run_bind_ok.1 h
  obtain ⟨schemas, s₄, -, h⟩ := SiteM.run_bind_ok.1 h
  obtain ⟨hreload, -⟩ := SiteM.run_ofExcept_ok.1 h
  have hloaded := Database.loaded_of_reloadRoutes hreload
  obtain ⟨f, rfl⟩ := Database.reloadRoutes_rest hreload
  exact ⟨hn, rfl, Text.lower_lower name, NameMap.Folded.rekey _, hloaded⟩

/-- A database that comes from the store is asked for, and nothing else is done. -/
theorem reading_fromStore (reg : Registry) (name : String) (pools : Pools)
    (configs : List RuleConfig) (props : Properties) :
    (fromStore reg name pools configs props).Within Reading :=
  .bind (.ofExcept _) fun _ => .bind (reading_readStore _ _) fun _ =>
    .bind (reading_foldNames _ _) fun _ => .bind (.ofExcept _) fun _ => .pure _

theorem reading_withStoredViews (database : String) (schemas : NameMap Schema) :
    (withStoredViews database schemas).Within Reading :=
  .bind (.mapM _ fun _ => .bind (reading_readStore _ _) fun _ => .pure _) fun _ => .pure _

/-- A database that comes from the storage engines is asked for, and nothing else is done. -/
theorem reading_fromEngines (reg : Registry) (name : String) (pools : Pools)
    (configs : List RuleConfig) (props : Properties) :
    (fromEngines reg name pools configs props).Within Reading :=
  .bind (.ofExcept _) fun _ => .bind (.ofExcept _) fun _ =>
    .bind (reading_discover _ _) fun _ => .bind (reading_withStoredViews _ _) fun _ =>
      .ofExcept _

end Assembly

end ProxyCatalog
