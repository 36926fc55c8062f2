import ProxyCatalog.Proofs.Integrity
import ProxyCatalog.Proofs.Proper

/-!
# Canonical names

All maps of a proxy that stand for names in any spelling hold their entries under canonical names:
those of databases, schemas, tables and views in the catalog, those of the row cache, those of the
store, and those of the routes of every single-table rule. That folding a name again changes nothing
(`Text.lower_lower`) is all that is used of folding.

* `NameMap.Canonical`: the names are folded. Hence an entry is found under every spelling of its
  name, and no two names are spellings of one.
* `Routes.AllFolded`: schemas and tables of routes are folded. A load keeps it although it routes
  objects under names that it takes as they are, since these come from schemas in order, and so do
  putting and forgetting single routes.
* `World.Reachable.routes_folded`: the routes of all rules of an installed database are folded, not
  only those of the first single-table rule.
* `World.canonical_names`: the whole.
-/

namespace ProxyCatalog

/-! ### Maps -/

namespace NameMap

variable {α : Type} {m : NameMap α}

/-- A map under **canonical** names. Whoever looks up a name folds it first. -/
structure Canonical (m : NameMap α) : Prop where
  folded : ∀ k, m.contains k → Text.lower k = k
  /-- An entry is found under any spelling of its name. -/
  found : ∀ k v, m.get? k = some v → ∀ x, Text.lower x = Text.lower k →
    m.get? (Text.lower x) = some v
  /-- No two names differ in their spelling only. -/
  apart : ∀ k k', m.contains k → m.contains k' → Text.lower k = Text.lower k' → k = k'

theorem contains_of_get? {k : String} {v : α} (h : m.get? k = some v) : m.contains k := by
  rw [contains, h]
  rfl

/-- What stands under folded names is found in any spelling. -/
theorem Folded.canonical (h : m.Folded) : m.Canonical where
  folded := h
  found k v hv x hx := by
    rw [hx, h k (contains_of_get? hv)]
    exact hv
  apart k k' hk hk' he := by
    rw [← h k hk, he, h k' hk']

end NameMap

/-! ### Routes -/

/-- The schemas of the routes are **folded**, and the tables of every schema. -/
def Routes.AllFolded (r : Routes) : Prop :=
  NameMap.Throughout (fun _ => NameMap.Folded) r

namespace Routes.AllFolded

variable {r : Routes} {schema table : String}

/-- A route between folded names may be put. -/
theorem put (h : r.AllFolded) (hs : Text.lower schema = schema) (ht : Text.lower table = table)
    (pool : String) : (r.put schema table pool).AllFolded := by
  refine NameMap.Throughout.insert h hs (NameMap.Folded.insert ?_ ht pool)
  rw [NameMap.getD]
  cases htables : r.get? schema with
  | none => exact .empty
  | some tables => exact h.entry schema tables htables

theorem putNew (h : r.AllFolded) (hs : Text.lower schema = schema) (ht : Text.lower table = table)
    (pool : String) : (r.putNew schema table pool).AllFolded := by
  rw [Routes.putNew]
  split
  · exact h
  · exact h.put hs ht pool

theorem remove (h : r.AllFolded) (schema table : String) : (r.remove schema table).AllFolded := by
  rw [Routes.remove]
  split
  · exact h
  · next tables htables =>
    dsimp only
    split
    · exact NameMap.Throughout.erase h _
    · exact NameMap.Throughout.insert h (Text.lower_lower schema)
        ((h.entry _ tables htables).erase _)

end Routes.AllFolded

/-! ### Loads -/

/-- The schema of an entry is folded, the one that it names or the default one. -/
theorem SingleEntry.lower_schema (e : SingleEntry) (database : String) (pools : Option Pools) :
    Text.lower (e.schema database pools) = e.schema database pools := by
  rw [schema]
  split
  · exact Text.lower_lower _
  · exact Dialect.lower_defaultSchema _ database

/-- The names of the objects of a schema are folded. -/
theorem Schema.lower_of_mem_objectNames {s : Schema} {name : String} (h : name ∈ s.objectNames) :
    Text.lower name = name := by
  rcases List.mem_append.1 h with h | h
  · exact lower_of_mem_tables h
  · exact lower_of_mem_views h

namespace SingleConfig

variable {c : SingleConfig} {database : String} {pools : Option Pools} {routes routes' : Routes}

/-- What putting one route keeps, holds of the routes of all listed entries. -/
theorem listedRoutes_kept {P : Routes → Prop} (h : c.listedRoutes database pools = .ok routes)
    (hempty : P ∅) (hput : ∀ (r : Routes) (e : SingleEntry), P r →
      P (r.put (e.schema database pools) (Text.lower e.table) e.pool)) : P routes := by
  have hfold (texts : List String) {start : Routes} (hstart : P start)
      (h : texts.foldlM (routeEntry database pools) start = .ok routes) : P routes := by
    induction texts generalizing start with
    | nil => exact Except.ok.inj h ▸ hstart
    | cons text texts ih =>
      rw [List.foldlM_cons] at h
      obtain ⟨next, hnext, h⟩ := Except.bind_eq_ok h
      refine ih ?_ h
      rw [routeEntry] at hnext
      split at hnext
      · cases hnext
      · next e he =>
        split at hnext
        · exact Except.ok.inj hnext ▸ hput start e hstart
        · cases hnext
  exact hfold c.entries hempty h

/-- The routes that are listed stand under folded names, however the entries are spelled. -/
theorem folded_listedRoutes (h : c.listedRoutes database pools = .ok routes) :
    routes.AllFolded :=
  listedRoutes_kept h .empty fun _ e hr =>
    hr.put (e.lower_schema database pools) (Text.lower_lower e.table) e.pool

/-- The routes that are filled in stand under the names of schemas and tables, which are folded. -/
theorem folded_fill {schemas : NameMap Schema} (hs : schemas.Folded) (h : routes.AllFolded)
    (rules : RuleSet) (fallback : String) : (fill rules fallback routes schemas).AllFolded := by
  refine List.foldlRecOn schemas.entries (motive := Routes.AllFolded) _ h fun routes h e he => ?_
  have hname : Text.lower e.1 = e.1 :=
    hs e.1 (NameMap.contains_of_get? (NameMap.mem_entries_iff.1 he))
  refine List.foldlRecOn _ (motive := Routes.AllFolded) _ h fun routes h t ht => ?_
  exact h.putNew hname (Schema.lower_of_mem_objectNames (List.mem_filter.1 ht).1) fallback

/-- **A load against schemas in order gives folded routes.** -/
theorem folded_load {schemas : Option (NameMap Schema)} {rules : RuleSet}
    (hs : ∀ s, schemas = some s → s.Folded) (h : c.load database pools schemas rules = .ok routes) :
    routes.AllFolded := by
  obtain ⟨listed, hl, h⟩ := Except.bind_eq_ok h
  obtain ⟨u, -, h⟩ := Except.bind_eq_ok h
  have hlisted := folded_listedRoutes hl
  cases schemas with
  | none => exact Except.ok.inj h ▸ hlisted
  | some s =>
    cases hfallback : c.fallbackPool? pools with
    | none =>
      rw [hfallback] at h
      exact Except.ok.inj h ▸ hlisted
    | some fallback =>
      rw [hfallback] at h
      obtain rfl := Except.ok.inj h
      exact folded_fill (hs s rfl) hlisted rules fallback

end SingleConfig

/-! ### Rules -/

/-- The routes of the rule, if it has any, are folded. -/
def Rule.RoutesFolded : Rule → Prop
  | .single _ r => r.AllFolded
  | _ => True

/-- Every rule that is built has its routes under folded names. -/
theorem Registry.routesFolded_of_buildDatabase {reg : Registry} {database : String}
    {cs : List RuleConfig} {pools : Pools} {schemas : Option (NameMap Schema)} {rules : RuleSet}
    (hs : ∀ s, schemas = some s → s.Folded)
    (h : reg.buildDatabase database cs pools schemas = .ok rules) :
    ∀ rule ∈ rules, rule.RoutesFolded := by
  refine forall_of_buildDatabase (fun built c rule hrule => ?_) h
  cases rule with
  | single c r => exact SingleConfig.folded_load hs (load_of_buildOne hrule)
  | _ => trivial

namespace Database

variable {d d' : Database}

/-- The schemas of the database and the routes of all its rules are **folded**. -/
structure RoutesFolded (d : Database) : Prop where
  schemas : d.schemas.Folded
  routes : ∀ rule ∈ d.rules, rule.RoutesFolded

namespace RoutesFolded

theorem forgetTable (h : d.RoutesFolded) (schema table : String) :
    (d.forgetTable schema table).RoutesFolded where
  schemas := h.schemas
  routes := RuleSet.forall_mapRoutes h.routes fun c r hr =>
    Routes.AllFolded.remove (h.routes (.single c r) (RuleSet.mem_of_router? hr)) schema table

theorem reloadRoutes (h : d.RoutesFolded) (hd' : d.reloadRoutes = .ok d') : d'.RoutesFolded := by
  obtain ⟨f, rfl, hload⟩ := reloadRoutes_ok hd'
  refine ⟨h.schemas, RuleSet.forall_mapRoutes h.routes fun c r hr => ?_⟩
  exact SingleConfig.folded_load (fun s hs => Option.some.inj hs ▸ h.schemas) (hload c r hr)

/-- Every revision keeps the routes folded. -/
theorem revision {m : Mutation} (h : d.RoutesFolded) (hrev : m.Revision d d') : d'.RoutesFolded :=
  hrev.kept (fun _ schema content h => ⟨h.schemas.insert_lower schema content, h.routes⟩)
    (fun _ _ h => ⟨h.schemas.erase _, h.routes⟩)
    (fun _ schema table h => h.forgetTable schema table)
    (fun _ _ hreload h => h.reloadRoutes hreload) h

end RoutesFolded

end Database

/-- **In every world that is reached the routes stand under folded names.** -/
theorem World.Reachable.routes_folded {w : World} (hw : w.Reachable) {name : String} {d : Database}
    (hd : w.proxy.snapshot.catalog.databases.get? name = some d) : d.RoutesFolded :=
  hw.forall_databases (P := fun _ d => d.RoutesFolded)
    (fun hknown hrules => ⟨.rekey _, Registry.routesFolded_of_buildDatabase hknown hrules⟩)
    (fun hrev hd => hd.revision hrev) (fun hreload hd => hd.reloadRoutes hreload) hd

/-! ### All maps -/

/-- Tables and views stand under the **canonical** form of their names. -/
structure Schema.Canonical (s : Schema) : Prop where
  tables : s.tables.Canonical
  tables_named : s.tables.KeyedBy fun t => Text.lower t.name
  views : s.views.Canonical
  views_named : s.views.KeyedBy fun v => Text.lower v.name

/-- Schemas and their objects stand under **canonical** names. -/
structure Schema.AllCanonical (schemas : NameMap Schema) : Prop where
  names : schemas.Canonical
  objects : ∀ name content, schemas.get? name = some content → content.Canonical

/-- Cached or persisted rows stand under **canonical** names, those of a table under its own. -/
structure DatabaseRows.Canonical (rows : DatabaseRows) : Prop where
  schemas : NameMap.Canonical rows
  tables : ∀ schema (content : SchemaRows), rows.get? schema = some content →
    NameMap.Canonical content ∧ NameMap.KeyedBy content TableRows.name

/-- The schemas of a database, and the routes of all its single-table rules, stand under
**canonical** names. -/
structure Database.Canonical (d : Database) : Prop where
  schemas : Schema.AllCanonical d.schemas
  routes : ∀ c r, .single c r ∈ d.rules → NameMap.Canonical r ∧
    ∀ schema tables, r.get? schema = some tables → tables.Canonical

/-- All that a query reads stands under **canonical** names, databases under their own. -/
structure Snapshot.Canonical (s : Snapshot) : Prop where
  databases : s.catalog.databases.Canonical
  databases_named : s.catalog.databases.KeyedBy Database.name
  contents : ∀ name d, s.catalog.databases.get? name = some d → d.Canonical
  cached : s.rows.databases.Canonical
  rows : ∀ name rows, s.rows.databases.get? name = some rows → rows.Canonical

/-- All that is stored stands under **canonical** names. -/
structure Store.Canonical (s : Store) : Prop where
  databases : s.databases.Canonical
  schemas : ∀ name n, s.databases.get? name = some n → Schema.AllCanonical n.schemas
  rows : ∀ name n, s.databases.get? name = some n → n.rows.Canonical

/-- Tables and views of a schema are found in any spelling of their names. -/
theorem Schema.canonical (s : Schema) : s.Canonical where
  tables := NameMap.Folded.canonical fun _ hk => lower_of_mem_tables (NameMap.mem_keys_iff.2 hk)
  tables_named := s.tables_keyed
  views := NameMap.Folded.canonical fun _ hk => lower_of_mem_views (NameMap.mem_keys_iff.2 hk)
  views_named := s.views_keyed

theorem Schema.allCanonical {schemas : NameMap Schema} (h : schemas.Folded) :
    AllCanonical schemas :=
  ⟨h.canonical, fun _ content _ => content.canonical⟩

theorem DatabaseRows.Proper.canonical {rows : DatabaseRows} (h : rows.Proper) :
    rows.Canonical where
  schemas := h.folded.canonical
  tables schema content hcontent :=
    have hproper := h.entry schema content hcontent
    ⟨hproper.folded.canonical, fun table t ht => (hproper.entry table t ht).1⟩

theorem Database.RoutesFolded.canonical {d : Database} (h : d.RoutesFolded) : d.Canonical where
  schemas := Schema.allCanonical h.schemas
  routes c r hr :=
    have hfolded : Routes.AllFolded r := h.routes (.single c r) hr
    ⟨hfolded.folded.canonical, fun schema tables ht => (hfolded.entry schema tables ht).canonical⟩

/-- A proper store is found in any spelling of its names. -/
theorem Store.Proper.canonical {s : Store} (h : s.Proper) : s.Canonical where
  databases := h.folded.canonical
  schemas name n hn := Schema.allCanonical (h.nodes name n hn).schemas
  rows name n hn := by
    have hrows := h.rows name
    rw [Store.node, node?, h.folded name (NameMap.contains_of_get? hn), hn] at hrows
    exact hrows.canonical

namespace World

variable {w : World}

/-- **Canonical names everywhere.** Whatever names came in, by mutations, rule configurations or
discovery, the installed snapshot and the store hold all that stands for a name in any spelling
under its folded form. So every spelling finds it, and nothing stands there twice. -/
theorem canonical_names (hw : w.Reachable) :
    w.proxy.snapshot.Canonical ∧ w.site.store.Canonical := by
  refine ⟨⟨hw.inOrder.folded.canonical, hw.inOrder.keyed, ?_, ?_, ?_⟩, hw.proper_store.canonical⟩
  · exact fun name d hd => (hw.routes_folded hd).canonical
  · exact hw.proper_rows.folded.canonical
  · exact fun name rows hrows => (hw.proper_rows.entry name rows hrows).canonical

/-- Names in mixed case come in by an operator, by rule configurations and by a storage engine. -/
private def mixedCase : List Move :=
  [.mutate (.changeCache (.addSchema "FOO_DB" "Cached")),
    .mutate (.changeCache (.addDatabase "Foo_Db")),
    .mutate (.alterRules "Foo_DB" [.single ⟨["ds_0.Listed.T_Item"], some "ds_0"⟩]),
    .change (.discovery fun _ _ => .ok (.single "Found" (.ofLists [⟨"T_User", [], [], []⟩] []))),
    .mutate (.addDatabase "BAR_db")]

/-- All of them are found in another spelling. -/
theorem found_in_any_spelling :
    let s := (Sample.world.after mixedCase).proxy.snapshot
    s.Canonical ∧ (Sample.world.after mixedCase).site.store.Canonical ∧
      s.table? "foo_DB" "FOUND" "t_USER" ≠ none ∧
      (s.database? "foo_DB").bind (·.rules.route? "LISTED" "t_item") = some "ds_0" ∧
      s.database? "bar_DB" ≠ none ∧ s.rows.schema? "foo_db" "CACHED" ≠ none := by
  obtain ⟨hsnapshot, hstore⟩ := canonical_names (Sample.started_world.reachable.after mixedCase)
  refine ⟨hsnapshot, hstore, ?_, ?_, ?_, ?_⟩ <;> decide +kernel

end World

end ProxyCatalog
