import ProxyCatalog.Proofs.Loading

/-!
# Precedence among routes

Loading the routes of a single-table rule goes through its entries, each of which overwrites what an
earlier one said, and then through the objects of the schemas, none of which overwrites anything.
What comes of it is said here for each table by itself: the last entry for the table decides, or
else there is one pool for all tables that exist and that nothing distributes.

* `Database.Resolves`: what the text of an entry means.
* `Database.route?_of_reload`: the route of a table after a load.
* `Database.reloadRoutes_error_iff`: the reasons for which a load fails.
* `SingleConfig.at?_foldl_fillSchema_perm`: the order in which the schemas are visited makes no
  difference.
-/

namespace ProxyCatalog

/-! ### Entries -/

/-- The parts of the text of an entry, between which there are points. -/
def SingleEntry.parts (text : String) : List String :=
  (text.toList.splitOn '.').map String.ofList

theorem SingleEntry.parse?_eq (text : String) :
    parse? text = match parts text with
      | [pool, table] => some ⟨pool, none, table⟩
      | [pool, schema, table] => some ⟨pool, some schema, table⟩
      | _ => none := rfl

/-- An entry can be read and names a pool if it has two or three parts and the first one is a
pool. -/
theorem SingleEntry.readable_iff {pools : Pools} {text : String} :
    (∃ e, parse? text = some e ∧ pools.contains e.pool) ↔
      ((parts text).length = 2 ∨ (parts text).length = 3) ∧
        ∀ pool ∈ (parts text).head?, pools.contains pool := by
  rw [parse?_eq]
  -- By the number of the parts: none, one, two, three or more.
  rcases parts text with _ | ⟨pool, _ | ⟨_, _ | ⟨_, _ | ⟨_, _⟩⟩⟩⟩ <;> simp

namespace Database

/-- The text of an entry **resolves** to a table in a pool, the names of the table folded. Where the
text names no schema, it is the default one of the storage engine behind the pool. -/
inductive Resolves (d : Database) (text : String) : String → String → String → Prop
  | short {pool table : String} {u : StorageUnit} (htext : SingleEntry.parts text = [pool, table])
      (hpool : d.pools.get? pool = some u) :
      Resolves d text pool (u.dialect.defaultSchema d.name) (Text.lower table)
  | full {pool schema table : String} (htext : SingleEntry.parts text = [pool, schema, table])
      (hpool : d.pools.contains pool) :
      Resolves d text pool (Text.lower schema) (Text.lower table)

/-- The last entry that resolves to the table resolves to it in this pool. -/
def LastListed (d : Database) (c : SingleConfig) (schema table pool : String) : Prop :=
  ∃ before text after, c.entries = before ++ text :: after ∧
    d.Resolves text pool (Text.lower schema) (Text.lower table) ∧
      ∀ later ∈ after, ∀ pool', ¬ d.Resolves later pool' (Text.lower schema) (Text.lower table)

/-- No entry resolves to the table. -/
def Unlisted (d : Database) (c : SingleConfig) (schema table : String) : Prop :=
  ∀ text ∈ c.entries, ∀ pool, ¬ d.Resolves text pool (Text.lower schema) (Text.lower table)

/-- The pool is the configured default pool, or there is none configured and it is the first one of
the database by name. -/
def IsFallback (d : Database) (c : SingleConfig) (pool : String) : Prop :=
  c.defaultPool = some pool ∨ c.defaultPool = none ∧ d.pools.contains pool ∧
    ∀ other, d.pools.contains other → other ≠ pool → pool < other

/-- The table **leads** to the pool: by the last entry for it, or else because it exists, nothing
distributes it, and the pool is the fallback. -/
def Leads (d : Database) (c : SingleConfig) (schema table pool : String) : Prop :=
  d.LastListed c schema table pool ∨
    (d.Unlisted c schema table ∧ d.holds schema table ∧ d.rules.distributes table = false ∧
      d.IsFallback c pool)

/-- An entry is **faulty** if it has not two or three parts, or the first one is not a pool. -/
def Faulty (d : Database) (text : String) : Prop :=
  ((SingleEntry.parts text).length ≠ 2 ∧ (SingleEntry.parts text).length ≠ 3) ∨
    ∃ pool rest, SingleEntry.parts text = pool :: rest ∧ ¬ d.pools.contains pool

variable {d d' : Database} {c : SingleConfig} {r : Routes} {schema table pool text : String}

/-- Entries mean what a load makes of them. -/
theorem resolves_iff :
    d.Resolves text pool schema table ↔ d.pools.contains pool ∧
      SingleEntry.poolFor? d.name (some d.pools) schema table text = some pool := by
  rw [SingleEntry.poolFor?_eq_some, SingleEntry.parse?_eq]
  constructor
  · intro h
    cases h with
    | @short table u htext hpool =>
      have hcontains : d.pools.contains pool := by
        rw [NameMap.contains, hpool]
        rfl
      refine ⟨hcontains, ⟨pool, none, table⟩, by rw [htext], ⟨?_, rfl⟩, rfl⟩
      rw [SingleEntry.schema, Option.bind_some, hpool]
      rfl
    | @full schema table htext hpool =>
      exact ⟨hpool, ⟨pool, some schema, table⟩, by rw [htext], ⟨rfl, rfl⟩, rfl⟩
  · rintro ⟨hpool, e, he, ⟨rfl, rfl⟩, rfl⟩
    split at he
    · next pool table htext =>
      obtain rfl := Option.some.inj he
      obtain ⟨u, hu⟩ := Option.isSome_iff_exists.1 hpool
      rw [SingleEntry.schema, Option.bind_some, hu]
      exact .short htext hu
    · next pool schema table htext =>
      obtain rfl := Option.some.inj he
      exact .full htext hpool
    · cases he

/-- An entry that is not faulty can be read, and names a pool. -/
theorem not_faulty_iff :
    ¬ d.Faulty text ↔ ∃ e, SingleEntry.parse? text = some e ∧ d.pools.contains e.pool := by
  rw [SingleEntry.readable_iff, Faulty]
  cases SingleEntry.parts text with
  | nil => simp
  | cons pool rest => simp [Decidable.or_iff_not_imp_left]

/-! ### The pool of a table -/

section

variable (h : ∀ text ∈ c.entries, ¬ d.Faulty text)
include h

private theorem poolFor?_eq_some (hmem : text ∈ c.entries) :
    SingleEntry.poolFor? d.name (some d.pools) schema table text = some pool ↔
      d.Resolves text pool schema table := by
  refine resolves_iff.trans ⟨And.right, fun hpool => ⟨?_, hpool⟩⟩ |>.symm
  obtain ⟨e, he, -, rfl⟩ := SingleEntry.poolFor?_eq_some.1 hpool
  obtain ⟨e', he', hcontains⟩ := not_faulty_iff.1 (h text hmem)
  obtain rfl := Option.some.inj (he.symm.trans he')
  exact hcontains

private theorem poolFor?_eq_none (hmem : text ∈ c.entries) :
    SingleEntry.poolFor? d.name (some d.pools) schema table text = none ↔
      ∀ pool, ¬ d.Resolves text pool schema table := by
  rw [Option.eq_none_iff_forall_ne_some]
  exact forall_congr' fun pool => not_congr (poolFor?_eq_some h hmem)

/-- Where no entry is faulty, the last one for a table is the one that a load goes by. -/
private theorem lastListed_iff :
    d.LastListed c schema table pool ↔
      c.entries.reverse.findSome? (SingleEntry.poolFor? d.name (some d.pools) (Text.lower schema)
        (Text.lower table)) = some pool := by
  rw [List.findSome?_eq_some_iff]
  constructor
  · rintro ⟨before, text, after, hentries, htext, hafter⟩
    have hmem (x : String) (hx : x ∈ text :: after) : x ∈ c.entries :=
      hentries ▸ List.mem_append_right before hx
    refine ⟨after.reverse, text, before.reverse, by simp [hentries], ?_, fun x hx => ?_⟩
    · exact (poolFor?_eq_some h (hmem text List.mem_cons_self)).2 htext
    · have hx := List.mem_reverse.1 hx
      exact (poolFor?_eq_none h (hmem x (List.mem_cons_of_mem _ hx))).2 (hafter x hx)
  · rintro ⟨after, text, before, hentries, htext, hafter⟩
    have hentries : c.entries = before.reverse ++ text :: after.reverse := by
      rw [← List.reverse_reverse c.entries, hentries]
      simp
    have hmem (x : String) (hx : x ∈ text :: after.reverse) : x ∈ c.entries :=
      hentries ▸ List.mem_append_right before.reverse hx
    refine ⟨before.reverse, text, after.reverse, hentries, ?_, fun x hx => ?_⟩
    · exact (poolFor?_eq_some h (hmem text List.mem_cons_self)).1 htext
    · have hx' := List.mem_reverse.1 hx
      exact (poolFor?_eq_none h (hmem x (List.mem_cons_of_mem _ hx))).1 (hafter x hx')

private theorem unlisted_iff :
    d.Unlisted c schema table ↔
      c.entries.reverse.findSome? (SingleEntry.poolFor? d.name (some d.pools) (Text.lower schema)
        (Text.lower table)) = none := by
  rw [List.findSome?_eq_none_iff]
  constructor
  · intro hnone x hx
    exact (poolFor?_eq_none h (List.mem_reverse.1 hx)).2 (hnone x (List.mem_reverse.1 hx))
  · intro hnone x hx
    exact (poolFor?_eq_none h hx).1 (hnone x (List.mem_reverse.2 hx))

end

theorem isFallback_iff : d.IsFallback c pool ↔ c.fallbackPool? (some d.pools) = some pool := by
  rw [IsFallback, SingleConfig.fallbackPool?, Option.or_eq_some_iff, Option.bind_some,
    NameMap.head?_keys_eq_some_iff]

/-- **The route of a table after a load.** -/
theorem route?_of_reload (hr : d.rules.router? = some (c, r)) (h : d.reloadRoutes = .ok d')
    (schema table pool : String) :
    d'.rules.route? schema table = some pool ↔ d.Leads c schema table pool := by
  obtain ⟨f, rfl⟩ := reloadRoutes_rest h
  have hr' : (d.rules.mapRoutes f).router? = some (c, f r) := by
    rw [RuleSet.router?_mapRoutes, hr]
    rfl
  obtain ⟨listed, hl, hroute⟩ := (loaded_of_reloadRoutes h).route? hr'
  have hread : ∀ text ∈ c.entries, ¬ d.Faulty text := fun text hmem =>
    not_faulty_iff.2 ((SingleConfig.pools_of_listedRoutes hl).1 text hmem)
  rw [Leads, lastListed_iff hread, unlisted_iff hread, isFallback_iff, hroute, Routes.find?,
    SingleConfig.at?_listedRoutes hl, Option.or_eq_some_iff, RuleSet.distributes_mapRoutes,
    Option.ite_none_right_eq_some, Bool.and_eq_true, Bool.not_eq_true', and_assoc]
  rfl

/-- **A load fails** for a faulty entry, or for a default pool that does not exist. -/
theorem reloadRoutes_error_iff (hr : d.rules.router? = some (c, r)) :
    (∃ e, d.reloadRoutes = .error e) ↔
      (∃ text ∈ c.entries, d.Faulty text) ∨
        ∃ ds, c.defaultPool = some ds ∧ ¬ d.pools.contains ds := by
  have hloadable : d.Loadable ↔ c.Loadable d.name d.pools := by
    refine ⟨fun h => h c r hr, fun h c' r' hr' => ?_⟩
    obtain ⟨rfl, rfl⟩ := Prod.mk.inj (Option.some.inj (hr.symm.trans hr'))
    exact h
  have herror : (∃ e, d.reloadRoutes = .error e) ↔ ¬ ∃ d', d.reloadRoutes = .ok d' := by
    cases d.reloadRoutes with
    | error e => exact ⟨fun _ => by rintro ⟨_, ⟨⟩⟩, fun _ => ⟨e, rfl⟩⟩
    | ok d' => exact ⟨by rintro ⟨_, ⟨⟩⟩, fun h => absurd ⟨d', rfl⟩ h⟩
  rw [herror, reloadRoutes_isOk_iff, hloadable, SingleConfig.loadable_iff,
    Classical.not_and_iff_not_or_not]
  simp only [← not_faulty_iff, Classical.not_forall, Classical.not_not, exists_prop]

/-- **A reload of the single-table rule.** After one that succeeds, a table has a route exactly if
it leads to some pool, and then to that one. It fails exactly if some entry is faulty or the
default pool does not exist. -/
theorem routes_reloaded (hr : d.rules.router? = some (c, r)) :
    (∀ d', d.reloadRoutes = .ok d' → ∀ schema table pool,
      d'.rules.route? schema table = some pool ↔ d.Leads c schema table pool) ∧
    ((∃ e, d.reloadRoutes = .error e) ↔
      (∃ text ∈ c.entries, d.Faulty text) ∨
        ∃ ds, c.defaultPool = some ds ∧ ¬ d.pools.contains ds) :=
  ⟨fun _ h => route?_of_reload hr h, reloadRoutes_error_iff hr⟩

/-- Two entries, the later one for a table of which the earlier one speaks as well. -/
private def twoEntries : SingleConfig :=
  ⟨["ds_0.t_order", "ds_1.Foo_DB.T_Order"], none⟩

/-- A database with these entries, two pools and two tables. -/
private def twoTables : Database where
  name := "foo_db"
  protocol := .mySQL
  pools := .ofList [("ds_0", ⟨⟨"", ∅⟩, ⟨"ds_0", 1⟩, .mySQL⟩),
    ("ds_1", ⟨⟨"", ∅⟩, ⟨"ds_1", 2⟩, .postgreSQL⟩)]
  rules := [.single twoEntries ∅]
  schemas := .single "foo_db" (.ofLists [⟨"t_order", [], [], []⟩, ⟨"t_item", [], [], []⟩] [])

/-- The later entry decides for its table, and the other table goes to the first pool. -/
theorem later_entry_decides :
    ∃ d', twoTables.reloadRoutes = .ok d' ∧
      d'.rules.route? "foo_db" "T_ORDER" = some "ds_1" ∧
        d'.rules.route? "foo_db" "T_ITEM" = some "ds_0" := by
  obtain ⟨hroute, hfail⟩ := routes_reloaded (d := twoTables) (c := twoEntries) (r := ∅) rfl
  have hok : twoTables.reloadRoutes.toOption.isSome := by decide +kernel
  cases h : twoTables.reloadRoutes with
  | error e => rw [h] at hok; cases hok
  | ok d' =>
    have hread (text : String) (hmem : text ∈ twoEntries.entries) : ¬ twoTables.Faulty text := by
      intro hfaulty
      obtain ⟨e, he⟩ := hfail.2 (.inl ⟨text, hmem, hfaulty⟩)
      rw [h] at he
      cases he
    refine ⟨d', rfl, (hroute d' h _ _ _).2 (.inl ?_), (hroute d' h _ _ _).2 (.inr ⟨?_, ?_⟩)⟩
    · exact (lastListed_iff hread).2 (by decide +kernel)
    · exact (unlisted_iff hread).2 (by decide +kernel)
    · exact ⟨by decide +kernel, by decide +kernel, isFallback_iff.2 (by decide +kernel)⟩

end Database

namespace SingleConfig

/-- The order in which schemas are visited makes no difference to the routes of their objects. -/
theorem at?_foldl_fillSchema_perm (rules : RuleSet) (fallback : String) (routes : Routes)
    {schemas : NameMap Schema} {l : List (String × Schema)} (h : l.Perm schemas.entries)
    (s t : String) :
    (l.foldl (fun routes e => fillSchema rules fallback routes e.1 e.2) routes).at? s t =
      (fill rules fallback routes schemas).at? s t := by
  rw [fill, at?_foldl_fillSchema, at?_foldl_fillSchema, h.any_eq]

end SingleConfig

end ProxyCatalog
