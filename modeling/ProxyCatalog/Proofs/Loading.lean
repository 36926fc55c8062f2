import ProxyCatalog.Database
import ProxyCatalog.Proofs.Listing

/-!
# What loading gives

The routes of a single-table rule are loaded as a whole: when the rule is built, and whenever a
change has the database load them anew. In between they are kept up to date one by one. This module
says what a load gives, whichever way it came about.

* `SingleConfig.at?_load`: an object is routed where its entry is listed, and otherwise to the
  fallback pool, provided that a schema has it and nothing distributes it.
* `SingleConfig.Loadable`: whether a load succeeds is a matter of the configuration and the pools
  alone (`load_isOk_iff`), as is the way in which it fails (`map_load`). The schemas and the other
  rules may change as they like.
* `Database.Loaded`: the routes are those that a load gives, as they are after every load
  (`loaded_of_reloadRoutes`). `Loaded.route?` says which pool each object is then routed to.
-/

namespace ProxyCatalog

/-! ### Listed entries -/

/-- The pool to which an entry routes a table, its names taken as they are, if it is an entry for
this table. -/
def SingleEntry.poolFor? (database : String) (pools : Option Pools) (schema table text : String) :
    Option String :=
  (parse? text).bind fun e =>
    if e.schema database pools = schema ∧ Text.lower e.table = table then some e.pool else none

theorem SingleEntry.poolFor?_eq_some {database : String} {pools : Option Pools}
    {schema table text pool : String} :
    poolFor? database pools schema table text = some pool ↔
      ∃ e, parse? text = some e ∧
        (e.schema database pools = schema ∧ Text.lower e.table = table) ∧ e.pool = pool := by
  simp only [poolFor?, Option.bind_eq_some_iff, Option.ite_none_right_eq_some, Option.some.injEq]

namespace SingleConfig

variable {c : SingleConfig} {database : String} {pools : Option Pools}

/-- The configuration **lists** a table, the names in any spelling. -/
def Lists (c : SingleConfig) (database : String) (pools : Option Pools) (schema table : String) :
    Prop :=
  ∃ text ∈ c.entries, ∃ e, SingleEntry.parse? text = some e ∧
    e.schema database pools = Text.lower schema ∧ Text.lower e.table = Text.lower table

/-- An entry that is routed can be read and names a known pool, to which its table then leads. -/
private theorem routeEntry_ok {routes routes' : Routes} {text : String}
    (h : routeEntry database pools routes text = .ok routes') :
    (∃ e, SingleEntry.parse? text = some e ∧ hasPool pools e.pool) ∧ ∀ s t,
      routes'.at? s t =
        (SingleEntry.poolFor? database pools s t text).or (routes.at? s t) := by
  rw [routeEntry] at h
  split at h
  · cases h
  · next e he =>
    split at h
    · next hpool =>
      obtain rfl := Except.ok.inj h
      refine ⟨⟨e, he, hpool⟩, fun s t => ?_⟩
      rw [Routes.at?_put, SingleEntry.poolFor?, he, Option.bind_some]
      split <;> rfl
    · cases h

/-- Entries that are routed in a row can all be read and name known pools, and the last one for a
table decides where it leads. -/
private theorem foldlM_routeEntry_ok {texts : List String} {routes routes' : Routes}
    (h : texts.foldlM (routeEntry database pools) routes = .ok routes') :
    (∀ text ∈ texts, ∃ e, SingleEntry.parse? text = some e ∧ hasPool pools e.pool) ∧ ∀ s t,
      routes'.at? s t =
        (texts.reverse.findSome? (SingleEntry.poolFor? database pools s t)).or
          (routes.at? s t) := by
  induction texts generalizing routes with
  | nil =>
    obtain rfl := Except.ok.inj h
    exact ⟨nofun, fun s t => rfl⟩
  | cons text texts ih =>
    rw [List.foldlM_cons] at h
    cases hr : routeEntry database pools routes text with
    | error e => rw [hr] at h; cases h
    | ok routes₁ =>
      rw [hr] at h
      obtain ⟨hreads, hat⟩ := routeEntry_ok hr
      obtain ⟨hread, hrest⟩ := ih h
      refine ⟨List.forall_mem_cons.2 ⟨hreads, hread⟩, fun s t => ?_⟩
      rw [hrest, hat, List.reverse_cons, List.findSome?_append, Option.or_assoc,
        List.findSome?_singleton]

/-- Entries that can be read and name known pools are routed. -/
private theorem foldlM_routeEntry {texts : List String} (routes : Routes)
    (h : ∀ text ∈ texts, ∃ e, SingleEntry.parse? text = some e ∧ hasPool pools e.pool) :
    ∃ listed, texts.foldlM (routeEntry database pools) routes = .ok listed := by
  induction texts generalizing routes with
  | nil => exact ⟨routes, rfl⟩
  | cons text texts ih =>
    obtain ⟨e, he, hpool⟩ := h text List.mem_cons_self
    have hone : routeEntry database pools routes text =
        .ok (routes.put (e.schema database pools) (Text.lower e.table) e.pool) := by
      rw [routeEntry, he]
      exact if_pos hpool
    rw [List.foldlM_cons, hone]
    exact ih _ fun text' hmem => h text' (List.mem_cons_of_mem _ hmem)

/-- **The listed routes.** A table leads to the pool of the last entry for it. -/
theorem at?_listedRoutes {listed : Routes} (h : c.listedRoutes database pools = .ok listed)
    (s t : String) :
    listed.at? s t = c.entries.reverse.findSome? (SingleEntry.poolFor? database pools s t) :=
  ((foldlM_routeEntry_ok h).2 s t).trans (Option.or_none)

/-- The tables with listed routes are the ones that the configuration lists. -/
theorem isSome_find?_listedRoutes {listed : Routes} {s t : String}
    (h : c.listedRoutes database pools = .ok listed) :
    (listed.find? s t).isSome ↔ c.Lists database pools s t := by
  rw [Routes.find?, at?_listedRoutes h, List.findSome?_isSome_iff]
  simp only [List.mem_reverse, Option.isSome_iff_exists, SingleEntry.poolFor?_eq_some, Lists]
  refine exists_congr fun text => and_congr_right fun _ => ?_
  constructor
  · rintro ⟨pool, e, he, hst, -⟩; exact ⟨e, he, hst⟩
  · rintro ⟨e, he, hst⟩; exact ⟨e.pool, e, he, hst, rfl⟩

/-- Every listed entry can be read and names a known pool, and no listed route leads elsewhere. -/
theorem pools_of_listedRoutes {listed : Routes} (h : c.listedRoutes database pools = .ok listed) :
    (∀ text ∈ c.entries, ∃ e, SingleEntry.parse? text = some e ∧ hasPool pools e.pool) ∧
      ∀ s t pool, listed.at? s t = some pool → hasPool pools pool := by
  have hread := (foldlM_routeEntry_ok h).1
  refine ⟨hread, fun s t pool hp => ?_⟩
  rw [at?_listedRoutes h] at hp
  obtain ⟨text, hmem, hpool⟩ := List.exists_of_findSome?_eq_some hp
  obtain ⟨e, he, -, rfl⟩ := SingleEntry.poolFor?_eq_some.1 hpool
  obtain ⟨e', he', hknown⟩ := hread text (List.mem_reverse.1 hmem)
  obtain rfl := Option.some.inj (he.symm.trans he')
  exact hknown

/-! ### Objects without a listed entry -/

/-- Some schema has a table or a view under these names, taken as they are. -/
def hasObject (schemas : NameMap Schema) (schema table : String) : Bool :=
  (schemas.get? schema).any fun content => content.objectNames.contains table

private theorem at?_foldl_putNew (names : List String) (routes : Routes) (name pool s t : String) :
    (names.foldl (fun routes t => routes.putNew name t pool) routes).at? s t =
      (routes.at? s t).or (if name = s ∧ t ∈ names then some pool else none) := by
  induction names generalizing routes with
  | nil => simp
  | cons x names ih =>
    rw [List.foldl_cons, ih, Routes.at?_putNew]
    by_cases hs : name = s
    · by_cases hx : x = t
      · subst hs hx
        cases routes.at? name x <;> simp
      · simp [hs, hx, Ne.symm hx]
    · simp [hs]

private theorem at?_fillSchema (rules : RuleSet) (fallback : String) (routes : Routes)
    (name : String) (schema : Schema) (s t : String) :
    (fillSchema rules fallback routes name schema).at? s t =
      (routes.at? s t).or
        (if (name == s && schema.objectNames.contains t) && !rules.distributes t then
          some fallback else none) := by
  rw [fillSchema, at?_foldl_putNew]
  congr 1
  simp only [List.mem_filter, Bool.and_eq_true, beq_iff_eq, List.contains_iff_mem, and_assoc]

/-- What schemas in a row are filled with. -/
theorem at?_foldl_fillSchema (rules : RuleSet) (fallback : String) (routes : Routes)
    (l : List (String × Schema)) (s t : String) :
    (l.foldl (fun routes e => fillSchema rules fallback routes e.1 e.2) routes).at? s t =
      (routes.at? s t).or (if (l.any fun e => e.1 == s && e.2.objectNames.contains t) &&
        !rules.distributes t then some fallback else none) := by
  induction l generalizing routes with
  | nil => simp
  | cons e l ih =>
    rw [List.foldl_cons, ih, at?_fillSchema, Option.or_assoc, List.any_cons]
    congr 1
    cases e.1 == s && e.2.objectNames.contains t <;>
      cases l.any fun e => e.1 == s && e.2.objectNames.contains t <;>
      cases rules.distributes t <;> rfl

theorem at?_fill (rules : RuleSet) (fallback : String) (routes : Routes)
    (schemas : NameMap Schema) (s t : String) :
    (fill rules fallback routes schemas).at? s t =
      (routes.at? s t).or
        (if hasObject schemas s t && !rules.distributes t then some fallback else none) := by
  have hany : (schemas.entries.any fun e => e.1 == s && e.2.objectNames.contains t) =
      hasObject schemas s t := by
    rw [hasObject, Bool.eq_iff_iff, List.any_eq_true, Option.any_eq_true]
    simp only [Bool.and_eq_true, beq_iff_eq]
    constructor
    · rintro ⟨⟨_, content⟩, hmem, rfl, ht⟩
      exact ⟨content, NameMap.mem_entries_iff.1 hmem, ht⟩
    · rintro ⟨content, hget, ht⟩
      exact ⟨(s, content), NameMap.mem_entries_iff.2 hget, rfl, ht⟩
  rw [fill, at?_foldl_fillSchema, hany]

/-! ### Loads -/

/-- With these pools the routes of the rule **can be loaded**. -/
def Loadable (c : SingleConfig) (database : String) (pools : Pools) : Prop :=
  ∃ listed, c.listedRoutes database (some pools) = .ok listed ∧
    c.checkDefault (some pools) = .ok ()

/-- Routes can be loaded exactly if every entry can be read and names a pool, and the default pool
is one. -/
theorem loadable_iff {pools : Pools} :
    c.Loadable database pools ↔
      (∀ text ∈ c.entries, ∃ e, SingleEntry.parse? text = some e ∧ pools.contains e.pool) ∧
        ∀ ds, c.defaultPool = some ds → pools.contains ds := by
  have hdefault : c.checkDefault (some pools) = .ok () ↔
      ∀ ds, c.defaultPool = some ds → pools.contains ds := by
    rw [checkDefault]
    cases c.defaultPool with
    | none => simp
    | some ds => by_cases hds : pools.contains ds <;> simp [hasPool, hds]
  constructor
  · rintro ⟨listed, hl, hd⟩
    exact ⟨(pools_of_listedRoutes hl).1, hdefault.1 hd⟩
  · rintro ⟨hread, hd⟩
    have hread : ∀ text ∈ c.entries, ∃ e, SingleEntry.parse? text = some e ∧
        hasPool (some pools) e.pool := hread
    obtain ⟨listed, hl⟩ := foldlM_routeEntry ∅ hread
    exact ⟨listed, hl, hdefault.2 hd⟩

/-- What a load gives: the listed routes, filled up with the objects of the schemas. -/
theorem load_eq_ok {pools : Pools} {schemas : NameMap Schema} {rules : RuleSet} {routes : Routes} :
    c.load database (some pools) (some schemas) rules = .ok routes ↔
      ∃ listed, c.listedRoutes database (some pools) = .ok listed ∧
        c.checkDefault (some pools) = .ok () ∧
        routes = match c.fallbackPool? (some pools) with
          | some fallback => fill rules fallback listed schemas
          | none => listed := by
  rw [load]
  cases hl : c.listedRoutes database (some pools) with
  | error e => exact ⟨nofun, by rintro ⟨_, ⟨⟩, _⟩⟩
  | ok listed =>
    cases hd : c.checkDefault (some pools) with
    | error e => exact ⟨nofun, by rintro ⟨_, _, ⟨⟩, _⟩⟩
    | ok u =>
      cases c.fallbackPool? (some pools) with
      | none =>
        constructor
        · intro h; exact ⟨listed, rfl, rfl, (Except.ok.inj h).symm⟩
        · rintro ⟨_, ⟨⟩, -, rfl⟩; rfl
      | some fallback =>
        constructor
        · intro h; exact ⟨listed, rfl, rfl, (Except.ok.inj h).symm⟩
        · rintro ⟨_, ⟨⟩, -, rfl⟩; rfl

/-- **What a load routes.** A listed table goes to the pool of its entry; any other object of the
schemas that nothing distributes goes to the fallback pool. -/
theorem at?_load {pools : Pools} {schemas : NameMap Schema} {rules : RuleSet} {routes : Routes}
    (h : c.load database (some pools) (some schemas) rules = .ok routes) :
    ∃ listed, c.listedRoutes database (some pools) = .ok listed ∧ ∀ s t,
      routes.at? s t = (listed.at? s t).or
        (if hasObject schemas s t && !rules.distributes t then c.fallbackPool? (some pools)
          else none) := by
  obtain ⟨listed, hl, -, rfl⟩ := load_eq_ok.1 h
  refine ⟨listed, hl, fun s t => ?_⟩
  cases c.fallbackPool? (some pools) with
  | none => simp
  | some fallback => exact at?_fill rules fallback listed schemas s t

/-- A route is listed, or nothing distributes the table and it leads to the fallback pool, whatever
is known of the schemas. -/
theorem at?_of_load {pools : Pools} {schemas : Option (NameMap Schema)} {rules : RuleSet}
    {routes : Routes} (h : c.load database (some pools) schemas rules = .ok routes) :
    ∃ listed, c.listedRoutes database (some pools) = .ok listed ∧ ∀ s t pool,
      routes.at? s t = some pool → listed.at? s t = some pool ∨
        rules.distributes t = false ∧ c.fallbackPool? (some pools) = some pool := by
  cases schemas with
  | none =>
    rw [load] at h
    cases hl : c.listedRoutes database (some pools) with
    | error e => rw [hl] at h; cases h
    | ok listed =>
      cases hd : c.checkDefault (some pools) with
      | error e => rw [hl, hd] at h; cases h
      | ok u =>
        rw [hl, hd] at h
        obtain rfl : listed = routes := Except.ok.inj h
        exact ⟨listed, rfl, fun s t pool hp => .inl hp⟩
  | some schemas =>
    obtain ⟨listed, hl, hat⟩ := at?_load h
    refine ⟨listed, hl, fun s t pool hp => ?_⟩
    rw [hat, Option.or_eq_some_iff] at hp
    refine hp.imp_right fun ⟨_, hp⟩ => ?_
    split at hp
    · next hfill =>
      rw [Bool.and_eq_true, Bool.not_eq_true'] at hfill
      exact ⟨hfill.2, hp⟩
    · cases hp

/-- What a load refuses is a matter of the configuration and the pools alone. -/
theorem map_load {α : Type} (c : SingleConfig) (database : String) (pools : Option Pools)
    (schemas : Option (NameMap Schema)) (rules : RuleSet) (a : α) :
    ((c.load database pools schemas rules).map fun _ => a) = do
      let _ ← c.listedRoutes database pools
      c.checkDefault pools
      return a := by
  rw [load]
  cases c.listedRoutes database pools with
  | error e => rfl
  | ok listed =>
    cases c.checkDefault pools with
    | error e => rfl
    | ok u =>
      cases schemas with
      | none => rfl
      | some schemas =>
        cases c.fallbackPool? pools with
        | none => rfl
        | some fallback => rfl

theorem load_isOk_iff {pools : Pools} {schemas : Option (NameMap Schema)} {rules : RuleSet} :
    (∃ routes, c.load database (some pools) schemas rules = .ok routes) ↔
      c.Loadable database pools := by
  rw [load]
  cases hl : c.listedRoutes database (some pools) with
  | error e => exact ⟨fun ⟨_, h⟩ => (by cases h), fun ⟨_, h, _⟩ => by rw [hl] at h; cases h⟩
  | ok listed =>
    cases hd : c.checkDefault (some pools) with
    | error e => exact ⟨fun ⟨_, h⟩ => (by cases h), fun ⟨_, _, h⟩ => by rw [hd] at h; cases h⟩
    | ok u =>
      refine ⟨fun _ => ⟨listed, hl, hd⟩, fun _ => ?_⟩
      cases schemas with
      | none => exact ⟨listed, rfl⟩
      | some schemas =>
        cases c.fallbackPool? (some pools) with
        | none => exact ⟨listed, rfl⟩
        | some fallback => exact ⟨fill rules fallback listed schemas, rfl⟩

/-- Of the rules a load sees only what they distribute. -/
theorem load_congr {schemas : Option (NameMap Schema)} {rules rules' : RuleSet}
    (h : ∀ t, rules.distributes t = rules'.distributes t) :
    c.load database pools schemas rules = c.load database pools schemas rules' := by
  have hfill : fill rules = fill rules' := by
    funext fallback routes schemas
    simp only [fill, fillSchema, h]
  simp only [load, hfill]

/-- The spelling of the database makes no difference to a load. -/
theorem load_lower (c : SingleConfig) (database : String) (pools : Option Pools)
    (schemas : Option (NameMap Schema)) (rules : RuleSet) :
    c.load (Text.lower database) pools schemas rules = c.load database pools schemas rules := by
  have hentry (e : SingleEntry) :
      e.schema (Text.lower database) pools = e.schema database pools := by
    simp only [SingleEntry.schema, Dialect.defaultSchema, Text.lower_lower]
  have hroute : routeEntry (Text.lower database) pools = routeEntry database pools := by
    funext routes text
    simp only [routeEntry, hentry]
  rw [load, load, listedRoutes, listedRoutes, hroute]

end SingleConfig

/-! ### Routes within a set of rules -/

namespace RuleSet

theorem distributes_lower (rs : RuleSet) (t : String) :
    rs.distributes (Text.lower t) = rs.distributes t := by
  simp only [distributes, Rule.distributes, Text.lower_lower]

@[simp] theorem distributes_mapRoutes (f : Routes → Routes) (rs : RuleSet) (t : String) :
    (rs.mapRoutes f).distributes t = rs.distributes t := by
  have hsingle (c : SingleConfig) (r : Routes) : (Rule.single c r).distributes t = false := rfl
  induction rs with
  | nil => rfl
  | cons r rs ih =>
    cases r with
    | single c r => simp only [mapRoutes, distributes, List.any_cons, hsingle]
    | _ =>
      simp only [mapRoutes, distributes, List.any_cons] at ih ⊢
      rw [ih]

theorem route?_eq {rs : RuleSet} {c : SingleConfig} {r : Routes} (h : rs.router? = some (c, r))
    (s t : String) : rs.route? s t = r.find? s t := by
  rw [route?, h]
  rfl

theorem route?_eq_none {rs : RuleSet} (h : rs.router? = none) (s t : String) :
    rs.route? s t = none := by
  rw [route?, h]
  rfl

theorem route?_mapRoutes {rs : RuleSet} {c : SingleConfig} {r : Routes}
    (h : rs.router? = some (c, r)) (f : Routes → Routes) (s t : String) :
    (rs.mapRoutes f).route? s t = (f r).find? s t := by
  rw [route?, router?_mapRoutes, h]
  rfl

theorem mapRoutes_id (rs : RuleSet) : rs.mapRoutes id = rs := by
  induction rs with
  | nil => rfl
  | cons r rs ih => cases r <;> simp_all [mapRoutes]

/-- Forgetting a table takes its route and no other. -/
theorem route?_forgetTable (rs : RuleSet) (schema table s t : String) :
    (rs.forgetTable schema table).route? s t =
      if Text.lower schema = Text.lower s ∧ Text.lower table = Text.lower t then none
      else rs.route? s t := by
  cases h : rs.router? with
  | none =>
    have h' : (rs.forgetTable schema table).router? = none := by
      rw [forgetTable, router?_mapRoutes, h]
      rfl
    rw [route?_eq_none h, route?_eq_none h', ite_self]
  | some cr =>
    rw [forgetTable, route?_mapRoutes h, route?_eq h, Routes.find?, Routes.at?_remove]
    rfl

theorem reload_eq_ok {rs rs' : RuleSet} {database : String} {pools : Pools}
    {schemas : NameMap Schema} :
    rs.reload database pools schemas = .ok rs' ↔
      (rs.router? = none ∧ rs' = rs) ∨
        ∃ c r r', rs.router? = some (c, r) ∧
          c.load database (some pools) (some schemas) rs = .ok r' ∧
            rs' = rs.mapRoutes fun _ => r' := by
  rw [reload]
  cases h : rs.router? with
  | none =>
    constructor
    · intro h; exact .inl ⟨rfl, (Except.ok.inj h).symm⟩
    · rintro (⟨-, rfl⟩ | ⟨_, _, _, ⟨⟩, _⟩); rfl
  | some cr =>
    obtain ⟨c, r⟩ := cr
    cases hl : c.load database (some pools) (some schemas) rs with
    | error e =>
      refine ⟨fun h => ?_, ?_⟩
      · simp only [hl] at h; cases h
      · rintro (⟨⟨⟩, -⟩ | ⟨_, _, _, ⟨⟩, h, -⟩)
        rw [hl] at h
        cases h
    | ok r' =>
      refine ⟨fun h => ?_, ?_⟩
      · simp only [hl] at h
        exact .inr ⟨c, r, r', rfl, hl, (Except.ok.inj h).symm⟩
      · rintro (⟨⟨⟩, -⟩ | ⟨_, _, _, ⟨⟩, h, rfl⟩)
        rw [hl] at h
        obtain rfl := Except.ok.inj h
        simp only [hl]
        rfl

end RuleSet

/-! ### Databases -/

/-- The schema has a table or a view of this name, in any spelling. -/
def Schema.holds (s : Schema) (table : String) : Bool :=
  (s.table? table).isSome || (s.view? table).isSome

theorem Schema.contains_objectNames (s : Schema) (table : String) :
    s.objectNames.contains (Text.lower table) = s.holds table := by
  have hkeys {α : Type} (m : NameMap α) : m.keys.contains (Text.lower table) =
      (m.get? (Text.lower table)).isSome := by
    rw [Bool.eq_iff_iff, List.contains_iff_mem, NameMap.mem_keys_iff, NameMap.contains]
  rw [objectNames, List.contains_append, hkeys, hkeys]
  rfl

namespace Database

/-- The database has a table or a view of this name in this schema, in any spelling. -/
def holds (d : Database) (schema table : String) : Bool :=
  (d.schema? schema).any fun content => content.holds table

/-- The routes are **loaded**: a load of them would give them again. -/
def Loaded (d : Database) : Prop :=
  ∀ c r, d.rules.router? = some (c, r) →
    c.load d.name (some d.pools) (some d.schemas) d.rules = .ok r

/-- The routes, if there are any, can be loaded. -/
def Loadable (d : Database) : Prop :=
  ∀ c r, d.rules.router? = some (c, r) → c.Loadable d.name d.pools

variable {d d' : Database}

theorem Loaded.loadable (h : d.Loaded) : d.Loadable :=
  fun c r hr => SingleConfig.load_isOk_iff.1 ⟨r, h c r hr⟩

theorem hasObject_lower (d : Database) (s t : String) :
    SingleConfig.hasObject d.schemas (Text.lower s) (Text.lower t) = d.holds s t := by
  rw [SingleConfig.hasObject, holds, schema?]
  congr 1
  funext content
  exact content.contains_objectNames t

/-- **The routes after a load.** -/
theorem Loaded.route? (h : d.Loaded) {c : SingleConfig} {r : Routes}
    (hr : d.rules.router? = some (c, r)) :
    ∃ listed, c.listedRoutes d.name (some d.pools) = .ok listed ∧ ∀ s t,
      d.rules.route? s t = (listed.find? s t).or
        (if d.holds s t && !d.rules.distributes t then c.fallbackPool? (some d.pools)
          else none) := by
  obtain ⟨listed, hl, hat⟩ := SingleConfig.at?_load (h c r hr)
  refine ⟨listed, hl, fun s t => ?_⟩
  rw [RuleSet.route?_eq hr, Routes.find?, hat, hasObject_lower, RuleSet.distributes_lower]
  rfl

/-- What a load changes are the routes of the single-table rule. -/
theorem reloadRoutes_eq_ok :
    d.reloadRoutes = .ok d' ↔
      ∃ rules, d.rules.reload d.name d.pools d.schemas = .ok rules ∧ d' = { d with rules } := by
  rw [reloadRoutes]
  cases d.rules.reload d.name d.pools d.schemas with
  | error e => exact ⟨nofun, by rintro ⟨_, ⟨⟩, _⟩⟩
  | ok rules =>
    constructor
    · intro h; exact ⟨rules, rfl, (Except.ok.inj h).symm⟩
    · rintro ⟨_, ⟨⟩, rfl⟩; rfl

/-- **What a load does.** It puts the routes that are loaded in place of those of the single-table
rule, if there is one, and leaves everything else alone. -/
theorem reloadRoutes_ok (h : d.reloadRoutes = .ok d') :
    ∃ f, d' = { d with rules := d.rules.mapRoutes f } ∧ ∀ c r, d.rules.router? = some (c, r) →
      c.load d.name (some d.pools) (some d.schemas) d.rules = .ok (f r) := by
  obtain ⟨rules, hrules, rfl⟩ := reloadRoutes_eq_ok.1 h
  rcases RuleSet.reload_eq_ok.1 hrules with ⟨hnone, rfl⟩ | ⟨c, r, r', hr, hl, rfl⟩
  · refine ⟨id, by rw [RuleSet.mapRoutes_id], fun c r hr => ?_⟩
    rw [hnone] at hr
    cases hr
  · refine ⟨fun _ => r', rfl, fun c' r'' hr'' => ?_⟩
    obtain ⟨rfl, -⟩ := Prod.mk.inj (Option.some.inj (hr.symm.trans hr''))
    exact hl

theorem loaded_of_reloadRoutes (h : d.reloadRoutes = .ok d') : d'.Loaded := by
  obtain ⟨f, rfl, hload⟩ := reloadRoutes_ok h
  intro c r' hr'
  rw [RuleSet.router?_mapRoutes] at hr'
  obtain ⟨⟨c, r⟩, hr, hcr⟩ := Option.map_eq_some_iff.1 hr'
  obtain ⟨rfl, rfl⟩ := Prod.mk.inj hcr
  rw [← hload _ _ hr]
  exact SingleConfig.load_congr fun t => RuleSet.distributes_mapRoutes _ _ t

/-- Loading leaves everything but the routes alone. -/
theorem reloadRoutes_rest (h : d.reloadRoutes = .ok d') :
    ∃ f, d' = { d with rules := d.rules.mapRoutes f } := by
  obtain ⟨f, hrest, -⟩ := reloadRoutes_ok h
  exact ⟨f, hrest⟩

/-- A load fails for the configuration and the pools, never for the schemas. -/
theorem reloadRoutes_isOk_iff : (∃ d', d.reloadRoutes = .ok d') ↔ d.Loadable := by
  constructor
  · rintro ⟨d', h⟩ c r hr
    obtain ⟨f, -, hload⟩ := reloadRoutes_ok h
    exact SingleConfig.load_isOk_iff.1 ⟨f r, hload c r hr⟩
  · intro h
    cases hr : d.rules.router? with
    | none => exact ⟨_, reloadRoutes_eq_ok.2 ⟨_, RuleSet.reload_eq_ok.2 (.inl ⟨hr, rfl⟩), rfl⟩⟩
    | some cr =>
      obtain ⟨r', hl⟩ := SingleConfig.load_isOk_iff.2 (h cr.1 cr.2 hr)
      exact ⟨_, reloadRoutes_eq_ok.2
        ⟨_, RuleSet.reload_eq_ok.2 (.inr ⟨cr.1, cr.2, r', hr, hl, rfl⟩), rfl⟩⟩

end Database

end ProxyCatalog
