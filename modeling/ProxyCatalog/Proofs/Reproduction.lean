import ProxyCatalog.Proofs.Accounts
import ProxyCatalog.Proofs.Unanimity
import ProxyCatalog.Proofs.Proper
import ProxyCatalog.Proofs.Stepwise
import ProxyCatalog.Proofs.Switching

/-!
# The first snapshot reproduces the store

A start that succeeds gives a snapshot in which the store is found again: its databases with their
pools, rule configurations and schemas, the global rule configurations, the properties and the
persisted rows. The default schema of a database is there even if it is not stored.

* `Database.Reproduces`, `Snapshot.Reproduces`: what a database, and a snapshot, have of a store.
* `databases_assembleFrom`, `rows_withRowsOf`: what the loading of databases, one after another,
  comes to.
* `Site.PoolsOnly`: pools are opened and closed, and nothing else is done. No start does more
  (`poolsOnly_assemble`), so the storage engines are never asked for schemas.
* `Assembly.reproduces_store`: the whole.
-/

namespace ProxyCatalog

open Event Site

/-! ### Nothing done but to pools -/

namespace Event

/-- The opening or the closing of a pool. -/
def OnPool (event : Event) : Prop :=
  (∃ p, event = opened p) ∨ ∃ p, event = closed p

/-- Where no pool is closed, events on pools are their openings. -/
theorem eq_map_opened {es : List Event} (h : ∀ event ∈ es, event.OnPool) (hc : closes es = []) :
    es = (opens es).map opened := by
  induction es with
  | nil => rfl
  | cons event es ih =>
    rcases h event List.mem_cons_self with ⟨p, rfl⟩ | ⟨p, rfl⟩
    · have hrest := ih (fun e he => h e (List.mem_cons_of_mem _ he)) hc
      exact congrArg (opened p :: ·) hrest
    · cases hc

end Event

namespace Site

variable {α : Type}

/-- Only pools are opened and closed. -/
def PoolsOnly (s t : Site) : Prop :=
  ∃ es, t.journal = s.journal ++ es ∧ ∀ event ∈ es, event.OnPool

instance : Course PoolsOnly where
  refl s := ⟨[], (List.append_nil _).symm, nofun⟩
  trans := by
    rintro s t u ⟨es, h, hes⟩ ⟨fs, h', hfs⟩
    refine ⟨es ++ fs, by rw [h', h, List.append_assoc], fun event he => ?_⟩
    exact (List.mem_append.1 he).elim (hes event) (hfs event)

theorem poolsOnly_readStore (access : StoreAccess) (read : Store → α) :
    (readStore access read).Within PoolsOnly := by
  intro s
  rw [run_readStore]
  exact Course.refl s

theorem poolsOnly_closePools (pools : Pools) (s : Site) : s.PoolsOnly (s.closePools pools) := by
  refine ⟨_, rfl, fun event he => ?_⟩
  obtain ⟨u, -, rfl⟩ := List.mem_map.1 he
  exact .inr ⟨u.handle, rfl⟩

theorem poolsOnly_openEach (entries : List (String × PoolSpec)) (s : Site) :
    s.PoolsOnly (openEach entries s).2 := by
  induction entries generalizing s with
  | nil => exact Course.refl s
  | cons entry rest ih =>
    obtain ⟨name, spec⟩ := entry
    have hone : s.PoolsOnly (openPool name spec s).2 := by
      rw [openPool]
      split
      · exact Course.refl s
      · exact ⟨_, rfl, fun event he => .inl ⟨_, List.mem_singleton.1 he⟩⟩
    have hrest := Course.trans hone (ih (openPool name spec s).2)
    rw [openEach]
    dsimp only
    split <;> exact hrest

theorem poolsOnly_openSwitch (current : Pools) (proposed : NameMap PoolSpec) (mode : SwitchMode) :
    (openSwitch current proposed mode).Within PoolsOnly := by
  refine .bind (fun s => ?_) fun _ => .pure _
  have hopen := poolsOnly_openEach
    (SwitchPlan.compute current.specs proposed mode).created.entries s
  rw [run_openPools]
  split
  · next pools t hrun => rwa [hrun] at hopen
  · next pools e t hrun =>
    rw [hrun] at hopen
    exact Course.trans hopen (poolsOnly_closePools pools t)

theorem poolsOnly_closeDatabases (databases : NameMap Database) (s : Site) :
    s.PoolsOnly (Assembly.closeDatabases databases s) :=
  List.foldlRecOn databases.values (motive := s.PoolsOnly) _ (Course.refl s)
    fun _ h d _ => Course.trans h (poolsOnly_closePools d.pools _)

end Site

/-! ### A database -/

/-- The **names** in a store are folded, on every level. -/
structure Store.NamesFolded (store : Store) : Prop where
  databases : store.databases.Folded
  schemas : ∀ name node, store.databases.get? name = some node → node.schemas.Folded
  rows : ∀ name node, store.databases.get? name = some node → node.rows.Folded

theorem Store.Proper.namesFolded {store : Store} (h : store.Proper) : store.NamesFolded where
  databases := h.folded
  schemas name node hn := (h.nodes name node hn).schemas
  rows name node hn := (h.nodes name node hn).rows

/-- What is stored under a folded name. -/
theorem Store.node_of_folded {store : Store} {name : String} {node : StoreNode}
    (hname : Text.lower name = name) (h : store.databases.get? name = some node) :
    store.node name = node := by
  rw [Store.node, Store.node?, hname, h]
  rfl

/-- A database **reproduces** what is stored for it: it has the declared pools, each under a handle
of its own name, the stored rule configurations, sorted by kind, and the stored schemas, with an
empty default schema unless one is stored. -/
structure Database.Reproduces (d : Database) (name : String) (node : StoreNode)
    (props : Properties) : Prop where
  name_eq : d.name = name
  specs : d.pools.specs = node.pools
  handles : d.pools.KeyedBy fun u => u.handle.name
  protocol : props.protocol d.pools.dialects = .ok d.protocol
  rules : RuleConfig.StablySorted node.rules (RuleSet.configs d.rules)
  schemas : ∀ schema, d.schemas.get? schema =
    (node.schemas.get? schema).or
      (if d.protocol.defaultSchema name = schema then some ∅ else none)

namespace Assembly

variable {reg : Registry} {props initial : Properties} {name : String} {names : List String}
  {databases : NameMap Database} {rows : RowCache} {s t : Site} {snapshot : Snapshot}

/-- **A database that is opened reproduces what is stored for it.** -/
theorem reproduces_of_openDatabase {d : Database} (hname : Text.lower name = name)
    (hschemas : (s.store.node name).schemas.Folded)
    (h : (openDatabase reg props name).run s = (.ok d, t)) :
    d.Reproduces name (s.store.node name) props := by
  obtain ⟨sw, hopen, hbuilt, hstore⟩ := openDatabase_ok h
  obtain ⟨protocol, rules, hprotocol, hrules, rfl, -⟩ := fromStore_ok hbuilt
  have hspecs : sw.opened.specs = (s.store.node name).pools := by
    rw [← Switch.apply_empty, specs_of_openSwitch hopen]
    exact NameMap.empty_overlay _
  rw [show t.store = s.store from hstore, t.visiting.fold_of_folded hschemas] at hrules ⊢
  have hfolded := folded_withDefault hschemas (protocol.lower_defaultSchema name)
  refine ⟨hname, hspecs, named_of_openSwitch hopen, hprotocol, ?_, fun schema => ?_⟩
  · change RuleConfig.StablySorted _ (RuleSet.configs rules)
    rw [Registry.configs_of_buildDatabase hrules]
    exact RuleConfig.stablySorted_sortByKind _
  · change ((withDefault _ _).rekey Text.lower).get? schema = _
    rw [hfolded.rekey_eq_self, get?_withDefault]
    rfl

/-! ### All databases -/

/-- What the loading of databases comes to. Those that were loaded before stay as they are, and
those loaded now reproduce what is stored for them. -/
theorem databases_assembleFrom (hs : s.store.NamesFolded) (hnodup : names.Nodup)
    (hnames : ∀ n ∈ names, s.store.databases.contains n) (hd : databases.Folded)
    (h : (assembleFrom reg props names databases rows).run s = (.ok snapshot, t)) :
    (∀ x ∉ names, snapshot.catalog.databases.get? x = databases.get? x) ∧
    (∀ x ∈ names, ∃ d, snapshot.catalog.databases.get? x = some d ∧
      d.Reproduces x (s.store.node x) props) ∧
    RuleConfig.StablySorted s.store.globalRules
      (RuleSet.configs snapshot.catalog.globalRules) ∧
    snapshot.catalog.props = props := by
  induction names generalizing databases rows s with
  | nil =>
    obtain ⟨rules, hrules, rfl, -⟩ := assembleFrom_nil_ok h
    refine ⟨fun x _ => ?_, nofun, ?_, rfl⟩
    · change (databases.rekey Text.lower).get? x = databases.get? x
      rw [hd.rekey_eq_self]
    · change RuleConfig.StablySorted _ (RuleSet.configs rules)
      rw [Registry.configs_of_buildGlobal hrules]
      exact RuleConfig.stablySorted_sortByKind _
  | cons name names ih =>
    rw [List.nodup_cons] at hnodup
    obtain ⟨d, s₁, hopened, h⟩ := assembleFrom_cons_ok h
    obtain ⟨-, -, -, hstore⟩ := openDatabase_ok hopened
    have hname : Text.lower name = name := hs.databases name (hnames name List.mem_cons_self)
    obtain ⟨node, hnode⟩ := Option.isSome_iff_exists.1 (hnames name List.mem_cons_self)
    have hd' := reproduces_of_openDatabase hname
      (Store.node_of_folded hname hnode ▸ hs.schemas name node hnode) hopened
    have hstore : s₁.store = s.store := hstore
    have hfolded : (databases.insert d.name d).Folded := by
      rw [hd'.name_eq]
      exact hd.insert hname d
    obtain ⟨hbefore, hnow, hglobal, hprops⟩ := ih (hstore ▸ hs) hnodup.2
      (fun n hn => hstore ▸ hnames n (List.mem_cons_of_mem _ hn)) hfolded h
    rw [hstore] at hnow hglobal
    have hput (x : String) (hx : x ∉ names) : snapshot.catalog.databases.get? x =
        if name = x then some d else databases.get? x := by
      rw [hbefore x hx, hd'.name_eq, NameMap.get?_insert]
    refine ⟨fun x hx => ?_, fun x hx => ?_, hglobal, hprops⟩
    · obtain ⟨hne, hrest⟩ := not_or.1 (mt List.mem_cons.2 hx)
      rw [hput x hrest, if_neg (Ne.symm hne)]
    · rcases List.mem_cons.1 hx with rfl | hx
      · exact ⟨d, by rw [hput x hnodup.1, if_pos rfl], hd'⟩
      · exact hnow x hx

/-! ### Rows -/

/-- The rows cached for a database that has these persisted rows. Without rows it is not in the
cache. -/
def cachedRows (stored : DatabaseRows) : Option DatabaseRows :=
  if stored.isEmpty then none else some stored

/-- Rows put schema by schema, for a database that is cached already. -/
theorem databases_foldl_withSchema (l : List (String × SchemaRows)) (rows : RowCache)
    (database x : String) {cached : DatabaseRows}
    (hcached : rows.databases.get? (Text.lower database) = some cached) :
    (l.foldl (fun rows e => rows.withSchema database e.1 e.2) rows).databases.get? x =
      if Text.lower database = x then
        some (l.foldl (fun m e => m.insert (Text.lower e.1) e.2) cached)
      else rows.databases.get? x := by
  induction l generalizing rows cached with
  | nil =>
    split
    · next hx => exact hx ▸ hcached
    · rfl
  | cons e l ih =>
    have hput : (rows.withSchema database e.1 e.2).databases.get? (Text.lower database) =
        some (cached.insert (Text.lower e.1) e.2) := by
      rw [RowCache.withSchema, NameMap.get?_insert_self, NameMap.getD, hcached]
      rfl
    rw [List.foldl_cons, ih _ hput, List.foldl_cons]
    split
    · rfl
    · next hx => rw [RowCache.withSchema, NameMap.get?_insert, if_neg hx]

/-- What is cached once the persisted rows of a database are put that was not cached. -/
theorem databases_withStoredRows {stored : DatabaseRows} (hname : Text.lower name = name)
    (hstored : stored.Folded) (hnew : rows.databases.get? name = none) (x : String) :
    (withStoredRows rows name stored).databases.get? x =
      if name = x then cachedRows stored else rows.databases.get? x := by
  rw [withStoredRows, cachedRows, NameMap.isEmpty]
  cases hentries : stored.entries with
  | nil =>
    split
    · next hx => exact hx ▸ hnew
    · rfl
  | cons e l =>
    have hfirst : (rows.withSchema name e.1 e.2).databases.get? (Text.lower name) =
        some (NameMap.insert ∅ (Text.lower e.1) e.2) := by
      rw [RowCache.withSchema, NameMap.get?_insert_self, NameMap.getD, hname, hnew]
      rfl
    have hall : l.foldl (fun m e => NameMap.insert m (Text.lower e.1) e.2)
        (NameMap.insert ∅ (Text.lower e.1) e.2) = stored := by
      rw [← hstored.rekey_eq_self, NameMap.rekey, NameMap.ofList, hentries, List.foldl_map,
        List.foldl_cons]
    rw [List.foldl_cons, databases_foldl_withSchema l _ name x hfirst, hname, hall]
    split
    · rfl
    · next hx => rw [RowCache.withSchema, NameMap.get?_insert, hname, if_neg hx]

/-- What is cached once the persisted rows of all stored databases are put. -/
theorem rows_withRowsOf {store : Store} (hs : store.NamesFolded) (hnodup : names.Nodup)
    (hnames : ∀ n ∈ names, store.databases.contains n)
    (hnew : ∀ n ∈ names, rows.databases.get? n = none) (x : String) :
    (withRowsOf store names rows).databases.get? x =
      if x ∈ names then cachedRows (store.node x).rows else rows.databases.get? x := by
  induction names generalizing rows with
  | nil => rfl
  | cons name names ih =>
    rw [List.nodup_cons] at hnodup
    have hname : Text.lower name = name := hs.databases name (hnames name List.mem_cons_self)
    obtain ⟨node, hnode⟩ := Option.isSome_iff_exists.1 (hnames name List.mem_cons_self)
    have hstored : (store.node name).rows.Folded :=
      Store.node_of_folded hname hnode ▸ hs.rows name node hnode
    have hput := databases_withStoredRows hname hstored (hnew name List.mem_cons_self)
    rw [withRowsOf, List.foldl_cons, ← withRowsOf, ih hnodup.2
      (fun n hn => hnames n (List.mem_cons_of_mem _ hn)) fun n hn => ?_]
    · rw [hput]
      by_cases hx : x ∈ names
      · rw [if_pos hx, if_pos (List.mem_cons_of_mem _ hx)]
      · rw [if_neg hx]
        by_cases hne : name = x
        · rw [if_pos hne, if_pos (hne ▸ List.mem_cons_self), hne]
        · rw [if_neg hne, if_neg fun hmem => (List.mem_cons.1 hmem).elim (hne ·.symm) hx]
    · have hne : name ≠ n := by
        rintro rfl
        exact hnodup.1 hn
      rw [hput, if_neg hne]
      exact hnew n (List.mem_cons_of_mem _ hn)

/-! ### The whole snapshot -/

theorem poolsOnly_openDatabase (reg : Registry) (props : Properties) (name : String) :
    (openDatabase reg props name).Within PoolsOnly := by
  refine .bind (poolsOnly_readStore _ _) fun _ => .bind (poolsOnly_openSwitch _ _ _) fun _ =>
    .bind (poolsOnly_readStore _ _) fun _ => within_onFault (poolsOnly_closePools _) ?_
  exact .bind (.ofExcept _) fun _ => .bind (poolsOnly_readStore _ _) fun _ =>
    .bind (fun s => Course.refl s) fun _ => .bind (.ofExcept _) fun _ => .pure _

theorem poolsOnly_assembleFrom (reg : Registry) (props : Properties) (names : List String)
    (databases : NameMap Database) (rows : RowCache) :
    (assembleFrom reg props names databases rows).Within PoolsOnly := by
  induction names generalizing databases rows with
  | nil =>
    exact within_onFault (poolsOnly_closeDatabases _)
      (.bind (poolsOnly_readStore _ _) fun _ => .bind (.ofExcept _) fun _ => .pure _)
  | cons name names ih =>
    exact .bind
      (within_onFault (poolsOnly_closeDatabases _) (poolsOnly_openDatabase reg props name))
      fun _ => .bind (within_onFault (poolsOnly_closeDatabases _) (poolsOnly_readStore _ _))
        fun _ => ih _ _

/-- **No start does anything but to open and close pools.** -/
theorem poolsOnly_assemble (reg : Registry) (initial : Properties) :
    (assemble reg initial).Within PoolsOnly :=
  .bind (poolsOnly_readStore _ _) fun _ => .bind (poolsOnly_readStore _ _) fun _ =>
    poolsOnly_assembleFrom _ _ _ _ _

end Assembly

/-- A snapshot **reproduces** a store under initial properties: it has the stored databases, the
stored global rule configurations, sorted by kind, the initial properties with the stored ones put
over them, and the persisted rows. -/
structure Snapshot.Reproduces (snapshot : Snapshot) (store : Store) (initial : Properties) :
    Prop where
  names : ∀ name, snapshot.catalog.databases.contains name = store.databases.contains name
  databases : ∀ name d node, snapshot.catalog.databases.get? name = some d →
    store.databases.get? name = some node → d.Reproduces name node snapshot.catalog.props
  globalRules : RuleConfig.StablySorted store.globalRules
    (RuleSet.configs snapshot.catalog.globalRules)
  props : ∀ key, snapshot.catalog.props.values.get? key =
    (store.props.values.get? key).or (initial.values.get? key)
  rows : ∀ name, snapshot.rows.databases.get? name =
    (store.databases.get? name).bind fun node => Assembly.cachedRows node.rows

namespace Assembly

variable {reg : Registry} {initial : Properties} {s t : Site} {snapshot : Snapshot}

theorem reproduces_of_assemble (hs : s.store.NamesFolded)
    (h : (assemble reg initial).run s = (.ok snapshot, t)) :
    snapshot.Reproduces s.store initial := by
  have hnodup : s.store.databaseNames.Nodup := NameMap.keys_nodup _
  have hnames (n : String) (hn : n ∈ s.store.databaseNames) : s.store.databases.contains n :=
    NameMap.mem_keys_iff.1 hn
  have hmem (name : String) : name ∈ s.store.databaseNames ↔ s.store.databases.contains name :=
    NameMap.mem_keys_iff
  obtain ⟨hother, hstored, hglobal, hprops⟩ :=
    databases_assembleFrom hs hnodup hnames .empty (assemble_ok h)
  refine ⟨fun name => ?_, fun name d node hd hn => ?_, hglobal, fun key => ?_, fun name => ?_⟩
  · by_cases hname : name ∈ s.store.databaseNames
    · obtain ⟨d, hd, -⟩ := hstored name hname
      rw [(hmem name).1 hname, NameMap.contains, hd]
      rfl
    · rw [NameMap.contains, hother name hname, Bool.eq_false_iff.2 (mt (hmem name).2 hname)]
      rfl
  · have hname : name ∈ s.store.databaseNames :=
      (hmem name).2 (by rw [NameMap.contains, hn]; rfl)
    obtain ⟨d', hd', hreproduces⟩ := hstored name hname
    obtain rfl := Option.some.inj (hd'.symm.trans hd)
    rw [hprops]
    exact Store.node_of_folded (hs.databases name (hnames name hname)) hn ▸ hreproduces
  · rw [hprops]
    exact NameMap.get?_overlay _ _ key
  · rw [(assemble_run h).1, rows_withRowsOf hs hnodup hnames (fun _ _ => rfl)]
    split
    · next hname =>
      obtain ⟨node, hn⟩ := Option.isSome_iff_exists.1 (hnames name hname)
      rw [Store.node_of_folded (hs.databases name (hnames name hname)) hn, hn]
      rfl
    · next hname =>
      have hnone : s.store.databases.get? name = none :=
        Option.not_isSome_iff_eq_none.1 (mt (hmem name).2 hname)
      rw [hnone]
      rfl

/-- **The first snapshot reproduces the store.** Nothing is done on the way but to open its pools,
each of them once, and the store stays as it is. -/
theorem reproduces_store (hs : s.store.NamesFolded)
    (h : (assemble reg initial).run s = (.ok snapshot, t)) :
    snapshot.Reproduces s.store initial ∧ t.store = s.store ∧
      ∃ handles : List PoolHandle, t.journal = s.journal ++ handles.map opened ∧
        handles.Perm (Database.handlesOf snapshot.catalog.databases) ∧
          handles.Nodup ∧ ∀ p ∈ handles, s.openings < p.serial := by
  have hfolded (n : String) (hn : n ∈ s.store.databaseNames) : Text.lower n = n :=
    hs.databases n (NameMap.mem_keys_iff.1 hn)
  obtain ⟨-, handles, ⟨es, hl, hperm, hcloses, -⟩, hhandles⟩ :=
    assembleFrom_ok (NameMap.keys_nodup _) hfolded .empty (fun _ _ => rfl) (assemble_ok h)
  obtain ⟨fs, hjournal, honly⟩ := (poolsOnly_assemble reg initial).of_run h
  obtain rfl := List.append_cancel_left (hl.journal.symm.trans hjournal)
  have hopened : t.journal = s.journal ++ (opens es).map opened := by
    rw [← eq_map_opened honly hcloses, hjournal]
  exact ⟨reproduces_of_assemble hs h, (assemble_run h).2, opens es, hopened,
    hperm.trans hhandles.symm, hl.nodup_opens, fun p hp => hl.lt_serial hp⟩

/-- The snapshot assembled at the small site has the one stored database, with its pool. -/
theorem reproduces_small_store :
    ∃ snapshot t, (assemble .standard ∅).run Sample.site = (.ok snapshot, t) ∧
      snapshot.Reproduces Sample.store ∅ ∧ t.store = Sample.store ∧
        snapshot.catalog.databases.contains "foo_db" ∧
          opened ⟨"ds_0", 1⟩ ∈ t.journal := by
  have hok : ((assemble .standard ∅).run Sample.site).1.toOption.isSome = true := rfl
  have hopened : opened ⟨"ds_0", 1⟩ ∈ ((assemble .standard ∅).run Sample.site).2.journal := by
    decide
  cases h : (assemble .standard ∅).run Sample.site with
  | mk r t =>
    rw [h] at hok hopened
    cases r with
    | error e => cases hok
    | ok snapshot =>
      obtain ⟨hsnapshot, hstore, -⟩ := reproduces_store Sample.fresh_site.proper.namesFolded h
      have hname : snapshot.catalog.databases.contains "foo_db" = true :=
        (hsnapshot.names "foo_db").trans rfl
      exact ⟨snapshot, t, rfl, hsnapshot, hstore, hname, hopened⟩

end Assembly

end ProxyCatalog
