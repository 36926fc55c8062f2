import ProxyCatalog.Proofs.Confinement
import ProxyCatalog.Proofs.Parallel

/-!
# The same mutation at another snapshot

A mutation that is about one database reads no other. Planned at two snapshots that are alike on
its database (`Snapshot.AlikeOn`), at sites that agree on it, it fails with the same fault, or
makes of both the same: the snapshots that it plans are alike on the database again.

The one mutation of a database for which this fails is its reload, which installs the properties
and the global rules that are stored. `Mutation.Local` leaves it out.

* `Parallel.rebuild` and `Parallel.switchPools`: a database is built anew in the same way.
* `Mutation.parallel_plan`: the whole.
-/

namespace ProxyCatalog

open Database (Twins)

/-! ### Snapshots alike on a database -/

/-- Snapshots that are **alike on a database**: it is the same in both but for the numbers of its
pools, with the same rows, and they share their properties and global rules. -/
structure Snapshot.AlikeOn (database : String) (s s' : Snapshot) : Prop where
  entry : (s.database? database).map Database.unnumbered =
    (s'.database? database).map Database.unnumbered
  rows : s.rows.database? database = s'.rows.database? database
  props : s.catalog.props = s'.catalog.props
  globalRules : s.catalog.globalRules = s'.catalog.globalRules

namespace Snapshot.AlikeOn

variable {database : String} {s s' s'' : Snapshot} {d d' : Database}

theorem symm (h : s.AlikeOn database s') : s'.AlikeOn database s :=
  ⟨h.entry.symm, h.rows.symm, h.props.symm, h.globalRules.symm⟩

theorem trans (h : s.AlikeOn database s') (h' : s'.AlikeOn database s'') :
    s.AlikeOn database s'' :=
  ⟨h.entry.trans h'.entry, h.rows.trans h'.rows, h.props.trans h'.props,
    h.globalRules.trans h'.globalRules⟩

/-- There is no such database in either, or there are twins. -/
theorem find (h : s.AlikeOn database s') (hs : s.InOrder) :
    (s.database? database = none ∧ s'.database? database = none) ∨
      ∃ d d', s.database? database = some d ∧ s'.database? database = some d' ∧
        Twins database d d' := by
  have hentry := h.entry
  cases hd : s.database? database with
  | none =>
    rw [hd] at hentry
    exact .inl ⟨rfl, Option.map_eq_none_iff.1 hentry.symm⟩
  | some d =>
    rw [hd] at hentry
    obtain ⟨d', hd', hdd'⟩ := Option.map_eq_some_iff.1 hentry.symm
    exact .inr ⟨d, d', rfl, hd', hdd'.symm, hs.name_eq hd⟩

/-- Twins may be put into both. -/
theorem withDatabase (h : s.AlikeOn database s') (hd : Twins database d d') :
    (s.withDatabase d).AlikeOn database (s'.withDatabase d') := by
  refine { h with entry := ?_ }
  have hput (t : Snapshot) {e : Database} (he : e.name = Text.lower database) :
      (t.withDatabase e).database? database = some e :=
    (Catalog.database?_withDatabase _ _ _).trans (if_pos he)
  rw [hput s hd.name_eq, hput s' hd.symm.name_eq]
  exact congrArg some hd.unnumbered

theorem withoutDatabase (h : s.AlikeOn database s') :
    (s.withCatalog (s.catalog.withoutDatabase database)).AlikeOn database
      (s'.withCatalog (s'.catalog.withoutDatabase database)) := by
  refine { h with entry := ?_ }
  have hgone (t : Snapshot) :
      (t.withCatalog (t.catalog.withoutDatabase database)).database? database = none :=
    (Catalog.database?_withoutDatabase _ _ _).trans (if_pos rfl)
  rw [hgone, hgone]

/-- Rows may be put that are the same for the database. -/
theorem withRows (h : s.AlikeOn database s') {rows rows' : RowCache}
    (hrows : rows.database? database = rows'.database? database) :
    (s.withRows rows).AlikeOn database (s'.withRows rows') :=
  { h with rows := hrows }

end Snapshot.AlikeOn

/-- Plans for nothing, or for snapshots that are alike on the database. -/
def Change.AlikeOn (database : String) : Option Change → Option Change → Prop :=
  Option.Rel fun c c' => c.snapshot.AlikeOn database c'.snapshot

/-! ### The row cache -/

namespace RowCache

/-- Changes for nothing, or to caches with the same rows of the database. -/
def SameOn (database : String) : Option RowCache → Option RowCache → Prop :=
  Option.Rel fun rows rows' => rows.database? database = rows'.database? database

variable {rows rows' : RowCache} {database : String}

/-- A change of the rows of the database is the same in both. -/
theorem sameOn_updateDatabase (h : rows.database? database = rows'.database? database)
    (f : DatabaseRows → Option DatabaseRows) :
    SameOn database (rows.updateDatabase database f) (rows'.updateDatabase database f) := by
  have hget : rows.databases.get? (Text.lower database) =
      rows'.databases.get? (Text.lower database) := h
  simp only [updateDatabase, NameMap.update?, hget]
  cases rows'.databases.get? (Text.lower database) with
  | none => exact .none
  | some r =>
    cases hf : f r with
    | none =>
      simp only [Option.bind_eq_bind, Option.bind_some, hf]
      exact .none
    | some r' =>
      simp only [Option.bind_eq_bind, Option.bind_some, hf]
      refine .some ?_
      rw [database?, database?, NameMap.get?_insert_self, NameMap.get?_insert_self]

/-- **A change of the row cache reads the rows of no other database.** -/
theorem sameOn_change (change : CacheChange)
    (h : rows.database? change.database = rows'.database? change.database) :
    SameOn change.database (change.apply rows) (change.apply rows') := by
  cases change with
  | addDatabase d =>
    have hcontains : rows.databases.contains (Text.lower d) =
        rows'.databases.contains (Text.lower d) := congrArg Option.isSome h
    rw [CacheChange.apply, CacheChange.apply, addDatabase, addDatabase, NameMap.insertNew?,
      NameMap.insertNew?, hcontains]
    split
    · exact .none
    · refine .some ?_
      rw [database?, database?, CacheChange.database, NameMap.get?_insert_self,
        NameMap.get?_insert_self]
  | dropDatabase d =>
    have hcontains : rows.databases.contains (Text.lower d) =
        rows'.databases.contains (Text.lower d) := congrArg Option.isSome h
    rw [CacheChange.apply, CacheChange.apply, dropDatabase, dropDatabase, NameMap.eraseOld?,
      NameMap.eraseOld?, hcontains]
    split
    · refine .some ?_
      rw [database?, database?, CacheChange.database, NameMap.get?_erase_self,
        NameMap.get?_erase_self]
    · exact .none
  | addSchema d s => exact sameOn_updateDatabase h _
  | dropSchema d s => exact sameOn_updateDatabase h _
  | addTable d s t => exact sameOn_updateDatabase h _
  | dropTable d s t => exact sameOn_updateDatabase h _
  | deleteRow d s t key => exact sameOn_updateDatabase h _

end RowCache

/-! ### Twins and their schemas -/

namespace Database.Twins

variable {name schema : String} {d d' : Database}

theorem schema?_eq (h : Twins name d d') (schema : String) :
    d'.schema? schema = d.schema? schema := by
  obtain ⟨_, rfl, -⟩ := h.exists_pools
  rfl

/-- Objects are put into the schemas of twins, and taken out, in the same way. -/
theorem withObjects (h : Twins name d d') {change : SchemaChange} {content : Schema}
    (hcontent : d.schema? change.schema = some content) :
    Except.Alike (Twins name)
      ((d.withObjects content change).reloadUnlessKnown change.schema change.changedNames)
      ((d'.withObjects content change).reloadUnlessKnown change.schema change.changedNames) := by
  refine (Except.Alike.of_map_eq (f := Database.unnumbered) ?_).mono fun d₁ d₁' ⟨hd₁, h₁⟩ => ?_
  · rw [← reloadUnlessKnown_unnumbered, ← withObjects_unnumbered, h.unnumbered,
      withObjects_unnumbered, reloadUnlessKnown_unnumbered]
  · have hrevision : (Mutation.alterSchema change).Revision d d₁ := .alterSchema hcontent hd₁
    exact h.revised hrevision.revised h₁

/-- A table that was found is put into the schemas of twins in the same way. -/
theorem withFoundTable (h : Twins name d d') {table : String} {found : Option Table}
    (hfound : ∀ t, found = some t → Text.lower t.name = Text.lower table) :
    Except.Alike (Option.Rel (Twins name)) (Snapshot.withFoundTable d schema table found)
      (Snapshot.withFoundTable d' schema table found) := by
  refine (Except.Alike.of_map_eq (f := Option.map Database.unnumbered) ?_).mono
    fun c c' ⟨hc, hcc'⟩ => ?_
  · rw [← Snapshot.withFoundTable_unnumbered, h.unnumbered, Snapshot.withFoundTable_unnumbered]
  · cases c with
    | none =>
      obtain rfl := Option.map_eq_none_iff.1 hcc'.symm
      exact .none
    | some d₁ =>
      obtain ⟨d₁', rfl, h₁⟩ := Option.map_eq_some_iff.1 hcc'.symm
      have hrevision : (Mutation.reloadTable name schema table none).Revision d d₁ :=
        .reloadTable hfound hc
      exact .some (h.revised hrevision.revised h₁.symm)

end Database.Twins

/-! ### Rebuilding -/

namespace SiteM.Parallel

variable {database : String} {reg : Registry} {s s' : Snapshot} {d d' : Database}
  {pools pools' : Pools}

/-- **The same database is found**, or is missing in both. -/
theorem findDatabase (h : s.AlikeOn database s') (hs : s.InOrder) :
    Parallel database (Twins database) (SiteM.ofExcept (s.findDatabase database))
      (SiteM.ofExcept (s'.findDatabase database)) := by
  refine ofExcept ?_
  rcases h.find hs with ⟨hd, hd'⟩ | ⟨d, d', hd, hd', htwins⟩
  · rw [Snapshot.findDatabase, Snapshot.findDatabase, hd, hd']
    exact .error _
  · rw [Snapshot.findDatabase_eq_ok.2 hd, Snapshot.findDatabase_eq_ok.2 hd']
    exact .ok htwins

section

variable (h : s.AlikeOn database s') (hs : s.InOrder) (hs' : s'.InOrder)
  (hsettled : s.Settled reg) (hsettled' : s'.Settled reg) (hd : Twins database d d')

include h hs hs' hsettled hsettled' hd

/-- A rebuilt database is put beside the others, for the global rules come out as they are. -/
theorem rebuild (hpools : pools.unnumbered = pools'.unnumbered) (configs : List RuleConfig) :
    Parallel database (fun next next' => next.AlikeOn database next')
      (s.rebuild reg d pools configs) (s'.rebuild reg d' pools' configs) := by
  obtain ⟨_, rfl, -⟩ := hd.exists_pools
  rw [Snapshot.rebuild, Snapshot.rebuild, h.props]
  refine bind (fromEngines hpools hd.lower_name reg configs _) fun rebuilt rebuilt' htwins => ?_
  have hfolded {e e' : Database} (he : Twins database e e') : Text.lower e.name = e.name :=
    he.lower_name.trans he.name_eq.symm
  rw [hsettled.withRebuilt hs (hfolded htwins), hsettled'.withRebuilt hs' (hfolded htwins.symm)]
  refine bind (ofExcept (.ok (h.withDatabase htwins))) fun next next' hnext => ?_
  obtain ⟨_, rfl, -⟩ := htwins.exists_pools
  exact bind (persistDelta _ _) fun _ _ _ => pure hnext

theorem rebuildSwitched {sw sw' : Switch} (hsw : sw.unnumbered = sw'.unnumbered)
    (configs : List RuleConfig) :
    Parallel database (fun next next' => next.AlikeOn database next')
      (s.rebuildSwitched reg d sw configs) (s'.rebuildSwitched reg d' sw' configs) := by
  have hpools : (sw.apply d.pools).unnumbered = (sw'.apply d'.pools).unnumbered := by
    obtain ⟨pools, rfl, hpools⟩ := hd.exists_pools
    rw [← Switch.apply_unnumbered, hsw, hpools, Switch.apply_unnumbered]
  have hrows : s.rows.database? d.name = s'.rows.database? d.name := by
    rw [RowCache.database?, RowCache.database?, hd.lower_name]
    exact h.rows
  rw [Snapshot.rebuildSwitched, Snapshot.rebuildSwitched, hrows]
  refine bind (rebuild h hs hs' hsettled hsettled' hd hpools configs) fun next next' hnext => ?_
  obtain ⟨_, rfl, -⟩ := hd.exists_pools
  refine bind (forM (fun e => ?_) _) fun _ _ _ => pure hnext
  exact persistRows d.name e.1 e.2

/-- **Pools of a database are switched in the same way.** -/
theorem switchPools (specs : NameMap PoolSpec) (mode : SwitchMode) (configs : List RuleConfig) :
    Parallel database (Change.AlikeOn database) (s.switchPools reg d specs mode configs)
      (s'.switchPools reg d' specs mode configs) := by
  obtain ⟨pools, rfl, hpools⟩ := hd.exists_pools
  rw [Snapshot.switchPools, Snapshot.switchPools]
  refine bind (openSwitch hpools specs mode) fun sw sw' hsw => ?_
  have hrebuilt := rebuildSwitched h hs hs' hsettled hsettled' hd hsw configs
  exact bind (closingOnFault hrebuilt _ _) fun next next' hnext => pure (.some hnext)

end

/-! ### Reloading -/

theorem findPool (hd : Twins database d d') (pool : String) :
    Parallel database (fun p p' => p.unnumbered = p'.unnumbered)
      (SiteM.ofExcept (Snapshot.findPool d pool)) (SiteM.ofExcept (Snapshot.findPool d' pool)) := by
  have hmap : (Snapshot.findPool d pool).map Pools.unnumbered =
      (Snapshot.findPool d' pool).map Pools.unnumbered := by
    rw [← Snapshot.findPool_unnumbered, hd.unnumbered, Snapshot.findPool_unnumbered]
  exact ofExcept ((Except.Alike.of_map_eq hmap).mono fun _ _ h => h.2)

/-- The same is found for a schema of twins. -/
theorem discoverSchema (h : s.AlikeOn database s') (hd : Twins database d d')
    (hpools : pools.unnumbered = pools'.unnumbered) (schema : String)
    (tables : Option (List String)) :
    Parallel database Eq (s.discoverSchema d pools schema tables)
      (s'.discoverSchema d' pools' schema tables) := by
  obtain ⟨_, rfl, -⟩ := hd.exists_pools
  rw [Snapshot.discoverSchema, Snapshot.discoverSchema, h.props]
  dsimp only
  refine bind (discover (by rw [Material.unnumbered, Material.unnumbered, hpools]) _) ?_
  rintro reported _ rfl
  exact pure rfl

/-- **A reload of a schema comes to the same.** -/
theorem reloadSchema (h : s.AlikeOn database s') (hs : s.InOrder) (schema pool : String) :
    Parallel database (Change.AlikeOn database) (s.reloadSchema database schema pool)
      (s'.reloadSchema database schema pool) := by
  refine bind (findDatabase h hs) fun d d' hd => bind (findPool hd pool) fun _ _ hpools => ?_
  refine bind (discoverSchema h hd hpools schema none) ?_
  rintro found _ rfl
  rw [hd.symm.name_eq, ← hd.name_eq]
  refine bind (loadViews hd.lower_name schema) ?_
  rintro views _ rfl
  have hreload {e e' : Database} (he : Twins database e e') :
      Parallel database (Change.AlikeOn database)
        (do
          let changed ← SiteM.ofExcept e.reloadRoutes
          return some ({ snapshot := s.withDatabase changed } : Change))
        (do
          let changed ← SiteM.ofExcept e'.reloadRoutes
          return some ({ snapshot := s'.withDatabase changed } : Change)) :=
    bind (ofExcept he.reloadRoutes) fun _ _ hchanged => pure (.some (h.withDatabase hchanged))
  dsimp only
  split
  · exact bind (dropSchema d.name schema) fun _ _ _ => hreload (hd.withoutSchema schema)
  · exact bind (compareAndPersist hd.lower_name _) fun _ _ _ => hreload (hd.withSchema schema _)

theorem reloadTableThrough (h : s.AlikeOn database s') (hd : Twins database d d')
    (hpools : pools.unnumbered = pools'.unnumbered) (schema table : String) :
    Parallel database (Change.AlikeOn database) (s.reloadTableThrough d pools schema table)
      (s'.reloadTableThrough d' pools' schema table) := by
  refine bind (discoverSchema h hd hpools schema _) ?_
  rintro found _ rfl
  refine bind (ofExcept (hd.withFoundTable fun _ => Snapshot.named_of_found)) fun c c' hc => ?_
  cases hc with
  | none => exact pure .none
  | @some changed changed' hchanged =>
    dsimp only
    rw [hchanged.schema?_eq, hchanged.symm.name_eq, ← hchanged.name_eq]
    cases changed.schema? schema with
    | none => exact pure (.some (h.withDatabase hchanged))
    | some content =>
      exact bind (compareAndPersist hchanged.lower_name content) fun _ _ _ =>
        pure (.some (h.withDatabase hchanged))

/-- **A reload of a table comes to the same.** -/
theorem reloadTable (h : s.AlikeOn database s') (hs : s.InOrder) (schema table : String)
    (pool : Option String) :
    Parallel database (Change.AlikeOn database) (s.reloadTable database schema table pool)
      (s'.reloadTable database schema table pool) := by
  refine bind (findDatabase h hs) fun d d' hd => ?_
  cases pool with
  | none =>
    obtain ⟨_, rfl, hpools⟩ := hd.exists_pools
    exact reloadTableThrough h hd hpools schema table
  | some name =>
    exact bind (findPool hd name) fun _ _ hpools => reloadTableThrough h hd hpools schema table

end SiteM.Parallel

/-! ### Changes that need nothing but the snapshot -/

namespace Snapshot.AlikeOn

variable {s s' : Snapshot} {database : String}

/-- A database is added to both or to none. -/
theorem addDatabase (h : s.AlikeOn database s') (hs : s.InOrder) :
    Except.Alike (Change.AlikeOn database) (s.addDatabase database) (s'.addDatabase database) := by
  rw [Snapshot.addDatabase, Snapshot.addDatabase, h.props]
  rcases h.find hs with ⟨hd, hd'⟩ | ⟨d, d', hd, hd', -⟩
  · rw [hd, hd']
    dsimp only
    cases s'.catalog.props.protocol ∅ with
    | error e => exact .error e
    | ok protocol => exact .ok (.some (h.withDatabase ⟨rfl, rfl⟩))
  · rw [hd, hd']
    exact .ok .none

/-- A database is dropped from both or from none. -/
theorem dropDatabase (h : s.AlikeOn database s') (hs : s.InOrder) :
    Change.AlikeOn database (s.dropDatabase database) (s'.dropDatabase database) := by
  rw [Snapshot.dropDatabase, Snapshot.dropDatabase]
  rcases h.find hs with ⟨hd, hd'⟩ | ⟨d, d', hd, hd', -⟩
  · rw [hd, hd']
    exact .none
  · rw [hd, hd']
    exact .some h.withoutDatabase

theorem addSchema (h : s.AlikeOn database s') (hs : s.InOrder) (schema : String) :
    Except.Alike (Change.AlikeOn database) (s.addSchema database schema)
      (s'.addSchema database schema) := by
  rw [Snapshot.addSchema, Snapshot.addSchema]
  rcases h.find hs with ⟨hd, hd'⟩ | ⟨d, d', hd, hd', htwins⟩
  · rw [hd, hd']
    exact .error _
  · rw [hd, hd']
    have hadded := h.withDatabase (htwins.withSchema schema ∅)
    dsimp only
    rw [htwins.schema?_eq schema]
    cases d.schema? schema with
    | none => exact .ok (.some hadded)
    | some content => exact .ok .none

theorem dropSchema (h : s.AlikeOn database s') (hs : s.InOrder) (schema : String) :
    Change.AlikeOn database (s.dropSchema database schema) (s'.dropSchema database schema) := by
  rw [Snapshot.dropSchema, Snapshot.dropSchema]
  rcases h.find hs with ⟨hd, hd'⟩ | ⟨d, d', hd, hd', htwins⟩
  · rw [hd, hd']
    exact .none
  · rw [hd, hd', Option.bind_eq_bind, Option.bind_some, Option.bind_eq_bind, Option.bind_some,
      htwins.schema?_eq schema]
    cases d.schema? schema with
    | none => exact .none
    | some content => exact .some (h.withDatabase (htwins.withoutSchema schema))

/-- The same objects are put into a schema and taken out. -/
theorem alterSchema {change : SchemaChange} (h : s.AlikeOn change.database s') (hs : s.InOrder) :
    Except.Alike (Change.AlikeOn change.database) (s.alterSchema change)
      (s'.alterSchema change) := by
  rw [Snapshot.alterSchema, Snapshot.alterSchema]
  rcases h.find hs with ⟨hd, hd'⟩ | ⟨d, d', hd, hd', htwins⟩
  · rw [hd, hd']
    exact .ok .none
  · rw [hd, hd']
    dsimp only
    rw [htwins.schema?_eq change.schema]
    cases hcontent : d.schema? change.schema with
    | none => exact .ok .none
    | some content =>
      dsimp only
      split
      · exact .ok .none
      · exact (htwins.withObjects hcontent).bind fun _ _ hchanged =>
          .ok (.some (h.withDatabase hchanged))

/-- The definition of a table is read off its database. -/
theorem table?_eq (h : s.AlikeOn database s') (hs : s.InOrder) (schema table : String) :
    s.table? database schema table = s'.table? database schema table := by
  rw [Snapshot.table?, Snapshot.table?]
  rcases h.find hs with ⟨hd, hd'⟩ | ⟨d, d', hd, hd', htwins⟩
  · rw [hd, hd']
  · rw [hd, hd', Option.bind_eq_bind, Option.bind_some, Option.bind_eq_bind, Option.bind_some,
      htwins.schema?_eq schema]

/-- The same rows of the database are put into both. -/
theorem planRows (h : s.AlikeOn database s') {rows rows' : Option RowCache}
    (hrows : RowCache.SameOn database rows rows') :
    Change.AlikeOn database (rows.map fun rows => { snapshot := s.withRows rows })
      (rows'.map fun rows => { snapshot := s'.withRows rows }) := by
  cases hrows with
  | none => exact .none
  | some hsame => exact .some (h.withRows hsame)

theorem changeCache {change : CacheChange} (h : s.AlikeOn change.database s') :
    Change.AlikeOn change.database (s.changeCache change) (s'.changeCache change) :=
  h.planRows (RowCache.sameOn_change change h.rows)

/-- The same row is put, with the definition of the same table. -/
theorem alterRow (h : s.AlikeOn database s') (hs : s.InOrder) (schema table : String)
    (payload : RowPayload) :
    Except.Alike (Change.AlikeOn database) (s.alterRow database schema table payload)
      (s'.alterRow database schema table payload) := by
  have hcached : s.rows.table? database schema table = s'.rows.table? database schema table := by
    rw [RowCache.table?, RowCache.table?, RowCache.schema?, RowCache.schema?, h.rows]
  rw [Snapshot.alterRow, Snapshot.alterRow, hcached, h.table?_eq hs schema table]
  cases s'.rows.table? database schema table with
  | none => exact .ok .none
  | some cached =>
    cases s'.table? database schema table with
    | none => exact .ok .none
    | some definition =>
      refine (Except.Alike.of_eq rfl).bind ?_
      rintro row _ rfl
      exact .ok (h.planRows (RowCache.sameOn_updateDatabase h.rows _))

end Snapshot.AlikeOn

/-! ### Plans -/

namespace Mutation

open SiteM (Parallel)

/-- The mutation is **local** to a database: it is about this one, and it is not the reload of the
database, which changes what all databases share. -/
structure Local (m : Mutation) (database : String) : Prop where
  about : m.database? = some database
  keepsProperties : m.changesProperties = false

variable {m : Mutation} {database : String} {reg : Registry} {s s' : Snapshot}

/-- **A local mutation is planned in the same way at snapshots that are alike on its database.** -/
theorem Local.parallel_plan (hm : m.Local database) (h : s.AlikeOn database s') (hs : s.InOrder)
    (hs' : s'.InOrder) (hsettled : s.Settled reg) (hsettled' : s'.Settled reg) :
    Parallel database (Change.AlikeOn database) (m.plan reg s) (m.plan reg s') := by
  obtain ⟨habout, hkeeps⟩ := hm
  cases m with
  | alterGlobalRules configs => cases habout
  | alterProperties values => cases habout
  | reloadDatabase name => cases hkeeps
  | addDatabase name =>
    obtain rfl := Option.some.inj habout
    exact .ofExcept (h.addDatabase hs)
  | dropDatabase name =>
    obtain rfl := Option.some.inj habout
    exact .pure (h.dropDatabase hs)
  | addSchema name schema =>
    obtain rfl := Option.some.inj habout
    exact .ofExcept (h.addSchema hs schema)
  | dropSchema name schema =>
    obtain rfl := Option.some.inj habout
    exact .pure (h.dropSchema hs schema)
  | alterSchema change =>
    obtain rfl := Option.some.inj habout
    exact .ofExcept (h.alterSchema hs)
  | alterRules name configs =>
    obtain rfl := Option.some.inj habout
    refine .bind (.findDatabase h hs) fun d d' hd => ?_
    obtain ⟨_, rfl, hpools⟩ := hd.exists_pools
    exact .bind (.rebuild h hs hs' hsettled hsettled' hd hpools configs) fun _ _ hnext =>
      .pure (.some hnext)
  | alterPools name specs =>
    obtain rfl := Option.some.inj habout
    refine .bind (.findDatabase h hs) fun d d' hd => ?_
    obtain ⟨_, rfl, -⟩ := hd.exists_pools
    exact .switchPools h hs hs' hsettled hsettled' hd specs .replace _
  | alterPoolsAndRules name specs configs =>
    obtain rfl := Option.some.inj habout
    refine .bind (.findDatabase h hs) fun d d' hd => ?_
    exact .switchPools h hs hs' hsettled hsettled' hd specs .overlay configs
  | reloadSchema name schema pool =>
    obtain rfl := Option.some.inj habout
    exact .reloadSchema h hs schema pool
  | reloadTable name schema table pool =>
    obtain rfl := Option.some.inj habout
    exact .reloadTable h hs schema table pool
  | changeCache change =>
    obtain rfl := Option.some.inj habout
    exact .pure h.changeCache
  | alterRow name schema table payload =>
    obtain rfl := Option.some.inj habout
    exact .ofExcept (h.alterRow hs schema table payload)

end Mutation

end ProxyCatalog
