import ProxyCatalog.Proofs.Reconfiguration

/-!
# What becomes of the store

A property of stores that is kept by every write about one database is upheld by every mutation of
this database, whether it succeeds or fails (`Mutation.plan_upholds`, `World.upholds_apply`). A
mutation that is about no database writes nothing.

The rows that are written come from the row cache, so a property of the store may depend on one of
the cached rows.
-/

namespace ProxyCatalog

/-! ### Keeping a property of the store -/

namespace Site

variable {α : Type} {I : Store → Prop}

/-- If the store had the property, it **upholds** it. -/
def Upholds (I : Store → Prop) (s t : Site) : Prop :=
  I s.store → I t.store

instance : Course (Upholds I) where
  refl _ h := h
  trans h h' hs := h' (h hs)

/-- A store that holds what it held has every property it had. -/
theorem Unwritten.upholds {s t : Site} (h : s.Unwritten t) : s.Upholds I t :=
  fun hs => h ▸ hs

/-- Who only asks upholds every property of the store. -/
theorem upholds_of_reading {x : SiteM α} (h : x.Within Reading) : x.Within (Upholds I) :=
  h.mono fun _ _ h => h.2.upholds

theorem upholds_of_sparing {x : SiteM α} (h : x.Within Sparing) : x.Within (Upholds I) :=
  h.mono fun _ _ h => h.2.upholds

theorem upholds_closingOnFault {pools : Pools} {x : SiteM α} (hx : x.Within (Upholds I)) :
    (closingOnFault pools x).Within (Upholds I) :=
  within_onFault (fun _ h => h) hx

/-- A write upholds a property that it keeps; where it is refused there is nothing to keep. -/
theorem upholds_writeStore {access : StoreAccess} {write : StoreWrite} {f : Store → Store}
    (hf : ∀ s, I s → I (f s)) : (writeStore access write f).Within (Upholds I) := by
  intro s hs
  rw [run_writeStore]
  split
  · exact hs
  · split
    · exact hf _ hs
    · exact hs

variable {database : String} {saved : SchemaRows → Prop}

/-- What is put and what is deleted are both writes about the database. -/
theorem upholds_compareAndPersist (hI : Store.Kept I database saved) (schema : String)
    (content : Schema) : (compareAndPersist database schema content).Within (Upholds I) := by
  refine .bind (upholds_of_reading (reading_readStore _ _)) fun stored => ?_
  refine .bind (upholds_writeStore fun _ h => hI.putSchema h _ _) fun _ => ?_
  split
  · exact upholds_writeStore fun _ h => hI.deleteObjects h _ _
  · exact .pure _

/-- All three parts of a difference are writes about the database. -/
theorem upholds_persistDelta (hI : Store.Kept I database saved) (delta : DatabaseDelta) :
    (persistDelta database delta).Within (Upholds I) :=
  .bind (.forM _ fun _ => upholds_writeStore fun _ h => hI.putSchema h _ _) fun _ =>
    .bind (.forM _ fun _ => upholds_writeStore fun _ h => hI.deleteObjects h _ _) fun _ =>
      .forM _ fun _ => upholds_writeStore fun _ h => hI.dropSchema h _

end Site

/-! ### Plans -/

namespace Snapshot

open Site

variable {reg : Registry} {s : Snapshot} {d : Database} {I : Store → Prop}
  {saved : SchemaRows → Prop}

theorem upholds_rebuild (hd : d.InOrder) (hI : Store.Kept I d.name saved) (pools : Pools)
    (configs : List RuleConfig) : (s.rebuild reg d pools configs).Within (Upholds I) := by
  refine .bind_run (upholds_of_reading (Assembly.reading_fromEngines _ _ _ _ _)) fun u d' v h => ?_
  -- The difference is written under the name of the database that was assembled.
  have hname := (Assembly.assembled_of_fromEngines hd.name h).name_eq
  refine .bind (.ofExcept _) fun next => .bind ?_ fun _ => .pure _
  rw [hname]
  exact upholds_persistDelta hI _

/-- **A switch of pools** writes the difference of the schemas, and all cached rows of the database.
-/
theorem upholds_switchPools (hd : d.InOrder) (hI : Store.Kept I d.name saved)
    (hrows : ∀ schema rows, ((s.rows.database? d.name).getD ∅).get? schema = some rows → saved rows)
    (specs : NameMap PoolSpec) (mode : SwitchMode) (configs : List RuleConfig) :
    (s.switchPools reg d specs mode configs).Within (Upholds I) := by
  refine .bind (upholds_of_sparing (sparing_openSwitch _ _ _)) fun sw => ?_
  refine .bind (upholds_closingOnFault ?_) fun _ => .pure _
  refine .bind (upholds_rebuild hd hI _ _) fun next => ?_
  refine .bind (.forM_mem fun e he => ?_) fun _ => .pure _
  exact upholds_writeStore fun _ h => hI.putRows h _ (hrows _ _ (NameMap.mem_entries_iff.1 he))

/-- **A reload of a database** drops schemas, and compares the others with what is stored. -/
theorem upholds_rebuildStored (hI : Store.Kept I d.name saved) (sw : Switch) :
    (s.rebuildStored reg d sw).Within (Upholds I) := by
  refine .bind (upholds_of_reading (reading_readStore _ _)) fun props => ?_
  refine .bind (upholds_of_reading (reading_readStore _ _)) fun configs => ?_
  refine .bind (upholds_of_reading (reading_readStore _ _)) fun globalConfigs => ?_
  refine .bind (upholds_of_reading (Assembly.reading_fromEngines _ _ _ _ _)) fun d' => ?_
  refine .bind (.ofExcept _) fun rules => ?_
  refine .bind (.forM _ fun _ => upholds_writeStore fun _ h => hI.dropSchema h _) fun _ => ?_
  exact .bind (.forM _ fun _ => upholds_compareAndPersist hI _ _) fun _ => .pure _

/-- **A reload of a schema** drops it or compares it with what is stored. -/
theorem upholds_reloadSchema {database : String}
    (hI : ∀ d, s.database? database = some d → Store.Kept I d.name saved) (schema pool : String) :
    (s.reloadSchema database schema pool).Within (Upholds I) := by
  refine within_findDatabase fun d hd => ?_
  have hI := hI d hd
  refine .bind (.ofExcept _) fun pools => ?_
  refine .bind (upholds_of_reading (reading_discoverSchema _ _ _ _ _)) fun found => ?_
  refine .bind (upholds_of_reading (reading_readStore _ _)) fun views => ?_
  -- Whatever was written, the routes are loaded last, which writes nothing.
  have hreload (d' : Database) : (do
      let changed ← SiteM.ofExcept d'.reloadRoutes
      return some ({ snapshot := s.withDatabase changed } : Change)).Within (Upholds I) :=
    .bind (.ofExcept _) fun _ => .pure _
  dsimp only
  split
  · exact .bind (upholds_writeStore fun _ h => hI.dropSchema h _) fun _ => hreload _
  · exact .bind (upholds_compareAndPersist hI _ _) fun _ => hreload _

/-- **A reload of a table** compares its schema with what is stored. -/
theorem upholds_reloadTableThrough (hI : Store.Kept I d.name saved) (pools : Pools)
    (schema table : String) : (s.reloadTableThrough d pools schema table).Within (Upholds I) := by
  refine .bind (upholds_of_reading (reading_discoverSchema _ _ _ _ _)) fun found => ?_
  refine .bind_run (.ofExcept _) fun u changed v hchanged => ?_
  have hchanged := (SiteM.run_ofExcept_ok.1 hchanged).1
  cases changed with
  | none => exact .pure _
  | some changed =>
    have hrevision : (Mutation.reloadTable d.name schema table none).Revision d changed :=
      .reloadTable (fun _ => named_of_found) hchanged
    dsimp only
    split
    · rw [hrevision.revised.name]
      exact .bind (upholds_compareAndPersist hI _ _) fun _ => .pure _
    · exact .pure _

end Snapshot

/-- The database whose rows are changed. -/
def CacheChange.database : CacheChange → String
  | addDatabase d => d
  | dropDatabase d => d
  | addSchema d _ => d
  | dropSchema d _ => d
  | addTable d _ _ => d
  | dropTable d _ _ => d
  | deleteRow d _ _ _ => d

namespace Mutation

open Site Snapshot

/-- The database that the mutation is about. -/
def database? : Mutation → Option String
  | addDatabase database => some database
  | dropDatabase database => some database
  | addSchema database _ => some database
  | dropSchema database _ => some database
  | alterSchema change => some change.database
  | alterRules database _ => some database
  | alterPools database _ => some database
  | alterPoolsAndRules database _ _ => some database
  | alterGlobalRules _ => none
  | alterProperties _ => none
  | reloadDatabase database => some database
  | reloadSchema database _ _ => some database
  | reloadTable database _ _ _ => some database
  | changeCache change => some change.database
  | alterRow database _ _ _ => some database

theorem database?_of_rebuilds? {m : Mutation} {database : String}
    (h : m.rebuilds? = some database) : m.database? = some database := by
  cases m with
  | alterRules | alterPools | alterPoolsAndRules | reloadDatabase => exact h
  | _ => cases h

theorem database?_of_revises? {m : Mutation} {database : String}
    (h : m.revises? = some database) : m.database? = some database := by
  cases m with
  | addSchema | dropSchema | alterSchema | reloadSchema | reloadTable => exact h
  | _ => cases h

variable {reg : Registry} {s : Snapshot} {m : Mutation} {I : Store → Prop}
  {saved : SchemaRows → Prop}

/-- **A plan upholds what every write about its database keeps**, whether or not it succeeds. The
cached rows, which it may write, have to be of the kind that may be saved. -/
theorem plan_upholds (hs : s.InOrder)
    (hI : ∀ database d, m.database? = some database → s.database? database = some d →
      Store.Kept I d.name saved)
    (hrows : ∀ database rows schema r, s.rows.database? database = some rows →
      rows.get? schema = some r → saved r) :
    (m.plan reg s).Within (Upholds I) := by
  have hsaved (d : Database) (schema : String) (r : SchemaRows)
      (h : ((s.rows.database? d.name).getD ∅).get? schema = some r) : saved r := by
    cases hrowsD : s.rows.database? d.name with
    | none => rw [hrowsD] at h; cases h
    | some rows => exact hrows _ _ _ _ hrowsD (by rw [hrowsD] at h; exact h)
  refine plan_cases (fun r => .ofExcept r)
    (fun configs hm => within_findDatabase fun d hd => .bind ?_ fun _ => .pure _)
    (fun specs mode configs hm => within_findDatabase fun d hd => ?_)
    (fun hm => within_findDatabase fun d hd => ?_)
    (fun schema pool hm => ?_)
    (fun schema table pool hm => within_findDatabase fun d hd => ?_)
  · exact upholds_rebuild (hs.database hd) (hI _ d (database?_of_rebuilds? hm) hd) _ _
  · exact upholds_switchPools (hs.database hd) (hI _ d (database?_of_rebuilds? hm) hd) (hsaved d)
      _ _ _
  · refine .bind (upholds_of_reading (reading_readStore _ _)) fun specs => ?_
    refine .bind (upholds_of_sparing (sparing_openSwitch _ _ _)) fun sw => ?_
    exact .bind (upholds_closingOnFault
      (upholds_rebuildStored (hI _ d (database?_of_rebuilds? hm) hd) sw)) fun _ => .pure _
  · exact upholds_reloadSchema (fun d hd => hI _ d (database?_of_revises? hm) hd) schema pool
  · have hI := hI _ d (database?_of_revises? hm) hd
    cases pool with
    | none => exact upholds_reloadTableThrough hI _ _ _
    | some name => exact .bind (.ofExcept _) fun pools => upholds_reloadTableThrough hI _ _ _

end Mutation

namespace World

/-- What an applied mutation makes of the store is what its plan makes of it. -/
theorem store_apply (w : World) (m : Mutation) :
    (w.apply m).2.site.store =
      ((m.plan w.proxy.registry w.proxy.snapshot).run w.site).2.store := by
  rw [apply]
  cases hplan : (m.plan w.proxy.registry w.proxy.snapshot).run w.site with
  | mk r t =>
    cases r with
    | error e => rfl
    | ok change =>
      cases change with
      | none => rfl
      | some c => exact (({ w with site := t }.install c.snapshot).followUp_rest c).2

/-- **A mutation upholds what every write about its database keeps.** -/
theorem upholds_apply {w : World} {m : Mutation} {I : Store → Prop} {saved : SchemaRows → Prop}
    (hs : w.proxy.snapshot.InOrder)
    (hI : ∀ database d, m.database? = some database →
      w.proxy.snapshot.database? database = some d → Store.Kept I d.name saved)
    (hrows : ∀ database rows schema r, w.proxy.snapshot.rows.database? database = some rows →
      rows.get? schema = some r → saved r)
    (h : I w.site.store) : I (w.apply m).2.site.store := by
  rw [store_apply]
  exact Mutation.plan_upholds hs hI hrows _ h

end World

end ProxyCatalog
