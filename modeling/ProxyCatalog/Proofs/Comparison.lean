import ProxyCatalog.Proofs.Persistence

/-!
# Writing by comparison

A reload does not trust the snapshot to know what is stored. It compares each schema with the stored
one and writes what differs, so the store holds the schema afterwards whatever it held before.

* `Store.schema?_withSchema`: a schema that is compared and written is stored as it is given, and no
  other schema is touched.
* `Store.schema?_withReloaded`: the same for all schemas of a database at once, those that are gone
  being dropped first.
* `Store.Rewritten`: the stores differ in the schemas of one database alone. Every write to a schema
  of this database keeps it (`Store.kept_rewritten`).
* `Site.compareAndPersist_ok`, `Site.forM_compareAndPersist_ok`: what the actions that compare and
  write make of the store of a site.
-/

namespace ProxyCatalog

/-- A difference from the stored version, carried out on this version, gives what is proposed. -/
theorem SchemaDelta.apply_between (proposed stored : Schema) :
    (between proposed stored).apply stored = proposed := by
  have hfollows := follows_apply proposed stored stored
  ext1
  · exact hfollows.tables.eq_iff.2 fun _ h => h.symm
  · exact hfollows.views.eq_iff.2 fun _ h => h.symm

namespace Store

/-! ### Schemas after a comparison -/

/-- The store with a schema compared and its difference written. -/
def withSchema (s : Store) (database schema : String) (content : Schema) : Store :=
  let delta := SchemaDelta.between content ((s.schema? database schema).getD ∅)
  let written := s.putSchema database schema delta.added
  if delta.deleted.isEmpty then written else written.deleteObjects database schema delta.deleted

/-- The store with some schemas of a database compared and written, one after another. -/
def withSchemas (s : Store) (database : String) (schemas : NameMap Schema) : Store :=
  schemas.entries.foldl (fun s e => s.withSchema database e.1 e.2) s

/-- The store with the schemas of a database reloaded: those that are gone are dropped, all others
compared and written. -/
def withReloaded (s : Store) (database : String) (proposed current : NameMap Schema) : Store :=
  let gone := (DatabaseDelta.between proposed current).dropped
  (gone.foldl (fun s name => s.dropSchema database name) s).withSchemas database proposed

/-- **A compared schema is stored as it is given**, whatever was stored before. -/
theorem schema?_withSchema (s : Store) (database schema : String) (content : Schema)
    (d x : String) :
    (s.withSchema database schema content).schema? d x =
      if Text.lower database = Text.lower d ∧ Text.lower schema = Text.lower x then some content
      else s.schema? d x := by
  let stored := (s.schema? database schema).getD ∅
  have happly := SchemaDelta.apply_between content stored
  rw [withSchema]
  split
  · next hdeleted =>
    rw [schema?_putSchema, ← SchemaDelta.apply_of_deleted hdeleted, happly]
  · rw [schema?_deleteObjects, schema?_putSchema]
    split
    · exact congrArg some happly
    · rfl

theorem schema?_withSchemas (s : Store) {schemas : NameMap Schema} (hs : schemas.Folded)
    (database name : String) :
    (s.withSchemas database schemas).schema? database name =
      (schemas.get? (Text.lower name)).or (s.schema? database name) := by
  have hput (s : Store) (k : String) (content : Schema) (hk : schemas.get? k = some content) :
      (s.withSchema database k content).schema? database name =
        if k = Text.lower name then some content else s.schema? database name := by
    have hfold : Text.lower k = k := hs k (by rw [NameMap.contains, hk]; rfl)
    simp only [schema?_withSchema, true_and, hfold]
  rw [withSchemas, NameMap.look_foldl_entries (fun s k c => withSchema s database k c)
    (fun s => s.schema? database name) (fun _ c => some c) hput]
  cases schemas.get? (Text.lower name) <;> rfl

/-- **The stored schemas after a reload**: every schema that is proposed is stored as it is, one
that is proposed no longer is gone, and what neither version knows is left as it was. -/
theorem schema?_withReloaded (s : Store) {proposed current : NameMap Schema}
    (hp : proposed.Folded) (hc : current.Folded) (database name : String) :
    (s.withReloaded database proposed current).schema? database name =
      (proposed.get? (Text.lower name)).or
        (if current.contains (Text.lower name) then none else s.schema? database name) := by
  have hgone : ∀ n ∈ (DatabaseDelta.between proposed current).dropped, Text.lower n = n :=
    fun n hn => hc n (NameMap.mem_keys_iff.1 (List.mem_filter.1 hn).1)
  rw [withReloaded, schema?_withSchemas _ hp, schema?_dropAll _ hgone]
  cases h : proposed.get? (Text.lower name) with
  | some content => rfl
  | none =>
    -- Of the schemas that are not proposed, exactly those of the current version are dropped.
    have hnew : proposed.contains (Text.lower name) = false := by
      rw [NameMap.contains, h]
      rfl
    simp only [DatabaseDelta.between, List.mem_filter, NameMap.mem_keys_iff, hnew, Bool.not_false,
      and_true]

/-! ### What stays -/

/-- The store `t` is `s` with the schemas of one database **rewritten**: everything else is as it
was, in this database and in every other. -/
structure Rewritten (database : String) (s t : Store) : Prop where
  props : t.props = s.props
  globalRules : t.globalRules = s.globalRules
  pools : (t.node database).pools = (s.node database).pools
  rules : (t.node database).rules = (s.node database).rules
  rows : (t.node database).rows = (s.node database).rows
  others : ∀ x, Text.lower x ≠ Text.lower database → t.node? x = s.node? x

namespace Kept

variable {I : Store → Prop} {database : String} {saved : SchemaRows → Prop} {s : Store}

theorem withSchema (hI : Kept I database saved) (h : I s) (schema : String) (content : Schema) :
    I (s.withSchema database schema content) := by
  rw [Store.withSchema]
  split
  · exact hI.putSchema h _ _
  · exact hI.deleteObjects (hI.putSchema h _ _) _ _

theorem withReloaded (hI : Kept I database saved) (h : I s) (proposed current : NameMap Schema) :
    I (s.withReloaded database proposed current) := by
  have hgone := List.foldlRecOn (DatabaseDelta.between proposed current).dropped (motive := I) _ h
    fun _ hs n _ => hI.dropSchema hs n
  exact List.foldlRecOn proposed.entries (motive := I) _ hgone
    fun _ hs e _ => hI.withSchema hs e.1 e.2

end Kept

theorem node_setNode_self (s : Store) (database : String) (n : StoreNode) :
    (s.setNode database n).node database = n := by
  rw [node, node?_setNode, if_pos rfl]
  rfl

theorem Rewritten.refl (database : String) (s : Store) : s.Rewritten database s :=
  ⟨rfl, rfl, rfl, rfl, rfl, fun _ _ => rfl⟩

/-- The spelling of the database makes no difference. -/
theorem Rewritten.congr {x y : String} {s t : Store} (h : s.Rewritten x t)
    (hxy : Text.lower x = Text.lower y) : s.Rewritten y t := by
  have hnode (r : Store) : r.node y = r.node x := by rw [node, node, node?, node?, hxy]
  refine ⟨h.props, h.globalRules, ?_, ?_, ?_, fun z hz => h.others z (hxy ▸ hz)⟩
  · rw [hnode, hnode, h.pools]
  · rw [hnode, hnode, h.rules]
  · rw [hnode, hnode, h.rows]

/-- Whatever is written to the schemas of a database, nothing else is rewritten. -/
theorem kept_rewritten (database : String) (s : Store) :
    Kept (s.Rewritten database) database fun _ => False := by
  refine .of_schemas (fun t schemas h => ?_) fun _ _ _ hr => hr.elim
  refine ⟨h.props, h.globalRules, ?_, ?_, ?_, fun x hx => ?_⟩
  · rw [node_setNode_self, ← h.pools]
  · rw [node_setNode_self, ← h.rules]
  · rw [node_setNode_self, ← h.rows]
  · rw [node?_setNode, if_neg (Ne.symm hx), h.others x hx]

/-- The stored schemas of other databases stay as well. -/
theorem Rewritten.schema? {s t : Store} {database : String} (h : s.Rewritten database t)
    {x : String} (hx : Text.lower x ≠ Text.lower database) (schema : String) :
    t.schema? x schema = s.schema? x schema := by
  rw [Store.schema?, Store.schema?, h.others x hx]

end Store

/-! ### Comparing at a site -/

namespace Site

variable {s t : Site} {database : String}

theorem compareAndPersist_ok {schema : String} {content : Schema} {u : Unit}
    (h : (compareAndPersist database schema content).run s = (.ok u, t)) :
    t.store = s.store.withSchema database schema content := by
  obtain ⟨stored, s₁, hstored, h⟩ := SiteM.run_bind_ok.1 h
  obtain ⟨rfl, rfl⟩ := readStore_ok hstored
  obtain ⟨u', s₂, hput, h⟩ := SiteM.run_bind_ok.1 h
  have hput := writeStore_ok hput
  rw [Store.withSchema]
  split at h
  · next hdeleted =>
    rw [writeStore_ok h, hput, if_neg (by simpa using hdeleted)]
  · next hdeleted =>
    obtain ⟨-, rfl⟩ := SiteM.run_pure_ok.1 h
    rw [hput, if_pos (by simpa using hdeleted)]

theorem forM_compareAndPersist_ok {schemas : NameMap Schema}
    (h : (schemas.entries.forM fun e => compareAndPersist database e.1 e.2).run s = (.ok ⟨⟩, t)) :
    t.store = s.store.withSchemas database schemas := by
  let compare (e : String × Schema) : SiteM PUnit := compareAndPersist database e.1 e.2
  have hcompare (e : String × Schema) (s t : Site) (h : (compare e).run s = (.ok ⟨⟩, t)) :
      t.store = s.store.withSchema database e.1 e.2 :=
    compareAndPersist_ok h
  exact forM_writes hcompare h

end Site

end ProxyCatalog
