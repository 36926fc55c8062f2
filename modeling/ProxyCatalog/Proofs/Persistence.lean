import ProxyCatalog.Proofs.Conduct
import ProxyCatalog.Proofs.Order

/-!
# What is written to the store

A database that is built anew is brought to the store by what changed: `Store.withDelta` carries out
the difference of two versions of its schemas, and `Store.withRows` puts the cached rows of its
schemas. Both write one schema after another, and what is found under a name afterwards depends on
the entry of that name alone (`NameMap.look_foldl_entries`).

* `NameMap.Follows`, `Schema.Follows`: a stored version follows a change. Where the change has a new
  value it holds this value, and where it has not, what it held before.
* `Store.follows_withDelta`: the stored version of a schema that is not dropped follows the change
  that the difference was taken of, whatever it was before.
* `Store.Kept`: a property of stores that the writes about one database keep.
* `Site.persistDelta_ok`, `Site.forM_writes`: what actions that write make of the store of a site.
-/

namespace ProxyCatalog

/-! ### Following a change -/

namespace NameMap

variable {α β σ : Type}

/-- A fold over the entries of a map that writes one name at a time: what is found under the name
`x` afterwards is what the entry of that name makes of what was found before. -/
theorem look_foldl_entries (op : σ → String → α → σ) (look : σ → β) (write : β → α → β)
    {m : NameMap α} {x : String}
    (h : ∀ s k v, m.get? k = some v → look (op s k v) = if k = x then write (look s) v else look s)
    (s : σ) :
    look (m.entries.foldl (fun s e => op s e.1 e.2) s) =
      (m.get? x).elim (look s) (write (look s)) := by
  have h : ∀ e ∈ m.entries, ∀ s,
      look (op s e.1 e.2) = if e.1 = x then write (look s) e.2 else look s :=
    fun e he s => h s e.1 e.2 (mem_entries_iff.1 he)
  have hs := m.sorted
  rw [get?]
  generalize m.entries = l at h hs
  induction l generalizing s with
  | nil => rfl
  | cons e r ih =>
    obtain ⟨k, v⟩ := e
    rw [List.pairwise_cons] at hs
    have hr := ih (op s k v) (fun e he => h e (List.mem_cons_of_mem _ he)) hs.2
    have hv := h (k, v) List.mem_cons_self s
    rw [List.foldl_cons, hr, hv, lookup_cons]
    by_cases hk : k = x
    · -- A name occurs once, so no later entry writes to it.
      have hnone : r.lookup x = none := by
        refine lookup_eq_none fun e he hx => ?_
        exact String.lt_irrefl x (by simpa only [hk, hx] using hs.1 e he)
      simp only [hk, if_true, hnone, Option.elim]
    · simp only [hk, if_false]

variable [DecidableEq α]

/-- The map `stored`, once brought to `after`, **follows** the change from `before` to `now`: under
a name with a new value it holds that value, and under any other what was stored. -/
def Follows (after stored before now : NameMap α) : Prop :=
  ∀ k, after.get? k = if now.get? k = before.get? k then stored.get? k else now.get? k

/-- What follows a change holds its result when all was stored that the change leaves alone. -/
theorem Follows.eq_iff {after stored before now : NameMap α}
    (h : after.Follows stored before now) :
    after = now ↔ ∀ k, now.get? k = before.get? k → stored.get? k = now.get? k := by
  constructor
  · rintro rfl k hk
    have hafter := h k
    rw [if_pos hk] at hafter
    exact hafter.symm
  · intro hst
    ext1 k
    rw [h k]
    split
    · next hk => exact hst k hk
    · rfl

/-- A difference of two maps, carried out on a third one. -/
private theorem get?_patched (proposed current stored : NameMap α) (k : String) :
    (if k ∈ (current.filter fun k _ => !proposed.contains k).keys then none
      else ((proposed.filter fun k v => current.get? k != some v).get? k).or (stored.get? k)) =
      if proposed.get? k = current.get? k then stored.get? k else proposed.get? k := by
  simp only [mem_keys_iff, contains, get?_filter]
  cases proposed.get? k with
  | none => cases current.get? k <;> simp
  | some v =>
    cases current.get? k with
    | none => simp
    | some v' =>
      by_cases hv : v = v'
      · simp [hv, Option.filter]
      · simp [hv, Ne.symm hv]

end NameMap

namespace Schema

theorem isEmpty_iff {s : Schema} : s.isEmpty = true ↔ s = ∅ := by
  rw [isEmpty, Bool.and_eq_true, NameMap.isEmpty_iff, NameMap.isEmpty_iff]
  constructor
  · rintro ⟨ht, hv⟩
    exact ext ht hv
  · rintro rfl
    exact ⟨rfl, rfl⟩

/-- Nothing can be taken out where nothing is. -/
theorem empty_without (s : Schema) : (∅ : Schema).without s = ∅ := by
  ext1
  · ext1 k
    rw [get?_tables_without]
    exact ite_self none
  · ext1 k
    rw [get?_views_without]
    exact ite_self none

/-- A stored schema **follows** a change if its tables and its views do. -/
structure Follows (after stored before now : Schema) : Prop where
  tables : after.tables.Follows stored.tables before.tables now.tables
  views : after.views.Follows stored.views before.views now.views

end Schema

namespace SchemaDelta

/-- **A delta is followed**, on whatever version it is carried out. -/
theorem follows_apply (proposed current stored : Schema) :
    ((between proposed current).apply stored).Follows stored current proposed := by
  refine ⟨fun k => ?_, fun k => ?_⟩
  · rw [apply, Schema.get?_tables_without, Schema.tables_absorb, NameMap.get?_overlay,
      tables_deleted, tables_added]
    exact NameMap.get?_patched _ _ _ k
  · rw [apply, Schema.get?_views_without, Schema.views_absorb, NameMap.get?_overlay,
      views_deleted, views_added]
    exact NameMap.get?_patched _ _ _ k

/-- Without anything to write, a delta only deletes. -/
theorem apply_of_added {d : SchemaDelta} (h : d.added.isEmpty = true) (s : Schema) :
    d.apply s = s.without d.deleted := by
  have hs : s.absorb ∅ = s := rfl
  rw [apply, Schema.isEmpty_iff.1 h, hs]

/-- Without anything to delete, a delta only writes. -/
theorem apply_of_deleted {d : SchemaDelta} (h : d.deleted.isEmpty = true) (s : Schema) :
    d.apply s = s.absorb d.added := by
  rw [apply, Schema.isEmpty_iff.1 h]
  rfl

end SchemaDelta

/-! ### The store after writing -/

namespace Store

/-- The store with the difference of two versions of the schemas of a database carried out. -/
def withDelta (s : Store) (database : String) (delta : DatabaseDelta) : Store :=
  let s := delta.added.entries.foldl (fun s e => s.putSchema database e.1 e.2) s
  let s := delta.deleted.entries.foldl (fun s e => s.deleteObjects database e.1 e.2) s
  delta.dropped.foldl (fun s name => s.dropSchema database name) s

/-- The store with the rows of some schemas of a database put. -/
def withRows (s : Store) (database : String) (rows : DatabaseRows) : Store :=
  rows.entries.foldl (fun s e => s.putRows database e.1 e.2) s

theorem schema?_congr (s : Store) {d d' x x' : String} (hd : Text.lower d = Text.lower d')
    (hx : Text.lower x = Text.lower x') : s.schema? d x = s.schema? d' x' := by
  rw [schema?, schema?, node?, node?, hd, hx]

variable {proposed current m : NameMap Schema}

private theorem schema?_putAll (s : Store) (hm : m.Folded) (database name : String) :
    (m.entries.foldl (fun s e => s.putSchema database e.1 e.2) s).schema? database name =
      (m.get? (Text.lower name)).elim (s.schema? database name) fun content =>
        some (((s.schema? database name).getD ∅).absorb content) := by
  refine NameMap.look_foldl_entries (fun s k c => s.putSchema database k c)
    (fun s => s.schema? database name)
    (fun stored content => some ((stored.getD ∅).absorb content)) (fun s k c hk => ?_) s
  have hfold : Text.lower k = k := hm k (by rw [NameMap.contains, hk]; rfl)
  simp only [schema?_putSchema, true_and, hfold]
  split
  · next hx => rw [s.schema?_congr rfl (hfold.trans hx)]
  · rfl

private theorem schema?_deleteAll (s : Store) (hm : m.Folded) (database name : String) :
    (m.entries.foldl (fun s e => s.deleteObjects database e.1 e.2) s).schema? database name =
      (m.get? (Text.lower name)).elim (s.schema? database name) fun content =>
        (s.schema? database name).map (·.without content) := by
  refine NameMap.look_foldl_entries (fun s k c => s.deleteObjects database k c)
    (fun s => s.schema? database name)
    (fun stored content => stored.map (·.without content)) (fun s k c hk => ?_) s
  have hfold : Text.lower k = k := hm k (by rw [NameMap.contains, hk]; rfl)
  simp only [schema?_deleteObjects, true_and, hfold]

theorem schema?_dropAll (s : Store) {names : List String}
    (hn : ∀ n ∈ names, Text.lower n = n) (database name : String) :
    (names.foldl (fun s n => s.dropSchema database n) s).schema? database name =
      if Text.lower name ∈ names then none else s.schema? database name := by
  induction names generalizing s with
  | nil => simp
  | cons n ns ih =>
    rw [List.foldl_cons, ih _ fun m hm => hn m (List.mem_cons_of_mem _ hm), schema?_dropSchema,
      hn n List.mem_cons_self]
    by_cases hmem : Text.lower name ∈ ns
    · simp [hmem]
    · simp [hmem, eq_comm]

/-- A stored schema after the parts of a delta that are not empty are carried out. -/
private theorem patched_eq (stored : Option Schema) (d : SchemaDelta) :
    let written := ((some d.added).filter fun c => !c.isEmpty).elim stored fun c =>
      some ((stored.getD ∅).absorb c)
    (((some d.deleted).filter fun c => !c.isEmpty).elim written fun c =>
      written.map (·.without c)) =
      if d.added.isEmpty then stored.map (·.without d.deleted)
      else some (d.apply (stored.getD ∅)) := by
  cases hadded : d.added.isEmpty with
  | true =>
    cases hdeleted : d.deleted.isEmpty with
    | true =>
      have hsame : stored.map (·.without d.deleted) = stored := by
        rw [Schema.isEmpty_iff.1 hdeleted]
        exact Option.map_id'
      simp [Option.filter, hadded, hdeleted, hsame]
    | false => simp [Option.filter, hadded, hdeleted]
  | false =>
    cases hdeleted : d.deleted.isEmpty with
    | true => simp [Option.filter, hadded, hdeleted, SchemaDelta.apply_of_deleted hdeleted]
    | false => simp [Option.filter, hadded, hdeleted, SchemaDelta.apply]

/-- **A stored schema after a difference** of versions is carried out: what is proposed is patched,
what is proposed no longer is gone, and nothing else is touched. A schema without anything to write
is not opened. -/
theorem schema?_withDelta (s : Store) (hp : proposed.Folded) (hc : current.Folded)
    (database name : String) :
    (s.withDelta database (.between proposed current)).schema? database name =
      match proposed.get? (Text.lower name) with
      | some content =>
        let delta := SchemaDelta.between content (current.getD (Text.lower name) ∅)
        if delta.added.isEmpty then (s.schema? database name).map (·.without delta.deleted)
        else some (delta.apply ((s.schema? database name).getD ∅))
      | none => if current.contains (Text.lower name) then none else s.schema? database name := by
  let delta := DatabaseDelta.between proposed current
  have hadded : delta.added.Folded := ((hp.mapValues _).mapValues _).filter _
  have hdeleted : delta.deleted.Folded := ((hp.mapValues _).mapValues _).filter _
  have hdropped : ∀ n ∈ delta.dropped, Text.lower n = n :=
    fun n hn => hc n (NameMap.mem_keys_iff.1 (List.mem_filter.1 hn).1)
  rw [withDelta, schema?_dropAll _ hdropped, schema?_deleteAll _ hdeleted, schema?_putAll _ hadded]
  simp only [delta, DatabaseDelta.between, NameMap.get?_filter, NameMap.get?_mapValues,
    List.mem_filter, NameMap.mem_keys_iff]
  cases hproposed : proposed.get? (Text.lower name) with
  | none =>
    have hgone : proposed.contains (Text.lower name) = false := by
      rw [NameMap.contains, hproposed]
      rfl
    simp only [hgone, Bool.not_false, and_true]
    rfl
  | some content =>
    have hkept : proposed.contains (Text.lower name) = true := by
      rw [NameMap.contains, hproposed]
      rfl
    simp only [hkept, Bool.not_true, Bool.false_eq_true, and_false, if_false]
    exact patched_eq _ _

/-- **A stored schema follows the change** whose difference is carried out, whatever was stored
before. -/
theorem follows_withDelta (s : Store) (hp : proposed.Folded) (hc : current.Folded)
    (database : String) {name : String} {content : Schema}
    (h : proposed.get? (Text.lower name) = some content) :
    (((s.withDelta database (.between proposed current)).schema? database name).getD ∅).Follows
      ((s.schema? database name).getD ∅) (current.getD (Text.lower name) ∅) content := by
  have happly : ((s.withDelta database (.between proposed current)).schema? database name).getD ∅ =
      (SchemaDelta.between content (current.getD (Text.lower name) ∅)).apply
        ((s.schema? database name).getD ∅) := by
    rw [s.schema?_withDelta hp hc, h]
    dsimp only
    split
    · next hadded =>
      rw [SchemaDelta.apply_of_added hadded]
      cases s.schema? database name with
      | none => exact (Schema.empty_without _).symm
      | some stored => rfl
    · rfl
  rw [happly]
  exact SchemaDelta.follows_apply _ _ _

/-! ### What writing leaves alone -/

/-- A property of stores that is **kept** by every write to the schemas of a database, and by
putting rows that are `saved`. -/
structure Kept (I : Store → Prop) (database : String) (saved : SchemaRows → Prop) : Prop where
  putSchema {s : Store} (h : I s) (schema : String) (content : Schema) :
    I (s.putSchema database schema content)
  deleteObjects {s : Store} (h : I s) (schema : String) (content : Schema) :
    I (s.deleteObjects database schema content)
  dropSchema {s : Store} (h : I s) (schema : String) : I (s.dropSchema database schema)
  putRows {s : Store} (h : I s) (schema : String) {rows : SchemaRows} (hr : saved rows) :
    I (s.putRows database schema rows)

namespace Kept

variable {I : Store → Prop} {database : String} {saved : SchemaRows → Prop} {s : Store}

/-- A write to a schema replaces the schemas of a node, or nothing. -/
theorem of_schemas
    (hI : ∀ s schemas, I s → I (s.setNode database { s.node database with schemas }))
    (hr : ∀ s schema rows, saved rows → I s → I (s.putRows database schema rows)) :
    Kept I database saved where
  putSchema {s} h schema content := hI s _ h
  deleteObjects {s} h schema content := by
    rw [Store.deleteObjects]
    split
    · next n stored hn hs =>
      have hnode : s.node database = n := by rw [node, hn]; rfl
      exact hnode ▸ hI s _ h
    · exact h
  dropSchema {s} h schema := by
    rw [Store.dropSchema]
    split
    · next n hn =>
      have hnode : s.node database = n := by rw [node, hn]; rfl
      exact hnode ▸ hI s _ h
    · exact h
  putRows h schema _ hsaved := hr _ schema _ hsaved h

theorem withDelta (hI : Kept I database saved) (h : I s) (delta : DatabaseDelta) :
    I (s.withDelta database delta) := by
  have hadded := List.foldlRecOn delta.added.entries (motive := I) _ h
    fun s hs e _ => hI.putSchema hs e.1 e.2
  have hdeleted := List.foldlRecOn delta.deleted.entries (motive := I) _ hadded
    fun s hs e _ => hI.deleteObjects hs e.1 e.2
  exact List.foldlRecOn delta.dropped (motive := I) _ hdeleted fun s hs n _ => hI.dropSchema hs n

end Kept

theorem rows?_eq (s : Store) (database schema : String) :
    s.rows? database schema = (s.node database).rows.get? (Text.lower schema) := by
  rw [rows?, node]
  cases s.node? database <;> rfl

theorem rows?_putRows (s : Store) (database schema : String) (rows : SchemaRows) (d x : String) :
    (s.putRows database schema rows).rows? d x =
      if Text.lower database = Text.lower d ∧ Text.lower schema = Text.lower x then some rows
      else s.rows? d x := by
  rw [rows?_eq, rows?_eq, putRows, node_updateNode]
  by_cases hd : Text.lower database = Text.lower d
  · have hnode : s.node database = s.node d := by rw [node, node, node?, node?, hd]
    simp only [hd, if_true, true_and, NameMap.get?_insert, hnode]
  · simp only [hd, if_false, false_and]

theorem schema?_putRows (s : Store) (database schema : String) (rows : SchemaRows)
    (d x : String) : (s.putRows database schema rows).schema? d x = s.schema? d x := by
  rw [schema?, node?, putRows, updateNode, ← node?, node?_setNode]
  split
  · next hd =>
    rw [schema?, node, node?, node?, hd]
    cases s.databases.get? (Text.lower d) <;> rfl
  · rfl

/-- Putting rows leaves the stored schemas alone. -/
theorem schema?_withRows (s : Store) (database : String) (rows : DatabaseRows) (d x : String) :
    (s.withRows database rows).schema? d x = s.schema? d x :=
  List.foldlRecOn rows.entries (motive := fun t : Store => t.schema? d x = s.schema? d x) _ rfl
    fun t ht e _ => (schema?_putRows t database e.1 e.2 d x).trans ht

/-- Writes to schemas leave the persisted rows alone. -/
theorem rows?_withDelta (s : Store) (database : String) (delta : DatabaseDelta) (d x : String) :
    (s.withDelta database delta).rows? d x = s.rows? d x := by
  have hkept : Kept (fun t => t.rows? d x = s.rows? d x) database fun _ => False := by
    refine .of_schemas (fun t schemas ht => ?_) (fun _ _ _ hr => hr.elim)
    rw [← ht, rows?_eq, rows?_eq, node, node?_setNode]
    split
    · next hd => rw [node, node, node?, node?, hd]; rfl
    · rfl
  exact hkept.withDelta rfl delta

/-- **Persisted rows after those of some schemas are put**: they replace what these schemas had,
and the rows of other schemas stay. -/
theorem rows?_withRows (s : Store) {rows : DatabaseRows} (hr : rows.Folded)
    (database schema : String) :
    (s.withRows database rows).rows? database schema =
      (rows.get? (Text.lower schema)).or (s.rows? database schema) := by
  have hput (s : Store) (k : String) (r : SchemaRows) (hk : rows.get? k = some r) :
      (s.putRows database k r).rows? database schema =
        if k = Text.lower schema then some r else s.rows? database schema := by
    have hfold : Text.lower k = k := hr k (by rw [NameMap.contains, hk]; rfl)
    simp only [rows?_putRows, true_and, hfold]
  rw [withRows, NameMap.look_foldl_entries (fun s k r => putRows s database k r)
    (fun s => s.rows? database schema) (fun _ r => some r) hput]
  cases rows.get? (Text.lower schema) <;> rfl

end Store

/-! ### Writing at a site -/

namespace Site

variable {s t : Site}

/-- A write that succeeds makes of the contents what it says. -/
theorem writeStore_ok {access : StoreAccess} {write : StoreWrite} {f : Store → Store} {u : Unit}
    (h : (writeStore access write f).run s = (.ok u, t)) : t.store = f s.store := by
  rw [run_writeStore] at h
  split at h
  · cases h
  · split at h
    · obtain ⟨-, rfl⟩ := Prod.mk.inj h
      rfl
    · cases h

/-- Writes in a row that succeed change the contents one after another. -/
theorem forM_writes {α : Type} {f : α → SiteM PUnit} {g : Store → α → Store}
    (hf : ∀ a s t, (f a).run s = (.ok ⟨⟩, t) → t.store = g s.store a) {l : List α}
    (h : (l.forM f).run s = (.ok ⟨⟩, t)) : t.store = l.foldl g s.store := by
  induction l generalizing s with
  | nil =>
    obtain ⟨-, rfl⟩ := SiteM.run_pure_ok.1 h
    rfl
  | cons a l ih =>
    obtain ⟨u, s₁, ha, h⟩ := SiteM.run_bind_ok.1 h
    rw [List.foldl_cons, ← hf a s s₁ ha]
    exact ih h

theorem persistDelta_ok {database : String} {delta : DatabaseDelta}
    (h : (persistDelta database delta).run s = (.ok ⟨⟩, t)) :
    t.store = s.store.withDelta database delta := by
  obtain ⟨u, s₁, hadded, h⟩ := SiteM.run_bind_ok.1 h
  obtain ⟨u', s₂, hdeleted, hdropped⟩ := SiteM.run_bind_ok.1 h
  have hadded := forM_writes (g := fun s e => s.putSchema database e.1 e.2)
    (fun _ _ _ => writeStore_ok) hadded
  have hdeleted := forM_writes (g := fun s e => s.deleteObjects database e.1 e.2)
    (fun _ _ _ => writeStore_ok) hdeleted
  have hdropped := forM_writes (g := fun s name => s.dropSchema database name)
    (fun _ _ _ => writeStore_ok) hdropped
  rw [hdropped, hdeleted, hadded]
  rfl

theorem persistRows_ok {database : String} {rows : DatabaseRows}
    (h : (rows.entries.forM fun e => persistRows database e.1 e.2).run s = (.ok ⟨⟩, t)) :
    t.store = s.store.withRows database rows := by
  have hrows := forM_writes (g := fun s e => s.putRows database e.1 e.2)
    (fun _ _ _ => writeStore_ok) h
  rw [hrows, Store.withRows]

/-- Questions in a row that succeed are all answered from the same contents. -/
theorem mapM_reads {α β : Type} {f : α → SiteM β} {g : Store → α → β}
    (hf : ∀ a s t b, (f a).run s = (.ok b, t) → b = g s.store a ∧ t = s) {l : List α} {r : List β}
    (h : (l.mapM f).run s = (.ok r, t)) : r = l.map (g s.store) ∧ t = s := by
  induction l generalizing r t with
  | nil =>
    rw [List.mapM_nil] at h
    obtain ⟨rfl, rfl⟩ := SiteM.run_pure_ok.1 h
    exact ⟨rfl, rfl⟩
  | cons a l ih =>
    rw [List.mapM_cons] at h
    obtain ⟨b, s₁, ha, h⟩ := SiteM.run_bind_ok.1 h
    obtain ⟨bs, s₂, hl, h⟩ := SiteM.run_bind_ok.1 h
    obtain ⟨rfl, rfl⟩ := hf a s s₁ b ha
    obtain ⟨rfl, rfl⟩ := ih hl
    obtain ⟨rfl, rfl⟩ := SiteM.run_pure_ok.1 h
    exact ⟨rfl, rfl⟩

/-- Questions in a row that are always answered at a site, and leave it as it is. -/
theorem run_mapM {α β : Type} {f : α → SiteM β} {g : α → β}
    (hf : ∀ a, (f a).run s = (.ok (g a), s)) (l : List α) :
    (l.mapM f).run s = (.ok (l.map g), s) := by
  induction l with
  | nil => rfl
  | cons a l ih =>
    rw [List.mapM_cons, SiteM.run_bind_of_ok (hf a), SiteM.run_bind_of_ok ih]
    rfl

end Site

end ProxyCatalog
