import ProxyCatalog.Proofs.Upkeep

/-!
# Proper contents

A proxy is started from a store whose contents are proper. They stay so, and so are the rows that it
keeps at hand: names of databases, schemas and tables are folded in the row cache and in the store,
the rows of a table stand under its name, and no key occurs twice among them.

* `NameMap.Throughout`: the names of a map are folded, and every entry has a property. Operations on
  single entries keep it.
* `Mutation.plan_rows`: what a plan makes of the row cache. Only a change of the cache and a put of
  a row make something else of it.
* `World.Reachable.proper_rows` and `World.Reachable.proper_store`: in every world that is reached,
  the row cache and the store are proper.
-/

namespace ProxyCatalog

/-! ### Properties of all entries -/

namespace NameMap

variable {α : Type} {P : String → α → Prop} {m m' : NameMap α} {k : String}

/-- All names are folded, and every entry has the property. -/
structure Throughout (P : String → α → Prop) (m : NameMap α) : Prop where
  folded : m.Folded
  entry : ∀ k v, m.get? k = some v → P k v

namespace Throughout

theorem empty : (∅ : NameMap α).Throughout P :=
  ⟨.empty, fun _ _ h => by cases h⟩

/-- Whatever has the property may be put under a folded name. -/
theorem insert (h : m.Throughout P) (hk : Text.lower k = k) {v : α} (hv : P k v) :
    (m.insert k v).Throughout P := by
  refine ⟨h.folded.insert hk v, fun x w hw => ?_⟩
  rw [get?_insert] at hw
  split at hw
  · next hx =>
    obtain rfl := Option.some.inj hw
    exact hx ▸ hv
  · exact h.entry x w hw

theorem erase (h : m.Throughout P) (k : String) : (m.erase k).Throughout P := by
  refine ⟨h.folded.erase k, fun x w hw => ?_⟩
  rw [get?_erase] at hw
  split at hw
  · cases hw
  · exact h.entry x w hw

theorem insertNew? (h : m.Throughout P) (hk : Text.lower k = k) {v : α} (hv : P k v)
    (hm : m.insertNew? k v = some m') : m'.Throughout P := by
  obtain ⟨-, rfl⟩ := NameMap.insertNew?_eq_some.1 hm
  exact h.insert hk hv

theorem eraseOld? (h : m.Throughout P) (hm : m.eraseOld? k = some m') : m'.Throughout P := by
  obtain ⟨-, rfl⟩ := NameMap.eraseOld?_eq_some.1 hm
  exact h.erase k

/-- An update that keeps the property may be made. -/
theorem update? (h : m.Throughout P) (hk : Text.lower k = k) {f : α → Option α}
    (hf : ∀ v v', P k v → f v = some v' → P k v') (hm : m.update? k f = some m') :
    m'.Throughout P := by
  obtain ⟨v, hv, hm⟩ := Option.bind_eq_some_iff.1 hm
  obtain ⟨v', hv', hm⟩ := Option.bind_eq_some_iff.1 hm
  exact Option.some.inj hm ▸ h.insert hk (hf v v' (h.entry k v hv) hv')

end Throughout

end NameMap

/-! ### Rows -/

/-- The rows of one table, under its name, where no key occurs twice. -/
def TableRows.Proper (name : String) (t : TableRows) : Prop :=
  name = t.name ∧ t.KeyUnique

/-- **Proper** rows of a schema. -/
abbrev SchemaRows.Proper (rows : SchemaRows) : Prop :=
  NameMap.Throughout TableRows.Proper rows

/-- **Proper** rows of a database. -/
abbrev DatabaseRows.Proper (rows : DatabaseRows) : Prop :=
  NameMap.Throughout (fun _ => SchemaRows.Proper) rows

/-- A **proper** row cache. -/
def RowCache.Proper (c : RowCache) : Prop :=
  c.databases.Throughout fun _ => DatabaseRows.Proper

namespace TableRows.Proper

variable {name : String} {t : TableRows}

/-- A new table has no rows and bears its folded name. -/
theorem empty (table : String) : TableRows.Proper (Text.lower table) (.empty table) :=
  ⟨rfl, .empty table⟩

theorem put (h : t.Proper name) (row : Row) : (t.put row).Proper name :=
  ⟨h.1, h.2.put row⟩

theorem delete (h : t.Proper name) (key : String) : (t.delete key).Proper name :=
  ⟨h.1, h.2.delete key⟩

end TableRows.Proper

namespace RowCache.Proper

variable {c c' : RowCache} {database schema table : String}

theorem empty : (∅ : RowCache).Proper :=
  NameMap.Throughout.empty

/-- An update that keeps the rows of databases proper keeps the cache proper. -/
theorem updateDatabase (h : c.Proper) {f : DatabaseRows → Option DatabaseRows}
    (hf : ∀ r r', DatabaseRows.Proper r → f r = some r' → DatabaseRows.Proper r')
    (hc : c.updateDatabase database f = some c') : c'.Proper := by
  obtain ⟨databases, hm, rfl⟩ := Option.map_eq_some_iff.1 hc
  exact NameMap.Throughout.update? h (Text.lower_lower _) hf hm

/-- An update that keeps the rows of schemas proper keeps the cache proper. -/
theorem updateSchema (h : c.Proper) {f : SchemaRows → Option SchemaRows}
    (hf : ∀ r r', SchemaRows.Proper r → f r = some r' → SchemaRows.Proper r')
    (hc : c.updateSchema database schema f = some c') : c'.Proper :=
  h.updateDatabase (fun _ _ hr hm => hr.update? (Text.lower_lower _) hf hm) hc

/-- An update that keeps the rows of tables proper keeps the cache proper. -/
theorem updateTable (h : c.Proper) {f : TableRows → Option TableRows}
    (hf : ∀ name t t', t.Proper name → f t = some t' → t'.Proper name)
    (hc : c.updateTable database schema table f = some c') : c'.Proper :=
  h.updateSchema (fun _ _ hr hm => hr.update? (Text.lower_lower _) (hf _) hm) hc

/-- Every change of the row cache keeps it proper. -/
theorem change (h : c.Proper) {change : CacheChange} (hc : change.apply c = some c') :
    c'.Proper := by
  cases change with
  | addDatabase d =>
    obtain ⟨databases, hm, rfl⟩ := Option.map_eq_some_iff.1 hc
    exact NameMap.Throughout.insertNew? h (Text.lower_lower _) .empty hm
  | dropDatabase d =>
    obtain ⟨databases, hm, rfl⟩ := Option.map_eq_some_iff.1 hc
    exact NameMap.Throughout.eraseOld? h hm
  | addSchema d s =>
    exact h.updateDatabase (fun _ _ hr hm => hr.insertNew? (Text.lower_lower _) .empty hm) hc
  | dropSchema d s => exact h.updateDatabase (fun _ _ hr hm => hr.eraseOld? hm) hc
  | addTable d s t =>
    exact h.updateSchema (fun _ _ hr hm => hr.insertNew? (Text.lower_lower _) (.empty t) hm) hc
  | dropTable d s t => exact h.updateSchema (fun _ _ hr hm => hr.eraseOld? hm) hc
  | deleteRow d s t key =>
    refine h.updateTable (fun name rows rows' hr hm => ?_) hc
    obtain ⟨row, -, rfl⟩ := Option.map_eq_some_iff.1 hm
    exact hr.delete key

/-- To put a row keeps the cache proper. -/
theorem putRow (h : c.Proper) {row : Row} (hc : c.putRow database schema table row = some c') :
    c'.Proper :=
  h.updateTable (fun _ _ _ hr hm => Option.some.inj hm ▸ hr.put row) hc

/-- The rows of a cached database are proper. -/
theorem database? (h : c.Proper) {rows : DatabaseRows} (hr : c.database? database = some rows) :
    DatabaseRows.Proper rows :=
  h.entry _ rows hr

theorem folded_database? (h : c.Proper) (database : String) :
    NameMap.Folded ((c.database? database).getD ∅) := by
  cases hcached : c.database? database with
  | none => exact .empty
  | some rows => exact (h.database? hcached).folded

/-- Proper rows may be put for a whole schema. -/
theorem withSchema (h : c.Proper) {rows : SchemaRows} (hr : SchemaRows.Proper rows) :
    (c.withSchema database schema rows).Proper := by
  refine NameMap.Throughout.insert h (Text.lower_lower _) ?_
  refine NameMap.Throughout.insert ?_ (Text.lower_lower _) hr
  rw [NameMap.getD]
  cases hd : c.databases.get? (Text.lower database) with
  | none => exact .empty
  | some rows => exact h.entry _ rows hd

end RowCache.Proper

/-! ### The row cache along a run -/

namespace Mutation

open Snapshot

variable {reg : Registry} {s : Snapshot} {m : Mutation} {site t : Site} {c : Change}

/-- **What a plan makes of the row cache.** A change of the cache and a put of a row carry out what
they say; every other mutation leaves the rows alone. -/
theorem plan_rows (hs : s.InOrder) (h : (m.plan reg s).run site = (.ok (some c), t)) :
    c.snapshot.rows = s.rows ∨
    (∃ change, m = .changeCache change ∧ change.apply s.rows = some c.snapshot.rows) ∨
    (∃ database schema table payload row, m = .alterRow database schema table payload ∧
      s.rows.putRow database schema table row = some c.snapshot.rows) := by
  obtain ⟨opened, hplanned, -⟩ := planned_of_plan hs h
  cases hplanned with
  | reconfigure hm hd hd' hbooks hnext => exact .inl (withRebuilt_ok hs hd'.folded hnext).2
  | changeCache hrows => exact .inr (.inl ⟨_, rfl, hrows⟩)
  | alterRow hkey hrows => exact .inr (.inr ⟨_, _, _, _, _, rfl, hrows⟩)
  | _ => exact .inl rfl

end Mutation

/-! ### Proper stores -/

namespace Store.Proper

variable {s : Store}

/-- What is stored for a database is proper, also where nothing is. -/
theorem node (hs : s.Proper) (database : String) : (s.node database).Proper := by
  rw [Store.node, node?]
  cases hn : s.databases.get? (Text.lower database) with
  | none => exact ⟨.empty, .empty, fun _ _ h => by cases h⟩
  | some n => exact hs.nodes _ n hn

/-- The persisted rows of a database are proper. -/
theorem rows (hs : s.Proper) (database : String) :
    DatabaseRows.Proper (s.node database).rows := by
  refine ⟨(hs.node database).rows, fun schema rows hr => ?_⟩
  obtain ⟨hfolded, hkeyed, hunique⟩ := (hs.node database).tables schema rows hr
  exact ⟨hfolded, fun table t ht => ⟨hkeyed table t ht, hunique table t ht⟩⟩

theorem setNode (hs : s.Proper) (database : String) {n : StoreNode} (hn : n.Proper) :
    (s.setNode database n).Proper where
  props := hs.props
  folded := hs.folded.insert_lower database n
  nodes name n' hn' := by
    rw [Store.setNode, NameMap.get?_insert] at hn'
    split at hn'
    · exact Option.some.inj hn' ▸ hn
    · exact hs.nodes name n' hn'

/-- **Every write keeps a store proper**, if the rows that are put are. -/
theorem kept (database : String) : Kept Store.Proper database SchemaRows.Proper where
  putSchema hs schema content :=
    have hn := hs.node database
    hs.setNode database { hn with schemas := hn.schemas.insert_lower schema _ }
  deleteObjects {s} hs schema content := by
    rw [Store.deleteObjects]
    split
    · next n stored hn _ =>
      have hn := hs.nodes _ n hn
      exact hs.setNode database { hn with schemas := hn.schemas.insert_lower schema _ }
    · exact hs
  dropSchema {s} hs schema := by
    rw [Store.dropSchema]
    split
    · next n hn =>
      have hn := hs.nodes _ n hn
      exact hs.setNode database { hn with schemas := hn.schemas.erase _ }
    · exact hs
  putRows {s} hs schema rows hr := by
    have hn := hs.node database
    refine hs.setNode database { hn with
      rows := hn.rows.insert_lower schema rows
      tables := fun x rows' hx => ?_ }
    rw [NameMap.get?_insert] at hx
    split at hx
    · obtain rfl := Option.some.inj hx
      exact ⟨hr.folded, fun k t ht => (hr.entry k t ht).1, fun k t ht => (hr.entry k t ht).2⟩
    · exact hn.tables x rows' hx

end Store.Proper

/-! ### The first row cache -/

namespace Assembly

open Site

variable {reg : Registry} {props initial : Properties} {s t : Site} {snapshot : Snapshot}

/-- The row cache with the persisted rows of some databases put into it. -/
def withRowsOf (store : Store) (names : List String) (rows : RowCache) : RowCache :=
  names.foldl (fun rows name => withStoredRows rows name (store.node name).rows) rows

/-- An assembly takes the cached rows from the store, and writes nothing. -/
theorem assembleFrom_run {names : List String} {databases : NameMap Database} {rows : RowCache}
    (h : (assembleFrom reg props names databases rows).run s = (.ok snapshot, t)) :
    snapshot.rows = withRowsOf s.store names rows ∧ s.Unwritten t := by
  induction names generalizing databases rows s with
  | nil =>
    obtain ⟨rules, -, rfl, rfl⟩ := assembleFrom_nil_ok h
    exact ⟨rfl, rfl⟩
  | cons name names ih =>
    obtain ⟨d, u, hopened, h⟩ := assembleFrom_cons_ok h
    obtain ⟨-, -, -, hunwritten⟩ := openDatabase_ok hopened
    obtain ⟨hrows, hrest⟩ := ih h
    rw [show u.store = s.store from hunwritten] at hrows
    exact ⟨hrows, hrest.trans hunwritten⟩

/-- The first row cache holds the persisted rows of the stored databases, and the store is as it
was. -/
theorem assemble_run (h : (assemble reg initial).run s = (.ok snapshot, t)) :
    snapshot.rows = withRowsOf s.store s.store.databaseNames ∅ ∧ s.Unwritten t :=
  assembleFrom_run (assemble_ok h)

theorem proper_withStoredRows {rows : RowCache} (h : rows.Proper) {database : String}
    {stored : DatabaseRows} (hs : DatabaseRows.Proper stored) :
    (withStoredRows rows database stored).Proper :=
  List.foldlRecOn stored.entries (motive := RowCache.Proper) _ h fun _ h e he =>
    h.withSchema (hs.entry e.1 e.2 (NameMap.mem_entries_iff.1 he))

/-- Rows that come from a proper store are proper. -/
theorem proper_withRowsOf {store : Store} (hs : store.Proper) (names : List String)
    {rows : RowCache} (h : rows.Proper) : (withRowsOf store names rows).Proper :=
  List.foldlRecOn names (motive := RowCache.Proper) _ h fun _ h name _ =>
    proper_withStoredRows h (hs.rows name)

end Assembly

/-! ### Along a run -/

theorem Site.store_sleep (ms : Nat) (s : Site) : (s.sleep ms).store = s.store :=
  List.foldlRecOn _ (motive := fun t : Site => t.store = s.store) _ rfl fun _ h _ _ => h

/-- What changes about a site without the proxy leaves the store proper. -/
theorem SiteChange.proper (c : SiteChange) {s : Site} (hs : s.store.Proper) :
    (c.apply s).store.Proper := by
  cases c with
  | storeProperties props admitted => exact { hs with props := admitted }
  | storeGlobalRules configs => exact { hs with }
  | storePools database specs => exact hs.setNode database { hs.node database with }
  | storeRules database configs => exact hs.setNode database { hs.node database with }
  | sleep ms => exact (Site.store_sleep ms s).symm ▸ hs
  | _ => exact hs

namespace World

variable {w : World}

/-- **In every world that is reached the row cache is proper.** -/
theorem Reachable.proper_rows (h : w.Reachable) : w.proxy.snapshot.rows.Proper := by
  refine h.snapshot_induction (P := fun _ s => s.rows.Proper) (fun hfresh hstart => ?_)
    fun hs hrows hplan => ?_
  · rw [(Assembly.assemble_run (Proxy.start_run hstart).2).1]
    exact Assembly.proper_withRowsOf hfresh.proper _ .empty
  · rcases Mutation.plan_rows hs hplan with hsame | ⟨change, -, hc⟩ | ⟨_, _, _, _, _, -, hc⟩
    · exact hsame ▸ hrows
    · exact hrows.change hc
    · exact hrows.putRow hc

/-- **In every world that is reached the store is proper.** -/
theorem Reachable.proper_store (h : w.Reachable) : w.site.store.Proper := by
  refine h.induction (P := fun w => w.site.store.Proper) (fun w hw => ?_) fun w m hw hs => ?_
  · obtain ⟨settings, reg, site, -, hfresh, hboot⟩ := hw
    rw [boot] at hboot
    split at hboot
    · next proxy t hstart =>
      obtain rfl := Except.ok.inj hboot
      have hunwritten := (Assembly.assemble_run (Proxy.start_run hstart).2).2
      exact hunwritten.symm ▸ hfresh.proper
    · cases hboot
  · cases m with
    | mutate m =>
      exact upholds_apply hw.inOrder (fun _ d _ _ => Store.Proper.kept d.name)
        (fun _ _ schema r hd hr => (hw.proper_rows.database? hd).entry schema r hr) hs
    | announce state => exact hs
    | close =>
      obtain ⟨-, b, hsite⟩ := w.close_rest
      rw [World.move, hsite]
      exact hs
    | change c => exact c.proper hs

end World

end ProxyCatalog
