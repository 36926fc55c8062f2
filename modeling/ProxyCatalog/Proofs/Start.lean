import ProxyCatalog.Proofs.Stepwise
import ProxyCatalog.Proxy

/-!
# Starting a proxy

A proxy is started at a fresh site, where nothing was done yet, from a store whose contents are
proper: the names in it are folded and what it holds was admitted when it was put there.

* `Database.handlesOf`: the handles of all pools of some databases.
* `Proxy.start_ok`: every database of the first snapshot is assembled, and the pools opened so far
  are its pools, each once.
-/

namespace ProxyCatalog

open Site

/-! ### Proper stores -/

/-- Properties that were **admitted**. -/
def Properties.Admitted (p : Properties) : Prop :=
  checkEntries p.values.entries = .ok ()

/-- What is stored for one database is **proper**: the names are folded, the rows of a table stand
under its name, and no key occurs twice among them. -/
structure StoreNode.Proper (n : StoreNode) : Prop where
  schemas : n.schemas.Folded
  rows : n.rows.Folded
  tables : ∀ schema (rows : SchemaRows), n.rows.get? schema = some rows →
    rows.Folded ∧ rows.KeyedBy TableRows.name ∧
      ∀ table t, rows.get? table = some t → t.KeyUnique

/-- **Proper** contents of a store. -/
structure Store.Proper (s : Store) : Prop where
  props : s.props.Admitted
  folded : s.databases.Folded
  nodes : ∀ name n, s.databases.get? name = some n → n.Proper

/-- A **fresh** site, where no proxy did anything yet. -/
structure Site.Fresh (s : Site) : Prop where
  journal : s.journal = []
  pending : s.pending = []
  proper : s.store.Proper

/-! ### Pools of many databases -/

namespace Database

/-- The handles of all pools of some databases. -/
def handlesOf (databases : NameMap Database) : List PoolHandle :=
  databases.entries.flatMap fun e => Pools.handles e.2.pools

variable {databases : NameMap Database} {name : String} {d : Database}

/-- The handles of databases are those of their pools. -/
theorem mem_handlesOf_iff {h : PoolHandle} :
    h ∈ handlesOf databases ↔
      ∃ name d, databases.get? name = some d ∧ h ∈ Pools.handles d.pools := by
  rw [handlesOf, List.mem_flatMap]
  constructor
  · rintro ⟨⟨name, d⟩, hd, h⟩; exact ⟨name, d, NameMap.mem_entries_iff.1 hd, h⟩
  · rintro ⟨name, d, hd, h⟩; exact ⟨(name, d), NameMap.mem_entries_iff.2 hd, h⟩

/-- A database that is put adds its handles, and takes away those of the one it replaces. -/
theorem handlesOf_insert_perm (databases : NameMap Database) (name : String) (d : Database) :
    (handlesOf (databases.insert name d)).Perm
      (Pools.handles d.pools ++ handlesOf (databases.erase name)) :=
  (databases.entries_insert_perm name d).flatMap_right _

theorem handlesOf_insert_of_new {d : Database} (h : databases.get? name = none) :
    (handlesOf (databases.insert name d)).Perm (handlesOf databases ++ Pools.handles d.pools) := by
  have hinsert := handlesOf_insert_perm databases name d
  rw [NameMap.erase_eq_self h] at hinsert
  exact hinsert.trans List.perm_append_comm

theorem handlesOf_perm_of_get? (h : databases.get? name = some d) :
    (handlesOf databases).Perm (Pools.handles d.pools ++ handlesOf (databases.erase name)) :=
  (NameMap.entries_perm_of_get? h).flatMap_right _

/-- Each database is **assembled** under its own name. -/
def AllAssembled (databases : NameMap Database) : Prop :=
  ∀ name d, databases.get? name = some d → d.Assembled name d.pools

theorem AllAssembled.empty : AllAssembled ∅ :=
  fun _ _ h => by cases h

/-- Databases stand under the names under which they were assembled. -/
theorem AllAssembled.folded (h : AllAssembled databases) : databases.Folded := by
  intro name hname
  obtain ⟨d, hd⟩ := Option.isSome_iff_exists.1 hname
  have hd := h name d hd
  rw [← hd.name_eq, hd.folded]

/-- A database that was assembled may be put beside the others. -/
theorem AllAssembled.insert {pools : Pools} (h : AllAssembled databases)
    (hd : d.Assembled name pools) : AllAssembled (databases.insert d.name d) := by
  intro x d' hx
  rw [NameMap.get?_insert] at hx
  split at hx
  · next hname =>
    obtain rfl := Option.some.inj hx
    exact { hd with name_eq := hname, pools_eq := rfl }
  · exact h x d' hx

end Database

/-- **A snapshot of assembled databases is in order.** -/
theorem Snapshot.inOrder_of_assembled {s : Snapshot}
    (h : Database.AllAssembled s.catalog.databases) : s.InOrder where
  keyed name d hd := (h name d hd).name_eq.symm
  databases name d hd := (h name d hd).inOrder

/-! ### The first snapshot -/

open Database

variable {reg : Registry} {props : Properties} {s t : Site} {snapshot : Snapshot}

theorem Assembly.assembleFrom_ok {names : List String} {databases : NameMap Database}
    {rows : RowCache} (hnames : names.Nodup) (hfolded : ∀ n ∈ names, Text.lower n = n)
    (hd : AllAssembled databases) (hnew : ∀ n ∈ names, databases.get? n = none)
    (h : (assembleFrom reg props names databases rows).run s = (.ok snapshot, t)) :
    AllAssembled snapshot.catalog.databases ∧ ∃ opened, s.Opened t opened ∧
      (handlesOf snapshot.catalog.databases).Perm (handlesOf databases ++ opened) := by
  induction names generalizing databases rows s with
  | nil =>
    obtain ⟨rules, -, rfl, rfl⟩ := assembleFrom_nil_ok h
    have hmake : (Catalog.make databases rules props).databases = databases :=
      hd.folded.rekey_eq_self
    refine ⟨?_, [], Quiet.opened (Course.refl t), ?_⟩
    · change AllAssembled (Catalog.make databases rules props).databases
      rw [hmake]
      exact hd
    · change (handlesOf (Catalog.make databases rules props).databases).Perm _
      rw [hmake, List.append_nil]
  | cons name names ih =>
    rw [List.nodup_cons] at hnames
    obtain ⟨d, u, hrun, h⟩ := assembleFrom_cons_ok h
    have hd' := assembled_of_openDatabase (hfolded name List.mem_cons_self) hrun
    have hnone : databases.get? d.name = none := by
      rw [hd'.name_eq]
      exact hnew name List.mem_cons_self
    -- The remaining names are not that of the database just assembled.
    obtain ⟨hall, opened, hopened, hperm⟩ := ih hnames.2
      (fun n hn => hfolded n (List.mem_cons_of_mem _ hn)) (hd.insert hd') (fun n hn => by
        rw [NameMap.get?_insert, if_neg, hnew n (List.mem_cons_of_mem _ hn)]
        rintro rfl
        exact hnames.1 (hd'.name_eq ▸ hn)) h
    refine ⟨hall, _, (opened_of_openDatabase hrun).trans hopened, hperm.trans ?_⟩
    rw [← List.append_assoc]
    exact (handlesOf_insert_of_new hnone).append_right _

/-- What holds of every database assembled from the store holds of those of the first snapshot. -/
theorem Assembly.forall_of_assembleFrom {P : Database → Prop} {names : List String}
    {databases : NameMap Database} {rows : RowCache}
    (hP : ∀ {name pools configs s d t},
      (fromStore reg name pools configs props).run s = (.ok d, t) → P d)
    (hd : ∀ name d, databases.get? name = some d → P d)
    (h : (assembleFrom reg props names databases rows).run s = (.ok snapshot, t)) :
    ∀ name d, snapshot.catalog.databases.get? name = some d → P d := by
  induction names generalizing databases rows s with
  | nil =>
    obtain ⟨rules, -, rfl, -⟩ := assembleFrom_nil_ok h
    intro name d hname
    obtain ⟨name', hname'⟩ := NameMap.get?_of_get?_rekey hname
    exact hd name' d hname'
  | cons name names ih =>
    obtain ⟨d, u, hopened, h⟩ := assembleFrom_cons_ok h
    obtain ⟨sw, -, hbuilt, -⟩ := openDatabase_ok hopened
    refine ih (fun x d' hx => ?_) h
    rw [NameMap.get?_insert] at hx
    split at hx
    · exact Option.some.inj hx ▸ hP hbuilt
    · exact hd x d' hx

/-- The first snapshot is assembled from the databases in the store, under the initial properties
with the stored ones put over them. -/
theorem Assembly.assemble_ok {initial : Properties}
    (h : (assemble reg initial).run s = (.ok snapshot, t)) :
    (assembleFrom reg (initial.merged s.store.props) s.store.databaseNames ∅ ∅).run s =
      (.ok snapshot, t) := by
  obtain ⟨stored, s₁, hstored, h⟩ := SiteM.run_bind_ok.1 h
  obtain ⟨names, s₂, hnames, h⟩ := SiteM.run_bind_ok.1 h
  obtain ⟨rfl, rfl⟩ := readStore_ok hstored
  obtain ⟨rfl, rfl⟩ := readStore_ok hnames
  exact h

/-- To start a proxy is to assemble its first snapshot. -/
theorem Proxy.start_run {settings : Settings} {p : Proxy}
    (h : (Proxy.start settings reg).run s = (.ok p, t)) :
    p.registry = reg ∧ (Assembly.assemble reg settings.props).run s = (.ok p.snapshot, t) := by
  obtain ⟨snapshot, s₁, hassemble, h⟩ := SiteM.run_bind_ok.1 h
  obtain ⟨executor, s₂, hexecutor, h⟩ := SiteM.run_bind_ok.1 h
  obtain ⟨rfl, rfl⟩ := SiteM.run_pure_ok.1 h
  obtain ⟨-, rfl⟩ := SiteM.run_ofExcept_ok.1 hexecutor
  exact ⟨rfl, hassemble⟩

/-- **The first snapshot.** Its databases are assembled, and its pools are the ones opened. -/
theorem Proxy.start_ok {settings : Settings} {p : Proxy} (hs : s.Fresh)
    (h : (Proxy.start settings reg).run s = (.ok p, t)) :
    AllAssembled p.snapshot.catalog.databases ∧
      s.Opened t (handlesOf p.snapshot.catalog.databases) := by
  have hassemble := Assembly.assemble_ok (Proxy.start_run h).2
  have hfolded (n : String) (hn : n ∈ s.store.databaseNames) : Text.lower n = n :=
    hs.proper.folded n (NameMap.mem_keys_iff.1 hn)
  obtain ⟨hall, opened, hopened, hperm⟩ := Assembly.assembleFrom_ok (NameMap.keys_nodup _) hfolded
    .empty (fun _ _ => rfl) hassemble
  exact ⟨hall, hopened.of_perm hperm.symm⟩

end ProxyCatalog
