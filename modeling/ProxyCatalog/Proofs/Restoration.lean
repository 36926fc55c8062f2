import ProxyCatalog.Proofs.Proper

/-!
# Persisted rows

A switch of the pools of a database persists its cached rows, one schema after another, and a proxy
that is started puts the rows of all stored databases back into its cache. What is persisted for a
schema replaces what was persisted for it before, but nothing is ever taken out of the store. So a
schema that the cache has lost comes back with the rows it had when it was last persisted.

* `Assembly.schema?_assemble`: the first row cache of a proxy holds what the store holds.
* `World.restored_rows`: after a switch of pools the rows that are cached come back as they are, and
  in the schemas that are not cached those come back that the store held before.
-/

namespace ProxyCatalog

/-! ### Putting persisted rows into the cache -/

namespace RowCache

theorem schema?_withSchema (c : RowCache) (database schema : String) (rows : SchemaRows)
    (d x : String) :
    (c.withSchema database schema rows).schema? d x =
      if Text.lower database = Text.lower d ∧ Text.lower schema = Text.lower x then some rows
      else c.schema? d x := by
  rw [schema?, schema?, database?, database?, withSchema, NameMap.get?_insert]
  by_cases hd : Text.lower database = Text.lower d
  · simp only [hd, if_true, true_and, Option.bind_some, NameMap.get?_insert, NameMap.getD]
    cases c.databases.get? (Text.lower d) <;> rfl
  · simp only [hd, if_false, false_and]

/-- The rows that are found in a schema depend on the cached rows of this schema alone. -/
theorem row?_congr {c c' : RowCache} {database schema : String}
    (h : c.schema? database schema = c'.schema? database schema) (table key : String) :
    c.row? database schema table key = c'.row? database schema table key := by
  rw [row?, row?, table?, table?, h]

end RowCache

namespace Assembly

variable {reg : Registry} {initial : Properties} {s t : Site} {snapshot : Snapshot}

theorem schema?_withStoredRows (rows : RowCache) (database : String) {stored : DatabaseRows}
    (hs : stored.Folded) (d x : String) :
    (withStoredRows rows database stored).schema? d x =
      if Text.lower database = Text.lower d then
        (stored.get? (Text.lower x)).or (rows.schema? d x)
      else rows.schema? d x := by
  have hput (c : RowCache) (k : String) (r : SchemaRows) (hk : stored.get? k = some r) :
      (c.withSchema database k r).schema? d x =
        if k = Text.lower x then
          if Text.lower database = Text.lower d then some r else c.schema? d x
        else c.schema? d x := by
    have hfold : Text.lower k = k := hs k (by rw [NameMap.contains, hk]; rfl)
    rw [RowCache.schema?_withSchema, hfold]
    by_cases hd : Text.lower database = Text.lower d
    · simp only [hd, true_and, if_true]
    · simp only [hd, false_and, if_false, ite_self]
  have hlook := NameMap.look_foldl_entries (fun c k r => RowCache.withSchema c database k r)
    (fun c => c.schema? d x)
    (fun found r => if Text.lower database = Text.lower d then some r else found) hput rows
  refine hlook.trans ?_
  cases stored.get? (Text.lower x) with
  | none => rw [Option.elim_none, Option.none_or, ite_self]
  | some r => rfl

/-- What is cached of a schema once the rows of some stored databases are put. -/
theorem schema?_withRowsOf {store : Store} (hs : store.Proper) {names : List String}
    (hn : ∀ n ∈ names, Text.lower n = n) (rows : RowCache) (d x : String) :
    (withRowsOf store names rows).schema? d x =
      if Text.lower d ∈ names then (store.rows? d x).or (rows.schema? d x)
      else rows.schema? d x := by
  induction names generalizing rows with
  | nil => rfl
  | cons name names ih =>
    have hname : Text.lower name = name := hn name List.mem_cons_self
    have hrows : (store.node name).rows.Folded := (hs.node name).rows
    rw [withRowsOf, List.foldl_cons, ← withRowsOf, ih fun n h => hn n (List.mem_cons_of_mem _ h),
      schema?_withStoredRows _ _ hrows, hname]
    by_cases hd : name = Text.lower d
    · have hmem : Text.lower d ∈ name :: names := hd ▸ List.mem_cons_self
      have hfound : (store.node name).rows.get? (Text.lower x) = store.rows? d x := by
        rw [store.rows?_eq, Store.node, Store.node, Store.node?, Store.node?, hname, hd]
      rw [if_pos hd, hfound, if_pos hmem]
      -- To put the same rows twice is to put them once.
      cases store.rows? d x with
      | none => rw [Option.none_or, Option.none_or, ite_self]
      | some r => exact ite_self _
    · rw [if_neg hd]
      simp only [List.mem_cons, Ne.symm hd, false_or]

/-- **The first row cache holds the persisted rows**, of every schema. -/
theorem schema?_assemble (hs : s.store.Proper)
    (h : (assemble reg initial).run s = (.ok snapshot, t)) (d x : String) :
    snapshot.rows.schema? d x = s.store.rows? d x := by
  have hn (n : String) (hn : n ∈ s.store.databaseNames) : Text.lower n = n :=
    hs.folded n (NameMap.mem_keys_iff.1 hn)
  rw [(assemble_run h).1, schema?_withRowsOf hs hn]
  have hempty : (∅ : RowCache).schema? d x = none := rfl
  rw [hempty, Option.or_none]
  split
  · rfl
  · next hnone =>
    -- A database that is not stored has no rows.
    rw [Store.rows?, Store.node?]
    cases hd : s.store.databases.get? (Text.lower d) with
    | none => rfl
    | some n =>
      exact absurd (NameMap.mem_keys_iff.2 (by rw [NameMap.contains, hd]; rfl)) hnone

end Assembly

/-! ### After a switch of pools -/

namespace Mutation

/-- The database whose pools the mutation switches, by the word of the operator. -/
def switches? : Mutation → Option String
  | alterPools database _ => some database
  | alterPoolsAndRules database _ _ => some database
  | _ => none

theorem reconfigures?_of_switches? {m : Mutation} {database : String}
    (h : m.switches? = some database) : m.reconfigures? = some database := by
  cases m with
  | alterPools name specs => exact h
  | alterPoolsAndRules name specs configs => exact h
  | _ => cases h

theorem savedRows_of_switches? {m : Mutation} {database : String} (h : m.switches? = some database)
    (s : Snapshot) (d : Database) : m.savedRows s d = (s.rows.database? d.name).getD ∅ := by
  cases m with
  | alterPools name specs => rfl
  | alterPoolsAndRules name specs configs => rfl
  | _ => cases h

end Mutation

namespace World

variable {w w' : World} {m : Mutation} {o : Outcome} {database : String}

/-- What is persisted of a schema after a switch of pools: what is cached of it, and what was
persisted before where nothing is. -/
theorem rows?_after_switch (hw : w.Reachable) (hm : m.switches? = some database)
    (h : w.apply m = (.ok o, w')) (schema : String) :
    w'.site.store.rows? database schema =
      (w'.proxy.snapshot.rows.schema? database schema).or
        (w.site.store.rows? database schema) := by
  obtain ⟨d, d', t, c, hd, hc, -, hstore, -, hrows⟩ :=
    reconfiguration_of_apply hw (Mutation.reconfigures?_of_switches? hm) h
  have hname : d.name = Text.lower database := hw.inOrder.name_eq hd
  have hsame (s : Store) : s.rows? database schema = s.rows? d.name schema := by
    rw [Store.rows?, Store.rows?, Store.node?, Store.node?, hname, Text.lower_lower]
  have hcached : w.proxy.snapshot.rows.schema? database schema =
      (m.savedRows w.proxy.snapshot d).get? (Text.lower schema) := by
    rw [Mutation.savedRows_of_switches? hm, RowCache.schema?, RowCache.database?,
      RowCache.database?, hname, Text.lower_lower]
    cases w.proxy.snapshot.rows.databases.get? (Text.lower database) <;> rfl
  have hfolded : (m.savedRows w.proxy.snapshot d).Folded := by
    rw [Mutation.savedRows_of_switches? hm]
    cases hr : w.proxy.snapshot.rows.database? d.name with
    | none => exact .empty
    | some rows => exact (hw.proper_rows.database? hr).folded
  rw [hrows, hcached, hsame, hsame, hstore, hc.store, Store.rows?_withRows _ hfolded,
    Store.rows?_withDelta]

/-- **The rows that come back** when the contents are loaded right after a switch of pools. In a
schema that is cached they are the cached ones, each under its table and key; in one that is not,
they are those that the store held before the switch. -/
theorem restored_rows (hw : w.Reachable) (hm : m.switches? = some database)
    (h : w.apply m = (.ok o, w')) {reg : Registry} {initial : Properties} {site t : Site}
    {loaded : Snapshot} (hsite : site.store = w'.site.store)
    (hload : (Assembly.assemble reg initial).run site = (.ok loaded, t)) (schema : String) :
    loaded.rows.schema? database schema =
        (w'.proxy.snapshot.rows.schema? database schema).or
          (w.site.store.rows? database schema) ∧
      ((w'.proxy.snapshot.rows.schema? database schema).isSome → ∀ table key,
        loaded.rows.row? database schema table key =
          w'.proxy.snapshot.rows.row? database schema table key) := by
  have hw' : w'.Reachable := by
    have hmoved := hw.move (.mutate m)
    rwa [World.move, h] at hmoved
  have hloaded : loaded.rows.schema? database schema =
      (w'.proxy.snapshot.rows.schema? database schema).or
        (w.site.store.rows? database schema) := by
    rw [Assembly.schema?_assemble (hsite ▸ hw'.proper_store) hload, hsite,
      rows?_after_switch hw hm h]
  refine ⟨hloaded, fun hcached table key => RowCache.row?_congr ?_ table key⟩
  rw [hloaded, Option.or_of_isSome hcached]

/-! ### A schema that is no longer cached -/

/-- A row is put into the cache. From before then on the storage engines report nothing. -/
private def cacheRow : List Move :=
  [.mutate (.alterRow "foo_db" "foo_db" "t_order" ⟨"1", []⟩),
    .mutate (.changeCache (.addTable "foo_db" "foo_db" "t_order")),
    .mutate (.changeCache (.addSchema "foo_db" "foo_db")),
    .mutate (.changeCache (.addDatabase "foo_db")),
    .change (.discovery fun _ _ => .ok ∅)]

/-- Gives the database of the small site the pool again that it has. -/
private def renewPools : Mutation :=
  .alterPools "foo_db" (.single "ds_0" ⟨"", ∅⟩)

/-- Loads the contents again, as a proxy does that is started. -/
private def reload (w : World) : Except Fault Snapshot × Site :=
  (Assembly.assemble w.proxy.registry w.proxy.settings.props).run w.site

/-- **A row comes back that is no longer cached.** It was persisted, then its schema was dropped
from the cache, and to persist the cache once more does not take it out of the store. -/
theorem dropped_row_restored :
    ∃ (w w' : World) (loaded : Snapshot), w.Reachable ∧
      w.apply renewPools = (.ok .installed, w') ∧ (reload w').1 = .ok loaded ∧
        w'.proxy.snapshot.rows.row? "foo_db" "foo_db" "t_order" "1" = none ∧
          loaded.rows.row? "foo_db" "foo_db" "t_order" "1" = some ⟨"1", []⟩ := by
  let w := Sample.world.after
    (.mutate (.changeCache (.dropSchema "foo_db" "foo_db")) :: .mutate renewPools :: cacheRow)
  have happly : w.apply renewPools = (.ok .installed, _) := Except.run_eq_ok (by decide +kernel)
  have hrow : (reload (w.apply renewPools).2).1.toOption.bind
      (·.rows.row? "foo_db" "foo_db" "t_order" "1") = some ⟨"1", []⟩ := by
    decide +kernel
  obtain ⟨loaded, hloaded, hrow⟩ := Option.bind_eq_some_iff.1 hrow
  exact ⟨w, _, loaded, Sample.started_world.reachable.after _, happly,
    congrArg Prod.fst (Except.run_eq_ok hloaded), by decide +kernel, hrow⟩

/-- A row that is cached comes back. -/
theorem cached_row_restored :
    ∃ (w' : World) (loaded : Snapshot),
      (Sample.world.after cacheRow).apply renewPools = (.ok .installed, w') ∧
        (reload w').1 = .ok loaded ∧
          loaded.rows.row? "foo_db" "foo_db" "t_order" "1" = some ⟨"1", []⟩ := by
  let w := Sample.world.after cacheRow
  have happly : w.apply renewPools = (.ok .installed, _) := Except.run_eq_ok (by decide +kernel)
  have hok : (reload (w.apply renewPools).2).1.toOption.isSome := by decide +kernel
  obtain ⟨loaded, hloaded⟩ := Option.isSome_iff_exists.1 hok
  have hload : reload (w.apply renewPools).2 = (.ok loaded, _) := Except.run_eq_ok hloaded
  have hrestored := (restored_rows (Sample.started_world.reachable.after cacheRow) rfl happly rfl
    hload "foo_db").2 (by decide +kernel) "t_order" "1"
  refine ⟨_, loaded, happly, congrArg Prod.fst hload, hrestored.trans ?_⟩
  decide +kernel

end World

end ProxyCatalog
