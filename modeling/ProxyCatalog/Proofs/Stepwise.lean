import ProxyCatalog.Proofs.Order

/-!
# The first snapshot, database by database

A start opens one database after another (`Assembly.openDatabase`), looks at the persisted rows of
each, and builds the global rules last.

* `Assembly.openDatabase_ok`: to open a database that can be assembled is to open its pools and to
  look at the store.
* `assembleFrom_nil_ok`, `assembleFrom_cons_ok`: what a start that succeeds did, one database at a
  time.
-/

namespace ProxyCatalog

open Site

/-- Where no pool was there before, the pools after a switch are those that it opened. -/
theorem Switch.apply_empty (sw : Switch) : sw.apply ∅ = sw.opened :=
  NameMap.empty_overlay sw.opened

namespace Assembly

variable {reg : Registry} {props : Properties} {name : String} {s t : Site} {d : Database}

/-- **A database that is opened.** Nothing was done on the way but to open its pools. -/
theorem openDatabase_ok (h : (openDatabase reg props name).run s = (.ok d, t)) :
    ∃ sw, (openSwitch ∅ (s.store.node name).pools .overlay).run s = (.ok sw, t) ∧
      (fromStore reg name sw.opened (s.store.node name).rules props).run t = (.ok d, t) ∧
        s.Unwritten t := by
  obtain ⟨specs, s₁, hspecs, h⟩ := SiteM.run_bind_ok.1 h
  obtain ⟨sw, u, hopen, h⟩ := SiteM.run_bind_ok.1 h
  obtain ⟨configs, s₃, hconfigs, hbuilt⟩ := SiteM.run_bind_ok.1 h
  have hbuilt := closingOnFault_ok.1 hbuilt
  obtain ⟨rfl, rfl⟩ := readStore_ok hspecs
  obtain ⟨rfl, rfl⟩ := readStore_ok hconfigs
  -- The store is asked while nothing writes to it.
  have hopened : s₁.Unwritten s₃ := ((sparing_openSwitch _ _ _).of_run hopen).2
  obtain ⟨-, -, -, -, -, rfl⟩ := fromStore_ok hbuilt
  rw [Switch.apply_empty, show t.store = s₁.store from hopened] at hbuilt
  exact ⟨sw, hopen, hbuilt, hopened⟩

/-- The pools of a database that is opened are those opened for it. -/
theorem opened_of_openDatabase (h : (openDatabase reg props name).run s = (.ok d, t)) :
    s.Opened t (Pools.handles d.pools) := by
  obtain ⟨sw, hopen, hbuilt, -⟩ := openDatabase_ok h
  obtain ⟨protocol, rules, -, -, rfl, -⟩ := fromStore_ok hbuilt
  exact (openSwitch_ok hopen).1

/-- A database is opened under the folded form of its name. -/
theorem name_of_openDatabase (h : (openDatabase reg props name).run s = (.ok d, t)) :
    d.name = Text.lower name := by
  obtain ⟨sw, -, hbuilt, -⟩ := openDatabase_ok h
  obtain ⟨protocol, rules, -, -, rfl, -⟩ := fromStore_ok hbuilt
  rfl

theorem assembled_of_openDatabase (hname : Text.lower name = name)
    (h : (openDatabase reg props name).run s = (.ok d, t)) : d.Assembled name d.pools := by
  obtain ⟨sw, hopen, hbuilt, -⟩ := openDatabase_ok h
  exact { assembled_of_fromStore hname hbuilt with pools_eq := rfl }

/-! ### What a start that succeeds did -/

variable {names : List String} {databases : NameMap Database} {rows : RowCache}
  {snapshot : Snapshot}

/-- The global rules are built last. -/
theorem assembleFrom_nil_ok
    (h : (assembleFrom reg props [] databases rows).run s = (.ok snapshot, t)) :
    ∃ rules, reg.buildGlobal s.store.globalRules = .ok rules ∧
      snapshot = ⟨.make databases rules props, rows⟩ ∧ t = s := by
  obtain ⟨configs, s₁, hconfigs, h⟩ := SiteM.run_bind_ok.1 (onFault_ok.1 h)
  obtain ⟨rules, s₂, hbuilt, h⟩ := SiteM.run_bind_ok.1 h
  obtain ⟨rfl, rfl⟩ := SiteM.run_pure_ok.1 h
  obtain ⟨rfl, rfl⟩ := readStore_ok hconfigs
  obtain ⟨hrules, rfl⟩ := SiteM.run_ofExcept_ok.1 hbuilt
  exact ⟨rules, hrules, rfl, rfl⟩

/-- The first database is opened, and its rows are looked at, before the others. -/
theorem assembleFrom_cons_ok
    (h : (assembleFrom reg props (name :: names) databases rows).run s = (.ok snapshot, t)) :
    ∃ d u, (openDatabase reg props name).run s = (.ok d, u) ∧
      (assembleFrom reg props names (databases.insert d.name d)
        (withStoredRows rows name (s.store.node name).rows)).run u = (.ok snapshot, t) := by
  obtain ⟨d, u, hopened, h⟩ := SiteM.run_bind_ok.1 h
  obtain ⟨stored, v, hstored, h⟩ := SiteM.run_bind_ok.1 h
  have hopened := onFault_ok.1 hopened
  obtain ⟨rfl, rfl⟩ := readStore_ok (onFault_ok.1 hstored)
  obtain ⟨-, -, -, hunwritten⟩ := openDatabase_ok hopened
  refine ⟨d, v, hopened, ?_⟩
  rw [← show v.store = s.store from hunwritten]
  exact h

end Assembly

end ProxyCatalog
