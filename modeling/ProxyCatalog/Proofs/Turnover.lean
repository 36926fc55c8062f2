import Mathlib.Data.List.Nodup
import ProxyCatalog.Proofs.Accounts
import ProxyCatalog.Proofs.Switching

/-!
# The turnover of pools

A switch compares, opens, picks out what is stale and puts the rest together in separate passes,
each of which goes by names, and a pool whose properties change is both opened and stale under one
name. What the passes come to is a matter of handles.

Where nothing fails (`Switch.Turnover`), the pools afterwards have the proposed properties, and no
pool is opened or retired that has them already. Each handle from before is either kept or stale,
and a stale one is gone even if its name is not. The accounts of the switch (`openSwitch_ok`) carry
the proof: the handles afterwards and the stale ones are those from before and the new ones, of
which no two are the same.

Where some pool cannot be opened, the fault is that of the first one by name, and every pool that
was opened is closed.

* `Pools.Numbered`: no two pools have one handle, and new handles are different from all of theirs.
  So it is of the pools of every installed database, and after every switch.
* `Connector.answers`: which pools can be opened.
* `Site.turnover_of_openSwitch`, `Site.openSwitch_turnover`: the turnover of a switch.
-/

namespace ProxyCatalog

/-! ### Numbered pools -/

/-- The pools are **numbered**: each handle was given to one of them alone, by one of the openings
so far. An opening that comes later gives a handle that none of them has. -/
structure Pools.Numbered (pools : Pools) (openings : Nat) : Prop where
  nodup : (handles pools).Nodup
  bound : ∀ h ∈ handles pools, h.serial ≤ openings

/-- The pools of an installed database are numbered. -/
theorem World.Balanced.numbered_pools {w : World} (hw : w.Balanced) {name : String} {d : Database}
    (hd : w.proxy.snapshot.catalog.databases.get? name = some d) :
    d.pools.Numbered w.site.openings := by
  have hperm := Database.handlesOf_perm_of_get? hd
  have hheld : (w.held ++ w.site.retired).Nodup := hw.books.nodup_iff.2 hw.numbered.nodup
  have hpools : (Pools.handles d.pools).Nodup :=
    (List.nodup_append.1 (hperm.nodup_iff.1 (List.nodup_append.1 hheld).1)).1
  refine ⟨hpools, fun h hh => hw.numbered.bound h (hw.books.mem_iff.1 ?_)⟩
  exact List.mem_append_left _ (hperm.mem_iff.2 (List.mem_append_left _ hh))

namespace Site

variable {s t : Site} {current : Pools} {proposed : NameMap PoolSpec} {mode : SwitchMode}
  {sw : Switch}

/-- No handle that a switch opens was there before, and none is given twice. -/
theorem nodup_of_openSwitch (hn : current.Numbered s.openings)
    (h : (openSwitch current proposed mode).run s = (.ok sw, t)) :
    (Pools.handles current ++ Pools.handles sw.opened).Nodup := by
  obtain ⟨⟨es, hl, hperm, -⟩, -⟩ := openSwitch_ok h
  refine List.nodup_append.2 ⟨hn.nodup, hperm.nodup_iff.1 hl.nodup_opens, fun p hp q hq he => ?_⟩
  have hle := hn.bound p hp
  have hlt := hl.lt_serial (hperm.mem_iff.2 hq)
  rw [he] at hle
  exact Nat.not_lt_of_le hle hlt

/-- The pools after a switch are numbered again. -/
theorem numbered_of_openSwitch (hn : current.Numbered s.openings)
    (h : (openSwitch current proposed mode).run s = (.ok sw, t)) :
    (sw.apply current).Numbered t.openings := by
  obtain ⟨⟨es, hl, hperm, -⟩, -, hbooks⟩ := openSwitch_ok h
  have hnodup := hbooks.nodup_iff.2 (nodup_of_openSwitch hn h)
  refine ⟨(List.nodup_append.1 hnodup).1, fun p hp => ?_⟩
  rw [hl.openings]
  rcases List.mem_append.1 (hbooks.mem_iff.1 (List.mem_append_left _ hp)) with hp | hp
  · exact Nat.le_add_right_of_le (hn.bound p hp)
  · have hmem := List.mem_map_of_mem (f := PoolHandle.serial) (hperm.mem_iff.2 hp)
    rw [hl.serials, List.mem_range'_1] at hmem
    omega

end Site

/-! ### Turnover -/

/-- **A turnover** of the current pools for a proposal: they are changed as far as the proposal
says, and no further. -/
structure Switch.Turnover (sw : Switch) (current : Pools) (proposed : NameMap PoolSpec)
    (mode : SwitchMode) : Prop where
  specs : (sw.apply current).specs = mode.specsAfter current.specs proposed
  /-- A pool keeps its handle if it has the properties already. -/
  kept : ∀ name u, current.get? name = some u →
    (((sw.apply current).get? name).map StorageUnit.handle = some u.handle ↔
      (mode.specsAfter current.specs proposed).get? name = some u.spec)
  /-- The new pools are those that do not have their old handle afterwards. -/
  opened : ∀ name u, sw.opened.get? name = some u ↔
    (sw.apply current).get? name = some u ∧ ∀ v, current.get? name = some v → v.handle ≠ u.handle
  /-- The stale pools are the old ones whose handle is gone. -/
  stale : ∀ name u, sw.stale.get? name = some u ↔
    current.get? name = some u ∧ u.handle ∉ Pools.handles (sw.apply current)
  /-- An old handle is kept or stale. -/
  parted : ∀ h ∈ Pools.handles current,
    h ∈ Pools.handles (sw.apply current) ↔ h ∉ Pools.handles sw.stale
  /-- No stale handle is there afterwards, under whatever name. -/
  gone : ∀ h ∈ Pools.handles sw.stale,
    h ∈ Pools.handles current ∧ h ∉ Pools.handles (sw.apply current)

namespace Site

variable {s t : Site} {current : Pools} {proposed : NameMap PoolSpec} {mode : SwitchMode}
  {sw : Switch}

/-- A pool that is opened under the name of an old one has another handle. -/
private theorem opened_iff (hn : current.Numbered s.openings)
    (h : (openSwitch current proposed mode).run s = (.ok sw, t)) (name : String)
    (u : StorageUnit) :
    sw.opened.get? name = some u ↔ (sw.apply current).get? name = some u ∧
      ∀ v, current.get? name = some v → v.handle ≠ u.handle := by
  have happly := get?_apply_of_openSwitch h name
  constructor
  · intro hu
    refine ⟨by rw [happly, hu, Option.some_or], fun v hv => ?_⟩
    exact (List.nodup_append.1 (nodup_of_openSwitch hn h)).2.2 _
      (Pools.mem_handles_iff.2 ⟨name, v, hv, rfl⟩) _ (Pools.mem_handles_iff.2 ⟨name, u, hu, rfl⟩)
  · rintro ⟨hu, hother⟩
    cases hopened : sw.opened.get? name with
    | some v =>
      rw [happly, hopened, Option.some_or] at hu
      exact hu
    | none =>
      -- What was not opened is the old pool.
      rw [happly, hopened, Option.none_or] at hu
      split at hu
      · cases hu
      · exact absurd rfl (hother u hu)

/-- An old pool is stale, and its properties change, or it stays. -/
private theorem stale_or_stays (h : (openSwitch current proposed mode).run s = (.ok sw, t))
    {name : String} {u : StorageUnit} (hu : current.get? name = some u) :
    (sw.stale.get? name = some u ∧
      (mode.specsAfter current.specs proposed).get? name ≠ some u.spec) ∨
    (sw.apply current).get? name = some u := by
  obtain ⟨-, hstale, -⟩ := openSwitch_ok h
  have hspec : current.specs.get? name = some u.spec := by
    rw [Pools.get?_specs, hu, Option.map_some]
  by_cases hmem : name ∈ (SwitchPlan.compute current.specs proposed mode).stale
  · left
    rw [hstale, Switch.get?_staleUnits, if_pos hmem]
    obtain ⟨spec, hspec', hchanges⟩ := (mode.mem_stale_iff _ _ _).1 hmem
    obtain rfl := Option.some.inj (hspec.symm.trans hspec')
    exact ⟨hu, hchanges⟩
  · right
    have hnone : sw.opened.get? name = none := by
      cases hopened : sw.opened.get? name with
      | none => rfl
      | some v =>
        have hcreated := Pools.get?_specs sw.opened name
        rw [specs_opened_of_openSwitch h, hopened] at hcreated
        exact absurd (Switch.mem_stale_of_created hu hcreated) hmem
    rw [get?_apply_of_openSwitch h, hnone, if_neg hmem, Option.none_or, hu]

/-- **The turnover of a switch** that succeeds. -/
theorem turnover_of_openSwitch (hn : current.Numbered s.openings)
    (h : (openSwitch current proposed mode).run s = (.ok sw, t)) :
    sw.Turnover current proposed mode := by
  obtain ⟨-, hstale, hbooks⟩ := openSwitch_ok h
  have hspecs := specs_of_openSwitch h
  have hdisjoint : (Pools.handles (sw.apply current)).Disjoint (Pools.handles sw.stale) :=
    List.disjoint_of_nodup_append (hbooks.nodup_iff.2 (nodup_of_openSwitch hn h))
  have hgone (name : String) (u : StorageUnit) (hu : sw.stale.get? name = some u) :
      u.handle ∉ Pools.handles (sw.apply current) :=
    fun hmem => hdisjoint hmem (Pools.mem_handles_iff.2 ⟨name, u, hu, rfl⟩)
  have hold (name : String) (u : StorageUnit) (hu : sw.stale.get? name = some u) :
      current.get? name = some u := by
    rw [hstale, Switch.get?_staleUnits] at hu
    split at hu
    · exact hu
    · cases hu
  constructor
  case specs => exact hspecs
  case kept =>
    intro name u hu
    rw [← hspecs, Pools.get?_specs]
    rcases stale_or_stays h hu with ⟨hus, hchanges⟩ | hus
    · rw [← hspecs, Pools.get?_specs] at hchanges
      refine ⟨fun hhandle => ?_, fun hspec => absurd hspec hchanges⟩
      obtain ⟨v, hv, hvu⟩ := Option.map_eq_some_iff.1 hhandle
      exact absurd (Pools.mem_handles_iff.2 ⟨name, v, hv, hvu⟩) (hgone name u hus)
    · rw [hus, Option.map_some, Option.map_some]
      exact ⟨fun _ => rfl, fun _ => rfl⟩
  case opened => exact opened_iff hn h
  case stale =>
    intro name u
    refine ⟨fun hu => ⟨hold name u hu, hgone name u hu⟩, ?_⟩
    rintro ⟨hu, hnot⟩
    rcases stale_or_stays h hu with ⟨hus, -⟩ | hus
    · exact hus
    · exact absurd (Pools.mem_handles_iff.2 ⟨name, u, hus, rfl⟩) hnot
  case parted =>
    intro p hp
    refine ⟨fun hmem hmem' => hdisjoint hmem hmem', fun hnot => ?_⟩
    exact (List.mem_append.1 (hbooks.mem_iff.2 (List.mem_append_left _ hp))).resolve_right hnot
  case gone =>
    intro p hp
    obtain ⟨name, u, hu, rfl⟩ := Pools.mem_handles_iff.1 hp
    exact ⟨Pools.mem_handles_iff.2 ⟨name, u, hold name u hu, rfl⟩, hgone name u hu⟩

end Site

/-! ### Answers of the connector -/

/-- What the connector **answers** to openings in a row, the first one after `n` pools were opened.
A pool that cannot be opened does not keep the next from being tried. -/
def Connector.answers (connect : Connector) :
    Nat → List (String × PoolSpec) → List (String × Except Fault Dialect)
  | _, [] => []
  | n, (name, spec) :: rest =>
    match connect n name spec with
    | .ok dialect => (name, .ok dialect) :: connect.answers (n + 1) rest
    | .error e => (name, .error e) :: connect.answers n rest

/-- The connector is asked for all names, in their order. -/
theorem Connector.names_answers (connect : Connector) (n : Nat)
    (entries : List (String × PoolSpec)) :
    (connect.answers n entries).map Prod.fst = entries.map Prod.fst := by
  induction entries generalizing n with
  | nil => rfl
  | cons entry rest ih =>
    rw [answers]
    split
    · exact congrArg (entry.1 :: ·) (ih (n + 1))
    · exact congrArg (entry.1 :: ·) (ih n)

namespace Site

variable {s t : Site} {current : Pools} {proposed : NameMap PoolSpec} {mode : SwitchMode}

/-- The fault of an answer, if it is one. -/
private def fault? (a : String × Except Fault Dialect) : Option Fault :=
  match a.2 with
  | .ok _ => none
  | .error e => some e

private theorem fault?_eq_none {a : String × Except Fault Dialect} :
    fault? a = none ↔ a.2.isOk := by
  obtain ⟨name, r⟩ := a
  cases r with
  | ok dialect => exact ⟨fun _ => rfl, fun _ => rfl⟩
  | error e => exact ⟨nofun, nofun⟩

/-- Opening pools fails with the first answer that is a fault. -/
private theorem fault_of_openEach {entries : List (String × PoolSpec)} {pools : Pools}
    {fault : Option Fault} (h : openEach entries s = ((pools, fault), t)) :
    fault = (s.connector.answers s.openings entries).findSome? fault? := by
  induction entries generalizing s t pools fault with
  | nil => exact (congrArg (fun p => p.1.2) h).symm
  | cons entry rest ih =>
    obtain ⟨name, spec⟩ := entry
    rw [openEach] at h
    rw [Connector.answers]
    cases h₁ : openPool name spec s with
    | mk r s₁ =>
      cases h₂ : openEach rest s₁ with
      | mk opened s₂ =>
        obtain ⟨pools', fault'⟩ := opened
        rw [h₁] at h
        simp only [h₂] at h
        have hrest := ih h₂
        rw [openPool] at h₁
        cases hanswer : s.connector s.openings name spec with
        | error e =>
          rw [hanswer] at h₁
          obtain ⟨rfl, rfl⟩ := Prod.mk.inj h₁
          obtain ⟨hp, -⟩ := Prod.mk.inj h
          exact (Prod.mk.inj hp).2.symm
        | ok dialect =>
          rw [hanswer] at h₁
          obtain ⟨rfl, rfl⟩ := Prod.mk.inj h₁
          obtain ⟨hp, -⟩ := Prod.mk.inj h
          exact (Prod.mk.inj hp).2.symm.trans hrest

/-- Whether a switch succeeds is decided by the answers to its openings. -/
private theorem run_openSwitch (s : Site) (current : Pools) (proposed : NameMap PoolSpec)
    (mode : SwitchMode) :
    let plan := SwitchPlan.compute current.specs proposed mode
    match (s.connector.answers s.openings plan.created.entries).findSome? fault? with
    | none => ∃ sw t, (openSwitch current proposed mode).run s = (.ok sw, t)
    | some e => ∃ t, (openSwitch current proposed mode).run s = (.error e, t) := by
  intro plan
  cases h : openEach plan.created.entries s with
  | mk opened t =>
    obtain ⟨pools, fault⟩ := opened
    rw [← fault_of_openEach h, openSwitch, SiteM.run_bind, run_openPools]
    simp only [plan] at h
    rw [h]
    cases fault with
    | none => exact ⟨_, t, rfl⟩
    | some e => exact ⟨_, rfl⟩

/-- **The turnover of a switch.** The pools of the plan are tried in the order of their names. Where
every one can be opened, the switch succeeds and is a turnover of the current pools for the
proposal, and the pools afterwards are numbered again. Where some cannot, it fails with the fault of
the first of them, and every pool that it opened is closed. -/
theorem openSwitch_turnover (hn : current.Numbered s.openings) (proposed : NameMap PoolSpec)
    (mode : SwitchMode) :
    let plan := SwitchPlan.compute current.specs proposed mode
    let answers := s.connector.answers s.openings plan.created.entries
    (answers.map Prod.fst = plan.created.keys ∧ plan.created.keys.Pairwise (· < ·)) ∧
    ((∀ a ∈ answers, a.2.isOk) →
      ∃ sw t, (openSwitch current proposed mode).run s = (.ok sw, t) ∧
        sw.Turnover current proposed mode ∧ (sw.apply current).Numbered t.openings) ∧
    (∀ before name e after, answers = before ++ (name, .error e) :: after →
      (∀ a ∈ before, a.2.isOk) →
        ∃ t, (openSwitch current proposed mode).run s = (.error e, t) ∧ s.Undone t) := by
  intro plan answers
  have hrun := s.run_openSwitch current proposed mode
  refine ⟨⟨s.connector.names_answers _ _, List.pairwise_map.2 plan.created.sorted⟩,
    fun hok => ?_, fun before name e after hsplit hbefore => ?_⟩
  · have hnone : answers.findSome? fault? = none :=
      List.findSome?_eq_none_iff.2 fun a ha => fault?_eq_none.2 (hok a ha)
    simp only [plan, answers] at hnone
    simp only [hnone] at hrun
    obtain ⟨sw, t, hrun⟩ := hrun
    exact ⟨sw, t, hrun, turnover_of_openSwitch hn hrun, numbered_of_openSwitch hn hrun⟩
  · have hsome : answers.findSome? fault? = some e :=
      List.findSome?_eq_some_iff.2
        ⟨before, _, after, hsplit, rfl, fun a ha => fault?_eq_none.2 (hbefore a ha)⟩
    simp only [plan, answers] at hsome
    simp only [hsome] at hrun
    obtain ⟨t, hrun⟩ := hrun
    exact ⟨t, hrun, openSwitch_error hrun⟩

/-- Three pools that were opened one after another. -/
private def threePools : Pools :=
  .ofList [("ds_0", ⟨⟨"", ∅⟩, ⟨"ds_0", 1⟩, .mySQL⟩), ("ds_1", ⟨⟨"", ∅⟩, ⟨"ds_1", 2⟩, .mySQL⟩),
    ("ds_2", ⟨⟨"", ∅⟩, ⟨"ds_2", 3⟩, .mySQL⟩)]

/-- The first pool stays, the second one changes, and the third gives way to another. -/
private def nextPools : NameMap PoolSpec :=
  .ofList [("ds_0", ⟨"", ∅⟩), ("ds_1", ⟨"wide", ∅⟩), ("ds_3", ⟨"", ∅⟩)]

/-- The pool that changes keeps its name but not its handle. If the new one cannot be opened, the
other one that was opened is closed. -/
theorem changed_pool_turned_over :
    let s : Site := { Sample.site with openings := 3 }
    let s' : Site := { s with connector := .refusing ["ds_3"] }
    (∃ sw t, (openSwitch threePools nextPools .replace).run s = (.ok sw, t) ∧
      ((sw.apply threePools).get? "ds_0").map StorageUnit.handle = some ⟨"ds_0", 1⟩ ∧
      ∃ u, (sw.apply threePools).get? "ds_1" = some u ∧ u.handle ≠ ⟨"ds_1", 2⟩) ∧
    ∃ t, (openSwitch threePools nextPools .replace).run s' =
      (.error (.unreachablePool "ds_3"), t) ∧ s'.Undone t := by
  intro s s'
  have hn : threePools.Numbered 3 := ⟨by decide, by decide⟩
  obtain ⟨-, hall, -⟩ := openSwitch_turnover (s := s) hn nextPools .replace
  obtain ⟨-, -, hfirst⟩ := openSwitch_turnover (s := s') hn nextPools .replace
  constructor
  · obtain ⟨sw, t, hrun, hturnover, -⟩ := hall (by decide)
    refine ⟨sw, t, hrun, (hturnover.kept "ds_0" _ rfl).2 rfl, ?_⟩
    have hspec : (sw.apply threePools).specs.get? "ds_1" = some ⟨"wide", ∅⟩ := by
      rw [hturnover.specs]
      rfl
    rw [Pools.get?_specs] at hspec
    obtain ⟨u, hu, -⟩ := Option.map_eq_some_iff.1 hspec
    refine ⟨u, hu, fun hhandle => ?_⟩
    have hsame := (hturnover.kept "ds_1" _ rfl).1 (by rw [hu, Option.map_some, hhandle])
    exact absurd hsame (by decide)
  · exact hfirst [("ds_1", .ok .mySQL)] "ds_3" (.unreachablePool "ds_3") [] rfl (by decide)

end Site

end ProxyCatalog
