import ProxyCatalog.Proofs.Run

/-!
# The accounts of pools

Every pool that was ever opened is accounted for: it is a pool of some installed database, or it is
retired, which means that it was closed or waits for its grace period to end. The accounts are kept
in lists of handles, up to order.

* `World.Entry`: what a move enters into the accounts. Pools are opened, which are new, and as many
  leave the databases as are retired. Every move makes such an entry (`World.entry_move`).
* `World.Balanced`: the pools held and the pools retired are together the pools opened, each once.
  So it is in every world that is reached (`World.Reachable.balanced`).
-/

namespace ProxyCatalog

open Event

namespace Site

/-! ### The accounts of a site -/

/-- The pools that were opened. -/
def created (s : Site) : List PoolHandle :=
  opens s.journal

/-- The pools that wait for the end of their grace period. -/
def scheduled (s : Site) : List PoolHandle :=
  s.pending.flatMap fun r => Pools.handles r.pools

/-- The pools that are **retired**: they were closed, or are scheduled to be closed. -/
def retired (s : Site) : List PoolHandle :=
  closes s.journal ++ s.scheduled

/-- The handles are **numbered**: none was given twice, and the next number is free. -/
structure Numbered (s : Site) : Prop where
  nodup : s.created.Nodup
  bound : ∀ h ∈ s.created, h.serial ≤ s.openings

namespace Leads

variable {s t : Site} {es : List Event}

theorem lt_serial (h : s.Leads t es) {p : PoolHandle} (hp : p ∈ opens es) :
    s.openings < p.serial := by
  have hmem := List.mem_map_of_mem (f := PoolHandle.serial) hp
  rw [h.serials, List.mem_range'_1] at hmem
  omega

theorem nodup_opens (h : s.Leads t es) : (opens es).Nodup := by
  have hserials : ((opens es).map PoolHandle.serial).Nodup := h.serials ▸ List.nodup_range'
  exact List.Pairwise.of_map PoolHandle.serial (fun _ _ hne he => hne (he ▸ rfl)) hserials

theorem numbered (h : s.Leads t es) (hs : s.Numbered) : t.Numbered where
  nodup := by
    rw [created, h.journal, opens_append]
    refine List.nodup_append.2 ⟨hs.nodup, h.nodup_opens, fun p hp q hq he => ?_⟩
    have hle := hs.bound p hp
    have hlt := h.lt_serial hq
    rw [he] at hle
    omega
  bound p hp := by
    rw [created, h.journal, opens_append, List.mem_append] at hp
    rw [h.openings]
    rcases hp with hp | hp
    · exact Nat.le_add_right_of_le (hs.bound p hp)
    · have hmem := List.mem_map_of_mem (f := PoolHandle.serial) hp
      rw [h.serials, List.mem_range'_1] at hmem
      omega

end Leads

end Site

namespace World

/-- The handles of all pools of the installed databases. -/
def held (w : World) : List PoolHandle :=
  Database.handlesOf w.proxy.snapshot.catalog.databases

/-- What a move **enters** into the accounts: the pools `new` are opened, and the pools `gone` are
retired. -/
structure Entry (w w' : World) (new gone : List PoolHandle) : Prop where
  numbered : w.site.Numbered → w'.site.Numbered
  created : w'.site.created.Perm (w.site.created ++ new)
  retired : w'.site.retired.Perm (w.site.retired ++ gone)
  held : (w'.held ++ gone).Perm (w.held ++ new)

variable {w w' : World}

/-- Nothing is entered where the accounts stay what they were. -/
theorem Entry.of_eq (hopenings : w'.site.openings = w.site.openings)
    (hcreated : w'.site.created = w.site.created)
    (hretired : w'.site.retired.Perm w.site.retired) (hheld : w'.held = w.held) :
    w.Entry w' [] [] where
  numbered h := ⟨hcreated ▸ h.nodup, hcreated ▸ hopenings ▸ h.bound⟩
  created := by rw [hcreated, List.append_nil]
  retired := by rwa [List.append_nil]
  held := by rw [hheld]

end World

/-! ### What an effect holds -/

namespace Mutation

variable {s : Snapshot} {m : Mutation} {opened : Pools} {c : Change}

/-- Putting a database over the one of its name exchanges their pools. -/
private theorem handlesOf_databasesWith {d d' : Database} (hs : s.InOrder) {name : String}
    (hd : s.database? name = some d) (hname : d'.name = d.name) :
    ∃ rest, (Database.handlesOf s.catalog.databases).Perm (Pools.handles d.pools ++ rest) ∧
      (Database.handlesOf (s.catalog.databasesWith d')).Perm (Pools.handles d'.pools ++ rest) := by
  refine ⟨Database.handlesOf (s.catalog.databases.erase d.name), ?_, ?_⟩
  · refine Database.handlesOf_perm_of_get? ?_
    rw [hs.name_eq hd]
    exact hd
  · rw [← hname]
    exact Database.handlesOf_insert_perm _ _ _

/-- **An effect keeps the books.** The pools held and retired after it are those held before and
those that were opened. -/
theorem Effect.books (h : m.Effect s opened c) (hs : s.InOrder) :
    (Database.handlesOf c.snapshot.catalog.databases ++ Pools.handles c.retired).Perm
      (Database.handlesOf s.catalog.databases ++ Pools.handles opened) := by
  have hswap {kept rest gone old new : List PoolHandle}
      (hbooks : (kept ++ gone).Perm (old ++ new)) :
      ((kept ++ rest) ++ gone).Perm ((old ++ rest) ++ new) := by
    rw [List.perm_iff_count] at hbooks ⊢
    intro p
    have := hbooks p
    simp only [List.count_append] at this ⊢
    omega
  cases h with
  | addDatabase hnew =>
    exact (List.Perm.of_eq (List.append_nil _)).trans (Database.handlesOf_insert_of_new hnew)
  | dropDatabase hd =>
    exact (List.perm_append_comm.trans (Database.handlesOf_perm_of_get? hd).symm).trans
      (by rw [show Pools.handles ∅ = [] from rfl, List.append_nil])
  | revise hm hd hd' =>
    obtain ⟨rest, hbefore, hafter⟩ := handlesOf_databasesWith hs hd hd'.revised.name
    rw [hd'.revised.pools] at hafter
    exact (hafter.trans hbefore.symm).append_right _
  | rebuild hm hd hd' hbooks hc =>
    -- The other databases keep their pools, and `hbooks` accounts for those of this one.
    obtain ⟨rest, hbefore, hafter⟩ := handlesOf_databasesWith hs hd hd'.name_eq
    rw [hc]
    rw [hd'.pools_eq] at hafter
    exact ((hafter.append_right _).trans (hswap hbooks)).trans (hbefore.symm.append_right _)
  | aside hm hc hr => rw [hc, hr]

end Mutation

/-! ### What follows an installation -/

namespace Site

variable {s : Site}

private theorem closes_map_closed (pools : Pools) :
    closes (pools.values.map fun u => closed u.handle) = Pools.handles pools := by
  rw [closes, List.filterMap_map]
  exact congrFun List.filterMap_eq_map _

private theorem opens_map_closed (pools : Pools) :
    opens (pools.values.map fun u => closed u.handle) = [] := by
  simp [opens]

theorem created_closePools (pools : Pools) (s : Site) :
    (s.closePools pools).created = s.created := by
  rw [created, closePools, record, opens_append, opens_map_closed, List.append_nil]
  rfl

theorem closes_closePools (pools : Pools) (s : Site) :
    closes (s.closePools pools).journal = closes s.journal ++ Pools.handles pools := by
  rw [closePools, record, closes_append, closes_map_closed]

/-- Closing what is due only moves pools from the scheduled to the closed ones. -/
private theorem foldl_closePools (due : List Retirement) (s : Site) :
    let t := due.foldl (fun s r => s.closePools r.pools) s
    t.created = s.created ∧ t.openings = s.openings ∧ t.pending = s.pending ∧
      closes t.journal = closes s.journal ++ due.flatMap fun r => Pools.handles r.pools := by
  induction due generalizing s with
  | nil => simp
  | cons r due ih =>
    obtain ⟨hcreated, hopenings, hpending, hcloses⟩ := ih (s.closePools r.pools)
    refine ⟨hcreated.trans (created_closePools _ _), hopenings, hpending, ?_⟩
    rw [List.foldl_cons, hcloses, closes_closePools, List.append_assoc, List.flatMap_cons]

theorem created_sleep (ms : Nat) (s : Site) : (s.sleep ms).created = s.created := by
  rw [sleep, closeDue, List.partition_eq_filter_filter]
  exact (foldl_closePools _ _).1

theorem openings_sleep (ms : Nat) (s : Site) : (s.sleep ms).openings = s.openings := by
  rw [sleep, closeDue, List.partition_eq_filter_filter]
  exact (foldl_closePools _ _).2.1

theorem retired_sleep (ms : Nat) (s : Site) : (s.sleep ms).retired.Perm s.retired := by
  rw [sleep, closeDue, List.partition_eq_filter_filter]
  obtain ⟨-, -, hpending, hcloses⟩ := foldl_closePools
    (s.pending.filter fun r => r.due ≤ s.clock + ms)
    { s with
      clock := s.clock + ms
      pending := s.pending.filter fun r => !decide (r.due ≤ s.clock + ms) }
  rw [retired, retired, scheduled, scheduled]
  dsimp only [Function.comp_def] at hpending hcloses ⊢
  rw [hcloses, hpending, List.append_assoc, ← List.flatMap_append]
  exact ((List.filter_append_perm _ _).flatMap_right _).append_left _

/-- Nothing quiet enters into the accounts. -/
theorem Quiet.created {t : Site} (h : s.Quiet t) : t.created = s.created := by
  obtain ⟨es, hl, ho, -⟩ := h
  rw [Site.created, Site.created, hl.journal, opens_append, ho, List.append_nil]

theorem Quiet.retired {t : Site} (h : s.Quiet t) : t.retired = s.retired := by
  obtain ⟨es, hl, -, hc, -⟩ := h
  rw [Site.retired, Site.retired, scheduled, scheduled, hl.journal, hl.pending, closes_append, hc,
    List.append_nil]

/-- Asking rules to release something is only recorded, whether they do it or not. -/
theorem run_releaseAll (rs : List Release) (s : Site) :
    ((releaseAll rs).run s).2 = s.record (rs.map fun r => .released r.kind r.database) := by
  induction rs generalizing s with
  | nil => rw [List.map_nil, record, List.append_nil]; rfl
  | cons r rs ih =>
    have hone : ((release r).run s).2 = s.record [.released r.kind r.database] := by
      rw [release, SiteM.run_bind, SiteM.run_modify]
      dsimp only
      rw [SiteM.run_bind, SiteM.run_get]
      dsimp only
      split <;> rfl
    change ((releaseAll rs).run ((release r).run s).2).2 = _
    rw [ih, hone, record, record, record, List.append_assoc]
    rfl

theorem created_retire (delay : Option Nat) (pools : Pools) (s : Site) :
    (s.retire delay pools).created = s.created := by
  cases delay with
  | none => exact created_closePools pools s
  | some ms => rfl

theorem openings_retire (delay : Option Nat) (pools : Pools) (s : Site) :
    (s.retire delay pools).openings = s.openings := by
  cases delay <;> rfl

/-- To retire no pools is to retire nothing. -/
theorem retired_retire_nothing (delay : Option Nat) (s : Site) :
    (s.retire delay ∅).retired = s.retired := by
  have hnone : Pools.handles ∅ = [] := rfl
  cases delay with
  | none =>
    rw [retire, retired, closes_closePools, hnone, List.append_nil]
    rfl
  | some ms =>
    rw [retire, retired, scheduled, List.flatMap_append, List.flatMap_singleton, hnone,
      List.append_nil]
    rfl

theorem retired_retire (delay : Option Nat) (pools : Pools) (s : Site) :
    (s.retire delay pools).retired.Perm (s.retired ++ Pools.handles pools) := by
  cases delay with
  | none =>
    rw [retire, retired, retired, closes_closePools, List.append_assoc, List.append_assoc]
    exact List.perm_append_comm.append_left _
  | some ms =>
    rw [retire, retired, retired, scheduled, scheduled, List.flatMap_append, List.append_assoc]
    simp

end Site

/-! ### Every move is entered -/

namespace World

open Site

variable {w w' : World} {m : Mutation}

theorem entry_of_undone {t : Site} (h : w.site.Undone t) :
    ∃ lost, w.Entry { w with site := t } lost lost := by
  obtain ⟨es, hl, hperm, -⟩ := h
  refine ⟨opens es, hl.numbered, ?_, ?_, .refl _⟩
  · rw [Site.created, Site.created, hl.journal, opens_append]
  · rw [Site.retired, Site.retired, Site.scheduled, Site.scheduled, hl.journal, hl.pending,
      closes_append, List.append_assoc, List.append_assoc]
    exact (List.perm_append_comm.trans (hperm.append_left _)).append_left _

theorem entry_of_quiet {t : Site} (h : w.site.Quiet t) : w.Entry { w with site := t } [] [] := by
  refine .of_eq ?_ h.created (by rw [h.retired]) rfl
  obtain ⟨es, hl, ho, -⟩ := h
  rw [hl.openings, ho]
  rfl

/-- To follow a change up, every rule to release something is asked once, and then pools are
retired. -/
theorem followUp_eq (w : World) (c : Change) :
    w.followUp c = { w with
      site := (w.site.record (c.releases.map fun r => .released r.kind r.database)).retire
        w.proxy.settings.closeDelay? c.retired } := by
  rw [← run_releaseAll]
  rfl

/-- Asking rules to release something enters nothing into the accounts. -/
private theorem record_releases (s : Site) (rs : List Release) :
    let t := s.record (rs.map fun r => .released r.kind r.database)
    t.created = s.created ∧ t.retired = s.retired := by
  have hopens : opens (rs.map fun r => released r.kind r.database) = [] := by simp [opens]
  have hcloses : closes (rs.map fun r => released r.kind r.database) = [] := by simp [closes]
  refine ⟨?_, ?_⟩
  · rw [Site.created, record, opens_append, hopens, List.append_nil]
    rfl
  · rw [Site.retired, record, closes_append, hcloses, List.append_nil]
    rfl

/-- Rules are asked to release, which opens and closes nothing, and then pools are retired. -/
private theorem site_followUp (w : World) (c : Change) :
    let t := (w.followUp c).site
    t.created = w.site.created ∧ t.openings = w.site.openings ∧
      t.retired.Perm (w.site.retired ++ Pools.handles c.retired) := by
  obtain ⟨hcreated, hretired⟩ := record_releases w.site c.releases
  dsimp only at hcreated hretired ⊢
  rw [followUp_eq]
  refine ⟨(created_retire _ _ _).trans hcreated, openings_retire _ _ _, ?_⟩
  rw [← hretired]
  exact retired_retire _ _ _

/-- Where no pools are to be retired, nothing is entered. -/
theorem followUp_nothing (w : World) {c : Change} (hc : c.retired = ∅) :
    (w.followUp c).site.created = w.site.created ∧
      (w.followUp c).site.retired = w.site.retired := by
  obtain ⟨hcreated, hretired⟩ := record_releases w.site c.releases
  rw [followUp_eq, hc]
  exact ⟨(created_retire _ _ _).trans hcreated, (retired_retire_nothing _ _).trans hretired⟩

theorem entry_of_effect {opened : Pools} {c : Change} {t : Site} (hs : w.proxy.snapshot.InOrder)
    (he : m.Effect w.proxy.snapshot opened c) (ho : w.site.Opened t (Pools.handles opened)) :
    w.Entry (({ w with site := t }.install c.snapshot).followUp c) (Pools.handles opened)
      (Pools.handles c.retired) := by
  obtain ⟨es, hl, hperm, hc, -⟩ := ho
  obtain ⟨hcreated, hopenings, hretired⟩ :=
    site_followUp ({ w with site := t }.install c.snapshot) c
  refine ⟨fun hn => ?_, ?_, ?_, he.books hs⟩
  · obtain ⟨hnodup, hbound⟩ := hl.numbered hn
    exact ⟨hcreated ▸ hnodup, hcreated ▸ hopenings ▸ hbound⟩
  · rw [hcreated]
    change (opens t.journal).Perm _
    rw [hl.journal, opens_append]
    exact hperm.append_left _
  · refine hretired.trans (List.Perm.append_right _ ?_)
    change (closes t.journal ++ t.scheduled).Perm _
    rw [Site.retired, Site.scheduled, Site.scheduled, hl.journal, hl.pending, closes_append, hc,
      List.append_nil]

/-- **Every move is entered** into the accounts. -/
theorem entry_move (hs : w.proxy.snapshot.InOrder) (m : Move) :
    ∃ new gone, w.Entry (w.move m) new gone := by
  cases m with
  | mutate m =>
    rw [move]
    rcases apply_cases hs m with ⟨e, t, h, hu⟩ | ⟨t, h, hq⟩ | ⟨opened, c, t, h, he, ho⟩
    · rw [h]
      obtain ⟨lost, hentry⟩ := entry_of_undone hu
      exact ⟨lost, lost, hentry⟩
    · rw [h]
      exact ⟨[], [], entry_of_quiet hq⟩
    · rw [h]
      exact ⟨_, _, entry_of_effect hs he ho⟩
  | announce state => exact ⟨[], [], .of_eq rfl rfl (.refl _) rfl⟩
  | close =>
    refine ⟨[], [], ?_⟩
    obtain ⟨hsnapshot, b, hsite⟩ := w.close_rest
    refine .of_eq ?_ ?_ ?_ ?_
    · rw [move, hsite]
    · rw [move, hsite]
      rfl
    · rw [move, hsite]
      exact .refl _
    · rw [move, World.held, hsnapshot]
      rfl
  | change c =>
    -- Only time touches the accounts, and it moves pools from the scheduled to the closed ones.
    refine ⟨[], [], ?_⟩
    cases c with
    | sleep ms =>
      exact .of_eq (openings_sleep ms _) (created_sleep ms _) (retired_sleep ms _) rfl
    | _ => exact .of_eq rfl rfl (.refl _) rfl

/-! ### The balance -/

/-- The accounts are **balanced**: the pools held and the pools retired are the pools opened. -/
structure Balanced (w : World) : Prop where
  numbered : w.site.Numbered
  books : (w.held ++ w.site.retired).Perm w.site.created

theorem Entry.balanced {new gone : List PoolHandle} (h : w.Entry w' new gone) (hw : w.Balanced) :
    w'.Balanced where
  numbered := h.numbered hw.numbered
  books := by
    rw [List.perm_iff_count]
    intro p
    have hbooks := hw.books.count_eq p
    have hcreated := h.created.count_eq p
    have hretired := h.retired.count_eq p
    have hheld := h.held.count_eq p
    simp only [List.count_append] at hbooks hcreated hretired hheld ⊢
    omega

theorem Started.balanced (h : w.Started) : w.Balanced := by
  obtain ⟨-, site, hfresh, es, hl, hperm, hc, -⟩ := h.start_ok
  have hnumbered : site.Numbered := by
    constructor
    · rw [Site.created, hfresh.journal]
      exact List.nodup_nil
    · intro p hp
      rw [Site.created, hfresh.journal] at hp
      cases hp
  refine ⟨hl.numbered hnumbered, ?_⟩
  rw [Site.retired, Site.created, Site.scheduled, hl.journal, hl.pending, hfresh.journal,
    hfresh.pending, List.nil_append, hc, List.flatMap_nil, List.append_nil, List.append_nil]
  exact hperm.symm

/-- **In every world that is reached the accounts are balanced.** -/
theorem Reachable.balanced (h : w.Reachable) : w.Balanced := by
  refine h.induction (P := Balanced) (fun _ hw => hw.balanced) fun w m hr hw => ?_
  obtain ⟨new, gone, hentry⟩ := entry_move hr.inOrder m
  exact hentry.balanced hw

/-- What is retired stays retired. -/
theorem Reachable.retired_after (h : w.Reachable) (later : List Move) :
    ∃ gone, (w.after later).site.retired.Perm (w.site.retired ++ gone) := by
  induction later with
  | nil => exact ⟨[], by rw [List.append_nil]; exact .refl _⟩
  | cons m later ih =>
    obtain ⟨gone, hgone⟩ := ih
    obtain ⟨new, gone', hentry⟩ := entry_move (h.after later).inOrder m
    refine ⟨gone ++ gone', hentry.retired.trans ?_⟩
    rw [← List.append_assoc]
    exact hgone.append_right _

end World

end ProxyCatalog
