import Mathlib.Data.List.Nodup
import ProxyCatalog.Proofs.Accounts
import ProxyCatalog.Proofs.Stepwise

/-!
# Starts that fail

A start that fails closes what it opened, whichever step fails: an access to the store, the opening
of a pool, the protocol or the rules of a database, or the global rules. There is one exception.
The rules of a database are read when its pools are open already and before they are guarded, so
where this reading fails, the pools of this one database are left open.

The databases assembled so far stand in a map by their folded names, and those that stand there are
closed when a step fails. If a store listed two spellings of one name, the database that is loaded
first would no longer be in the map, and its pools would stay open as well. A store whose names are
folded lists none.

* `Assembly.LeavesOpen`: which pools a loading of databases leaves open if it fails.
* `undoneBut_of_assembleFrom`: a loading that fails closes all others that it opened.
* `closed_iff_not_stranded`: the same of a whole start, as a statement about the journal.
--/

namespace ProxyCatalog

open Event Site

/-- Pools without handles are no pools. -/
theorem Pools.eq_empty_of_handles {pools : Pools} (h : ∀ p, p ∉ Pools.handles pools) :
    pools = ∅ := by
  refine NameMap.ext fun name => ?_
  cases hu : pools.get? name with
  | none => rfl
  | some u => exact absurd (Pools.mem_handles_iff.2 ⟨name, u, hu, rfl⟩) (h u.handle)

namespace Site

/-- Every pool that is opened is closed, and no other, but for the pools with the handles `left`,
which **stay open**; no rule is asked to release anything. -/
def UndoneBut (s t : Site) (left : List PoolHandle) : Prop :=
  ∃ es, s.Leads t es ∧ (closes es ++ left).Perm (opens es) ∧ releases es = []

variable {s t u : Site} {left handles : List PoolHandle} {pools : Pools}

theorem UndoneBut.refl (s : Site) : s.UndoneBut s [] :=
  ⟨[], .refl s, .refl _, rfl⟩

theorem UndoneBut.of_perm (h : s.UndoneBut t left) (hp : left.Perm handles) :
    s.UndoneBut t handles := by
  obtain ⟨es, hl, hes, hr⟩ := h
  exact ⟨es, hl, (hp.symm.append_left _).trans hes, hr⟩

theorem Opened.undoneBut (h : s.Opened t handles) : s.UndoneBut t handles := by
  obtain ⟨es, hl, ho, hc, hr⟩ := h
  exact ⟨es, hl, by rw [hc, List.nil_append]; exact ho.symm, hr⟩

theorem UndoneBut.trans (h : s.UndoneBut t left) (h' : t.UndoneBut u handles) :
    s.UndoneBut u (left ++ handles) := by
  obtain ⟨es, hl, hes, hr⟩ := h
  obtain ⟨fs, hl', hfs, hr'⟩ := h'
  refine ⟨es ++ fs, hl.trans hl', ?_, by simp [hr, hr']⟩
  rw [List.perm_iff_count] at hes hfs ⊢
  intro p
  have hes := hes p
  have hfs := hfs p
  simp only [closes_append, opens_append, List.count_append] at hes hfs ⊢
  omega

/-- What is undone on top leaves open what was left open. -/
theorem UndoneBut.trans_undone (h : s.UndoneBut t left) (h' : t.Undone u) :
    s.UndoneBut u left := by
  obtain ⟨es, hl, hes, hr⟩ := h'
  have hnothing : t.UndoneBut u [] := ⟨es, hl, by rwa [List.append_nil], hr⟩
  have := h.trans hnothing
  rwa [List.append_nil] at this

/-- Closing databases is recorded, pool by pool. -/
theorem leads_closeDatabases (s : Site) (databases : NameMap Database) :
    ∃ es, s.Leads (Assembly.closeDatabases databases s) es ∧ opens es = [] ∧
      closes es = Database.handlesOf databases ∧ releases es = [] := by
  rw [Assembly.closeDatabases, NameMap.values, Database.handlesOf]
  induction databases.entries generalizing s with
  | nil => exact ⟨[], .refl s, rfl, rfl, rfl⟩
  | cons entry rest ih =>
    obtain ⟨es, hl, ho, hc, hr⟩ := s.leads_closePools entry.2.pools
    obtain ⟨fs, hl', ho', hc', hr'⟩ := ih (s.closePools entry.2.pools)
    refine ⟨es ++ fs, hl.trans hl', by simp [ho, ho'], ?_, by simp [hr, hr']⟩
    rw [closes_append, hc, hc', List.flatMap_cons]

/-- Databases whose pools are open can be closed. -/
theorem UndoneBut.closeDatabases {databases : NameMap Database}
    (h : s.UndoneBut t (left ++ Database.handlesOf databases)) :
    s.UndoneBut (Assembly.closeDatabases databases t) left := by
  obtain ⟨es, hl, hes, hr⟩ := h
  obtain ⟨fs, hl', ho, hc, hr'⟩ := t.leads_closeDatabases databases
  refine ⟨es ++ fs, hl.trans hl', ?_, by simp [hr, hr']⟩
  rw [closes_append, opens_append, ho, hc, List.append_nil, List.append_assoc]
  exact (List.perm_append_comm.append_left _).trans hes

/-- The journal of what is undone but for some pools. -/
theorem UndoneBut.journal (h : s.UndoneBut t left) : ∃ events, t.journal = s.journal ++ events :=
  h.imp fun _ h => h.1.journal

variable {events : List Event}

theorem UndoneBut.mem_opened_iff (h : s.UndoneBut t left)
    (hevents : t.journal = s.journal ++ events) (p : PoolHandle) :
    opened p ∈ events ↔ closed p ∈ events ∨ p ∈ left := by
  obtain ⟨es, hl, hp, -⟩ := h
  obtain rfl := List.append_cancel_left (hl.journal.symm.trans hevents)
  rw [← mem_opens, ← mem_closes, ← hp.mem_iff, List.mem_append]

/-- No pool is opened twice, so each is closed once or left open once. -/
theorem UndoneBut.count_closed (h : s.UndoneBut t left)
    (hevents : t.journal = s.journal ++ events) {p : PoolHandle} (ho : opened p ∈ events) :
    events.count (closed p) = if p ∈ left then 0 else 1 := by
  obtain ⟨es, hl, hp, -⟩ := h
  obtain rfl := List.append_cancel_left (hl.journal.symm.trans hevents)
  have hone : (closes es).count p + left.count p = 1 := by
    rw [← List.count_append, hp.count_eq]
    exact List.count_eq_one_of_mem hl.nodup_opens (mem_opens.2 ho)
  rw [← count_closes]
  split
  · next hleft =>
    have hpos := List.count_pos_iff.2 hleft
    omega
  · next hleft =>
    have hzero := List.count_eq_zero.2 hleft
    omega

variable {α : Type} {access : StoreAccess} {read : Store → α} {a : α} {e : Fault}

/-- What was read could be reached. -/
theorem reached_of_readStore (h : (readStore access read).run s = (.ok a, t)) :
    s.failing access = false := by
  rw [run_readStore] at h
  cases hfails : s.failing access with
  | false => rfl
  | true =>
    rw [hfails] at h
    cases h

theorem failing_of_readStore (h : (readStore access read).run s = (.error e, t)) :
    s.failing access = true := by
  rw [run_readStore] at h
  cases hfails : s.failing access with
  | false =>
    rw [hfails] at h
    cases h
  | true => rfl

end Site

namespace Assembly

variable {reg : Registry} {props initial : Properties} {name : String} {names : List String}
  {databases : NameMap Database} {rows : RowCache} {s t : Site} {pools pools' : Pools}
  {d : Database} {e : Fault}

/-! ### One database -/

/-- The pools of a database are opened, and then its rules **cannot be read**. -/
def Unread (name : String) (s : Site) (pools : Pools) : Prop :=
  ∃ specs sw t u, (loadPools name).run s = (.ok specs, t) ∧
    (openSwitch ∅ specs .overlay).run t = (.ok sw, u) ∧
      u.failing { method := .loadDatabaseRules, database := name } = true ∧ sw.opened = pools

/-- Where the rules cannot be read, the pools that were opened stay open. -/
theorem Unread.run (h : Unread name s pools) (reg : Registry) (props : Properties) :
    ∃ t, (openDatabase reg props name).run s = (.error (.storeFailed .loadDatabaseRules), t) ∧
      s.Opened t (Pools.handles pools) := by
  obtain ⟨specs, sw, t, u, hspecs, hopen, hfails, rfl⟩ := h
  have hread : (loadDatabaseRules name).run u = (.error (.storeFailed .loadDatabaseRules), u) := by
    rw [loadDatabaseRules, run_readStore, hfails]
    rfl
  refine ⟨u, ?_, ((quiet_readStore _ _).of_run hspecs).trans_opened (openSwitch_ok hopen).1⟩
  rw [openDatabase, SiteM.run_bind_of_ok hspecs, SiteM.run_bind_of_ok hopen]
  exact SiteM.run_bind_error.2 (.inl hread)

/-- A database is opened where its rules can be read only. -/
theorem not_unread_of_openDatabase (h : (openDatabase reg props name).run s = (.ok d, t)) :
    ¬ Unread name s pools := by
  intro hunread
  obtain ⟨u, hrun, -⟩ := hunread.run reg props
  rw [hrun] at h
  cases h

/-- The pools whose rules cannot be read are determined. -/
theorem Unread.unique (h : Unread name s pools) (h' : Unread name s pools') : pools = pools' := by
  obtain ⟨specs, sw, t, u, hspecs, hopen, -, rfl⟩ := h
  obtain ⟨specs', sw', t', u', hspecs', hopen', -, rfl⟩ := h'
  obtain ⟨hs, rfl⟩ := Prod.mk.inj (hspecs.symm.trans hspecs')
  obtain rfl := Except.ok.inj hs
  obtain ⟨hsw, -⟩ := Prod.mk.inj (hopen.symm.trans hopen')
  exact congrArg Switch.opened (Except.ok.inj hsw)

/-- Wherever else the opening of a database fails, nothing stays open. -/
theorem undone_of_openDatabase (h : (openDatabase reg props name).run s = (.error e, t))
    (hread : ∀ pools, ¬ Unread name s pools) : s.Undone t := by
  rcases SiteM.run_bind_error.1 h with h | ⟨specs, s₁, hspecs, h⟩
  · exact ((quiet_readStore _ _).of_run h).undone
  have hquiet : s.Quiet s₁ := (quiet_readStore _ _).of_run hspecs
  rcases SiteM.run_bind_error.1 h with h | ⟨sw, s₂, hopen, h⟩
  · exact hquiet.trans_undone (openSwitch_error h)
  have hopened : s.Opened s₂ (Pools.handles sw.opened) :=
    hquiet.trans_opened (openSwitch_ok hopen).1
  rcases SiteM.run_bind_error.1 h with h | ⟨configs, s₃, hconfigs, h⟩
  · -- This would be the reading that is excluded.
    have hfails := failing_of_readStore h
    exact absurd ⟨specs, sw, s₁, s₂, hspecs, hopen, hfails, rfl⟩ (hread sw.opened)
  have hopened := hopened.trans_quiet ((quiet_readStore _ _).of_run hconfigs)
  exact hopened.closingOnFault ((reading_fromStore _ _ _ _ _).mono fun _ _ hr => hr.1) h

/-- **An opening that fails** leaves open the pools of a database whose rules cannot be read. -/
theorem undoneBut_of_openDatabase (h : (openDatabase reg props name).run s = (.error e, t)) :
    ∃ left, s.UndoneBut t left ∧
      ∀ p, p ∈ left ↔ ∃ pools, Unread name s pools ∧ p ∈ Pools.handles pools := by
  by_cases hunread : ∃ pools, Unread name s pools
  · obtain ⟨pools, hpools⟩ := hunread
    obtain ⟨u, hrun, hopened⟩ := hpools.run reg props
    obtain ⟨-, rfl⟩ := Prod.mk.inj (hrun.symm.trans h)
    refine ⟨Pools.handles pools, hopened.undoneBut, fun p => ⟨fun hp => ⟨pools, hpools, hp⟩, ?_⟩⟩
    rintro ⟨pools', hpools', hp⟩
    exact hpools.unique hpools' ▸ hp
  · have hundone := undone_of_openDatabase h fun pools hpools => hunread ⟨pools, hpools⟩
    refine ⟨[], (UndoneBut.refl s).trans_undone hundone, fun p => ⟨nofun, ?_⟩⟩
    rintro ⟨pools, hpools, -⟩
    exact absurd ⟨pools, hpools⟩ hunread

/-! ### All databases -/

/-- What a loading of databases **leaves open** if it fails, beside the databases assembled so far:
the pools of a database whose rules cannot be read, and those of a database that another of the
same name replaces. -/
inductive LeavesOpen (reg : Registry) (props : Properties) :
    List String → NameMap Database → Site → Pools → Prop
  | unread {name : String} {names : List String} {databases : NameMap Database} {s : Site}
      {pools : Pools} (unread : Unread name s pools) :
      LeavesOpen reg props (name :: names) databases s pools
  | replaced {name : String} {names : List String} {databases : NameMap Database} {s t : Site}
      {d d' : Database} (opened : (openDatabase reg props name).run s = (.ok d, t))
      (known : databases.get? d.name = some d') :
      LeavesOpen reg props (name :: names) databases s d'.pools
  | later {name : String} {names : List String} {databases : NameMap Database} {s t : Site}
      {d : Database} {pools : Pools}
      (opened : (openDatabase reg props name).run s = (.ok d, t))
      (reached : t.failing { method := .loadRows, database := name } = false)
      (leaves : LeavesOpen reg props names (databases.insert d.name d) t pools) :
      LeavesOpen reg props (name :: names) databases s pools

/-- What is left open where the first database opens. -/
theorem leavesOpen_cons_iff (h : (openDatabase reg props name).run s = (.ok d, t)) :
    LeavesOpen reg props (name :: names) databases s pools ↔
      (∃ d', databases.get? d.name = some d' ∧ d'.pools = pools) ∨
        t.failing { method := .loadRows, database := name } = false ∧
          LeavesOpen reg props names (databases.insert d.name d) t pools := by
  constructor
  · intro hleaves
    cases hleaves with
    | unread hunread => exact absurd hunread (not_unread_of_openDatabase h)
    | replaced hopened hknown =>
      obtain ⟨hd, rfl⟩ := Prod.mk.inj (h.symm.trans hopened)
      obtain rfl := Except.ok.inj hd
      exact .inl ⟨_, hknown, rfl⟩
    | later hopened hreached hleaves =>
      obtain ⟨hd, rfl⟩ := Prod.mk.inj (h.symm.trans hopened)
      obtain rfl := Except.ok.inj hd
      exact .inr ⟨hreached, hleaves⟩
  · rintro (⟨d', hknown, rfl⟩ | ⟨hreached, hleaves⟩)
    · exact .replaced h hknown
    · exact .later h hreached hleaves

/-- Where the first database does not open, its own pools are left open at most. -/
theorem leavesOpen_cons_of_error (h : (openDatabase reg props name).run s = (.error e, t)) :
    LeavesOpen reg props (name :: names) databases s pools ↔ Unread name s pools := by
  refine ⟨fun hleaves => ?_, .unread⟩
  cases hleaves with
  | unread hunread => exact hunread
  | replaced hopened _ =>
    rw [h] at hopened
    cases hopened
  | later hopened _ _ =>
    rw [h] at hopened
    cases hopened

/-- The handles of a database that one of this name replaces. -/
private def replacedHandles (databases : NameMap Database) (name : String) : List PoolHandle :=
  ((databases.get? name).map fun d => Pools.handles d.pools).getD []

private theorem mem_replacedHandles {p : PoolHandle} : p ∈ replacedHandles databases name ↔
    ∃ d, databases.get? name = some d ∧ p ∈ Pools.handles d.pools := by
  rw [replacedHandles]
  cases databases.get? name with
  | none => simp
  | some d => simp

/-- What is open once a database is put into the map. -/
private theorem handlesOf_insert_replacing (databases : NameMap Database) (name : String)
    (d : Database) : (Database.handlesOf databases ++ Pools.handles d.pools).Perm
      (replacedHandles databases name ++ Database.handlesOf (databases.insert name d)) := by
  have hinsert := Database.handlesOf_insert_perm databases name d
  have hkept : (Database.handlesOf databases).Perm
      (replacedHandles databases name ++ Database.handlesOf (databases.erase name)) := by
    rw [replacedHandles]
    cases hd' : databases.get? name with
    | none =>
      rw [NameMap.erase_eq_self hd']
      exact .refl _
    | some d' => exact Database.handlesOf_perm_of_get? hd'
  rw [List.perm_iff_count] at hinsert hkept ⊢
  intro p
  have hinsert := hinsert p
  have hkept := hkept p
  simp only [List.count_append] at hinsert hkept ⊢
  omega

/-- **A loading that fails leaves open what it says, and nothing else.** The databases assembled so
far are among what it closes. -/
theorem undoneBut_of_assembleFrom {s₀ : Site} {left : List PoolHandle}
    (hs : s₀.UndoneBut s (left ++ Database.handlesOf databases))
    (h : (assembleFrom reg props names databases rows).run s = (.error e, t)) :
    ∃ more, s₀.UndoneBut t (left ++ more) ∧ ∀ p, p ∈ more ↔
      ∃ pools, LeavesOpen reg props names databases s pools ∧ p ∈ Pools.handles pools := by
  induction names generalizing databases rows s left with
  | nil =>
    obtain ⟨u, hrun, rfl⟩ := onFault_error.1 h
    have hquiet : s.Quiet u := SiteM.Within.of_run (.bind (quiet_readStore _ _) fun _ =>
      .bind (.ofExcept _) fun _ => .pure _) hrun
    refine ⟨[], ?_, fun p => ⟨nofun, by rintro ⟨pools, ⟨⟩, -⟩⟩⟩
    rw [List.append_nil]
    exact (hs.trans_undone hquiet.undone).closeDatabases
  | cons name names ih =>
    rcases SiteM.run_bind_error.1 h with h | ⟨d, u, hopened, h⟩
    · -- The database is not opened.
      obtain ⟨u, hfailed, rfl⟩ := onFault_error.1 h
      obtain ⟨more, hmore, hiff⟩ := undoneBut_of_openDatabase hfailed
      refine ⟨more, (UndoneBut.of_perm (hs.trans hmore) ?_).closeDatabases, fun p => ?_⟩
      · rw [List.append_assoc, List.append_assoc]
        exact List.perm_append_comm.append_left _
      · simp only [leavesOpen_cons_of_error hfailed, hiff]
    have hopened := onFault_ok.1 hopened
    simp only [leavesOpen_cons_iff hopened]
    -- The database is put into the map, and another may be lost by that.
    have hinserted : s₀.UndoneBut u ((left ++ replacedHandles databases d.name) ++
        Database.handlesOf (databases.insert d.name d)) := by
      refine (hs.trans (opened_of_openDatabase hopened).undoneBut).of_perm ?_
      rw [List.append_assoc, List.append_assoc]
      exact (handlesOf_insert_replacing databases d.name d).append_left _
    rcases SiteM.run_bind_error.1 h with h | ⟨stored, v, hstored, h⟩
    · obtain ⟨v, hunread, rfl⟩ := onFault_error.1 h
      have hfails := failing_of_readStore hunread
      have hquiet : u.Quiet v := (quiet_readStore _ _).of_run hunread
      refine ⟨replacedHandles databases d.name, ?_, fun p => ?_⟩
      · exact (hinserted.trans_undone hquiet.undone).closeDatabases
      · simp [mem_replacedHandles, hfails]
    · have hstored := onFault_ok.1 hstored
      have hreached := reached_of_readStore hstored
      obtain ⟨rfl, rfl⟩ := readStore_ok hstored
      obtain ⟨more, hmore, hiff⟩ := ih hinserted h
      refine ⟨replacedHandles databases d.name ++ more, List.append_assoc _ _ _ ▸ hmore,
        fun p => ?_⟩
      rw [List.mem_append, mem_replacedHandles, hiff]
      constructor
      · rintro (⟨d', hknown, hp⟩ | ⟨pools, hleaves, hp⟩)
        · exact ⟨d'.pools, .inl ⟨d', hknown, rfl⟩, hp⟩
        · exact ⟨pools, .inr ⟨hreached, hleaves⟩, hp⟩
      · rintro ⟨pools, ⟨d', hknown, rfl⟩ | ⟨-, hleaves⟩, hp⟩
        · exact .inl ⟨d', hknown, hp⟩
        · exact .inr ⟨pools, hleaves, hp⟩

/-! ### Names that are folded -/

/-- The names are those of **new databases**: they are folded, occur once, and are not in the map.
-/
structure AllNew (names : List String) (databases : NameMap Database) : Prop where
  folded : ∀ n ∈ names, Text.lower n = n
  nodup : names.Nodup
  new : ∀ n ∈ names, databases.get? n = none

namespace AllNew

/-- A database that is opened replaces none. -/
theorem get?_eq_none (h : AllNew (name :: names) databases)
    (hopened : (openDatabase reg props name).run s = (.ok d, t)) :
    databases.get? d.name = none := by
  rw [name_of_openDatabase hopened, h.folded name List.mem_cons_self]
  exact h.new name List.mem_cons_self

theorem insert (h : AllNew (name :: names) databases)
    (hopened : (openDatabase reg props name).run s = (.ok d, t)) :
    AllNew names (databases.insert d.name d) where
  folded n hn := h.folded n (List.mem_cons_of_mem _ hn)
  nodup := h.nodup.of_cons
  new n hn := by
    rw [NameMap.get?_insert, if_neg, h.new n (List.mem_cons_of_mem _ hn)]
    rw [name_of_openDatabase hopened, h.folded name List.mem_cons_self]
    rintro rfl
    exact (List.nodup_cons.1 h.nodup).1 hn

end AllNew

/-- Among new databases, only those of one are left open: the database whose rules cannot be
read. -/
theorem LeavesOpen.unread_of_allNew (h : LeavesOpen reg props names databases s pools)
    (hnew : AllNew names databases) :
    (∃ name ∈ names, s.failing { method := .loadDatabaseRules, database := name } = true) ∧
      ∀ pools', LeavesOpen reg props names databases s pools' → pools = pools' := by
  induction h with
  | @unread name names databases s pools hunread =>
    obtain ⟨t, hrun, -⟩ := hunread.run reg props
    refine ⟨⟨name, List.mem_cons_self, ?_⟩, fun pools' hleaves => ?_⟩
    · obtain ⟨specs, sw, u, v, hspecs, hopen, hfails, -⟩ := hunread
      obtain ⟨rfl, rfl⟩ := readStore_ok hspecs
      obtain ⟨es, hl, -⟩ := (openSwitch_ok hopen).1
      rwa [hl.failing] at hfails
    · exact hunread.unique ((leavesOpen_cons_of_error hrun).1 hleaves)
  | replaced hopened hknown =>
    rw [hnew.get?_eq_none hopened] at hknown
    cases hknown
  | later hopened hreached hleaves ih =>
    obtain ⟨⟨name, hname, hfails⟩, hunique⟩ := ih (hnew.insert hopened)
    obtain ⟨es, hl, -⟩ := opened_of_openDatabase hopened
    refine ⟨⟨name, List.mem_cons_of_mem _ hname, by rwa [hl.failing] at hfails⟩, ?_⟩
    intro pools' hleaves'
    rcases (leavesOpen_cons_iff hopened).1 hleaves' with ⟨d', hknown, -⟩ | ⟨-, hleaves'⟩
    · rw [hnew.get?_eq_none hopened] at hknown
      cases hknown
    · exact hunique pools' hleaves'

/-! ### The whole start -/

/-- The assembly of the first snapshot **strands** pools: it finds the stored properties and the
names of the stored databases, and the loading of these leaves the pools open. -/
structure Strands (reg : Registry) (initial : Properties) (s : Site) (pools : Pools) : Prop where
  props : s.failing { method := .loadProperties } = false
  names : s.failing { method := .loadDatabaseNames } = false
  leaves : LeavesOpen reg (initial.merged s.store.props) s.store.databaseNames ∅ s pools

/-- Where the names of the stored databases are folded, the pools of one database are stranded at
most, and only if rules cannot be read. -/
theorem Strands.unread_of_folded (h : Strands reg initial s pools)
    (hfolded : s.store.databases.Folded) :
    (∃ name ∈ s.store.databaseNames,
      s.failing { method := .loadDatabaseRules, database := name } = true) ∧
        ∀ pools', Strands reg initial s pools' → pools = pools' := by
  have hnew : AllNew s.store.databaseNames ∅ :=
    ⟨fun n hn => hfolded n (NameMap.mem_keys_iff.1 hn), NameMap.keys_nodup _, fun _ _ => rfl⟩
  obtain ⟨hfails, hunique⟩ := h.leaves.unread_of_allNew hnew
  exact ⟨hfails, fun pools' hpools' => hunique pools' hpools'.leaves⟩

/-- **What an assembly that fails leaves open** are the pools that are stranded. -/
theorem undoneBut_of_assemble (h : (assemble reg initial).run s = (.error e, t)) :
    ∃ left, s.UndoneBut t left ∧
      ∀ p, p ∈ left ↔ ∃ pools, Strands reg initial s pools ∧ p ∈ Pools.handles pools := by
  rcases SiteM.run_bind_error.1 h with h | ⟨stored, s₁, hprops, h⟩
  · -- The properties cannot be read.
    have hfails := failing_of_readStore h
    refine ⟨[], (UndoneBut.refl s).trans_undone ((quiet_readStore _ _).of_run h).undone,
      fun p => ?_⟩
    refine ⟨nofun, fun ⟨pools, hstrands, _⟩ => ?_⟩
    rw [hstrands.props] at hfails
    cases hfails
  have hprops' := reached_of_readStore hprops
  obtain ⟨rfl, rfl⟩ := readStore_ok hprops
  rcases SiteM.run_bind_error.1 h with h | ⟨names, s₂, hnames, h⟩
  · -- The names of the databases cannot be read.
    have hfails := failing_of_readStore h
    refine ⟨[], (UndoneBut.refl s₁).trans_undone ((quiet_readStore _ _).of_run h).undone,
      fun p => ?_⟩
    refine ⟨nofun, fun ⟨pools, hstrands, _⟩ => ?_⟩
    rw [hstrands.names] at hfails
    cases hfails
  have hnames' := reached_of_readStore hnames
  obtain ⟨rfl, rfl⟩ := readStore_ok hnames
  have hnothing : s₂.UndoneBut s₂ ([] ++ Database.handlesOf ∅) := UndoneBut.refl s₂
  obtain ⟨left, hleft, hiff⟩ := undoneBut_of_assembleFrom hnothing h
  refine ⟨left, hleft, fun p => (hiff p).trans ?_⟩
  constructor
  · rintro ⟨pools, hleaves, hp⟩
    exact ⟨pools, ⟨hprops', hnames', hleaves⟩, hp⟩
  · rintro ⟨pools, hstrands, hp⟩
    exact ⟨pools, hstrands.leaves, hp⟩

/-- **What a start that fails leaves open.** Every pool that it opened is closed, and closed once,
just where no pools are stranded. Pools that are stranded are not closed, and all others are. If the
names of the stored databases are folded, the stranded pools are those of one database. -/
theorem closed_iff_not_stranded (h : (assemble reg initial).run s = (.error e, t)) :
    ∃ events, t.journal = s.journal ++ events ∧
      (∀ p, closed p ∈ events → opened p ∈ events) ∧
      ((∀ p, opened p ∈ events → events.count (closed p) = 1) ↔
        ∀ pools, Strands reg initial s pools → pools = ∅) ∧
      (∀ p, (∃ pools, Strands reg initial s pools ∧ p ∈ Pools.handles pools) →
        opened p ∈ events ∧ events.count (closed p) = 0) ∧
      (∀ p, opened p ∈ events →
        (∀ pools, Strands reg initial s pools → p ∉ Pools.handles pools) →
          events.count (closed p) = 1) ∧
      (s.store.databases.Folded → ∀ pools pools', Strands reg initial s pools →
        Strands reg initial s pools' → pools = pools') := by
  obtain ⟨left, hleft, hiff⟩ := undoneBut_of_assemble h
  obtain ⟨events, hevents⟩ := hleft.journal
  have hstranded (p : PoolHandle) (hp : p ∈ left) :
      opened p ∈ events ∧ events.count (closed p) = 0 := by
    have hopened := (hleft.mem_opened_iff hevents p).2 (.inr hp)
    have hcount := hleft.count_closed hevents hopened
    rw [if_pos hp] at hcount
    exact ⟨hopened, hcount⟩
  have hothers (p : PoolHandle) (hp : opened p ∈ events) (hnone : p ∉ left) :
      events.count (closed p) = 1 := by
    have hcount := hleft.count_closed hevents hp
    rwa [if_neg hnone] at hcount
  refine ⟨events, hevents, fun p hp => (hleft.mem_opened_iff hevents p).2 (.inl hp),
    ⟨fun hall pools hpools => ?_, fun hnone p hp => ?_⟩, fun p hp => hstranded p ((hiff p).2 hp),
    fun p hp hnone => hothers p hp fun hin => ?_,
    fun hfolded pools pools' hpools => (hpools.unread_of_folded hfolded).2 pools'⟩
  · -- A stranded pool was opened and is not closed.
    refine Pools.eq_empty_of_handles fun p hp => ?_
    obtain ⟨hopened, hcount⟩ := hstranded p ((hiff p).2 ⟨pools, hpools, hp⟩)
    rw [hall p hopened] at hcount
    exact Nat.one_ne_zero hcount
  · refine hothers p hp fun hin => ?_
    obtain ⟨pools, hpools, hp⟩ := (hiff p).1 hin
    obtain rfl := hnone pools hpools
    cases hp
  · obtain ⟨pools, hpools, hin⟩ := (hiff p).1 hin
    exact hnone pools hpools hin

/-! ### A start whose rules cannot be read -/

/-- The small site, where one kind of access to the store fails. -/
private def siteFailing (method : StoreMethod) : Site :=
  { Sample.site with failing := fun access => access.method == method }

private theorem not_strands_siteFailing {pools : Pools} :
    ¬ Strands .standard ∅ (siteFailing .loadGlobalRules) pools := by
  intro hstrands
  obtain ⟨⟨name, -, hfails⟩, -⟩ := hstrands.unread_of_folded Sample.fresh_site.proper.folded
  cases hfails

/-- Where the global rules cannot be read, the pool that was opened is closed. -/
theorem closed_without_global_rules :
    ∃ t, (assemble .standard ∅).run (siteFailing .loadGlobalRules) =
        (.error (.storeFailed .loadGlobalRules), t) ∧
      opened ⟨"ds_0", 1⟩ ∈ t.journal ∧ t.journal.count (closed ⟨"ds_0", 1⟩) = 1 := by
  have hfails : ((assemble .standard ∅).run (siteFailing .loadGlobalRules)).1 =
      .error (.storeFailed .loadGlobalRules) := rfl
  have hopened : opened ⟨"ds_0", 1⟩ ∈
      ((assemble .standard ∅).run (siteFailing .loadGlobalRules)).2.journal := by decide
  cases h : (assemble .standard ∅).run (siteFailing .loadGlobalRules) with
  | mk r t =>
    rw [h] at hfails hopened
    obtain rfl : r = .error (.storeFailed .loadGlobalRules) := hfails
    obtain ⟨events, hjournal, -, hclosed, -⟩ := closed_iff_not_stranded h
    obtain rfl : t.journal = events := hjournal
    have hnone (pools : Pools) (hpools : Strands .standard ∅ (siteFailing .loadGlobalRules) pools) :
        pools = ∅ := absurd hpools not_strands_siteFailing
    exact ⟨t, rfl, hopened, hclosed.2 hnone _ hopened⟩

/-- **A pool that nothing closes.** Where the rules of the database cannot be read, the start fails
and the pool of the database stays open. -/
theorem open_without_rules :
    ∃ t, (assemble .standard ∅).run (siteFailing .loadDatabaseRules) =
        (.error (.storeFailed .loadDatabaseRules), t) ∧
      opened ⟨"ds_0", 1⟩ ∈ t.journal ∧ closed ⟨"ds_0", 1⟩ ∉ t.journal :=
  ⟨_, rfl, by decide, by decide⟩

end Assembly

end ProxyCatalog
