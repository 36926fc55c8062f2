import ProxyCatalog.Proofs.Course
import ProxyCatalog.Proofs.Results

/-!
# The conduct of single actions

The actions out of which mutations are made, one after another: access to the store, discovery, and
the opening and closing of pools.

* Access to the store and discovery are quiet, and only `writeStore` changes what the store holds.
* `SiteM.Writes`: an action that fails at a store in memory only because the store is not writable,
  and then writes nothing. `SiteM.Updates`: an action that writes nothing if it fails. What asks
  first and writes afterwards is an update (`Updates.bind`, `Updates.bind_writes`), however many
  questions and writes there are.
* `SiteM.Atomic` and `SiteM.Clean`: what remains of this where pools are opened as well. An action
  that fails leaves the store as it was, and nothing open.
* `openSwitch_ok` and `openSwitch_error`: a switch that succeeds opens pools and closes none; one
  that fails closes exactly the pools that it opened. The connector and the number of pools opened
  before decide which are opened (`openSwitch_congr`).
-/

namespace ProxyCatalog

namespace Site

open Event

variable {α : Type}

/-! ### The store -/

/-- A store **in memory** fails no access of its own; it may still be closed to writing. -/
def InMemory (s : Site) : Prop :=
  ∀ access, s.failing access = false

theorem InMemory.of_steady {s t : Site} (h : s.InMemory) (hst : s.Steady t) : t.InMemory := by
  obtain ⟨es, hl⟩ := hst
  intro access
  rw [hl.failing]
  exact h access

theorem run_reach (access : StoreAccess) (s : Site) :
    (reach access).run s =
      (if s.failing access then .error (.storeFailed access.method) else .ok (), s) := by
  rw [reach, SiteM.run_bind, SiteM.run_get]
  cases h : s.failing access <;> simp [h]

/-- What a read comes to: its access fails, or the store is looked at. -/
theorem run_readStore (access : StoreAccess) (read : Store → α) (s : Site) :
    (readStore access read).run s =
      (if s.failing access then .error (.storeFailed access.method) else .ok (read s.store),
        s) := by
  rw [readStore, SiteM.run_bind, run_reach]
  cases h : s.failing access <;> rfl

theorem InMemory.run_readStore {s : Site} (h : s.InMemory) (access : StoreAccess)
    (read : Store → α) : (readStore access read).run s = (.ok (read s.store), s) := by
  rw [Site.run_readStore, h, if_neg Bool.false_ne_true]

/-- A read that succeeds gives what is stored, and does nothing. -/
theorem readStore_ok {access : StoreAccess} {read : Store → α} {s t : Site} {a : α}
    (h : (readStore access read).run s = (.ok a, t)) : a = read s.store ∧ t = s := by
  rw [run_readStore] at h
  split at h
  · cases h
  · obtain ⟨ha, rfl⟩ := Prod.mk.inj h
    exact ⟨(Except.ok.inj ha).symm, rfl⟩

theorem run_writeStore (access : StoreAccess) (write : StoreWrite) (f : Store → Store)
    (s : Site) :
    (writeStore access write f).run s =
      if s.failing access then (.error (.storeFailed access.method), s)
      else if s.writable then (.ok (), { s with store := f s.store }.record [.wrote write])
      else (.error .storeReadOnly, s) := by
  rw [writeStore, SiteM.run_bind, run_reach]
  cases h : s.failing access
  · cases hw : s.writable <;> simp [SiteM.run_bind, hw]
  · rfl

/-- What giving up the store comes to. -/
theorem run_closeStore (s : Site) :
    closeStore.run s =
      if s.failing { method := .close } then (.error (.storeFailed .close), s)
      else (.ok (), { s with storeClosed := true }) := by
  rw [closeStore, SiteM.run_bind, run_reach]
  cases h : s.failing { method := .close } <;> rfl

/-- To read is only to ask. -/
theorem reading_readStore (access : StoreAccess) (read : Store → α) :
    (readStore access read).Within Reading := by
  intro s
  rw [run_readStore]
  exact Course.refl s

theorem quiet_readStore (access : StoreAccess) (read : Store → α) :
    (readStore access read).Within Quiet :=
  (reading_readStore access read).mono fun _ _ h => h.1

theorem quiet_writeStore (access : StoreAccess) (write : StoreWrite) (f : Store → Store) :
    (writeStore access write f).Within Quiet := by
  intro s
  rw [run_writeStore]
  split
  · exact Course.refl s
  · split
    · exact ⟨[.wrote write], .of_record rfl, rfl, rfl, rfl⟩
    · exact Course.refl s

/-! ### Discovery -/

/-- What is found is what was reported, merged as it is visited. -/
theorem findings_eq_ok {m : Material} {tables : Option (List String)} {s : Site}
    {found : NameMap Schema} : s.findings m tables = .ok found ↔
      ∃ reported, s.discovery m tables = .ok reported ∧
        s.visiting.fold m.database reported = found := by
  constructor
  · exact Except.map_eq_ok
  · rintro ⟨reported, hreported, rfl⟩
    rw [findings, hreported]
    rfl

/-- What a question comes to: it is recorded, whatever the answer. -/
theorem run_discover (m : Material) (tables : Option (List String)) (s : Site) :
    (discover m tables).run s = (s.findings m tables, s.record [.asked (m.inquiry tables)]) := by
  simp [discover, SiteM.run_bind]
  rfl

/-- To put a question to the storage engines is only to ask. -/
theorem reading_discover (m : Material) (tables : Option (List String)) :
    (discover m tables).Within Reading := by
  intro s
  rw [run_discover]
  exact ⟨⟨[.asked (m.inquiry tables)], .of_record rfl, rfl, rfl, rfl⟩, rfl⟩

theorem run_foldNames (database : String) (found : NameMap Schema) (s : Site) :
    (foldNames database found).run s = (.ok (s.visiting.fold database found), s) := rfl

theorem reading_foldNames (database : String) (found : NameMap Schema) :
    (foldNames database found).Within Reading :=
  fun s => Course.refl s

end Site

/-! ### Writing all or nothing -/

namespace SiteM

open Site

variable {α β : Type}

/-- An action that **writes** and opens no pool. Where the store is not writable it writes nothing,
and at a store in memory that is writable it does not fail. -/
structure Writes (x : SiteM α) : Prop where
  quiet : x.Within Quiet
  refused : ∀ s : Site, s.writable = false → s.Unwritten (x.run s).2
  done : ∀ s : Site, s.InMemory → s.writable = true → ∃ a t, x.run s = (.ok a, t)

/-- An action that **updates** the store and opens no pool. Where the store is not writable it
writes nothing, and if it fails at a store in memory, the store holds what it held. -/
structure Updates (x : SiteM α) : Prop where
  quiet : x.Within Quiet
  refused : ∀ s : Site, s.writable = false → s.Unwritten (x.run s).2
  undone : ∀ (s t : Site) (e : Fault), s.InMemory → x.run s = (.error e, t) → s.Unwritten t

/-- An **atomic** action. If it fails at a store in memory, the store holds what it held. -/
def Atomic (x : SiteM α) : Prop :=
  ∀ (s t : Site) (e : Fault), s.InMemory → x.run s = (.error e, t) → s.Unwritten t

/-- A **clean** action. If it fails, every pool that it opened is closed, and no other. -/
def Clean (x : SiteM α) : Prop :=
  ∀ (s t : Site) (e : Fault), x.run s = (.error e, t) → s.Undone t

namespace Writes

/-- To do nothing is to write nothing. -/
theorem pure (a : α) : (Pure.pure a : SiteM α).Writes where
  quiet := .pure a
  refused _ _ := rfl
  done s _ _ := ⟨a, s, rfl⟩

theorem readStore (access : StoreAccess) (read : Store → α) :
    (Site.readStore access read).Writes where
  quiet := quiet_readStore access read
  refused s _ := (reading_readStore access read s).2
  done s hm _ := ⟨read s.store, s, by rw [run_readStore, hm access]; rfl⟩

/-- **A write** does what is asked of it, unless its access fails or the store is read-only. -/
theorem writeStore (access : StoreAccess) (write : StoreWrite) (f : Store → Store) :
    (Site.writeStore access write f).Writes where
  quiet := quiet_writeStore access write f
  refused s hw := by
    rw [run_writeStore, hw]
    split <;> exact rfl
  done s hm hw := by
    rw [run_writeStore, hm access, hw]
    exact ⟨(), _, rfl⟩

/-- **One write after another** makes one action that writes. -/
theorem bind {x : SiteM α} {f : α → SiteM β} (hx : x.Writes) (hf : ∀ a, (f a).Writes) :
    (x >>= f).Writes where
  quiet := .bind hx.quiet fun a => (hf a).quiet
  refused s hw := by
    have hs := hx.refused s hw
    have hq := hx.quiet s
    rw [run_bind]
    split
    · next a t hrun =>
      rw [hrun] at hs hq
      obtain ⟨es, hl, -⟩ := hq
      have ht := (hf a).refused t (by rw [hl.writable, hw])
      exact Course.trans hs ht
    · next e t hrun =>
      rw [hrun] at hs
      exact hs
  done s hm hw := by
    obtain ⟨a, t, hrun⟩ := hx.done s hm hw
    have hq := hx.quiet s
    rw [hrun] at hq
    have hmt := hm.of_steady hq.steady
    obtain ⟨es, hl, -⟩ := hq
    obtain ⟨b, u, hrun'⟩ := (hf a).done t hmt (by rw [hl.writable, hw])
    exact ⟨b, u, run_bind_ok.2 ⟨a, t, hrun, hrun'⟩⟩

theorem forM {f : α → SiteM PUnit} (l : List α) (hf : ∀ a, (f a).Writes) :
    (l.forM f).Writes := by
  induction l with
  | nil => exact pure _
  | cons a l ih => exact bind (hf a) fun _ => ih

/-- To compare and write is to write. -/
theorem compareAndPersist (database schema : String) (content : Schema) :
    (Site.compareAndPersist database schema content).Writes := by
  refine .bind (readStore _ _) fun stored => .bind (writeStore _ _ _) fun _ => ?_
  split
  · exact writeStore _ _ _
  · exact .pure _

theorem persistDelta (database : String) (delta : DatabaseDelta) :
    (Site.persistDelta database delta).Writes :=
  .bind (.forM _ fun _ => writeStore _ _ _) fun _ =>
    .bind (.forM _ fun _ => writeStore _ _ _) fun _ =>
      .forM _ fun _ => writeStore _ _ _

/-- **To write is to update.** At a store in memory nothing fails once it can be written, so there
is nothing to undo. -/
theorem updates {x : SiteM α} (h : x.Writes) : x.Updates where
  quiet := h.quiet
  refused := h.refused
  undone s t e hm hrun := by
    cases hw : s.writable with
    | true =>
      obtain ⟨a, u, hok⟩ := h.done s hm hw
      rw [hok] at hrun
      cases hrun
    | false =>
      have hs := h.refused s hw
      rwa [hrun] at hs

end Writes

/-- An action that **demands** a writable store, and succeeds at no other. -/
def Demands (x : SiteM α) : Prop :=
  ∀ s a t, x.run s = (.ok a, t) → s.writable = true

namespace Demands

theorem writeStore (access : StoreAccess) (write : StoreWrite) (f : Store → Store) :
    (Site.writeStore access write f).Demands := by
  intro s a t h
  rw [run_writeStore] at h
  split at h
  · cases h
  · split at h
    · next hw => exact hw
    · cases h

/-- What is compared is written even if nothing was added. -/
theorem compareAndPersist (database schema : String) (content : Schema) :
    (Site.compareAndPersist database schema content).Demands := by
  intro s a t h
  obtain ⟨stored, u, hstored, hwrite⟩ := run_bind_ok.1 h
  obtain ⟨-, rfl⟩ := readStore_ok hstored
  obtain ⟨u', v, hput, -⟩ := run_bind_ok.1 hwrite
  exact writeStore _ _ _ _ _ _ hput

end Demands

/-- An action that is **repeatable**: done at one site, it is done at any other where the store is
in memory, and writable if it was. -/
def Repeatable (x : SiteM PUnit) : Prop :=
  ∀ ⦃s t s' : Site⦄, x.run s = (.ok ⟨⟩, t) → s'.InMemory → s'.writable = s.writable →
    ∃ t', x.run s' = (.ok ⟨⟩, t')

namespace Repeatable

theorem bind {x y : SiteM PUnit} (hw : x.Writes) (hx : x.Repeatable) (hy : y.Repeatable) :
    (x >>= fun _ => y).Repeatable := by
  intro s t s' h hm hs'
  obtain ⟨⟨⟩, u, hu, hrest⟩ := run_bind_ok.1 h
  obtain ⟨u', hu'⟩ := hx hu hm hs'
  have hsteady := (hw.quiet.of_run hu).steady
  have hsteady' := (hw.quiet.of_run hu').steady
  obtain ⟨t', ht'⟩ := hy hrest (hm.of_steady hsteady')
    (by rw [hsteady'.writable, hs', hsteady.writable])
  exact ⟨t', run_bind_ok.2 ⟨⟨⟩, u', hu', ht'⟩⟩

/-- Writes one after another demand a writable store, unless there is none. -/
theorem forM {f : α → SiteM PUnit} (l : List α) (hw : ∀ a, (f a).Writes)
    (hd : ∀ a, (f a).Demands) : (l.forM f).Repeatable := by
  intro s t s' h hm hs'
  cases l with
  | nil => exact ⟨s', rfl⟩
  | cons a l =>
    obtain ⟨u, v, ha, -⟩ := run_bind_ok.1 h
    obtain ⟨⟨⟩, t', hrun⟩ :=
      (Writes.forM (a :: l) hw).done s' hm (hs'.trans (hd a s u v ha))
    exact ⟨t', hrun⟩

theorem forM_writeStore (access : α → StoreAccess) (write : α → StoreWrite)
    (f : α → Store → Store) (l : List α) :
    (l.forM fun a => Site.writeStore (access a) (write a) (f a)).Repeatable :=
  forM l (fun _ => .writeStore _ _ _) fun _ => .writeStore _ _ _

/-- A difference is written in three rounds. -/
theorem persistDelta (database : String) (delta : DatabaseDelta) :
    (Site.persistDelta database delta).Repeatable :=
  bind (.forM _ fun _ => .writeStore _ _ _) (forM_writeStore _ _ _ _) <|
    bind (.forM _ fun _ => .writeStore _ _ _) (forM_writeStore _ _ _ _) (forM_writeStore _ _ _ _)

end Repeatable

namespace Updates

/-- What only asks may come before an update. -/
theorem bind {x : SiteM α} {f : α → SiteM β} (hx : x.Within Reading) (hf : ∀ a, (f a).Updates) :
    (x >>= f).Updates where
  quiet := .bind (hx.mono fun _ _ hs => hs.1) fun a => (hf a).quiet
  refused s hw := by
    have hs := hx s
    rw [run_bind]
    split
    · next a t hrun =>
      rw [hrun] at hs
      obtain ⟨⟨es, hl, -⟩, hu⟩ := hs
      exact Course.trans hu ((hf a).refused t (by rw [hl.writable, hw]))
    · next e t hrun =>
      rw [hrun] at hs
      exact hs.2
  undone s u e hm hrun := by
    have hs := hx s
    rcases run_bind_error.1 hrun with h | ⟨a, t, h, h'⟩
    · rw [h] at hs
      exact hs.2
    · rw [h] at hs
      exact Course.trans hs.2 ((hf a).undone t u e (hm.of_steady hs.1.steady) h')

/-- Only for the result that there is does the rest have to be an update. -/
theorem bind_ofExcept {r : Except Fault α} {f : α → SiteM β} (hf : ∀ a, r = .ok a → (f a).Updates) :
    (ofExcept r >>= f).Updates := by
  cases r with
  | ok a => exact hf a rfl
  | error e => exact ⟨fun s => Course.refl s, fun _ _ => rfl, by rintro s _ _ - ⟨⟩; rfl⟩

/-- What only writes may come after an update: it fails only where nothing was written. -/
theorem bind_writes {x : SiteM α} {f : α → SiteM β} (hx : x.Updates) (hf : ∀ a, (f a).Writes) :
    (x >>= f).Updates where
  quiet := .bind hx.quiet fun a => (hf a).quiet
  refused s hw := by
    have hs := hx.refused s hw
    have hq := hx.quiet s
    rw [run_bind]
    split
    · next a t hrun =>
      rw [hrun] at hs hq
      obtain ⟨es, hl, -⟩ := hq
      exact Course.trans hs ((hf a).refused t (by rw [hl.writable, hw]))
    · next e t hrun =>
      rw [hrun] at hs
      exact hs
  undone s u e hm hrun := by
    rcases run_bind_error.1 hrun with h | ⟨a, t, h, h'⟩
    · exact hx.undone s u e hm h
    · have hq := hx.quiet s
      rw [h] at hq
      have hmt := hm.of_steady hq.steady
      obtain ⟨es, hl, -⟩ := hq
      -- A store that is open to writing does not fail the rest; one that is not was not written to.
      cases hw : s.writable with
      | true =>
        obtain ⟨b, v, hok⟩ := (hf a).done t hmt (by rw [hl.writable, hw])
        rw [hok] at h'
        cases h'
      | false =>
        have hs := hx.refused s hw
        rw [h] at hs
        have ht := (hf a).refused t (by rw [hl.writable, hw])
        rw [h'] at ht
        exact Course.trans hs ht

end Updates

namespace Atomic

/-- What writes nothing leaves nothing written when it fails. -/
theorem of_sparing {x : SiteM α} (h : x.Within Sparing) : x.Atomic := by
  intro s t e _ hrun
  have hs := h s
  rw [hrun] at hs
  exact hs.2

/-- What spares the store may come before an atomic action. -/
theorem bind {x : SiteM α} {f : α → SiteM β} (hx : x.Within Sparing) (hf : ∀ a, (f a).Atomic) :
    (x >>= f).Atomic := by
  intro s u e hm hrun
  have hs := hx s
  rcases run_bind_error.1 hrun with h | ⟨a, t, h, h'⟩
  · rw [h] at hs
    exact hs.2
  · rw [h] at hs
    exact Course.trans hs.2 (hf a t u e (hm.of_steady hs.1) h')

theorem bind_pure {x : SiteM α} (hx : x.Atomic) (f : α → β) :
    (x >>= fun a => Pure.pure (f a)).Atomic := by
  intro s u e hm hrun
  rcases run_bind_error.1 hrun with h | ⟨a, t, -, h⟩
  · exact hx s u e hm h
  · cases h

end Atomic

namespace Clean

/-- What opens nothing has nothing to close when it fails. -/
theorem of_quiet {x : SiteM α} (h : x.Within Quiet) : x.Clean := by
  intro s t e hrun
  have hq := h s
  rw [hrun] at hq
  exact hq.undone

/-- What is quiet may come before a clean action. -/
theorem bind {x : SiteM α} {f : α → SiteM β} (hx : x.Within Quiet) (hf : ∀ a, (f a).Clean) :
    (x >>= f).Clean := by
  intro s u e hrun
  have hq := hx s
  rcases run_bind_error.1 hrun with h | ⟨a, t, h, h'⟩
  · rw [h] at hq
    exact hq.undone
  · rw [h] at hq
    exact hq.trans_undone (hf a t u e h')

end Clean

end SiteM

namespace Site

open Event

variable {α : Type}

/-! ### Opening and closing pools -/

theorem run_onFault (cleanUp : Site → Site) (x : SiteM α) (s : Site) :
    (onFault cleanUp x).run s =
      match x.run s with
      | (.ok a, t) => (.ok a, t)
      | (.error e, t) => (.error e, cleanUp t) := by
  unfold onFault ExceptT.run
  simp only [tryCatch, tryCatchThe, MonadExceptOf.tryCatch, ExceptT.tryCatch, ExceptT.mk, bind,
    StateT.bind]
  cases x s with
  | mk r t => cases r <;> rfl

/-- What succeeds is not cleaned up. -/
theorem onFault_ok {cleanUp : Site → Site} {x : SiteM α} {s t : Site} {a : α} :
    (onFault cleanUp x).run s = (.ok a, t) ↔ x.run s = (.ok a, t) := by
  rw [run_onFault]
  cases hx : x.run s with
  | mk r u =>
    cases r with
    | ok b => exact Iff.rfl
    | error e => exact ⟨nofun, nofun⟩

/-- What fails is cleaned up where it ends. -/
theorem onFault_error {cleanUp : Site → Site} {x : SiteM α} {s t : Site} {e : Fault} :
    (onFault cleanUp x).run s = (.error e, t) ↔
      ∃ u, x.run s = (.error e, u) ∧ cleanUp u = t := by
  rw [run_onFault]
  cases hx : x.run s with
  | mk r u =>
    cases r with
    | ok b => exact ⟨nofun, fun ⟨_, h, _⟩ => by cases h⟩
    | error e' =>
      constructor
      · intro h
        obtain ⟨hfault, ht⟩ := Prod.mk.inj h
        exact ⟨u, by rw [Except.error.inj hfault], ht⟩
      · rintro ⟨v, h, rfl⟩
        obtain ⟨hfault, rfl⟩ := Prod.mk.inj h
        rw [Except.error.inj hfault]

/-- Cleaning up after a failure stays within every relation that cleaning up does. -/
theorem within_onFault {R : Site → Site → Prop} [Course R] {cleanUp : Site → Site} {x : SiteM α}
    (hR : ∀ s, R s (cleanUp s)) (hx : x.Within R) : (onFault cleanUp x).Within R := by
  intro s
  have hs := hx s
  rw [run_onFault]
  split
  · next a t h =>
    rw [h] at hs
    exact hs
  · next e t h =>
    rw [h] at hs
    exact Course.trans hs (hR t)

/-- What is done after a fault: the pools are closed, and the fault stays. -/
theorem run_closingOnFault (pools : Pools) (x : SiteM α) (s : Site) :
    (closingOnFault pools x).run s =
      match x.run s with
      | (.ok a, t) => (.ok a, t)
      | (.error e, t) => (.error e, t.closePools pools) :=
  run_onFault (closePools pools) x s

theorem closingOnFault_ok {pools : Pools} {x : SiteM α} {s t : Site} {a : α} :
    (closingOnFault pools x).run s = (.ok a, t) ↔ x.run s = (.ok a, t) :=
  onFault_ok

/-- A quiet action that fails while it guards the pools just opened leaves nothing open. -/
theorem Opened.closingOnFault {pools : Pools} {x : SiteM α} {s t u : Site} {e : Fault}
    (h : s.Opened t (Pools.handles pools)) (hx : x.Within Quiet)
    (hr : (Site.closingOnFault pools x).run t = (.error e, u)) : s.Undone u := by
  have hq := hx t
  rw [run_closingOnFault] at hr
  cases hrun : x.run t with
  | mk r v =>
    rw [hrun] at hr hq
    cases r with
    | ok a => cases hr
    | error e' =>
      obtain ⟨-, rfl⟩ := Prod.mk.inj hr
      exact (h.trans_quiet hq).closePools

/-- Closing pools after a fault writes nothing. -/
theorem atomic_closingOnFault {pools : Pools} {x : SiteM α} (hx : x.Atomic) :
    (Site.closingOnFault pools x).Atomic := by
  intro s u e hm hrun
  rw [run_closingOnFault] at hrun
  split at hrun
  · cases hrun
  · next e' t hrun' =>
    obtain ⟨-, rfl⟩ := Prod.mk.inj hrun
    exact hx s t e' hm hrun'

/-- Opening a pool either fails, and nothing is done, or yields a pool of the given name. -/
theorem openPool_course {name : String} {spec : PoolSpec} {s t : Site}
    {r : Except Fault StorageUnit} (h : openPool name spec s = (r, t)) :
    s.Unwritten t ∧
      match r with
      | .ok u => s.Opened t [u.handle]
      | .error _ => t = s := by
  rw [openPool] at h
  cases hc : s.connector s.openings name spec with
  | error e =>
    rw [hc] at h
    obtain ⟨rfl, rfl⟩ := Prod.mk.inj h
    exact ⟨rfl, rfl⟩
  | ok dialect =>
    rw [hc] at h
    obtain ⟨rfl, rfl⟩ := Prod.mk.inj h
    exact ⟨rfl, [.opened ⟨name, s.openings + 1⟩], ⟨rfl, rfl⟩, .refl _, rfl, rfl⟩

/-- **What is opened** is a matter of the connector and of the number of openings before. Nothing
else of the site is looked at. -/
theorem openPool_congr (name : String) (spec : PoolSpec) {s t : Site}
    (hconnector : s.connector = t.connector) (hopenings : s.openings = t.openings) :
    ∃ r n es, openPool name spec s = (r, { s with openings := n, journal := s.journal ++ es }) ∧
      openPool name spec t = (r, { t with openings := n, journal := t.journal ++ es }) := by
  rw [openPool, openPool, ← hconnector, ← hopenings]
  cases s.connector s.openings name spec with
  | error e =>
    refine ⟨.error e, s.openings, [], ?_, ?_⟩
    · rw [List.append_nil]
    · rw [List.append_nil, hopenings, hconnector]
  | ok dialect => exact ⟨_, _, [.opened ⟨name, s.openings + 1⟩], rfl, rfl⟩

theorem openEach_congr (entries : List (String × PoolSpec)) {s t : Site}
    (hconnector : s.connector = t.connector) (hopenings : s.openings = t.openings) :
    ∃ opened n es,
      openEach entries s = (opened, { s with openings := n, journal := s.journal ++ es }) ∧
        openEach entries t = (opened, { t with openings := n, journal := t.journal ++ es }) := by
  induction entries generalizing s t with
  | nil =>
    refine ⟨(∅, none), s.openings, [], ?_, ?_⟩
    · rw [List.append_nil]
      rfl
    · rw [List.append_nil, hopenings]
      rfl
  | cons entry rest ih =>
    obtain ⟨name, spec⟩ := entry
    obtain ⟨r, n, es, hs, ht⟩ := openPool_congr name spec hconnector hopenings
    obtain ⟨opened, n', fs, hs', ht'⟩ :=
      ih (s := { s with openings := n, journal := s.journal ++ es })
        (t := { t with openings := n, journal := t.journal ++ es }) hconnector rfl
    rw [List.append_assoc] at hs' ht'
    rw [openEach, openEach, hs, ht]
    dsimp only
    rw [hs', ht']
    cases r with
    | ok u => exact ⟨_, n', es ++ fs, rfl, rfl⟩
    | error e => exact ⟨_, n', es ++ fs, rfl, rfl⟩

/-- The pools that are there after opening some are the ones just opened, under names among those
given. -/
theorem openEach_course {entries : List (String × PoolSpec)} {s t : Site} {pools : Pools}
    {fault : Option Fault} (hn : (entries.map Prod.fst).Nodup)
    (h : openEach entries s = ((pools, fault), t)) :
    s.Unwritten t ∧ s.Opened t (Pools.handles pools) ∧
      ∀ name, pools.contains name → name ∈ entries.map Prod.fst := by
  induction entries generalizing s t pools fault with
  | nil =>
    obtain ⟨hp, rfl⟩ := Prod.mk.inj h
    obtain ⟨rfl, -⟩ := Prod.mk.inj hp
    exact ⟨rfl, Quiet.opened (Course.refl _), nofun⟩
  | cons entry rest ih =>
    obtain ⟨name, spec⟩ := entry
    rw [List.map_cons, List.nodup_cons] at hn
    rw [openEach] at h
    cases h₁ : openPool name spec s with
    | mk r s₁ =>
      obtain ⟨hw, ho⟩ := openPool_course h₁
      cases h₂ : openEach rest s₁ with
      | mk opened s₂ =>
        obtain ⟨pools', fault'⟩ := opened
        obtain ⟨hw', ho', hmem⟩ := ih hn.2 h₂
        rw [h₁] at h
        simp only [h₂] at h
        cases r with
        | error e =>
          -- A pool that cannot be opened leaves no trace; the others are opened all the same.
          obtain ⟨hp, rfl⟩ := Prod.mk.inj h
          obtain ⟨rfl, -⟩ := Prod.mk.inj hp
          obtain rfl : s₁ = s := ho
          exact ⟨hw', ho', fun x hx => List.mem_cons_of_mem _ (hmem x hx)⟩
        | ok u =>
          obtain ⟨hp, rfl⟩ := Prod.mk.inj h
          obtain ⟨rfl, -⟩ := Prod.mk.inj hp
          refine ⟨Course.trans hw hw', ?_, fun x hx => ?_⟩
          · have hnone : pools'.get? name = none :=
              Option.not_isSome_iff_eq_none.1 fun hsome => hn.1 (hmem name hsome)
            exact (ho.trans ho').of_perm (Pools.handles_insert_perm hnone u).symm
          · rcases NameMap.contains_insert.1 hx with rfl | hx
            · exact List.mem_cons_self
            · exact List.mem_cons_of_mem _ (hmem x hx)

/-- What the opening of pools comes to: after a fault, those that are open are closed. -/
theorem run_openPools (specs : NameMap PoolSpec) (s : Site) :
    (openPools specs).run s =
      match openEach specs.entries s with
      | ((pools, none), t) => (.ok pools, t)
      | ((pools, some e), t) => (.error e, t.closePools pools) := by
  rw [openPools, SiteM.run_bind]
  have hrun : (modifyGet (openEach specs.entries) : SiteM _).run s =
      (.ok (openEach specs.entries s).1, (openEach specs.entries s).2) := rfl
  rw [hrun]
  obtain ⟨⟨pools, fault⟩, t⟩ := openEach specs.entries s
  cases fault <;> rfl

/-- A switch that succeeds has opened its new pools, and keeps the books. -/
theorem openSwitch_ok {current : Pools} {proposed : NameMap PoolSpec} {mode : SwitchMode}
    {sw : Switch} {s t : Site}
    (h : (openSwitch current proposed mode).run s = (.ok sw, t)) :
    s.Opened t (Pools.handles sw.opened) ∧
      sw.stale = Switch.staleUnits current (.compute current.specs proposed mode) ∧
        (Pools.handles (sw.apply current) ++ Pools.handles sw.stale).Perm
          (Pools.handles current ++ Pools.handles sw.opened) := by
  obtain ⟨opened, u, hopen, hpure⟩ := SiteM.run_bind_ok.1 h
  obtain ⟨rfl, rfl⟩ := SiteM.run_pure_ok.1 hpure
  rw [run_openPools] at hopen
  split at hopen
  · next pools t' hrun =>
    obtain ⟨hp, rfl⟩ := Prod.mk.inj hopen
    obtain rfl := Except.ok.inj hp
    obtain ⟨-, ho, hmem⟩ := openEach_course (NameMap.keys_nodup _) hrun
    refine ⟨ho, rfl, Switch.handles_apply_perm fun name hname => ?_⟩
    exact NameMap.mem_keys_iff.1 (hmem name hname)
  · cases hopen

/-- A switch that fails leaves nothing open. -/
theorem openSwitch_error {current : Pools} {proposed : NameMap PoolSpec} {mode : SwitchMode}
    {s t : Site} {e : Fault}
    (h : (openSwitch current proposed mode).run s = (.error e, t)) : s.Undone t := by
  rcases SiteM.run_bind_error.1 h with hopen | ⟨opened, u, -, hpure⟩
  · rw [run_openPools] at hopen
    split at hopen
    · cases hopen
    · next pools e' t' hrun =>
      obtain ⟨-, rfl⟩ := Prod.mk.inj hopen
      exact (openEach_course (NameMap.keys_nodup _) hrun).2.1.closePools
  · cases hpure

theorem sparing_openPools (specs : NameMap PoolSpec) : (openPools specs).Within Sparing := by
  intro s
  rw [run_openPools]
  split
  · next pools t hrun =>
    obtain ⟨hw, ho, -⟩ := openEach_course (NameMap.keys_nodup _) hrun
    exact ⟨ho.steady, hw⟩
  · next pools e t hrun =>
    obtain ⟨hw, ho, -⟩ := openEach_course (NameMap.keys_nodup _) hrun
    exact ⟨ho.closePools.steady, hw⟩

theorem sparing_openSwitch (current : Pools) (proposed : NameMap PoolSpec) (mode : SwitchMode) :
    (openSwitch current proposed mode).Within Sparing :=
  .bind (sparing_openPools _) fun _ => .pure _

end Site

end ProxyCatalog
