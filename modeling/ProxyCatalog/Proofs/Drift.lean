import ProxyCatalog.Proofs.Reconfiguration

/-!
# What a rebuild leaves in the store

The objects that a mutation puts into a schema by name are in the snapshot alone, so snapshot and
store may drift apart. A rebuild of a database with new pools or rules does not close the gap. It
writes the difference of the rebuilt schemas from those in the snapshot, and where these agree the
store keeps what it held.

* `Schema.UpToDate`: the store holds what a change leaves alone.
* `World.stored_follows_rebuild`: each stored schema follows the change from the old snapshot to the
  new one. It is the installed schema if and only if it was up to date before.
* `World.added_table_not_persisted`: a table that was put by name and is then reported by the
  storage engines is installed and not stored.
-/

namespace ProxyCatalog

/-- The stored schema is **up to date** with what the change from `before` to `now` leaves alone. -/
structure Schema.UpToDate (stored before now : Schema) : Prop where
  tables : ∀ k, now.tables.get? k = before.tables.get? k →
    stored.tables.get? k = now.tables.get? k
  views : ∀ k, now.views.get? k = before.views.get? k → stored.views.get? k = now.views.get? k

/-- What follows a change holds its result when it was up to date. -/
theorem Schema.Follows.eq_iff_upToDate {after stored before now : Schema}
    (h : after.Follows stored before now) : after = now ↔ stored.UpToDate before now := by
  rw [Schema.ext_iff, h.tables.eq_iff, h.views.eq_iff]
  exact ⟨fun h => ⟨h.1, h.2⟩, fun h => ⟨h.tables, h.views⟩⟩

namespace Mutation

variable {reg : Registry} {s : Snapshot} {m : Mutation} {d d' : Database} {site t : Site}
  {c : Change}

/-- What a reconfiguration makes of a stored schema that is installed afterwards. -/
theorem Reconfiguration.stored (h : m.Reconfiguration reg s d d' site t c) (hd : d.InOrder)
    {schema : String} {content : Schema} (hs : d'.schema? schema = some content) :
    ((t.store.schema? d.name schema).getD ∅).Follows ((site.store.schema? d.name schema).getD ∅)
        ((d.schema? schema).getD ∅) content ∧
      ∀ k v, ((site.store.schema? d.name schema).getD ∅).views.get? k = some v →
        content.views.get? k = some v := by
  obtain ⟨pools, u, v, hu, hbuilt⟩ := h.built
  have hd' := Assembly.assembled_of_fromEngines hd.name hbuilt
  refine ⟨?_, fun k view hview => ?_⟩
  · rw [h.store, Store.schema?_withRows, hd'.name_eq]
    exact Store.follows_withDelta _ hd'.schemas hd.schemas _ hs
  · obtain ⟨protocol, reported, hschemas⟩ := Assembly.schemas_of_fromEngines hbuilt
    rw [Database.schema?, hschemas, hu.2] at hs
    refine Assembly.views_engineSchemas hs k view ?_
    rwa [Store.schema?_congr _ rfl (Text.lower_lower schema)]

end Mutation

namespace World

variable {w w' : World} {m : Mutation} {o : Outcome} {database : String}

/-- **A rebuild writes what it changes.** For every schema that is installed when a database was
given new pools or rules, the store holds what differs from the old snapshot as it is installed and
everything else as it held it before. So it holds the installed schema if and only if it was up to
date with what the rebuild left alone. The views that it held are installed and stay. -/
theorem stored_follows_rebuild (hw : w.Reachable) (hm : m.reconfigures? = some database)
    (h : w.apply m = (.ok o, w')) :
    ∃ d d', w.proxy.snapshot.database? database = some d ∧
      w'.proxy.snapshot.database? database = some d' ∧
        ∀ schema content, d'.schema? schema = some content →
          let before := (d.schema? schema).getD ∅
          let stored := (w.site.store.schema? database schema).getD ∅
          let persisted := (w'.site.store.schema? database schema).getD ∅
          persisted.Follows stored before content ∧
            (persisted = content ↔ stored.UpToDate before content) ∧
              ∀ view v, stored.view? view = some v →
                content.view? view = some v ∧ persisted.view? view = some v := by
  obtain ⟨d, d', t, c, hd, hc, -, hstore, hd', -⟩ := reconfiguration_of_apply hw hm h
  refine ⟨d, d', hd, hd', fun schema content hs => ?_⟩
  obtain ⟨hfollows, hviews⟩ := hc.stored (hw.inOrder.database hd) hs
  have hname : Text.lower d.name = Text.lower database := by
    rw [hw.inOrder.name_eq hd, Text.lower_lower]
  rw [Store.schema?_congr _ hname rfl, Store.schema?_congr _ hname rfl, ← hstore] at hfollows
  rw [Store.schema?_congr _ hname rfl] at hviews
  refine ⟨hfollows, hfollows.eq_iff_upToDate, fun view v hv => ?_⟩
  have hinstalled := hviews _ v hv
  refine ⟨hinstalled, ?_⟩
  -- A stored view is installed, so it stays stored whether it is new there or not.
  rw [Schema.view?, hfollows.views]
  split
  · exact hv
  · exact hinstalled

/-! ### A table put by name -/

/-- A table of the small site and a second one. -/
private def items : Schema :=
  .ofLists [⟨"t_order", [], [], []⟩, ⟨"t_item", [], [], []⟩] []

/-- From now on the storage engines report both. -/
private def report : Move :=
  .change (.discovery fun _ _ => .ok (.single "foo_db" items))

/-- Puts the second table into the schema by name. -/
private def putItem : Move :=
  .mutate (.alterSchema ⟨"foo_db", "foo_db", some ⟨"t_item", [], [], []⟩, none, none, none⟩)

/-- Gives the database a single-table rule again. -/
private def renewRules : Mutation :=
  .alterRules "foo_db" [.single ⟨[], none⟩]

/-- **A table that was put by name is not persisted** by a later rebuild: it is reported and
installed, but as it is no different from the one in the snapshot, the store does not get it. -/
theorem added_table_not_persisted :
    ∃ w w' : World, w.Reachable ∧ w.apply renewRules = (.ok .installed, w') ∧
      ∃ d', w'.proxy.snapshot.database? "foo_db" = some d' ∧ d'.schema? "foo_db" = some items ∧
        items.table? "t_item" = some ⟨"t_item", [], [], []⟩ ∧
          ((w'.site.store.schema? "foo_db" "foo_db").getD ∅).table? "t_item" = none := by
  let w := Sample.world.after [putItem, report]
  have happly : w.apply renewRules = (.ok .installed, _) := Except.run_eq_ok (by decide +kernel)
  have hinstalled : ((w.apply renewRules).2.proxy.snapshot.database? "foo_db").bind
      (·.schema? "foo_db") = some items := by
    decide +kernel
  obtain ⟨d', hd', hs⟩ := Option.bind_eq_some_iff.1 hinstalled
  exact ⟨w, _, Sample.started_world.reachable.after _, happly, d', hd', hs, by decide,
    by decide +kernel⟩

/-- A table that is new to the snapshot is persisted, and the store then holds what is installed. -/
theorem reported_table_persisted :
    ∃ w' : World, (Sample.world.after [report]).apply renewRules = (.ok .installed, w') ∧
      ∃ d', w'.proxy.snapshot.database? "foo_db" = some d' ∧ d'.schema? "foo_db" = some items ∧
        (w'.site.store.schema? "foo_db" "foo_db").getD ∅ = items := by
  let w := Sample.world.after [report]
  have happly : w.apply renewRules = (.ok .installed, _) := Except.run_eq_ok (by decide +kernel)
  have hinstalled : ((w.apply renewRules).2.proxy.snapshot.database? "foo_db").bind
      (·.schema? "foo_db") = some items := by
    decide +kernel
  have hbefore : (w.proxy.snapshot.database? "foo_db").bind (·.schema? "foo_db") =
      w.site.store.schema? "foo_db" "foo_db" := by
    decide +kernel
  obtain ⟨d, d', hd, hd', hall⟩ :=
    stored_follows_rebuild (Sample.started_world.reachable.after [report]) rfl happly
  rw [hd', Option.bind_some] at hinstalled
  rw [hd, Option.bind_some] at hbefore
  obtain ⟨-, hiff, -⟩ := hall "foo_db" items hinstalled
  -- Nothing was put by name, so the store holds what the snapshot did.
  refine ⟨_, happly, d', hd', hinstalled, hiff.2 ⟨fun k hk => ?_, fun k hk => ?_⟩⟩
  · rw [← hbefore, ← hk]
  · rw [← hbefore, ← hk]

end World

end ProxyCatalog
