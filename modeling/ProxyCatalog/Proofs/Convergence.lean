import ProxyCatalog.Proofs.Commutation
import ProxyCatalog.Proofs.Rediscovery
import ProxyCatalog.Proofs.Standstill

/-!
# Whether the store arrives at what is written

The store is never given a version of a schema as a whole. It is given what was added and what is
gone, and it should hold the version afterwards. Both ways in which a proxy does this are followed
here from any contents of the store.

* `Site.compareAndPersist_converges`: a schema that is compared with the stored one and written
  arrives, whatever was stored, and with it nothing else.
* `Store.schemas_withDelta`: the schemas of a database arrive when the difference from the stored
  version is written, but for those that are new and have no objects. A difference leaves them out
  (`DatabaseDelta.Overlooks`), so nothing opens them.
* `Site.persistDelta_converges`: therefore the difference turns one version into the other exactly
  if it overlooks nothing, and its emptiness says only then that the versions are the same.
-/

namespace ProxyCatalog

/-! ### One schema -/

namespace Site

/-- **A compared schema arrives.** Where the store can be written, the comparison succeeds; and
wherever it succeeds, the schema is then stored as it was given, under every spelling of its name
and whatever was stored before. Nothing else is touched. -/
theorem compareAndPersist_converges (s : Site) (database schema : String) (content : Schema) :
    (s.InMemory → s.writable = true →
      ∃ t, (compareAndPersist database schema content).run s = (.ok ⟨⟩, t) ∧
        ∀ d x, Text.lower d = Text.lower database → Text.lower x = Text.lower schema →
          (loadSchema d x).run t = (.ok (some content), t)) ∧
      ∀ t, (compareAndPersist database schema content).run s = (.ok ⟨⟩, t) →
        (∀ d x, Text.lower d = Text.lower database → Text.lower x = Text.lower schema →
          t.store.schema? d x = some content) ∧
          s.store.RewrittenAt database schema t.store := by
  have hstored {t : Site} (h : (compareAndPersist database schema content).run s = (.ok ⟨⟩, t))
      (d x : String) (hd : Text.lower d = Text.lower database)
      (hx : Text.lower x = Text.lower schema) : t.store.schema? d x = some content := by
    rw [compareAndPersist_ok h, Store.schema?_withSchema, if_pos ⟨hd.symm, hx.symm⟩]
  have hwrites := SiteM.Writes.compareAndPersist database schema content
  constructor
  · intro hm hw
    obtain ⟨⟨⟩, t, hrun⟩ := hwrites.done s hm hw
    have ht : t.InMemory := hm.of_steady (hwrites.quiet.of_run hrun).steady
    refine ⟨t, hrun, fun d x hd hx => ?_⟩
    rw [loadSchema, ht.run_readStore, hstored hrun d x hd hx]
  · intro t hrun
    refine ⟨hstored hrun, ?_⟩
    rw [compareAndPersist_ok hrun]
    exact Store.rewrittenAt_withSchema _ _ _ _

/-- **A changed table, a new view and a table that is gone** arrive together, in a schema whose name
is spelled in another way. -/
theorem changes_arrive :
    ∃ t, (compareAndPersist "FOO_db" "Foo_DB"
          (.ofLists [⟨"T_Item", [], [], []⟩] [⟨"v_item", "SELECT 1"⟩])).run Sample.site =
        (.ok ⟨⟩, t) ∧
      (loadSchema "foo_db" "foo_db").run t =
        (.ok (some (.ofLists [⟨"T_Item", [], [], []⟩] [⟨"v_item", "SELECT 1"⟩])), t) := by
  obtain ⟨t, hrun, hloaded⟩ := (compareAndPersist_converges Sample.site "FOO_db" "Foo_DB"
    (.ofLists [⟨"T_Item", [], [], []⟩] [⟨"v_item", "SELECT 1"⟩])).1 (fun _ => rfl) rfl
  exact ⟨t, hrun, hloaded "foo_db" "foo_db" (by decide +kernel) (by decide +kernel)⟩

end Site

/-! ### All schemas of a database -/

namespace DatabaseDelta

variable {proposed current : NameMap Schema}

/-- The difference **overlooks** a schema that is proposed, new and without objects. -/
def Overlooks (proposed current : NameMap Schema) (name : String) : Prop :=
  proposed.get? name = some ∅ ∧ current.contains name = false

/-- What there is of the proposed version when the difference was written. -/
def arrived (proposed current : NameMap Schema) : NameMap Schema :=
  proposed.filter fun name content => current.contains name || !content.isEmpty

/-- All that is proposed arrives if nothing is overlooked. -/
theorem arrived_eq_proposed_iff :
    arrived proposed current = proposed ↔ ∀ name, ¬Overlooks proposed current name := by
  constructor
  · rintro h name ⟨hempty, hnew⟩
    rw [← h, arrived, NameMap.get?_filter, Option.filter_eq_some_iff, hnew] at hempty
    exact Bool.false_ne_true hempty.2
  · intro h
    ext1 name
    rw [arrived, NameMap.get?_filter]
    cases hcontent : proposed.get? name with
    | none => rfl
    | some content =>
      rw [Option.filter_some, if_pos]
      cases hnew : current.contains name with
      | true => rfl
      | false =>
        rw [Bool.false_or, Bool.not_eq_true', ← Bool.not_eq_true, Schema.isEmpty_iff]
        rintro rfl
        exact h name ⟨hcontent, hnew⟩

/-- The current version overlooks nothing of itself. -/
theorem not_overlooks_self (schemas : NameMap Schema) (name : String) :
    ¬Overlooks schemas schemas name := by
  rintro ⟨hempty, hnew⟩
  rw [NameMap.contains, hempty] at hnew
  cases hnew

/-- What is overlooked makes no difference. -/
theorem between_arrived :
    between (arrived proposed current) current = between proposed current := by
  have hpart (part : SchemaDelta → Schema) (hpart : part ⟨∅, ∅⟩ = ∅) :
      (((arrived proposed current).mapValues fun name s =>
        SchemaDelta.between s (current.getD name ∅)).mapValues fun _ d => part d).filter
          (fun _ s => !s.isEmpty) =
        ((proposed.mapValues fun name s =>
          SchemaDelta.between s (current.getD name ∅)).mapValues fun _ d => part d).filter
            (fun _ s => !s.isEmpty) := by
    ext1 name
    simp only [NameMap.get?_filter, NameMap.get?_mapValues, arrived]
    cases hcontent : proposed.get? name with
    | none => rfl
    | some content =>
      rw [Option.filter_some]
      split
      · rfl
      · next hoverlooked =>
        simp only [Bool.or_eq_true, Bool.not_eq_true', not_or, Bool.not_eq_false,
          Bool.not_eq_true, Schema.isEmpty_iff] at hoverlooked
        obtain ⟨hnew, rfl⟩ := hoverlooked
        have hnone : current.get? name = none :=
          Option.isNone_iff_eq_none.1 (Option.isSome_eq_false_iff.1 hnew)
        simp only [NameMap.getD, hnone, Option.getD_none, Option.map_some, SchemaDelta.between_self,
          hpart]
        rfl
  have hdropped : current.keys.filter (fun name => !(arrived proposed current).contains name) =
      current.keys.filter fun name => !proposed.contains name := by
    refine List.filter_congr fun name hname => ?_
    rw [NameMap.contains, arrived, NameMap.get?_filter, NameMap.mem_keys_iff.1 hname]
    cases hcontent : proposed.get? name <;> simp [NameMap.contains, hcontent]
  rw [between, between]
  exact congr (congr (congrArg mk (hpart _ rfl)) (hpart _ rfl)) hdropped

theorem isEmpty_iff {d : DatabaseDelta} : d.isEmpty = true ↔ d = ⟨∅, ∅, []⟩ := by
  rw [isEmpty, Bool.and_eq_true, Bool.and_eq_true, NameMap.isEmpty_iff, NameMap.isEmpty_iff,
    List.isEmpty_iff]
  constructor
  · rintro ⟨⟨hadded, hdeleted⟩, hdropped⟩
    exact congr (congr (congrArg mk hadded) hdeleted) hdropped
  · rintro rfl
    exact ⟨⟨rfl, rfl⟩, rfl⟩

end DatabaseDelta

namespace Store

variable {proposed current : NameMap Schema} {s : Store} {database : String}

/-- Folded names of schemas stay folded. -/
theorem kept_folded (database : String) :
    Kept (fun s => (s.node database).schemas.Folded) database fun _ => False where
  putSchema {s} h schema content := by
    rw [putSchema, node_updateNode, if_pos rfl]
    exact h.insert_lower _ _
  deleteObjects {s} h schema content := by
    rw [deleteObjects]
    split
    · next n stored hn _ =>
      have hnode : s.node database = n := by rw [node, hn]; rfl
      rw [node_setNode_self, ← hnode]
      exact h.insert_lower _ _
    · exact h
  dropSchema {s} h schema := by
    rw [dropSchema]
    split
    · next n hn =>
      have hnode : s.node database = n := by rw [node, hn]; rfl
      rw [node_setNode_self, ← hnode]
      exact h.erase _
    · exact h
  putRows _ _ _ hr := hr.elim

/-- **The schemas that are stored when a difference was written** over the version it was taken
from. -/
theorem schemas_withDelta (hp : proposed.Folded) (hc : current.Folded)
    (hs : (s.node database).schemas = current) :
    ((s.withDelta database (.between proposed current)).node database).schemas =
      DatabaseDelta.arrived proposed current := by
  have hfolded := (kept_folded database).withDelta (hs ▸ hc) (.between proposed current)
  refine hfolded.eq_of_lower (hp.filter _) fun x => ?_
  rw [← schema?_eq, schema?_withDelta _ hp hc, schema?_eq, hs, DatabaseDelta.arrived,
    NameMap.get?_filter]
  cases hcontent : proposed.get? (Text.lower x) with
  | none =>
    cases hstored : current.get? (Text.lower x) <;> simp [NameMap.contains, hstored]
  | some content =>
    have happly := SchemaDelta.apply_between content (current.getD (Text.lower x) ∅)
    rw [NameMap.getD] at happly ⊢
    rw [Option.filter_some, NameMap.contains]
    dsimp only
    split
    · next hadded =>
      rw [SchemaDelta.apply_of_added hadded] at happly
      cases hstored : current.get? (Text.lower x) with
      | none =>
        -- A schema that is new and without anything to write is empty, and is not opened.
        rw [hstored, Option.getD_none, Schema.empty_without] at happly
        rw [← happly]
        rfl
      | some stored =>
        rw [hstored] at happly
        exact congrArg some happly
    · next hadded =>
      rw [happly, if_pos]
      cases hstored : current.get? (Text.lower x) with
      | some stored => rfl
      | none =>
        rw [Option.isSome_none, Bool.false_or, Bool.not_eq_true', ← Bool.not_eq_true,
          Schema.isEmpty_iff]
        rintro rfl
        rw [hstored, Option.getD_none, SchemaDelta.between_self] at hadded
        exact hadded rfl

/-- **An empty difference** says that nothing would be stored but what is. -/
theorem isEmpty_between_iff (hp : proposed.Folded) (hc : current.Folded)
    (hs : (s.node database).schemas = current) :
    (DatabaseDelta.between proposed current).isEmpty = true ↔
      DatabaseDelta.arrived proposed current = current := by
  constructor
  · intro h
    rw [← schemas_withDelta hp hc hs, DatabaseDelta.isEmpty_iff.1 h]
    exact hs
  · intro h
    rw [← DatabaseDelta.between_arrived, h, DatabaseDelta.between_self]
    rfl

end Store

namespace Site

/-- **The difference of two versions turns the older into the newer** exactly if it overlooks no
schema. What it writes always succeeds where the store can be written, and stays within the schemas
of the database. The versions are the same if their difference is empty and overlooks nothing, and
only then. -/
theorem persistDelta_converges {s : Site} {database : String} {proposed current : NameMap Schema}
    (hp : proposed.Folded) (hc : current.Folded)
    (hs : (s.store.node database).schemas = current) (hm : s.InMemory) (hw : s.writable = true) :
    (∃ t, (persistDelta database (.between proposed current)).run s = (.ok ⟨⟩, t) ∧
      s.store.Rewritten database t.store ∧
      (t.store.node database).schemas = DatabaseDelta.arrived proposed current ∧
      ((t.store.node database).schemas = proposed ↔
        ∀ name, ¬DatabaseDelta.Overlooks proposed current name)) ∧
      (proposed = current ↔ (DatabaseDelta.between proposed current).isEmpty = true ∧
        ∀ name, ¬DatabaseDelta.Overlooks proposed current name) := by
  constructor
  · obtain ⟨⟨⟩, t, hrun⟩ := (SiteM.Writes.persistDelta database
      (.between proposed current)).done s hm hw
    have hschemas : (t.store.node database).schemas = DatabaseDelta.arrived proposed current := by
      rw [persistDelta_ok hrun, Store.schemas_withDelta hp hc hs]
    refine ⟨t, hrun, ?_, hschemas, ?_⟩
    · rw [persistDelta_ok hrun]
      exact (Store.kept_rewritten database s.store).withDelta (.refl database s.store) _
    · rw [hschemas, DatabaseDelta.arrived_eq_proposed_iff]
  · rw [Store.isEmpty_between_iff hp hc hs, ← DatabaseDelta.arrived_eq_proposed_iff]
    constructor
    · rintro rfl
      have hall :=
        DatabaseDelta.arrived_eq_proposed_iff.2 (DatabaseDelta.not_overlooks_self proposed)
      exact ⟨hall, hall⟩
    · rintro ⟨hcurrent, hproposed⟩
      exact hproposed.symm.trans hcurrent

/-- The schemas of the sample with a table in place of another, and a schema that has a view. -/
private def revisedSchemas : NameMap Schema :=
  .ofList [("foo_db", .ofLists [⟨"t_item", [], [], []⟩] []),
    ("report", .ofLists [] [⟨"v_item", "SELECT 1"⟩])]

/-- **A schema that is new arrives with its view**, and the table of old is gone. -/
theorem revised_schemas_arrive :
    ∃ t, (persistDelta "foo_db" (.between revisedSchemas
          (Sample.site.store.node "foo_db").schemas)).run Sample.site = (.ok ⟨⟩, t) ∧
      (t.store.node "foo_db").schemas = revisedSchemas := by
  have hfolded : revisedSchemas.Folded := .ofList (by decide +kernel)
  have hstored : (Sample.site.store.node "foo_db").schemas.Folded :=
    .insert .empty (by decide +kernel) _
  obtain ⟨⟨t, hrun, -, hschemas, -⟩, -⟩ :=
    persistDelta_converges hfolded hstored rfl (fun _ => rfl) rfl
  have harrived : DatabaseDelta.arrived revisedSchemas
      (Sample.site.store.node "foo_db").schemas = revisedSchemas := by
    decide +kernel
  exact ⟨t, hrun, hschemas.trans harrived⟩

/-- The schemas of the sample with an empty schema beside them. -/
private def archivedSchemas : NameMap Schema :=
  (Sample.site.store.node "foo_db").schemas.insert "archive" ∅

/-- **An empty schema never arrives.** It is proposed and was not there, yet the difference is
empty, and the store holds after it what it held before. -/
theorem empty_schema_overlooked :
    Sample.site.InMemory ∧ Sample.site.writable = true ∧ archivedSchemas.Folded ∧
      (Sample.site.store.node "foo_db").schemas.Folded ∧
        (DatabaseDelta.between archivedSchemas
          (Sample.site.store.node "foo_db").schemas).isEmpty = true ∧
          archivedSchemas ≠ (Sample.site.store.node "foo_db").schemas ∧
            ∃ t, (persistDelta "foo_db" (.between archivedSchemas
                (Sample.site.store.node "foo_db").schemas)).run Sample.site = (.ok ⟨⟩, t) ∧
              (t.store.node "foo_db").schemas = (Sample.site.store.node "foo_db").schemas := by
  have hstored : (Sample.site.store.node "foo_db").schemas.Folded :=
    .insert .empty (by decide +kernel) _
  exact ⟨fun _ => rfl, rfl, hstored.insert (by decide +kernel) _, hstored, by decide +kernel,
    by decide +kernel, Sample.site, Except.run_eq_ok (by decide +kernel), rfl⟩

end Site

end ProxyCatalog
