import ProxyCatalog.Proofs.Confinement
import ProxyCatalog.Proofs.Switching

/-!
# What is done in vain

An operation that carries out what is there already changes nothing. This module collects the
operations that rebuilds and reloads are made of, each with the state that it leaves alone:

* The difference of a version of schemas from itself is empty (`DatabaseDelta.between_self`), and a
  schema that is stored as it is given is left as it is (`Store.withSchema_eq_self`).
* Routes that are loaded are what loading gives (`Database.Loaded.reloadRoutes_eq`), and a table is
  forgotten once (`RuleSet.forgetTable_forgetTable`).
* A proposal that was carried out opens and retires no pool (`Site.run_openSwitch_done`).
* Stored views are put over what the storage engines report. Where the store has since been written
  nothing but their result, they come to the same (`Schema.putViews_stored`).
-/

namespace ProxyCatalog

/-! ### Maps -/

namespace NameMap

variable {α : Type} {m : NameMap α}

/-- To put what is there changes nothing. -/
theorem insert_eq_self {k : String} {v : α} (h : m.get? k = some v) : m.insert k v = m := by
  ext1 x
  rw [get?_insert]
  split
  · next hx => rw [← hx, h]
  · rfl

/-- What is put twice is put the second time. -/
theorem insert_insert (m : NameMap α) (k : String) (v v' : α) :
    (m.insert k v).insert k v' = m.insert k v' := by
  ext1 x
  simp only [get?_insert]
  split <;> rfl

theorem erase_erase (m : NameMap α) (k : String) : (m.erase k).erase k = m.erase k :=
  erase_eq_self (get?_erase_self m k)

theorem filter_eq_empty {p : String → α → Bool} (h : ∀ k v, m.get? k = some v → p k v = false) :
    m.filter p = ∅ := by
  ext1 k
  rw [get?_filter, get?_empty, Option.filter_eq_none_iff]
  intro v hv
  rw [h k v hv]
  exact Bool.false_ne_true

end NameMap

/-! ### Schemas -/

namespace Schema

theorem putTable_eq_self {s : Schema} {t : Table} (h : s.tables.get? (Text.lower t.name) = some t) :
    s.putTable t = s :=
  ext (NameMap.insert_eq_self h) rfl

theorem removeTable_removeTable (s : Schema) (name : String) :
    (s.removeTable name).removeTable name = s.removeTable name :=
  ext (NameMap.erase_erase _ _) rfl

/-- **Views come to the same** when those that are stored have meanwhile become, if anything, the
views that they gave. -/
theorem putViews_stored {base stored after : Schema}
    (h : ∀ k, after.views.get? k = stored.views.get? k ∨
      after.views.get? k = (base.putViews stored.views.values).views.get? k) :
    base.putViews after.views.values = base.putViews stored.views.values := by
  have hviews (s : Schema) (k : String) : (base.putViews s.views.values).views.get? k =
      (s.views.get? k).or (base.views.get? k) := by
    rw [views_putViews, NameMap.foldl_insert_values s.views_keyed, NameMap.get?_overlay]
  refine ext (by rw [tables_putViews, tables_putViews]) (NameMap.ext fun k => ?_)
  rcases h k with hk | hk
  · rw [hviews, hviews, hk]
  · rw [hviews, hk, hviews, Option.or_assoc, Option.or_self]

end Schema

/-- **A schema does not differ from itself.** -/
theorem SchemaDelta.between_self (s : Schema) : between s s = ⟨∅, ∅⟩ := by
  have hadded {α : Type} [DecidableEq α] (m : NameMap α) :
      m.filter (fun k v => m.get? k != some v) = ∅ :=
    NameMap.filter_eq_empty fun k v hv => by rw [hv, bne_self_eq_false]
  have hdeleted {α : Type} (m : NameMap α) : m.filter (fun k _ => !m.contains k) = ∅ :=
    NameMap.filter_eq_empty fun k v hv => by
      rw [NameMap.contains, hv]
      rfl
  have ha : (between s s).added = (∅ : Schema) :=
    Schema.ext (by rw [tables_added, hadded]; rfl) (by rw [views_added, hadded]; rfl)
  have hd : (between s s).deleted = ∅ :=
    Schema.ext (by rw [tables_deleted, hdeleted]; rfl) (by rw [views_deleted, hdeleted]; rfl)
  calc between s s = ⟨(between s s).added, (between s s).deleted⟩ := rfl
    _ = ⟨∅, ∅⟩ := by rw [ha, hd]

/-- **There is no difference of schemas from themselves.** -/
theorem DatabaseDelta.between_self (schemas : NameMap Schema) :
    between schemas schemas = ⟨∅, ∅, []⟩ := by
  have hempty (part : SchemaDelta → Schema) (hpart : part ⟨∅, ∅⟩ = ∅) :
      ((schemas.mapValues fun name s => SchemaDelta.between s (schemas.getD name ∅)).mapValues
        fun _ d => part d).filter (fun _ s => !s.isEmpty) = ∅ := by
    refine NameMap.filter_eq_empty fun k content hk => ?_
    rw [NameMap.get?_mapValues, NameMap.get?_mapValues] at hk
    obtain ⟨delta, hdelta, rfl⟩ := Option.map_eq_some_iff.1 hk
    obtain ⟨s, hs, rfl⟩ := Option.map_eq_some_iff.1 hdelta
    rw [NameMap.getD, hs, Option.getD_some, SchemaDelta.between_self, hpart]
    rfl
  have hdropped : schemas.keys.filter (fun name => !schemas.contains name) = [] := by
    refine List.filter_eq_nil_iff.2 fun name hname => ?_
    rw [NameMap.mem_keys_iff.1 hname]
    exact Bool.false_ne_true
  rw [between]
  exact congr (congr (congrArg mk (hempty _ rfl)) (hempty _ rfl)) hdropped

/-! ### The store -/

namespace Store

variable {s : Store} {database schema : String}

theorem setNode_eq_self {n : StoreNode} (h : s.node? database = some n) :
    s.setNode database n = s := by
  rw [setNode, NameMap.insert_eq_self h]

/-- What is stored as it is given is not changed by comparing it. -/
theorem withSchema_eq_self {content : Schema} (h : s.schema? database schema = some content) :
    s.withSchema database schema content = s := by
  rw [withSchema, h, Option.getD_some, SchemaDelta.between_self]
  obtain ⟨n, hn, hcontent⟩ := Option.bind_eq_some_iff.1 h
  have hnode : s.node database = n := by
    rw [node, hn]
    rfl
  have habsorbed : ((n.schemas.getD (Text.lower schema) ∅).absorb ∅) = content := by
    rw [NameMap.getD, hcontent]
    rfl
  have hput : s.putSchema database schema ∅ = s := by
    rw [putSchema, updateNode, hnode]
    dsimp only
    rw [habsorbed, NameMap.insert_eq_self hcontent]
    exact setNode_eq_self hn
  exact hput

theorem dropSchema_dropSchema (s : Store) (database schema : String) :
    (s.dropSchema database schema).dropSchema database schema = s.dropSchema database schema := by
  cases hn : s.node? database with
  | none =>
    have hdrop : s.dropSchema database schema = s := by rw [dropSchema, hn]
    rw [hdrop, hdrop]
  | some n =>
    have hdrop : s.dropSchema database schema =
        s.setNode database { n with schemas := n.schemas.erase (Text.lower schema) } := by
      rw [dropSchema, hn]
    have hnode : (s.dropSchema database schema).node? database =
        some { n with schemas := n.schemas.erase (Text.lower schema) } := by
      rw [hdrop, node?_setNode, if_pos rfl]
    rw [dropSchema, hnode]
    dsimp only
    rw [NameMap.erase_erase]
    exact setNode_eq_self hnode

/-- To put schemas that are stored changes nothing. -/
theorem withSchemas_eq_self {schemas : NameMap Schema}
    (h : ∀ k content, schemas.get? k = some content → s.schema? database k = some content) :
    s.withSchemas database schemas = s :=
  List.foldlRecOn schemas.entries (motive := fun t => t = s) _ rfl fun t ht e he => by
    rw [ht]
    exact withSchema_eq_self (h e.1 e.2 (NameMap.mem_entries_iff.1 he))

/-- To put rows that are stored changes nothing. -/
theorem withRows_eq_self {rows : DatabaseRows}
    (h : ∀ k r, rows.get? k = some r → s.rows? database k = some r) :
    s.withRows database rows = s :=
  List.foldlRecOn rows.entries (motive := fun t => t = s) _ rfl fun t ht e he => by
    rw [ht]
    obtain ⟨n, hn, hr⟩ := Option.bind_eq_some_iff.1 (h e.1 e.2 (NameMap.mem_entries_iff.1 he))
    have hnode : s.node database = n := by
      rw [node, hn]
      rfl
    rw [putRows, updateNode, hnode, NameMap.insert_eq_self hr]
    exact setNode_eq_self hn

/-- Rows that were put are not changed by putting them again. -/
theorem withRows_withRows (s : Store) {rows : DatabaseRows} (hr : NameMap.Folded rows)
    (database : String) :
    (s.withRows database rows).withRows database rows = s.withRows database rows := by
  refine withRows_eq_self fun k r hk => ?_
  have hfold : Text.lower k = k := hr k (by rw [NameMap.contains, hk]; rfl)
  rw [rows?_withRows s hr, hfold, hk, Option.some_or]

end Store

/-! ### Routes -/

theorem Routes.remove_remove (r : Routes) (schema table : String) :
    (r.remove schema table).remove schema table = r.remove schema table := by
  cases htables : r.get? (Text.lower schema) with
  | none =>
    have hsame : r.remove schema table = r := by rw [remove, htables]
    rw [hsame, hsame]
  | some tables =>
    by_cases hrest : (tables.erase (Text.lower table)).isEmpty = true
    · have herased : r.remove schema table = r.erase (Text.lower schema) := by
        simp only [remove, htables, hrest, if_true]
      rw [herased, remove, NameMap.get?_erase_self]
    · have hput : r.remove schema table =
          r.insert (Text.lower schema) (tables.erase (Text.lower table)) := by
        simp only [remove, htables, if_neg hrest]
      rw [hput, remove, NameMap.get?_insert_self]
      dsimp only
      rw [NameMap.erase_erase, if_neg hrest, NameMap.insert_insert]

namespace RuleSet

theorem forgetTable_forgetTable (rs : RuleSet) (schema table : String) :
    (rs.forgetTable schema table).forgetTable schema table = rs.forgetTable schema table := by
  rw [forgetTable, forgetTable, mapRoutes_mapRoutes]
  congr 1
  funext r
  exact r.remove_remove schema table

/-- Routes are replaced by themselves. -/
theorem mapRoutes_eq_self {rs : RuleSet} {c : SingleConfig} {r : Routes}
    (h : rs.router? = some (c, r)) : (rs.mapRoutes fun _ => r) = rs := by
  induction rs with
  | nil => cases h
  | cons rule rs ih =>
    cases rule with
    | single c' r' =>
      obtain ⟨rfl, rfl⟩ := Prod.mk.inj (Option.some.inj h)
      rfl
    | _ => exact congrArg (List.cons _) (ih h)

end RuleSet

namespace Database

variable {d : Database} {schema : String}

/-- To put a schema that is there changes nothing. -/
theorem withSchema_eq_self {content : Schema} (h : d.schema? schema = some content) :
    d.withSchema schema content = d := by
  rw [withSchema, NameMap.insert_eq_self h]

theorem withoutSchema_eq_self (h : d.schema? schema = none) : d.withoutSchema schema = d := by
  rw [withoutSchema, NameMap.erase_eq_self h]

theorem forgetTable_forgetTable (d : Database) (schema table : String) :
    (d.forgetTable schema table).forgetTable schema table = d.forgetTable schema table := by
  rw [forgetTable, forgetTable, RuleSet.forgetTable_forgetTable]

/-- **Loaded routes are loaded again.** -/
theorem Loaded.reloadRoutes_eq (h : d.Loaded) : d.reloadRoutes = .ok d := by
  refine reloadRoutes_eq_ok.2 ⟨d.rules, RuleSet.reload_eq_ok.2 ?_, rfl⟩
  cases hr : d.rules.router? with
  | none => exact .inl ⟨rfl, rfl⟩
  | some cr =>
    exact .inr ⟨cr.1, cr.2, cr.2, rfl, h cr.1 cr.2 hr, (RuleSet.mapRoutes_eq_self hr).symm⟩

/-- What was reloaded unless it was known is not reloaded again. -/
theorem reloadUnlessKnown_idem {d' : Database} {names : List String}
    (h : d.reloadUnlessKnown schema names = .ok d') :
    d'.reloadUnlessKnown schema names = .ok d' := by
  rw [reloadUnlessKnown] at h
  split at h
  · next hknown =>
    obtain rfl := Except.ok.inj h
    rw [reloadUnlessKnown, if_pos hknown]
  · rw [reloadUnlessKnown]
    split
    · rfl
    · exact (loaded_of_reloadRoutes h).reloadRoutes_eq

end Database

/-! ### Switches -/

/-- **A proposal that was carried out** asks for nothing more. -/
theorem SwitchPlan.compute_done {current proposed : NameMap PoolSpec} {mode : SwitchMode}
    (h : mode.specsAfter current proposed = current) :
    compute current proposed mode = ⟨∅, []⟩ := by
  have hspec (name : String) (spec : PoolSpec) (hp : proposed.get? name = some spec) :
      current.get? name = some spec := by
    rw [← h]
    cases mode with
    | overlay => rw [SwitchMode.specsAfter, NameMap.get?_overlay, hp, Option.some_or]
    | replace => exact hp
  have hstale (name : String) : name ∉ (compute current proposed mode).stale := by
    rw [mem_stale_iff]
    rintro ⟨spec, hcurrent, hstale⟩
    cases hp : proposed.get? name with
    | some spec' =>
      rw [hp] at hstale
      exact hstale (Option.some.inj ((hspec name spec' hp).symm.trans hcurrent))
    | none =>
      rw [hp] at hstale
      obtain rfl : mode = .replace := hstale
      rw [← h, SwitchMode.specsAfter, hp] at hcurrent
      cases hcurrent
  have hcreated : (compute current proposed mode).created = ∅ := by
    ext1 name
    rw [get?_created]
    cases hp : proposed.get? name with
    | none => exact ite_self none
    | some spec => rw [hspec name spec hp, if_pos rfl, NameMap.get?_empty]
  exact congr (congrArg mk hcreated) (List.eq_nil_iff_forall_not_mem.2 hstale)

/-- A switch of no pools leaves the pools as they are. -/
theorem Switch.apply_nothing (pools : Pools) : (Switch.mk ∅ ∅).apply pools = pools := by
  ext1 name
  rw [Switch.apply, Pools.get?_switched]
  rfl

/-- To carry out a proposal again opens nothing and retires nothing. -/
theorem Site.run_openSwitch_done {current : Pools} {proposed : NameMap PoolSpec}
    {mode : SwitchMode} (h : mode.specsAfter current.specs proposed = current.specs) (s : Site) :
    (openSwitch current proposed mode).run s = (.ok ⟨∅, ∅⟩, s) := by
  have hstale : Switch.staleUnits current ⟨∅, []⟩ = ∅ :=
    NameMap.filter_eq_empty fun _ _ _ => rfl
  rw [openSwitch, SwitchPlan.compute_done h, hstale]
  rfl

/-- The properties after a proposal are those after proposing it again. -/
theorem SwitchMode.specsAfter_specsAfter (mode : SwitchMode) (current proposed : NameMap PoolSpec) :
    mode.specsAfter (mode.specsAfter current proposed) proposed =
      mode.specsAfter current proposed := by
  cases mode with
  | replace => rfl
  | overlay =>
    ext1 name
    simp only [specsAfter, NameMap.get?_overlay]
    cases proposed.get? name <;> rfl

/-! ### Rules -/

/-- Configurations are sorted before they are built, so sorting them beforehand changes nothing. -/
theorem Registry.buildDatabase_sortByKind (reg : Registry) (database : String)
    (cs : List RuleConfig) (pools : Pools) (schemas : Option (NameMap Schema)) :
    reg.buildDatabase database (RuleConfig.sortByKind cs) pools schemas =
      reg.buildDatabase database cs pools schemas := by
  rw [buildDatabase, buildDatabase, build, build, RuleConfig.sortByKind_sortByKind]

end ProxyCatalog
