import ProxyCatalog.Proofs.Effect

/-!
# What a revision keeps

A mutation that changes the schemas of a database touches these and the routes of its single-table
rule (`Database.Revised`). Name, pools and rule configurations stay, and folded names of schemas
stay folded. So every effect of a mutation keeps a snapshot in order (`Effect.inOrder`).
-/

namespace ProxyCatalog

namespace RuleSet

/-- Routes that are changed twice are changed once. -/
theorem mapRoutes_mapRoutes (f g : Routes → Routes) (rs : RuleSet) :
    (rs.mapRoutes f).mapRoutes g = rs.mapRoutes (g ∘ f) := by
  induction rs with
  | nil => rfl
  | cons r rs ih => cases r <;> simp_all [mapRoutes]

end RuleSet

namespace SchemaChange

/-- The names of the objects to take out. -/
def deletedNames (c : SchemaChange) : List String :=
  c.deletedTable.toList ++ c.deletedView.toList

/-- What the deletions leave of the content of a schema. -/
def remaining (c : SchemaChange) (content : Schema) : Schema :=
  c.deletedView.toList.foldl Schema.removeView
    (c.deletedTable.toList.foldl Schema.removeTable content)

/-- The content of a schema after the change, deletions first. -/
def alter (c : SchemaChange) (content : Schema) : Schema :=
  ((c.remaining content).putTables c.changedTable.toList).putViews c.changedView.toList

end SchemaChange

namespace Database

/-- The database `d'` **revises** `d`: they differ in schemas and routes only, and where the names
of the schemas were folded they still are. -/
structure Revised (d d' : Database) : Prop where
  rest : ∃ schemas f, d' = { d with schemas, rules := d.rules.mapRoutes f }
  folded : d.schemas.Folded → d'.schemas.Folded

variable {d d' : Database}

namespace Revised

variable {d'' : Database}

/-- A revision keeps the name. -/
theorem name (h : d.Revised d') : d'.name = d.name := by
  obtain ⟨schemas, f, rfl⟩ := h.rest
  rfl

/-- A revision keeps the pools. -/
theorem pools (h : d.Revised d') : d'.pools = d.pools := by
  obtain ⟨schemas, f, rfl⟩ := h.rest
  rfl

/-- A revision keeps the rules but for their routes, so the same tables are distributed. -/
theorem distributes (h : d.Revised d') (t : String) :
    d'.rules.distributes t = d.rules.distributes t := by
  obtain ⟨schemas, f, rfl⟩ := h.rest
  exact RuleSet.distributes_mapRoutes f d.rules t

/-- The single-table rule keeps its configuration. -/
theorem router? (h : d.Revised d') :
    d'.rules.router?.map Prod.fst = d.rules.router?.map Prod.fst := by
  obtain ⟨schemas, f, rfl⟩ := h.rest
  rw [RuleSet.router?_mapRoutes, Option.map_map]
  rfl

theorem refl (d : Database) : d.Revised d where
  rest := ⟨d.schemas, id, by rw [RuleSet.mapRoutes_id]⟩
  folded := id

/-- A revision of a revision is one. -/
theorem trans (h : d.Revised d') (h' : d'.Revised d'') : d.Revised d'' where
  rest := by
    obtain ⟨schemas, f, rfl⟩ := h.rest
    obtain ⟨schemas', g, rfl⟩ := h'.rest
    exact ⟨schemas', g ∘ f, by rw [RuleSet.mapRoutes_mapRoutes]⟩
  folded := h'.folded ∘ h.folded

/-- Whether routes can be loaded is a matter of pools and configurations, which stay. -/
theorem loadable (h : d.Revised d') (hd : d.Loadable) : d'.Loadable := by
  intro c r' hr'
  have hrouter := h.router?
  rw [hr'] at hrouter
  obtain ⟨⟨c', r⟩, hr, rfl⟩ := Option.map_eq_some_iff.1 hrouter.symm
  rw [h.name, h.pools]
  exact hd c' r hr

/-- **A revision keeps a database in order.** -/
theorem inOrder (h : d.Revised d') (hd : d.InOrder) : d'.InOrder where
  name := by rw [h.name, hd.name]
  schemas := h.folded hd.schemas
  loadable := h.loadable hd.loadable

end Revised

/-! ### The operations of a revision -/

theorem revised_withSchema (d : Database) (schema : String) (content : Schema) :
    d.Revised (d.withSchema schema content) where
  rest := ⟨_, id, by rw [RuleSet.mapRoutes_id]; rfl⟩
  folded h := h.insert_lower schema content

theorem revised_withoutSchema (d : Database) (schema : String) :
    d.Revised (d.withoutSchema schema) where
  rest := ⟨_, id, by rw [RuleSet.mapRoutes_id]; rfl⟩
  folded h := h.erase _

theorem revised_forgetTable (d : Database) (schema table : String) :
    d.Revised (d.forgetTable schema table) where
  rest := ⟨d.schemas, _, rfl⟩
  folded h := h

/-- Loading routes is a revision. -/
theorem revised_reloadRoutes (h : d.reloadRoutes = .ok d') : d.Revised d' := by
  obtain ⟨f, rfl⟩ := reloadRoutes_rest h
  exact ⟨⟨d.schemas, f, rfl⟩, id⟩

/-- A change of a schema forgets the routes of what it takes out and puts the new content. -/
theorem withObjects_eq (d : Database) (content : Schema) (c : SchemaChange) :
    d.withObjects content c =
      (c.deletedNames.foldl (fun d t => d.forgetTable c.schema t) d).withSchema c.schema
        (c.alter content) := by
  obtain ⟨database, schema, changedTable, changedView, deletedTable, deletedView⟩ := c
  cases deletedTable <;> cases deletedView <;> rfl

private theorem reloaded {r : Except Fault Database} (h : r.map some = .ok (some d')) :
    r = .ok d' := by
  cases r with
  | error e => cases h
  | ok d'' => exact congrArg _ (Option.some.inj (Except.ok.inj h))

/-- A table that was found is put and known afterwards; one that was not is taken out. -/
theorem withFoundTable_eq_ok {schema table : String} {found : Option Table}
    (h : Snapshot.withFoundTable d schema table found = .ok (some d')) :
    (∃ t, found = some t ∧
      (d.withSchema schema (((d.schema? schema).getD ∅).putTable t)).reloadUnlessKnown schema
        [table] = .ok d') ∨
    (∃ content, found = none ∧ d.schema? schema = some content ∧
      d' = (d.withSchema schema (content.removeTable table)).forgetTable schema table) := by
  unfold Snapshot.withFoundTable at h
  cases hs : d.schema? schema with
  | none =>
    cases found with
    | none => rw [hs] at h; cases h
    | some t => exact .inl ⟨t, rfl, reloaded (by rw [hs] at h; exact h)⟩
  | some content =>
    cases found with
    | none =>
      rw [hs] at h
      exact .inr ⟨content, rfl, rfl, (Option.some.inj (Except.ok.inj h)).symm⟩
    | some t => exact .inl ⟨t, rfl, reloaded (by rw [hs] at h; exact h)⟩

end Database

namespace Mutation

variable {s : Snapshot} {m : Mutation} {opened : Pools} {c : Change}

/-- **A revision is made of few operations.** Schemas are put and taken out, tables are forgotten,
and routes are loaded; what these keep, the revision keeps. -/
theorem Revision.kept {P : Database → Prop} {d d' : Database} (h : m.Revision d d')
    (hput : ∀ d schema content, P d → P (d.withSchema schema content))
    (hdrop : ∀ d schema, P d → P (d.withoutSchema schema))
    (hforget : ∀ d schema table, P d → P (d.forgetTable schema table))
    (hreload : ∀ d d', d.reloadRoutes = .ok d' → P d → P d') (hd : P d) : P d' := by
  have hknown {d d' : Database} {schema : String} {names : List String}
      (h : d.reloadUnlessKnown schema names = .ok d') (hd : P d) : P d' := by
    rw [Database.reloadUnlessKnown] at h
    split at h
    · obtain rfl := Except.ok.inj h
      exact hd
    · exact hreload d d' h hd
  cases h with
  | addSchema hnew => exact hput d _ ∅ hd
  | dropSchema => exact hdrop d _ hd
  | alterSchema hs hd' =>
    refine hknown hd' ?_
    rw [Database.withObjects_eq]
    refine hput _ _ _ ?_
    exact List.foldlRecOn _ (motive := P) _ hd fun d hd t _ => hforget d _ t hd
  | reloadSchema hd₁ hd' =>
    refine hreload _ _ hd' ?_
    rcases hd₁ with rfl | ⟨content, rfl⟩
    · exact hdrop d _ hd
    · exact hput d _ content hd
  | reloadTable hfound hd' =>
    rcases Database.withFoundTable_eq_ok hd' with ⟨t, -, hd'⟩ | ⟨content, -, -, rfl⟩
    · exact hknown hd' (hput d _ _ hd)
    · exact hforget _ _ _ (hput d _ _ hd)

/-- **What a mutation makes of a database** by its schemas is a revision. -/
theorem Revision.revised {d d' : Database} (h : m.Revision d d') : d.Revised d' :=
  h.kept (P := d.Revised) (fun d' s content h => h.trans (d'.revised_withSchema s content))
    (fun d' s h => h.trans (d'.revised_withoutSchema s))
    (fun d' s t h => h.trans (d'.revised_forgetTable s t))
    (fun _ _ hr h => h.trans (Database.revised_reloadRoutes hr)) (.refl d)

end Mutation

/-! ### Order is kept -/

namespace Snapshot.InOrder

variable {s s' : Snapshot}

/-- A database in order may be put. -/
theorem put (h : s.InOrder) {d : Database} (hd : d.InOrder)
    (hs' : s'.catalog.databases = s.catalog.databasesWith d) : s'.InOrder where
  keyed := by
    rw [hs']
    exact h.keyed.insert d
  databases k d' hk := by
    rw [hs', Catalog.databasesWith, NameMap.get?_insert] at hk
    split at hk
    · exact Option.some.inj hk ▸ hd
    · exact h.databases k d' hk

theorem withoutDatabase (h : s.InOrder) (name : String) :
    (s.withCatalog (s.catalog.withoutDatabase name)).InOrder where
  keyed := h.keyed.erase _
  databases k d hk := by
    rw [withCatalog, Catalog.withoutDatabase, NameMap.get?_erase] at hk
    split at hk
    · cases hk
    · exact h.databases k d hk

/-- Only the databases matter. -/
theorem congr (h : s.InOrder) (hs' : s'.catalog.databases = s.catalog.databases) : s'.InOrder where
  keyed := hs' ▸ h.keyed
  databases k d hk := h.databases k d (hs' ▸ hk)

end Snapshot.InOrder

/-- A database without rules is in order. -/
theorem Database.inOrder_empty (name : String) (protocol : Dialect) :
    (Database.empty name protocol).InOrder where
  name := Text.lower_lower name
  schemas := NameMap.Folded.rekey _
  loadable _ _ hr := nomatch hr

/-- **Every effect keeps a snapshot in order.** -/
theorem Mutation.Effect.inOrder {s : Snapshot} {m : Mutation} {opened : Pools} {c : Change}
    (h : m.Effect s opened c) (hs : s.InOrder) : c.snapshot.InOrder := by
  cases h with
  | addDatabase hnew => exact hs.put (Database.inOrder_empty _ _) rfl
  | dropDatabase hd => exact hs.withoutDatabase _
  | revise hm hd hd' => exact hs.put (hd'.revised.inOrder (hs.database hd)) rfl
  | rebuild hm hd hd' hbooks hc => exact hs.put hd'.inOrder hc
  | aside hm hc hr => exact hs.congr hc

end ProxyCatalog
