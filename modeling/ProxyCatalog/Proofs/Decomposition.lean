import ProxyCatalog.Proofs.Canonical
import ProxyCatalog.Proofs.Repetition

/-!
# A change of a schema and its parts

A change of a schema may take out a table and a view and put a table and a view, all at once. It
comes to the same to do these one after another. What needs an argument is the single-table rule:
the change decides once, in the end, whether the routes are loaded, and its parts decide for
themselves, against schemas that are changed only in part.

* `Routes.Tidy`: no schema stands among the routes without a table. Routes that were loaded are
  tidy, and tidy routes that lead to the same pools are the same.
* `Database.Loaded.withSchema`: routes that are loaded stay so when a schema gets objects that they
  know already.
* `Database.reloadUnlessKnown_twice`: a load between two puts changes nothing. Whether the objects
  that are put last are known after it or not, the routes come to what one load gives in the end.
* `Database.foldlM_parts`, `World.alterSchema_eq_parts`: the change and its parts, on a database and
  in a run.
-/

namespace ProxyCatalog

/-! ### Routes that lead to the same pools -/

namespace Routes

variable {r r' : Routes}

/-- No schema stands among the routes without a table. -/
def Tidy (r : Routes) : Prop :=
  ∀ schema tables, r.get? schema = some tables → ∃ table pool, tables.get? table = some pool

namespace Tidy

theorem empty : (∅ : Routes).Tidy :=
  fun _ _ h => by cases h

theorem put (h : r.Tidy) (schema table pool : String) : (r.put schema table pool).Tidy := by
  intro s tables htables
  rw [Routes.put, NameMap.get?_insert] at htables
  split at htables
  · obtain rfl := Option.some.inj htables
    exact ⟨table, pool, NameMap.get?_insert_self _ _ _⟩
  · exact h s tables htables

theorem putNew (h : r.Tidy) (schema table pool : String) : (r.putNew schema table pool).Tidy := by
  rw [Routes.putNew]
  split
  · exact h
  · exact h.put schema table pool

/-- Where tidy routes lead nowhere, there are no routes of the schema. -/
private theorem get?_eq_none (h : r.Tidy) {schema : String}
    (hnone : ∀ table, r.at? schema table = none) : r.get? schema = none := by
  cases htables : r.get? schema with
  | none => rfl
  | some tables =>
    obtain ⟨table, pool, hpool⟩ := h schema tables htables
    have hat := hnone table
    rw [at?, htables, Option.bind_some, hpool] at hat
    cases hat

/-- **Tidy routes are determined by the pools to which they lead.** -/
theorem eq_of_at? (h : r.Tidy) (h' : r'.Tidy) (hat : ∀ s t, r.at? s t = r'.at? s t) : r = r' := by
  ext1 s
  have hs := hat s
  cases htables : r.get? s with
  | none =>
    refine (h'.get?_eq_none fun t => ?_).symm
    rw [← hs, at?, htables]
    rfl
  | some tables =>
    cases htables' : r'.get? s with
    | none =>
      have hnone : r.get? s = none := h.get?_eq_none fun t => by
        rw [hs, at?, htables']
        rfl
      rw [htables] at hnone
      cases hnone
    | some tables' =>
      congr 1
      ext1 t
      have ht := hs t
      rwa [at?, htables, at?, htables'] at ht

end Tidy

end Routes

namespace SingleConfig

variable {c : SingleConfig} {database : String} {pools : Pools} {schemas schemas' : NameMap Schema}
  {rules : RuleSet} {routes : Routes}

theorem tidy_listedRoutes {pools : Option Pools} (h : c.listedRoutes database pools = .ok routes) :
    routes.Tidy :=
  listedRoutes_kept h .empty fun _ _ hr => hr.put _ _ _

theorem tidy_fill (h : routes.Tidy) (rules : RuleSet) (fallback : String)
    (schemas : NameMap Schema) : (fill rules fallback routes schemas).Tidy :=
  List.foldlRecOn schemas.entries (motive := Routes.Tidy) _ h fun _ h e _ =>
    List.foldlRecOn _ (motive := Routes.Tidy) _ h fun _ h t _ => h.putNew e.1 t fallback

theorem tidy_load (h : c.load database (some pools) (some schemas) rules = .ok routes) :
    routes.Tidy := by
  obtain ⟨listed, hlisted, -, rfl⟩ := load_eq_ok.1 h
  split
  · exact tidy_fill (tidy_listedRoutes hlisted) _ _ _
  · exact tidy_listedRoutes hlisted

/-- **Objects that are routed already** make no difference to a load. -/
theorem load_of_known (h : c.load database (some pools) (some schemas) rules = .ok routes)
    (hkept : ∀ s t, hasObject schemas s t → hasObject schemas' s t)
    (hnew : ∀ s t, hasObject schemas' s t → hasObject schemas s t ∨ (routes.at? s t).isSome) :
    c.load database (some pools) (some schemas') rules = .ok routes := by
  obtain ⟨routes', h'⟩ : ∃ routes', c.load database (some pools) (some schemas') rules =
      .ok routes' :=
    load_isOk_iff.2 (load_isOk_iff.1 ⟨routes, h⟩)
  obtain ⟨listed, hlisted, hat⟩ := at?_load h
  obtain ⟨listed', hlisted', hat'⟩ := at?_load h'
  obtain rfl := Except.ok.inj (hlisted.symm.trans hlisted')
  rw [h', (tidy_load h').eq_of_at? (tidy_load h) fun s t => ?_]
  rw [hat', hat]
  cases hl : listed.at? s t with
  | some pool => rfl
  | none =>
    -- What is not listed is routed only if the schemas had it before.
    have hsame : hasObject schemas' s t = hasObject schemas s t := by
      refine Bool.eq_iff_iff.2 ⟨fun hobject => ?_, hkept s t⟩
      rcases hnew s t hobject with hbefore | hrouted
      · exact hbefore
      · rw [hat, hl, Option.none_or] at hrouted
        split at hrouted
        · next hfilled => exact (Bool.and_eq_true _ _ ▸ hfilled).1
        · cases hrouted
    rw [hsame]

end SingleConfig

/-! ### Objects that are known already -/

namespace Schema

theorem holds_putViews (s : Schema) (vs : List View) (x : String) :
    (s.putViews vs).holds x ↔ Text.Among (vs.map View.name) x ∨ s.holds x := by
  induction vs generalizing s with
  | nil => simp [putViews, Text.Among]
  | cons v vs ih =>
    have hcons : s.putViews (v :: vs) = (s.putView v).putViews vs := rfl
    rw [hcons, ih, holds_putView]
    simp [Text.Among, or_left_comm, or_assoc]

end Schema

namespace RuleSet

variable {rs : RuleSet}

/-- Without a single-table rule there are no routes to change. -/
theorem mapRoutes_of_router? (h : rs.router? = none) (f : Routes → Routes) :
    rs.mapRoutes f = rs := by
  induction rs with
  | nil => rfl
  | cons rule rs ih =>
    cases rule with
    | single c r => cases h
    | _ => exact congrArg (List.cons _) (ih h)

/-- A load does not look at the routes that it replaces. -/
theorem reload_mapRoutes (rs : RuleSet) (f : Routes → Routes) (database : String) (pools : Pools)
    (schemas : NameMap Schema) :
    (rs.mapRoutes f).reload database pools schemas = rs.reload database pools schemas := by
  cases hr : rs.router? with
  | none => rw [mapRoutes_of_router? hr]
  | some cr =>
    have hload : cr.1.load database (some pools) (some schemas) (rs.mapRoutes f) =
        cr.1.load database (some pools) (some schemas) rs :=
      SingleConfig.load_congr fun t => distributes_mapRoutes f rs t
    have hmap (routes : Routes) :
        ((rs.mapRoutes f).mapRoutes fun _ => routes) = rs.mapRoutes fun _ => routes :=
      mapRoutes_mapRoutes _ _ _
    simp only [reload, router?_mapRoutes, hr, Option.map_some, hload, hmap]

end RuleSet

namespace Database

variable {d d' : Database} {schema : String}

theorem hasObject_withSchema (d : Database) (schema : String) (content : Schema) (s t : String) :
    SingleConfig.hasObject (d.withSchema schema content).schemas s t =
      if Text.lower schema = s then content.objectNames.contains t
      else SingleConfig.hasObject d.schemas s t := by
  rw [SingleConfig.hasObject, withSchema, NameMap.get?_insert]
  split <;> rfl

/-- **Loaded routes stay loaded** when a schema gets objects that they know already. -/
theorem Loaded.withSchema (h : d.Loaded) {content content' : Schema}
    (hcontent : d.schema? schema = some content) (hkept : ∀ x, content.holds x → content'.holds x)
    (hnew : ∀ x, content'.holds x → content.holds x ∨ d.rules.knowsTable schema x) :
    (d.withSchema schema content').Loaded := by
  intro c r hr
  have hr : d.rules.router? = some (c, r) := hr
  have hbefore (t : String) : SingleConfig.hasObject d.schemas (Text.lower schema) t =
      content.objectNames.contains t := by
    rw [SingleConfig.hasObject, ← Database.schema?, hcontent, Option.any_some]
  have hfolded {s : Schema} {t : String} (ht : s.objectNames.contains t) : Text.lower t = t :=
    Schema.lower_of_mem_objectNames (List.contains_iff_mem.1 ht)
  refine SingleConfig.load_of_known (h c r hr) (fun s t hobject => ?_) fun s t hobject => ?_
  · rw [hasObject_withSchema]
    split
    · next hs =>
      rw [← hs, hbefore] at hobject
      have ht := hfolded hobject
      rw [← ht, Schema.contains_objectNames] at hobject
      rw [← ht, Schema.contains_objectNames]
      exact hkept t hobject
    · exact hobject
  · rw [hasObject_withSchema] at hobject
    split at hobject
    · next hs =>
      have ht := hfolded hobject
      rw [← ht, Schema.contains_objectNames] at hobject
      refine (hnew t hobject).imp (fun hheld => ?_) fun hknown => ?_
      · rw [← hs, hbefore, ← ht, Schema.contains_objectNames, hheld]
      · rwa [RuleSet.knowsTable, hr, RuleSet.route?_eq hr, Routes.find?, hs, ht] at hknown
    · exact .inl hobject

/-- The routes may be other than they were, and so may be the schema that is put. -/
theorem reloadRoutes_withSchema (d : Database) (schema : String) (content content' : Schema)
    (f : Routes → Routes) :
    ({ d.withSchema schema content with rules := d.rules.mapRoutes f }.withSchema schema
      content').reloadRoutes = (d.withSchema schema content').reloadRoutes := by
  have hschemas : (d.schemas.insert (Text.lower schema) content).insert (Text.lower schema)
      content' = d.schemas.insert (Text.lower schema) content' := NameMap.insert_insert _ _ _ _
  simp only [reloadRoutes, withSchema, hschemas, RuleSet.reload_mapRoutes]

theorem withSchema_withSchema (d : Database) (schema : String) (content content' : Schema) :
    (d.withSchema schema content).withSchema schema content' = d.withSchema schema content' := by
  simp only [withSchema, NameMap.insert_insert]

/-- Where the routes are loaded, views can be put with a load or without one, if they are known. -/
private theorem Loaded.reloadUnlessKnown_putViews (h : d.Loaded) {content : Schema}
    (hcontent : d.schema? schema = some content) (views : List View) :
    (d.withSchema schema (content.putViews views)).reloadUnlessKnown schema
        (views.map View.name) =
      (d.withSchema schema (content.putViews views)).reloadRoutes := by
  rw [reloadUnlessKnown]
  split
  · next hknown =>
    have hloaded : (d.withSchema schema (content.putViews views)).Loaded := by
      refine h.withSchema hcontent (fun x hx => (content.holds_putViews views x).2 (.inr hx))
        fun x hx => ?_
      refine ((content.holds_putViews views x).1 hx).symm.imp_right ?_
      rintro ⟨n, hn, hx⟩
      have hn := List.all_eq_true.1 hknown n hn
      rwa [RuleSet.knowsTable, RuleSet.route?_congr _ rfl hx] at hn
    exact hloaded.reloadRoutes_eq.symm
  · rfl

/-- **A load between two puts changes nothing.** Objects are put into a schema of which some may be
unknown, and then views: the routes come to what they would if all were put at once. -/
theorem reloadUnlessKnown_twice (hd : d.Loadable) (content : Schema) (names : List String)
    (views : List View) :
    ((d.withSchema schema content).reloadUnlessKnown schema names >>= fun d' =>
        (d'.withSchema schema (content.putViews views)).reloadUnlessKnown schema
          (views.map View.name)) =
      (d.withSchema schema (content.putViews views)).reloadUnlessKnown schema
        (names ++ views.map View.name) := by
  by_cases hnames : names.all fun n => d.rules.knowsTable schema n
  · have hfirst : (d.withSchema schema content).reloadUnlessKnown schema names =
        .ok (d.withSchema schema content) :=
      if_pos hnames
    have hrest : ((names ++ views.map View.name).all fun n => d.rules.knowsTable schema n) =
        (views.map View.name).all fun n => d.rules.knowsTable schema n := by
      rw [List.all_append, hnames, Bool.true_and]
    rw [hfirst, Except.ok_bind, withSchema_withSchema, reloadUnlessKnown, reloadUnlessKnown]
    exact (congrArg (fun b : Bool => if b then _ else _) hrest).symm
  · obtain ⟨d', hd'⟩ := reloadRoutes_isOk_iff.2 ((d.revised_withSchema schema content).loadable hd)
    have hfirst : (d.withSchema schema content).reloadUnlessKnown schema names = .ok d' :=
      (if_neg hnames).trans hd'
    have hlast : (d.withSchema schema (content.putViews views)).reloadUnlessKnown schema
        (names ++ views.map View.name) =
          (d.withSchema schema (content.putViews views)).reloadRoutes := by
      refine if_neg fun hall => hnames ?_
      rw [List.all_append, Bool.and_eq_true] at hall
      exact hall.1
    have hreload : (d'.withSchema schema (content.putViews views)).reloadRoutes =
        (d.withSchema schema (content.putViews views)).reloadRoutes := by
      obtain ⟨f, rfl⟩ := reloadRoutes_rest hd'
      exact reloadRoutes_withSchema d schema content _ f
    have hcontent : d'.schema? schema = some content := by
      rw [schema?_of_reloadRoutes hd', schema?_withSchema_self]
    rw [hlast, ← hreload, hfirst, Except.ok_bind]
    exact (loaded_of_reloadRoutes hd').reloadUnlessKnown_putViews hcontent views

end Database

/-! ### The parts of a change -/

namespace NameMap

variable {α : Type}

/-- An entry that is put, if there is one, is found under its name. -/
theorem get?_foldl_insert_toList (m : NameMap α) (name : α → String) (o : Option α) (x : String) :
    (o.toList.foldl (fun m v => m.insert (Text.lower (name v)) v) m).get? x =
      (o.filter fun v => Text.lower (name v) = x).or (m.get? x) := by
  cases o with
  | none => rfl
  | some v =>
    rw [Option.toList_some, List.foldl_cons, List.foldl_nil, get?_insert, Option.filter_some]
    by_cases hx : Text.lower (name v) = x <;> simp [hx]

/-- A name that is taken out, if there is one, is found no longer. -/
theorem get?_foldl_erase_toList (m : NameMap α) (o : Option String) (x : String) :
    (o.toList.foldl (fun m n => m.erase (Text.lower n)) m).get? x =
      if o.any fun n => Text.lower n = x then none else m.get? x := by
  cases o with
  | none => rfl
  | some n =>
    rw [Option.toList_some, List.foldl_cons, List.foldl_nil, get?_erase, Option.any_some]
    simp only [decide_eq_true_eq]

end NameMap

namespace SchemaChange

/-- The **parts** of a change, each a change of its own: the table to take out, the view to take
out, the table to put and the view to put. What is not asked for is no part. -/
def parts (c : SchemaChange) : List SchemaChange :=
  [{ c with deletedView := none, changedTable := none, changedView := none },
    { c with deletedTable := none, changedTable := none, changedView := none },
    { c with deletedTable := none, deletedView := none, changedView := none },
    { c with deletedTable := none, deletedView := none, changedTable := none }].filter
      fun p => !p.isEmpty

theorem database_of_mem_parts {c p : SchemaChange} (h : p ∈ c.parts) :
    p.database = c.database := by
  have hp := (List.mem_filter.1 h).1
  simp only [List.mem_cons, List.not_mem_nil, or_false] at hp
  rcases hp with rfl | rfl | rfl | rfl <;> rfl

/-- From `before` to `after` a schema is **changed as asked**: under every name there is the object
that was to be put, else none if one was to be taken out, and else what there was. -/
structure Changes (c : SchemaChange) (before after : Schema) : Prop where
  tables : ∀ x, after.table? x =
    (c.changedTable.filter fun t => Text.lower t.name = Text.lower x).or
      (if c.deletedTable.any fun n => Text.lower n = Text.lower x then none else before.table? x)
  views : ∀ x, after.view? x =
    (c.changedView.filter fun v => Text.lower v.name = Text.lower x).or
      (if c.deletedView.any fun n => Text.lower n = Text.lower x then none else before.view? x)

theorem changes_alter (c : SchemaChange) (content : Schema) :
    c.Changes content (c.alter content) where
  tables x := by
    have htables : (c.alter content).tables =
        c.changedTable.toList.foldl (fun m t => m.insert (Text.lower t.name) t)
          (c.deletedTable.toList.foldl (fun m n => m.erase (Text.lower n)) content.tables) := by
      rw [alter, Schema.tables_putViews, Schema.tables_putTables, remaining]
      cases c.deletedView <;> cases c.deletedTable <;> rfl
    rw [Schema.table?, htables, NameMap.get?_foldl_insert_toList, NameMap.get?_foldl_erase_toList,
      Schema.table?]
  views x := by
    have hviews : (c.alter content).views =
        c.changedView.toList.foldl (fun m v => m.insert (Text.lower v.name) v)
          (c.deletedView.toList.foldl (fun m n => m.erase (Text.lower n)) content.views) := by
      rw [alter, Schema.views_putViews, Schema.views_putTables, remaining]
      cases c.deletedView <;> cases c.deletedTable <;> rfl
    rw [Schema.view?, hviews, NameMap.get?_foldl_insert_toList, NameMap.get?_foldl_erase_toList,
      Schema.view?]

end SchemaChange

namespace Database

variable {d : Database} {c : SchemaChange} {content : Schema}

/-- The database with a change carried out on its schema, if it has the schema. -/
def altered (d : Database) (c : SchemaChange) : Except Fault Database :=
  match d.schema? c.schema with
  | none => .ok d
  | some content => (d.withObjects content c).reloadUnlessKnown c.schema c.changedNames

/-- A change forgets what it takes out, puts the new content, and has the routes loaded if need
be. -/
theorem altered_eq (hcontent : d.schema? c.schema = some content) :
    d.altered c = ((c.deletedNames.foldl (fun d t => d.forgetTable c.schema t) d).withSchema
      c.schema (c.alter content)).reloadUnlessKnown c.schema c.changedNames := by
  rw [altered, hcontent, ← withObjects_eq]

theorem altered_of_isEmpty (hc : c.isEmpty = true) : d.altered c = .ok d := by
  obtain ⟨database, schema, changedTable, changedView, deletedTable, deletedView⟩ := c
  simp only [SchemaChange.isEmpty, Bool.and_eq_true, Option.isNone_iff_eq_none] at hc
  obtain ⟨⟨⟨rfl, rfl⟩, rfl⟩, rfl⟩ := hc
  rw [altered]
  split
  · rfl
  · next content hcontent => exact congrArg _ (withSchema_eq_self hcontent)

/-- Changes that ask for nothing may be left out. -/
theorem foldlM_altered_filter (d : Database) (cs : List SchemaChange) :
    (cs.filter fun c => !c.isEmpty).foldlM altered d = cs.foldlM altered d := by
  induction cs generalizing d with
  | nil => rfl
  | cons c cs ih =>
    cases hc : c.isEmpty with
    | true =>
      rw [List.filter_cons_of_neg (by simp [hc]), ih, List.foldlM_cons, altered_of_isEmpty hc]
      rfl
    | false =>
      rw [List.filter_cons_of_pos (by simp [hc]), List.foldlM_cons, List.foldlM_cons]
      exact bind_congr fun d' => ih d'

variable {database schema : String} {table : Option Table} {view : Option View}
  {table? view? : Option String}

/-- What takes out objects only has no routes loaded. -/
private theorem altered_deletions (hcontent : d.schema? schema = some content) :
    d.altered ⟨database, schema, none, none, table?, view?⟩ =
      .ok (((table?.toList ++ view?.toList).foldl (fun d t => d.forgetTable schema t) d).withSchema
        schema (view?.toList.foldl Schema.removeView
          (table?.toList.foldl Schema.removeTable content))) :=
  altered_eq hcontent

private theorem altered_puts (hcontent : d.schema? schema = some content) :
    d.altered ⟨database, schema, table, view, none, none⟩ =
      (d.withSchema schema ((content.putTables table.toList).putViews
        view.toList)).reloadUnlessKnown schema
          ((table.map Table.name).toList ++ (view.map View.name).toList) :=
  altered_eq hcontent

private theorem foldl_forgetTable_withSchema (d : Database) (schema : String) (content : Schema)
    (names : List String) :
    names.foldl (fun d t => d.forgetTable schema t) (d.withSchema schema content) =
      (names.foldl (fun d t => d.forgetTable schema t) d).withSchema schema content := by
  induction names generalizing d with
  | nil => rfl
  | cons n names ih => exact ih (d.forgetTable schema n)

theorem loadable_foldl_forgetTable (hd : d.Loadable) (schema : String) (names : List String) :
    (names.foldl (fun d t => d.forgetTable schema t) d).Loadable :=
  List.foldlRecOn names (motive := Loadable) _ hd fun d hd t _ =>
    (d.revised_forgetTable schema t).loadable hd

/-- A table and a view can be taken out one after the other. -/
private theorem altered_deletions_split (hcontent : d.schema? schema = some content) :
    (d.altered ⟨database, schema, none, none, table?, none⟩ >>= fun d' =>
        d'.altered ⟨database, schema, none, none, none, view?⟩) =
      d.altered ⟨database, schema, none, none, table?, view?⟩ := by
  rw [altered_deletions hcontent, Except.ok_bind,
    altered_deletions (schema?_withSchema_self _ _ _), altered_deletions hcontent,
    foldl_forgetTable_withSchema, withSchema_withSchema]
  simp only [Option.toList_none, List.append_nil, List.nil_append, List.foldl_append,
    List.foldl_nil]

/-- A table and a view can be put one after the other. -/
private theorem altered_puts_split (hd : d.Loadable) (hcontent : d.schema? schema = some content) :
    (d.altered ⟨database, schema, table, none, none, none⟩ >>= fun d' =>
        d'.altered ⟨database, schema, none, view, none, none⟩) =
      d.altered ⟨database, schema, table, view, none, none⟩ := by
  have hnames : (view.map View.name).toList = view.toList.map View.name := by
    cases view <;> rfl
  have htables : d.altered ⟨database, schema, table, none, none, none⟩ =
      (d.withSchema schema (content.putTables table.toList)).reloadUnlessKnown schema
        (table.map Table.name).toList := by
    rw [altered_puts hcontent]
    simp only [Option.map_none, Option.toList_none, List.append_nil, Schema.putViews,
      List.foldl_nil]
  rw [htables, altered_puts hcontent, hnames, ← reloadUnlessKnown_twice hd]
  cases hfirst : (d.withSchema schema (content.putTables table.toList)).reloadUnlessKnown schema
      (table.map Table.name).toList with
  | error e => rfl
  | ok d' =>
    have hcontent' : d'.schema? schema = some (content.putTables table.toList) := by
      rw [Database.schema?, (reloadUnlessKnown_eq_ok hfirst).1]
      exact schema?_withSchema_self _ _ _
    rw [Except.ok_bind, Except.ok_bind, altered_puts hcontent', hnames]
    rfl

/-- What a change puts can be put after what it takes out was taken out. -/
private theorem altered_split (hcontent : d.schema? schema = some content) :
    (d.altered ⟨database, schema, none, none, table?, view?⟩ >>= fun d' =>
        d'.altered ⟨database, schema, table, view, none, none⟩) =
      d.altered ⟨database, schema, table, view, table?, view?⟩ := by
  rw [altered_deletions hcontent, Except.ok_bind, altered_puts (schema?_withSchema_self _ _ _),
    withSchema_withSchema]
  exact (altered_eq (c := ⟨database, schema, table, view, table?, view?⟩) hcontent).symm

/-- **A change comes to its parts**, carried out one after another. -/
theorem foldlM_parts (hd : d.Loadable) (c : SchemaChange) :
    c.parts.foldlM altered d = d.altered c := by
  obtain ⟨database, schema, table, view, table?, view?⟩ := c
  rw [SchemaChange.parts, foldlM_altered_filter]
  simp only [List.foldlM_cons, List.foldlM_nil, bind_pure]
  cases hcontent : d.schema? schema with
  | none =>
    have hnone (c' : SchemaChange) (h : c'.schema = schema) : d.altered c' = .ok d := by
      rw [altered, h, hcontent]
    simp only [hnone, Except.ok_bind]
  | some content =>
    let d₁ := ((table?.toList ++ view?.toList).foldl (fun d t => d.forgetTable schema t)
      d).withSchema schema (view?.toList.foldl Schema.removeView
        (table?.toList.foldl Schema.removeTable content))
    have hd₁ : d₁.Loadable :=
      (revised_withSchema _ _ _).loadable (loadable_foldl_forgetTable hd _ _)
    have hput : d₁.schema? schema = _ := schema?_withSchema_self _ _ _
    refine Eq.trans ?_ (altered_split hcontent)
    rw [← bind_assoc, altered_deletions_split hcontent, altered_deletions hcontent,
      Except.ok_bind, Except.ok_bind]
    exact altered_puts_split hd₁ hput

variable {d' : Database}

theorem altered_isOk (hd : d.Loadable) (c : SchemaChange) : ∃ d', d.altered c = .ok d' := by
  cases hcontent : d.schema? c.schema with
  | none => exact ⟨d, by rw [altered, hcontent]⟩
  | some content =>
    rw [altered_eq hcontent, reloadUnlessKnown]
    split
    · exact ⟨_, rfl⟩
    · exact reloadRoutes_isOk_iff.2
        ((revised_withSchema _ _ _).loadable (loadable_foldl_forgetTable hd _ _))

theorem revised_altered (h : d.altered c = .ok d') : d.Revised d' := by
  rw [altered] at h
  split at h
  · exact Except.ok.inj h ▸ .refl d
  · next content hcontent => exact (Mutation.Revision.alterSchema hcontent h).revised

theorem revised_foldlM_altered {cs : List SchemaChange} (h : cs.foldlM altered d = .ok d') :
    d.Revised d' := by
  induction cs generalizing d with
  | nil => exact Except.ok.inj h ▸ .refl d
  | cons c cs ih =>
    rw [List.foldlM_cons] at h
    obtain ⟨d₁, h₁, h⟩ := Except.bind_eq_ok h
    exact (revised_altered h₁).trans (ih h)

/-- The schema is changed as asked, and no other schema is. -/
theorem changes_altered (hcontent : d.schema? c.schema = some content) (h : d.altered c = .ok d') :
    (∃ content', d'.schema? c.schema = some content' ∧ c.Changes content content') ∧
      ∀ x, Text.lower x ≠ Text.lower c.schema → d'.schema? x = d.schema? x := by
  have hschemas : d'.schemas = (d.withSchema c.schema (c.alter content)).schemas := by
    rw [altered, hcontent] at h
    rw [(reloadUnlessKnown_eq_ok h).1, schemas_withObjects]
  have hschema (x : String) : d'.schema? x = if Text.lower c.schema = Text.lower x then
      some (c.alter content) else d.schema? x := by
    rw [Database.schema?, hschemas, ← Database.schema?, schema?_withSchema]
  refine ⟨⟨c.alter content, ?_, c.changes_alter content⟩, fun x hx => ?_⟩
  · rw [hschema, if_pos rfl]
  · rw [hschema, if_neg hx.symm]

end Database

/-! ### In a run -/

/-- What is planned is the altered database, unless nothing is changed. -/
theorem Snapshot.alterSchema_eq {s : Snapshot} {c : SchemaChange} {d d' : Database}
    (hd : s.database? c.database = some d) (h : d.altered c = .ok d') :
    s.alterSchema c = .ok none ∧ d' = d ∨
      s.alterSchema c = .ok (some { snapshot := s.withDatabase d' }) := by
  rw [alterSchema, hd]
  dsimp only
  cases hcontent : d.schema? c.schema with
  | none =>
    rw [Database.altered, hcontent] at h
    exact .inl ⟨rfl, (Except.ok.inj h).symm⟩
  | some content =>
    dsimp only
    split
    · next hc =>
      rw [Database.altered_of_isEmpty hc] at h
      exact .inl ⟨rfl, (Except.ok.inj h).symm⟩
    · rw [Database.altered, hcontent] at h
      dsimp only at h
      rw [h]
      exact .inr rfl

/-- To retire no pools is recorded nowhere. -/
theorem Site.journal_retire_nothing (delay : Option Nat) (s : Site) :
    (s.retire delay ∅).journal = s.journal := by
  cases delay with
  | none => exact List.append_nil _
  | some ms => rfl

namespace World

variable {w w' : World} {d d' : Database}

/-- Applies mutations one after another, up to the first that fails. -/
def applyEach (w : World) : List Mutation → Except Fault World
  | [] => .ok w
  | m :: ms =>
    match w.apply m with
    | (.ok _, w') => w'.applyEach ms
    | (.error e, _) => .error e

/-- The world `w'` is `w` with a database **put**, and nothing was done at the site. -/
structure Puts (w w' : World) (d : Database) : Prop where
  proxy : w'.proxy = { w.proxy with snapshot := w.proxy.snapshot.withDatabase d }
  store : w'.site.store = w.site.store
  journal : w'.site.journal = w.site.journal

theorem puts_self (hd : w.proxy.snapshot.catalog.databases.get? d.name = some d) :
    w.Puts w d where
  proxy := by rw [Snapshot.withDatabase_eq_self hd]
  store := rfl
  journal := rfl

theorem Puts.trans {w'' : World} (h : w.Puts w' d) (h' : w'.Puts w'' d')
    (hname : d'.name = d.name) : w.Puts w'' d' where
  proxy := by
    have hput : (w.proxy.snapshot.withDatabase d).withDatabase d' =
        w.proxy.snapshot.withDatabase d' := by
      simp only [Snapshot.withDatabase, Snapshot.withCatalog, Catalog.withDatabase,
        Catalog.databasesWith, hname, NameMap.insert_insert]
    rw [h'.proxy, h.proxy]
    dsimp only
    rw [hput]
  store := h'.store.trans h.store
  journal := h'.journal.trans h.journal

theorem apply_alterSchema {c : SchemaChange} (hname : d.name = Text.lower c.database)
    (hd : w.proxy.snapshot.database? c.database = some d) (h : d.altered c = .ok d') :
    ∃ o w', w.apply (.alterSchema c) = (.ok o, w') ∧ w.Puts w' d' := by
  rcases Snapshot.alterSchema_eq hd h with ⟨hplan, rfl⟩ | hplan
  · refine ⟨.unchanged, w, ?_, puts_self (hname ▸ hd)⟩
    rw [apply, Mutation.plan, hplan]
    rfl
  · refine ⟨.installed, (w.install (w.proxy.snapshot.withDatabase d')).followUp
      { snapshot := w.proxy.snapshot.withDatabase d' }, ?_, ?_, ?_, ?_⟩
    · rw [apply, Mutation.plan, hplan]
      rfl
    · rw [(followUp_rest _ _).1]
      rfl
    · rw [(followUp_rest _ _).2]
      rfl
    · rw [followUp_eq]
      exact (Site.journal_retire_nothing _ _).trans (List.append_nil _)

/-- Changes to one database, one after another. -/
theorem applyEach_alterSchema {database : String} {cs : List SchemaChange}
    (hcs : ∀ c ∈ cs, c.database = database) (hname : d.name = Text.lower database)
    (hd : w.proxy.snapshot.database? database = some d)
    (h : cs.foldlM Database.altered d = .ok d') :
    ∃ w', w.applyEach (cs.map .alterSchema) = .ok w' ∧ w.Puts w' d' := by
  induction cs generalizing w d with
  | nil =>
    obtain rfl := Except.ok.inj h
    exact ⟨w, rfl, puts_self (hname ▸ hd)⟩
  | cons c cs ih =>
    obtain rfl := hcs c List.mem_cons_self
    rw [List.foldlM_cons] at h
    obtain ⟨d₁, h₁, h⟩ := Except.bind_eq_ok h
    obtain ⟨o, w₁, happly, hputs⟩ := apply_alterSchema hname hd h₁
    have hname₁ : d₁.name = Text.lower c.database :=
      (Database.revised_altered h₁).name.trans hname
    have hd₁ : w₁.proxy.snapshot.database? c.database = some d₁ := by
      rw [hputs.proxy]
      exact (Catalog.database?_withDatabase _ _ _).trans (if_pos hname₁)
    obtain ⟨w', heach, hputs'⟩ := ih (fun c hc => hcs c (List.mem_cons_of_mem _ hc)) hname₁ hd₁ h
    refine ⟨w', ?_, hputs.trans hputs' ?_⟩
    · rw [List.map_cons, applyEach, happly]
      exact heach
    · exact (Database.revised_foldlM_altered h).name

/-- Changes to a database that is not there do nothing. -/
theorem applyEach_alterSchema_of_missing {cs : List SchemaChange}
    (hcs : ∀ c ∈ cs, w.proxy.snapshot.database? c.database = none) :
    w.applyEach (cs.map .alterSchema) = .ok w := by
  induction cs with
  | nil => rfl
  | cons c cs ih =>
    have happly : w.apply (.alterSchema c) = (.ok .unchanged, w) := by
      rw [apply, Mutation.plan, Snapshot.alterSchema, hcs c List.mem_cons_self]
      rfl
    rw [List.map_cons, applyEach, happly]
    exact ih fun c hc => hcs c (List.mem_cons_of_mem _ hc)

/-- **A change of a schema comes to its parts.** It succeeds, and so do its parts one after another;
the proxy is then the same in all respects, the routes of the single-table rule included. Neither
does anything at the site. Where the schema is there, its objects are changed as asked and nothing
else is, and where it is not, nothing happens. -/
theorem alterSchema_eq_parts (hw : w.Reachable) (c : SchemaChange) :
    ∃ o w₁ w₂, w.apply (.alterSchema c) = (.ok o, w₁) ∧
      w.applyEach (c.parts.map .alterSchema) = .ok w₂ ∧ w₂.proxy = w₁.proxy ∧
        (w₁.site.store = w.site.store ∧ w₁.site.journal = w.site.journal) ∧
        (w₂.site.store = w.site.store ∧ w₂.site.journal = w.site.journal) ∧
        ((w.proxy.snapshot.database? c.database).bind (·.schema? c.schema) = none →
          w₁.proxy = w.proxy) ∧
        ∀ d content, w.proxy.snapshot.database? c.database = some d →
          d.schema? c.schema = some content →
            ∃ d' content', ChangedAt c.database c.schema w w₁ d d' ∧
              d'.schema? c.schema = some content' ∧ c.Changes content content' := by
  have hparts (p : SchemaChange) (hp : p ∈ c.parts) : p.database = c.database :=
    SchemaChange.database_of_mem_parts hp
  cases hd : w.proxy.snapshot.database? c.database with
  | none =>
    have happly : w.apply (.alterSchema c) = (.ok .unchanged, w) := by
      rw [apply, Mutation.plan, Snapshot.alterSchema, hd]
      rfl
    have heach : w.applyEach (c.parts.map .alterSchema) = .ok w :=
      applyEach_alterSchema_of_missing fun p hp => by rw [hparts p hp, hd]
    exact ⟨.unchanged, w, w, happly, heach, rfl, ⟨rfl, rfl⟩, ⟨rfl, rfl⟩, fun _ => rfl,
      fun _ _ h => by cases h⟩
  | some d =>
    have hname := hw.inOrder.name_eq hd
    have hloadable := (hw.inOrder.database hd).loadable
    obtain ⟨d', hd'⟩ := Database.altered_isOk hloadable c
    obtain ⟨o, w₁, happly, hput₁⟩ := apply_alterSchema hname hd hd'
    obtain ⟨w₂, heach, hput₂⟩ := applyEach_alterSchema hparts hname hd
      ((Database.foldlM_parts hloadable c).trans hd')
    refine ⟨o, w₁, w₂, happly, heach, hput₂.proxy.trans hput₁.proxy.symm,
      ⟨hput₁.store, hput₁.journal⟩, ⟨hput₂.store, hput₂.journal⟩, fun hnone => ?_, ?_⟩
    · have hsame : d' = d := by
        rw [Option.bind_some] at hnone
        rw [Database.altered, hnone] at hd'
        exact (Except.ok.inj hd').symm
      rw [hput₁.proxy, hsame, Snapshot.withDatabase_eq_self (hname ▸ hd)]
    · rintro _ content ⟨⟩ hcontent
      obtain ⟨⟨content', hcontent', hchanges⟩, hschemas⟩ := Database.changes_altered hcontent hd'
      refine ⟨d', content', changedAt_of_installed hw.inOrder hd (Database.revised_altered hd')
        hschemas ?_ ?_, hcontent', hchanges⟩
      · rw [hput₁.proxy]
      · rw [hput₁.store]
        exact ⟨.refl _ _, fun _ _ => rfl⟩

/-- The table of the sample is taken out and put again under another spelling, with a view. -/
private def orderChange : SchemaChange where
  database := "foo_db"
  schema := "FOO_DB"
  changedTable := some ⟨"T_Order", [], [], []⟩
  changedView := some ⟨"v_order", "SELECT 1"⟩
  deletedTable := some "t_order"
  deletedView := none

/-- **A table that is both taken out and put is there afterwards**, beside the view. -/
theorem table_put_again :
    ∃ o w₁ w₂ d' content, Sample.world.apply (.alterSchema orderChange) = (.ok o, w₁) ∧
      Sample.world.applyEach (orderChange.parts.map .alterSchema) = .ok w₂ ∧
        w₂.proxy = w₁.proxy ∧ w₁.proxy.snapshot.database? "foo_db" = some d' ∧
          d'.schema? "FOO_DB" = some content ∧
            content.table? "t_order" = some ⟨"T_Order", [], [], []⟩ ∧
              content.view? "v_order" = some ⟨"v_order", "SELECT 1"⟩ := by
  obtain ⟨o, w₁, w₂, happly, heach, hsame, -, -, -, hthere⟩ :=
    alterSchema_eq_parts Sample.started_world.reachable orderChange
  have hschema : ((Sample.world.proxy.snapshot.database? "foo_db").bind
      (·.schema? "FOO_DB")).isSome := by
    decide +kernel
  obtain ⟨content, hcontent⟩ := Option.isSome_iff_exists.1 hschema
  obtain ⟨d, hd, hcontent⟩ := Option.bind_eq_some_iff.1 hcontent
  obtain ⟨d', content', hchanged, hcontent', hchanges⟩ := hthere d content hd hcontent
  have hlower : Text.lower "T_Order" = Text.lower "t_order" := by decide +kernel
  refine ⟨o, w₁, w₂, d', content', happly, heach, hsame, hchanged.after, hcontent', ?_, ?_⟩
  · rw [hchanges.tables]
    simp [orderChange, hlower]
  · rw [hchanges.views]
    simp [orderChange]

end World

end ProxyCatalog
