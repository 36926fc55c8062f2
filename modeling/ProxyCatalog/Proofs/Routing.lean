import ProxyCatalog.Proofs.Run

/-!
# Routes under change

The routes of a single-table rule repeat part of the schemas of their database. Some mutations load
them anew, as a whole. The others keep them up to date one by one: what is taken out of a schema is
forgotten, and what is put into it is known already. This module follows one object, that is, the
tables and views of one name in one schema, and its route.

* `Mutation.Loads`: whether a mutation loads the routes.
* `Mutation.Keeps`: what becomes of an object and its route where it does not.
* `Mutation.Revision.loaded_or_keeps`: a mutation of the schemas does the one or the other.
* `World.origin`: a database that is there after a move was turned into what it is in this way, or
  was so before, or is new.
-/

namespace ProxyCatalog

/-- One of the names is this one, in any spelling. -/
def Text.Among (names : List String) (x : String) : Prop :=
  ∃ n ∈ names, Text.lower n = Text.lower x

instance (names : List String) (x : String) : Decidable (Text.Among names x) :=
  inferInstanceAs (Decidable (∃ n ∈ names, Text.lower n = Text.lower x))

theorem Text.among_singleton {n x : String} :
    Text.Among [n] x ↔ Text.lower n = Text.lower x := by
  simp [Among]

theorem Text.not_among_nil {x : String} : ¬ Text.Among [] x :=
  fun ⟨_, h, _⟩ => nomatch h

/-! ### Objects of a schema -/

namespace Schema

variable (s : Schema)

/-- A table that is put is held, beside all that was. -/
theorem holds_putTable (t : Table) (x : String) :
    (s.putTable t).holds x ↔ Text.lower t.name = Text.lower x ∨ s.holds x := by
  by_cases h : Text.lower t.name = Text.lower x <;>
    simp [holds, table?, view?, putTable, NameMap.get?_insert, h]

/-- A view that is put is held, beside all that was. -/
theorem holds_putView (v : View) (x : String) :
    (s.putView v).holds x ↔ Text.lower v.name = Text.lower x ∨ s.holds x := by
  by_cases h : Text.lower v.name = Text.lower x <;>
    simp [holds, table?, view?, putView, NameMap.get?_insert, h]

variable {s} {n x : String}

theorem holds_of_removeTable (h : (s.removeTable n).holds x) : s.holds x := by
  rw [holds, Bool.or_eq_true] at h ⊢
  refine h.imp_left fun ht => ?_
  rw [table?, removeTable, NameMap.get?_erase] at ht
  split at ht
  · cases ht
  · exact ht

theorem holds_of_removeView (h : (s.removeView n).holds x) : s.holds x := by
  rw [holds, Bool.or_eq_true] at h ⊢
  refine h.imp_right fun hv => ?_
  rw [view?, removeView, NameMap.get?_erase] at hv
  split at hv
  · cases hv
  · exact hv

/-- To take a table out leaves what has other names. -/
theorem holds_removeTable_of_ne (hn : Text.lower n ≠ Text.lower x) :
    (s.removeTable n).holds x = s.holds x := by
  simp only [holds, table?, view?, removeTable, NameMap.get?_erase, if_neg hn]

/-- To take a view out leaves what has other names. -/
theorem holds_removeView_of_ne (hn : Text.lower n ≠ Text.lower x) :
    (s.removeView n).holds x = s.holds x := by
  simp only [holds, table?, view?, removeView, NameMap.get?_erase, if_neg hn]

/-- The schema `s'` is `s` without the names `out`, and then with objects of the names `new`. One
of two objects of a name in `out` may be left. -/
structure Edited (s s' : Schema) (out new : List String) : Prop where
  puts {t} : Text.Among new t → s'.holds t
  stays {t} : s.holds t → ¬ Text.Among out t → s'.holds t
  origin {t} : s'.holds t → s.holds t ∨ Text.Among new t

theorem edited_refl (s : Schema) : s.Edited s [] [] where
  puts h := absurd h Text.not_among_nil
  stays h _ := h
  origin := .inl

/-- To put a table is an edit that brings in its name. -/
theorem edited_putTable (s : Schema) {t : Table} {n : String}
    (h : Text.lower t.name = Text.lower n) :
    s.Edited (s.putTable t) [] [n] where
  puts hn := (s.holds_putTable t _).2 (.inl (h.trans (Text.among_singleton.1 hn)))
  stays hs _ := (s.holds_putTable t _).2 (.inr hs)
  origin hs := ((s.holds_putTable t _).1 hs).symm.imp_right fun hn =>
    Text.among_singleton.2 (h.symm.trans hn)

/-- To remove a table is an edit that may take out its name. -/
theorem edited_removeTable (s : Schema) (n : String) : s.Edited (s.removeTable n) [n] [] where
  puts h := absurd h Text.not_among_nil
  stays h hn := by rwa [holds_removeTable_of_ne fun he => hn (Text.among_singleton.2 he)]
  origin h := .inl (holds_of_removeTable h)

end Schema

namespace SchemaChange

variable {c : SchemaChange} {content : Schema} {table : String}

theorem holds_of_remaining (h : (c.remaining content).holds table) : content.holds table := by
  obtain ⟨_, _, _, _, deletedTable, deletedView⟩ := c
  cases deletedView with
  | none =>
    cases deletedTable with
    | none => exact h
    | some t => exact Schema.holds_of_removeTable h
  | some v =>
    cases deletedTable with
    | none => exact Schema.holds_of_removeView h
    | some t => exact Schema.holds_of_removeTable (Schema.holds_of_removeView h)

/-- What is not to be deleted remains. -/
theorem holds_remaining (hnot : ¬ Text.Among c.deletedNames table) :
    (c.remaining content).holds table = content.holds table := by
  obtain ⟨_, _, _, _, deletedTable, deletedView⟩ := c
  have hne (n : String) (hn : n ∈ deletedTable.toList ++ deletedView.toList) :
      Text.lower n ≠ Text.lower table :=
    fun he => hnot ⟨n, hn, he⟩
  have htable (content : Schema) :
      (deletedTable.toList.foldl Schema.removeTable content).holds table =
        content.holds table := by
    cases deletedTable with
    | none => rfl
    | some t => exact Schema.holds_removeTable_of_ne (hne t (by simp))
  rw [remaining, ← htable content]
  cases deletedView with
  | none => rfl
  | some v => exact Schema.holds_removeView_of_ne (hne v (by simp))

/-- **What an altered schema holds**: what was put, and what remained. -/
theorem holds_alter :
    (c.alter content).holds table ↔
      Text.Among c.changedNames table ∨ (c.remaining content).holds table := by
  have htables : ((c.remaining content).putTables c.changedTable.toList).holds table ↔
      (∃ t ∈ c.changedTable, Text.lower t.name = Text.lower table) ∨
        (c.remaining content).holds table := by
    cases c.changedTable with
    | none => simp [Schema.putTables]
    | some t => simp [Schema.putTables, Schema.holds_putTable]
  have hviews : (c.alter content).holds table ↔
      (∃ v ∈ c.changedView, Text.lower v.name = Text.lower table) ∨
        ((c.remaining content).putTables c.changedTable.toList).holds table := by
    rw [alter]
    cases c.changedView with
    | none => simp [Schema.putViews]
    | some v => simp [Schema.putViews, Schema.holds_putView]
  rw [hviews, htables, ← or_assoc, Text.Among, changedNames]
  cases c.changedTable <;> cases c.changedView <;> simp [or_comm]

/-- A change of a schema edits it. -/
theorem edited_alter (c : SchemaChange) (content : Schema) :
    content.Edited (c.alter content) c.deletedNames c.changedNames where
  puts h := holds_alter.2 (.inl h)
  stays h hn := holds_alter.2 (.inr (by rwa [holds_remaining hn]))
  origin h := (holds_alter.1 h).symm.imp_left holds_of_remaining

end SchemaChange

/-! ### Objects and routes of a database -/

namespace RuleSet

/-- A route is found in any spelling. -/
theorem route?_congr (rs : RuleSet) {schema table s t : String}
    (hs : Text.lower schema = Text.lower s) (ht : Text.lower table = Text.lower t) :
    rs.route? schema table = rs.route? s t := by
  simp only [route?, Routes.find?, hs, ht]

end RuleSet

namespace Database

variable (d : Database) {d' : Database} (schema s t : String)

/-- A database holds the tables of a schema that is put, and of the others what it held. -/
theorem holds_withSchema (content : Schema) :
    (d.withSchema schema content).holds s t =
      if Text.lower schema = Text.lower s then content.holds t else d.holds s t := by
  rw [holds, schema?_withSchema]
  split <;> rfl

/-- A database holds no table of a schema that is taken out. -/
theorem holds_withoutSchema :
    (d.withoutSchema schema).holds s t =
      if Text.lower schema = Text.lower s then false else d.holds s t := by
  rw [holds, schema?_withoutSchema]
  split <;> rfl

/-- **The names that are forgotten have no route**, and all others keep theirs. -/
theorem route?_foldl_forgetTable (names : List String) :
    (names.foldl (fun d n => d.forgetTable schema n) d).rules.route? s t =
      if Text.lower schema = Text.lower s ∧ Text.Among names t then none
      else d.rules.route? s t := by
  induction names generalizing d with
  | nil => simp [Text.Among]
  | cons n names ih =>
    rw [List.foldl_cons, ih, forgetTable, RuleSet.route?_forgetTable]
    by_cases hs : Text.lower schema = Text.lower s
    · by_cases hn : Text.lower n = Text.lower t <;> simp [Text.Among, hs, hn]
    · simp [hs]

variable {d schema s t}

theorem holds_congr (h : d'.schemas = d.schemas) : d'.holds s t = d.holds s t := by
  rw [holds, schema?, h]
  rfl

theorem holds_eq (hs : Text.lower schema = Text.lower s) :
    d.holds s t = ((d.schema? schema).getD ∅).holds t := by
  rw [holds, schema?, ← hs, ← schema?]
  cases d.schema? schema <;> rfl

/-- A change carried out on a database is one carried out on the schema. -/
theorem schemas_withObjects (d : Database) (content : Schema) (c : SchemaChange) :
    (d.withObjects content c).schemas = (d.withSchema c.schema (c.alter content)).schemas := by
  have hschemas : (c.deletedNames.foldl (fun d n => d.forgetTable c.schema n) d).schemas =
      d.schemas :=
    List.foldlRecOn _ (motive := fun d' : Database => d'.schemas = d.schemas) _ rfl
      fun _ h _ _ => h
  rw [withObjects_eq, withSchema, hschemas]
  rfl

/-- Where a name has no route the routes are loaded, and otherwise nothing is done. -/
theorem reloadUnlessKnown_eq_ok {names : List String}
    (h : d.reloadUnlessKnown schema names = .ok d') :
    d'.schemas = d.schemas ∧
      ((∃ n ∈ names, d.rules.route? schema n = none) ∧ d'.Loaded ∨
        (∀ n ∈ names, d.rules.route? schema n ≠ none) ∧ d' = d) := by
  rw [reloadUnlessKnown] at h
  split at h
  · next hall =>
    obtain rfl := Except.ok.inj h
    refine ⟨rfl, ?_⟩
    cases hr : d.rules.router? with
    | none =>
      -- Without a single-table rule there are no routes, and nothing to load.
      cases names with
      | nil => exact .inr ⟨fun n hn => absurd hn List.not_mem_nil, rfl⟩
      | cons n names =>
        refine .inl ⟨⟨n, List.mem_cons_self, RuleSet.route?_eq_none hr _ _⟩, fun c r hr' => ?_⟩
        rw [hr] at hr'
        cases hr'
    | some cr =>
      refine .inr ⟨fun n hn hnone => ?_, rfl⟩
      have hknown := List.all_eq_true.1 hall n hn
      rw [RuleSet.knowsTable, hr, hnone] at hknown
      cases hknown
  · next hall =>
    obtain ⟨f, hrest⟩ := reloadRoutes_rest h
    refine ⟨by rw [hrest], .inl ⟨?_, loaded_of_reloadRoutes h⟩⟩
    obtain ⟨n, hn, hunknown⟩ := List.all_eq_false.1 (Bool.eq_false_iff.2 hall)
    refine ⟨n, hn, ?_⟩
    rw [RuleSet.knowsTable, Bool.or_eq_true, not_or] at hunknown
    exact Option.not_isSome_iff_eq_none.1 hunknown.2

end Database

/-! ### What a mutation does to one object -/

namespace Mutation

/-- The mutation **puts** an object. A table that was asked for anew is put if it was found, and the
database `d'` that comes of it shows whether it was. -/
def Puts (schema table : String) (d' : Database) : Mutation → Prop
  | alterSchema c => Text.lower c.schema = Text.lower schema ∧ Text.Among c.changedNames table
  | reloadTable _ s t _ => Text.lower s = Text.lower schema ∧ Text.lower t = Text.lower table ∧
      ∃ content, d'.schema? s = some content ∧ (content.table? t).isSome
  | _ => False

/-- The mutation **takes out** an object, be it as a table or as a view. -/
def TakesOut (schema table : String) (d' : Database) : Mutation → Prop
  | alterSchema c => Text.lower c.schema = Text.lower schema ∧ Text.Among c.deletedNames table
  | reloadTable _ s t _ => Text.lower s = Text.lower schema ∧ Text.lower t = Text.lower table ∧
      ∀ content, d'.schema? s = some content → content.table? t = none
  | _ => False

/-- The mutation **drops** a schema with all its objects. -/
def Drops (schema : String) : Mutation → Prop
  | dropSchema _ s => Text.lower s = Text.lower schema
  | _ => False

/-- The mutation **loads** the routes of the database anew. It always does, or it puts an object
that has no route, or has none any more since the same mutation takes it out before. -/
def Loads (d d' : Database) (m : Mutation) : Prop :=
  m.rebuilds?.isSome ∨ (∃ database schema pool, m = reloadSchema database schema pool) ∨
    ∃ schema table, m.Puts schema table d' ∧
      (d.rules.route? schema table = none ∨ m.TakesOut schema table d')

/-- The mutation **keeps** the routes: it forgets those of the objects that it takes out, and leaves
the others as they are. -/
structure Keeps (d d' : Database) (m : Mutation) : Prop where
  forgets {s t} : m.TakesOut s t d' → d'.rules.route? s t = none
  route? {s t} : ¬ m.TakesOut s t d' → d'.rules.route? s t = d.rules.route? s t
  puts {s t} : m.Puts s t d' → d'.holds s t
  stays {s t} : d.holds s t → ¬ m.TakesOut s t d' → ¬ m.Drops s → d'.holds s t
  origin {s t} : d'.holds s t → d.holds s t ∨ m.Puts s t d'
  drops {s t} : m.Drops s → ¬ d'.holds s t

variable {m : Mutation} {d d' : Database}

theorem puts_congr {s t : String} (h : d'.schemas = d.schemas) : m.Puts s t d' ↔ m.Puts s t d := by
  have hschema (x : String) : d'.schema? x = d.schema? x := congrArg (·.get? (Text.lower x)) h
  cases m <;> simp only [Puts, hschema]

theorem takesOut_congr {s t : String} (h : d'.schemas = d.schemas) :
    m.TakesOut s t d' ↔ m.TakesOut s t d := by
  have hschema (x : String) : d'.schema? x = d.schema? x := congrArg (·.get? (Text.lower x)) h
  cases m <;> simp only [TakesOut, hschema]

private theorem keeps_dropSchema {database schema : String} :
    (dropSchema database schema).Keeps d (d.withoutSchema schema) where
  forgets := nofun
  route? _ := rfl
  puts := nofun
  stays {s t} h _ hd := by
    rw [Drops] at hd
    rwa [Database.holds_withoutSchema, if_neg hd]
  origin {s t} h := by
    rw [Database.holds_withoutSchema] at h
    split at h
    · cases h
    · exact .inl h
  drops {s t} hd := by
    rw [Drops] at hd
    rw [Database.holds_withoutSchema, if_pos hd]
    exact Bool.false_ne_true

/-- The mutation **edits** one schema: it takes out the names `out`, then puts the names `new`. -/
structure Edits (d d' : Database) (m : Mutation) (schema : String) (out new : List String) :
    Prop where
  takesOut {s t} : m.TakesOut s t d' ↔ Text.lower schema = Text.lower s ∧ Text.Among out t
  puts {s t} : m.Puts s t d' ↔ Text.lower schema = Text.lower s ∧ Text.Among new t
  drops {s} : ¬ m.Drops s
  route? {s t} : d'.rules.route? s t =
    if Text.lower schema = Text.lower s ∧ Text.Among out t then none else d.rules.route? s t
  content : ∃ content : Schema, d'.schemas = (d.withSchema schema content).schemas ∧
    ((d.schema? schema).getD ∅).Edited content out new

namespace Edits

variable {schema : String} {out new : List String}

/-- An edit of one schema forgets what it takes out, and nothing else. -/
theorem keeps (h : m.Edits d d' schema out new) : m.Keeps d d' := by
  obtain ⟨content, hschemas, hcontent⟩ := h.content
  -- Within the schema its content decides, and all other schemas are as they were.
  have hin {s t : String} (hs : Text.lower schema = Text.lower s) :
      d'.holds s t = content.holds t := by
    rw [Database.holds_congr hschemas, Database.holds_withSchema, if_pos hs]
  have hout {s t : String} (hs : Text.lower schema ≠ Text.lower s) :
      d'.holds s t = d.holds s t := by
    rw [Database.holds_congr hschemas, Database.holds_withSchema, if_neg hs]
  refine
    { forgets := fun ht => h.route?.trans (if_pos (h.takesOut.1 ht))
      route? := fun ht => h.route?.trans (if_neg fun ht' => ht (h.takesOut.2 ht'))
      puts := fun {s t} hp => ?_
      stays := fun {s t} hd ht _ => ?_
      origin := fun {s t} hd => ?_
      drops := fun hd => absurd hd h.drops }
  · obtain ⟨hs, hnew⟩ := h.puts.1 hp
    rw [hin hs]
    exact hcontent.puts hnew
  · by_cases hs : Text.lower schema = Text.lower s
    · rw [Database.holds_eq hs] at hd
      rw [hin hs]
      exact hcontent.stays hd fun ht' => ht (h.takesOut.2 ⟨hs, ht'⟩)
    · rwa [hout hs]
  · by_cases hs : Text.lower schema = Text.lower s
    · rw [hin hs] at hd
      rw [Database.holds_eq hs]
      exact (hcontent.origin hd).imp_right fun ht => h.puts.2 ⟨hs, ht⟩
    · rw [hout hs] at hd
      exact .inl hd

/-- After an edit the routes are loaded if one of the new names has none. -/
theorem loaded_or_keeps {d₁ : Database} (h : m.Edits d d₁ schema out new)
    (hrebuilds : m.rebuilds? = none) (hreloads : ∀ x y z, m ≠ reloadSchema x y z)
    (hd' : d₁.reloadUnlessKnown schema new = .ok d') :
    m.Loads d d' ∧ d'.Loaded ∨ ¬ m.Loads d d' ∧ m.Keeps d d' := by
  obtain ⟨hschemas, ⟨⟨n, hn, hnone⟩, hloaded⟩ | ⟨hknown, rfl⟩⟩ :=
    Database.reloadUnlessKnown_eq_ok hd'
  · refine .inl ⟨.inr (.inr ⟨schema, n, ?_, ?_⟩), hloaded⟩
    · rw [puts_congr hschemas]
      exact h.puts.2 ⟨rfl, n, hn, rfl⟩
    · rw [takesOut_congr hschemas]
      by_cases ht : m.TakesOut schema n d₁
      · exact .inr ht
      · exact .inl ((h.keeps.route? ht).symm.trans hnone)
  · refine .inr ⟨?_, h.keeps⟩
    rintro (hloads | ⟨x, y, z, hloads⟩ | ⟨s, t, hputs, hroute⟩)
    · rw [hrebuilds] at hloads
      cases hloads
    · exact hreloads x y z hloads
    · obtain ⟨hs, n, hn, ht⟩ := h.puts.1 hputs
      -- The name has a route after the edit, so it had one before and was not taken out.
      have hsome : d'.rules.route? s t ≠ none :=
        RuleSet.route?_congr d'.rules hs ht ▸ hknown n hn
      by_cases htakes : m.TakesOut s t d'
      · exact hsome (h.keeps.forgets htakes)
      · exact hsome ((h.keeps.route? htakes).trans (hroute.resolve_right htakes))

end Edits

private theorem edits_addSchema {database schema : String} (hnew : d.schema? schema = none) :
    (addSchema database schema).Edits d (d.withSchema schema ∅) schema [] [] where
  takesOut := ⟨nofun, fun h => Text.not_among_nil h.2⟩
  puts := ⟨nofun, fun h => Text.not_among_nil h.2⟩
  drops := nofun
  route? := (if_neg fun h => Text.not_among_nil h.2).symm
  content := ⟨∅, rfl, by rw [hnew]; exact Schema.edited_refl ∅⟩

private theorem edits_alterSchema {c : SchemaChange} {content : Schema}
    (hs : d.schema? c.schema = some content) :
    (alterSchema c).Edits d (d.withObjects content c) c.schema c.deletedNames c.changedNames where
  takesOut := .rfl
  puts := .rfl
  drops := nofun
  route? := by
    rw [Database.withObjects_eq]
    exact Database.route?_foldl_forgetTable _ _ _ _ _
  content := ⟨c.alter content, Database.schemas_withObjects d content c, by
    rw [hs]; exact c.edited_alter content⟩

section Table

variable {database schema table : String} {pool : Option String}

/-- A table that was found is put. -/
private theorem edits_foundTable {t : Table} (ht : Text.lower t.name = Text.lower table) :
    (reloadTable database schema table pool).Edits d
      (d.withSchema schema (((d.schema? schema).getD ∅).putTable t)) schema [] [table] := by
  have hschema := d.schema?_withSchema_self schema (((d.schema? schema).getD ∅).putTable t)
  have htable : (((d.schema? schema).getD ∅).putTable t).table? table = some t := by
    rw [Schema.table?, ← ht]
    exact NameMap.get?_insert_self _ _ _
  refine ⟨⟨fun h => ?_, fun h => absurd h.2 Text.not_among_nil⟩, ⟨fun h => ?_, fun h => ?_⟩, nofun,
    (if_neg fun h => Text.not_among_nil h.2).symm, _, rfl, Schema.edited_putTable _ ht⟩
  · have hnone := h.2.2 _ hschema
    rw [htable] at hnone
    cases hnone
  · exact ⟨h.1, Text.among_singleton.2 h.2.1⟩
  · exact ⟨h.1, Text.among_singleton.1 h.2, _, hschema, by rw [htable]; rfl⟩

/-- A table that was not found is taken out. -/
private theorem edits_lostTable {content : Schema} (hs : d.schema? schema = some content) :
    (reloadTable database schema table pool).Edits d
      ((d.withSchema schema (content.removeTable table)).forgetTable schema table)
      schema [table] [] := by
  have hschema := d.schema?_withSchema_self schema (content.removeTable table)
  have hlost : (content.removeTable table).table? table = none := NameMap.get?_erase_self _ _
  refine ⟨⟨fun h => ?_, fun h => ?_⟩, ⟨fun h => ?_, fun h => absurd h.2 Text.not_among_nil⟩, nofun,
    ?_, _, rfl, by rw [hs]; exact Schema.edited_removeTable _ _⟩
  · exact ⟨h.1, Text.among_singleton.2 h.2.1⟩
  · refine ⟨h.1, Text.among_singleton.1 h.2, fun content' hcontent' => ?_⟩
    rwa [← Option.some.inj (hschema.symm.trans hcontent')]
  · obtain ⟨-, -, content', hcontent', hsome⟩ := h
    rw [← Option.some.inj (hschema.symm.trans hcontent'), hlost] at hsome
    cases hsome
  · refine (RuleSet.route?_forgetTable _ _ _ _ _).trans ?_
    simp only [Text.among_singleton]
    rfl

end Table

/-- **A mutation of the schemas loads the routes or keeps them.** -/
theorem Revision.loaded_or_keeps (h : m.Revision d d') :
    m.Loads d d' ∧ d'.Loaded ∨ ¬ m.Loads d d' ∧ m.Keeps d d' := by
  cases h with
  | addSchema hnew => exact (edits_addSchema hnew).loaded_or_keeps rfl nofun rfl
  | dropSchema =>
    refine .inr ⟨?_, keeps_dropSchema⟩
    rintro (h | ⟨_, _, _, h⟩ | ⟨_, _, h, -⟩) <;> cases h
  | alterSchema hs hd' => exact (edits_alterSchema hs).loaded_or_keeps rfl nofun hd'
  | reloadSchema hd₁ hd' =>
    exact .inl ⟨.inr (.inl ⟨_, _, _, rfl⟩), Database.loaded_of_reloadRoutes hd'⟩
  | reloadTable hfound hd' =>
    rcases Database.withFoundTable_eq_ok hd' with ⟨t, ht, hd'⟩ | ⟨content, -, hs, rfl⟩
    · exact (edits_foundTable (hfound t ht)).loaded_or_keeps rfl nofun hd'
    · exact (edits_lostTable hs).loaded_or_keeps rfl nofun rfl

end Mutation

/-! ### Moves -/

/-- A new database has no objects. -/
theorem Database.holds_empty (name : String) (protocol : Dialect) (s t : String) :
    ¬ (empty name protocol).holds s t := by
  have hfolded : (NameMap.single (protocol.defaultSchema name) (∅ : Schema)).Folded :=
    .insert .empty (protocol.lower_defaultSchema name) ∅
  rw [holds, schema?, empty, make, hfolded.rekey_eq_self, NameMap.get?_single]
  split <;> exact Bool.false_ne_true

namespace Mutation

/-- The database that the mutation turns into another one. -/
def turns? (m : Mutation) : Option String :=
  m.revises?.or m.rebuilds?

/-- What became of a database that a mutation turned from `d` into `d'`: its routes are loaded, or
they are kept and so is what routes them. -/
def Turned (m : Mutation) (d d' : Database) : Prop :=
  m.Loads d d' ∧ d'.Loaded ∨ ¬ m.Loads d d' ∧ m.Keeps d d' ∧ d.Revised d'

/-- A revision turns a database: it loads the routes anew, or keeps them. -/
theorem Revision.turned {m : Mutation} {d d' : Database} (h : m.Revision d d') : m.Turned d d' :=
  h.loaded_or_keeps.imp_right fun ⟨hloads, hkeeps⟩ => ⟨hloads, hkeeps, h.revised⟩

private theorem turns?_of_rebuilds? {m : Mutation} {database : String}
    (h : m.rebuilds? = some database) : m.turns? = some database := by
  cases m <;> first | exact h | cases h

private theorem turns?_of_isAside {m : Mutation} (h : m.isAside = true) : m.turns? = none := by
  cases m <;> first | rfl | cases h

/-- How a database of this name came about that is there after a mutation. -/
inductive Origin (s : Snapshot) (m : Mutation) (name : String) (d' : Database) : Prop
  | turned {database : String} {d : Database} (hm : m.turns? = some database)
      (hname : Text.lower database = Text.lower name) (hd : s.database? name = some d)
      (h : m.Turned d d')
  | stayed (hm : ∀ database, m.turns? = some database → Text.lower database ≠ Text.lower name)
      (hd : s.database? name = some d')
  | new (hm : m.turns? = none) {n : String} {protocol : Dialect} (h : d' = .empty n protocol)

/-- **Where an installed database comes from**: the mutation turned it into what it is, or it was so
before, or it is new. -/
theorem Effect.origin {s : Snapshot} {m : Mutation} {opened : Pools} {c : Change}
    (h : m.Effect s opened c) (hs : s.InOrder) {name : String} {d' : Database}
    (hd' : c.snapshot.database? name = some d') : Origin s m name d' := by
  have hput {database : String} {d d₁ : Database} (hm : m.turns? = some database)
      (hd : s.database? database = some d) (hname : d₁.name = d.name) (hd₁ : m.Turned d d₁)
      (hc : c.snapshot.catalog.databases = s.catalog.databasesWith d₁) : Origin s m name d' := by
    rw [Snapshot.database?, Catalog.database?, hc, Catalog.databasesWith, NameMap.get?_insert,
      hname, hs.name_eq hd] at hd'
    split at hd'
    · next he =>
      obtain rfl := Option.some.inj hd'
      exact .turned hm he (by rwa [Snapshot.database?, Catalog.database?, ← he]) hd₁
    · next hne =>
      refine .stayed (fun database' hm' => ?_) hd'
      rwa [← Option.some.inj (hm.symm.trans hm')]
  have hnone (hm : m.turns? = none) (database : String) (h : m.turns? = some database) :
      Text.lower database ≠ Text.lower name := by
    rw [hm] at h
    cases h
  cases h with
  | @addDatabase n protocol hnew =>
    rw [Snapshot.database?, Snapshot.withDatabase, Snapshot.withCatalog,
      Catalog.database?_withDatabase] at hd'
    split at hd'
    · exact .new rfl (Option.some.inj hd').symm
    · exact .stayed (hnone rfl) hd'
  | dropDatabase hd =>
    rw [Snapshot.database?, Snapshot.withCatalog, Catalog.database?_withoutDatabase] at hd'
    split at hd'
    · cases hd'
    · exact .stayed (hnone rfl) hd'
  | revise hm hd hrev =>
    exact hput (by rw [turns?, hm]; rfl) hd hrev.revised.name hrev.turned rfl
  | rebuild hm hd hd₁ hbooks hc =>
    have hloads : m.rebuilds?.isSome := by rw [hm]; rfl
    exact hput (turns?_of_rebuilds? hm) hd hd₁.name_eq (.inl ⟨.inl hloads, hd₁.loaded⟩) hc
  | aside hm hc hr =>
    rw [Snapshot.database?, Catalog.database?, hc] at hd'
    exact .stayed (hnone (turns?_of_isAside hm)) hd'

end Mutation

namespace World

/-- The move **turns** the database `d` of this name into `d'`, by a mutation that is installed. -/
structure Turns (w : World) (move : Move) (name : String) (m : Mutation) (d d' : Database) :
    Prop where
  mutates : move = .mutate m
  installed : (w.apply m).1 = .ok .installed
  about : ∃ database, m.turns? = some database ∧ Text.lower database = Text.lower name
  before : w.proxy.snapshot.database? name = some d
  after : (w.move move).proxy.snapshot.database? name = some d'

/-- How a database of this name came about that is there after a move. -/
inductive Origin (w : World) (move : Move) (name : String) (d' : Database) : Prop
  | turned {m : Mutation} {d : Database} (h : w.Turns move name m d d') (hd : m.Turned d d')
  | stayed (h : ∀ m d d'', ¬ w.Turns move name m d d'')
      (hd : w.proxy.snapshot.database? name = some d')
  | new (h : ∀ m d d'', ¬ w.Turns move name m d d'') {n : String} {protocol : Dialect}
      (hd : d' = .empty n protocol)

variable {w : World} {move : Move} {name : String} {m : Mutation} {d d' : Database}

/-- **A database that is there after a move** was turned into what it is, was so before, or is
new. -/
theorem origin (hs : w.proxy.snapshot.InOrder)
    (hd' : (w.move move).proxy.snapshot.database? name = some d') : w.Origin move name d' := by
  have hstayed (hnot : ∀ m, move = .mutate m → (w.apply m).1 ≠ .ok .installed)
      (hsnapshot : (w.move move).proxy.snapshot = w.proxy.snapshot) : w.Origin move name d' :=
    .stayed (fun m _ _ h => hnot m h.mutates h.installed) (hsnapshot ▸ hd')
  cases move with
  | announce state => exact hstayed (fun _ h => by cases h) rfl
  | close => exact hstayed (fun _ h => by cases h) w.close_rest.1
  | change c => exact hstayed (fun _ h => by cases h) rfl
  | mutate m =>
    have hmutates {m' : Mutation} (h : Move.mutate m = .mutate m') : m' = m :=
      (Move.mutate.inj h).symm
    rcases apply_cases hs m with ⟨e, t, h, -⟩ | ⟨t, h, -⟩ | ⟨opened, c, t, h, he, -⟩
    · refine hstayed (fun m' hm' hinstalled => ?_) (by rw [World.move, h])
      rw [hmutates hm', h] at hinstalled
      cases hinstalled
    · refine hstayed (fun m' hm' hinstalled => ?_) (by rw [World.move, h])
      rw [hmutates hm', h] at hinstalled
      cases hinstalled
    · -- What is put stands under its own name, so a database of another name is not turned.
      have hnot (h : ∀ database, m.turns? = some database → Text.lower database ≠ Text.lower name)
          (m' : Mutation) (d d'' : Database) : ¬ w.Turns (.mutate m) name m' d d'' := by
        intro ht
        obtain ⟨database, hm, hname⟩ := ht.about
        exact h database (hmutates ht.mutates ▸ hm) hname
      have hafter : c.snapshot.database? name = some d' := by
        rw [World.move, h] at hd'
        exact hd'
      cases he.origin hs hafter with
      | turned hm hname hd hturned =>
        exact .turned ⟨rfl, by rw [h], ⟨_, hm, hname⟩, hd, hd'⟩ hturned
      | stayed hm hd => exact .stayed (hnot hm) hd
      | new hm hd =>
        refine .new (hnot fun database h => ?_) hd
        rw [hm] at h
        cases h

/-- The move turns the database of this name, and `P` is true of the mutation and of the database
before and after it. -/
def TurnsBy (w : World) (move : Move) (name : String)
    (P : Mutation → Database → Database → Prop) : Prop :=
  ∃ m d d', w.Turns move name m d d' ∧ P m d d'

variable {P : Mutation → Database → Database → Prop}

/-- A move turns a database in one way only. -/
theorem Turns.turnsBy_iff (h : w.Turns move name m d d') : w.TurnsBy move name P ↔ P m d d' := by
  constructor
  · rintro ⟨m', e, e', h', hP⟩
    obtain rfl := Move.mutate.inj (h'.mutates.symm.trans h.mutates)
    obtain rfl := Option.some.inj (h'.before.symm.trans h.before)
    obtain rfl := Option.some.inj (h'.after.symm.trans h.after)
    exact hP
  · exact fun hP => ⟨m, d, d', h, hP⟩

theorem not_turnsBy (h : ∀ m d d'', ¬ w.Turns move name m d d'') : ¬ w.TurnsBy move name P :=
  fun ⟨m, d, d'', ht, _⟩ => h m d d'' ht

end World

end ProxyCatalog
