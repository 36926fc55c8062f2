import ProxyCatalog.Proofs.Merging

/-!
# Whether the order of merging matters

What storage engines report comes in no particular order. Merging it finds the same schemas with the
same names of tables and views in every order, and loses none. Which definition an object has is
another matter: where two spellings of one schema define it differently, that of the schema that
comes last is taken.

* `Schema.Unanimous`: no two spellings of a name define one object differently.
* `Schema.eq_of_perm`: unanimous schemas are merged to the same in every order, and
  `Schema.unanimous_of_perm`: only those are.
* `Schema.absorb_of_perm`: the order of the objects within one schema never matters.
* `Schema.merged_in_any_order`: the whole.
* `Visiting.fold_eq_fold`, `Site.findings_congr`: what is unanimous is found alike, in whatever
  order it is visited.
-/

namespace ProxyCatalog

namespace NameMap

variable {α : Type} {m n : NameMap α}

/-- Two maps **agree** where both have a value. -/
def AgreesWith (m n : NameMap α) : Prop :=
  ∀ k v v', m.get? k = some v → n.get? k = some v' → v = v'

theorem agreesWith_iff :
    m.AgreesWith n ↔ ∀ x ∈ m.entries, ∀ y ∈ n.entries, x.1 = y.1 → x.2 = y.2 := by
  constructor
  · rintro h ⟨k, v⟩ hx ⟨_, v'⟩ hy rfl
    exact h k v v' (mem_entries_iff.1 hx) (mem_entries_iff.1 hy)
  · intro h k v v' hv hv'
    exact h (k, v) (mem_entries_iff.2 hv) (k, v') (mem_entries_iff.2 hv') rfl

instance [DecidableEq α] : Decidable (m.AgreesWith n) :=
  decidable_of_iff' _ agreesWith_iff

/-- Values that bear their names give the same map in whatever order they are put. -/
theorem foldl_insert_perm {name : α → String} (h : m.KeyedBy name) {vs : List α}
    (hvs : vs.Perm m.values) (n : NameMap α) :
    vs.foldl (fun n v => n.insert (name v) v) n = n.overlay m := by
  rw [← foldl_insert_values h n]
  have hvalue {v : α} (hv : v ∈ vs) : m.get? (name v) = some v := by
    obtain ⟨⟨k, _⟩, he, rfl⟩ := List.mem_map.1 (hvs.mem_iff.1 hv)
    have hget := mem_entries_iff.1 he
    exact h k _ hget ▸ hget
  refine hvs.foldl_eq' (fun v hv w hw n => ?_) n
  ext1 k
  simp only [get?_insert]
  by_cases hkv : name v = k
  · by_cases hkw : name w = k
    · -- Two values under one name are the same value.
      have hsame : some v = some w := by rw [← hvalue hv, ← hvalue hw, hkv, hkw]
      rw [if_pos hkw, if_pos hkv, hsame]
    · simp only [hkv, hkw, if_true, if_false]
  · simp only [hkv, if_false]

end NameMap

namespace Schema

/-! ### Objects of one schema -/

/-- **Objects are put in any order.** A schema is put over another whatever the order of its
tables and of its views. -/
theorem absorb_of_perm (s t : Schema) {ts : List Table} {vs : List View}
    (hts : ts.Perm t.tables.values) (hvs : vs.Perm t.views.values) :
    (s.putTables ts).putViews vs = s.absorb t := by
  ext1
  · rw [tables_putViews, tables_putTables, tables_absorb,
      NameMap.foldl_insert_perm t.tables_keyed hts]
  · rw [views_putViews, views_putTables, views_absorb,
      NameMap.foldl_insert_perm t.views_keyed hvs]

/-! ### Unanimity -/

/-- Two schemas **agree** if they define no table and no view differently. -/
def AgreesWith (s t : Schema) : Prop :=
  s.tables.AgreesWith t.tables ∧ s.views.AgreesWith t.views

instance (s t : Schema) : Decidable (s.AgreesWith t) :=
  inferInstanceAs (Decidable (_ ∧ _))

/-- What is reported is **unanimous** if all that is reported for one schema agrees. -/
def Unanimous (reported : NameMap Schema) : Prop :=
  ∀ schema content content', Reports reported schema content → Reports reported schema content' →
    content.AgreesWith content'

variable {reported : NameMap Schema} {l l' : List (String × Schema)}

theorem unanimous_iff : Unanimous reported ↔
    ∀ e ∈ reported.entries, ∀ e' ∈ reported.entries, Text.lower e.1 = Text.lower e'.1 →
      e.2.AgreesWith e'.2 := by
  constructor
  · intro h e he e' he' hname
    exact h e.1 e.2 e'.2 ⟨e.1, rfl, NameMap.mem_entries_iff.1 he⟩
      ⟨e'.1, hname.symm, NameMap.mem_entries_iff.1 he'⟩
  · rintro h schema content content' ⟨name, hname, hget⟩ ⟨name', hname', hget'⟩
    exact h (name, content) (NameMap.mem_entries_iff.2 hget) (name', content')
      (NameMap.mem_entries_iff.2 hget') (hname.trans hname'.symm)

instance : Decidable (Unanimous reported) :=
  decidable_of_iff' _ unanimous_iff

/-- Agreeing parts are merged to one schema only. -/
theorem MergedFrom.unique {s t : Schema} {parts : Schema → Prop} (hs : s.MergedFrom parts)
    (ht : t.MergedFrom parts) (h : ∀ p q, parts p → parts q → p.AgreesWith q) : s = t := by
  ext k x
  · rw [hs.tables.get?_eq_some_iff fun p q k v v' hp hq => (h p q hp hq).1 k v v',
      ht.tables.get?_eq_some_iff fun p q k v v' hp hq => (h p q hp hq).1 k v v']
  · rw [hs.views.get?_eq_some_iff fun p q k v v' hp hq => (h p q hp hq).2 k v v',
      ht.views.get?_eq_some_iff fun p q k v v' hp hq => (h p q hp hq).2 k v v']

/-- **Unanimous schemas are merged to the same** in every order. -/
theorem eq_of_perm (h : Unanimous reported) (hl : l.Perm reported.entries)
    (hl' : l'.Perm reported.entries) : mergeFolded l = mergeFolded l' := by
  have hnames (k : String) : (mergeFolded l).contains k ↔ (mergeFolded l').contains k := by
    rw [contains_of_perm hl, contains_of_perm hl']
  ext1 k
  cases hs : (mergeFolded l).get? k with
  | none =>
    cases hs' : (mergeFolded l').get? k with
    | none => rfl
    | some t =>
      have hk := (hnames k).2 (by rw [NameMap.contains, hs']; rfl)
      rw [NameMap.contains, hs] at hk
      cases hk
  | some s =>
    have hk : (mergeFolded l).contains k := by
      rw [NameMap.contains, hs]
      rfl
    obtain ⟨t, ht⟩ := Option.isSome_iff_exists.1 ((hnames k).1 hk)
    obtain ⟨name, -, rfl⟩ := (contains_of_perm hl).1 hk
    have hmerged := mergedFrom_of_perm hl name
    have hmerged' := mergedFrom_of_perm hl' name
    rw [NameMap.getD, hs] at hmerged
    rw [NameMap.getD, ht] at hmerged'
    rw [ht]
    exact congrArg some (hmerged.unique hmerged' (h name))

/-- What stands under folded names is unanimous: no name has a second spelling. -/
theorem unanimous_of_folded (h : reported.Folded) : Unanimous reported := by
  rintro schema content content' ⟨name, hname, hget⟩ ⟨name', hname', hget'⟩
  have hself {name : String} {content : Schema} (hget : reported.get? name = some content) :
      Text.lower name = name := h name (by rw [NameMap.contains, hget]; rfl)
  obtain rfl : name = name' := by rw [← hself hget, hname, ← hname', hself hget']
  obtain rfl := Option.some.inj (hget.symm.trans hget')
  exact ⟨fun _ _ _ ht ht' => Option.some.inj (ht.symm.trans ht'),
    fun _ _ _ hv hv' => Option.some.inj (hv.symm.trans hv')⟩

/-- What is reported, one schema being put last. -/
private def withLast (reported : NameMap Schema) (e : String × Schema) : List (String × Schema) :=
  reported.entries.erase e ++ [e]

private theorem withLast_perm {e : String × Schema} (he : e ∈ reported.entries) :
    (withLast reported e).Perm reported.entries :=
  (List.perm_append_singleton _ _).trans (List.perm_cons_erase he).symm

/-- **The last definition is taken**, of a table and of a view. -/
private theorem get?_withLast (reported : NameMap Schema) (e : String × Schema) (k : String) :
    (∀ t, e.2.tables.get? k = some t →
      ((mergeFolded (withLast reported e)).getD (Text.lower e.1) ∅).tables.get? k = some t) ∧
    ∀ v, e.2.views.get? k = some v →
      ((mergeFolded (withLast reported e)).getD (Text.lower e.1) ∅).views.get? k = some v := by
  rw [withLast, getD_mergeFolded_concat, tables_absorb, views_absorb, NameMap.get?_overlay,
    NameMap.get?_overlay]
  constructor
  · intro t ht
    rw [ht, Option.some_or]
  · intro v hv
    rw [hv, Option.some_or]

/-- **Only unanimous schemas are merged to the same** in every order: of two that disagree, either
can come last. -/
theorem unanimous_of_perm (h : ∀ l l', l.Perm reported.entries → l'.Perm reported.entries →
    mergeFolded l = mergeFolded l') : Unanimous reported := by
  refine unanimous_iff.2 fun e he e' he' hname => ?_
  have hsame := h _ _ (withLast_perm he) (withLast_perm he')
  constructor
  · intro k t t' ht ht'
    have hlast := (get?_withLast reported e k).1 t ht
    rw [hsame, hname, (get?_withLast reported e' k).1 t' ht'] at hlast
    exact (Option.some.inj hlast).symm
  · intro k v v' hv hv'
    have hlast := (get?_withLast reported e k).2 v hv
    rw [hsame, hname, (get?_withLast reported e' k).2 v' hv'] at hlast
    exact (Option.some.inj hlast).symm

/-- **Merging in any order.** The schemas are those that are reported, under their folded names,
and each has exactly the tables and the views that are reported under some spelling of its name,
each with a definition that is reported. The order of the objects of a schema is immaterial. That
of the schemas is if, and only if, what is reported is unanimous. -/
theorem merged_in_any_order (reported : NameMap Schema) :
    (∀ l, l.Perm reported.entries →
      (∀ k, (mergeFolded l).contains k ↔ ∃ name, reported.contains name ∧ Text.lower name = k) ∧
        ∀ schema, ((mergeFolded l).getD (Text.lower schema) ∅).MergedFrom
          (Reports reported schema)) ∧
    (∀ s t ts vs, ts.Perm t.tables.values → vs.Perm t.views.values →
      (putTables s ts).putViews vs = s.absorb t) ∧
    ((∀ l l', l.Perm reported.entries → l'.Perm reported.entries →
      mergeFolded l = mergeFolded l') ↔ Unanimous reported) :=
  ⟨fun _ hl => ⟨fun _ => contains_of_perm hl, mergedFrom_of_perm hl⟩,
    fun s t _ _ => s.absorb_of_perm t,
    unanimous_of_perm, fun h _ _ => eq_of_perm h⟩

/-- Two spellings of one name, of which one is reported with a table and both with a view. -/
private def concordant : NameMap Schema :=
  .ofList [("FOO_DB", .ofLists [⟨"t_order", [], [], []⟩] [⟨"v_order", "SELECT 1"⟩]),
    ("foo_db", .ofLists [] [⟨"v_order", "SELECT 1"⟩])]

/-- **A view that both spellings have** may be taken from either of them. -/
theorem concordant_either_way :
    concordant.entries.reverse.Perm concordant.entries ∧ Unanimous concordant ∧
      mergeFolded concordant.entries.reverse = mergeFolded concordant.entries ∧
        ((mergeFolded concordant.entries.reverse).getD "foo_db" ∅).tables.contains "t_order" := by
  have hreverse := concordant.entries.reverse_perm
  have hunanimous : Unanimous concordant := by decide +kernel
  obtain ⟨hall, -, hiff⟩ := merged_in_any_order concordant
  have hreports : Reports concordant "foo_db"
      (.ofLists [⟨"t_order", [], [], []⟩] [⟨"v_order", "SELECT 1"⟩]) :=
    ⟨"FOO_DB", by decide +kernel, by decide +kernel⟩
  have hmerged := (hall _ hreverse).2 "foo_db"
  rw [show Text.lower "foo_db" = "foo_db" by decide +kernel] at hmerged
  exact ⟨hreverse, hunanimous, hiff.2 hunanimous _ _ hreverse (.refl _),
    hmerged.tables.name _ "t_order" hreports (by decide +kernel)⟩

/-- Two spellings of one name that are reported with different tables of the same name. -/
def discordant : NameMap Schema :=
  .ofList [("FOO_DB", .ofLists [⟨"t_order", [], [], []⟩] []),
    ("foo_db", .ofLists [⟨"t_order", [], [⟨"idx", ["id"], true⟩], []⟩] [])]

/-- **The order decides** which of two definitions a table has. -/
theorem discordant_by_order :
    discordant.entries.reverse.Perm discordant.entries ∧
      mergeFolded discordant.entries.reverse ≠ mergeFolded discordant.entries :=
  ⟨discordant.entries.reverse_perm, by decide +kernel⟩

end Schema

/-! ### Visits in different orders -/

namespace Visiting

variable {reported : NameMap Schema}

/-- Schemas are visited in the reverse order of their names. -/
def backwards : Visiting where
  order _ found := found.entries.reverse
  perm _ found := found.entries.reverse_perm

/-- **What is unanimous is merged alike** by every visit. -/
theorem fold_eq_fold (h : Schema.Unanimous reported) (v v' : Visiting) (database : String) :
    v.fold database reported = v'.fold database reported :=
  Schema.eq_of_perm h (v.perm database reported) (v'.perm database reported)

/-- Names that are folded are left alone by every visit. -/
theorem fold_of_folded (h : reported.Folded) (v : Visiting) (database : String) :
    v.fold database reported = reported :=
  (v.fold_eq_fold (Schema.unanimous_of_folded h) byName database).trans
    (Schema.mergeFolded_entries h)

end Visiting

/-- A discovery is **unanimous** if all that it reports is. -/
def Discovery.Unanimous (f : Discovery) : Prop :=
  ∀ m tables reported, f m tables = .ok reported → Schema.Unanimous reported

/-- What is found by a unanimous discovery is a matter of what is reported. -/
theorem Site.findings_congr {s t : Site} (h : s.discovery.Unanimous)
    (hst : t.discovery = s.discovery) : t.findings = s.findings := by
  funext m tables
  rw [findings, findings, hst]
  cases hreported : s.discovery m tables with
  | error e => rfl
  | ok reported =>
    exact congrArg Except.ok (t.visiting.fold_eq_fold (h m tables reported hreported) _ _)

end ProxyCatalog
