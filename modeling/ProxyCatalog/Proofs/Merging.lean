import ProxyCatalog.Proofs.Persistence

/-!
# Merging what is reported

Storage engines report schemas under names that may differ in case, and schemas whose names become
equal when folded are merged. Where two of them define an object of one name, one definition is
taken; which one is a matter of the order in which they are put and is left open here.

* `NameMap.Merges`: a map has the names of some maps, and under each name the value of one of them.
  `Schema.MergedFrom` says so of the tables and of the views of a schema.
* `Schema.contains_of_perm`, `Schema.mergedFrom_of_perm`: the schemas after folding the names are
  those reported under some spelling, each merged from all that was reported for it.
* `Visiting.contains_fold`, `Visiting.mergedFrom_fold`: so it is after every visit.
* `Schema.mergeFolded_entries`: names that are folded are left alone.
-/

namespace ProxyCatalog

/-! ### Merged maps -/

namespace NameMap

variable {α β : Type} {parts : α → Prop} {field : α → NameMap β} {m : NameMap β}

/-- The map `m` **merges** the maps that some parts have in a field: it has the names of all of
them, and under each name the value of one. -/
structure Merges (m : NameMap β) (parts : α → Prop) (field : α → NameMap β) : Prop where
  value : ∀ k v, m.get? k = some v → ∃ p, parts p ∧ (field p).get? k = some v
  name : ∀ p k, parts p → (field p).contains k → m.contains k

namespace Merges

theorem empty : (∅ : NameMap β).Merges (fun _ => False) field where
  value _ _ h := by cases h
  name _ _ h _ := h.elim

/-- What is put over a merged map is merged into it. -/
theorem overlay (h : m.Merges parts field) (p : α) :
    (m.overlay (field p)).Merges (fun q => parts q ∨ q = p) field where
  value k v hv := by
    rw [get?_overlay] at hv
    cases hp : (field p).get? k with
    | some v' =>
      rw [hp, Option.some_or] at hv
      exact ⟨p, .inr rfl, hp.trans hv⟩
    | none =>
      rw [hp, Option.none_or] at hv
      obtain ⟨q, hq, hk⟩ := h.value k v hv
      exact ⟨q, .inl hq, hk⟩
  name q k hq hk := by
    rw [contains, get?_overlay, Option.isSome_or, Bool.or_eq_true]
    rcases hq with hq | rfl
    · exact .inr (h.name q k hq hk)
    · exact .inl hk

/-- Parts that **agree**, in that no two have different values under one name, leave no choice. -/
theorem get?_eq_some_iff (h : m.Merges parts field)
    (hagree : ∀ p q k v v', parts p → parts q → (field p).get? k = some v →
      (field q).get? k = some v' → v = v') {k : String} {v : β} :
    m.get? k = some v ↔ ∃ p, parts p ∧ (field p).get? k = some v := by
  constructor
  · exact h.value k v
  · rintro ⟨p, hp, hk⟩
    have hcontains := h.name p k hp (by rw [contains, hk]; rfl)
    obtain ⟨v', hv'⟩ := Option.isSome_iff_exists.1 hcontains
    obtain ⟨q, hq, hk'⟩ := h.value k v' hv'
    rw [hv', hagree p q k v v' hp hq hk hk']

end Merges

end NameMap

namespace Schema

/-- The schema `s` is **merged from** some parts, as regards its tables and as regards its views. -/
structure MergedFrom (s : Schema) (parts : Schema → Prop) : Prop where
  tables : s.tables.Merges parts Schema.tables
  views : s.views.Merges parts Schema.views

theorem MergedFrom.empty : (∅ : Schema).MergedFrom fun _ => False :=
  ⟨.empty, .empty⟩

theorem MergedFrom.absorb {s : Schema} {parts : Schema → Prop} (h : s.MergedFrom parts)
    (part : Schema) : (s.absorb part).MergedFrom fun p => parts p ∨ p = part where
  tables := tables_absorb s part ▸ h.tables.overlay part
  views := views_absorb s part ▸ h.views.overlay part

theorem MergedFrom.congr {s : Schema} {parts parts' : Schema → Prop} (h : s.MergedFrom parts)
    (hparts : ∀ p, parts p ↔ parts' p) : s.MergedFrom parts' := by
  have heq : parts = parts' := funext fun p => propext (hparts p)
  exact heq ▸ h

theorem empty_absorb (s : Schema) : (∅ : Schema).absorb s = s := by
  ext1
  · rw [tables_absorb]
    exact NameMap.empty_overlay _
  · rw [views_absorb]
    exact NameMap.empty_overlay _

/-! ### Folded names -/

/-- Something is **reported** for a schema, under some spelling of its name. -/
def Reports (reported : NameMap Schema) (schema : String) (content : Schema) : Prop :=
  ∃ name, Text.lower name = Text.lower schema ∧ reported.get? name = some content

/-- One step of merging: a reported schema is put over what was reported before. -/
private def mergeOne (merged : NameMap Schema) (e : String × Schema) : NameMap Schema :=
  merged.insert (Text.lower e.1) ((merged.getD (Text.lower e.1) ∅).absorb e.2)

private theorem contains_foldl_mergeOne (l : List (String × Schema)) (m : NameMap Schema)
    (k : String) :
    (l.foldl mergeOne m).contains k ↔ m.contains k ∨ ∃ e ∈ l, Text.lower e.1 = k := by
  induction l generalizing m with
  | nil => simp
  | cons e l ih =>
    have hone : (mergeOne m e).contains k ↔ m.contains k ∨ Text.lower e.1 = k := by
      rw [mergeOne, NameMap.contains_insert]
      exact or_comm
    rw [List.foldl_cons, ih, hone, or_assoc]
    simp only [List.mem_cons, exists_eq_or_imp]

private theorem mergedFrom_foldl_mergeOne (l : List (String × Schema)) {m : NameMap Schema}
    {k : String} {parts : Schema → Prop} (h : (m.getD k ∅).MergedFrom parts) :
    ((l.foldl mergeOne m).getD k ∅).MergedFrom fun content =>
      parts content ∨ ∃ e ∈ l, Text.lower e.1 = k ∧ e.2 = content := by
  induction l generalizing m parts with
  | nil => exact h.congr fun p => by simp
  | cons e l ih =>
    -- The schema is merged from one part more if the next one is reported for it.
    have hone : ((mergeOne m e).getD k ∅).MergedFrom fun content =>
        parts content ∨ (Text.lower e.1 = k ∧ e.2 = content) := by
      rw [mergeOne, NameMap.getD, NameMap.get?_insert]
      split
      · next hk => exact (hk ▸ h.absorb e.2).congr fun p => by simp [hk, eq_comm]
      · next hk => exact h.congr fun p => by simp [hk]
    refine (ih hone).congr fun p => ?_
    simp only [List.mem_cons, exists_eq_or_imp, or_assoc]

/-- **The names after merging** are the folded names of what is put. -/
theorem contains_mergeFolded {l : List (String × Schema)} {k : String} :
    (mergeFolded l).contains k ↔ ∃ e ∈ l, Text.lower e.1 = k := by
  rw [mergeFolded]
  refine (contains_foldl_mergeOne l ∅ k).trans (or_iff_right ?_)
  exact Bool.false_ne_true

/-- **What merging makes of a schema** is merged from all that is put under a spelling of its
name. -/
theorem mergedFrom_mergeFolded (l : List (String × Schema)) (k : String) :
    ((mergeFolded l).getD k ∅).MergedFrom fun content =>
      ∃ e ∈ l, Text.lower e.1 = k ∧ e.2 = content := by
  have hempty : ((∅ : NameMap Schema).getD k ∅).MergedFrom fun _ => False := .empty
  rw [mergeFolded]
  exact (mergedFrom_foldl_mergeOne l hempty).congr fun _ => or_iff_right not_false

/-- What is put last is put over all else. -/
theorem getD_mergeFolded_concat (l : List (String × Schema)) (e : String × Schema) :
    (mergeFolded (l ++ [e])).getD (Text.lower e.1) ∅ =
      ((mergeFolded l).getD (Text.lower e.1) ∅).absorb e.2 := by
  rw [mergeFolded, List.foldl_append, List.foldl_cons, List.foldl_nil]
  exact congrArg (Option.getD · ∅) (NameMap.get?_insert_self _ _ _)

variable {reported : NameMap Schema} {l : List (String × Schema)}

theorem reports_iff (h : l.Perm reported.entries) {schema : String} {content : Schema} :
    Reports reported schema content ↔
      ∃ e ∈ l, Text.lower e.1 = Text.lower schema ∧ e.2 = content := by
  constructor
  · rintro ⟨name, hname, hget⟩
    exact ⟨(name, content), h.mem_iff.2 (NameMap.mem_entries_iff.2 hget), hname, rfl⟩
  · rintro ⟨⟨name, content'⟩, hmem, hname, rfl⟩
    exact ⟨name, hname, NameMap.mem_entries_iff.1 (h.mem_iff.1 hmem)⟩

/-- **The names after merging** what is reported, in any order, are the folded names of what is
reported. -/
theorem contains_of_perm (h : l.Perm reported.entries) {k : String} :
    (mergeFolded l).contains k ↔ ∃ name, reported.contains name ∧ Text.lower name = k := by
  rw [contains_mergeFolded]
  constructor
  · rintro ⟨e, he, hk⟩
    exact ⟨e.1, NameMap.mem_keys_iff.1 (List.mem_map_of_mem (h.mem_iff.1 he)), hk⟩
  · rintro ⟨name, hname, hk⟩
    obtain ⟨content, hcontent⟩ := Option.isSome_iff_exists.1 hname
    exact ⟨(name, content), h.mem_iff.2 (NameMap.mem_entries_iff.2 hcontent), hk⟩

/-- **What merging in any order makes of a schema** is merged from all that is reported for it. -/
theorem mergedFrom_of_perm (h : l.Perm reported.entries) (schema : String) :
    ((mergeFolded l).getD (Text.lower schema) ∅).MergedFrom (Reports reported schema) :=
  (mergedFrom_mergeFolded l (Text.lower schema)).congr fun _ => (reports_iff h).symm

/-! ### Tidy answers -/

/-- What is reported has **tables only**. -/
def TablesOnly (reported : NameMap Schema) : Prop :=
  ∀ name content, reported.get? name = some content → content.views = ∅

/-- Spellings of one name that are reported **agree**: no table has two definitions. -/
def Agreeing (reported : NameMap Schema) : Prop :=
  ∀ name name' content content', Text.lower name = Text.lower name' →
    reported.get? name = some content → reported.get? name' = some content' →
      ∀ k t t', content.tables.get? k = some t → content'.tables.get? k = some t' → t = t'

theorem tablesOnly_iff : TablesOnly reported ↔ ∀ e ∈ reported.entries, e.2.views = ∅ := by
  constructor
  · intro h e he
    exact h e.1 e.2 (NameMap.mem_entries_iff.1 he)
  · intro h name content hget
    exact h (name, content) (NameMap.mem_entries_iff.2 hget)

theorem agreeing_iff : Agreeing reported ↔
    ∀ e ∈ reported.entries, ∀ e' ∈ reported.entries, Text.lower e.1 = Text.lower e'.1 →
      ∀ x ∈ e.2.tables.entries, ∀ y ∈ e'.2.tables.entries, x.1 = y.1 → x.2 = y.2 := by
  constructor
  · rintro h e he e' he' hname ⟨k, t⟩ hx ⟨_, t'⟩ hy rfl
    exact h e.1 e'.1 e.2 e'.2 hname (NameMap.mem_entries_iff.1 he) (NameMap.mem_entries_iff.1 he')
      k t t' (NameMap.mem_entries_iff.1 hx) (NameMap.mem_entries_iff.1 hy)
  · intro h name name' content content' hname hget hget' k t t' ht ht'
    exact h (name, content) (NameMap.mem_entries_iff.2 hget) (name', content')
      (NameMap.mem_entries_iff.2 hget') hname (k, t) (NameMap.mem_entries_iff.2 ht) (k, t')
      (NameMap.mem_entries_iff.2 ht') rfl

instance : Decidable (TablesOnly reported) :=
  decidable_of_iff' _ tablesOnly_iff

instance : Decidable (Agreeing reported) :=
  decidable_of_iff' _ agreeing_iff

variable {s : Schema} {schema : String}

/-- What is merged from tables has no views. -/
theorem MergedFrom.views_eq_empty (h : s.MergedFrom (Reports reported schema))
    (htables : TablesOnly reported) : s.views = ∅ := by
  ext1 k
  cases hv : s.views.get? k with
  | none => rfl
  | some v =>
    obtain ⟨content, ⟨name, -, hget⟩, hk⟩ := h.views.value k v hv
    rw [htables name content hget] at hk
    cases hk

/-- What is merged from agreeing spellings has exactly the tables of all. -/
theorem MergedFrom.table?_eq_some_iff (h : s.MergedFrom (Reports reported schema))
    (hagree : Agreeing reported) {table : String} {t : Table} :
    s.table? table = some t ↔
      ∃ content, Reports reported schema content ∧ content.table? table = some t := by
  refine h.tables.get?_eq_some_iff ?_
  rintro content content' k v v' ⟨name, hname, hget⟩ ⟨name', hname', hget'⟩ hv hv'
  exact hagree name name' content content' (hname.trans hname'.symm) hget hget' k v v' hv hv'

/-- Names that are folded are left alone, at least in their own order. -/
theorem mergeFolded_entries (h : reported.Folded) : mergeFolded reported.entries = reported := by
  have hput (m : NameMap Schema) (k : String) (content : Schema)
      (hk : reported.get? k = some content) (x : String) : (mergeOne m (k, content)).get? x =
        if k = x then some (((m.get? x).getD ∅).absorb content) else m.get? x := by
    have hfold : Text.lower k = k := h k (by rw [NameMap.contains, hk]; rfl)
    rw [mergeOne, NameMap.get?_insert, hfold, NameMap.getD]
    split
    · next hx => rw [hx]
    · rfl
  ext1 x
  have hlook := NameMap.look_foldl_entries (fun m k content => mergeOne m (k, content))
    (fun m => m.get? x) (fun stored content => some ((stored.getD ∅).absorb content))
    (fun m k content hk => hput m k content hk x) ∅
  rw [mergeFolded]
  refine hlook.trans ?_
  cases reported.get? x with
  | none => rfl
  | some content => exact congrArg some (empty_absorb content)

end Schema

/-! ### Visits -/

namespace Visiting

variable {v : Visiting} {database : String} {reported : NameMap Schema}

/-- **The names after a visit** are the folded names of what is reported. -/
theorem contains_fold {k : String} : (v.fold database reported).contains k ↔
    ∃ name, reported.contains name ∧ Text.lower name = k :=
  Schema.contains_of_perm (v.perm database reported)

/-- **What a visit makes of a schema** is merged from all that is reported for it. -/
theorem mergedFrom_fold (v : Visiting) (database : String) (reported : NameMap Schema)
    (schema : String) : ((v.fold database reported).getD (Text.lower schema) ∅).MergedFrom
      (Schema.Reports reported schema) :=
  Schema.mergedFrom_of_perm (v.perm database reported) schema

end Visiting

end ProxyCatalog
