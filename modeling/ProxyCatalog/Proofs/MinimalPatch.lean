import ProxyCatalog.Proofs.Standstill
import ProxyCatalog.Proofs.Unanimity

/-!
# The difference of two schemas as a patch

A schema is brought from its current version to a proposed one by taking out names and putting
objects. There are many choices of what to take out and what to put that do this, and most of them
put what is there already, or take out what is put again. The difference of the two versions is the
one choice without anything idle in it.

* `NameMap.Minimal`: no name is both put and taken out, nothing is put that is there already, and
  nothing is taken out but what is there and not proposed.
* `NameMap.Minimal.get?_added`, `NameMap.Minimal.get?_deleted`: what is minimal and leads to the
  proposed map is known under every name.
* `SchemaDelta.MinimalPatch`: a difference that leads from one schema to another and is minimal in
  its tables and in its views.
* `SchemaDelta.between_of_perm`: the difference does not depend on the order in which the objects of
  both versions are visited.
* `SchemaDelta.between_minimal`: it is the one minimal patch, and it is empty exactly if the two
  versions are the same.
-/

namespace ProxyCatalog

/-! ### Patches of a map -/

namespace NameMap

variable {α : Type} {added deleted proposed current : NameMap α} {k : String} {v : α}

/-- Entries to put and entries to take out are **minimal** between a proposed and a current map if
none of them is idle. -/
structure Minimal (added deleted proposed current : NameMap α) : Prop where
  /-- No name is put and taken out. -/
  apart : ∀ k, added.contains k = true → deleted.contains k = false
  /-- What is put is missing from the current map, or has another value there. -/
  missing_or_changed : ∀ k v, added.get? k = some v → current.get? k ≠ some v
  /-- What is taken out is an entry of the current map, under a name that is not proposed. -/
  present_and_gone : ∀ k v, deleted.get? k = some v →
    current.get? k = some v ∧ proposed.contains k = false

/-- With the names of `deleted` taken out and the entries of `added` put, the current map
**becomes** the proposed one. -/
def Becomes (added deleted proposed current : NameMap α) : Prop :=
  ∀ k, (added.get? k).or (if k ∈ deleted.keys then none else current.get? k) = proposed.get? k

/-- A minimal patch puts the proposed entries that are not there. -/
theorem Minimal.get?_added (h : Minimal added deleted proposed current)
    (hbecomes : Becomes added deleted proposed current) :
    added.get? k = some v ↔ proposed.get? k = some v ∧ current.get? k ≠ some v := by
  have hk := hbecomes k
  constructor
  · intro hadded
    rw [hadded, Option.some_or] at hk
    exact ⟨hk.symm, h.missing_or_changed k v hadded⟩
  · rintro ⟨hproposed, hcurrent⟩
    rw [hproposed] at hk
    cases hadded : added.get? k with
    | some w =>
      rw [hadded, Option.some_or] at hk
      exact hk
    | none =>
      -- Nothing is put, so the value would have been there before.
      rw [hadded, Option.none_or] at hk
      split at hk
      · cases hk
      · exact absurd hk hcurrent

/-- A minimal patch takes out the current entries under names that are not proposed. -/
theorem Minimal.get?_deleted (h : Minimal added deleted proposed current)
    (hbecomes : Becomes added deleted proposed current) :
    deleted.get? k = some v ↔ current.get? k = some v ∧ proposed.get? k = none := by
  have hk := hbecomes k
  constructor
  · intro hdeleted
    obtain ⟨hcurrent, hproposed⟩ := h.present_and_gone k v hdeleted
    exact ⟨hcurrent, Option.isNone_iff_eq_none.1 (Option.isSome_eq_false_iff.1 hproposed)⟩
  · rintro ⟨hcurrent, hproposed⟩
    rw [hproposed, Option.or_eq_none_iff, hcurrent] at hk
    -- The value is there before and not after, and nothing is put in its place.
    have hmem : k ∈ deleted.keys := by
      refine Decidable.by_contra fun hmem => ?_
      rw [if_neg hmem] at hk
      cases hk.2
    obtain ⟨w, hw⟩ := Option.isSome_iff_exists.1 (mem_keys_iff.1 hmem)
    rw [hw, ← hcurrent, (h.present_and_gone k w hw).1]

/-- There is at most one minimal patch. -/
theorem Minimal.unique {added' deleted' : NameMap α} (h : Minimal added deleted proposed current)
    (hbecomes : Becomes added deleted proposed current)
    (h' : Minimal added' deleted' proposed current)
    (hbecomes' : Becomes added' deleted' proposed current) :
    added = added' ∧ deleted = deleted' := by
  constructor
  · ext k v
    rw [h.get?_added hbecomes, h'.get?_added hbecomes']
  · ext k v
    rw [h.get?_deleted hbecomes, h'.get?_deleted hbecomes']

variable [DecidableEq α]

theorem minimal_filter (proposed current : NameMap α) :
    Minimal (proposed.filter fun k v => current.get? k != some v)
      (current.filter fun k _ => !proposed.contains k) proposed current where
  apart k hk := by
    obtain ⟨v, hv⟩ := Option.isSome_iff_exists.1 hk
    rw [get?_filter, Option.filter_eq_some_iff] at hv
    rw [contains, get?_filter, contains, hv.1, Option.isSome_some, Bool.not_true]
    cases current.get? k <;> rfl
  missing_or_changed k v hv := by
    rw [get?_filter, Option.filter_eq_some_iff, bne_iff_ne] at hv
    exact hv.2
  present_and_gone k v hv := by
    rw [get?_filter, Option.filter_eq_some_iff, Bool.not_eq_true'] at hv
    exact hv

theorem becomes_filter (proposed current : NameMap α) :
    Becomes (proposed.filter fun k v => current.get? k != some v)
      (current.filter fun k _ => !proposed.contains k) proposed current := by
  intro k
  simp only [mem_keys_iff, contains, get?_filter]
  cases proposed.get? k with
  | none => cases current.get? k <;> simp
  | some v =>
    rw [Option.filter_some]
    split
    · rfl
    · next hsame =>
      rw [Bool.not_eq_true, bne_eq_false_iff_eq] at hsame
      rw [hsame]
      rfl

end NameMap

/-! ### Patches of a schema -/

namespace SchemaDelta

/-- A difference is a **minimal patch** from one schema to another. -/
structure MinimalPatch (d : SchemaDelta) (proposed current : Schema) : Prop where
  /-- With the deleted names taken out and the added objects put, the current schema is the
  proposed one. -/
  carried_out : (current.without d.deleted).absorb d.added = proposed
  tables : d.added.tables.Minimal d.deleted.tables proposed.tables current.tables
  views : d.added.views.Minimal d.deleted.views proposed.views current.views

variable {d : SchemaDelta} {proposed current : Schema}

/-- A difference is carried out on the tables and on the views. -/
theorem carried_out_iff :
    (current.without d.deleted).absorb d.added = proposed ↔
      d.added.tables.Becomes d.deleted.tables proposed.tables current.tables ∧
        d.added.views.Becomes d.deleted.views proposed.views current.views := by
  have htables (k : String) : ((current.without d.deleted).absorb d.added).tables.get? k =
      (d.added.tables.get? k).or
        (if k ∈ d.deleted.tables.keys then none else current.tables.get? k) := by
    rw [Schema.tables_absorb, NameMap.get?_overlay, Schema.get?_tables_without]
  have hviews (k : String) : ((current.without d.deleted).absorb d.added).views.get? k =
      (d.added.views.get? k).or
        (if k ∈ d.deleted.views.keys then none else current.views.get? k) := by
    rw [Schema.views_absorb, NameMap.get?_overlay, Schema.get?_views_without]
  constructor
  · rintro rfl
    exact ⟨fun k => (htables k).symm, fun k => (hviews k).symm⟩
  · rintro ⟨ht, hv⟩
    exact Schema.ext (NameMap.ext fun k => (htables k).trans (ht k))
      (NameMap.ext fun k => (hviews k).trans (hv k))

/-- There is at most one minimal patch from one schema to another. -/
theorem MinimalPatch.unique {d' : SchemaDelta} (h : d.MinimalPatch proposed current)
    (h' : d'.MinimalPatch proposed current) : d = d' := by
  obtain ⟨ht, hv⟩ := carried_out_iff.1 h.carried_out
  obtain ⟨ht', hv'⟩ := carried_out_iff.1 h'.carried_out
  obtain ⟨haddedTables, hdeletedTables⟩ := h.tables.unique ht h'.tables ht'
  obtain ⟨haddedViews, hdeletedViews⟩ := h.views.unique hv h'.views hv'
  obtain ⟨added, deleted⟩ := d
  obtain ⟨added', deleted'⟩ := d'
  obtain rfl : added = added' := Schema.ext haddedTables haddedViews
  obtain rfl : deleted = deleted' := Schema.ext hdeletedTables hdeletedViews
  rfl

/-- The difference of two versions is a minimal patch. -/
theorem minimalPatch_between (proposed current : Schema) :
    (between proposed current).MinimalPatch proposed current where
  carried_out := by
    rw [carried_out_iff, tables_added, tables_deleted, views_added, views_deleted]
    exact ⟨NameMap.becomes_filter _ _, NameMap.becomes_filter _ _⟩
  tables := by
    rw [tables_added, tables_deleted]
    exact NameMap.minimal_filter _ _
  views := by
    rw [views_added, views_deleted]
    exact NameMap.minimal_filter _ _

/-- **The order does not matter** in which the tables and the views of both versions are visited. -/
theorem between_of_perm {changed missing : List Table} {changed' missing' : List View}
    (hchanged : changed.Perm (changedValues proposed.tables current.tables))
    (hchanged' : changed'.Perm (changedValues proposed.views current.views))
    (hmissing : missing.Perm (missingValues proposed.tables current.tables))
    (hmissing' : missing'.Perm (missingValues proposed.views current.views)) :
    (⟨.ofLists changed changed', .ofLists missing missing'⟩ : SchemaDelta) =
      between proposed current := by
  have hput {ts : List Table} {vs : List View} {s : Schema}
      (hts : ts.Perm s.tables.values) (hvs : vs.Perm s.views.values) : Schema.ofLists ts vs = s :=
    (Schema.absorb_of_perm ∅ s hts hvs).trans (Schema.empty_absorb s)
  have hadded : Schema.ofLists changed changed' = (between proposed current).added := by
    refine hput ?_ ?_
    · rw [tables_added]
      exact hchanged
    · rw [views_added]
      exact hchanged'
  have hdeleted : Schema.ofLists missing missing' = (between proposed current).deleted := by
    refine hput ?_ ?_
    · rw [tables_deleted]
      exact hmissing
    · rw [views_deleted]
      exact hmissing'
  rw [hadded, hdeleted]

/-- **The difference of two schemas is the one minimal patch** from the current version to the
proposed one. It is empty exactly if the versions are the same. -/
theorem between_minimal (proposed current : Schema) :
    (between proposed current).MinimalPatch proposed current ∧
      (∀ d : SchemaDelta, d.MinimalPatch proposed current → d = between proposed current) ∧
        ((between proposed current).isEmpty = true ↔ proposed = current) := by
  have hpatch := minimalPatch_between proposed current
  refine ⟨hpatch, fun d h => h.unique hpatch, ?_⟩
  constructor
  · intro hempty
    rw [isEmpty, Bool.and_eq_true, Schema.isEmpty_iff, Schema.isEmpty_iff] at hempty
    have hcarried := hpatch.carried_out
    rw [hempty.1, hempty.2] at hcarried
    exact hcarried.symm
  · rintro rfl
    rw [between_self]
    rfl

end SchemaDelta

end ProxyCatalog
