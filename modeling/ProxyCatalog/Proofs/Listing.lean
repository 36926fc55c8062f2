import ProxyCatalog.Pool.Switch

/-!
# What a map lists

A change of a finite map rearranges the list of its entries. The statements here say which entries
come and go, up to the order of the list, so that things held by the values of a map can be counted
through a change.

* `entries_insert_perm`, `entries_perm_of_get?`: an entry put into a map stands beside the rest.
* `entries_overlay_perm`, `entries_filter_perm`: a map put over another, and a map split in two.
* `Switch.handles_apply_perm`: a switch of pools neither loses nor invents a pool. What runs
  afterwards and what is retired is what ran before and what was opened.
-/

namespace ProxyCatalog

namespace NameMap

variable {α : Type}

theorem keys_nodup (m : NameMap α) : m.keys.Nodup := by
  refine List.Pairwise.imp (fun {a b} hlt he => ?_) (List.pairwise_map.2 m.sorted)
  exact String.lt_irrefl b (he ▸ hlt)

/-- The first name is the least one. -/
theorem head?_keys_eq_some_iff {m : NameMap α} {k : String} :
    m.keys.head? = some k ↔ m.contains k ∧ ∀ x, m.contains x → x ≠ k → k < x := by
  have hsorted : m.keys.Pairwise (· < ·) := List.pairwise_map.2 m.sorted
  simp only [← mem_keys_iff]
  constructor
  · intro h
    obtain ⟨rest, hkeys⟩ := List.head?_eq_some_iff.1 h
    rw [hkeys, List.pairwise_cons] at hsorted
    rw [hkeys]
    refine ⟨List.mem_cons_self, fun x hx hne => ?_⟩
    exact hsorted.1 x ((List.mem_cons.1 hx).resolve_left hne)
  · rintro ⟨hk, hleast⟩
    cases hkeys : m.keys with
    | nil => rw [hkeys] at hk; cases hk
    | cons x rest =>
      rw [hkeys] at hk hleast hsorted
      rw [List.pairwise_cons] at hsorted
      by_cases hx : x = k
      · rw [hx, List.head?_cons]
      · -- The first name would be greater than this one.
        have hlt := hsorted.1 k ((List.mem_cons.1 hk).resolve_left (Ne.symm hx))
        exact absurd (hleast x List.mem_cons_self hx) (String.lt_asymm hlt)

theorem entries_nodup (m : NameMap α) : m.entries.Nodup :=
  List.Pairwise.of_map Prod.fst (fun _ _ h e => h (congrArg _ e)) m.keys_nodup

/-- Two lists without repetition that a map and its look-ups describe alike are permutations. -/
private theorem entries_perm {m : NameMap α} {l : List (String × α)} (hl : l.Nodup)
    (h : ∀ k v, (k, v) ∈ l ↔ m.get? k = some v) : m.entries.Perm l :=
  (List.perm_ext_iff_of_nodup m.entries_nodup hl).2 fun e => by
    rw [← Prod.eta e, mem_entries_iff, h]

theorem mem_values_iff {m : NameMap α} {v : α} : v ∈ m.values ↔ ∃ k, m.get? k = some v := by
  rw [values, List.mem_map]
  constructor
  · rintro ⟨⟨k, w⟩, h, rfl⟩; exact ⟨k, mem_entries_iff.1 h⟩
  · rintro ⟨k, h⟩; exact ⟨(k, v), mem_entries_iff.2 h, rfl⟩

/-- What the map of a list finds is in the list. -/
theorem mem_of_get?_ofList {l : List (String × α)} {k : String} {v : α}
    (h : (ofList l).get? k = some v) : (k, v) ∈ l := by
  have hlist : ∀ x w, (ofList l).get? x = some w → (x, w) ∈ l := by
    refine List.foldlRecOn l (motive := fun m => ∀ x w, get? m x = some w → (x, w) ∈ l) _
      (fun _ _ hx => by cases hx) fun m hm e he x w hx => ?_
    rw [get?_insert] at hx
    split at hx
    · next hk => exact hk ▸ Option.some.inj hx ▸ he
    · exact hm x w hx
  exact hlist k v h

/-- The names of the map of a list are those in the list. -/
theorem contains_ofList {l : List (String × α)} {k : String} :
    (ofList l).contains k ↔ k ∈ l.map Prod.fst := by
  have hlist (m : NameMap α) :
      (l.foldl (fun m e => m.insert e.1 e.2) m).contains k ↔ m.contains k ∨ k ∈ l.map Prod.fst := by
    induction l generalizing m with
    | nil => simp
    | cons e l ih =>
      rw [List.foldl_cons, ih, contains_insert, List.map_cons, List.mem_cons, eq_comm, or_assoc,
        or_left_comm]
  rw [ofList, hlist]
  exact ⟨fun h => h.resolve_left Bool.false_ne_true, .inr⟩

theorem contains_overlay (m n : NameMap α) (k : String) :
    (m.overlay n).contains k ↔ m.contains k ∨ n.contains k := by
  rw [contains, get?_overlay, Option.isSome_or, Bool.or_eq_true]
  exact or_comm

/-- A value of a map whose entries were renamed was there before. -/
theorem get?_of_get?_rekey {m : NameMap α} {f : String → String} {k : String} {v : α}
    (h : (m.rekey f).get? k = some v) : ∃ k', m.get? k' = some v := by
  obtain ⟨⟨k', v'⟩, he, heq⟩ := List.mem_map.1 (mem_of_get?_ofList h)
  obtain ⟨-, rfl⟩ := Prod.mk.inj heq
  exact ⟨k', mem_entries_iff.1 he⟩

theorem entries_insert_perm (m : NameMap α) (k : String) (v : α) :
    (m.insert k v).entries.Perm ((k, v) :: (m.erase k).entries) := by
  refine entries_perm (List.nodup_cons.2 ⟨?_, entries_nodup _⟩) fun x w => ?_
  · rw [mem_entries_iff, get?_erase_self]
    exact nofun
  · rw [List.mem_cons, mem_entries_iff, get?_erase, get?_insert]
    by_cases hx : k = x
    · subst hx; simp [eq_comm]
    · simp [hx, Ne.symm hx]

theorem entries_perm_of_get? {m : NameMap α} {k : String} {v : α} (h : m.get? k = some v) :
    m.entries.Perm ((k, v) :: (m.erase k).entries) := by
  have hm : m.insert k v = m := by
    ext x
    rw [get?_insert]
    split
    · next hx => rw [← hx, h]
    · rfl
  have := m.entries_insert_perm k v
  rwa [hm] at this

theorem erase_eq_self {m : NameMap α} {k : String} (h : m.get? k = none) : m.erase k = m := by
  ext x
  rw [get?_erase]
  split
  · next hx => rw [← hx, h]
  · rfl

theorem entries_filter_perm (m : NameMap α) (p : String → α → Bool) :
    m.entries.Perm ((m.filter p).entries ++ (m.filter fun k v => !p k v).entries) :=
  (List.filter_append_perm (fun e : String × α => p e.1 e.2) m.entries).symm

theorem entries_overlay_perm {m n : NameMap α} (h : ∀ k, m.contains k → n.get? k = none) :
    (m.overlay n).entries.Perm (m.entries ++ n.entries) := by
  refine entries_perm (List.nodup_append.2 ⟨m.entries_nodup, n.entries_nodup, ?_⟩) fun k v => ?_
  · rintro ⟨k, v⟩ hm ⟨k', v'⟩ hn he
    cases he
    have hk := h k (by rw [contains, mem_entries_iff.1 hm]; rfl)
    rw [mem_entries_iff.1 hn] at hk
    cases hk
  · rw [List.mem_append, mem_entries_iff, mem_entries_iff, get?_overlay, Option.or_eq_some_iff]
    constructor
    · rintro (hm | hn)
      · exact .inr ⟨h k (by rw [contains, hm]; rfl), hm⟩
      · exact .inl hn
    · rintro (hn | ⟨-, hm⟩)
      · exact .inr hn
      · exact .inl hm

end NameMap

/-! ### Pools and their switches -/

namespace Pools

/-- The handles of all pools. -/
def handles (p : Pools) : List PoolHandle :=
  p.values.map StorageUnit.handle

theorem handles_eq_map (p : Pools) : handles p = p.entries.map fun e => e.2.handle :=
  List.map_map

theorem mem_handles_iff {p : Pools} {h : PoolHandle} :
    h ∈ handles p ↔ ∃ name u, p.get? name = some u ∧ u.handle = h := by
  simp only [handles, List.mem_map, NameMap.mem_values_iff]
  constructor
  · rintro ⟨u, ⟨name, hu⟩, rfl⟩; exact ⟨name, u, hu, rfl⟩
  · rintro ⟨name, u, hu, rfl⟩; exact ⟨u, ⟨name, hu⟩, rfl⟩

theorem handles_insert_perm {p : Pools} {name : String} (h : p.get? name = none)
    (u : StorageUnit) : (handles (p.insert name u)).Perm (u.handle :: handles p) := by
  have hperm := (NameMap.entries_insert_perm p name u).map fun e => e.2.handle
  rw [NameMap.erase_eq_self h] at hperm
  simpa only [handles_eq_map, List.map_cons] using hperm

theorem handles_perm_of_get? {p : Pools} {name : String} {u : StorageUnit}
    (h : p.get? name = some u) : (handles p).Perm (u.handle :: handles (p.erase name)) := by
  simpa only [handles_eq_map, List.map_cons] using
    (NameMap.entries_perm_of_get? h).map fun e => e.2.handle

end Pools

namespace Switch

variable {current opened : Pools} {proposed : NameMap PoolSpec} {mode : SwitchMode}

/-- A switch keeps the current pools that its plan does not retire, and puts the opened ones over
them. -/
theorem apply_eq_overlay (current opened : Pools) (plan : SwitchPlan) :
    (Switch.mk opened (staleUnits current plan)).apply current =
      (current.filter fun name _ => !plan.stale.contains name).overlay opened := by
  refine NameMap.ext fun name => ?_
  rw [apply, Pools.get?_switched, NameMap.get?_overlay, NameMap.get?_filter]
  congr 1
  cases hc : current.get? name with
  | none => simp
  | some u =>
    have hmem : name ∈ (staleUnits current plan).keys ↔ name ∈ plan.stale := by
      rw [NameMap.mem_keys_iff, NameMap.contains, get?_staleUnits, hc]
      by_cases h : name ∈ plan.stale <;> simp [h]
    by_cases h : name ∈ plan.stale <;> simp [Option.filter, hmem, h]

/-- The pools after a switch, name by name. -/
theorem get?_apply (current opened : Pools) (plan : SwitchPlan) (name : String) :
    ((Switch.mk opened (staleUnits current plan)).apply current).get? name =
      (opened.get? name).or (if name ∈ plan.stale then none else current.get? name) := by
  rw [apply_eq_overlay, NameMap.get?_overlay, NameMap.get?_filter]
  congr 1
  cases current.get? name <;> by_cases h : name ∈ plan.stale <;> simp [Option.filter, h]

/-- A pool opened under the name of a current one takes the place of a retired one. -/
theorem mem_stale_of_created {name : String} {u : StorageUnit} {spec : PoolSpec}
    (hcurrent : current.get? name = some u)
    (hcreated : (SwitchPlan.compute current.specs proposed mode).created.get? name = some spec) :
    name ∈ (SwitchPlan.compute current.specs proposed mode).stale := by
  have hspec : current.specs.get? name = some u.spec := by rw [Pools.get?_specs, hcurrent]; rfl
  rw [SwitchPlan.get?_created, hspec] at hcreated
  split at hcreated
  · cases hcreated
  · next hne =>
    rw [SwitchPlan.mem_stale_iff, hspec, hcreated]
    refine ⟨u.spec, rfl, fun he => hne ?_⟩
    rw [hcreated, he]

/-- **A switch keeps the books.** The pools after it and those that it retires are the pools before
it and those that were opened. -/
theorem handles_apply_perm
    (h : ∀ name, opened.contains name →
      (SwitchPlan.compute current.specs proposed mode).created.contains name) :
    let sw : Switch := ⟨opened, staleUnits current (.compute current.specs proposed mode)⟩
    (Pools.handles (sw.apply current) ++ Pools.handles sw.stale).Perm
      (Pools.handles current ++ Pools.handles opened) := by
  intro sw
  let plan := SwitchPlan.compute current.specs proposed mode
  let kept := current.filter fun name _ => !plan.stale.contains name
  -- A pool is kept if its name is not stale, and opened only under a stale or a new name.
  have hdisjoint : ∀ name, kept.contains name → opened.get? name = none := by
    intro name hk
    rw [NameMap.contains, NameMap.get?_filter] at hk
    cases hc : current.get? name with
    | none => rw [hc] at hk; cases hk
    | some u =>
      cases ho : opened.get? name with
      | none => rfl
      | some v =>
        obtain ⟨spec, hspec⟩ :=
          Option.isSome_iff_exists.1 (h name (by rw [NameMap.contains, ho]; rfl))
        have hstale := mem_stale_of_created hc hspec
        simp [hc, Option.filter, plan, hstale] at hk
  have happly : (sw.apply current).entries.Perm (kept.entries ++ opened.entries) := by
    rw [apply_eq_overlay]
    exact NameMap.entries_overlay_perm hdisjoint
  have hsplit : current.entries.Perm (sw.stale.entries ++ kept.entries) :=
    current.entries_filter_perm fun name _ => plan.stale.contains name
  have hentries : ((sw.apply current).entries ++ sw.stale.entries).Perm
      (current.entries ++ opened.entries) :=
    calc ((sw.apply current).entries ++ sw.stale.entries)
      _ |>.Perm ((kept.entries ++ opened.entries) ++ sw.stale.entries) := happly.append_right _
      _ |>.Perm (sw.stale.entries ++ (kept.entries ++ opened.entries)) := List.perm_append_comm
      _ |>.Perm (current.entries ++ opened.entries) := by
        rw [← List.append_assoc]
        exact hsplit.symm.append_right _
  simpa only [Pools.handles_eq_map, List.map_append] using hentries.map fun e => e.2.handle

end Switch

end ProxyCatalog
