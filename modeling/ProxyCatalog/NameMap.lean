/-!
# Finite maps from names

`NameMap α` maps finitely many names to values. The entries are kept in the order of the names by
code points, which is the order in which every answer lists them, and a name occurs once; so two
maps with the same look-ups are the same map (`NameMap.ext`). Every operation is described by its
effect on `get?`, and reasoning about maps goes through these look-up equations.

* `insert`, `erase`, `filter`, `mapValues`, `overlay`, `rekey`: the operations, each followed by
  its look-up equation.
* `ofList`: a map from a list, which gives a map back from its entries (`ofList_entries`).
* `KeyedBy`: the entries of a map stand under names that their values bear.
* `update?`, `insertNew?`, `eraseOld?`: operations that fail, with `none`, where the name is
  missing or already taken.
-/

namespace ProxyCatalog

/-- A finite map from names to values, listed in code-point order of the names. -/
structure NameMap (α : Type) where
  /-- The entries in the order of their names. -/
  entries : List (String × α)
  /-- The names increase along the list, so none of them repeats. -/
  sorted : entries.Pairwise fun a b => a.1 < b.1
deriving DecidableEq

namespace NameMap

variable {α β : Type}

/-! ### Order of names -/

private theorem name_eq_of_not_lt {a b : String} (h : ¬ a < b) (h' : ¬ b < a) : a = b :=
  String.le_antisymm (String.not_lt.1 h') (String.not_lt.1 h)

private theorem name_ne_of_lt {a b : String} (h : a < b) : a ≠ b :=
  fun e => String.lt_irrefl b (e ▸ h)

/-! ### Look-up -/

/-- The value of a name. -/
def get? (m : NameMap α) (k : String) : Option α :=
  m.entries.lookup k

/-- The name has a value. -/
def contains (m : NameMap α) (k : String) : Bool :=
  (m.get? k).isSome

/-- The value of a name, or `d` where it has none. -/
def getD (m : NameMap α) (k : String) (d : α) : α :=
  (m.get? k).getD d

/-- The names, in order. -/
def keys (m : NameMap α) : List String :=
  m.entries.map Prod.fst

/-- The values, in the order of their names. -/
def values (m : NameMap α) : List α :=
  m.entries.map Prod.snd

/-- No entry. -/
def isEmpty (m : NameMap α) : Bool :=
  m.entries.isEmpty

/-- The first entry is looked at first. -/
theorem lookup_cons (k k' : String) (v : α) (l : List (String × α)) :
    ((k', v) :: l).lookup k = if k' = k then some v else l.lookup k := by
  rw [List.lookup_cons]
  split
  · next h => rw [if_pos (eq_of_beq h).symm]
  · next h => rw [if_neg fun e => ne_of_beq_false h e.symm]

/-- A name that no entry has is not found. -/
theorem lookup_eq_none {k : String} {l : List (String × α)} (h : ∀ e ∈ l, e.1 ≠ k) :
    l.lookup k = none :=
  List.lookup_eq_none_iff.2 fun e he => bne_iff_ne.2 (h e he).symm

private theorem mem_of_lookup {k : String} {v : α} {l : List (String × α)}
    (h : l.lookup k = some v) : (k, v) ∈ l := by
  obtain ⟨before, after, rfl, -⟩ := List.lookup_eq_some_iff.1 h
  exact List.mem_append_right before List.mem_cons_self

private theorem lookup_of_mem {k : String} {v : α} {l : List (String × α)}
    (hs : l.Pairwise fun a b => a.1 < b.1) (h : (k, v) ∈ l) : l.lookup k = some v := by
  obtain ⟨before, after, rfl⟩ := List.append_of_mem h
  refine List.lookup_eq_some_iff.2 ⟨before, after, rfl, fun e he => bne_iff_ne.2 ?_⟩
  exact (name_ne_of_lt ((List.pairwise_append.1 hs).2.2 e he _ List.mem_cons_self)).symm

/-- An entry is what a look-up finds. -/
theorem mem_entries_iff {m : NameMap α} {k : String} {v : α} :
    (k, v) ∈ m.entries ↔ m.get? k = some v :=
  ⟨lookup_of_mem m.sorted, mem_of_lookup⟩

theorem mem_keys_iff {m : NameMap α} {k : String} : k ∈ m.keys ↔ m.contains k = true := by
  simp only [keys, List.mem_map, contains, Option.isSome_iff_exists]
  constructor
  · rintro ⟨⟨k', v⟩, h, rfl⟩; exact ⟨v, mem_entries_iff.1 h⟩
  · rintro ⟨v, h⟩; exact ⟨(k, v), mem_entries_iff.2 h, rfl⟩

private theorem entries_eq {l l' : List (String × α)} (hs : l.Pairwise fun a b => a.1 < b.1)
    (hs' : l'.Pairwise fun a b => a.1 < b.1) (h : ∀ k, l.lookup k = l'.lookup k) : l = l' := by
  induction l generalizing l' with
  | nil =>
    cases l' with
    | nil => rfl
    | cons e r => have hf := h e.1; rw [lookup_cons, if_pos rfl] at hf; cases hf
  | cons e r ih =>
    cases l' with
    | nil => have hf := h e.1; rw [lookup_cons, if_pos rfl] at hf; cases hf
    | cons e' r' =>
      obtain ⟨k, v⟩ := e
      obtain ⟨k', v'⟩ := e'
      rw [List.pairwise_cons] at hs hs'
      -- Of two different first names, only one list has the smaller.
      have hk : k = k' := by
        refine name_eq_of_not_lt (fun hlt => ?_) (fun hlt => ?_)
        · have hf := h k
          rw [lookup_cons, if_pos rfl, lookup_cons, if_neg (name_ne_of_lt hlt).symm,
            lookup_eq_none] at hf
          · cases hf
          · exact fun e he => (name_ne_of_lt (String.lt_trans hlt (hs'.1 e he))).symm
        · have hf := h k'
          rw [lookup_cons, if_neg (name_ne_of_lt hlt).symm, lookup_eq_none, lookup_cons,
            if_pos rfl] at hf
          · cases hf
          · exact fun e he => (name_ne_of_lt (String.lt_trans hlt (hs.1 e he))).symm
      subst hk
      have hv : v = v' := by have hf := h k; simpa [lookup_cons] using hf
      subst hv
      congr 1
      -- The first name occurs in neither rest, and other names are looked up there.
      refine ih hs.2 hs'.2 fun x => ?_
      by_cases hx : k = x
      · subst hx
        rw [lookup_eq_none fun e he => (name_ne_of_lt (hs.1 e he)).symm,
          lookup_eq_none fun e he => (name_ne_of_lt (hs'.1 e he)).symm]
      · simpa [lookup_cons, hx] using h x

/-- **Extensionality.** A map is determined by its look-ups. -/
@[ext] theorem ext {m n : NameMap α} (h : ∀ k, m.get? k = n.get? k) : m = n := by
  obtain ⟨l, hl⟩ := m
  obtain ⟨l', hl'⟩ := n
  have := entries_eq hl hl' h
  subst this
  rfl

/-! ### The empty map -/

/-- The map without entries. -/
def empty : NameMap α :=
  ⟨[], .nil⟩

instance : EmptyCollection (NameMap α) := ⟨empty⟩

instance : Inhabited (NameMap α) := ⟨empty⟩

@[simp] theorem get?_empty (k : String) : (∅ : NameMap α).get? k = none := rfl

theorem isEmpty_iff {m : NameMap α} : m.isEmpty = true ↔ m = ∅ := by
  obtain ⟨l, hl⟩ := m
  cases l with
  | nil => exact ⟨fun _ => rfl, fun _ => rfl⟩
  | cons e r =>
    constructor
    · intro h; cases h
    · intro h; cases h

/-! ### Insertion -/

/-- Puts an entry at its place, over the one of the same name. -/
def insertEntry (k : String) (v : α) : List (String × α) → List (String × α)
  | [] => [(k, v)]
  | (k', v') :: r =>
    if k < k' then (k, v) :: (k', v') :: r
    else if k = k' then (k, v) :: r
    else (k', v') :: insertEntry k v r

private theorem mem_insertEntry {k : String} {v : α} {e : String × α} {l : List (String × α)}
    (h : e ∈ insertEntry k v l) : e = (k, v) ∨ e ∈ l := by
  induction l with
  | nil => simpa [insertEntry] using h
  | cons e' r ih =>
    obtain ⟨k', v'⟩ := e'
    simp only [insertEntry] at h
    split at h
    · simpa using h
    · split at h
      · rcases List.mem_cons.1 h with h | h
        · exact .inl h
        · exact .inr (List.mem_cons_of_mem _ h)
      · rcases List.mem_cons.1 h with h | h
        · exact .inr (by simp [h])
        · exact (ih h).imp_right (List.mem_cons_of_mem _)

private theorem sorted_insertEntry (k : String) (v : α) {l : List (String × α)}
    (hs : l.Pairwise fun a b => a.1 < b.1) :
    (insertEntry k v l).Pairwise fun a b => a.1 < b.1 := by
  induction l with
  | nil => simp [insertEntry]
  | cons e r ih =>
    obtain ⟨k', v'⟩ := e
    have hs' := List.pairwise_cons.1 hs
    simp only [insertEntry]
    split
    · next hlt =>
      refine List.pairwise_cons.2 ⟨fun e he => ?_, hs⟩
      rcases List.mem_cons.1 he with rfl | he
      · exact hlt
      · exact String.lt_trans hlt (hs'.1 e he)
    · next hnlt =>
      split
      · next heq => subst heq; exact List.pairwise_cons.2 ⟨hs'.1, hs'.2⟩
      · next hne =>
        refine List.pairwise_cons.2 ⟨fun e he => ?_, ih hs'.2⟩
        rcases mem_insertEntry he with rfl | he
        · refine Decidable.by_contra fun hge => hne ?_
          exact name_eq_of_not_lt hnlt hge
        · exact hs'.1 e he

private theorem lookup_insertEntry (k x : String) (v : α) (l : List (String × α)) :
    (insertEntry k v l).lookup x = if k = x then some v else l.lookup x := by
  induction l with
  | nil => exact lookup_cons x k v []
  | cons e r ih =>
    obtain ⟨k', v'⟩ := e
    simp only [insertEntry]
    split
    · exact lookup_cons x k v _
    · split
      · next heq => subst heq; simp only [lookup_cons]; split <;> rfl
      · next hne =>
        simp only [lookup_cons, ih]
        by_cases hx : k' = x
        · subst hx; simp [hne]
        · simp [hx]

/-- Gives the name a value, in place of the one it had. -/
def insert (m : NameMap α) (k : String) (v : α) : NameMap α :=
  ⟨insertEntry k v m.entries, sorted_insertEntry k v m.sorted⟩

theorem get?_insert (m : NameMap α) (k x : String) (v : α) :
    (m.insert k v).get? x = if k = x then some v else m.get? x :=
  lookup_insertEntry k x v m.entries

@[simp] theorem get?_insert_self (m : NameMap α) (k : String) (v : α) :
    (m.insert k v).get? k = some v := by
  simp [get?_insert]

theorem contains_insert {m : NameMap α} {k x : String} {v : α} :
    (m.insert k v).contains x ↔ k = x ∨ m.contains x := by
  rw [contains, get?_insert, contains]
  by_cases hk : k = x <;> simp [hk]

/-- The map of a list of entries, a later one over an earlier one of the same name. -/
def ofList (l : List (String × α)) : NameMap α :=
  l.foldl (fun m e => m.insert e.1 e.2) ∅

/-- The map with one entry. -/
def single (k : String) (v : α) : NameMap α :=
  insert ∅ k v

theorem get?_single (k x : String) (v : α) :
    (single k v).get? x = if k = x then some v else none := by
  rw [single, get?_insert, get?_empty]

/-! ### Selection -/

/-- The entries that satisfy a test. -/
def filter (m : NameMap α) (p : String → α → Bool) : NameMap α :=
  ⟨m.entries.filter fun e => p e.1 e.2, m.sorted.filter _⟩

private theorem lookup_filter (p : String → α → Bool) (k : String) {l : List (String × α)}
    (hs : l.Pairwise fun a b => a.1 < b.1) :
    (l.filter fun e => p e.1 e.2).lookup k = (l.lookup k).filter (p k) := by
  induction l with
  | nil => rfl
  | cons e r ih =>
    obtain ⟨k', v⟩ := e
    rw [List.pairwise_cons] at hs
    by_cases hk : k' = k
    · subst hk
      by_cases hp : p k' v = true
      · simp [hp, Option.filter]
      · have hn : r.lookup k' = none :=
          lookup_eq_none fun e he => (name_ne_of_lt (hs.1 e he)).symm
        simp [hp, ih hs.2, hn, Option.filter]
    · by_cases hp : p k' v = true
      · simp [lookup_cons, hp, hk, ih hs.2]
      · simp [hp, ih hs.2, lookup_cons, hk]

theorem get?_filter (m : NameMap α) (p : String → α → Bool) (k : String) :
    (m.filter p).get? k = (m.get? k).filter (p k) :=
  lookup_filter p k m.sorted

/-- Takes the name out of the map. -/
def erase (m : NameMap α) (k : String) : NameMap α :=
  m.filter fun k' _ => k' != k

theorem get?_erase (m : NameMap α) (k x : String) :
    (m.erase k).get? x = if k = x then none else m.get? x := by
  rw [erase, get?_filter]
  by_cases h : k = x
  · subst h; cases m.get? k <;> simp
  · have h' : x ≠ k := fun e => h e.symm
    cases m.get? x <;> simp [h, h']

@[simp] theorem get?_erase_self (m : NameMap α) (k : String) : (m.erase k).get? k = none := by
  simp [get?_erase]

/-! ### Maps keyed by their values -/

/-- Every entry stands under the name that its value bears. -/
def KeyedBy (m : NameMap α) (name : α → String) : Prop :=
  ∀ k v, m.get? k = some v → k = name v

theorem KeyedBy.empty (name : α → String) : (∅ : NameMap α).KeyedBy name :=
  fun _ _ h => by cases h

theorem KeyedBy.insert {m : NameMap α} {name : α → String} (h : m.KeyedBy name) (v : α) :
    (m.insert (name v) v).KeyedBy name := by
  intro k w hw
  rw [get?_insert] at hw
  split at hw
  · next hk => cases hw; exact hk.symm
  · exact h k w hw

theorem KeyedBy.erase {m : NameMap α} {name : α → String} (h : m.KeyedBy name) (x : String) :
    (m.erase x).KeyedBy name := by
  intro k v hv
  rw [get?_erase] at hv
  split at hv
  · cases hv
  · exact h k v hv

theorem KeyedBy.filter {m : NameMap α} {name : α → String} (h : m.KeyedBy name)
    (p : String → α → Bool) : (m.filter p).KeyedBy name := by
  intro k v hv
  rw [get?_filter, Option.filter_eq_some_iff] at hv
  exact h k v hv.1

/-! ### Change of the values -/

/-- Applies a function to every value, with its name. -/
def mapValues (m : NameMap α) (f : String → α → β) : NameMap β :=
  ⟨m.entries.map fun e => (e.1, f e.1 e.2), List.pairwise_map.2 (m.sorted.imp id)⟩

private theorem lookup_mapEntries (f : String → α → β) (k : String) (l : List (String × α)) :
    (l.map fun e => (e.1, f e.1 e.2)).lookup k = (l.lookup k).map (f k) := by
  induction l with
  | nil => rfl
  | cons e r ih =>
    obtain ⟨k', v⟩ := e
    by_cases hk : k' = k
    · subst hk; simp
    · simp [lookup_cons, hk, ih]

theorem get?_mapValues (m : NameMap α) (f : String → α → β) (k : String) :
    (m.mapValues f).get? k = (m.get? k).map (f k) :=
  lookup_mapEntries f k m.entries

/-! ### Several entries at once -/

/-- The entries of `n` over those of `m`. -/
def overlay (m n : NameMap α) : NameMap α :=
  n.entries.foldl (fun m e => m.insert e.1 e.2) m

private theorem get?_foldl_insert (k : String) {l : List (String × α)}
    (hs : l.Pairwise fun a b => a.1 < b.1) (m : NameMap α) :
    (l.foldl (fun m e => m.insert e.1 e.2) m).get? k = (l.lookup k).or (m.get? k) := by
  induction l generalizing m with
  | nil => rfl
  | cons e r ih =>
    obtain ⟨k', v⟩ := e
    rw [List.pairwise_cons] at hs
    rw [List.foldl_cons, ih hs.2, get?_insert]
    by_cases hk : k' = k
    · subst hk
      have hn : r.lookup k' = none :=
        lookup_eq_none fun e he => (name_ne_of_lt (hs.1 e he)).symm
      simp [hn]
    · simp [lookup_cons, hk]

theorem get?_overlay (m n : NameMap α) (k : String) :
    (m.overlay n).get? k = (n.get? k).or (m.get? k) :=
  get?_foldl_insert k n.sorted m

theorem empty_overlay (m : NameMap α) : overlay ∅ m = m :=
  ext fun k => by rw [get?_overlay, get?_empty, Option.or_none]

/-- The list of its entries gives the map back. -/
theorem ofList_entries (m : NameMap α) : ofList m.entries = m :=
  empty_overlay m

/-- Values put back one by one, under the names that they bear, give the map over which they are
put the entries of their own map. -/
theorem foldl_insert_values {m : NameMap α} {name : α → String} (h : m.KeyedBy name)
    (n : NameMap α) :
    m.values.foldl (fun n v => n.insert (name v) v) n = n.overlay m := by
  have hm : ∀ e ∈ m.entries, e.1 = name e.2 := fun e he => h e.1 e.2 (mem_entries_iff.1 he)
  simp only [values, overlay, List.foldl_map]
  generalize m.entries = l at hm
  induction l generalizing n with
  | nil => rfl
  | cons e r ih =>
    rw [List.foldl_cons, List.foldl_cons, hm e (by simp)]
    exact ih _ fun e he => hm e (by simp [he])

/-- Renames every entry; of entries that get one name, the last in the old order stays. -/
def rekey (m : NameMap α) (f : String → String) : NameMap α :=
  ofList (m.entries.map fun e => (f e.1, e.2))

/-- A map whose names all keep themselves is renamed to itself. -/
theorem rekey_eq_self {m : NameMap α} {f : String → String} (h : ∀ k ∈ m.keys, f k = k) :
    m.rekey f = m := by
  have hm : (m.entries.map fun e => (f e.1, e.2)) = m.entries.map id := by
    refine List.map_congr_left fun e he => ?_
    rw [h e.1 (List.mem_map_of_mem he), id]
  rw [rekey, hm, List.map_id, ofList_entries]

/-! ### Operations that may not apply -/

/-- Changes the value of a name that has one; `none` if it has none or `f` refuses the value. -/
def update? (m : NameMap α) (k : String) (f : α → Option α) : Option (NameMap α) := do
  let v ← m.get? k
  let v' ← f v
  return m.insert k v'

/-- Gives a value to a name that has none. -/
def insertNew? (m : NameMap α) (k : String) (v : α) : Option (NameMap α) :=
  if m.contains k then none else some (m.insert k v)

theorem insertNew?_eq_some {m m' : NameMap α} {k : String} {v : α} :
    m.insertNew? k v = some m' ↔ ¬ m.contains k ∧ m.insert k v = m' := by
  rw [insertNew?]
  split
  · next h => simp [h]
  · next h => simp [h]

/-- Takes out a name that has a value. -/
def eraseOld? (m : NameMap α) (k : String) : Option (NameMap α) :=
  if m.contains k then some (m.erase k) else none

theorem eraseOld?_eq_some {m m' : NameMap α} {k : String} :
    m.eraseOld? k = some m' ↔ m.contains k ∧ m.erase k = m' := by
  rw [eraseOld?]
  split
  · next h => simp [h]
  · next h => simp [h]

end NameMap

/-- A finite set of names, in code-point order. -/
abbrev NameSet : Type := NameMap Unit

namespace NameSet

/-- The set of the names in a list. -/
def ofNames (names : List String) : NameSet :=
  NameMap.ofList (names.map fun n => (n, ()))

end NameSet

end ProxyCatalog
