import ProxyCatalog.NameMap
import ProxyCatalog.Text.Fold

/-!
# Routes of single tables

Which pool holds a table that nothing distributes, by folded schema name and folded table name.
Views share the names of tables here. A schema without routes has no entry of its own after
`Routes.remove`.
-/

namespace ProxyCatalog

/-- Pools by schema and table, all names but those of the pools folded. -/
abbrev Routes : Type := NameMap (NameMap String)

namespace Routes

/-- The pool under two names taken as they are. -/
def at? (r : Routes) (schema table : String) : Option String :=
  (r.get? schema).bind (·.get? table)

/-- The pool that holds a table, the names in any spelling. -/
def find? (r : Routes) (schema table : String) : Option String :=
  r.at? (Text.lower schema) (Text.lower table)

/-- Routes a table to a pool, in place of the pool it was routed to. -/
def put (r : Routes) (schema table pool : String) : Routes :=
  r.insert schema ((r.getD schema ∅).insert table pool)

/-- Routes a table to a pool unless it is routed already. -/
def putNew (r : Routes) (schema table pool : String) : Routes :=
  if (r.at? schema table).isSome then r else r.put schema table pool

/-- Forgets a table, the names in any spelling. -/
def remove (r : Routes) (schema table : String) : Routes :=
  let key := Text.lower schema
  match r.get? key with
  | none => r
  | some tables =>
    let rest := tables.erase (Text.lower table)
    if rest.isEmpty then r.erase key else r.insert key rest

theorem at?_put (r : Routes) (schema table pool s t : String) :
    (r.put schema table pool).at? s t =
      if schema = s ∧ table = t then some pool else r.at? s t := by
  by_cases hs : schema = s
  · subst hs
    by_cases ht : table = t
    · subst ht; simp [put, at?]
    · cases h : r.get? schema <;>
        simp [put, at?, NameMap.get?_insert, NameMap.getD, ht, h]
  · simp [put, at?, NameMap.get?_insert, hs]

theorem at?_putNew (r : Routes) (schema table pool s t : String) :
    (r.putNew schema table pool).at? s t =
      if schema = s ∧ table = t then (r.at? s t).or (some pool) else r.at? s t := by
  unfold putNew
  split
  · next h =>
    split
    · next hst =>
      obtain ⟨rfl, rfl⟩ := hst
      obtain ⟨p, hp⟩ := Option.isSome_iff_exists.1 h
      simp [hp]
    · rfl
  · next h =>
    rw [at?_put]
    split
    · next hst => obtain ⟨rfl, rfl⟩ := hst; simp [Option.not_isSome_iff_eq_none.1 h]
    · rfl

theorem at?_remove (r : Routes) (schema table s t : String) :
    (r.remove schema table).at? s t =
      if Text.lower schema = s ∧ Text.lower table = t then none else r.at? s t := by
  simp only [remove]
  split
  · next h =>
    by_cases hs : Text.lower schema = s
    · subst hs; simp [at?, h]
    · simp [hs]
  · next tables h =>
    split
    · next he =>
      by_cases hs : Text.lower schema = s
      · subst hs
        have hx : (tables.erase (Text.lower table)).get? t = none := by
          rw [NameMap.isEmpty_iff.1 he]; rfl
        rw [NameMap.get?_erase] at hx
        by_cases ht : Text.lower table = t
        · simp [at?, ht]
        · rw [if_neg ht] at hx; simp [at?, ht, h, hx]
      · simp [at?, hs, NameMap.get?_erase]
    · by_cases hs : Text.lower schema = s
      · subst hs
        by_cases ht : Text.lower table = t <;>
          simp [at?, ht, h, NameMap.get?_erase]
      · simp [at?, hs, NameMap.get?_insert]

end Routes

end ProxyCatalog
