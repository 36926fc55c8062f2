import Mathlib.Data.List.Nodup
import ProxyCatalog.Proofs.Accounts

/-!
# The life of a pool

A pool is opened, is then a pool of one installed database, and is at last retired. Over whole runs
nothing else becomes of it, whatever mutations fail or succeed: no pool is lost, none is retired
twice, and none is put back after it was retired. This is read off the accounts of pools, in which
everything that was opened occurs once.

* `pool_lifecycle`: what is true of every pool in every world that is reached, and from then on.
-/

namespace ProxyCatalog

open Event

/-- How often a pool was retired: closed, or scheduled to be closed. -/
def Site.retirements (s : Site) (p : PoolHandle) : Nat :=
  s.journal.count (closed p) + s.scheduled.count p

theorem Site.count_retired (s : Site) (p : PoolHandle) : s.retired.count p = s.retirements p := by
  rw [retired, List.count_append, count_closes, retirements]

namespace World

/-- The pool stands at a **place** of the installed snapshot: in a database, under a name. -/
def Holds (w : World) (p : PoolHandle) (place : String × String) : Prop :=
  ∃ d u, w.proxy.snapshot.catalog.databases.get? place.1 = some d ∧
    d.pools.get? place.2 = some u ∧ u.handle = p

variable {w : World} {p : PoolHandle}

theorem mem_held_iff : p ∈ w.held ↔ ∃ place, w.Holds p place := by
  rw [held, Database.mem_handlesOf_iff]
  constructor
  · rintro ⟨name, d, hd, hp⟩
    obtain ⟨pool, u, hu, he⟩ := Pools.mem_handles_iff.1 hp
    exact ⟨(name, pool), d, u, hd, hu, he⟩
  · rintro ⟨⟨name, pool⟩, d, u, hd, hu, he⟩
    exact ⟨name, d, hd, Pools.mem_handles_iff.2 ⟨pool, u, hu, he⟩⟩

/-- A pool that is held once stands at one place. -/
theorem Holds.unique (hn : w.held.Nodup) {place place' : String × String} (h : w.Holds p place)
    (h' : w.Holds p place') : place = place' := by
  obtain ⟨name, pool⟩ := place
  obtain ⟨name', pool'⟩ := place'
  obtain ⟨d, u, hd, hu, he⟩ := h
  obtain ⟨d', u', hd', hu', he'⟩ := h'
  have hsplit := (Database.handlesOf_perm_of_get? hd).nodup_iff.1 hn
  have hp : p ∈ Pools.handles d.pools := Pools.mem_handles_iff.2 ⟨pool, u, hu, he⟩
  -- Another database that held the pool would hold it a second time.
  have hname : name = name' := by
    by_contra hne
    refine List.disjoint_of_nodup_append hsplit hp (Database.mem_handlesOf_iff.2 ?_)
    refine ⟨name', d', ?_, Pools.mem_handles_iff.2 ⟨pool', u', hu', he'⟩⟩
    rwa [NameMap.get?_erase, if_neg hne]
  subst hname
  obtain rfl := Option.some.inj (hd.symm.trans hd')
  have hpools := (Pools.handles_perm_of_get? hu).nodup_iff.1 (List.nodup_append.1 hsplit).1
  have hpool : pool = pool' := by
    by_contra hne
    refine (List.nodup_cons.1 hpools).1 (Pools.mem_handles_iff.2 ⟨pool', u', ?_, he'.trans he.symm⟩)
    rwa [NameMap.get?_erase, if_neg hne]
  rw [hpool]

namespace Balanced

variable (hw : w.Balanced)
include hw

theorem nodup : (w.held ++ w.site.retired).Nodup :=
  hw.books.nodup_iff.2 hw.numbered.nodup

theorem not_holds (hp : w.site.retirements p ≠ 0) (place : String × String) :
    ¬ w.Holds p place := by
  intro h
  rw [← Site.count_retired] at hp
  exact List.disjoint_of_nodup_append hw.nodup (mem_held_iff.2 ⟨place, h⟩)
    (List.count_pos_iff.1 (Nat.pos_of_ne_zero hp))

theorem retirements_le_one (p : PoolHandle) : w.site.retirements p ≤ 1 := by
  rw [← Site.count_retired]
  exact List.nodup_iff_count_le_one.1 (List.nodup_append.1 hw.nodup).2.1 p

/-- A pool that was opened is held at one place, or it was retired once. -/
theorem held_or_retired (hp : opened p ∈ w.site.journal) :
    (w.site.retirements p = 0 ∧ ∃ place, ∀ place', w.Holds p place' ↔ place' = place) ∨
      (w.site.retirements p = 1 ∧ ∀ place, ¬ w.Holds p place) := by
  rcases List.mem_append.1 (hw.books.mem_iff.2 (mem_opens.2 hp)) with hheld | hretired
  · left
    obtain ⟨place, hplace⟩ := mem_held_iff.1 hheld
    have hnodup := (List.nodup_append.1 hw.nodup).1
    refine ⟨?_, place, fun place' => ⟨fun h => h.unique hnodup hplace, fun h => h ▸ hplace⟩⟩
    by_contra hne
    exact hw.not_holds hne place hplace
  · right
    have hpos : 0 < w.site.retirements p := by
      rw [← Site.count_retired]
      exact List.count_pos_iff.2 hretired
    exact ⟨Nat.le_antisymm (hw.retirements_le_one p) hpos, hw.not_holds (Nat.ne_of_gt hpos)⟩

end Balanced

/-- What was retired at some time is so ever after. -/
theorem Reachable.retirements_after (hw : w.Reachable) (later : List Move) :
    w.site.retirements p ≤ (w.after later).site.retirements p := by
  obtain ⟨gone, hgone⟩ := hw.retired_after later
  rw [← Site.count_retired, ← Site.count_retired, hgone.count_eq, List.count_append]
  exact Nat.le_add_right _ _

/-- **The life of a pool.** In every world that is reached, a pool that was ever opened stands at
one place of the installed snapshot and was not retired, or stands nowhere and was retired once. No
pool is retired twice, and one that was retired stands nowhere from then on, whatever moves come
later. -/
theorem pool_lifecycle (hw : w.Reachable) :
    (∀ p, opened p ∈ w.site.journal →
      (w.site.retirements p = 0 ∧ ∃ place, ∀ place', w.Holds p place' ↔ place' = place) ∨
        (w.site.retirements p = 1 ∧ ∀ place, ¬ w.Holds p place)) ∧
      (∀ p, w.site.retirements p ≤ 1) ∧
        ∀ p later, w.site.retirements p ≠ 0 →
          ∀ place, ¬ (w.after later).Holds p place := by
  refine ⟨fun p hp => hw.balanced.held_or_retired hp, hw.balanced.retirements_le_one,
    fun p later hp => (hw.after later).balanced.not_holds ?_⟩
  have hle := hw.retirements_after (p := p) later
  omega

/-- The pool of a dropped database is retired, and is not seen again. -/
theorem dropped_pool_retired :
    let w := Sample.world.after [.mutate (.dropDatabase "foo_db")]
    opened ⟨"ds_0", 1⟩ ∈ w.site.journal ∧ w.site.retirements ⟨"ds_0", 1⟩ = 1 ∧
      ∀ later place, ¬ (w.after later).Holds ⟨"ds_0", 1⟩ place := by
  intro w
  obtain ⟨hpool, -, hnever⟩ := pool_lifecycle (Sample.started_world.reachable.after _)
  have hopened : opened ⟨"ds_0", 1⟩ ∈ w.site.journal := by decide
  have hretired : w.site.retirements ⟨"ds_0", 1⟩ = 1 := by decide
  rcases hpool _ hopened with ⟨hnone, -⟩ | ⟨hone, -⟩
  · rw [hretired] at hnone
    cases hnone
  · exact ⟨hopened, hone, fun later => hnever _ later (by rw [hretired]; decide)⟩

end World

end ProxyCatalog
