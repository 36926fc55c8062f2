import Mathlib.Data.List.Nodup
import ProxyCatalog.Proofs.Accounts

/-!
# Failure

A mutation that fails has done nothing. The installed snapshot is as it was by the way mutations
are applied; that the same holds of the store and of the pools is a matter of the order in which a
plan goes about its work. It asks before it writes, what it does after its first write does not
fail, and the pools that it opens are guarded until it is done.

* `failed_mutation_undone`: at a store in memory a mutation that fails changes neither the snapshot
  nor the store. Every pool opened by it is closed once, no other pool is closed or scheduled to be
  closed, and no rule is asked to release anything.
-/

namespace ProxyCatalog

open Event

namespace World

variable {w w' : World} {m : Mutation} {e : Fault}

/-- A mutation that fails leaves the proxy alone. What it did to the site is what its plan did. -/
theorem apply_error (h : w.apply m = (.error e, w')) :
    w'.proxy = w.proxy ∧
      (m.plan w.proxy.registry w.proxy.snapshot).run w.site = (.error e, w'.site) := by
  rw [apply] at h
  split at h
  · next e' t hplan =>
    obtain ⟨he, rfl⟩ := Prod.mk.inj h
    obtain rfl := Except.error.inj he
    exact ⟨rfl, hplan⟩
  · cases h
  · cases h

/-- **A mutation that fails has done nothing.** The snapshot and the store are as they were; the
pools opened by it are closed, each once, and no others; and no rule was asked to release what it
holds. -/
theorem failed_mutation_undone (hw : w.Reachable) (hm : w.site.InMemory)
    (h : w.apply m = (.error e, w')) :
    w'.proxy = w.proxy ∧ w'.site.store = w.site.store ∧ w'.site.pending = w.site.pending ∧
      ∃ events, w'.site.journal = w.site.journal ++ events ∧
        (∀ p, opened p ∈ events → w'.site.journal.count (closed p) = 1) ∧
          (∀ p, opened p ∈ w.site.journal → closed p ∉ events) ∧
            ∀ kind database, released kind database ∉ events := by
  obtain ⟨hproxy, hplan⟩ := apply_error h
  have hstore := Mutation.plan_atomic hw.inOrder _ _ _ hm hplan
  obtain ⟨events, hl, hperm, hreleases⟩ := Mutation.plan_clean hw.inOrder _ _ _ hplan
  obtain ⟨hnumbered, hbooks⟩ := hw.balanced
  have hnew (p : PoolHandle) (hp : p ∈ opens events) : p ∉ w.site.created := by
    intro hold
    exact absurd (hnumbered.bound p hold) (Nat.not_le.2 (hl.lt_serial hp))
  refine ⟨hproxy, hstore, hl.pending, events, hl.journal, fun p hp => ?_, fun p hp hclosed => ?_,
    fun kind database hr => ?_⟩
  · have hopened : p ∈ opens events := mem_opens.2 hp
    -- A new pool was not closed before, for whatever was closed before had been opened before.
    have hbefore : p ∉ closes w.site.journal := fun hc => hnew p hopened <|
      hbooks.mem_iff.1 (List.mem_append_right _ (List.mem_append_left _ hc))
    have hduring : (closes events).count p = 1 := by
      rw [hperm.count_eq, List.count_eq_one_of_mem hl.nodup_opens hopened]
    rw [← count_closes, hl.journal, closes_append, List.count_append, hduring,
      List.count_eq_zero.2 hbefore]
  · exact hnew p (hperm.mem_iff.1 (mem_closes.2 hclosed)) (mem_opens.2 hp)
  · have hmem := mem_releases.2 hr
    rw [hreleases] at hmem
    cases hmem

/-- A switch from the pool of the small site to another one. -/
private def switch : Mutation :=
  .alterPools "foo_db" (.single "ds_1" ⟨"", ∅⟩)

/-- Where a switch of pools has opened one before the storage engines turn out to be out of reach,
this pool is closed again. -/
theorem failed_switch_undone :
    ∃ w', Sample.world.apply switch = (.error (.unreachableStorage "foo_db"), w') ∧
      w'.proxy = Sample.world.proxy ∧ w'.site.store = Sample.world.site.store ∧
        opened ⟨"ds_1", 2⟩ ∈ w'.site.journal ∧
          w'.site.journal.count (closed ⟨"ds_1", 2⟩) = 1 := by
  have h : Sample.world.apply switch =
      (.error (.unreachableStorage "foo_db"), (Sample.world.apply switch).2) := rfl
  obtain ⟨hproxy, hstore, -, events, hjournal, hclosed, -⟩ :=
    failed_mutation_undone Sample.started_world.reachable (fun _ => rfl) h
  have hmem : opened ⟨"ds_1", 2⟩ ∈ Sample.world.site.journal ++ events := by
    rw [← hjournal]
    decide
  have hold : opened ⟨"ds_1", 2⟩ ∉ Sample.world.site.journal := by decide
  have hnew := (List.mem_append.1 hmem).resolve_left hold
  exact ⟨_, h, hproxy, hstore, hjournal ▸ hmem, hclosed _ hnew⟩

end World

end ProxyCatalog
