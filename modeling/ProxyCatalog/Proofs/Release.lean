import ProxyCatalog.Proofs.Accounts

/-!
# Releasing replaced rules

A rule that holds resources is to be asked to release them when it is replaced or discarded. Every
mutation that does so makes the requests for itself, once the new snapshot is installed, and none of
them depends on the answer to another. The reload of a database makes none, although it builds the
rules of the database and the global rules anew.

* `Mutation.releases`: the requests that a mutation makes. Its events contain these and no others,
  in this order (`World.releases_of_apply`).
* `World.released_iff_not_reloaded`: a mutation asks all held rules that it replaces if and only if
  it is not a reload, or there are none to be asked.
-/

namespace ProxyCatalog

namespace Mutation

/-! ### What is replaced, and what is asked -/

/-- The rule sets that the mutation discards, or replaces by rules newly built. With a database that
is built anew, the global rules are. -/
def replacedRules (s : Snapshot) : Mutation → List RuleSet
  | dropDatabase database => (s.database? database).toList.map Database.rules
  | alterRules database _ => withGlobal database
  | alterPools database _ => withGlobal database
  | alterPoolsAndRules database _ _ => withGlobal database
  | reloadDatabase database => withGlobal database
  | alterGlobalRules _ => [s.catalog.globalRules]
  | _ => []
where
  /-- The rules of a database and the global ones. -/
  withGlobal (database : String) : List RuleSet :=
    (s.database? database).elim [] fun d => [d.rules, s.catalog.globalRules]

/-- The kinds of the held rules that the mutation replaces, one for each rule. -/
def replacedKinds (s : Snapshot) (m : Mutation) : List RuleKind :=
  (m.replacedRules s).flatMap RuleSet.heldKinds

/-- The mutation takes the configuration of a database from the store. -/
def isReload : Mutation → Bool
  | reloadDatabase _ => true
  | _ => false

/-- The requests to release that the mutation makes. -/
def releases (s : Snapshot) : Mutation → List Release
  | dropDatabase database => (s.database? database).elim [] fun d =>
    Change.releasesOf s.catalog.globalRules (some d.name) ++ Change.releasesOf d.rules none
  | alterRules database _ => ofRebuild database
  | alterPools database _ => ofRebuild database
  | alterPoolsAndRules database _ _ => ofRebuild database
  | alterGlobalRules _ => Change.releasesOf s.catalog.globalRules none
  | _ => []
where
  /-- The requests that follow a rebuild. -/
  ofRebuild (database : String) : List Release :=
    (s.database? database).elim [] (Change.releasesOfRebuild s)

theorem kinds_releasesOf (rules : RuleSet) (database : Option String) :
    (Change.releasesOf rules database).map Release.kind = rules.heldKinds := by
  rw [Change.releasesOf, List.map_map]
  exact List.map_id _

theorem kinds_releasesOfRebuild (s : Snapshot) (d : Database) :
    (Change.releasesOfRebuild s d).map Release.kind =
      d.rules.heldKinds ++ s.catalog.globalRules.heldKinds := by
  rw [Change.releasesOfRebuild, List.map_append, kinds_releasesOf, kinds_releasesOf]

/-- All held rules that are replaced are asked where the mutation is no reload. -/
theorem replacedKinds_sublist {m : Mutation} (hm : m.isReload = false) (s : Snapshot) :
    (m.replacedKinds s).Sublist ((m.releases s).map Release.kind) := by
  have hrebuild (database : String) : (replacedRules.withGlobal s database).flatMap
      RuleSet.heldKinds = (releases.ofRebuild s database).map Release.kind := by
    rw [replacedRules.withGlobal, releases.ofRebuild]
    cases s.database? database with
    | none => rfl
    | some d =>
      rw [Option.elim_some, Option.elim_some, kinds_releasesOfRebuild, List.flatMap_cons,
        List.flatMap_singleton]
  cases m with
  | dropDatabase database =>
    rw [replacedKinds, replacedRules, releases]
    cases s.database? database with
    | none => exact List.nil_sublist _
    | some d =>
      rw [Option.toList_some, List.map_singleton, List.flatMap_singleton, Option.elim_some,
        List.map_append, kinds_releasesOf, kinds_releasesOf]
      exact List.sublist_append_right _ _
  | alterRules database configs => exact hrebuild database ▸ List.Sublist.refl _
  | alterPools database specs => exact hrebuild database ▸ List.Sublist.refl _
  | alterPoolsAndRules database specs configs => exact hrebuild database ▸ List.Sublist.refl _
  | alterGlobalRules configs =>
    have hsame : replacedKinds s (alterGlobalRules configs) =
        (releases s (alterGlobalRules configs)).map Release.kind := by
      rw [replacedKinds, replacedRules, releases, List.flatMap_singleton, kinds_releasesOf]
    exact hsame ▸ List.Sublist.refl _
  | reloadDatabase database => cases hm
  | _ => exact List.nil_sublist _

theorem releases_of_isReload {m : Mutation} (hm : m.isReload = true) (s : Snapshot) :
    m.releases s = [] := by
  cases m with
  | reloadDatabase database => rfl
  | _ => cases hm

/-! ### Plans -/

variable {reg : Registry} {s : Snapshot} {m : Mutation} {site t : Site} {c : Change}
  {database : String}

theorem releases_of_revises? (hm : m.revises? = some database) (s : Snapshot) :
    m.releases s = [] := by
  cases m with
  | addSchema | dropSchema | alterSchema | reloadSchema | reloadTable => rfl
  | _ => cases hm

theorem releases_of_reconfigures? {d : Database} (hm : m.reconfigures? = some database)
    (hd : s.database? database = some d) : m.releases s = Change.releasesOfRebuild s d := by
  have hrebuild : releases.ofRebuild s database = Change.releasesOfRebuild s d := by
    rw [releases.ofRebuild, hd, Option.elim_some]
  cases m with
  | alterRules | alterPools | alterPoolsAndRules =>
    obtain rfl := Option.some.inj hm
    exact hrebuild
  | _ => cases hm

/-- **A planned change names the requests of its mutation.** -/
theorem plan_releases (hs : s.InOrder) (h : (m.plan reg s).run site = (.ok (some c), t)) :
    c.releases = m.releases s := by
  obtain ⟨opened, hplanned, -⟩ := planned_of_plan hs h
  cases hplanned with
  | dropDatabase hd => rw [releases, hd, Option.elim_some]
  | revise hm hd hd' => exact (releases_of_revises? hm s).symm
  | reconfigure hm hd hd' hbooks hnext => exact (releases_of_reconfigures? hm hd).symm
  | _ => rfl

end Mutation

/-! ### The events of a mutation -/

theorem Event.releases_map_released (rs : List Release) :
    Event.releases (rs.map fun r => .released r.kind r.database) = rs := by
  rw [Event.releases, List.filterMap_map]
  exact List.filterMap_some

/-- To retire pools is to ask no rule. -/
theorem Site.journal_retire (delay : Option Nat) (pools : Pools) (s : Site) :
    ∃ events, (s.retire delay pools).journal = s.journal ++ events ∧
      Event.releases events = [] := by
  cases delay with
  | none => exact ⟨_, rfl, by simp [Event.releases]⟩
  | some ms => exact ⟨[], (List.append_nil _).symm, rfl⟩

namespace World

open Event

variable {w w' : World} {m : Mutation}

/-- **The requests that a mutation makes** are recorded, whether or not they are met, and there are
no others. -/
theorem releases_of_apply (hw : w.Reachable) (h : w.apply m = (.ok .installed, w')) :
    ∃ events, w'.site.journal = w.site.journal ++ events ∧
      releases events = m.releases w.proxy.snapshot := by
  obtain ⟨r, t, hplan, hr⟩ := apply_ok h
  cases r with
  | none => cases hr.1
  | some c =>
    obtain ⟨-, rfl⟩ := hr
    obtain ⟨opened, -, before, hl, -, -, hbefore⟩ := Mutation.plan_effect hw.inOrder hplan
    obtain ⟨after, hjournal, hafter⟩ := Site.journal_retire w.proxy.settings.closeDelay? c.retired
      (t.record (c.releases.map fun r => .released r.kind r.database))
    refine ⟨before ++ (c.releases.map fun r => .released r.kind r.database) ++ after, ?_, ?_⟩
    · rw [followUp_eq]
      dsimp only [install]
      rw [hjournal, Site.record, hl.journal]
      simp only [List.append_assoc]
    · rw [releases_append, releases_append, hbefore, hafter, List.nil_append, List.append_nil,
        releases_map_released, Mutation.plan_releases hw.inOrder hplan]

/-- **The held rules that a mutation replaces are all asked to release what they hold**, each for
itself, unless they are replaced by a reload: then none of them is asked. -/
theorem released_iff_not_reloaded (hw : w.Reachable) (h : w.apply m = (.ok .installed, w')) :
    ∃ events, w'.site.journal = w.site.journal ++ events ∧
      ((m.replacedKinds w.proxy.snapshot).Sublist ((releases events).map Release.kind) ↔
        (m.isReload = true → m.replacedKinds w.proxy.snapshot = [])) := by
  obtain ⟨events, hjournal, hreleases⟩ := releases_of_apply hw h
  refine ⟨events, hjournal, ?_⟩
  rw [hreleases]
  cases hm : m.isReload with
  | true =>
    rw [Mutation.releases_of_isReload hm, List.map_nil, List.sublist_nil]
    exact ⟨fun hnil _ => hnil, fun hnil => hnil rfl⟩
  | false => exact ⟨nofun, fun _ => Mutation.replacedKinds_sublist hm _⟩

/-! ### A held rule -/

/-- The shipped builders, but that of the single-table rule, which is one that holds resources. -/
private def holdingSingle : Registry :=
  { Registry.standard with held := [.single] }

/-- The proxy of the small site with this rule. -/
private def holding : World :=
  (World.boot .default holdingSingle Sample.site).toOption.get rfl

private theorem started_holding : holding.Started :=
  ⟨.default, holdingSingle, Sample.site, rfl, Sample.fresh_site, rfl⟩

/-- From now on the storage engines can be reached, and report nothing. -/
private def emptyEngines : Move :=
  .change (.discovery fun _ _ => .ok ∅)

/-- From now on no rule releases anything. -/
private def refuse : Move :=
  .change (.releasing fun _ => false)

/-- **The reload of a database replaces a held rule and does not ask it** to release what it
holds. -/
theorem reload_asks_nothing :
    ∃ w w' : World, w.Reachable ∧ w.apply (.reloadDatabase "foo_db") = (.ok .installed, w') ∧
      Mutation.replacedKinds w.proxy.snapshot (.reloadDatabase "foo_db") = [.single] ∧
        releases w'.site.journal = [] :=
  ⟨holding.after [emptyEngines], _, started_holding.reachable.after _,
    Except.run_eq_ok (by decide +kernel), by decide +kernel, by decide +kernel⟩

/-- A held rule that is replaced with the rules of its database is asked, even if it refuses. -/
theorem replaced_rule_asked :
    ∃ w' : World, (holding.after [refuse, emptyEngines]).apply (.alterRules "foo_db" []) =
        (.ok .installed, w') ∧
      ∃ events, w'.site.journal = (holding.after [refuse, emptyEngines]).site.journal ++ events ∧
        [.single].Sublist ((releases events).map Release.kind) := by
  have happly : (holding.after [refuse, emptyEngines]).apply (.alterRules "foo_db" []) =
      (.ok .installed, _) :=
    Except.run_eq_ok (by decide +kernel)
  have hkinds : Mutation.replacedKinds (holding.after [refuse, emptyEngines]).proxy.snapshot
      (.alterRules "foo_db" []) = [.single] := by
    decide +kernel
  obtain ⟨events, hjournal, hiff⟩ :=
    released_iff_not_reloaded (started_holding.reachable.after _) happly
  rw [hkinds] at hiff
  exact ⟨_, happly, events, hjournal, hiff.2 nofun⟩

end World

end ProxyCatalog
