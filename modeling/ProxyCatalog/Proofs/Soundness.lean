import ProxyCatalog.Proofs.Routing

/-!
# Routes that are left over

A route is to lead to an object that is there, unless the configuration lists it. Everything that
takes an object out of a schema, or asks the storage engines anew, sees to that. Dropping a whole
schema does not: its routes stay, and lead to tables that are gone, until the routes are loaded or
the objects are put again.

* `World.Abandoned`: an object was dropped with its schema, and has neither been put again since nor
  have the routes been loaded.
* `held_iff_not_abandoned`: this is the only case. At every time of every run an object with a route
  that is not listed is there if, and only if, it is not abandoned.
* `route_outlives_schema`: a run into the case.
-/

namespace ProxyCatalog

namespace Database

/-- The configuration of the single-table rule lists the object. -/
def lists (d : Database) (schema table : String) : Prop :=
  ∃ c ∈ d.rules.router?.map Prod.fst, c.Lists d.name (some d.pools) schema table

variable {d d' : Database} {s t : String}

theorem Revised.lists_iff (h : d.Revised d') : d'.lists s t ↔ d.lists s t := by
  rw [lists, lists, h.router?, h.name, h.pools]

/-- After a load a route that is not listed leads to an object that is there. -/
theorem Loaded.holds (h : d.Loaded) (hroute : (d.rules.route? s t).isSome) (hl : ¬ d.lists s t) :
    d.holds s t := by
  cases hr : d.rules.router? with
  | none =>
    rw [RuleSet.route?_eq_none hr] at hroute
    cases hroute
  | some cr =>
    obtain ⟨listed, hlisted, hat⟩ := h.route? hr
    rw [hat, Option.isSome_or, Bool.or_eq_true] at hroute
    rcases hroute with hlist | hfill
    · refine absurd ⟨cr.1, ?_, SingleConfig.isSome_find?_listedRoutes hlisted |>.1 hlist⟩ hl
      rw [hr]
      rfl
    · cases hholds : d.holds s t with
      | true => rfl
      | false =>
        rw [hholds] at hfill
        cases hfill

end Database

namespace Mutation

variable {m : Mutation} {d d' : Database} {s t : String}

/-- Dropping a schema loads nothing. -/
theorem Drops.not_loads (h : m.Drops s) : ¬ m.Loads d d' := by
  cases m with
  | dropSchema database schema =>
    rintro (h | ⟨_, _, _, h⟩ | ⟨_, _, h, -⟩) <;> cases h
  | _ => cases h

/-- Where the routes are kept, a route to an object that is not put led to it before. -/
theorem Keeps.holds_of_route? (hkeeps : m.Keeps d d') (hdrops : ¬ m.Drops s)
    (hroute : (d'.rules.route? s t).isSome)
    (hd : ¬ m.Puts s t d' → (d.rules.route? s t).isSome → d.holds s t) : d'.holds s t := by
  by_cases ht : m.TakesOut s t d'
  · rw [hkeeps.forgets ht] at hroute
    cases hroute
  · by_cases hputs : m.Puts s t d'
    · exact hkeeps.puts hputs
    · rw [hkeeps.route? ht] at hroute
      exact hkeeps.stays (hd hputs hroute) ht hdrops

end Mutation

namespace World

/-- The object is **abandoned** after a history: its schema was dropped, and since then it has not
been put again and the routes have not been loaded. -/
def Abandoned (w : World) (name schema table : String) : List Move → Prop
  | [] => False
  | move :: earlier =>
    (w.after earlier).TurnsBy move name (fun m _ _ => m.Drops schema) ∨
      w.Abandoned name schema table earlier ∧
        ¬ (w.after earlier).TurnsBy move name (fun m _ d' => m.Puts schema table d') ∧
          ¬ (w.after earlier).TurnsBy move name (fun m d d' => m.Loads d d')

variable {w : World} {name schema table : String} {d : Database}

/-- What the schemas have to do with what is abandoned. -/
private theorem held_and_abandoned (hw : w.Started) (history : List Move)
    (hd : (w.after history).proxy.snapshot.database? name = some d) :
    (w.Abandoned name schema table history → ¬ d.holds schema table) ∧
      (¬ w.Abandoned name schema table history → (d.rules.route? schema table).isSome →
        ¬ d.lists schema table → d.holds schema table) := by
  induction history generalizing d with
  | nil => exact ⟨nofun, fun _ => (hw.start_ok.1 _ d hd).loaded.holds⟩
  | cons move earlier ih =>
    have hs : (w.after earlier).proxy.snapshot.InOrder := (hw.reachable.after earlier).inOrder
    cases origin hs hd with
    | new h hnew =>
      -- A new database has neither objects nor routes, whatever was before under its name.
      subst hnew
      exact ⟨fun _ => Database.holds_empty _ _ _ _, fun _ hroute => nomatch hroute⟩
    | stayed h hbefore =>
      have hsame : w.Abandoned name schema table (move :: earlier) ↔
          w.Abandoned name schema table earlier :=
        ⟨fun ha => (ha.resolve_left (not_turnsBy h)).1,
          fun ha => .inr ⟨ha, not_turnsBy h, not_turnsBy h⟩⟩
      rw [hsame]
      exact ih hbefore
    | @turned m _ h hturned =>
      obtain ⟨hgone, hheld⟩ := ih h.before
      rw [Abandoned, h.turnsBy_iff, h.turnsBy_iff, h.turnsBy_iff]
      rcases hturned with ⟨hloads, hloaded⟩ | ⟨hloads, hkeeps, hrev⟩
      · refine ⟨fun ha => ?_, fun _ => hloaded.holds⟩
        rcases ha with hdrops | ⟨-, -, hnot⟩
        · exact absurd hloads hdrops.not_loads
        · exact absurd hloads hnot
      · refine ⟨fun ha hholds => ?_, fun ha hroute hl => ?_⟩
        · rcases ha with hdrops | ⟨hbefore, hputs, -⟩
          · exact hkeeps.drops hdrops hholds
          · exact hgone hbefore ((hkeeps.origin hholds).resolve_right hputs)
        · -- An object without a put is there, or its route was a stale one before.
          obtain ⟨hdrops, hnot⟩ := not_or.1 ha
          refine hkeeps.holds_of_route? hdrops hroute fun hputs hroute => ?_
          exact hheld (fun hbefore => hnot ⟨hbefore, hputs, hloads⟩) hroute
            (fun hl' => hl (hrev.lists_iff.2 hl'))

/-- **A route leads to an object that is there if and only if the object is not abandoned**, after
every history, unless the route is listed. -/
theorem held_iff_not_abandoned (hw : w.Started) (history : List Move)
    (hd : (w.after history).proxy.snapshot.database? name = some d) {c : SingleConfig} {r : Routes}
    (hr : d.rules.router? = some (c, r)) (hroute : (d.rules.route? schema table).isSome)
    (hl : ¬ c.Lists d.name (some d.pools) schema table) :
    d.holds schema table ↔ ¬ w.Abandoned name schema table history := by
  obtain ⟨hgone, hheld⟩ := held_and_abandoned hw history hd
  refine ⟨fun hholds ha => hgone ha hholds, fun ha => hheld ha hroute ?_⟩
  rintro ⟨c', hc', hl'⟩
  rw [hr] at hc'
  obtain rfl := Option.some.inj hc'
  exact hl hl'

/-! ### A schema that is dropped -/

/-- Drops the schema of the small site. -/
private def dropSchema : Move :=
  .mutate (.dropSchema "foo_db" "foo_db")

/-- The route of a table stays where the schema of the table is dropped. -/
theorem route_outlives_schema :
    ∃ d, (Sample.world.after [dropSchema]).proxy.snapshot.database? "foo_db" = some d ∧
      d.rules.route? "foo_db" "t_order" = some "ds_0" ∧ d.schema? "foo_db" = none ∧
        ∃ c r, d.rules.router? = some (c, r) ∧
          ¬ c.Lists d.name (some d.pools) "foo_db" "t_order" :=
  ⟨_, rfl, by decide, by decide, _, _, rfl, fun ⟨_, h, _⟩ => nomatch h⟩

/-- A table that was dropped with its schema is abandoned. -/
theorem abandoned_with_schema :
    Sample.world.Abandoned "foo_db" "foo_db" "t_order" [dropSchema] := by
  let d := ((Sample.world.after [dropSchema]).proxy.snapshot.database? "foo_db").get rfl
  have hgone : d.holds "foo_db" "t_order" ↔
      ¬ Sample.world.Abandoned "foo_db" "foo_db" "t_order" [dropSchema] :=
    held_iff_not_abandoned Sample.started_world _ rfl rfl (by decide) fun ⟨_, h, _⟩ => nomatch h
  exact Classical.not_not.1 fun h => absurd (hgone.2 h) (by decide)

end World

end ProxyCatalog
