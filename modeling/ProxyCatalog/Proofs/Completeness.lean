import ProxyCatalog.Proofs.Routing

/-!
# Routes that are missing

A single-table rule with a fallback pool is to route every object of its database that nothing
distributes. There is one case in which it does not. A table and a view may have the same name in
one schema, and they have one route then. Where one of the two is taken out the route is forgotten
although the other is still there, and it stays so until the routes are loaded for some other
reason.

* `World.Forgotten`: an object was taken out, and the routes have not been loaded since.
* `routed_iff_not_forgotten`: this is the only case. At every time of every run an object that is
  there has a route if, and only if, it is not forgotten.
* `view_outlived_by_table`: a run into the case.
-/

namespace ProxyCatalog

namespace Database

/-- The pool to which the single-table rule routes what its configuration does not list. -/
def fallback? (d : Database) : Option String :=
  (d.rules.router?.map Prod.fst).bind fun c => c.fallbackPool? (some d.pools)

variable {d d' : Database} {c : SingleConfig} {r : Routes} {s t : String}

theorem isSome_fallback? (hr : d.rules.router? = some (c, r))
    (hpool : c.defaultPool.isSome ∨ d.pools ≠ ∅) : d.fallback?.isSome := by
  rw [fallback?, hr, Option.map_some, Option.bind_some, SingleConfig.fallbackPool?,
    Option.isSome_or]
  rcases hpool with hdefault | hpools
  · rw [hdefault, Bool.true_or]
  · cases hkeys : d.pools.keys with
    | nil =>
      refine absurd (NameMap.isEmpty_iff.1 ?_) hpools
      rw [NameMap.isEmpty, List.map_eq_nil_iff.1 hkeys]
      rfl
    | cons k keys =>
      rw [Option.bind_some, hkeys]
      exact Bool.or_true _

theorem Revised.fallback? (h : d.Revised d') : d'.fallback? = d.fallback? := by
  rw [Database.fallback?, Database.fallback?, h.router?, h.pools]

/-- The object is one that the single-table rule is to route. -/
structure Routable (d : Database) (s t : String) : Prop where
  fallback : d.fallback?.isSome
  holds : d.holds s t
  single : d.rules.distributes t = false

/-- A load routes all that is to be routed. -/
theorem Loaded.routed (h : d.Loaded) (ht : d.Routable s t) : (d.rules.route? s t).isSome := by
  obtain ⟨hfallback, hholds, hsingle⟩ := ht
  rw [fallback?] at hfallback
  cases hr : d.rules.router? with
  | none =>
    rw [hr] at hfallback
    cases hfallback
  | some cr =>
    rw [hr] at hfallback
    obtain ⟨listed, -, hroute⟩ := h.route? hr
    rw [hroute, hholds, hsingle, Option.isSome_or, Bool.or_eq_true]
    exact .inr hfallback

end Database

namespace Mutation

variable {m : Mutation} {d d' : Database} {s t : String}

/-- Where the routes are kept, an object that is to be routed was so before, or it is put and has a
route. -/
theorem Keeps.routed_of_not_takesOut (hkeeps : m.Keeps d d') (hloads : ¬ m.Loads d d')
    (hrev : d.Revised d') (ht : ¬ m.TakesOut s t d') (h : d'.Routable s t)
    (hd : d.Routable s t → (d.rules.route? s t).isSome) : (d'.rules.route? s t).isSome := by
  rw [hkeeps.route? ht]
  rcases hkeeps.origin h.holds with hholds | hputs
  · exact hd ⟨hrev.fallback? ▸ h.fallback, hholds, hrev.distributes t ▸ h.single⟩
  · rw [Option.isSome_iff_ne_none]
    exact fun hnone => hloads (.inr (.inr ⟨s, t, hputs, .inl hnone⟩))

end Mutation

namespace World

/-- The object is **forgotten** after a history: it was taken out, as a table or as a view, and the
routes have not been loaded since. -/
def Forgotten (w : World) (name schema table : String) : List Move → Prop
  | [] => False
  | move :: earlier =>
    ¬ (w.after earlier).TurnsBy move name (fun m d d' => m.Loads d d') ∧
      ((w.after earlier).TurnsBy move name (fun m _ d' => m.TakesOut schema table d') ∨
        w.Forgotten name schema table earlier)

variable {w : World} {name schema table : String} {d : Database}

/-- What the routes have to do with what is forgotten. -/
private theorem routed_and_forgotten (hw : w.Started) (history : List Move)
    (hd : (w.after history).proxy.snapshot.database? name = some d) :
    (w.Forgotten name schema table history → d.rules.route? schema table = none) ∧
      (¬ w.Forgotten name schema table history → d.Routable schema table →
        (d.rules.route? schema table).isSome) := by
  -- On the history; only a move that turns the database changes anything.
  induction history generalizing d with
  | nil => exact ⟨nofun, fun _ => (hw.start_ok.1 _ d hd).loaded.routed⟩
  | cons move earlier ih =>
    have hs : (w.after earlier).proxy.snapshot.InOrder := (hw.reachable.after earlier).inOrder
    cases origin hs hd with
    | new h hnew =>
      -- A new database has no single-table rule, and gets one only with its routes loaded.
      subst hnew
      exact ⟨fun _ => rfl, fun _ hr => nomatch hr.fallback⟩
    | stayed h hbefore =>
      have hsame : w.Forgotten name schema table (move :: earlier) ↔
          w.Forgotten name schema table earlier :=
        ⟨fun hf => hf.2.resolve_left (not_turnsBy h), fun hf => ⟨not_turnsBy h, .inr hf⟩⟩
      rw [hsame]
      exact ih hbefore
    | @turned m _ h hturned =>
      obtain ⟨hnone, hsome⟩ := ih h.before
      rw [Forgotten, h.turnsBy_iff, h.turnsBy_iff]
      rcases hturned with ⟨hloads, hloaded⟩ | ⟨hloads, hkeeps, hrev⟩
      · exact ⟨fun hf => absurd hloads hf.1, fun _ => hloaded.routed⟩
      · refine ⟨fun hf => ?_, fun hf hroutable => ?_⟩
        · by_cases ht : m.TakesOut schema table d
          · exact hkeeps.forgets ht
          · exact (hkeeps.route? ht).trans (hnone (hf.2.resolve_left ht))
        · have hnot := not_or.1 fun h => hf ⟨hloads, h⟩
          exact hkeeps.routed_of_not_takesOut hloads hrev hnot.1 hroutable (hsome hnot.2)

/-- **An object has a route if and only if it is not forgotten**, after every history, in a database
with a single-table rule and a pool to fall back on, for everything that nothing distributes. -/
theorem routed_iff_not_forgotten (hw : w.Started) (history : List Move)
    (hd : (w.after history).proxy.snapshot.database? name = some d) {c : SingleConfig} {r : Routes}
    (hr : d.rules.router? = some (c, r)) (hpool : c.defaultPool.isSome ∨ d.pools ≠ ∅)
    (hholds : d.holds schema table) (hsingle : d.rules.distributes table = false) :
    (d.rules.route? schema table).isSome ↔ ¬ w.Forgotten name schema table history := by
  obtain ⟨hnone, hsome⟩ := routed_and_forgotten hw history hd
  constructor
  · intro hroute hf
    rw [hnone hf] at hroute
    cases hroute
  · exact fun hf => hsome hf ⟨Database.isSome_fallback? hr hpool, hholds, hsingle⟩

/-! ### A table and a view of one name -/

/-- Puts a view into the schema of the small site. -/
private def putView (name : String) : Move :=
  .mutate (.alterSchema ⟨"foo_db", "foo_db", none, some ⟨name, ""⟩, none, none⟩)

/-- Takes a view out of it. -/
private def deleteView (name : String) : Move :=
  .mutate (.alterSchema ⟨"foo_db", "foo_db", none, none, none, some name⟩)

/-- A table stays without a route once a view of its name has come and gone. -/
theorem view_outlived_by_table :
    ∃ d, (Sample.world.after [deleteView "t_order", putView "t_order"]).proxy.snapshot.database?
        "foo_db" = some d ∧
      (∃ r, d.rules.router? = some (⟨[], none⟩, r)) ∧ d.pools ≠ ∅ ∧
        d.holds "foo_db" "t_order" ∧ d.rules.distributes "t_order" = false ∧
          d.rules.route? "foo_db" "t_order" = none :=
  ⟨_, rfl, ⟨_, rfl⟩, by decide, by decide, by decide, by decide⟩

/-- The next load, which a new view brings about, gives the table its route again. -/
theorem remembered_with_next_load :
    let history := [putView "v_order", deleteView "t_order", putView "t_order"]
    ∃ d, (Sample.world.after history).proxy.snapshot.database? "foo_db" = some d ∧
      d.rules.route? "foo_db" "t_order" = some "ds_0" ∧
        ¬ Sample.world.Forgotten "foo_db" "foo_db" "t_order" history := by
  refine ⟨_, rfl, by decide, ?_⟩
  refine (routed_iff_not_forgotten Sample.started_world _ rfl rfl ?_ ?_ ?_).1 ?_
  · exact .inr (by decide)
  · decide
  · decide
  · decide

end World

end ProxyCatalog
