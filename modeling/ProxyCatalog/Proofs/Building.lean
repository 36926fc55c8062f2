import ProxyCatalog.Proofs.Loading
import ProxyCatalog.Proofs.Results

/-!
# What building gives

Rules are built in the order of their kinds, and each builder sees the rules before its own. A rule
keeps the configuration that it was built from, so the kinds of the rules are in order as well. Two
things follow: whatever distributes tables is built before the rule for single tables, and this
rule has therefore loaded its routes against all that distributes.

* `buildEach_configs`: the rules have the configurations that they were built from, in their order.
* `load_of_buildDatabase`: if the schemas are at hand when the rules of a database are built, the
  routes of its single-table rule are those that a load gives.
* `map_bare_buildDatabase`: with other schemas at hand the same configurations are refused for the
  same reasons, and the rules are the same but for their routes (`Rule.bare`).
-/

namespace ProxyCatalog

/-! ### The order of kinds -/

namespace RuleConfig

theorem sortByKind_pairwise (cs : List RuleConfig) :
    (sortByKind cs).Pairwise fun a b => a.kind.rank ≤ b.kind.rank := by
  refine List.pairwise_flatMap.2 ⟨fun k _ => ?_, ?_⟩
  · refine List.pairwise_of_forall_mem_list fun a ha b hb => ?_
    obtain ⟨-, ha⟩ := List.mem_filter.1 ha
    obtain ⟨-, hb⟩ := List.mem_filter.1 hb
    have hkind : a.kind = b.kind := (beq_iff_eq.1 ha).trans (beq_iff_eq.1 hb).symm
    exact Nat.le_of_eq (congrArg RuleKind.rank hkind)
  · have hall : RuleKind.all.Pairwise fun j k => j.rank ≤ k.rank := by decide
    refine hall.imp fun {j k} hjk a ha b hb => ?_
    obtain ⟨-, ha⟩ := List.mem_filter.1 ha
    obtain ⟨-, hb⟩ := List.mem_filter.1 hb
    rw [beq_iff_eq.1 ha, beq_iff_eq.1 hb]
    exact hjk

/-- A configuration of a kind that none goes before stays at the head. -/
private theorem sortByKind_cons {c : RuleConfig} {cs : List RuleConfig}
    (h : ∀ c' ∈ cs, c.kind.rank ≤ c'.kind.rank) : sortByKind (c :: cs) = c :: sortByKind cs := by
  obtain ⟨before, after, hall⟩ : ∃ before after, RuleKind.all = before ++ c.kind :: after :=
    List.append_of_mem (by cases c.kind <;> decide)
  have hranks : RuleKind.all.Pairwise fun j k => j.rank < k.rank := by decide
  rw [hall, List.pairwise_append, List.pairwise_cons] at hranks
  obtain ⟨-, ⟨hafter, -⟩, hbefore⟩ := hranks
  -- Nothing is of the kinds before that of the head, and the head is of none of those after it.
  have hnone {k : RuleKind} (hk : k ∈ before) (cs' : List RuleConfig)
      (hcs' : ∀ c' ∈ cs', c.kind.rank ≤ c'.kind.rank) :
      (cs'.filter fun c' => c'.kind == k) = [] := by
    refine List.filter_eq_nil_iff.2 fun c' hc' heq => ?_
    have hlt := hbefore k hk c.kind List.mem_cons_self
    rw [← beq_iff_eq.1 heq] at hlt
    exact Nat.not_lt_of_le (hcs' c' hc') hlt
  have hother : after.flatMap (fun k => (c :: cs).filter fun c' => c'.kind == k) =
      after.flatMap fun k => cs.filter fun c' => c'.kind == k := by
    refine congrArg List.flatten (List.map_congr_left fun k hk => ?_)
    refine List.filter_cons_of_neg fun heq => ?_
    have hlt := hafter k hk
    rw [← beq_iff_eq.1 heq] at hlt
    exact Nat.lt_irrefl _ hlt
  have hself : ((c :: cs).filter fun c' => c'.kind == c.kind) =
      c :: cs.filter fun c' => c'.kind == c.kind :=
    List.filter_cons_of_pos (beq_self_eq_true c.kind)
  have hcons : ∀ c' ∈ c :: cs, c.kind.rank ≤ c'.kind.rank :=
    List.forall_mem_cons.2 ⟨Nat.le_refl _, h⟩
  rw [sortByKind, sortByKind, hall, List.flatMap_append, List.flatMap_append, List.flatMap_cons,
    List.flatMap_cons, List.flatMap_eq_nil_iff.2 fun k hk => hnone hk _ hcons,
    List.flatMap_eq_nil_iff.2 fun k hk => hnone hk _ h, hself, hother]
  rfl

/-- What is in order stays as it is. -/
theorem sortByKind_eq_self {cs : List RuleConfig}
    (h : cs.Pairwise fun a b => a.kind.rank ≤ b.kind.rank) : sortByKind cs = cs := by
  induction cs with
  | nil => rfl
  | cons c cs ih =>
    obtain ⟨hc, hcs⟩ := List.pairwise_cons.1 h
    rw [sortByKind_cons hc, ih hcs]

/-- The list `sorted` has the configurations of `cs`, **stably sorted** by kind: the kinds are in
order, and the configurations of each kind are those of `cs` in their old order. -/
structure StablySorted (cs sorted : List RuleConfig) : Prop where
  ordered : sorted.Pairwise fun a b => a.kind.rank ≤ b.kind.rank
  stable : ∀ k, (sorted.filter fun c => c.kind == k) = cs.filter fun c => c.kind == k

theorem stablySorted_sortByKind (cs : List RuleConfig) : StablySorted cs (sortByKind cs) where
  ordered := sortByKind_pairwise cs
  stable k := by
    have hone (j : RuleKind) : ((cs.filter fun c => c.kind == j).filter fun c => c.kind == k) =
        if j = k then cs.filter fun c => c.kind == k else [] := by
      split
      · next hj => rw [hj, List.filter_filter]; simp only [Bool.and_self]
      · next hj =>
        refine List.filter_eq_nil_iff.2 fun c hc hk => hj ?_
        exact (beq_iff_eq.1 (List.mem_filter.1 hc).2).symm.trans (beq_iff_eq.1 hk)
    rw [sortByKind, List.filter_flatMap]
    simp only [hone]
    cases k <;> simp [RuleKind.all]

end RuleConfig

namespace Rule

/-- Only sharding rules distribute tables. -/
theorem kind_of_distributes {r : Rule} {t : String} (h : r.distributes t = true) :
    r.kind = .sharding := by
  cases r with
  | sharding c tables => rfl
  | _ => cases h

end Rule

namespace RuleSet

/-- The first single-table rule is one of the rules. -/
theorem mem_of_router? {rs : RuleSet} {c : SingleConfig} {r : Routes}
    (h : rs.router? = some (c, r)) : Rule.single c r ∈ rs := by
  induction rs with
  | nil => cases h
  | cons rule rs ih =>
    cases rule with
    | single c' r' =>
      obtain ⟨rfl, rfl⟩ := Prod.mk.inj (Option.some.inj h)
      exact List.mem_cons_self
    | _ => exact List.mem_cons_of_mem _ (ih h)

end RuleSet

/-! ### Building one rule -/

namespace Registry

variable {reg : Registry} {scope : RuleScope} {ctx : BuildContext}

/-- **A rule that holds resources** is made of every configuration that its builder does not object
to. -/
theorem buildHeld_eq_ok {c : RuleConfig} {rule : Rule} :
    reg.buildHeld c = .ok rule ↔ reg.objection? c = none ∧ .held c = rule := by
  rw [buildHeld]
  cases reg.objection? c with
  | none => exact ⟨fun h => ⟨rfl, Except.ok.inj h⟩, fun h => congrArg _ h.2⟩
  | some text => exact iff_of_false nofun nofun

/-- **A rule is built** of a configuration of the scope: a held one where its kind has a builder of
such rules, and else what the shipped builder makes of it, if there is one. -/
theorem buildOne_eq_ok {c : RuleConfig} {rule : Rule} :
    reg.buildOne scope ctx c = .ok rule ↔ c.kind.scope = scope ∧
      if reg.held.contains c.kind then reg.buildHeld c = .ok rule
      else reg.shipped = true ∧ Rule.ofConfig ctx c = .ok rule := by
  rw [buildOne]
  split
  · next hscope => exact iff_of_false nofun fun h => hscope h.1
  · next hscope =>
    rw [and_iff_right (Decidable.not_not.1 hscope)]
    split
    · exact Except.mapError_eq_ok
    · split
      · next hshipped =>
        rw [and_iff_right hshipped, Except.mapError_eq_ok, Rule.build, if_pos rfl]
      · next hshipped => exact iff_of_false nofun fun h => hshipped h.1

/-- A rule that is built is held or made by the shipped builder. -/
private theorem held_or_ofConfig {c : RuleConfig} {rule : Rule}
    (h : reg.buildOne scope ctx c = .ok rule) :
    rule = .held c ∨ Rule.ofConfig ctx c = .ok rule := by
  obtain ⟨-, h⟩ := buildOne_eq_ok.1 h
  split at h
  · exact .inl (buildHeld_eq_ok.1 h).2.symm
  · exact .inr h.2

theorem config_of_buildOne {c : RuleConfig} {rule : Rule}
    (h : reg.buildOne scope ctx c = .ok rule) : rule.config = c := by
  rcases held_or_ofConfig h with rfl | h
  · rfl
  · cases c with
    | sqlFederation c => obtain rfl := Except.ok.inj h; rfl
    | _ => obtain ⟨_, -, rfl⟩ := Except.map_eq_ok h; rfl

/-- The builder of single-table rules loads the routes. -/
theorem load_of_buildOne {c : RuleConfig} {sc : SingleConfig} {r : Routes}
    (h : reg.buildOne scope ctx c = .ok (.single sc r)) :
    sc.load (ctx.database.getD "") ctx.pools ctx.schemas ctx.built = .ok r := by
  rcases held_or_ofConfig h with h | h
  · cases h
  · cases c with
    | sqlFederation c => cases Except.ok.inj h
    | single c =>
      obtain ⟨r', hl, hr⟩ := Except.map_eq_ok h
      obtain ⟨rfl, rfl⟩ := Rule.single.inj hr
      exact hl
    | _ => obtain ⟨_, -, hr⟩ := Except.map_eq_ok h; cases hr

/-! ### Building a set of rules -/

/-- Building succeeds when every rule is built upon the ones before. -/
theorem buildEach_cons_eq_ok {c : RuleConfig} {cs : List RuleConfig} {rules : RuleSet}
    (h : reg.buildEach scope ctx (c :: cs) = (rules, [])) :
    ∃ rule, reg.buildOne scope ctx c = .ok rule ∧
      reg.buildEach scope { ctx with built := ctx.built ++ [rule] } cs = (rules, []) := by
  rw [buildEach] at h
  split at h
  · next rule hrule => exact ⟨rule, hrule, h⟩
  · cases h

theorem buildEach_configs {cs : List RuleConfig} {rules : RuleSet}
    (h : reg.buildEach scope ctx cs = (rules, [])) :
    ∃ more, rules = ctx.built ++ more ∧ RuleSet.configs more = cs := by
  induction cs generalizing ctx with
  | nil => exact ⟨[], by rw [List.append_nil]; exact (congrArg Prod.fst h).symm, rfl⟩
  | cons c cs ih =>
    obtain ⟨rule, hrule, hrest⟩ := buildEach_cons_eq_ok h
    obtain ⟨more, rfl, hmore⟩ := ih hrest
    refine ⟨rule :: more, by rw [List.append_assoc]; rfl, ?_⟩
    rw [RuleSet.configs, List.map_cons, config_of_buildOne hrule]
    exact congrArg _ hmore

/-- What every builder guarantees of the rule that it makes holds of all rules. -/
private theorem forall_of_buildEach {P : Rule → Prop} {cs : List RuleConfig} {rules : RuleSet}
    (hone : ∀ built c rule, reg.buildOne scope { ctx with built } c = .ok rule → P rule)
    (hb : ∀ rule ∈ ctx.built, P rule) (h : reg.buildEach scope ctx cs = (rules, [])) :
    ∀ rule ∈ rules, P rule := by
  induction cs generalizing ctx with
  | nil =>
    obtain rfl : ctx.built = rules := congrArg Prod.fst h
    exact hb
  | cons c cs ih =>
    obtain ⟨rule, hrule, hrest⟩ := buildEach_cons_eq_ok h
    refine @ih { ctx with built := ctx.built ++ [rule] } hone (fun rule' hmem => ?_) hrest
    rcases List.mem_append.1 hmem with hmem | hmem
    · exact hb rule' hmem
    · rw [List.mem_singleton.1 hmem]
      exact hone ctx.built c rule hrule

/-- A single-table rule has loaded its routes against all rules, those built after it included, for
these distribute nothing. -/
private theorem load_of_buildEach {cs : List RuleConfig} {rules : RuleSet} {sc : SingleConfig}
    {r : Routes} (hs : cs.Pairwise fun a b => a.kind.rank ≤ b.kind.rank)
    (h : reg.buildEach scope ctx cs = (rules, [])) (hr : .single sc r ∈ rules) :
    .single sc r ∈ ctx.built ∨
      sc.load (ctx.database.getD "") ctx.pools ctx.schemas rules = .ok r := by
  induction cs generalizing ctx with
  | nil =>
    obtain rfl : ctx.built = rules := congrArg Prod.fst h
    exact .inl hr
  | cons c cs ih =>
    rw [List.pairwise_cons] at hs
    obtain ⟨rule, hrule, hrest⟩ := buildEach_cons_eq_ok h
    rcases @ih { ctx with built := ctx.built ++ [rule] } hs.2 hrest with hmem | hload
    · rcases List.mem_append.1 hmem with hmem | hmem
      · exact .inl hmem
      · -- It is this rule, and nothing after it distributes.
        obtain rfl := List.mem_singleton.1 hmem
        obtain ⟨more, rfl, hmore⟩ := buildEach_configs hrest
        rw [← load_of_buildOne hrule]
        have hc : c = .single sc := (config_of_buildOne hrule).symm
        refine .inr (SingleConfig.load_congr fun t => ?_)
        have hmore' : RuleSet.distributes more t = false := by
          rw [RuleSet.distributes, List.any_eq_false]
          intro rule hmem hdist
          -- Sharding rules come first in the order of kinds.
          have hrank := hs.1 rule.config (hmore ▸ List.mem_map_of_mem hmem)
          rw [hc, show rule.config.kind = .sharding from Rule.kind_of_distributes hdist] at hrank
          cases hrank
        have hone : (Rule.single sc r).distributes t = false := rfl
        simp only [RuleSet.distributes, List.any_append, List.any_cons, List.any_nil,
          hone] at hmore' ⊢
        simp [hmore']
    · exact .inr hload

variable {database : String} {cs : List RuleConfig} {pools : Pools}
  {schemas : Option (NameMap Schema)} {rules : RuleSet}

private theorem buildEach_of_build {owner : RuleOwner}
    (h : reg.build owner scope ctx cs = .ok rules) :
    reg.buildEach scope ctx (RuleConfig.sortByKind cs) = (rules, []) := by
  rw [build] at h
  split at h
  · next hb => obtain rfl := Except.ok.inj h; exact hb
  · cases h

/-- What every builder guarantees of the rule that it makes holds of all rules that are built from
the start. -/
theorem forall_of_build {P : Rule → Prop} {owner : RuleOwner} (ctx : BuildContext)
    (hone : ∀ built c rule, reg.buildOne scope { ctx with built } c = .ok rule → P rule)
    (h : reg.build owner scope { ctx with built := [] } cs = .ok rules) :
    ∀ rule ∈ rules, P rule := by
  refine forall_of_buildEach ?_ ?_ (buildEach_of_build h)
  · exact hone
  · exact fun _ hmem => absurd hmem List.not_mem_nil

theorem configs_of_build {owner : RuleOwner} (ctx : BuildContext)
    (h : reg.build owner scope { ctx with built := [] } cs = .ok rules) :
    RuleSet.configs rules = RuleConfig.sortByKind cs := by
  obtain ⟨more, rfl, hmore⟩ := buildEach_configs (buildEach_of_build h)
  exact hmore

theorem forall_of_buildDatabase {P : Rule → Prop}
    (hone : ∀ built c rule,
      reg.buildOne .database ⟨some database, some pools, schemas, built⟩ c = .ok rule → P rule)
    (h : reg.buildDatabase database cs pools schemas = .ok rules) : ∀ rule ∈ rules, P rule :=
  forall_of_build ⟨some database, some pools, schemas, []⟩ hone h

theorem configs_of_buildDatabase (h : reg.buildDatabase database cs pools schemas = .ok rules) :
    RuleSet.configs rules = RuleConfig.sortByKind cs :=
  configs_of_build ⟨some database, some pools, schemas, []⟩ h

theorem configs_of_buildGlobal (h : reg.buildGlobal cs = .ok rules) :
    RuleSet.configs rules = RuleConfig.sortByKind cs :=
  configs_of_build ⟨none, none, none, []⟩ h

/-- Every single-table rule of a database has loaded its routes against all of its rules. -/
theorem load_of_buildDatabase (h : reg.buildDatabase database cs pools schemas = .ok rules)
    {sc : SingleConfig} {r : Routes} (hr : .single sc r ∈ rules) :
    sc.load database (some pools) schemas rules = .ok r :=
  (load_of_buildEach (RuleConfig.sortByKind_pairwise cs) (buildEach_of_build h)
    hr).resolve_left List.not_mem_nil

end Registry

/-! ### What does not depend on the schemas -/

namespace Rule

/-- The rule **bare** of the routes that it has loaded. -/
def bare : Rule → Rule
  | single c _ => single c ∅
  | r => r

@[simp] theorem config_bare (r : Rule) : r.bare.config = r.config := by
  cases r <;> rfl

@[simp] theorem distributes_bare (r : Rule) (t : String) :
    r.bare.distributes t = r.distributes t := by
  cases r <;> rfl

/-- A builder checks the same and makes the same but for the routes, whatever the schemas and the
rules built before. -/
theorem map_bare_ofConfig (ctx : BuildContext) (schemas : Option (NameMap Schema))
    (built : RuleSet) (c : RuleConfig) :
    (ofConfig { ctx with schemas, built } c).map bare = (ofConfig ctx c).map bare := by
  cases c with
  | single c =>
    have hmap {x : Except RuleFault Routes} :
        (x.map (single c)).map bare = x.map fun _ => single c ∅ := by
      cases x <;> rfl
    rw [ofConfig, ofConfig, hmap, hmap, SingleConfig.map_load, SingleConfig.map_load]
  | _ => rfl

end Rule

namespace RuleSet

/-- The rules bare of the routes that they have loaded. -/
def bare (rs : RuleSet) : RuleSet :=
  rs.map Rule.bare

theorem bare_append (rs rs' : RuleSet) : bare (rs ++ rs') = bare rs ++ bare rs' :=
  List.map_append

theorem configs_bare (rs : RuleSet) : configs (bare rs) = configs rs := by
  rw [configs, bare, List.map_map]
  exact List.map_congr_left fun r _ => r.config_bare

theorem distributes_bare (rs : RuleSet) (t : String) :
    (bare rs).distributes t = rs.distributes t := by
  simp only [distributes, bare, List.any_map, Function.comp_def, Rule.distributes_bare]

theorem router?_bare (rs : RuleSet) : (bare rs).router? = rs.router?.map fun r => (r.1, ∅) := by
  induction rs with
  | nil => rfl
  | cons r rs ih =>
    cases r with
    | single c r => rfl
    | _ => exact ih

/-- Rules that are the same but for the routes have the same single-table rule but for these. -/
theorem router?_of_bare {rs rs' : RuleSet} (h : bare rs = bare rs') {c : SingleConfig} {r : Routes}
    (hr : rs.router? = some (c, r)) : ∃ r', rs'.router? = some (c, r') := by
  have hbare := rs'.router?_bare
  rw [← h, router?_bare, hr] at hbare
  obtain ⟨⟨c', r'⟩, hr', hc⟩ := Option.map_eq_some_iff.1 hbare.symm
  obtain rfl : c' = c := congrArg Prod.fst hc
  exact ⟨r', hr'⟩

@[simp] theorem bare_mapRoutes (f : Routes → Routes) (rs : RuleSet) :
    bare (rs.mapRoutes f) = bare rs := by
  induction rs with
  | nil => rfl
  | cons r rs ih =>
    cases r with
    | single c r => rfl
    | _ => exact congrArg (List.cons _) ih

end RuleSet

namespace Registry

theorem map_bare_buildOne (reg : Registry) (scope : RuleScope) (ctx : BuildContext)
    (schemas : Option (NameMap Schema)) (built : RuleSet) (c : RuleConfig) :
    (reg.buildOne scope { ctx with schemas, built } c).map Rule.bare =
      (reg.buildOne scope ctx c).map Rule.bare := by
  rw [buildOne, buildOne]
  split
  · rfl
  · split
    · rfl
    · split
      · rw [Rule.build, Rule.build, if_pos rfl, if_pos rfl, ← Except.mapError_map,
          ← Except.mapError_map, Rule.map_bare_ofConfig]
      · rfl

/-- Configurations are refused for the same reasons and give the same rules but for the routes,
whatever the schemas and the routes of the rules built before. -/
theorem map_bare_buildEach (reg : Registry) (scope : RuleScope) (ctx : BuildContext)
    (schemas : Option (NameMap Schema)) {built : RuleSet} (cs : List RuleConfig)
    (hbuilt : RuleSet.bare built = RuleSet.bare ctx.built) :
    (reg.buildEach scope { ctx with schemas, built } cs).map RuleSet.bare id =
      (reg.buildEach scope ctx cs).map RuleSet.bare id := by
  induction cs generalizing ctx built with
  | nil => exact congrArg (·, []) hbuilt
  | cons c cs ih =>
    rw [buildEach, buildEach]
    rcases Except.map_eq_map (map_bare_buildOne reg scope ctx schemas built c) with
      ⟨fault, hfault, hfault'⟩ | ⟨rule, rule', hrule, hrule', hbare⟩
    · obtain ⟨hrules, hfaults⟩ := Prod.mk.inj (ih ctx hbuilt)
      rw [hfault, hfault']
      exact Prod.ext hrules (congrArg (fault :: ·) hfaults)
    · rw [hrule, hrule']
      refine ih { ctx with built := ctx.built ++ [rule'] } ?_
      rw [RuleSet.bare_append, RuleSet.bare_append, hbuilt]
      exact congrArg (RuleSet.bare ctx.built ++ [·]) hbare

theorem map_bare_build (reg : Registry) (owner : RuleOwner) (scope : RuleScope)
    (ctx : BuildContext) (schemas : Option (NameMap Schema)) (cs : List RuleConfig) :
    (reg.build owner scope { ctx with schemas } cs).map RuleSet.bare =
      (reg.build owner scope ctx cs).map RuleSet.bare := by
  have heach := map_bare_buildEach reg scope ctx schemas (RuleConfig.sortByKind cs) rfl
  rw [build, build]
  generalize reg.buildEach scope { ctx with schemas } (RuleConfig.sortByKind cs) = p at heach ⊢
  generalize reg.buildEach scope ctx (RuleConfig.sortByKind cs) = p' at heach ⊢
  obtain ⟨rules, faults⟩ := p
  obtain ⟨rules', faults'⟩ := p'
  obtain ⟨hrules, rfl⟩ := Prod.mk.inj heach
  cases faults with
  | nil => exact congrArg Except.ok hrules
  | cons fault faults => rfl

/-- **Building a database does not depend on its schemas** but for the routes. -/
theorem map_bare_buildDatabase (reg : Registry) (database : String) (cs : List RuleConfig)
    (pools : Pools) (schemas schemas' : Option (NameMap Schema)) :
    (reg.buildDatabase database cs pools schemas).map RuleSet.bare =
      (reg.buildDatabase database cs pools schemas').map RuleSet.bare :=
  map_bare_build reg _ .database ⟨some database, some pools, schemas', []⟩ schemas cs

end Registry

end ProxyCatalog
