import Mathlib.Data.List.Forall2
import Mathlib.Tactic.MkIffOfInductiveProp
import ProxyCatalog.Proofs.Admission
import ProxyCatalog.Proofs.Precedence

/-!
# The verdict on each configuration

With the shipped builders alone, whether a configuration contributes a rule can be read off the
configuration and the pools: it must be of the scope that is built, and valid for its kind. Neither
the other configurations nor the schemas have a say, although the builders see the rules that were
built before theirs. So the outcome of building is made of one verdict for each configuration, and
where the kinds stand among one another in the list makes no difference.

* `RuleConfig.Valid`: what each kind asks of its configurations.
* `Registry.standard_refusal?_eq_none`: the verdict on one configuration.
* `Registry.Judges`: what it means that building is a matter of verdicts.
* `Registry.standard_judges`: building is, for a database as for the proxy as a whole.
-/

namespace ProxyCatalog

/-! ### Valid configurations -/

/-- A sharding configuration is **valid** if its logic tables have names, no two of which are the
same in lower case, and its algorithms have types. -/
@[mk_iff]
structure ShardingConfig.Valid (c : ShardingConfig) : Prop where
  named : ∀ t ∈ c.tables, t.logicTable ≠ ""
  distinct : (c.tables.map fun t => Text.lower t.logicTable).Nodup
  typed : ∀ e ∈ c.algorithms.entries, e.2.typeName ≠ ""

instance (c : ShardingConfig) : Decidable c.Valid :=
  decidable_of_iff' _ (ShardingConfig.valid_iff c)

/-- A configuration of readwrite splitting is **valid** if the pools of its groups exist and their
load balancers are declared. -/
def ReadwriteConfig.Valid (pools : Pools) (c : ReadwriteConfig) : Prop :=
  ∀ g ∈ c.groups, pools.contains g.writePool ∧ (∀ r ∈ g.readPools, pools.contains r) ∧
    ∀ b ∈ g.balancer, c.balancers.contains b

instance (pools : Pools) (c : ReadwriteConfig) : Decidable (c.Valid pools) :=
  inferInstanceAs (Decidable (∀ g ∈ c.groups, _))

/-- An encryption is **valid** if the encryptors of all columns are declared. -/
def EncryptConfig.Valid (c : EncryptConfig) : Prop :=
  ∀ t ∈ c.tables, ∀ column ∈ t.columns, c.encryptors.contains column.encryptor

instance (c : EncryptConfig) : Decidable c.Valid :=
  inferInstanceAs (Decidable (∀ t ∈ c.tables, _))

/-- A configuration of single tables is **valid** if its entries have two or three parts with points
between them, the first of which is a pool, and its default pool, if there is one, exists. -/
@[mk_iff]
structure SingleConfig.Valid (pools : Pools) (c : SingleConfig) : Prop where
  entries : ∀ text ∈ c.entries,
    ((SingleEntry.parts text).length = 2 ∨ (SingleEntry.parts text).length = 3) ∧
      ∀ pool ∈ (SingleEntry.parts text).head?, pools.contains pool
  fallback : ∀ pool ∈ c.defaultPool, pools.contains pool

instance (pools : Pools) (c : SingleConfig) : Decidable (c.Valid pools) :=
  decidable_of_iff' _ (SingleConfig.valid_iff pools c)

/-- A configuration of transactions is **valid** if its type is one of three in upper case. -/
def TransactionConfig.Valid (c : TransactionConfig) : Prop :=
  Text.upper c.defaultType ∈ ["LOCAL", "XA", "BASE"]

instance (c : TransactionConfig) : Decidable c.Valid :=
  inferInstanceAs (Decidable (Text.upper c.defaultType ∈ _))

/-- A translator is **valid** if its text can be read as a dialect. -/
def TranslatorConfig.Valid (c : TranslatorConfig) : Prop :=
  (Dialect.read c.dialectText).isOk

instance (c : TranslatorConfig) : Decidable c.Valid :=
  inferInstanceAs (Decidable ((Dialect.read c.dialectText).isOk = true))

/-- A configuration is **valid** with these pools as its kind asks. Every configuration of a
federation is. -/
def RuleConfig.Valid (pools : Pools) : RuleConfig → Prop
  | sharding c => c.Valid
  | encrypt c => c.Valid
  | readwriteSplitting c => c.Valid pools
  | single c => c.Valid pools
  | transaction c => c.Valid
  | sqlFederation _ => True
  | sqlTranslator c => c.Valid

instance (pools : Pools) : DecidablePred (RuleConfig.Valid pools)
  | .sharding c => inferInstanceAs (Decidable c.Valid)
  | .encrypt c => inferInstanceAs (Decidable c.Valid)
  | .readwriteSplitting c => inferInstanceAs (Decidable (c.Valid pools))
  | .single c => inferInstanceAs (Decidable (c.Valid pools))
  | .transaction c => inferInstanceAs (Decidable c.Valid)
  | .sqlFederation _ => inferInstanceAs (Decidable True)
  | .sqlTranslator c => inferInstanceAs (Decidable c.Valid)

/-! ### What the builders check -/

/-- Names can be gathered one by one if none of them occurs twice or is there from the start. -/
private theorem NameSet.foldlM_isOk_iff {α ε : Type} {f : NameSet → α → Except ε NameSet}
    (P : α → Prop) (name : α → String)
    (hf : ∀ names a names', f names a = .ok names' ↔
      P a ∧ names.insertNew? (name a) () = some names') {l : List α} {names : NameSet} :
    (∃ names', l.foldlM f names = .ok names') ↔
      (∀ a ∈ l, P a) ∧ (l.map name).Nodup ∧ ∀ a ∈ l, ¬ names.contains (name a) := by
  induction l generalizing names with
  | nil => exact iff_of_true ⟨names, rfl⟩ ⟨nofun, List.nodup_nil, nofun⟩
  | cons a l ih =>
    have hstep : (∃ names', (a :: l).foldlM f names = .ok names') ↔
        (P a ∧ ¬ names.contains (name a)) ∧
          ∃ names', l.foldlM f (names.insert (name a) ()) = .ok names' := by
      rw [List.foldlM_cons]
      constructor
      · rintro ⟨names', h⟩
        obtain ⟨names₁, ha, hl⟩ := Except.bind_eq_ok h
        obtain ⟨hP, hnew⟩ := (hf names a names₁).1 ha
        obtain ⟨hfresh, rfl⟩ := NameMap.insertNew?_eq_some.1 hnew
        exact ⟨⟨hP, hfresh⟩, names', hl⟩
      · rintro ⟨⟨hP, hfresh⟩, names', hl⟩
        have hnew : names.insertNew? (name a) () = some (names.insert (name a) ()) :=
          NameMap.insertNew?_eq_some.2 ⟨hfresh, rfl⟩
        rw [(hf names a _).2 ⟨hP, hnew⟩]
        exact ⟨names', hl⟩
    -- What comes after must not have the name that is taken now.
    have hother : (∀ b ∈ l, ¬ (names.insert (name a) ()).contains (name b)) ↔
        name a ∉ l.map name ∧ ∀ b ∈ l, ¬ names.contains (name b) := by
      simp only [NameMap.contains_insert, not_or, imp_and, forall_and, List.mem_map, not_exists,
        not_and, eq_comm (a := name a)]
    rw [hstep, ih, hother, List.forall_mem_cons, List.forall_mem_cons, List.map_cons,
      List.nodup_cons]
    constructor
    · rintro ⟨⟨hP, hfresh⟩, hl, hnodup, hnew, hnot⟩
      exact ⟨⟨hP, hl⟩, ⟨hnew, hnodup⟩, hfresh, hnot⟩
    · rintro ⟨⟨hP, hl⟩, ⟨hnew, hnodup⟩, hfresh, hnot⟩
      exact ⟨⟨hP, hfresh⟩, hl, hnodup, hnew, hnot⟩

namespace ShardingConfig

variable {c : ShardingConfig}

theorem logicTables_isOk_iff :
    (∃ names, c.logicTables = .ok names) ↔
      (∀ t ∈ c.tables, t.logicTable ≠ "") ∧
        (c.tables.map fun t => Text.lower t.logicTable).Nodup := by
  rw [logicTables, NameSet.foldlM_isOk_iff (fun t : ShardingTable => t.logicTable ≠ "")
    (fun t => Text.lower t.logicTable)]
  · exact and_congr_right' (and_iff_left fun _ _ => Bool.false_ne_true)
  · intro names t names'
    by_cases ht : t.logicTable = ""
    · rw [if_pos ht]
      exact iff_of_false nofun fun h => h.1 ht
    · rw [if_neg ht, and_iff_right ht]
      cases names.insertNew? (Text.lower t.logicTable) () with
      | none => exact iff_of_false nofun nofun
      | some names₁ =>
        exact ⟨fun h => congrArg some (Except.ok.inj h), fun h => congrArg _ (Option.some.inj h)⟩

theorem checkAlgorithms_eq_ok :
    c.checkAlgorithms = .ok ⟨⟩ ↔ ∀ e ∈ c.algorithms.entries, e.2.typeName ≠ "" := by
  have hnone : (c.algorithms.entries.find? fun e => e.2.typeName == "") = none ↔
      ∀ e ∈ c.algorithms.entries, e.2.typeName ≠ "" := by
    rw [List.find?_eq_none]
    exact forall₂_congr fun e _ => not_congr beq_iff_eq
  rw [← hnone, checkAlgorithms]
  cases c.algorithms.entries.find? fun e => e.2.typeName == "" with
  | none => exact iff_of_true rfl rfl
  | some e => exact iff_of_false nofun nofun

/-- **A sharding rule can be built** of a valid configuration. -/
theorem distributedTables_isOk_iff : (∃ names, c.distributedTables = .ok names) ↔ c.Valid := by
  constructor
  · rintro ⟨names, h⟩
    obtain ⟨logic, hlogic, h⟩ := Except.bind_eq_ok h
    obtain ⟨u, halgorithms, -⟩ := Except.bind_eq_ok h
    obtain ⟨hnamed, hdistinct⟩ := logicTables_isOk_iff.1 ⟨logic, hlogic⟩
    exact ⟨hnamed, hdistinct, checkAlgorithms_eq_ok.1 halgorithms⟩
  · intro h
    obtain ⟨logic, hlogic⟩ := logicTables_isOk_iff.2 ⟨h.named, h.distinct⟩
    rw [distributedTables, hlogic, Except.ok_bind, checkAlgorithms_eq_ok.2 h.typed]
    exact ⟨_, rfl⟩

end ShardingConfig

theorem EncryptConfig.check_eq_ok {c : EncryptConfig} : c.check = .ok ⟨⟩ ↔ c.Valid :=
  Except.forM_eq_ok.trans (forall₂_congr fun _ _ =>
    Except.forM_eq_ok.trans (forall₂_congr fun _ _ => Except.check_eq_ok))

theorem ReadwriteConfig.check_eq_ok {c : ReadwriteConfig} {pools : Pools} :
    c.check (some pools) = .ok ⟨⟩ ↔ c.Valid pools :=
  Except.forM_eq_ok.trans (forall₂_congr fun _ _ => checkGroup_eq_ok)

theorem TransactionConfig.check_eq_ok {c : TransactionConfig} : c.check = .ok ⟨⟩ ↔ c.Valid :=
  Except.check_eq_ok.trans List.contains_iff_mem

/-- The text must be a dialect, which an empty one is not. -/
theorem TranslatorConfig.check_eq_ok {c : TranslatorConfig} : c.check = .ok ⟨⟩ ↔ c.Valid := by
  rw [check, Valid]
  split
  · next h =>
    rw [h]
    exact iff_of_false nofun (by decide)
  · cases Dialect.read c.dialectText with
    | ok d => exact iff_of_true rfl rfl
    | error text => exact iff_of_false nofun Bool.false_ne_true

/-- Routes can be loaded for a valid configuration. -/
theorem SingleConfig.loadable_iff_valid {c : SingleConfig} {database : String} {pools : Pools} :
    c.Loadable database pools ↔ c.Valid pools := by
  rw [loadable_iff, valid_iff]
  exact and_congr (forall₂_congr fun _ _ => SingleEntry.readable_iff) Iff.rfl

/-- **The shipped builders** make rules of the valid configurations. The global kinds do not look at
the pools, which are unknown to them. -/
theorem Rule.ofConfig_isOk_iff {ctx : BuildContext} {pools : Pools} {c : RuleConfig}
    (hpools : ctx.pools = some pools ∨ c.kind.scope = .global) :
    (∃ rule, ofConfig ctx c = .ok rule) ↔ c.Valid pools := by
  have hknown (hscope : c.kind.scope = .database) : ctx.pools = some pools :=
    hpools.resolve_right (by rw [hscope]; exact nofun)
  -- The checks give no value.
  have hunit {x : Except RuleFault Unit} : (∃ u, x = .ok u) ↔ x = .ok ⟨⟩ :=
    ⟨fun ⟨_, h⟩ => h, fun h => ⟨⟨⟩, h⟩⟩
  cases c with
  | sharding c => exact Except.map_isOk_iff.trans ShardingConfig.distributedTables_isOk_iff
  | encrypt c => exact Except.map_isOk_iff.trans (hunit.trans EncryptConfig.check_eq_ok)
  | readwriteSplitting c =>
    rw [ofConfig, hknown rfl]
    exact Except.map_isOk_iff.trans (hunit.trans ReadwriteConfig.check_eq_ok)
  | single c =>
    rw [ofConfig, hknown rfl]
    exact Except.map_isOk_iff.trans
      (SingleConfig.load_isOk_iff.trans SingleConfig.loadable_iff_valid)
  | transaction c => exact Except.map_isOk_iff.trans (hunit.trans TransactionConfig.check_eq_ok)
  | sqlFederation c => exact iff_of_true ⟨_, rfl⟩ trivial
  | sqlTranslator c => exact Except.map_isOk_iff.trans (hunit.trans TranslatorConfig.check_eq_ok)

/-! ### Verdicts -/

/-- Only the order within each kind matters for the order in which rules are built. -/
theorem RuleConfig.sortByKind_congr {cs cs' : List RuleConfig}
    (h : ∀ k, (cs.filter fun c => c.kind == k) = cs'.filter fun c => c.kind == k) :
    sortByKind cs = sortByKind cs' := by
  rw [sortByKind, sortByKind, funext h]

/-- The elements without the property have one image each, in the same order. -/
private theorem forall₂_filter_filterMap {α β : Type} {P : α → Prop} [DecidablePred P]
    {f : α → Option β} (hP : ∀ a, f a = none ↔ P a) (l : List α) :
    List.Forall₂ (fun a b => f a = some b) (l.filter fun a => ¬ P a) (l.filterMap f) := by
  induction l with
  | nil => exact .nil
  | cons a l ih =>
    cases ha : f a with
    | none =>
      have hin : P a := (hP a).1 ha
      rw [List.filterMap_cons_none ha, List.filter_cons_of_neg (by simp [hin])]
      exact ih
    | some b =>
      have hout : ¬ P a := fun hin => by cases ha.symm.trans ((hP a).2 hin)
      rw [List.filterMap_cons_some ha, List.filter_cons_of_pos (by simp [hout])]
      exact .cons ha ih

namespace Registry

/-- Building comes down to one **verdict** on each configuration, whether it is admitted. -/
structure Judges (build : List RuleConfig → Except Fault RuleSet) (owner : RuleOwner)
    (Admitted : RuleConfig → Prop) [DecidablePred Admitted] : Prop where
  /-- Rules are built exactly if every configuration is admitted. -/
  succeeds : ∀ cs, (∃ rules, build cs = .ok rules) ↔ ∀ c ∈ cs, Admitted c
  /-- The rules have the configurations that were given, in the order of their kinds. -/
  sorts : ∀ cs rules, build cs = .ok rules → RuleConfig.StablySorted cs (RuleSet.configs rules)
  /-- A failure has one cause for each configuration that is not admitted, in the order of their
  kinds: the cause for which this configuration fails alone. -/
  fails : ∀ cs e, build cs = .error e → ∃ sorted causes, RuleConfig.StablySorted cs sorted ∧
    e = .rules owner causes ∧
      List.Forall₂ (fun c cause => build [c] = .error (.rules owner [cause]))
        (sorted.filter fun c => ¬ Admitted c) causes
  /-- Configurations of different kinds can change places. -/
  exchanges : ∀ cs cs', (∀ k, (cs.filter fun c => c.kind == k) = cs'.filter fun c => c.kind == k) →
    build cs = build cs'

variable {reg : Registry} {owner : RuleOwner} {scope : RuleScope} {ctx : BuildContext}

/-- **Building judges**: what is not refused is admitted. -/
theorem judges_build {Admitted : RuleConfig → Prop} [DecidablePred Admitted]
    (hadmitted : ∀ c, reg.refusal? scope ctx c = none ↔ Admitted c) (hbuilt : ctx.built = []) :
    Judges (reg.build owner scope ctx) owner Admitted where
  succeeds cs := build_isOk_iff.trans (forall₂_congr fun c _ => hadmitted c)
  sorts cs rules h := by
    have hctx : { ctx with built := [] } = ctx := by rw [← hbuilt]
    have hconfigs : RuleSet.configs rules = RuleConfig.sortByKind cs :=
      configs_of_build ctx (by rw [hctx]; exact h)
    rw [hconfigs]
    exact RuleConfig.stablySorted_sortByKind cs
  fails cs e h := by
    have halone (c : RuleConfig) (cause : BuildFault)
        (hc : reg.refusal? scope ctx c = some cause) :
        reg.build owner scope ctx [c] = .error (.rules owner [cause]) := by
      have hsort : RuleConfig.sortByKind [c] = [c] :=
        RuleConfig.sortByKind_eq_self (List.pairwise_singleton _ c)
      rw [build_eq, hsort, List.filterMap_cons_some hc, List.filterMap_nil]
    refine ⟨RuleConfig.sortByKind cs, (RuleConfig.sortByKind cs).filterMap (reg.refusal? scope ctx),
      RuleConfig.stablySorted_sortByKind cs, ?_, ?_⟩
    · rw [build_eq] at h
      split at h
      · cases h
      · exact (Except.error.inj h).symm
    · exact (forall₂_filter_filterMap hadmitted _).imp halone
  exchanges cs cs' h := by
    rw [build, build, RuleConfig.sortByKind_congr h]

/-- **The verdict of the shipped builders**: what is of the scope and valid is not refused. -/
theorem standard_refusal?_eq_none {pools : Pools}
    (hpools : ctx.pools = some pools ∨ scope = .global) (c : RuleConfig) :
    standard.refusal? scope ctx c = none ↔ c.kind.scope = scope ∧ c.Valid pools := by
  have hheld : ¬ standard.held.contains c.kind := Bool.false_ne_true
  have hshipped : standard.shipped = true := rfl
  have hone (rule : Rule) : standard.buildOne scope ctx c = .ok rule ↔
      c.kind.scope = scope ∧ Rule.ofConfig ctx c = .ok rule := by
    rw [buildOne_eq_ok, if_neg hheld, and_iff_right hshipped]
  have hvalid (hscope : c.kind.scope = scope) :
      (∃ rule, Rule.ofConfig ctx c = .ok rule) ↔ c.Valid pools :=
    Rule.ofConfig_isOk_iff (hpools.imp_right hscope.trans)
  rw [refusal?_eq_none]
  constructor
  · rintro ⟨rule, h⟩
    obtain ⟨hscope, hmade⟩ := (hone rule).1 h
    exact ⟨hscope, (hvalid hscope).1 ⟨rule, hmade⟩⟩
  · rintro ⟨hscope, h⟩
    obtain ⟨rule, hmade⟩ := (hvalid hscope).2 h
    exact ⟨rule, (hone rule).2 ⟨hscope, hmade⟩⟩

/-- **Building with the shipped builders judges** each configuration by its scope and its own
validity, for a database as for the proxy as a whole. -/
theorem standard_judges (name : String) (pools : Pools) (schemas : Option (NameMap Schema)) :
    (Judges (fun cs => standard.buildDatabase name cs pools schemas) (.database name)
      fun c => c.kind.scope = .database ∧ c.Valid pools) ∧
    Judges standard.buildGlobal .global fun c => c.kind.scope = .global ∧ c.Valid pools :=
  ⟨judges_build (standard_refusal?_eq_none (.inl rfl)) rfl,
    judges_build (standard_refusal?_eq_none (.inr rfl)) rfl⟩

/-- A valid configuration goes unmentioned; the two others fail in the order of their kinds. -/
example :
    standard.buildDatabase "foo_db"
        [.sqlFederation ⟨false⟩, .sharding ⟨[⟨"t_order", ""⟩], [], none, ∅⟩,
          .readwriteSplitting ⟨[⟨"readwrite_ds", "write_ds", ["read_ds"], none⟩], ∅⟩] ∅ none =
      .error (.rules (.database "foo_db")
        [.refused .readwriteSplitting (.unknownWritePool "write_ds" "readwrite_ds"),
          .wrongScope .sqlFederation .database]) := by
  rfl

end Registry

end ProxyCatalog
