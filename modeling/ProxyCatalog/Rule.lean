import ProxyCatalog.Rule.Config
import ProxyCatalog.Rule.Routes

/-!
# Rules

A rule is what a builder makes of a configuration. It carries its configuration unchanged, so that
a set of rules can be built again from `RuleSet.configs`, and beside it what the proxy asks of it:

* a sharding rule knows the tables that it distributes;
* a single-table rule knows the routes of the tables that nothing distributes, the one part of a
  rule that follows the schemas of the database;
* a held rule holds resources, which are released when the rule is replaced;
* every other rule is its checked configuration.
-/

namespace ProxyCatalog

/-- A rule built from a configuration. -/
inductive Rule where
  | sharding (config : ShardingConfig) (distributed : NameSet)
  | single (config : SingleConfig) (routes : Routes)
  | checked (config : RuleConfig)
  | held (config : RuleConfig)
deriving DecidableEq

namespace Rule

/-- The configuration that the rule was built from. -/
def config : Rule → RuleConfig
  | sharding c _ => .sharding c
  | single c _ => .single c
  | checked c => c
  | held c => c

/-- The kind of the rule. -/
def kind (r : Rule) : RuleKind :=
  r.config.kind

/-- The rule holds resources. -/
def isHeld : Rule → Bool
  | held _ => true
  | _ => false

/-- The folded names of the tables that the rule distributes, if it is a rule that does. -/
def distributed? : Rule → Option NameSet
  | sharding _ tables => some tables
  | _ => none

/-- The rule distributes the table with this name, in any spelling. -/
def distributes (r : Rule) (table : String) : Bool :=
  (r.distributed?.map fun tables => tables.contains (Text.lower table)).getD false

end Rule

/-- The rules of one scope, in the order of their kinds. -/
abbrev RuleSet : Type := List Rule

namespace RuleSet

/-- The configurations of all rules. -/
def configs (rs : RuleSet) : List RuleConfig :=
  rs.map Rule.config

/-- The first rule of a kind. -/
def ofKind? (rs : RuleSet) (k : RuleKind) : Option Rule :=
  rs.find? fun r => r.kind == k

/-- Some rule distributes the table. -/
def distributes (rs : RuleSet) (table : String) : Bool :=
  rs.any fun r => r.distributes table

/-- The kinds of the rules that hold resources. -/
def heldKinds (rs : RuleSet) : List RuleKind :=
  (rs.filter Rule.isHeld).map Rule.kind

/-! ### The single-table rule -/

/-- The configuration and the routes of the first single-table rule. -/
def router? : RuleSet → Option (SingleConfig × Routes)
  | [] => none
  | .single c r :: _ => some (c, r)
  | _ :: rs => router? rs

/-- The position of the first single-table rule. -/
def routerIndex? (rs : RuleSet) : Option Nat :=
  rs.findIdx? fun
    | .single .. => true
    | _ => false

/-- Changes the routes of the first single-table rule. -/
def mapRoutes (f : Routes → Routes) : RuleSet → RuleSet
  | [] => []
  | .single c r :: rs => .single c (f r) :: rs
  | r :: rs => r :: mapRoutes f rs

/-- The pool to which the first single-table rule routes a table. -/
def route? (rs : RuleSet) (schema table : String) : Option String :=
  rs.router?.bind fun r => r.2.find? schema table

/-- Without a single-table rule every table is known; with one, the tables that it routes. -/
def knowsTable (rs : RuleSet) (schema table : String) : Bool :=
  rs.router?.isNone || (rs.route? schema table).isSome

/-- Forgets a table in the first single-table rule. -/
def forgetTable (rs : RuleSet) (schema table : String) : RuleSet :=
  rs.mapRoutes fun r => r.remove schema table

@[simp] theorem configs_mapRoutes (f : Routes → Routes) (rs : RuleSet) :
    configs (rs.mapRoutes f) = configs rs := by
  induction rs with
  | nil => rfl
  | cons r rs ih => cases r <;> simp_all [mapRoutes, configs, Rule.config]

theorem router?_mapRoutes (f : Routes → Routes) (rs : RuleSet) :
    router? (rs.mapRoutes f) = rs.router?.map fun r => (r.1, f r.2) := by
  induction rs with
  | nil => rfl
  | cons r rs ih => cases r <;> simp_all [mapRoutes, router?]

end RuleSet

end ProxyCatalog
