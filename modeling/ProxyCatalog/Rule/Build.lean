import ProxyCatalog.Rule.Single

/-!
# Building rules

A builder checks a configuration of its kind and makes a rule of it. `Rule.build` is the builder
that the proxy ships for each kind; a `Registry` says which kinds have a builder, for which of them
the rule is one that holds resources, and what the builders of such rules object to.

`Registry.build` builds all configurations of a scope in the order of their kinds, each builder
seeing the rules built before. It does not stop at the first fault: every configuration that is
refused is reported, and any refusal fails the whole set.
-/

namespace ProxyCatalog

/-! ### Checks -/

namespace ShardingConfig

/-- The folded logic tables, none of which may be empty or occur twice. -/
def logicTables (c : ShardingConfig) : Except RuleFault NameSet :=
  c.tables.foldlM (fun names t =>
    if t.logicTable = "" then .error .emptyLogicTable
    else match names.insertNew? (Text.lower t.logicTable) () with
      | none => .error (.duplicateLogicTable t.logicTable)
      | some names => .ok names) ∅

/-- Every algorithm has a type. -/
def checkAlgorithms (c : ShardingConfig) : Except RuleFault Unit :=
  match c.algorithms.entries.find? fun e => e.2.typeName == "" with
  | some e => .error (.untypedAlgorithm e.1)
  | none => .ok ()

/-- The folded names of the tables that the rule distributes. -/
def distributedTables (c : ShardingConfig) : Except RuleFault NameSet := do
  let names ← c.logicTables
  c.checkAlgorithms
  return names.overlay (NameSet.ofNames (c.broadcastTables.map Text.lower))

end ShardingConfig

namespace EncryptConfig

/-- Every encrypted column names a declared encryptor. -/
def check (c : EncryptConfig) : Except RuleFault Unit :=
  c.tables.forM fun t => t.columns.forM fun column =>
    if c.encryptors.contains column.encryptor then .ok ()
    else .error (.undeclaredEncryptor column.encryptor t.name column.name)

end EncryptConfig

namespace ReadwriteConfig

/-- The pools of a group exist, and its load balancer is declared. Where the pools are unknown,
none exists. -/
def checkGroup (c : ReadwriteConfig) (pools : Option Pools) (g : ReadwriteGroup) :
    Except RuleFault Unit := do
  let has (name : String) : Bool := (pools.map (·.contains name)).getD false
  if !has g.writePool then throw (.unknownWritePool g.writePool g.name)
  g.readPools.forM fun r => if has r then .ok () else .error (.unknownReadPool r g.name)
  match g.balancer with
  | none => return
  | some b => if !c.balancers.contains b then throw (.undeclaredBalancer b g.name)

/-- Every group is in order. -/
def check (c : ReadwriteConfig) (pools : Option Pools) : Except RuleFault Unit :=
  c.groups.forM (c.checkGroup pools)

end ReadwriteConfig

namespace TransactionConfig

/-- The default type is one of the three kinds of transaction, in any case of letters. -/
def check (c : TransactionConfig) : Except RuleFault Unit :=
  if ["LOCAL", "XA", "BASE"].contains (Text.upper c.defaultType) then .ok ()
  else .error (.unsupportedTransaction c.defaultType)

end TransactionConfig

namespace TranslatorConfig

/-- The text names a dialect. -/
def check (c : TranslatorConfig) : Except RuleFault Unit :=
  if c.dialectText = "" then .error .missingTranslator
  else match Dialect.read c.dialectText with
    | .ok _ => .ok ()
    | .error text => .error (.unknownTranslator text)

end TranslatorConfig

/-! ### Builders -/

/-- What a builder may look at. -/
structure BuildContext where
  /-- The database of the rule; there is none for global rules. -/
  database : Option String
  pools : Option Pools
  schemas : Option (NameMap Schema)
  /-- The rules of the same scope that are built already. -/
  built : RuleSet

namespace Rule

/-- Makes a rule of a configuration, whatever its kind. -/
def ofConfig (ctx : BuildContext) : RuleConfig → Except RuleFault Rule
  | .sharding c => c.distributedTables.map (sharding c)
  | .single c =>
    (c.load (ctx.database.getD "") ctx.pools ctx.schemas ctx.built).map (single c)
  | .encrypt c => c.check.map fun _ => checked (.encrypt c)
  | .readwriteSplitting c => (c.check ctx.pools).map fun _ => checked (.readwriteSplitting c)
  | .transaction c => c.check.map fun _ => checked (.transaction c)
  | .sqlFederation c => .ok (checked (.sqlFederation c))
  | .sqlTranslator c => c.check.map fun _ => checked (.sqlTranslator c)

/-- The shipped builder of a kind, which refuses configurations of other kinds. -/
def build (k : RuleKind) (ctx : BuildContext) (c : RuleConfig) : Except RuleFault Rule :=
  if c.kind = k then ofConfig ctx c else .error (.mismatched k c.kind)

end Rule

/-- The builders at hand: the shipped ones, if they are registered, and for some kinds builders of
rules that hold resources, which take the place of the shipped ones. -/
structure Registry where
  shipped : Bool
  held : List RuleKind
  /-- What the builder of a rule that holds resources has against a configuration, if anything. -/
  objection? : RuleConfig → Option String

namespace Registry

/-- The shipped builders, one for each kind. -/
def standard : Registry where
  shipped := true
  held := []
  objection? _ := none

/-- Makes a rule that holds resources of a configuration, unless its builder objects. -/
def buildHeld (reg : Registry) (c : RuleConfig) : Except RuleFault Rule :=
  match reg.objection? c with
  | none => .ok (.held c)
  | some text => .error (.objection text)

/-- Builds one configuration. -/
def buildOne (reg : Registry) (scope : RuleScope) (ctx : BuildContext) (c : RuleConfig) :
    Except BuildFault Rule :=
  if c.kind.scope ≠ scope then .error (.wrongScope c.kind scope)
  else if reg.held.contains c.kind then (reg.buildHeld c).mapError (.refused c.kind)
  else if reg.shipped then (Rule.build c.kind ctx c).mapError (.refused c.kind)
  else .error (.noBuilder c.kind)

/-- Builds configurations in the given order, and collects the rules and the faults. -/
def buildEach (reg : Registry) (scope : RuleScope) (ctx : BuildContext) :
    List RuleConfig → RuleSet × List BuildFault
  | [] => (ctx.built, [])
  | c :: cs =>
    match reg.buildOne scope ctx c with
    | .ok rule => buildEach reg scope { ctx with built := ctx.built ++ [rule] } cs
    | .error fault =>
      let (rules, faults) := buildEach reg scope ctx cs
      (rules, fault :: faults)

/-- Builds the rules of a scope in the order of their kinds. -/
def build (reg : Registry) (owner : RuleOwner) (scope : RuleScope) (ctx : BuildContext)
    (cs : List RuleConfig) : Except Fault RuleSet :=
  match reg.buildEach scope ctx (RuleConfig.sortByKind cs) with
  | (rules, []) => .ok rules
  | (_, faults) => .error (.rules owner faults)

/-- Builds the rules of a database. Its schemas are unknown where they are yet to be discovered. -/
def buildDatabase (reg : Registry) (database : String) (cs : List RuleConfig) (pools : Pools)
    (schemas : Option (NameMap Schema)) : Except Fault RuleSet :=
  reg.build (.database database) .database ⟨some database, some pools, schemas, []⟩ cs

/-- Builds the global rules. -/
def buildGlobal (reg : Registry) (cs : List RuleConfig) : Except Fault RuleSet :=
  reg.build .global .global ⟨none, none, none, []⟩ cs

end Registry

end ProxyCatalog
