/-!
# Rule kinds

Rules come in seven kinds. The kinds are ordered, and the rules of one scope are built in the order
of their kinds, so that the rule for single tables sees which tables the sharding rules distribute.
-/

namespace ProxyCatalog

/-- Where a rule applies: to one database, or to the whole proxy. -/
inductive RuleScope where
  | database
  | global
deriving DecidableEq

namespace RuleScope

/-- The name of the scope. -/
def name : RuleScope → String
  | database => "Database"
  | global => "Global"

end RuleScope

/-- The kind of a rule. -/
inductive RuleKind where
  | sharding
  | readwriteSplitting
  | encrypt
  | single
  | transaction
  | sqlFederation
  | sqlTranslator
deriving DecidableEq, Inhabited

namespace RuleKind

/-- The kinds in the order in which their rules are built. -/
def all : List RuleKind :=
  [sharding, readwriteSplitting, encrypt, single, transaction, sqlFederation, sqlTranslator]

/-- The place of the kind in the order of building. -/
def rank : RuleKind → Nat
  | sharding => 0
  | readwriteSplitting => 1
  | encrypt => 2
  | single => 3
  | transaction => 4
  | sqlFederation => 5
  | sqlTranslator => 6

/-- The name of the kind in messages. -/
def tag : RuleKind → String
  | sharding => "SHARDING"
  | readwriteSplitting => "READWRITE_SPLITTING"
  | encrypt => "ENCRYPT"
  | single => "SINGLE"
  | transaction => "TRANSACTION"
  | sqlFederation => "SQL_FEDERATION"
  | sqlTranslator => "SQL_TRANSLATOR"

/-- The name of the kind in configurations. -/
def key : RuleKind → String
  | sharding => "sharding"
  | readwriteSplitting => "readwrite_splitting"
  | encrypt => "encrypt"
  | single => "single"
  | transaction => "transaction"
  | sqlFederation => "sql_federation"
  | sqlTranslator => "sql_translator"

/-- Where rules of the kind apply. -/
def scope : RuleKind → RuleScope
  | sharding | readwriteSplitting | encrypt | single => .database
  | transaction | sqlFederation | sqlTranslator => .global

/-- The kind with this name in configurations. -/
def ofKey? (text : String) : Option RuleKind :=
  all.find? fun k => k.key == text

@[simp] theorem ofKey?_key (k : RuleKind) : ofKey? k.key = some k := by
  cases k <;> rfl

end RuleKind

end ProxyCatalog
