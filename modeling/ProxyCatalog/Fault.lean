import ProxyCatalog.Dialect
import ProxyCatalog.Rule.Kind
import ProxyCatalog.Text.Numeral

/-!
# Faults

Everything that can go wrong in the catalog, as causes. The wording of each cause is given once, by
`message`, and `Fault.category` sorts the causes into the few classes that callers tell apart.
-/

namespace ProxyCatalog

/-! ### Properties -/

/-- Why the value of a well-known property is refused. -/
inductive PropertyFault where
  | numeral (fault : Text.NumeralFault)
  | flag
  | dialect (text : String)
deriving DecidableEq

namespace PropertyFault

/-- The wording of the fault. -/
def message : PropertyFault → String
  | numeral fault => fault.message
  | flag => "provided string was not \x60true\x60 or \x60false\x60"
  | dialect text => Dialect.unsupportedMessage text

end PropertyFault

/-! ### Rules -/

/-- Why one rule configuration is refused. -/
inductive RuleFault where
  /-- A builder was handed a configuration of another kind. -/
  | mismatched (expected received : RuleKind)
  | emptyLogicTable
  | duplicateLogicTable (table : String)
  | untypedAlgorithm (algorithm : String)
  | malformedEntry (entry : String)
  | unknownEntryPool (entry : String)
  | unknownDefaultPool (pool : String)
  | undeclaredEncryptor (encryptor table column : String)
  | unknownWritePool (pool group : String)
  | unknownReadPool (pool group : String)
  | undeclaredBalancer (balancer group : String)
  | unsupportedTransaction (text : String)
  | missingTranslator
  | unknownTranslator (text : String)
  /-- What a builder that is not shipped has against a configuration. -/
  | objection (text : String)
deriving DecidableEq

namespace RuleFault

/-- The wording of the fault. -/
def message : RuleFault → String
  | mismatched expected received =>
    "builder of " ++ expected.tag ++ " received a " ++ received.tag ++ " configuration"
  | emptyLogicTable => "empty logic table name"
  | duplicateLogicTable table => "duplicate logic table " ++ table
  | untypedAlgorithm algorithm => "sharding algorithm " ++ algorithm ++ " has no type"
  | malformedEntry entry => "invalid single table " ++ entry
  | unknownEntryPool entry => "single table " ++ entry ++ " references unknown data source"
  | unknownDefaultPool pool => "default data source " ++ pool ++ " does not exist"
  | undeclaredEncryptor encryptor table column =>
    "encryptor " ++ encryptor ++ " of column " ++ table ++ "." ++ column ++ " is not declared"
  | unknownWritePool pool group =>
    "write data source " ++ pool ++ " of " ++ group ++ " does not exist"
  | unknownReadPool pool group =>
    "read data source " ++ pool ++ " of " ++ group ++ " does not exist"
  | undeclaredBalancer balancer group =>
    "load balancer " ++ balancer ++ " of " ++ group ++ " is not declared"
  | unsupportedTransaction text => "unsupported transaction type " ++ text
  | missingTranslator => "sql translator type is required"
  | unknownTranslator text => "invalid sql translator type: " ++ Dialect.unsupportedMessage text
  | objection text => text

end RuleFault

/-- Why a configuration contributes no rule to a set of rules. -/
inductive BuildFault where
  | wrongScope (kind : RuleKind) (scope : RuleScope)
  | noBuilder (kind : RuleKind)
  | refused (kind : RuleKind) (fault : RuleFault)
deriving DecidableEq

namespace BuildFault

/-- The wording of the fault. -/
def message : BuildFault → String
  | wrongScope kind scope => kind.tag ++ " is not a " ++ scope.name ++ " rule"
  | noBuilder kind => "no rule builder registered for " ++ kind.tag
  | refused kind fault => kind.tag ++ ": " ++ fault.message

end BuildFault

/-- The set of rules being built: that of a database, or the global one. -/
inductive RuleOwner where
  | database (name : String)
  | global
deriving DecidableEq

namespace RuleOwner

/-- The owner in messages. -/
def label : RuleOwner → String
  | database name => "database " ++ name
  | global => "global"

end RuleOwner

/-! ### The durable store -/

/-- The operations of the durable store, each of which may be out of reach. -/
inductive StoreMethod where
  | loadDatabaseNames
  | loadPools
  | loadDatabaseRules
  | loadGlobalRules
  | loadProperties
  | loadSchemas
  | loadSchema
  | loadViews
  | persistSchema
  | deleteObjects
  | dropSchema
  | loadRows
  | persistRows
  | close
deriving DecidableEq

namespace StoreMethod

/-- Every operation. -/
def all : List StoreMethod :=
  [loadDatabaseNames, loadPools, loadDatabaseRules, loadGlobalRules, loadProperties, loadSchemas,
    loadSchema, loadViews, persistSchema, deleteObjects, dropSchema, loadRows, persistRows, close]

/-- The name of the operation in messages. -/
def name : StoreMethod → String
  | loadDatabaseNames => "load_database_names"
  | loadPools => "load_data_sources"
  | loadDatabaseRules => "load_database_rules"
  | loadGlobalRules => "load_global_rules"
  | loadProperties => "load_props"
  | loadSchemas => "load_schemas"
  | loadSchema => "load_schema"
  | loadViews => "load_views"
  | persistSchema => "persist_schema"
  | deleteObjects => "delete_schema_objects"
  | dropSchema => "drop_schema"
  | loadRows => "load_schema_data"
  | persistRows => "persist_schema_data"
  | close => "close"

/-- The operation with this name. -/
def ofName? (text : String) : Option StoreMethod :=
  all.find? fun m => m.name == text

end StoreMethod

/-! ### All faults -/

/-- Why an operation fails. -/
inductive Fault where
  | invalidProperty (key value : String) (cause : PropertyFault)
  | rules (owner : RuleOwner) (causes : List BuildFault)
  | rule (cause : RuleFault)
  | unreadableValue (table column value : String)
  | rowTooWide (key table : String) (values columns : Nat)
  | databaseNotFound (name : String)
  | poolNotFound (database pool : String)
  | storeFailed (method : StoreMethod)
  | storeReadOnly
  | unreachablePool (name : String)
  | unreachableStorage (database : String)
  | unreleased (kind : RuleKind)
deriving DecidableEq

/-- The classes of faults that callers tell apart. -/
inductive FaultCategory where
  | invalidProperty
  | buildRules
  | convertRowValue
  | databaseNotFound
  | poolNotFound
  | internal
deriving DecidableEq

namespace Fault

/-- The class of the fault. -/
def category : Fault → FaultCategory
  | invalidProperty .. => .invalidProperty
  | rules .. => .buildRules
  | unreadableValue .. => .convertRowValue
  | databaseNotFound _ => .databaseNotFound
  | poolNotFound .. => .poolNotFound
  | _ => .internal

/-- The wording of the fault. -/
def message : Fault → String
  | invalidProperty key value cause =>
    "Invalid property, key:" ++ key ++ ", value:" ++ value ++ ", err:" ++ cause.message
  | rules owner causes =>
    "Failed to build rules, scope:" ++ owner.label ++ ", failures:["
      ++ "; ".intercalate (causes.map BuildFault.message) ++ "]"
  | rule cause => cause.message
  | unreadableValue table column value =>
    "Failed to convert row value, table:" ++ table ++ ", column:" ++ column ++ ", value:" ++ value
  | rowTooWide key table values columns =>
    "row " ++ key ++ " of table " ++ table ++ " has " ++ toString values ++ " values but only "
      ++ toString columns ++ " columns"
  | databaseNotFound name => "Database not found, name:" ++ name
  | poolNotFound database pool =>
    "Data source not found, database:" ++ database ++ ", data_source:" ++ pool
  | storeFailed method => "store failed: " ++ method.name
  | storeReadOnly => "durable store is not writable"
  | unreachablePool name => "cannot connect to " ++ name
  | unreachableStorage database => "storage engine of " ++ database ++ " is unreachable"
  | unreleased kind => "cannot release " ++ kind.tag

end Fault

end ProxyCatalog
