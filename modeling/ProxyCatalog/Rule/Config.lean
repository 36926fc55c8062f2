import ProxyCatalog.Document
import ProxyCatalog.Rule.Kind

/-!
# Rule configurations

What an operator declares about a rule, one structure per kind. A written configuration is an
object with the kind under `type` and the fields of the kind beside it, or the list of the kind and
the fields in their order. Fields that are not declared are ignored. All fields of a configuration
as a whole have defaults; some fields of its parts have none.

`RuleConfig.ofDocument?` reads a configuration and `RuleConfig.toDocument` writes one with all its
fields.
-/

namespace ProxyCatalog

/-- An algorithm by its type and parameters. -/
structure AlgorithmConfig where
  typeName : String
  props : NameMap String
deriving DecidableEq

namespace AlgorithmConfig

/-- The names of the fields, in their order. -/
def fieldNames : List String :=
  ["type_name", "props"]

/-- Reads an algorithm. -/
def ofDocument? (d : Document) : Option AlgorithmConfig := do
  let fs ← d.fields? fieldNames
  return {
    typeName := ← Document.required fs "type_name" Document.text?
    props := ← Document.withDefault fs "props" (Document.map? Document.text?) ∅ }

/-- Writes an algorithm. -/
def toDocument (a : AlgorithmConfig) : Document :=
  .object [("type_name", .text a.typeName), ("props", .ofMap .text a.props)]

end AlgorithmConfig

/-! ### Sharding -/

/-- A logic table and the physical tables it is distributed over. -/
structure ShardingTable where
  logicTable : String
  dataNodes : String
deriving DecidableEq

namespace ShardingTable

/-- The names of the fields, in their order. -/
def fieldNames : List String :=
  ["logic_table", "actual_data_nodes"]

/-- Reads a logic table. -/
def ofDocument? (d : Document) : Option ShardingTable := do
  let fs ← d.fields? fieldNames
  return {
    logicTable := ← Document.required fs "logic_table" Document.text?
    dataNodes := ← Document.withDefault fs "actual_data_nodes" Document.text? "" }

/-- Writes a logic table. -/
def toDocument (t : ShardingTable) : Document :=
  .object [("logic_table", .text t.logicTable), ("actual_data_nodes", .text t.dataNodes)]

end ShardingTable

/-- Logic tables that are distributed and tables that every data node holds a copy of. -/
structure ShardingConfig where
  tables : List ShardingTable
  broadcastTables : List String
  defaultColumn : Option String
  algorithms : NameMap AlgorithmConfig
deriving DecidableEq

namespace ShardingConfig

/-- The names of the fields, in their order. -/
def fieldNames : List String :=
  ["tables", "broadcast_tables", "default_sharding_column", "sharding_algorithms"]

/-- Reads the fields of a sharding rule. -/
def ofDocument? (d : Document) : Option ShardingConfig := do
  let fs ← d.fields? fieldNames
  return {
    tables := ← Document.withDefault fs "tables" (Document.list? ShardingTable.ofDocument?) []
    broadcastTables := ←
      Document.withDefault fs "broadcast_tables" (Document.list? Document.text?) []
    defaultColumn := ←
      Document.withDefault fs "default_sharding_column" (Document.nullable? Document.text?) none
    algorithms := ← Document.withDefault fs "sharding_algorithms"
      (Document.map? AlgorithmConfig.ofDocument?) ∅ }

/-- The fields of a sharding rule. -/
def toFields (c : ShardingConfig) : List (String × Document) :=
  [("tables", .ofList ShardingTable.toDocument c.tables),
    ("broadcast_tables", .ofList .text c.broadcastTables),
    ("default_sharding_column", .ofOption .text c.defaultColumn),
    ("sharding_algorithms", .ofMap AlgorithmConfig.toDocument c.algorithms)]

end ShardingConfig

/-! ### Encryption -/

/-- A column that is stored encrypted. -/
structure EncryptColumn where
  name : String
  cipherColumn : String
  encryptor : String
deriving DecidableEq

namespace EncryptColumn

/-- The names of the fields, in their order. -/
def fieldNames : List String :=
  ["name", "cipher_column", "encryptor_name"]

/-- Reads an encrypted column. -/
def ofDocument? (d : Document) : Option EncryptColumn := do
  let fs ← d.fields? fieldNames
  return {
    name := ← Document.required fs "name" Document.text?
    cipherColumn := ← Document.required fs "cipher_column" Document.text?
    encryptor := ← Document.required fs "encryptor_name" Document.text? }

/-- Writes an encrypted column. -/
def toDocument (c : EncryptColumn) : Document :=
  .object [("name", .text c.name), ("cipher_column", .text c.cipherColumn),
    ("encryptor_name", .text c.encryptor)]

end EncryptColumn

/-- A table with encrypted columns. -/
structure EncryptTable where
  name : String
  columns : List EncryptColumn
deriving DecidableEq

namespace EncryptTable

/-- The names of the fields, in their order. -/
def fieldNames : List String :=
  ["name", "columns"]

/-- Reads a table with encrypted columns. -/
def ofDocument? (d : Document) : Option EncryptTable := do
  let fs ← d.fields? fieldNames
  return {
    name := ← Document.required fs "name" Document.text?
    columns := ← Document.required fs "columns" (Document.list? EncryptColumn.ofDocument?) }

/-- Writes a table with encrypted columns. -/
def toDocument (t : EncryptTable) : Document :=
  .object [("name", .text t.name), ("columns", .ofList EncryptColumn.toDocument t.columns)]

end EncryptTable

/-- Tables with encrypted columns, and the encryptors they use. -/
structure EncryptConfig where
  tables : List EncryptTable
  encryptors : NameMap AlgorithmConfig
deriving DecidableEq

namespace EncryptConfig

/-- The names of the fields, in their order. -/
def fieldNames : List String :=
  ["tables", "encryptors"]

/-- Reads the fields of an encryption rule. -/
def ofDocument? (d : Document) : Option EncryptConfig := do
  let fs ← d.fields? fieldNames
  return {
    tables := ← Document.withDefault fs "tables" (Document.list? EncryptTable.ofDocument?) []
    encryptors := ←
      Document.withDefault fs "encryptors" (Document.map? AlgorithmConfig.ofDocument?) ∅ }

/-- The fields of an encryption rule. -/
def toFields (c : EncryptConfig) : List (String × Document) :=
  [("tables", .ofList EncryptTable.toDocument c.tables),
    ("encryptors", .ofMap AlgorithmConfig.toDocument c.encryptors)]

end EncryptConfig

/-! ### Readwrite splitting -/

/-- A pool for writes and the pools among which reads are spread. -/
structure ReadwriteGroup where
  name : String
  writePool : String
  readPools : List String
  balancer : Option String
deriving DecidableEq

namespace ReadwriteGroup

/-- The names of the fields, in their order. -/
def fieldNames : List String :=
  ["name", "write_data_source_name", "read_data_source_names", "load_balancer_name"]

/-- Reads a group of pools. -/
def ofDocument? (d : Document) : Option ReadwriteGroup := do
  let fs ← d.fields? fieldNames
  return {
    name := ← Document.required fs "name" Document.text?
    writePool := ← Document.required fs "write_data_source_name" Document.text?
    readPools := ←
      Document.required fs "read_data_source_names" (Document.list? Document.text?)
    balancer := ←
      Document.withDefault fs "load_balancer_name" (Document.nullable? Document.text?) none }

/-- Writes a group of pools. -/
def toDocument (g : ReadwriteGroup) : Document :=
  .object [("name", .text g.name), ("write_data_source_name", .text g.writePool),
    ("read_data_source_names", .ofList .text g.readPools),
    ("load_balancer_name", .ofOption .text g.balancer)]

end ReadwriteGroup

/-- Groups of pools, and the load balancers they use. -/
structure ReadwriteConfig where
  groups : List ReadwriteGroup
  balancers : NameMap AlgorithmConfig
deriving DecidableEq

namespace ReadwriteConfig

/-- The names of the fields, in their order. -/
def fieldNames : List String :=
  ["data_sources", "load_balancers"]

/-- Reads the fields of a readwrite-splitting rule. -/
def ofDocument? (d : Document) : Option ReadwriteConfig := do
  let fs ← d.fields? fieldNames
  return {
    groups := ←
      Document.withDefault fs "data_sources" (Document.list? ReadwriteGroup.ofDocument?) []
    balancers := ←
      Document.withDefault fs "load_balancers" (Document.map? AlgorithmConfig.ofDocument?) ∅ }

/-- The fields of a readwrite-splitting rule. -/
def toFields (c : ReadwriteConfig) : List (String × Document) :=
  [("data_sources", .ofList ReadwriteGroup.toDocument c.groups),
    ("load_balancers", .ofMap AlgorithmConfig.toDocument c.balancers)]

end ReadwriteConfig

/-! ### Single tables -/

/-- Tables that live in one pool each: those listed, as `pool.table` or `pool.schema.table`, and by
default all that nothing distributes. -/
structure SingleConfig where
  entries : List String
  defaultPool : Option String
deriving DecidableEq

namespace SingleConfig

/-- The names of the fields, in their order. -/
def fieldNames : List String :=
  ["tables", "default_data_source"]

/-- Reads the fields of a single-table rule. -/
def ofDocument? (d : Document) : Option SingleConfig := do
  let fs ← d.fields? fieldNames
  return {
    entries := ← Document.withDefault fs "tables" (Document.list? Document.text?) []
    defaultPool := ←
      Document.withDefault fs "default_data_source" (Document.nullable? Document.text?) none }

/-- The fields of a single-table rule. -/
def toFields (c : SingleConfig) : List (String × Document) :=
  [("tables", .ofList .text c.entries), ("default_data_source", .ofOption .text c.defaultPool)]

end SingleConfig

/-! ### Global rules -/

/-- The default kind of transaction. -/
structure TransactionConfig where
  defaultType : String
  provider : Option String
  props : NameMap String
deriving DecidableEq

namespace TransactionConfig

/-- The names of the fields, in their order. -/
def fieldNames : List String :=
  ["default_type", "provider_type", "props"]

/-- Reads the fields of a transaction rule. -/
def ofDocument? (d : Document) : Option TransactionConfig := do
  let fs ← d.fields? fieldNames
  return {
    defaultType := ← Document.withDefault fs "default_type" Document.text? ""
    provider := ←
      Document.withDefault fs "provider_type" (Document.nullable? Document.text?) none
    props := ← Document.withDefault fs "props" (Document.map? Document.text?) ∅ }

/-- The fields of a transaction rule. -/
def toFields (c : TransactionConfig) : List (String × Document) :=
  [("default_type", .text c.defaultType), ("provider_type", .ofOption .text c.provider),
    ("props", .ofMap .text c.props)]

end TransactionConfig

/-- Whether queries may join across databases. -/
structure FederationConfig where
  enabled : Bool
deriving DecidableEq

namespace FederationConfig

/-- The names of the fields, in their order. -/
def fieldNames : List String :=
  ["sql_federation_enabled"]

/-- Reads the fields of a federation rule. -/
def ofDocument? (d : Document) : Option FederationConfig := do
  let fs ← d.fields? fieldNames
  return { enabled := ← Document.withDefault fs "sql_federation_enabled" Document.bool? false }

/-- The fields of a federation rule. -/
def toFields (c : FederationConfig) : List (String × Document) :=
  [("sql_federation_enabled", .bool c.enabled)]

end FederationConfig

/-- The dialect that statements are translated to. -/
structure TranslatorConfig where
  dialectText : String
  keepOnFailure : Bool
deriving DecidableEq

namespace TranslatorConfig

/-- The names of the fields, in their order. -/
def fieldNames : List String :=
  ["type_name", "use_original_sql_when_translating_failed"]

/-- Reads the fields of a translator rule. -/
def ofDocument? (d : Document) : Option TranslatorConfig := do
  let fs ← d.fields? fieldNames
  return {
    dialectText := ← Document.withDefault fs "type_name" Document.text? ""
    keepOnFailure := ← Document.withDefault fs "use_original_sql_when_translating_failed"
      Document.bool? false }

/-- The fields of a translator rule. -/
def toFields (c : TranslatorConfig) : List (String × Document) :=
  [("type_name", .text c.dialectText),
    ("use_original_sql_when_translating_failed", .bool c.keepOnFailure)]

end TranslatorConfig

/-! ### All kinds -/

/-- A rule configuration. -/
inductive RuleConfig where
  | sharding (config : ShardingConfig)
  | encrypt (config : EncryptConfig)
  | readwriteSplitting (config : ReadwriteConfig)
  | single (config : SingleConfig)
  | transaction (config : TransactionConfig)
  | sqlFederation (config : FederationConfig)
  | sqlTranslator (config : TranslatorConfig)
deriving DecidableEq

namespace RuleConfig

/-- The kind of the rule. -/
def kind : RuleConfig → RuleKind
  | sharding _ => .sharding
  | encrypt _ => .encrypt
  | readwriteSplitting _ => .readwriteSplitting
  | single _ => .single
  | transaction _ => .transaction
  | sqlFederation _ => .sqlFederation
  | sqlTranslator _ => .sqlTranslator

/-- Reads the fields of a configuration of a known kind. -/
def ofFields? (k : RuleKind) (d : Document) : Option RuleConfig :=
  match k with
  | .sharding => (ShardingConfig.ofDocument? d).map sharding
  | .encrypt => (EncryptConfig.ofDocument? d).map encrypt
  | .readwriteSplitting => (ReadwriteConfig.ofDocument? d).map readwriteSplitting
  | .single => (SingleConfig.ofDocument? d).map single
  | .transaction => (TransactionConfig.ofDocument? d).map transaction
  | .sqlFederation => (FederationConfig.ofDocument? d).map sqlFederation
  | .sqlTranslator => (TranslatorConfig.ofDocument? d).map sqlTranslator

/-- The fields of a configuration. -/
def toFields : RuleConfig → List (String × Document)
  | sharding c => c.toFields
  | encrypt c => c.toFields
  | readwriteSplitting c => c.toFields
  | single c => c.toFields
  | transaction c => c.toFields
  | sqlFederation c => c.toFields
  | sqlTranslator c => c.toFields

/-- Reads a configuration: first its kind, then the fields of that kind. -/
def ofDocument? : Document → Option RuleConfig
  | .object fs => do
    let tag ← (fs.lookup "type").bind Document.text?
    let k ← RuleKind.ofKey? tag
    ofFields? k (.object (fs.filter fun f => f.1 != "type"))
  | .list (tag :: fields) => do
    let k ← tag.text?.bind RuleKind.ofKey?
    ofFields? k (.list fields)
  | _ => none

/-- Writes a configuration with all its fields. -/
def toDocument (c : RuleConfig) : Document :=
  .object (("type", .text c.kind.key) :: c.toFields)

/-- Configurations in the order of their kinds; those of one kind keep their order. -/
def sortByKind (cs : List RuleConfig) : List RuleConfig :=
  RuleKind.all.flatMap fun k => cs.filter fun c => c.kind == k

theorem mem_sortByKind {c : RuleConfig} {cs : List RuleConfig} :
    c ∈ sortByKind cs ↔ c ∈ cs := by
  simp only [sortByKind, List.mem_flatMap, List.mem_filter, beq_iff_eq]
  constructor
  · rintro ⟨k, _, h, _⟩; exact h
  · intro h; exact ⟨c.kind, by cases c.kind <;> decide, h, rfl⟩

end RuleConfig

end ProxyCatalog
