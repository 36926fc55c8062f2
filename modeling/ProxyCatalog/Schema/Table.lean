import ProxyCatalog.Document
import ProxyCatalog.Text.Fold

/-!
# Tables and views

The definitions of tables and views, as storage engines report them and as changes carry them. They
are values: a table is replaced as a whole, never column by column. Names keep their spelling;
folding is the business of the schema that holds them.

Each definition has a written form, read by `ofDocument?` and written by `toDocument`. Fields of a
written definition that are not declared are ignored, and a missing field stands for its default.
-/

namespace ProxyCatalog

/-- The type of a column. -/
inductive ColumnType where
  | boolean
  | tinyInt
  | smallInt
  | integer
  | bigInt
  | float
  | double
  | decimal
  | char
  | varchar
  | text
  | date
  | time
  | timestamp
  | binary
  | json
deriving DecidableEq

namespace ColumnType

/-- Every column type. -/
def all : List ColumnType :=
  [boolean, tinyInt, smallInt, integer, bigInt, float, double, decimal, char, varchar, text, date,
    time, timestamp, binary, json]

/-- The name of the type. -/
def name : ColumnType → String
  | boolean => "BOOLEAN"
  | tinyInt => "TINY_INT"
  | smallInt => "SMALL_INT"
  | integer => "INTEGER"
  | bigInt => "BIG_INT"
  | float => "FLOAT"
  | double => "DOUBLE"
  | decimal => "DECIMAL"
  | char => "CHAR"
  | varchar => "VARCHAR"
  | text => "TEXT"
  | date => "DATE"
  | time => "TIME"
  | timestamp => "TIMESTAMP"
  | binary => "BINARY"
  | json => "JSON"

/-- The types whose values are integers. -/
def isIntegral : ColumnType → Bool
  | tinyInt | smallInt | integer | bigInt => true
  | _ => false

/-- The types whose values are floating-point numbers. -/
def isFloating : ColumnType → Bool
  | float | double => true
  | _ => false

/-- The type with exactly this name. -/
def ofName? (s : String) : Option ColumnType :=
  all.find? fun t => t.name == s

@[simp] theorem ofName?_name (t : ColumnType) : ofName? t.name = some t := by
  cases t <;> rfl

/-- Reads a column type. -/
def ofDocument? : Document → Option ColumnType :=
  Document.tag? ofName?

/-- Writes a column type. -/
def toDocument (t : ColumnType) : Document :=
  .text t.name

end ColumnType

/-- A column of a table. -/
structure Column where
  name : String
  dataType : ColumnType
  primaryKey : Bool
  generated : Bool
  caseSensitive : Bool
  visible : Bool
  unsigned : Bool
deriving DecidableEq

namespace Column

/-- The names of the fields, in their order. -/
def fieldNames : List String :=
  ["name", "data_type", "primary_key", "generated", "case_sensitive", "visible", "unsigned"]

/-- Reads a column. A column is visible unless it says otherwise. -/
def ofDocument? (d : Document) : Option Column := do
  let fs ← d.fields? fieldNames
  return {
    name := ← Document.required fs "name" Document.text?
    dataType := ← Document.required fs "data_type" ColumnType.ofDocument?
    primaryKey := ← Document.withDefault fs "primary_key" Document.bool? false
    generated := ← Document.withDefault fs "generated" Document.bool? false
    caseSensitive := ← Document.withDefault fs "case_sensitive" Document.bool? false
    visible := ← Document.withDefault fs "visible" Document.bool? true
    unsigned := ← Document.withDefault fs "unsigned" Document.bool? false }

/-- Writes a column with all its fields. -/
def toDocument (c : Column) : Document :=
  .object [("name", .text c.name), ("data_type", c.dataType.toDocument),
    ("primary_key", .bool c.primaryKey), ("generated", .bool c.generated),
    ("case_sensitive", .bool c.caseSensitive), ("visible", .bool c.visible),
    ("unsigned", .bool c.unsigned)]

end Column

/-- An index of a table. -/
structure Index where
  name : String
  columns : List String
  unique : Bool
deriving DecidableEq

namespace Index

/-- The names of the fields, in their order. -/
def fieldNames : List String :=
  ["name", "columns", "unique"]

/-- Reads an index. -/
def ofDocument? (d : Document) : Option Index := do
  let fs ← d.fields? fieldNames
  return {
    name := ← Document.required fs "name" Document.text?
    columns := ← Document.required fs "columns" (Document.list? Document.text?)
    unique := ← Document.withDefault fs "unique" Document.bool? false }

/-- Writes an index. -/
def toDocument (i : Index) : Document :=
  .object [("name", .text i.name), ("columns", .ofList .text i.columns), ("unique", .bool i.unique)]

end Index

/-- A constraint of a table, by which it refers to another. -/
structure Constraint where
  name : String
  referencedTable : String
deriving DecidableEq

namespace Constraint

/-- The names of the fields, in their order. -/
def fieldNames : List String :=
  ["name", "referenced_table_name"]

/-- Reads a constraint. -/
def ofDocument? (d : Document) : Option Constraint := do
  let fs ← d.fields? fieldNames
  return {
    name := ← Document.required fs "name" Document.text?
    referencedTable := ← Document.required fs "referenced_table_name" Document.text? }

/-- Writes a constraint. -/
def toDocument (c : Constraint) : Document :=
  .object [("name", .text c.name), ("referenced_table_name", .text c.referencedTable)]

end Constraint

/-- A table. -/
structure Table where
  name : String
  columns : List Column
  indexes : List Index
  constraints : List Constraint
deriving DecidableEq

namespace Table

/-- The column with this name, in any case of ASCII letters. -/
def column? (t : Table) (name : String) : Option Column :=
  t.columns.find? fun c => Text.eqIgnoringCase c.name name

/-- The columns of the primary key. -/
def primaryKey (t : Table) : List Column :=
  t.columns.filter (·.primaryKey)

/-- The names of the fields, in their order. -/
def fieldNames : List String :=
  ["name", "columns", "indexes", "constraints"]

/-- Reads a table. -/
def ofDocument? (d : Document) : Option Table := do
  let fs ← d.fields? fieldNames
  return {
    name := ← Document.required fs "name" Document.text?
    columns := ← Document.required fs "columns" (Document.list? Column.ofDocument?)
    indexes := ← Document.withDefault fs "indexes" (Document.list? Index.ofDocument?) []
    constraints := ←
      Document.withDefault fs "constraints" (Document.list? Constraint.ofDocument?) [] }

/-- Writes a table. -/
def toDocument (t : Table) : Document :=
  .object [("name", .text t.name), ("columns", .ofList Column.toDocument t.columns),
    ("indexes", .ofList Index.toDocument t.indexes),
    ("constraints", .ofList Constraint.toDocument t.constraints)]

end Table

/-- A view. -/
structure View where
  name : String
  definition : String
deriving DecidableEq

namespace View

/-- The names of the fields, in their order. -/
def fieldNames : List String :=
  ["name", "view_definition"]

/-- Reads a view. -/
def ofDocument? (d : Document) : Option View := do
  let fs ← d.fields? fieldNames
  return {
    name := ← Document.required fs "name" Document.text?
    definition := ← Document.required fs "view_definition" Document.text? }

/-- Writes a view. -/
def toDocument (v : View) : Document :=
  .object [("name", .text v.name), ("view_definition", .text v.definition)]

end View

end ProxyCatalog
