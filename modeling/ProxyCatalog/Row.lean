import ProxyCatalog.Fault
import ProxyCatalog.Schema.Table
import ProxyCatalog.Text.Binary64

/-!
# Rows

A change of a row arrives as a payload: a unique key and the values as texts, in the order of the
columns. `Row.convert` gives each value the type of the column at its position. A payload may be
shorter than the table has columns, but not longer, and the first unreadable value is reported with
its column.
-/

namespace ProxyCatalog

/-- A typed value. -/
inductive RowValue where
  | null
  | bool (value : Bool)
  | int (value : Int)
  | float (value : Binary64)
  | text (value : String)
deriving DecidableEq

namespace RowValue

/-- Reads a truth value, written as a word in any case of letters or as a digit. -/
def readTruth (raw : String) : Option Bool :=
  let word := String.ofList (raw.toList.map Char.toLower)
  if word = "true" ∨ word = "1" then some true
  else if word = "false" ∨ word = "0" then some false
  else none

/-- Reads a value of a column type. Every text is a value of the types that are neither truth
values nor numbers. -/
def read (type : ColumnType) (raw : String) : Option RowValue :=
  if type = .boolean then (readTruth raw).map bool
  else if type.isIntegral then (Text.readInteger raw).map int
  else if type.isFloating then (Text.readBinary64 raw).map float
  else some (text raw)

end RowValue

/-- A row as a change carries it: values as texts, in the order of the columns. -/
structure RowPayload where
  key : String
  values : List (Option String)
deriving DecidableEq

namespace RowPayload

/-- The names of the fields, in their order. -/
def fieldNames : List String :=
  ["unique_key", "values"]

/-- Reads a payload. -/
def ofDocument? (d : Document) : Option RowPayload := do
  let fs ← d.fields? fieldNames
  return {
    key := ← Document.required fs "unique_key" Document.text?
    values := ←
      Document.withDefault fs "values" (Document.list? (Document.nullable? Document.text?)) [] }

/-- Writes a payload. -/
def toDocument (p : RowPayload) : Document :=
  .object [("unique_key", .text p.key), ("values", .ofList (.ofOption .text) p.values)]

end RowPayload

/-- A row of typed values under its unique key. -/
structure Row where
  key : String
  values : List RowValue
deriving DecidableEq

namespace Row

/-- The typed value of a column. -/
def convertValue (table : String) (column : Column) : Option String → Except Fault RowValue
  | none => .ok .null
  | some raw =>
    match RowValue.read column.dataType raw with
    | some v => .ok v
    | none => .error (.unreadableValue table column.name raw)

/-- The typed values of columns, up to the shorter of the two lists. -/
def convertValues (table : String) :
    List Column → List (Option String) → Except Fault (List RowValue)
  | c :: cs, raw :: raws => do
    let v ← convertValue table c raw
    let vs ← convertValues table cs raws
    return v :: vs
  | _, _ => .ok []

/-- Gives the values of a payload the types of the columns of a table. -/
def convert (t : Table) (p : RowPayload) : Except Fault Row := do
  if t.columns.length < p.values.length then
    throw (.rowTooWide p.key t.name p.values.length t.columns.length)
  let values ← convertValues t.name t.columns p.values
  return ⟨p.key, values⟩

theorem key_of_convert {t : Table} {p : RowPayload} {row : Row} (h : convert t p = .ok row) :
    row.key = p.key := by
  rw [convert] at h
  split at h
  · cases h
  · cases hvalues : convertValues t.name t.columns p.values with
    | error e =>
      rw [hvalues] at h
      cases h
    | ok values =>
      rw [hvalues] at h
      exact congrArg key (Except.ok.inj h).symm

end Row

end ProxyCatalog
