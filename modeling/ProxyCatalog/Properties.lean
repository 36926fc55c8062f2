import ProxyCatalog.Fault
import ProxyCatalog.NameMap

/-!
# Global properties

Properties are texts under names. Four names are well known and have a type and a default; all
others are kept as they are, for other components to read.

`Properties.make` admits properties whose well-known values read; the readers `size`, `flag` and
`frontend` read a value again later. Validation takes the text as it stands while the readers trim
it first, and the readers fall back on the default of a missing property.
-/

namespace ProxyCatalog

/-- A **well-known property**. -/
inductive PropertyKey where
  /-- The number of workers, zero for a number derived from the machine. -/
  | executorSize
  /-- The dialect spoken to clients; blank where it follows from the storage. -/
  | frontendProtocol
  | sqlShow
  | checkTables
deriving DecidableEq

namespace PropertyKey

/-- Every well-known property. -/
def all : List PropertyKey :=
  [executorSize, frontendProtocol, sqlShow, checkTables]

/-- The name of the property. -/
def key : PropertyKey → String
  | executorSize => "kernel-executor-size"
  | frontendProtocol => "proxy-frontend-database-protocol-type"
  | sqlShow => "sql-show"
  | checkTables => "check-table-metadata-enabled"

/-- The text that stands for a missing property. -/
def defaultText : PropertyKey → String
  | executorSize => "0"
  | frontendProtocol => ""
  | sqlShow | checkTables => "false"

/-- The well-known property with this name. -/
def ofKey? (text : String) : Option PropertyKey :=
  all.find? fun k => k.key == text

end PropertyKey

namespace PropertyFault

/-- Reads a number, the fault being that of a property. -/
def readSize (text : String) : Except PropertyFault Nat :=
  (Text.readWord text).mapError .numeral

/-- Reads a flag, the fault being that of a property. -/
def readFlag (text : String) : Except PropertyFault Bool :=
  match Text.readFlag text with
  | some b => .ok b
  | none => .error .flag

/-- Reads a dialect, the fault being that of a property. -/
def readDialect (text : String) : Except PropertyFault Dialect :=
  (Dialect.read text).mapError .dialect

end PropertyFault

namespace PropertyKey

/-- Whether a text may be the value of the property, and if not, why. -/
def validate (k : PropertyKey) (text : String) : Except PropertyFault Unit :=
  match k with
  | executorSize => (PropertyFault.readSize text).map fun _ => ()
  | frontendProtocol =>
    if Text.isBlankText text then .ok ()
    else (PropertyFault.readDialect text).map fun _ => ()
  | sqlShow | checkTables => (PropertyFault.readFlag text).map fun _ => ()

end PropertyKey

/-- Texts under names, shared by all databases. -/
structure Properties where
  values : NameMap String
deriving DecidableEq, Inhabited

namespace Properties

instance : EmptyCollection Properties := ⟨⟨∅⟩⟩

/-- Checks one entry, if its name is well known. -/
def checkEntry (name text : String) : Except Fault Unit :=
  match PropertyKey.ofKey? name with
  | none => .ok ()
  | some k => (k.validate text).mapError (.invalidProperty name text)

/-- Checks entries in order and reports the first that is refused. -/
def checkEntries : List (String × String) → Except Fault Unit
  | [] => .ok ()
  | (name, text) :: rest => do
    checkEntry name text
    checkEntries rest

/-- Admits properties whose well-known values read. -/
def make (values : NameMap String) : Except Fault Properties := do
  checkEntries values.entries
  return ⟨values⟩

/-- The text of a well-known property, or its default. -/
def raw (p : Properties) (k : PropertyKey) : String :=
  p.values.getD k.key k.defaultText

/-- Reads a well-known property, space around its value aside. -/
def value {α : Type} (p : Properties) (k : PropertyKey)
    (read : String → Except PropertyFault α) : Except Fault α :=
  (read (Text.trim (p.raw k))).mapError (.invalidProperty k.key (p.raw k))

/-- Reads a well-known property as a number. -/
def size (p : Properties) (k : PropertyKey) : Except Fault Nat :=
  p.value k PropertyFault.readSize

/-- Reads a well-known property as a flag. -/
def flag (p : Properties) (k : PropertyKey) : Except Fault Bool :=
  p.value k PropertyFault.readFlag

/-- The configured number of workers, zero for one derived from the machine. -/
def executorSize (p : Properties) : Except Fault Nat :=
  p.size .executorSize

/-- The configured dialect towards clients, if any. -/
def frontend (p : Properties) : Except Fault (Option Dialect) :=
  if Text.isBlankText (p.raw .frontendProtocol) then .ok none
  else (p.value .frontendProtocol PropertyFault.readDialect).map some

/-- The properties of `q` over those of `p`. -/
def merged (p q : Properties) : Properties :=
  ⟨p.values.overlay q.values⟩

/-- The dialect that a database speaks: the configured one, or that of its first pool by name, or
the first dialect. -/
def protocol (p : Properties) (storage : NameMap Dialect) : Except Fault Dialect := do
  match ← p.frontend with
  | some d => return d
  | none => return storage.values.head?.getD .mySQL

/-! ### Documents -/

/-- Reads properties from a document and admits them. -/
def ofDocument? (d : Document) : Option Properties :=
  (d.map? Document.text?).bind fun values => (make values).toOption

/-- Writes properties to a document. -/
def toDocument (p : Properties) : Document :=
  .ofMap .text p.values

end Properties

end ProxyCatalog
