import ProxyCatalog.Document
import ProxyCatalog.Text.Fold

/-!
# Database dialects

A dialect is the protocol that a database speaks to its clients, and the kind of storage engine
behind a pool. `Dialect.read?` finds a dialect by its name in any case of ASCII letters, with space
around it; documents spell the name exactly.
-/

namespace ProxyCatalog

/-- A database dialect. -/
inductive Dialect where
  | mySQL
  | postgreSQL
  | openGauss
  | oracle
  | sqlServer
  | h2
  | sql92
deriving DecidableEq, Inhabited

namespace Dialect

/-- Every dialect, in the order in which names are tried. -/
def all : List Dialect :=
  [mySQL, postgreSQL, openGauss, oracle, sqlServer, h2, sql92]

/-- The name of the dialect. -/
def name : Dialect → String
  | mySQL => "MySQL"
  | postgreSQL => "PostgreSQL"
  | openGauss => "openGauss"
  | oracle => "Oracle"
  | sqlServer => "SQLServer"
  | h2 => "H2"
  | sql92 => "SQL92"

/-- The fixed default schema of the dialects that have schemas below the database. -/
def defaultSchema? : Dialect → Option String
  | postgreSQL | openGauss => some "public"
  | _ => none

/-- The **default schema** of a database: the fixed one of the dialect, or the one that bears the
name of the database. -/
def defaultSchema (d : Dialect) (database : String) : String :=
  d.defaultSchema?.getD (Text.lower database)

/-- The dialect with this name, spelled in any case of ASCII letters. -/
def named? (text : String) : Option Dialect :=
  all.find? fun d => Text.eqIgnoringCase d.name text

/-- Reads a dialect, space around its name aside. A failure gives the text that names none. -/
def read (text : String) : Except String Dialect :=
  match named? (Text.trim text) with
  | some d => .ok d
  | none => .error (Text.trim text)

/-- The wording for a text that names no dialect. -/
def unsupportedMessage (text : String) : String :=
  "unsupported database type: " ++ text

/-! ### Documents -/

/-- The dialect with exactly this name. -/
def ofName? (text : String) : Option Dialect :=
  all.find? fun d => d.name == text

/-- Reads a dialect from a document. -/
def ofDocument? : Document → Option Dialect :=
  Document.tag? ofName?

/-- Writes a dialect to a document. -/
def toDocument (d : Dialect) : Document :=
  .text d.name

@[simp] theorem ofName?_name (d : Dialect) : ofName? d.name = some d := by
  cases d <;> rfl

end Dialect

end ProxyCatalog
