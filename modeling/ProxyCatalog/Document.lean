import ProxyCatalog.NameMap

/-!
# Documents

The tree of values in which configurations, payloads and settings are written down, and the small
readers out of which each type builds its own. A reader answers `none` to a document of another
shape; there is no conversion between shapes, so a number is never read as a text.

A **record** is written as an object of its fields or as the list of its fields in their declared
order, where fields may be missing at the end. `fields?` reads both forms to one list of named
values; `required` and `withDefault` then pick a field. A plain alternative is written by its name,
or as an object whose one key is the name and whose value is blank: null in a document (`tag?`).
-/

namespace ProxyCatalog

/-- A tree of values. -/
inductive Document where
  | null
  | bool (value : Bool)
  | int (value : Int)
  /-- The number `mantissa · 10 ^ (-places)`, written with a fraction. -/
  | decimal (mantissa : Int) (places : Nat)
  | text (value : String)
  | list (items : List Document)
  | object (fields : List (String × Document))

namespace Document

instance : Inhabited Document := ⟨null⟩

/-! ### Scalars and containers -/

/-- Reads a flag. -/
def bool? : Document → Option Bool
  | bool b => some b
  | _ => none

/-- Reads a text. -/
def text? : Document → Option String
  | text s => some s
  | _ => none

/-- Reads a natural number of at most 64 bits. -/
def word? : Document → Option Nat
  | int n => if 0 ≤ n ∧ n < UInt64.size then some n.toNat else none
  | _ => none

/-- Reads a value that may be null. -/
def nullable? {α : Type} (read : Document → Option α) : Document → Option (Option α)
  | null => some none
  | d => (read d).map some

/-- Reads a list of values. -/
def list? {α : Type} (read : Document → Option α) : Document → Option (List α)
  | list ds => ds.mapM read
  | _ => none

/-- Reads an object as a map from its keys. -/
def map? {α : Type} (read : Document → Option α) : Document → Option (NameMap α)
  | object fs => (fs.mapM fun f => (read f.2).map (Prod.mk f.1)).map NameMap.ofList
  | _ => none

/-- The document is null. -/
def isNull : Document → Bool
  | null => true
  | _ => false

/-- Reads one of several named alternatives, by its name or by an object with the name for its one
key. The value of the key says nothing, so it has to be `blank`. -/
def tagOver? {α : Type} (blank : Document → Bool) (read : String → Option α) :
    Document → Option α
  | text s => read s
  | object [(s, d)] => if blank d then read s else none
  | _ => none

/-- Reads one of several named alternatives. -/
def tag? {α : Type} (read : String → Option α) : Document → Option α :=
  tagOver? isNull read

/-- Writes a value that may be missing. -/
def ofOption {α : Type} (write : α → Document) : Option α → Document
  | none => null
  | some a => write a

/-- Writes a map as an object. -/
def ofMap {α : Type} (write : α → Document) (m : NameMap α) : Document :=
  object (m.entries.map fun e => (e.1, write e.2))

/-- Writes a list of values. -/
def ofList {α : Type} (write : α → Document) (xs : List α) : Document :=
  list (xs.map write)

/-! ### Records -/

/-- The named fields of a record whose fields are declared in the order `names`. -/
def fields? (names : List String) : Document → Option (List (String × Document))
  | object fs => some fs
  | list ds => if ds.length ≤ names.length then some (names.zip ds) else none
  | _ => none

/-- The named fields of a record that admits no others than the declared ones. -/
def closedFields? (names : List String) (d : Document) : Option (List (String × Document)) :=
  (fields? names d).filter fun fs => fs.all fun f => names.contains f.1

/-- Reads a field that has to be there. -/
def required {α : Type} (fs : List (String × Document)) (name : String)
    (read : Document → Option α) : Option α :=
  (fs.lookup name).bind read

/-- Reads a field that stands for `default` where it is missing. -/
def withDefault {α : Type} (fs : List (String × Document)) (name : String)
    (read : Document → Option α) (default : α) : Option α :=
  match fs.lookup name with
  | none => some default
  | some d => read d

end Document

end ProxyCatalog
