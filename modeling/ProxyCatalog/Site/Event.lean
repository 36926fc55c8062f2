import ProxyCatalog.Fault
import ProxyCatalog.Pool

/-!
# Events

What a proxy does to the world around it, as values: opening and closing pools, asking storage
engines for their schemas, releasing what rules hold, and writing to the durable store. A journal
is the list of events in the order in which they happened.

The writes of one change, and the closings of one set of pools, have no order of their own.
`Event.lines` therefore lists each uninterrupted run of writes, and of closings, in the order of
the texts.
-/

namespace ProxyCatalog

/-- A write to the durable store. -/
inductive StoreWrite where
  | putSchema (database schema : String) (tables views : List String)
  | deleteObjects (database schema : String) (tables views : List String)
  | dropSchema (database schema : String)
  | putRows (database schema : String)
deriving DecidableEq

namespace StoreWrite

/-- The text of a write. -/
def text : StoreWrite → String
  | putSchema d s ts vs => objects "persist_schema" d s ts vs
  | deleteObjects d s ts vs => objects "delete_schema_objects" d s ts vs
  | dropSchema d s => "drop_schema " ++ d ++ "/" ++ s
  | putRows d s => "persist_schema_data " ++ d ++ "/" ++ s
where
  /-- The text of a write that names the objects of a schema. -/
  objects (verb d s : String) (ts vs : List String) : String :=
    verb ++ " " ++ d ++ "/" ++ s ++ " tables=" ++ ",".intercalate ts
      ++ " views=" ++ ",".intercalate vs

end StoreWrite

/-- A question to the storage engines of a database, as far as a journal records it. -/
structure Inquiry where
  database : String
  protocol : Dialect
  defaultSchema : String
  pools : List String
  rules : List RuleKind
  /-- How many properties there are. -/
  props : Nat
  /-- The tables asked for; all of them where there is no list. -/
  tables : Option (List String)
deriving DecidableEq

namespace Inquiry

/-- The text of a question. -/
def text (q : Inquiry) : String :=
  q.database ++ " " ++ q.protocol.name ++ " default=" ++ q.defaultSchema
    ++ " pools=" ++ ",".intercalate q.pools
    ++ " rules=" ++ ",".intercalate (q.rules.map RuleKind.tag)
    ++ " props=" ++ toString q.props
    ++ " tables=" ++ (match q.tables with
      | none => "*"
      | some ts => ",".intercalate ts)

end Inquiry

/-- Something a proxy does to the world around it. -/
inductive Event where
  | opened (pool : PoolHandle)
  | closed (pool : PoolHandle)
  | asked (inquiry : Inquiry)
  | released (kind : RuleKind) (database : Option String)
  | wrote (write : StoreWrite)
deriving DecidableEq

namespace Event

/-- The text of an event. -/
def text : Event → String
  | opened h => "create " ++ h.label
  | closed h => "close " ++ h.label
  | asked q => "discover " ++ q.text
  | released k none => "release " ++ k.tag
  | released k (some d) => "release " ++ k.tag ++ " of " ++ d
  | wrote w => "store " ++ w.text

/-- Both are writes to the store, or both are closings. -/
def sameRun : Event → Event → Bool
  | wrote _, wrote _ => true
  | closed _, closed _ => true
  | _, _ => false

/-- The texts of a journal, runs of writes and of closings in the order of their texts. -/
def lines (journal : List Event) : List String :=
  (journal.splitBy sameRun).flatMap fun run =>
    (run.map text).mergeSort fun a b => !(b < a)

end Event

end ProxyCatalog
