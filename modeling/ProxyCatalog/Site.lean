import ProxyCatalog.Site.Discovery
import ProxyCatalog.Store

/-!
# Sites

A site is the world around a proxy: the durable store, the engines that pools connect to, and the
journal of what was done to them. Actions of a proxy run in `SiteM`, where a fault ends the action
but undoes nothing: what was written, opened or closed before the fault remains so.

A site also says what is out of reach at the moment. The connector decides which pools open, and as
what dialect; the discovery answers for the storage engines; the store may fail some accesses or
all writes; and rules may fail to release what they hold. It says, too, in which order the schemas
that are found are visited, on which a proxy has no influence.
-/

namespace ProxyCatalog

/-- Opens the pool of a name with its properties, or fails. Gives the dialect behind the pool. The
number of pools opened before tells one attempt from another. -/
abbrev Connector : Type := Nat → String → PoolSpec → Except Fault Dialect

namespace Connector

/-- The dialect that the properties of a pool declare, or the first dialect where they declare none
that exists. -/
def declaredDialect (spec : PoolSpec) : Dialect :=
  match Dialect.read (spec.props.getD "storage-type" "") with
  | .ok d => d
  | .error _ => .mySQL

/-- Connects every pool but those of some names, as the dialect that its properties declare. -/
def refusing (names : List String) : Connector := fun _ name spec =>
  if names.contains name then .error (.unreachablePool name) else .ok (declaredDialect spec)

end Connector

/-- An access to the durable store: the operation, and the database and schema it is about. -/
structure StoreAccess where
  method : StoreMethod
  database : Option String := none
  schema : Option String := none
deriving DecidableEq

/-- A request to a rule of a kind to release what it holds, for one database or altogether. -/
structure Release where
  kind : RuleKind
  database : Option String
deriving DecidableEq

/-- Pools that wait for the end of their grace period. -/
structure Retirement where
  /-- The time of closing. -/
  due : Nat
  pools : Pools
deriving DecidableEq

/-- The world around a proxy. -/
structure Site where
  store : Store
  /-- Writes to the store succeed. -/
  writable : Bool
  /-- The store was closed. -/
  storeClosed : Bool
  /-- The accesses to the store that fail. -/
  failing : StoreAccess → Bool
  connector : Connector
  discovery : Discovery
  visiting : Visiting
  /-- The requests to release that succeed. -/
  releasing : Release → Bool
  /-- How many pools were opened so far. -/
  openings : Nat
  /-- Milliseconds since the beginning. -/
  clock : Nat
  pending : List Retirement
  journal : List Event

/-- An action at a site, which may fail. -/
abbrev SiteM (α : Type) : Type := ExceptT Fault (StateM Site) α

namespace SiteM

/-- The action with a given outcome, which does nothing else. -/
def ofExcept {α : Type} : Except Fault α → SiteM α
  | .ok a => return a
  | .error e => throw e

end SiteM

namespace Site

/-- A site where everything is in reach. -/
def ofStore (store : Store) (discovery : Discovery) : Site where
  store := store
  writable := true
  storeClosed := false
  failing := fun _ => false
  connector := .refusing []
  discovery := discovery
  visiting := .byName
  releasing := fun _ => true
  openings := 0
  clock := 0
  pending := []
  journal := []

/-- The site with more events in its journal. -/
def record (s : Site) (events : List Event) : Site :=
  { s with journal := s.journal ++ events }

/-! ### Discovery -/

/-- What the storage engines report, merged under folded names. -/
def findings (s : Site) : Discovery := fun m tables =>
  (s.discovery m tables).map (s.visiting.fold m.database)

/-- Asks the storage engines, and merges what they report under folded names. -/
def discover (m : Material) (tables : Option (List String)) : SiteM (NameMap Schema) := do
  modify fun s : Site => s.record [.asked (m.inquiry tables)]
  let s : Site ← get
  SiteM.ofExcept (s.findings m tables)

/-- Merges schemas that are found for a database under folded names. -/
def foldNames (database : String) (found : NameMap Schema) : SiteM (NameMap Schema) := do
  let s : Site ← get
  return s.visiting.fold database found

/-! ### Rules that hold resources -/

/-- Asks a rule to release what it holds. -/
def release (r : Release) : SiteM Unit := do
  modify fun s : Site => s.record [.released r.kind r.database]
  let s : Site ← get
  if !s.releasing r then throw (.unreleased r.kind)

/-- Asks rules in order; the failure of one does not keep the next from being asked. -/
def releaseAll : List Release → StateM Site Unit
  | [] => pure ()
  | r :: rs => do
    let _ ← (release r).run
    releaseAll rs

end Site

end ProxyCatalog
