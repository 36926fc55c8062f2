import ProxyCatalog.Document.Toml
import ProxyCatalog.Properties

/-!
# Settings

What a proxy is started with: how it runs, how long the pools that a change retires stay open, and
the initial properties, over which the stored ones are put. Settings admit no fields but the
declared ones. A settings file is read like the document it describes, but for one thing: where the
name of the mode is the key of a table, that table is empty, while in a document the value is null.
-/

namespace ProxyCatalog

/-- How a proxy runs. -/
inductive RunMode where
  | standalone
  | cluster
deriving DecidableEq, Inhabited

namespace RunMode

/-- The name of the mode. -/
def name : RunMode → String
  | standalone => "standalone"
  | cluster => "cluster"

/-- The mode with exactly this name. -/
def ofName? (s : String) : Option RunMode :=
  [standalone, cluster].find? fun m => m.name == s

/-- Reads a mode, whose name may be a key with a `blank` value. -/
def ofDocumentOver? (blank : Document → Bool) : Document → Option RunMode :=
  Document.tagOver? blank ofName?

/-- Reads a mode. -/
def ofDocument? : Document → Option RunMode :=
  ofDocumentOver? Document.isNull

/-- Writes a mode. -/
def toDocument (m : RunMode) : Document :=
  .text m.name

end RunMode

/-- The state that the coordination of a cluster announces. -/
inductive ClusterState where
  | ok
  | readOnly
  | unavailable
deriving DecidableEq, Inhabited

namespace ClusterState

/-- The name of the state. -/
def name : ClusterState → String
  | ok => "OK"
  | readOnly => "READ_ONLY"
  | unavailable => "UNAVAILABLE"

/-- The state with exactly this name. -/
def ofName? (s : String) : Option ClusterState :=
  [ok, readOnly, unavailable].find? fun c => c.name == s

/-- The wording for a text that names no state. -/
def unknownMessage (s : String) : String :=
  "unknown cluster state: " ++ s

/-- The state after an announcement; unknown names change nothing. -/
def announce (c : ClusterState) (s : String) : ClusterState :=
  (ofName? s).getD c

end ClusterState

/-- What a proxy is started with. -/
structure Settings where
  mode : RunMode
  /-- Milliseconds between a change and the closing of the pools that it retires. -/
  closeDelay : Nat
  props : Properties
deriving DecidableEq

namespace Settings

/-- The settings that hold where nothing is set. -/
def default : Settings :=
  ⟨.standalone, 0, ∅⟩

/-- The delay of closing, where pools are not closed at once. -/
def closeDelay? (s : Settings) : Option Nat :=
  if s.closeDelay = 0 then none else some s.closeDelay

/-- Reads the part on the mode. -/
def readMode (blank : Document → Bool) (d : Document) : Option RunMode := do
  let fs ← d.closedFields? ["type"]
  Document.withDefault fs "type" (RunMode.ofDocumentOver? blank) .standalone

/-- Reads the part on retired pools. -/
def readDelay (d : Document) : Option Nat := do
  let fs ← d.closedFields? ["close_delay_ms"]
  Document.withDefault fs "close_delay_ms" Document.word? 0

/-- Reads settings, in which the name of the mode may be a key with a `blank` value. -/
def ofDocumentOver? (blank : Document → Bool) (d : Document) : Option Settings := do
  let fs ← d.closedFields? ["mode", "stale_resource", "props"]
  return {
    mode := ← Document.withDefault fs "mode" (readMode blank) .standalone
    closeDelay := ← Document.withDefault fs "stale_resource" readDelay 0
    props := ← Document.withDefault fs "props" Properties.ofDocument? ∅ }

/-- Reads settings from a document. -/
def ofDocument? : Document → Option Settings :=
  ofDocumentOver? Document.isNull

/-- Writes settings with all their fields. -/
def toDocument (s : Settings) : Document :=
  .object [("mode", .object [("type", s.mode.toDocument)]),
    ("stale_resource", .object [("close_delay_ms", .int s.closeDelay)]),
    ("props", s.props.toDocument)]

/-- Reads settings from a settings file. -/
def ofFile? (file : String) : Option Settings :=
  (Toml.read? file).bind (ofDocumentOver? Toml.isEmptyTable)

end Settings

end ProxyCatalog
