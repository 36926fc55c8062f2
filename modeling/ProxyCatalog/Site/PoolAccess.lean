import ProxyCatalog.Pool.Switch
import ProxyCatalog.Site

/-!
# Opening and closing pools

Every opening of a pool yields a new handle, numbered by the count of openings. The pools of a plan
are opened all or none: where one cannot be opened, those that were are closed again, and the fault
is that of the first pool by name. A failing close is not noticed.

Pools retired by a change are closed at once or, where there is a grace period, when the clock
reaches its end (`Site.retire`, `Site.sleep`).
-/

namespace ProxyCatalog

namespace Site

/-! ### Closing -/

/-- Closes pools. -/
def closePools (pools : Pools) (s : Site) : Site :=
  s.record (pools.values.map fun u => .closed u.handle)

/-- Runs an action and cleans up if it fails. -/
def onFault {α : Type} (cleanUp : Site → Site) (action : SiteM α) : SiteM α :=
  tryCatch action fun e => do
    modify cleanUp
    throw e

/-- Runs an action and closes pools if it fails. -/
def closingOnFault {α : Type} (pools : Pools) (action : SiteM α) : SiteM α :=
  onFault (closePools pools) action

/-- Closes pools now, or after a delay. -/
def retire (delay : Option Nat) (pools : Pools) (s : Site) : Site :=
  match delay with
  | none => s.closePools pools
  | some ms => { s with pending := s.pending ++ [⟨s.clock + ms, pools⟩] }

/-- Closes the pools of every retirement that is due. -/
def closeDue (s : Site) : Site :=
  let (due, rest) := s.pending.partition fun r => r.due ≤ s.clock
  due.foldl (fun s r => s.closePools r.pools) { s with pending := rest }

/-- Lets time pass. -/
def sleep (ms : Nat) (s : Site) : Site :=
  closeDue { s with clock := s.clock + ms }

/-! ### Opening -/

/-- Opens one pool. -/
def openPool (name : String) (spec : PoolSpec) (s : Site) : Except Fault StorageUnit × Site :=
  match s.connector s.openings name spec with
  | .error e => (.error e, s)
  | .ok dialect =>
    let handle : PoolHandle := ⟨name, s.openings + 1⟩
    (.ok ⟨spec, handle, dialect⟩, { s with openings := s.openings + 1 }.record [.opened handle])

/-- Opens pools in order, whatever happens to the others. Gives those that were opened and the
first fault. -/
def openEach : List (String × PoolSpec) → Site → (Pools × Option Fault) × Site
  | [], s => ((∅, none), s)
  | (name, spec) :: rest, s =>
    let (opened, s) := openPool name spec s
    let ((pools, fault), s) := openEach rest s
    -- The fault of an earlier pool hides those of later ones.
    match opened with
    | .ok u => ((pools.insert name u, fault), s)
    | .error e => ((pools, some e), s)

/-- Opens pools, all or none. -/
def openPools (specs : NameMap PoolSpec) : SiteM Pools := do
  let (pools, fault) ← modifyGet (openEach specs.entries)
  match fault with
  | none => return pools
  | some e =>
    modify (closePools pools)
    throw e

/-- Opens the new pools of a proposal. -/
def openSwitch (current : Pools) (proposed : NameMap PoolSpec) (mode : SwitchMode) :
    SiteM Switch := do
  let plan := SwitchPlan.compute current.specs proposed mode
  let opened ← openPools plan.created
  return ⟨opened, Switch.staleUnits current plan⟩

end Site

end ProxyCatalog
