import ProxyCatalog.Mutation.Reload
import ProxyCatalog.Settings

/-!
# Running proxies

A proxy is started from its settings and the durable store, holds one snapshot at a time, and
applies mutations to it one after another. `World` is a proxy with the site around it.

A mutation that fails, or that plans nothing, leaves the installed snapshot as it is. Where one is
planned it is installed first, and only then do rules release what they held for the old one, and
only after that are its pools retired.
-/

namespace ProxyCatalog

/-! ### Planning -/

namespace Mutation

/-- Plans a mutation of a snapshot. -/
def plan (reg : Registry) (s : Snapshot) : Mutation → SiteM (Option Change)
  | addDatabase database => SiteM.ofExcept (s.addDatabase database)
  | dropDatabase database => return s.dropDatabase database
  | addSchema database schema => SiteM.ofExcept (s.addSchema database schema)
  | dropSchema database schema => return s.dropSchema database schema
  | alterSchema change => SiteM.ofExcept (s.alterSchema change)
  | alterRules database configs => s.alterRules reg database configs
  | alterPools database specs => s.alterPools reg database specs
  | alterPoolsAndRules database specs configs => s.alterPoolsAndRules reg database specs configs
  | alterGlobalRules configs => SiteM.ofExcept (s.alterGlobalRules reg configs)
  | alterProperties values => SiteM.ofExcept (s.alterProperties values)
  | reloadDatabase database => s.reloadDatabase reg database
  | reloadSchema database schema pool => s.reloadSchema database schema pool
  | reloadTable database schema table pool => s.reloadTable database schema table pool
  | changeCache change => return s.changeCache change
  | alterRow database schema table payload =>
    SiteM.ofExcept (s.alterRow database schema table payload)

end Mutation

/-! ### Proxies -/

/-- The workers that carry out queries. -/
structure Executor where
  /-- The configured number of workers, zero for one derived from the machine. -/
  size : Nat
  running : Bool
deriving DecidableEq

namespace Executor

/-- Starts as many workers as the properties say. -/
def start (props : Properties) : Except Fault Executor :=
  props.executorSize.map fun size => ⟨size, true⟩

/-- Stops the workers; they are not started again. -/
def stop (e : Executor) : Executor :=
  { e with running := false }

end Executor

/-- A running proxy. -/
structure Proxy where
  settings : Settings
  registry : Registry
  snapshot : Snapshot
  clusterState : ClusterState
  executor : Executor
  closed : Bool

namespace Proxy

/-- Starts a proxy from the store. -/
def start (settings : Settings) (reg : Registry) : SiteM Proxy := do
  let snapshot ← Assembly.assemble reg settings.props
  let executor ← SiteM.ofExcept (Executor.start snapshot.catalog.props)
  return ⟨settings, reg, snapshot, .ok, executor, false⟩

/-- The pools of a database. -/
def pools (p : Proxy) (database : String) : Except Fault Pools :=
  (p.snapshot.findDatabase database).map Database.pools

/-- Hears a state of the cluster announced. -/
def announce (p : Proxy) (state : String) : Proxy :=
  { p with clusterState := p.clusterState.announce state }

end Proxy

/-- A proxy with the site around it. -/
structure World where
  proxy : Proxy
  site : Site

/-- What a mutation that did not fail did to the installed snapshot. -/
inductive Outcome where
  | unchanged
  | installed
deriving DecidableEq

namespace World

/-- Installs a snapshot. -/
def install (w : World) (s : Snapshot) : World :=
  { w with proxy := { w.proxy with snapshot := s } }

/-- Releases and retires what a change makes stale. -/
def followUp (w : World) (c : Change) : World :=
  let (_, site) := (Site.releaseAll c.releases).run w.site
  { w with site := site.retire w.proxy.settings.closeDelay? c.retired }

/-- **Applies** a mutation. -/
def apply (w : World) (m : Mutation) : Except Fault Outcome × World :=
  match (m.plan w.proxy.registry w.proxy.snapshot).run w.site with
  | (.error e, site) => (.error e, { w with site })
  | (.ok none, site) => (.ok .unchanged, { w with site })
  | (.ok (some c), site) => (.ok .installed, ({ w with site }.install c.snapshot).followUp c)

/-- Closes the proxy: its executor stops and the connection to the store is given up. Closing a
second time does nothing, even if the first failed. -/
def close (w : World) : Except Fault Unit × World :=
  if w.proxy.closed then (.ok (), w)
  else
    let proxy := { w.proxy with closed := true, executor := w.proxy.executor.stop }
    let (result, site) := Site.closeStore.run w.site
    (result, ⟨proxy, site⟩)

/-- Lets time pass. -/
def sleep (w : World) (ms : Nat) : World :=
  { w with site := w.site.sleep ms }

/-- Starts a new proxy at the same site, with the same settings. The old one stays if that
fails. -/
def restart (w : World) : Except Fault Unit × World :=
  match (Proxy.start w.proxy.settings w.proxy.registry).run w.site with
  | (.ok proxy, site) => (.ok (), ⟨proxy, site⟩)
  | (.error e, site) => (.error e, { w with site })

end World

end ProxyCatalog
