import ProxyCatalog.Pool

/-!
# Switching pools

A proposal of pool properties is carried out with the least change: pools whose properties stay
keep their handles. `SwitchPlan.compute` compares the proposal with the current properties, and a
`Switch` is a plan whose new pools have been opened. A pool whose properties changed is on both
sides of a plan, under one name; its handles are different.

Main statements: a plan opens what the proposal says and the current properties do not
(`get?_created`), and `mem_stale_iff` names the pools that it retires.
-/

namespace ProxyCatalog

/-- What a proposal says about the pools it does not name. -/
inductive SwitchMode where
  /-- They stay. -/
  | overlay
  /-- They are retired. -/
  | replace
deriving DecidableEq

/-- The pools to open and the pools to retire. -/
structure SwitchPlan where
  created : NameMap PoolSpec
  stale : List String
deriving DecidableEq

namespace SwitchPlan

/-- Compares a proposal with the current properties. -/
def compute (current proposed : NameMap PoolSpec) (mode : SwitchMode) : SwitchPlan where
  created := proposed.filter fun name spec => current.get? name != some spec
  stale := (current.filter fun name spec =>
    match proposed.get? name with
    | some spec' => spec' != spec
    | none => mode == .replace).keys

theorem get?_created (current proposed : NameMap PoolSpec) (mode : SwitchMode) (name : String) :
    (compute current proposed mode).created.get? name =
      if proposed.get? name = current.get? name then none else proposed.get? name := by
  rw [compute, NameMap.get?_filter]
  cases h : proposed.get? name with
  | none => simp
  | some spec =>
    by_cases hc : current.get? name = some spec
    · simp [hc]
    · simp [hc, Ne.symm hc]

/-- A pool is retired if a proposal changes its properties, or replaces the pools without it. -/
theorem mem_stale_iff (current proposed : NameMap PoolSpec) (mode : SwitchMode) (name : String) :
    name ∈ (compute current proposed mode).stale ↔
      ∃ spec, current.get? name = some spec ∧
        match proposed.get? name with
        | some spec' => spec' ≠ spec
        | none => mode = .replace := by
  rw [compute, NameMap.mem_keys_iff, NameMap.contains, NameMap.get?_filter]
  cases current.get? name with
  | none => simp
  | some spec => cases proposed.get? name <;> simp

end SwitchPlan

/-- A switch whose new pools are open, ready to be put into a map of pools. -/
structure Switch where
  opened : Pools
  stale : Pools
deriving DecidableEq

namespace Switch

/-- The pools after the switch. -/
def apply (s : Switch) (current : Pools) : Pools :=
  current.switched s.stale.keys s.opened

/-- The current pools that a plan retires. -/
def staleUnits (current : Pools) (plan : SwitchPlan) : Pools :=
  current.filter fun name _ => plan.stale.contains name

theorem get?_staleUnits (current : Pools) (plan : SwitchPlan) (name : String) :
    (staleUnits current plan).get? name =
      if name ∈ plan.stale then current.get? name else none := by
  rw [staleUnits, NameMap.get?_filter]
  by_cases h : name ∈ plan.stale <;> cases current.get? name <;> simp [h]

end Switch

end ProxyCatalog
