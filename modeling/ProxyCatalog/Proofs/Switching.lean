import ProxyCatalog.Proofs.Conduct

/-!
# The properties of switched pools

A switch opens the pools whose properties a proposal changes and keeps the others, so that handles
are given up only where they have to be. It makes no difference to the properties: those of the
pools afterwards are the proposed ones (`Site.openSwitch_specs`), over the former ones where the
proposal leaves room for them.
-/

namespace ProxyCatalog

/-- The properties of pools after a proposal is carried out. -/
def SwitchMode.specsAfter (mode : SwitchMode) (current proposed : NameMap PoolSpec) :
    NameMap PoolSpec :=
  match mode with
  | overlay => current.overlay proposed
  | replace => proposed

/-- A plan retires the pools that do not stay with the properties that they have. -/
theorem SwitchMode.mem_stale_iff (mode : SwitchMode) (current proposed : NameMap PoolSpec)
    (name : String) :
    name ∈ (SwitchPlan.compute current proposed mode).stale ↔
      ∃ spec, current.get? name = some spec ∧
        (mode.specsAfter current proposed).get? name ≠ some spec := by
  rw [SwitchPlan.mem_stale_iff]
  refine exists_congr fun spec => and_congr_right fun hspec => ?_
  cases mode with
  | overlay =>
    rw [specsAfter, NameMap.get?_overlay, hspec]
    cases proposed.get? name <;> simp
  | replace =>
    rw [specsAfter]
    cases proposed.get? name <;> simp

/-- What a plan opens is put in place of what it retires. -/
theorem SwitchMode.get?_specsAfter (mode : SwitchMode) (current proposed : NameMap PoolSpec)
    (name : String) :
    (mode.specsAfter current proposed).get? name =
      let plan := SwitchPlan.compute current proposed mode
      (plan.created.get? name).or (if name ∈ plan.stale then none else current.get? name) := by
  have hafter : (mode.specsAfter current proposed).get? name =
      (proposed.get? name).or (if mode = .replace then none else current.get? name) := by
    cases mode with
    | overlay => exact NameMap.get?_overlay _ _ _
    | replace => exact (Option.or_none).symm
  have hstale := SwitchPlan.mem_stale_iff current proposed mode name
  dsimp only
  rw [hafter, SwitchPlan.get?_created]
  cases hcurrent : current.get? name with
  | none => cases proposed.get? name <;> simp
  | some spec =>
    cases hproposed : proposed.get? name with
    | none =>
      simp only [hcurrent, hproposed] at hstale
      simp [hstale]
    | some spec' =>
      simp only [hcurrent, hproposed] at hstale
      by_cases hspec : spec' = spec <;> simp [hstale, hspec]

/-- The properties of the pools after a switch, name by name. -/
theorem Switch.get?_specs_apply (current opened : Pools) (plan : SwitchPlan) (name : String) :
    (Switch.apply ⟨opened, staleUnits current plan⟩ current).specs.get? name =
      (opened.specs.get? name).or
        (if name ∈ plan.stale then none else current.specs.get? name) := by
  rw [Pools.get?_specs, Pools.get?_specs, Pools.get?_specs, get?_apply]
  cases opened.get? name with
  | some u => rfl
  | none => split <;> rfl

namespace Site

variable {s t : Site}

theorem spec_of_openPool {name : String} {spec : PoolSpec} {u : StorageUnit}
    (h : openPool name spec s = (.ok u, t)) : u.spec = spec := by
  rw [openPool] at h
  split at h
  · cases h
  · obtain ⟨hu, -⟩ := Prod.mk.inj h
    rw [← Except.ok.inj hu]

theorem name_of_openPool {name : String} {spec : PoolSpec} {u : StorageUnit}
    (h : openPool name spec s = (.ok u, t)) : u.handle.name = name := by
  rw [openPool] at h
  split at h
  · cases h
  · obtain ⟨hu, -⟩ := Prod.mk.inj h
    rw [← Except.ok.inj hu]

/-- Where every pool was opened, the pools have the properties that were given for their names. -/
theorem specs_of_openEach {entries : List (String × PoolSpec)} {pools : Pools}
    (h : openEach entries s = ((pools, none), t)) (name : String) :
    pools.specs.get? name = entries.lookup name := by
  induction entries generalizing s t pools with
  | nil =>
    obtain ⟨hp, -⟩ := Prod.mk.inj h
    obtain ⟨rfl, -⟩ := Prod.mk.inj hp
    rfl
  | cons entry rest ih =>
    obtain ⟨k, spec⟩ := entry
    rw [openEach] at h
    cases h₁ : openPool k spec s with
    | mk r s₁ =>
      cases h₂ : openEach rest s₁ with
      | mk opened s₂ =>
        obtain ⟨pools', fault⟩ := opened
        rw [h₁] at h
        simp only [h₂] at h
        cases r with
        | error e =>
          obtain ⟨hp, -⟩ := Prod.mk.inj h
          cases (Prod.mk.inj hp).2
        | ok u =>
          obtain ⟨hp, -⟩ := Prod.mk.inj h
          obtain ⟨rfl, rfl⟩ := Prod.mk.inj hp
          have hrest := ih h₂
          rw [Pools.get?_specs] at hrest ⊢
          rw [NameMap.get?_insert, NameMap.lookup_cons, ← spec_of_openPool h₁, ← hrest]
          split <;> rfl

theorem specs_of_openPools {specs : NameMap PoolSpec} {pools : Pools}
    (h : (openPools specs).run s = (.ok pools, t)) : pools.specs = specs := by
  rw [run_openPools] at h
  split at h
  · next pools' u hopen =>
    obtain ⟨hp, -⟩ := Prod.mk.inj h
    obtain rfl := Except.ok.inj hp
    ext1 name
    exact specs_of_openEach hopen name
  · cases h

/-- Every pool stands under the name that its handle bears. -/
theorem named_of_openEach {entries : List (String × PoolSpec)} {pools : Pools}
    {fault : Option Fault} (h : openEach entries s = ((pools, fault), t)) :
    pools.KeyedBy fun u => u.handle.name := by
  induction entries generalizing s t pools fault with
  | nil =>
    obtain ⟨hp, -⟩ := Prod.mk.inj h
    obtain ⟨rfl, -⟩ := Prod.mk.inj hp
    exact .empty _
  | cons entry rest ih =>
    obtain ⟨k, spec⟩ := entry
    rw [openEach] at h
    cases h₁ : openPool k spec s with
    | mk r s₁ =>
      cases h₂ : openEach rest s₁ with
      | mk opened s₂ =>
        obtain ⟨pools', fault'⟩ := opened
        rw [h₁] at h
        simp only [h₂] at h
        cases r with
        | error e =>
          obtain ⟨hp, -⟩ := Prod.mk.inj h
          exact (Prod.mk.inj hp).1 ▸ ih h₂
        | ok u =>
          obtain ⟨hp, -⟩ := Prod.mk.inj h
          rw [← (Prod.mk.inj hp).1, ← name_of_openPool h₁]
          exact (ih h₂).insert u

theorem named_of_openSwitch {current : Pools} {proposed : NameMap PoolSpec} {mode : SwitchMode}
    {sw : Switch} (h : (openSwitch current proposed mode).run s = (.ok sw, t)) :
    sw.opened.KeyedBy fun u => u.handle.name := by
  obtain ⟨opened, u, hopen, h⟩ := SiteM.run_bind_ok.1 h
  obtain ⟨rfl, -⟩ := SiteM.run_pure_ok.1 h
  rw [run_openPools] at hopen
  split at hopen
  · next pools' t' hrun =>
    obtain ⟨hp, -⟩ := Prod.mk.inj hopen
    obtain rfl := Except.ok.inj hp
    exact named_of_openEach hrun
  · cases hopen

/-- A switch opens the pools that its plan creates, with their properties. -/
theorem specs_opened_of_openSwitch {current : Pools} {proposed : NameMap PoolSpec}
    {mode : SwitchMode} {sw : Switch}
    (h : (openSwitch current proposed mode).run s = (.ok sw, t)) :
    sw.opened.specs = (SwitchPlan.compute current.specs proposed mode).created := by
  obtain ⟨opened, u, hopen, h⟩ := SiteM.run_bind_ok.1 h
  obtain ⟨rfl, -⟩ := SiteM.run_pure_ok.1 h
  exact specs_of_openPools hopen

/-- The pools after a switch, name by name. -/
theorem get?_apply_of_openSwitch {current : Pools} {proposed : NameMap PoolSpec}
    {mode : SwitchMode} {sw : Switch}
    (h : (openSwitch current proposed mode).run s = (.ok sw, t)) (name : String) :
    (sw.apply current).get? name = (sw.opened.get? name).or
      (if name ∈ (SwitchPlan.compute current.specs proposed mode).stale then none
        else current.get? name) := by
  obtain ⟨opened, u, hopen, h⟩ := SiteM.run_bind_ok.1 h
  obtain ⟨rfl, -⟩ := SiteM.run_pure_ok.1 h
  exact Switch.get?_apply _ _ _ _

/-- **The pools after a switch have the proposed properties**, those that were kept included. -/
theorem specs_of_openSwitch {current : Pools} {proposed : NameMap PoolSpec} {mode : SwitchMode}
    {sw : Switch} (h : (openSwitch current proposed mode).run s = (.ok sw, t)) :
    (sw.apply current).specs = mode.specsAfter current.specs proposed := by
  obtain ⟨opened, u, hopen, h⟩ := SiteM.run_bind_ok.1 h
  obtain ⟨rfl, -⟩ := SiteM.run_pure_ok.1 h
  ext1 name
  rw [Switch.get?_specs_apply, specs_of_openPools hopen, SwitchMode.get?_specsAfter]

end Site

end ProxyCatalog
