import ProxyCatalog.Proofs.Revision
import ProxyCatalog.Proofs.Unanimity
import ProxyCatalog.Proofs.Unnumbered

/-!
# Two runs side by side

The same action is carried out at two sites that agree on one database: on what is stored for it,
on what can be reached, and on what connectors and storage engines do, which has to be impartial
(`Impartial`, `Site.AgreesOn`). What was opened before, what is stored for other databases and the
order in which schemas are visited may differ.

`SiteM.Parallel D R x y` says that from any two such sites the runs of `x` and `y` end in sites that
still agree, and either fail with the same fault or give results that the relation `R` holds of. It
passes from the parts of actions to the whole (`Parallel.bind`, `Parallel.forM`, `Parallel.mapM`).

* `Parallel.readStore` and `Parallel.writeStore`: access to the store, where what is read or
  written is a matter of one database (`Store.Separate`).
* `Parallel.openSwitch`: the same pools are opened, under other numbers.
* `Parallel.fromEngines`: the same database is assembled.
-/

namespace ProxyCatalog

/-! ### Twins -/

/-- **Twins** are the same database, under the folded form of the name, but for the numbers of its
pools. -/
structure Database.Twins (name : String) (d d' : Database) : Prop where
  unnumbered : d.unnumbered = d'.unnumbered
  name_eq : d.name = Text.lower name

namespace Database.Twins

variable {name : String} {d d' d₁ d₁' : Database}

/-- Twins differ in their pools alone. -/
theorem exists_pools (h : Twins name d d') :
    ∃ pools, d' = { d with pools } ∧ d.pools.unnumbered = pools.unnumbered :=
  unnumbered_eq_iff.1 h.unnumbered

theorem symm (h : Twins name d d') : Twins name d' d := by
  obtain ⟨pools, rfl, -⟩ := h.exists_pools
  exact ⟨h.unnumbered.symm, h.name_eq⟩

/-- A database over pools that are the same but for their numbers is a twin. -/
theorem with_pools {pools : Pools} (h : d.pools.unnumbered = pools.unnumbered)
    (hname : d.name = Text.lower name) : Twins name d { d with pools } :=
  ⟨unnumbered_eq_iff.2 ⟨pools, rfl, h⟩, hname⟩

theorem lower_name (h : Twins name d d') : Text.lower d.name = Text.lower name := by
  rw [h.name_eq, Text.lower_lower]

/-- What becomes of twins are twins, if it is the same but for the numbers. -/
theorem revised (h : Twins name d d') (hd₁ : d.Revised d₁)
    (h₁ : d₁.unnumbered = d₁'.unnumbered) : Twins name d₁ d₁' :=
  ⟨h₁, hd₁.name.trans h.name_eq⟩

/-- The same schema may be put into twins. -/
theorem withSchema (h : Twins name d d') (schema : String) (content : Schema) :
    Twins name (d.withSchema schema content) (d'.withSchema schema content) := by
  obtain ⟨pools, rfl, hpools⟩ := h.exists_pools
  exact with_pools hpools h.name_eq

theorem withoutSchema (h : Twins name d d') (schema : String) :
    Twins name (d.withoutSchema schema) (d'.withoutSchema schema) := by
  obtain ⟨pools, rfl, hpools⟩ := h.exists_pools
  exact with_pools hpools h.name_eq

/-- Twins load the same routes. -/
theorem reloadRoutes (h : Twins name d d') :
    Except.Alike (Twins name) d.reloadRoutes d'.reloadRoutes := by
  have hmap : d.reloadRoutes.map Database.unnumbered =
      d'.reloadRoutes.map Database.unnumbered := by
    rw [← reloadRoutes_unnumbered, h.unnumbered, reloadRoutes_unnumbered]
  exact (Except.Alike.of_map_eq hmap).mono fun d₁ d₁' ⟨hd₁, h₁⟩ =>
    h.revised (revised_reloadRoutes hd₁) h₁

end Database.Twins

/-! ### Stores by database -/

namespace Store

/-- A change of the store that treats databases **separately**: what becomes of one does not depend
on what is stored for the others. -/
def Separate (f : Store → Store) : Prop :=
  ∀ database s t, s.node? database = t.node? database →
    (f s).node? database = (f t).node? database

variable {s t : Store} {database x : String}

/-- What is stored for a database is found in any spelling of its name. -/
theorem node?_congr (s : Store) (h : Text.lower database = Text.lower x) :
    s.node? database = s.node? x := by
  rw [node?, node?, h]

/-- It is enough that what is stored for one database decides what becomes of it, and that nothing
becomes of the others. -/
theorem separate_of_node? (database : String) {f : Store → Store}
    (hkept : ∀ s x, Text.lower database ≠ Text.lower x → (f s).node? x = s.node? x)
    (hown : ∀ s t : Store, s.node? database = t.node? database →
      (f s).node? database = (f t).node? database) :
    Separate f := by
  intro x s t h
  by_cases hx : Text.lower database = Text.lower x
  · rw [← s.node?_congr hx, ← t.node?_congr hx] at h
    rw [← (f s).node?_congr hx, ← (f t).node?_congr hx]
    exact hown s t h
  · rw [hkept s x hx, hkept t x hx, h]

/-- To put a node that is made from the old one treats databases separately. -/
theorem separate_setNode {f : Store → StoreNode}
    (hf : ∀ s t : Store, s.node? database = t.node? database → f s = f t) :
    Separate fun s => s.setNode database (f s) := by
  refine separate_of_node? database (fun s x hx => ?_) fun s t h => ?_
  · rw [node?_setNode, if_neg hx]
  · rw [node?_setNode, node?_setNode, if_pos rfl, if_pos rfl, hf s t h]

theorem separate_updateNode (database : String) (f : StoreNode → StoreNode) :
    Separate fun s => s.updateNode database f :=
  separate_setNode fun s t h => by rw [node, node, h]

theorem separate_putSchema (database schema : String) (content : Schema) :
    Separate fun s => s.putSchema database schema content :=
  separate_updateNode database _

theorem separate_putRows (database schema : String) (rows : SchemaRows) :
    Separate fun s => s.putRows database schema rows :=
  separate_updateNode database _

/-- Objects are deleted from one database alone, and only if it has the schema. -/
theorem separate_deleteObjects (database schema : String) (content : Schema) :
    Separate fun s => s.deleteObjects database schema content := by
  refine separate_of_node? database (fun s x hx => ?_) fun s t h => ?_
  · rw [deleteObjects]
    split
    · rw [node?_setNode, if_neg hx]
    · rfl
  · have hschema : s.schema? database schema = t.schema? database schema := by
      rw [schema?, schema?, h]
    rw [deleteObjects, deleteObjects, ← h, ← hschema]
    split
    · rw [node?_setNode, node?_setNode, if_pos rfl, if_pos rfl]
    · exact h

/-- A schema is dropped from one database alone. -/
theorem separate_dropSchema (database schema : String) :
    Separate fun s => s.dropSchema database schema := by
  refine separate_of_node? database (fun s x hx => ?_) fun s t h => ?_
  · rw [dropSchema]
    split
    · rw [node?_setNode, if_neg hx]
    · rfl
  · rw [dropSchema, dropSchema, ← h]
    split
    · rw [node?_setNode, node?_setNode, if_pos rfl, if_pos rfl]
    · exact h

end Store

/-! ### Sites that agree -/

/-- The surroundings of a proxy are **impartial**: what connectors and storage engines do depends
neither on the order of work nor on the numbers of pools, and what the engines report is unanimous,
so that it may be visited in any order. -/
structure Impartial (connector : Connector) (discovery : Discovery) : Prop where
  steady : connector.Steady
  blind : discovery.Blind
  unanimous : discovery.Unanimous

/-- The sites **agree on a database**: on what is stored for it and on what can be reached, and
their surroundings are impartial. -/
structure Site.AgreesOn (database : String) (s t : Site) : Prop where
  node : s.store.node? database = t.store.node? database
  writable : s.writable = t.writable
  failing : s.failing = t.failing
  connector : s.connector = t.connector
  discovery : s.discovery = t.discovery
  impartial : Impartial s.connector s.discovery

/-- What is found depends neither on the numbers of pools nor on the order of visiting it. -/
theorem Site.AgreesOn.findings_eq {database : String} {s t : Site} (h : s.AgreesOn database t)
    {m m' : Material} (hm : m.unnumbered = m'.unnumbered) (tables : Option (List String)) :
    s.findings m tables = t.findings m' tables := by
  have hdatabase : m.database = m'.database := (Material.mk.inj hm).1
  rw [← Site.findings_congr h.impartial.unanimous h.discovery.symm, Site.findings, Site.findings,
    ← h.discovery, h.impartial.blind m m' tables hm, hdatabase]

/-- What is recorded, opened or scheduled is of no concern. -/
theorem Site.AgreesOn.record {database : String} {s t : Site} (h : s.AgreesOn database t)
    (es fs : List Event) : (s.record es).AgreesOn database (t.record fs) :=
  { h with }

namespace SiteM

open Site

variable {α β γ δ : Type} {database : String} {R : α → β → Prop} {S : γ → δ → Prop}

/-- From sites that agree on the database, the runs of both actions end in sites that agree, and in
the same fault or in related results. -/
def Parallel (database : String) (R : α → β → Prop) (x : SiteM α) (y : SiteM β) : Prop :=
  ∀ s t, s.AgreesOn database t →
    (x.run s).2.AgreesOn database (y.run t).2 ∧ Except.Alike R (x.run s).1 (y.run t).1

namespace Parallel

/-- Related values are related results. -/
theorem pure {a : α} {b : β} (h : R a b) :
    Parallel database R (Pure.pure a) (Pure.pure b) :=
  fun _ _ hst => ⟨hst, .ok h⟩

/-- Outcomes that are alike are results that are alike. -/
theorem ofExcept {x : Except Fault α} {y : Except Fault β} (h : Except.Alike R x y) :
    Parallel database R (SiteM.ofExcept x) (SiteM.ofExcept y) := by
  intro s t hst
  rw [run_ofExcept, run_ofExcept]
  exact ⟨hst, h⟩

/-- **Sequences run in parallel** if their parts do. -/
theorem bind {x : SiteM α} {y : SiteM β} {f : α → SiteM γ} {g : β → SiteM δ}
    (hxy : Parallel database R x y) (hfg : ∀ a b, R a b → Parallel database S (f a) (g b)) :
    Parallel database S (x >>= f) (y >>= g) := by
  intro s t hst
  obtain ⟨hagree, halike⟩ := hxy s t hst
  rw [run_bind, run_bind]
  cases hx : x.run s with
  | mk r s' =>
    cases hy : y.run t with
    | mk r' t' =>
      rw [hx, hy] at hagree halike
      cases halike with
      | ok hab => exact hfg _ _ hab s' t' hagree
      | error e => exact ⟨hagree, .error e⟩

/-- Loops run in parallel if their bodies do. -/
theorem forM {f g : α → SiteM PUnit} (h : ∀ a, Parallel database Eq (f a) (g a)) (l : List α) :
    Parallel database Eq (l.forM f) (l.forM g) := by
  induction l with
  | nil => exact pure rfl
  | cons a l ih => exact bind (h a) fun _ _ _ => ih

/-- Loops that collect results run in parallel if their bodies do. -/
theorem mapM {f g : α → SiteM γ} (h : ∀ a, Parallel database Eq (f a) (g a)) (l : List α) :
    Parallel database Eq (l.mapM f) (l.mapM g) := by
  induction l with
  | nil =>
    rw [List.mapM_nil, List.mapM_nil]
    exact pure rfl
  | cons a l ih =>
    rw [List.mapM_cons, List.mapM_cons]
    refine bind (h a) fun c c' hc => bind ih fun cs cs' hcs => pure ?_
    rw [hc, hcs]

/-! ### The store and the storage engines -/

/-- **The same is read** where it is read from one database. -/
theorem readStore {access : StoreAccess} {read : Store → α}
    (h : ∀ s t : Store, s.node? database = t.node? database → read s = read t) :
    Parallel database Eq (Site.readStore access read) (Site.readStore access read) := by
  intro s t hst
  rw [run_readStore, run_readStore, hst.failing, h _ _ hst.node]
  exact ⟨hst, .of_eq rfl⟩

/-- **The same is written** where databases are treated separately. -/
theorem writeStore {access : StoreAccess} {write : StoreWrite} {f : Store → Store}
    (h : Store.Separate f) :
    Parallel database Eq (Site.writeStore access write f) (Site.writeStore access write f) := by
  intro s t hst
  rw [run_writeStore, run_writeStore, hst.failing, hst.writable]
  split
  · exact ⟨hst, .error _⟩
  · split
    · have hwritten : ({ s with store := f s.store }.record [.wrote write]).AgreesOn database
          ({ t with store := f t.store }.record [.wrote write]) :=
        { hst with node := h _ _ _ hst.node }
      rw [hst.failing, hst.writable] at hwritten
      exact ⟨hwritten, .ok rfl⟩
    · exact ⟨hst, .error _⟩

/-- A schema is compared with the same stored one, and the same difference is written. -/
theorem compareAndPersist {name schema : String} (h : Text.lower name = Text.lower database)
    (content : Schema) :
    Parallel database Eq (Site.compareAndPersist name schema content)
      (Site.compareAndPersist name schema content) := by
  have hstored : Parallel database Eq (Site.loadSchema name schema)
      (Site.loadSchema name schema) := by
    refine readStore fun s t hnode => ?_
    rw [Store.schema?, Store.schema?, s.node?_congr h, t.node?_congr h, hnode]
  refine bind hstored ?_
  rintro stored _ rfl
  refine bind (writeStore (Store.separate_putSchema name schema _)) fun _ _ _ => ?_
  split
  · exact writeStore (Store.separate_deleteObjects name schema _)
  · exact pure rfl

/-- Every write of a difference treats databases separately. -/
theorem persistDelta (name : String) (delta : DatabaseDelta) :
    Parallel database Eq (Site.persistDelta name delta) (Site.persistDelta name delta) := by
  refine bind (forM (fun e => ?_) _) fun _ _ _ => bind (forM (fun e => ?_) _) fun _ _ _ =>
    forM (fun schema => ?_) _
  · exact writeStore (Store.separate_putSchema name e.1 e.2)
  · exact writeStore (Store.separate_deleteObjects name e.1 e.2)
  · exact writeStore (Store.separate_dropSchema name schema)

theorem persistRows (name schema : String) (rows : SchemaRows) :
    Parallel database Eq (Site.persistRows name schema rows) (Site.persistRows name schema rows) :=
  writeStore (Store.separate_putRows name schema rows)

theorem dropSchema (name schema : String) :
    Parallel database Eq (Site.dropSchema name schema) (Site.dropSchema name schema) :=
  writeStore (Store.separate_dropSchema name schema)

/-- The same is found by storage engines that are blind to the numbers of pools. -/
theorem discover {m m' : Material} (h : m.unnumbered = m'.unnumbered)
    (tables : Option (List String)) :
    Parallel database Eq (Site.discover m tables) (Site.discover m' tables) := by
  intro s t hst
  rw [run_discover, run_discover, hst.findings_eq h]
  exact ⟨hst.record _ _, .of_eq rfl⟩

/-- Pools that are closed after a fault leave nothing but events behind. -/
theorem closingOnFault {x : SiteM α} {y : SiteM β} (h : Parallel database R x y)
    (pools pools' : Pools) :
    Parallel database R (Site.closingOnFault pools x) (Site.closingOnFault pools' y) := by
  intro s t hst
  obtain ⟨hagree, halike⟩ := h s t hst
  rw [run_closingOnFault, run_closingOnFault]
  cases hx : x.run s with
  | mk r s' =>
    cases hy : y.run t with
    | mk r' t' =>
      rw [hx, hy] at hagree halike
      cases halike with
      | ok hab => exact ⟨hagree, .ok hab⟩
      | error e => exact ⟨hagree.record _ _, .error e⟩

/-! ### Opening pools -/

/-- A pool that opens at one site opens at the other, with the same dialect. -/
private theorem openPool_alike (name : String) (spec : PoolSpec) {s t : Site}
    (hst : s.AgreesOn database t) :
    (openPool name spec s).2.AgreesOn database (openPool name spec t).2 ∧
      Except.Alike (fun u v => u.unnumbered = v.unnumbered) (openPool name spec s).1
        (openPool name spec t).1 := by
  have hconnect : s.connector s.openings name spec = t.connector t.openings name spec := by
    rw [hst.impartial.steady s.openings t.openings, hst.connector]
  rw [openPool, openPool, hconnect]
  cases t.connector t.openings name spec with
  | error e => exact ⟨hst, .error e⟩
  | ok dialect => exact ⟨{ hst with }, .ok rfl⟩

/-- Pools are opened one after another, and the first fault is the same. -/
private theorem openEach_alike (entries : List (String × PoolSpec)) {s t : Site}
    (hst : s.AgreesOn database t) :
    (openEach entries s).2.AgreesOn database (openEach entries t).2 ∧
      (openEach entries s).1.1.unnumbered = (openEach entries t).1.1.unnumbered ∧
        (openEach entries s).1.2 = (openEach entries t).1.2 := by
  induction entries generalizing s t with
  | nil => exact ⟨hst, rfl, rfl⟩
  | cons entry rest ih =>
    obtain ⟨name, spec⟩ := entry
    have hpool := openPool_alike name spec hst
    rw [openEach, openEach]
    generalize openPool name spec s = opened, openPool name spec t = opened' at hpool ⊢
    obtain ⟨r, s₁⟩ := opened
    obtain ⟨r', t₁⟩ := opened'
    obtain ⟨hagree, halike⟩ := hpool
    have hrest := ih hagree
    dsimp only
    generalize openEach rest s₁ = more, openEach rest t₁ = more' at hrest ⊢
    obtain ⟨⟨pools, fault⟩, s₂⟩ := more
    obtain ⟨⟨pools', fault'⟩, t₂⟩ := more'
    obtain ⟨hagree', hpools, hfault⟩ := hrest
    cases halike with
    | ok hu =>
      refine ⟨hagree', ?_, hfault⟩
      dsimp only at hpools ⊢
      rw [Pools.insert_unnumbered, Pools.insert_unnumbered, hu, hpools]
    | error e => exact ⟨hagree', hpools, rfl⟩

/-- Where one pool cannot be opened, the others are closed at both sites. -/
theorem openPools (specs : NameMap PoolSpec) :
    Parallel database (fun p q => p.unnumbered = q.unnumbered) (Site.openPools specs)
      (Site.openPools specs) := by
  intro s t hst
  obtain ⟨hagree, hpools, hfault⟩ := openEach_alike specs.entries hst
  rw [run_openPools, run_openPools]
  generalize openEach specs.entries s = opened, openEach specs.entries t = opened' at *
  obtain ⟨⟨pools, fault⟩, s'⟩ := opened
  obtain ⟨⟨pools', fault'⟩, t'⟩ := opened'
  obtain rfl : fault = fault' := hfault
  cases fault with
  | none => exact ⟨hagree, .ok hpools⟩
  | some e => exact ⟨hagree.record _ _, .error e⟩

/-- **The same pools are opened**, under other numbers. -/
theorem openSwitch {current current' : Pools} (h : current.unnumbered = current'.unnumbered)
    (proposed : NameMap PoolSpec) (mode : SwitchMode) :
    Parallel database (fun sw sw' => sw.unnumbered = sw'.unnumbered)
      (Site.openSwitch current proposed mode) (Site.openSwitch current' proposed mode) := by
  have hspecs : current.specs = current'.specs := by
    rw [← current.specs_unnumbered, h, current'.specs_unnumbered]
  rw [Site.openSwitch, Site.openSwitch, hspecs]
  refine bind (openPools _) fun opened opened' hopened => pure ?_
  rw [Switch.unnumbered, Switch.unnumbered, ← Switch.staleUnits_unnumbered,
    ← Switch.staleUnits_unnumbered, h, hopened]

/-! ### Assembling databases -/

theorem loadViews {name : String} (h : Text.lower name = Text.lower database) (schema : String) :
    Parallel database Eq (Site.loadViews name schema) (Site.loadViews name schema) := by
  refine readStore fun s t hnode => ?_
  rw [Store.views, Store.views, Store.schema?, Store.schema?, s.node?_congr h, t.node?_congr h,
    hnode]

/-- The same stored views are put over the schemas. -/
theorem withStoredViews {name : String} (h : Text.lower name = Text.lower database)
    (schemas : NameMap Schema) :
    Parallel database Eq (Assembly.withStoredViews name schemas)
      (Assembly.withStoredViews name schemas) := by
  rw [Assembly.withStoredViews]
  refine bind (mapM (fun e => ?_) _) ?_
  · refine bind (loadViews h e.1) ?_
    rintro views _ rfl
    exact pure rfl
  · rintro entries _ rfl
    exact pure rfl

/-- **The same database is assembled**, over the pools that are given. -/
theorem fromEngines {pools pools' : Pools} (h : pools.unnumbered = pools'.unnumbered)
    {name : String} (hname : Text.lower name = Text.lower database) (reg : Registry)
    (configs : List RuleConfig) (props : Properties) :
    Parallel database (Database.Twins database)
      (Assembly.fromEngines reg name pools configs props)
      (Assembly.fromEngines reg name pools' configs props) := by
  have hdialects : pools.dialects = pools'.dialects := by
    rw [← pools.dialects_unnumbered, h, pools'.dialects_unnumbered]
  have hrules : reg.buildDatabase name configs pools none =
      reg.buildDatabase name configs pools' none := by
    rw [← reg.buildDatabase_unnumbered, h, reg.buildDatabase_unnumbered]
  rw [Assembly.fromEngines, Assembly.fromEngines, hdialects, hrules]
  refine bind (ofExcept (.of_eq rfl)) ?_
  rintro protocol _ rfl
  refine bind (ofExcept (.of_eq rfl)) ?_
  rintro rules _ rfl
  dsimp only
  refine bind (discover (by rw [Material.unnumbered, Material.unnumbered, h]) _) ?_
  rintro found _ rfl
  refine bind (withStoredViews hname _) ?_
  rintro schemas _ rfl
  have hmade : Database.Twins database (.make name protocol pools rules schemas)
      (.make name protocol pools' rules schemas) := .with_pools h hname
  exact ofExcept hmade.reloadRoutes

end Parallel

end SiteM

end ProxyCatalog
