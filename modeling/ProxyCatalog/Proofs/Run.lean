import ProxyCatalog.Proofs.Revision
import ProxyCatalog.Proofs.Start
import ProxyCatalog.Proofs.Unanimity

/-!
# Runs

A run begins with a proxy that was started at a fresh site, and goes on by moves: mutations of the
proxy in any order, with whatever the rest of the world does in between (`SiteChange`). A history
lists the moves of a run, the latest first, and `World.after` is the world that it leads to. Before
any mutation the order may change in which schemas are visited (`World.applyVisiting`).

* `World.apply_cases`: what applying a mutation comes to. It fails and opens nothing that stays
  open, or it changes nothing, or it has an effect that is installed and followed up.
* `World.Reachable.induction`: what holds at the start and is kept by every move holds always.
* `World.Reachable.inOrder`: the installed snapshot is always in order.
-/

namespace ProxyCatalog

open Site

/-! ### Moves -/

/-- What may change about a site without the proxy. -/
inductive SiteChange where
  | storeProperties (props : Properties) (admitted : props.Admitted)
  | storeGlobalRules (configs : List RuleConfig)
  | storePools (database : String) (specs : NameMap PoolSpec)
  | storeRules (database : String) (configs : List RuleConfig)
  | writable (b : Bool)
  | failing (f : StoreAccess → Bool)
  | connector (f : Connector)
  | discovery (f : Discovery)
  /-- Schemas are visited in another order from now on. -/
  | visiting (v : Visiting)
  | releasing (f : Release → Bool)
  /-- Time passes, and pools are closed whose grace period is over. -/
  | sleep (ms : Nat)

namespace SiteChange

/-- The site after a change. -/
def apply (s : Site) : SiteChange → Site
  | storeProperties props _ => { s with store := { s.store with props } }
  | storeGlobalRules configs => { s with store := { s.store with globalRules := configs } }
  | storePools database specs => { s with store := s.store.setPools database specs }
  | storeRules database configs => { s with store := s.store.setRules database configs }
  | writable b => { s with writable := b }
  | failing f => { s with failing := f }
  | connector f => { s with connector := f }
  | discovery f => { s with discovery := f }
  | visiting v => { s with visiting := v }
  | releasing f => { s with releasing := f }
  | sleep ms => s.sleep ms

end SiteChange

/-- A move of a run. -/
inductive Move where
  | mutate (m : Mutation)
  | announce (state : String)
  | close
  | change (c : SiteChange)

namespace World

/-- The world after a move, which for a mutation may have failed. -/
def move (w : World) : Move → World
  | .mutate m => (w.apply m).2
  | .announce state => { w with proxy := w.proxy.announce state }
  | .close => w.close.2
  | .change c => { w with site := c.apply w.site }

/-- Applies a mutation while schemas are visited in a given order. -/
def applyVisiting (w : World) (v : Visiting) (m : Mutation) : Except Fault Outcome × World :=
  (w.move (.change (.visiting v))).apply m

/-- The world after a history of moves, the latest move first. -/
def after (w : World) : List Move → World
  | [] => w
  | m :: earlier => (w.after earlier).move m

/-- Starts a proxy at a site. -/
def boot (settings : Settings) (reg : Registry) (site : Site) : Except Fault World :=
  match (Proxy.start settings reg).run site with
  | (.ok proxy, site) => .ok ⟨proxy, site⟩
  | (.error e, _) => .error e

/-- The proxy was just **started** at a fresh site. -/
def Started (w : World) : Prop :=
  ∃ settings reg site, settings.props.Admitted ∧ site.Fresh ∧ boot settings reg site = .ok w

/-- The world is **reached** by a run. -/
def Reachable (w : World) : Prop :=
  ∃ w₀ history, Started w₀ ∧ w₀.after history = w

/-- A run may end where it begins. -/
theorem Started.reachable {w : World} (h : w.Started) : w.Reachable :=
  ⟨w, [], h, rfl⟩

/-- A run may go on by any move. -/
theorem Reachable.move {w : World} (h : w.Reachable) (m : Move) : (w.move m).Reachable := by
  obtain ⟨w₀, history, hw₀, rfl⟩ := h
  exact ⟨w₀, m :: history, hw₀, rfl⟩

/-- The order of visiting may change before any mutation. -/
theorem Reachable.applyVisiting {w : World} (h : w.Reachable) (v : Visiting) (m : Mutation) :
    (w.applyVisiting v m).2.Reachable :=
  (h.move (.change (.visiting v))).move (.mutate m)

theorem Reachable.after {w : World} (h : w.Reachable) (later : List Move) :
    (w.after later).Reachable := by
  induction later with
  | nil => exact h
  | cons m later ih => exact ih.move m

/-- **Induction on a run.** What holds at the start and is kept by every move holds always. -/
theorem Reachable.induction {P : World → Prop} (start : ∀ w, w.Started → P w)
    (move : ∀ w m, w.Reachable → P w → P (w.move m)) {w : World} (h : w.Reachable) : P w := by
  obtain ⟨w₀, history, hw₀, rfl⟩ := h
  induction history with
  | nil => exact start w₀ hw₀
  | cons m earlier ih => exact move _ m ⟨w₀, earlier, hw₀, rfl⟩ ih

/-! ### The installed snapshot -/

variable {w w' : World} {m : Mutation}

/-- **What applying a mutation comes to.** -/
theorem apply_cases (hs : w.proxy.snapshot.InOrder) (m : Mutation) :
    (∃ e t, w.apply m = (.error e, { w with site := t }) ∧ w.site.Undone t) ∨
    (∃ t, w.apply m = (.ok .unchanged, { w with site := t }) ∧ w.site.Quiet t) ∨
    (∃ opened c t, w.apply m =
        (.ok .installed, ({ w with site := t }.install c.snapshot).followUp c) ∧
      m.Effect w.proxy.snapshot opened c ∧ w.site.Opened t (Pools.handles opened)) := by
  rw [apply]
  cases hplan : (m.plan w.proxy.registry w.proxy.snapshot).run w.site with
  | mk r t =>
    cases r with
    | error e => exact .inl ⟨e, t, rfl, Mutation.plan_clean hs _ _ _ hplan⟩
    | ok change =>
      cases change with
      | none => exact .inr (.inl ⟨t, rfl, Mutation.plan_quiet hs hplan⟩)
      | some c =>
        obtain ⟨opened, he, ho⟩ := Mutation.plan_effect hs hplan
        exact .inr (.inr ⟨opened, c, t, rfl, he, ho⟩)

/-- A mutation that succeeds had a plan, and if there was anything to do, it was installed and
followed up. -/
theorem apply_ok {o : Outcome} (h : w.apply m = (.ok o, w')) :
    ∃ r t, (m.plan w.proxy.registry w.proxy.snapshot).run w.site = (.ok r, t) ∧
      match r with
      | none => o = .unchanged ∧ w' = { w with site := t }
      | some c => o = .installed ∧ w' = ({ w with site := t }.install c.snapshot).followUp c := by
  rw [apply] at h
  cases hplan : (m.plan w.proxy.registry w.proxy.snapshot).run w.site with
  | mk r t =>
    rw [hplan] at h
    cases r with
    | error e => cases h
    | ok r =>
      refine ⟨r, t, rfl, ?_⟩
      cases r with
      | none =>
        obtain ⟨ho, rfl⟩ := Prod.mk.inj h
        exact ⟨(Except.ok.inj ho).symm, rfl⟩
      | some c =>
        obtain ⟨ho, rfl⟩ := Prod.mk.inj h
        exact ⟨(Except.ok.inj ho).symm, rfl⟩

/-- Closing the proxy touches neither the snapshot nor, but for a mark, the site. -/
theorem close_rest (w : World) :
    w.close.2.proxy.snapshot = w.proxy.snapshot ∧
      ∃ b, w.close.2.site = { w.site with storeClosed := b } := by
  rw [close]
  split
  · exact ⟨rfl, w.site.storeClosed, rfl⟩
  · rw [run_closeStore]
    cases w.site.failing { method := .close } with
    | true => exact ⟨rfl, w.site.storeClosed, rfl⟩
    | false => exact ⟨rfl, true, rfl⟩

/-- **What a move does to the installed snapshot**: nothing, or it is a mutation and puts the
planned one in its place. -/
theorem snapshot_move (w : World) (m : Move) :
    (w.move m).proxy.registry = w.proxy.registry ∧
      ((w.move m).proxy.snapshot = w.proxy.snapshot ∨ ∃ mutation c t, m = .mutate mutation ∧
        (mutation.plan w.proxy.registry w.proxy.snapshot).run w.site = (.ok (some c), t) ∧
          (w.move m).proxy.snapshot = c.snapshot) := by
  cases m with
  | mutate mutation =>
    rw [move, apply]
    cases hplan : (mutation.plan w.proxy.registry w.proxy.snapshot).run w.site with
    | mk r t =>
      cases r with
      | error e => exact ⟨rfl, .inl rfl⟩
      | ok change =>
        cases change with
        | none => exact ⟨rfl, .inl rfl⟩
        | some c => exact ⟨rfl, .inr ⟨mutation, c, t, rfl, hplan, rfl⟩⟩
  | announce state => exact ⟨rfl, .inl rfl⟩
  | close =>
    rw [move, close]
    split
    · exact ⟨rfl, .inl rfl⟩
    · exact ⟨rfl, .inl rfl⟩
  | change c => exact ⟨rfl, .inl rfl⟩

/-- The registry is never replaced. -/
theorem registry_after (w : World) (history : List Move) :
    (w.after history).proxy.registry = w.proxy.registry := by
  induction history with
  | nil => rfl
  | cons m earlier ih => exact ((w.after earlier).snapshot_move m).1.trans ih

/-- Only a mutation changes the installed snapshot, to one that is in order again. -/
theorem inOrder_move (hs : w.proxy.snapshot.InOrder) (m : Move) :
    (w.move m).proxy.snapshot.InOrder := by
  cases m with
  | mutate m =>
    rw [move]
    rcases apply_cases hs m with ⟨e, t, h, -⟩ | ⟨t, h, -⟩ | ⟨opened, c, t, h, he, -⟩
    · rw [h]; exact hs
    · rw [h]; exact hs
    · rw [h]; exact he.inOrder hs
  | announce state => exact hs
  | close =>
    rw [move, w.close_rest.1]
    exact hs
  | change c => exact hs

/-- A proxy that was started has opened the pools of its databases, and no others. -/
theorem Started.start_ok (h : w.Started) :
    Database.AllAssembled w.proxy.snapshot.catalog.databases ∧ ∃ site : Site, site.Fresh ∧
      site.Opened w.site (Database.handlesOf w.proxy.snapshot.catalog.databases) := by
  obtain ⟨settings, reg, site, -, hfresh, hboot⟩ := h
  rw [boot] at hboot
  split at hboot
  · next proxy t hstart =>
    obtain rfl := Except.ok.inj hboot
    obtain ⟨hall, ho⟩ := Proxy.start_ok hfresh hstart
    exact ⟨hall, site, hfresh, ho⟩
  · cases hboot

/-- **The installed snapshot is in order**, always. -/
theorem Reachable.inOrder (h : w.Reachable) : w.proxy.snapshot.InOrder :=
  h.induction (P := fun w => w.proxy.snapshot.InOrder)
    (fun _ hw => Snapshot.inOrder_of_assembled hw.start_ok.1) fun _ m _ hw => inOrder_move hw m

/-- What holds of every first snapshot and of every planned one holds of every installed one. -/
theorem Reachable.snapshot_induction {P : Registry → Snapshot → Prop}
    (start : ∀ {settings reg site p t}, site.Fresh →
      (Proxy.start settings reg).run site = (.ok p, t) → P reg p.snapshot)
    (plan : ∀ {reg s m site c t}, s.InOrder → P reg s →
      (Mutation.plan reg s m).run site = (.ok (some c), t) → P reg c.snapshot)
    (h : w.Reachable) : P w.proxy.registry w.proxy.snapshot := by
  refine h.induction (P := fun w => P w.proxy.registry w.proxy.snapshot) (fun w hw => ?_)
    fun w m hw hP => ?_
  · obtain ⟨settings, reg, site, -, hfresh, hboot⟩ := hw
    rw [boot] at hboot
    split at hboot
    · next proxy t hstart =>
      obtain rfl := Except.ok.inj hboot
      rw [(Proxy.start_run hstart).1]
      exact start hfresh hstart
    · cases hboot
  · obtain ⟨hregistry, hsame | ⟨mutation, c, t, -, hplan, hc⟩⟩ := w.snapshot_move m
    · rw [hregistry, hsame]
      exact hP
    · rw [hregistry, hc]
      exact plan hw.inOrder hP hplan

end World

/-! ### A small site -/

namespace Sample

/-- A store with one database, which has one pool, a single-table rule and one table. -/
def store : Store where
  props := ∅
  globalRules := []
  databases := .single "foo_db"
    { pools := .single "ds_0" ⟨"", ∅⟩
      rules := [.single ⟨[], none⟩]
      schemas := .single "foo_db" (.ofLists [⟨"t_order", [], [], []⟩] [])
      rows := ∅ }

/-- A site with this store, where no storage engine can be reached. -/
def site : Site :=
  .ofStore store fun m _ => .error (.unreachableStorage m.database)

theorem fresh_site : site.Fresh where
  journal := rfl
  pending := rfl
  proper := by
    have hfolded {α : Type} (v : α) : (NameMap.single "foo_db" v).Folded :=
      .insert .empty (by decide) v
    refine ⟨rfl, hfolded _, fun name n hn => ?_⟩
    rw [show site.store.databases = store.databases from rfl, store, NameMap.get?_single] at hn
    split at hn
    · obtain rfl := Option.some.inj hn
      exact ⟨hfolded _, .empty, fun _ _ h => by cases h⟩
    · cases hn

/-- The world of a proxy started there. -/
def world : World :=
  (World.boot .default .standard site).toOption.get rfl

theorem started_world : world.Started :=
  ⟨.default, .standard, site, rfl, fresh_site, rfl⟩

/-- The small world, where storage engines report two spellings of the schema that differ in the
table. -/
def disputed : World :=
  world.after [.change (.discovery fun _ _ => .ok Schema.discordant)]

theorem reachable_disputed : disputed.Reachable :=
  started_world.reachable.after _

end Sample

end ProxyCatalog
