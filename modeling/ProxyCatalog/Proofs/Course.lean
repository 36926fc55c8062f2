import ProxyCatalog.Assembly
import ProxyCatalog.Proofs.Listing

/-!
# The course of an action

What an action of a proxy does to its site, whatever its outcome. `Site.Leads s t es` says that the
site `t` differs from `s` by the events `es` alone: they stand at the end of the journal, the
openings among them are numbered on from those before, and nothing but the store is changed
besides. What an action did is therefore read off its events.

* `SiteM.Within R x`: every run of `x` stays within the relation `R` of sites. It passes from the
  parts of an action to the whole (`Within.bind`, `Within.forM`, `Within.mapM`).
* `Site.Quiet`: no pool is opened or closed, and no rule is asked to release anything. Discovery
  and every access to the store are quiet.
* `Site.Reading`: moreover the store holds what it held (`Site.Unwritten`).
* `Site.Opened` and `Site.Undone`: pools are opened and kept, or opened and closed again. Closing
  the pools that were opened undoes the opening (`Opened.closePools`).
-/

namespace ProxyCatalog

/-! ### Running actions -/

namespace SiteM

variable {α β : Type}

@[simp] theorem run_pure (a : α) (s : Site) : (pure a : SiteM α).run s = (.ok a, s) := rfl

@[simp] theorem run_throw (e : Fault) (s : Site) :
    (throw e : SiteM α).run s = (.error e, s) := rfl

@[simp] theorem run_get (s : Site) : (get : SiteM Site).run s = (.ok s, s) := rfl

@[simp] theorem run_set (s t : Site) : (set t : SiteM PUnit).run s = (.ok ⟨⟩, t) := rfl

@[simp] theorem run_modify (f : Site → Site) (s : Site) :
    (modify f : SiteM PUnit).run s = (.ok ⟨⟩, f s) := rfl

@[simp] theorem run_ofExcept (r : Except Fault α) (s : Site) : (ofExcept r).run s = (r, s) := by
  cases r <;> rfl

/-- A sequence ends where its first part fails, and goes on from where its first part ends. -/
theorem run_bind (x : SiteM α) (f : α → SiteM β) (s : Site) :
    (x >>= f).run s =
      match x.run s with
      | (.ok a, t) => (f a).run t
      | (.error e, t) => (.error e, t) := by
  unfold ExceptT.run
  simp only [bind, ExceptT.bind, ExceptT.mk, StateT.bind, ExceptT.bindCont]
  cases x s with
  | mk r t => cases r <;> rfl

/-- A sequence goes on with what its first part gave. -/
theorem run_bind_of_ok {x : SiteM α} {s t : Site} {a : α} (h : x.run s = (.ok a, t))
    (f : α → SiteM β) : (x >>= f).run s = (f a).run t := by
  rw [run_bind, h]

/-- The result of a sequence that begins with a given outcome. -/
theorem fst_run_ofExcept_bind (r : Except Fault α) (f : α → SiteM β) (s : Site) :
    ((ofExcept r >>= f).run s).1 = r >>= fun a => ((f a).run s).1 := by
  rw [run_bind, run_ofExcept]
  cases r <;> rfl

/-- A given value is the result, and nothing is done. -/
theorem run_pure_ok {a b : α} {s t : Site} :
    (pure a : SiteM α).run s = (.ok b, t) ↔ a = b ∧ s = t := by
  rw [run_pure, Prod.mk.injEq, Except.ok.injEq]

/-- A given outcome succeeds if it is a success, and nothing is done. -/
theorem run_ofExcept_ok {r : Except Fault α} {b : α} {s t : Site} :
    (ofExcept r).run s = (.ok b, t) ↔ r = .ok b ∧ s = t := by
  rw [run_ofExcept, Prod.mk.injEq]

/-- A sequence succeeds when both of its parts do. -/
theorem run_bind_ok {x : SiteM α} {f : α → SiteM β} {s u : Site} {b : β} :
    (x >>= f).run s = (.ok b, u) ↔
      ∃ a t, x.run s = (.ok a, t) ∧ (f a).run t = (.ok b, u) := by
  rw [run_bind]
  cases hx : x.run s with
  | mk r t =>
    cases r with
    | ok a => exact ⟨fun h => ⟨a, t, rfl, h⟩, by rintro ⟨_, _, ⟨⟩, h⟩; exact h⟩
    | error e => exact ⟨nofun, by rintro ⟨_, _, ⟨⟩, _⟩⟩

/-- What a sequence starts with is done first, and its failure is the failure of the sequence. -/
theorem run_bind_error {x : SiteM α} {f : α → SiteM β} {s u : Site} {e : Fault} :
    (x >>= f).run s = (.error e, u) ↔
      x.run s = (.error e, u) ∨ ∃ a t, x.run s = (.ok a, t) ∧ (f a).run t = (.error e, u) := by
  rw [run_bind]
  cases hx : x.run s with
  | mk r t =>
    cases r with
    | ok a => exact ⟨fun h => .inr ⟨a, t, rfl, h⟩, by rintro (⟨⟨⟩⟩ | ⟨_, _, ⟨⟩, h⟩); exact h⟩
    | error e' =>
      constructor
      · rintro ⟨⟩; exact .inl rfl
      · rintro (⟨⟨⟩⟩ | ⟨_, _, ⟨⟩, _⟩); rfl

end SiteM

/-! ### Events of a course -/

namespace Event

/-- The pools that events opened. -/
def opens (es : List Event) : List PoolHandle :=
  es.filterMap fun
    | opened h => some h
    | _ => none

/-- The pools that events closed. -/
def closes (es : List Event) : List PoolHandle :=
  es.filterMap fun
    | closed h => some h
    | _ => none

/-- The requests to rules to release what they hold. -/
def releases (es : List Event) : List Release :=
  es.filterMap fun
    | released k d => some ⟨k, d⟩
    | _ => none

@[simp] theorem opens_append (es fs : List Event) : opens (es ++ fs) = opens es ++ opens fs :=
  List.filterMap_append

@[simp] theorem closes_append (es fs : List Event) : closes (es ++ fs) = closes es ++ closes fs :=
  List.filterMap_append

@[simp] theorem releases_append (es fs : List Event) :
    releases (es ++ fs) = releases es ++ releases fs :=
  List.filterMap_append

/-- A pool is among those that were opened if its opening was recorded. -/
theorem mem_opens {es : List Event} {h : PoolHandle} : h ∈ opens es ↔ opened h ∈ es := by
  rw [opens, List.mem_filterMap]
  constructor
  · rintro ⟨e, he, hs⟩; cases e <;> cases hs; exact he
  · intro he; exact ⟨_, he, rfl⟩

/-- A pool is among those that were closed if its closing was recorded. -/
theorem mem_closes {es : List Event} {h : PoolHandle} : h ∈ closes es ↔ closed h ∈ es := by
  rw [closes, List.mem_filterMap]
  constructor
  · rintro ⟨e, he, hs⟩; cases e <;> cases hs; exact he
  · intro he; exact ⟨_, he, rfl⟩

/-- A request to release was made if it was recorded. -/
theorem mem_releases {es : List Event} {k : RuleKind} {d : Option String} :
    ⟨k, d⟩ ∈ releases es ↔ released k d ∈ es := by
  rw [releases, List.mem_filterMap]
  constructor
  · rintro ⟨e, he, hs⟩; cases e <;> cases hs; exact he
  · intro he; exact ⟨_, he, rfl⟩

/-- A pool is closed as often as its closing was recorded. -/
theorem count_closes (es : List Event) (p : PoolHandle) :
    (closes es).count p = es.count (.closed p) := by
  induction es with
  | nil => rfl
  | cons event es ih =>
    rw [List.count_cons, ← ih]
    cases event with
    | closed q =>
      rw [show closes (closed q :: es) = q :: closes es from rfl, List.count_cons]
      congr 1
      simp
    | _ => exact (Nat.add_zero _).symm

end Event

namespace Site

open Event

/-- **A course.** The events lead from the site `s` to the site `t`: they are recorded, the pools
among them are numbered on, and apart from the store nothing else is changed. -/
structure Leads (s t : Site) (es : List Event) : Prop where
  rest : t = { s with
    store := t.store
    openings := s.openings + (opens es).length
    journal := s.journal ++ es }
  serials : (opens es).map PoolHandle.serial = List.range' (s.openings + 1) (opens es).length

namespace Leads

variable {s t u : Site} {es fs : List Event}

/-- The events stand after all that was recorded before. -/
theorem journal (h : s.Leads t es) : t.journal = s.journal ++ es := by rw [h.rest]

/-- As many pools are counted as were opened. -/
theorem openings (h : s.Leads t es) : t.openings = s.openings + (opens es).length := by
  rw [h.rest]

/-- What is scheduled stays scheduled. -/
theorem pending (h : s.Leads t es) : t.pending = s.pending := by rw [h.rest]

theorem writable (h : s.Leads t es) : t.writable = s.writable := by rw [h.rest]

theorem failing (h : s.Leads t es) : t.failing = s.failing := by rw [h.rest]

theorem connector (h : s.Leads t es) : t.connector = s.connector := by rw [h.rest]

theorem discovery (h : s.Leads t es) : t.discovery = s.discovery := by rw [h.rest]

/-- The same would be found before and after. -/
theorem findings (h : s.Leads t es) : t.findings = s.findings := by
  rw [h.rest]
  rfl

/-- Without events a site stays what it is. -/
theorem refl (s : Site) : s.Leads s [] :=
  ⟨by simp [opens], rfl⟩

/-- One course after another is a course. The pools that the second opens are numbered on from those
of the first. -/
theorem trans (h : s.Leads t es) (h' : t.Leads u fs) : s.Leads u (es ++ fs) := by
  refine ⟨?_, ?_⟩
  · have hrest := h'.rest
    rw [h.rest] at hrest
    simpa [Nat.add_assoc, List.append_assoc] using hrest
  · rw [opens_append, List.map_append, List.length_append, h.serials, h'.serials, h.openings,
      Nat.add_right_comm, List.range'_append_1]

/-- Events that open nothing are only recorded. -/
theorem of_record {store : Store} (h : opens es = []) :
    s.Leads ({ s with store }.record es) es :=
  ⟨by simp [record, h], by simp [h]⟩

end Leads

/-- Some events lead from one site to the other. -/
def Steady (s t : Site) : Prop :=
  ∃ es, s.Leads t es

/-- Neither are pools opened or closed nor rules asked to release anything. -/
def Quiet (s t : Site) : Prop :=
  ∃ es, s.Leads t es ∧ opens es = [] ∧ closes es = [] ∧ releases es = []

/-- The store holds what it held. -/
def Unwritten (s t : Site) : Prop :=
  t.store = s.store

/-- Nothing is done but to ask, the store or the storage engines. -/
def Reading (s t : Site) : Prop :=
  s.Quiet t ∧ s.Unwritten t

/-- Pools may be opened and closed, but the store holds what it held. -/
def Sparing (s t : Site) : Prop :=
  s.Steady t ∧ s.Unwritten t

/-- Pools with these handles are opened, none is closed, and no rule is asked to release
anything. -/
def Opened (s t : Site) (handles : List PoolHandle) : Prop :=
  ∃ es, s.Leads t es ∧ (opens es).Perm handles ∧ closes es = [] ∧ releases es = []

/-- Every pool that is opened is closed, and no other; no rule is asked to release anything. -/
def Undone (s t : Site) : Prop :=
  ∃ es, s.Leads t es ∧ (closes es).Perm (opens es) ∧ releases es = []

section

variable {s t u : Site} {handles handles' : List PoolHandle}

/-- A quiet course is a course. -/
theorem Quiet.steady (h : s.Quiet t) : s.Steady t :=
  h.imp fun _ h => h.1

theorem Opened.steady (h : s.Opened t handles) : s.Steady t :=
  h.imp fun _ h => h.1

theorem Undone.steady (h : s.Undone t) : s.Steady t :=
  h.imp fun _ h => h.1

/-- Who only asks opens no pool and writes nothing. -/
theorem Reading.sparing (h : s.Reading t) : s.Sparing t :=
  ⟨h.1.steady, h.2⟩

theorem Steady.writable (h : s.Steady t) : t.writable = s.writable := by
  obtain ⟨es, hl⟩ := h
  exact hl.writable

/-- Where nothing is opened there is nothing to close. -/
theorem Quiet.undone (h : s.Quiet t) : s.Undone t := by
  obtain ⟨es, hl, ho, hc, hr⟩ := h
  exact ⟨es, hl, by rw [ho, hc], hr⟩

/-- To be quiet is to open no pools. -/
theorem Quiet.opened (h : s.Quiet t) : s.Opened t [] := by
  obtain ⟨es, hl, ho, hc, hr⟩ := h
  exact ⟨es, hl, by rw [ho], hc, hr⟩

/-- Pools may be opened one lot after another. -/
theorem Opened.trans (h : s.Opened t handles) (h' : t.Opened u handles') :
    s.Opened u (handles ++ handles') := by
  obtain ⟨es, hl, ho, hc, hr⟩ := h
  obtain ⟨fs, hl', ho', hc', hr'⟩ := h'
  refine ⟨es ++ fs, hl.trans hl', ?_, by simp [hc, hc'], by simp [hr, hr']⟩
  rw [opens_append]
  exact ho.append ho'

/-- The order in which the handles are listed is of no account. -/
theorem Opened.of_perm (h : s.Opened t handles) (hp : handles.Perm handles') :
    s.Opened t handles' := by
  obtain ⟨es, hl, ho, hc, hr⟩ := h
  exact ⟨es, hl, ho.trans hp, hc, hr⟩

/-- Pools that are open stay open over what is quiet. -/
theorem Opened.trans_quiet (h : s.Opened t handles) (h' : t.Quiet u) : s.Opened u handles := by
  have := h.trans h'.opened
  rwa [List.append_nil] at this

theorem Quiet.trans_opened (h : s.Quiet t) (h' : t.Opened u handles) : s.Opened u handles :=
  h.opened.trans h'

/-- What is undone in the end was undone even if something quiet came first. -/
theorem Quiet.trans_undone (h : s.Quiet t) (h' : t.Undone u) : s.Undone u := by
  obtain ⟨es, hl, ho, hc, hr⟩ := h
  obtain ⟨fs, hl', hp, hr'⟩ := h'
  exact ⟨es ++ fs, hl.trans hl', by simpa [ho, hc] using hp, by simp [hr, hr']⟩

/-- Closing pools is recorded, pool by pool. -/
theorem leads_closePools (s : Site) (pools : Pools) :
    ∃ es, s.Leads (s.closePools pools) es ∧ opens es = [] ∧ closes es = Pools.handles pools ∧
      releases es = [] := by
  let es := pools.values.map fun u => closed u.handle
  have ho : opens es = [] := by simp [opens, es]
  have hc : closes es = Pools.handles pools := by
    rw [closes, List.filterMap_map]
    exact congrFun List.filterMap_eq_map _
  have hr : releases es = [] := by simp [releases, es]
  exact ⟨es, .of_record ho, ho, hc, hr⟩

/-- Closing the pools that were opened undoes the opening. -/
theorem Opened.closePools {pools : Pools} (h : s.Opened t (Pools.handles pools)) :
    s.Undone (t.closePools pools) := by
  obtain ⟨es, hl, ho, hc, hr⟩ := h
  obtain ⟨fs, hl', ho', hc', hr'⟩ := t.leads_closePools pools
  refine ⟨es ++ fs, hl.trans hl', ?_, by rw [releases_append, hr, hr']; rfl⟩
  rw [closes_append, opens_append, hc, ho', hc', List.append_nil]
  exact ho.symm

end

/-- A relation that holds over nothing done and over two things done in a row. -/
class Course (R : Site → Site → Prop) : Prop where
  refl (s : Site) : R s s
  trans {s t u : Site} : R s t → R t u → R s u

instance : Course Quiet where
  refl s := ⟨[], .refl s, rfl, rfl, rfl⟩
  trans := by
    rintro s t u ⟨es, h, ho, hc, hr⟩ ⟨fs, h', ho', hc', hr'⟩
    exact ⟨es ++ fs, h.trans h', by simp [ho, ho'], by simp [hc, hc'], by simp [hr, hr']⟩

instance : Course Unwritten where
  refl _ := rfl
  trans h h' := Eq.trans h' h

instance : Course Reading where
  refl s := ⟨Course.refl s, Course.refl s⟩
  trans h h' := ⟨Course.trans h.1 h'.1, Course.trans h.2 h'.2⟩

instance : Course Steady where
  refl s := ⟨[], .refl s⟩
  trans := fun ⟨es, h⟩ ⟨fs, h'⟩ => ⟨es ++ fs, h.trans h'⟩

instance : Course Sparing where
  refl s := ⟨Course.refl s, Course.refl s⟩
  trans h h' := ⟨Course.trans h.1 h'.1, Course.trans h.2 h'.2⟩

end Site

/-! ### Actions within a relation -/

namespace SiteM

variable {α β : Type} {R : Site → Site → Prop}

/-- Every run of the action stays **within** the relation. -/
def Within (R : Site → Site → Prop) (x : SiteM α) : Prop :=
  ∀ s, R s (x.run s).2

namespace Within

/-- Within a relation is within every wider one. -/
theorem mono {R' : Site → Site → Prop} {x : SiteM α} (h : x.Within R)
    (hR : ∀ s t, R s t → R' s t) : x.Within R' :=
  fun s => hR _ _ (h s)

/-- The relation holds between the ends of every run. -/
theorem of_run {x : SiteM α} (h : x.Within R) {s t : Site} {r : Except Fault α}
    (hrun : x.run s = (r, t)) : R s t := by
  have hs := h s
  rwa [hrun] at hs

variable [Site.Course R]

/-- To do nothing is within every course. -/
theorem pure (a : α) : (Pure.pure a : SiteM α).Within R :=
  fun s => Site.Course.refl s

theorem ofExcept (r : Except Fault α) : (SiteM.ofExcept r).Within R := by
  intro s
  rw [run_ofExcept]
  exact Site.Course.refl s

/-- What follows an action may rely on what the action gave. -/
theorem bind_run {x : SiteM α} {f : α → SiteM β} (hx : x.Within R)
    (hf : ∀ s a t, x.run s = (.ok a, t) → (f a).Within R) : (x >>= f).Within R := by
  intro s
  have hs := hx s
  rw [run_bind]
  split
  · next a t h =>
    rw [h] at hs
    exact Site.Course.trans hs (hf s a t h t)
  · next e t h =>
    rw [h] at hs
    exact hs

/-- **A sequence stays within a course** if both of its parts do. -/
theorem bind {x : SiteM α} {f : α → SiteM β} (hx : x.Within R) (hf : ∀ a, (f a).Within R) :
    (x >>= f).Within R :=
  bind_run hx fun _ a _ _ => hf a

/-- **A loop stays within a course** if its body does for every member of the list. -/
theorem forM_mem {f : α → SiteM PUnit} {l : List α} (hf : ∀ a ∈ l, (f a).Within R) :
    (l.forM f).Within R := by
  induction l with
  | nil => exact pure _
  | cons a l ih =>
    exact bind (hf a List.mem_cons_self) fun _ => ih fun b hb => hf b (List.mem_cons_of_mem _ hb)

theorem forM {f : α → SiteM PUnit} (l : List α) (hf : ∀ a, (f a).Within R) :
    (l.forM f).Within R :=
  forM_mem fun a _ => hf a

/-- A loop that collects results stays within a course if its body does. -/
theorem mapM {f : α → SiteM β} (l : List α) (hf : ∀ a, (f a).Within R) :
    (l.mapM f).Within R := by
  induction l with
  | nil => rw [List.mapM_nil]; exact pure _
  | cons a l ih =>
    rw [List.mapM_cons]
    exact bind (hf a) fun _ => bind ih fun _ => pure _

end Within

end SiteM

end ProxyCatalog
