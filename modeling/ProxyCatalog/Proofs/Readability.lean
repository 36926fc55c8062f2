import ProxyCatalog.Proofs.Confinement
import ProxyCatalog.Proofs.Proper
import Mathlib.Data.List.DropRight

/-!
# Admitted properties can be read

Properties are checked once, when they are made, and read again and again after that. The check
takes each text as it stands; a reader trims it first, and takes a default for a text that is
missing. Nothing that is checked has space at its ends except a dialect, whose name is trimmed in
any case, so the readers find what the check found. Merging needs no check of its own, since every
entry of a merged map is one of the two maps' entries.

* `Properties.Obtained`: the ways in which properties come about, and
  `Properties.obtained_iff_admitted`: they are those that pass the check.
* `Properties.Obtained.readable`: they can be read.
* `World.Reachable.props_admitted`: so can those of every world that is reached, where a database
  can therefore always be added.
-/

namespace ProxyCatalog

/-! ### Texts without space at their ends -/

namespace Text

theorem trim_eq_rdropWhile (s : String) :
    trim s = String.ofList ((s.toList.dropWhile isBlank).rdropWhile isBlank) := rfl

/-- What begins without space does so when space is taken from its end. -/
theorem dropWhile_rdropWhile {l : List Char} (h : l.dropWhile isBlank = l) :
    (l.rdropWhile isBlank).dropWhile isBlank = l.rdropWhile isBlank := by
  rw [List.dropWhile_eq_self_iff] at h ⊢
  intro hpos
  obtain ⟨rest, hrest⟩ := List.rdropWhile_prefix isBlank l
  have hlength : 0 < l.length := by
    rw [← hrest, List.length_append]
    exact Nat.lt_add_right _ hpos
  have hhead : (l.rdropWhile isBlank)[0] = l[0] := by
    rw [List.getElem_of_eq hrest.symm hlength, List.getElem_append_left hpos]
  rw [hhead]
  exact h hlength

@[simp] theorem trim_trim (s : String) : trim (trim s) = trim s := by
  rw [trim_eq_rdropWhile (trim s), trim_eq_rdropWhile, String.toList_ofList,
    dropWhile_rdropWhile (List.dropWhile_idempotent _ _), List.rdropWhile_idempotent]

/-- A text without any space is left as it is. -/
theorem trim_eq_self {s : String} (h : ∀ c ∈ s.toList, isBlank c = false) : trim s = s := by
  have hfront : s.toList.dropWhile isBlank = s.toList :=
    List.dropWhile_eq_self_iff.2 fun hpos => by simp [h _ (List.getElem_mem hpos)]
  have hback : s.toList.rdropWhile isBlank = s.toList :=
    List.rdropWhile_eq_self_iff.2 fun hne => by simp [h _ (List.getLast_mem hne)]
  rw [trim_eq_rdropWhile, hfront, hback, String.ofList_toList]

theorem isBlank_of_isDigit {c : Char} (h : c.isDigit) : isBlank c = false := by
  rw [Char.isDigit, Bool.and_eq_true, decide_eq_true_iff, decide_eq_true_iff] at h
  have hlow : 48 ≤ c.toNat := UInt32.le_iff_toNat_le.1 h.1
  have hhigh : c.toNat ≤ 57 := UInt32.le_iff_toNat_le.1 h.2
  simp only [isBlank, inRanges, List.any_cons, List.any_nil, Bool.or_false, Bool.or_eq_false_iff,
    Bool.and_eq_false_iff, decide_eq_false_iff_not]
  omega

theorem isDigit_of_readDigits {n m : Nat} {cs : List Char} (h : readDigits n cs = .ok m) :
    ∀ c ∈ cs, c.isDigit := by
  fun_induction readDigits n cs with
  | case1 n => exact fun c hc => absurd hc List.not_mem_nil
  | case2 n c cs hnone => cases h
  | case3 n c cs d hd hsize ih =>
    have hc : c.isDigit := by
      rw [digit?] at hd
      split at hd
      · assumption
      · cases hd
    exact List.forall_mem_cons.2 ⟨hc, ih h⟩
  | case4 n c cs d hd hsize => cases h

/-- A numeral has no space in it. -/
theorem trim_of_readWord {s : String} {n : Nat} (h : readWord s = .ok n) : trim s = s := by
  refine trim_eq_self fun c hc => ?_
  rw [readWord] at h
  split at h
  · cases h
  · cases h
  next cs _ hs =>
    rw [hs] at hc
    obtain rfl | hc := List.mem_cons.1 hc
    · decide
    · exact isBlank_of_isDigit (isDigit_of_readDigits h c hc)
  · exact isBlank_of_isDigit (isDigit_of_readDigits h c hc)

theorem trim_of_readFlag {s : String} {b : Bool} (h : readFlag s = some b) : trim s = s := by
  rw [readFlag] at h
  split_ifs at h with htrue hfalse
  · rw [htrue]
    decide
  · rw [hfalse]
    decide

end Text

@[simp] theorem Dialect.read_trim (s : String) : read (Text.trim s) = read s := by
  rw [read, read, Text.trim_trim]

/-! ### Admission -/

namespace Properties

variable {p q : Properties} {k : PropertyKey} {text : String}

theorem checkEntries_eq_ok {l : List (String × String)} :
    checkEntries l = .ok () ↔ ∀ e ∈ l, checkEntry e.1 e.2 = .ok () := by
  induction l with
  | nil => exact ⟨fun _ _ he => absurd he List.not_mem_nil, fun _ => rfl⟩
  | cons e l ih =>
    rw [List.forall_mem_cons, ← ih]
    exact Except.check_bind_eq_ok

/-- Properties are admitted if each of their entries is. -/
theorem admitted_iff :
    p.Admitted ↔ ∀ name text, p.values.get? name = some text → checkEntry name text = .ok () := by
  rw [Admitted, checkEntries_eq_ok]
  simp only [Prod.forall, NameMap.mem_entries_iff]

theorem make_eq_ok {values : NameMap String} :
    make values = .ok p ↔ p.values = values ∧ p.Admitted := by
  rw [make, Admitted]
  constructor
  · intro h
    obtain ⟨hchecked, h⟩ := Except.check_bind_eq_ok.1 h
    cases Except.ok.inj h
    exact ⟨rfl, hchecked⟩
  · rintro ⟨rfl, hchecked⟩
    exact Except.check_bind_eq_ok.2 ⟨hchecked, rfl⟩

theorem Admitted.merged (hp : p.Admitted) (hq : q.Admitted) : (p.merged q).Admitted := by
  rw [admitted_iff] at hp hq ⊢
  intro name text h
  rw [Properties.merged, NameMap.get?_overlay, Option.or_eq_some_iff] at h
  rcases h with h | ⟨-, h⟩
  · exact hq name text h
  · exact hp name text h

/-- The **ways in which properties come about**: they are made of a map or read from a document,
which checks them, or there are none, or they are merged. -/
inductive Obtained : Properties → Prop
  | made {values : NameMap String} {p : Properties} : make values = .ok p → Obtained p
  | read {d : Document} {p : Properties} : ofDocument? d = some p → Obtained p
  | empty : Obtained ∅
  | merged {p q : Properties} : Obtained p → Obtained q → Obtained (p.merged q)

theorem Obtained.admitted (h : p.Obtained) : p.Admitted := by
  induction h with
  | made h => exact (make_eq_ok.1 h).2
  | read h =>
    obtain ⟨values, -, h⟩ := Option.bind_eq_some_iff.1 h
    exact (make_eq_ok.1 (Except.toOption_eq_some.1 h)).2
  | empty => rfl
  | merged _ _ hp hq => exact hp.merged hq

/-- However they come about, properties are those that pass the check. -/
theorem obtained_iff_admitted : p.Obtained ↔ p.Admitted :=
  ⟨Obtained.admitted, fun h => .made (make_eq_ok.2 ⟨rfl, h⟩)⟩

/-! ### Reading -/

theorem raw_eq_of_get? (h : p.values.get? k.key = some text) : p.raw k = text := by
  rw [raw, NameMap.getD, h]
  rfl

/-- What stands for a well-known property passes the check, be it present or not. -/
theorem Admitted.validate_raw (h : p.Admitted) (k : PropertyKey) :
    k.validate (p.raw k) = .ok () := by
  cases hget : p.values.get? k.key with
  | none =>
    rw [raw, NameMap.getD, hget]
    cases k <;> decide
  | some text =>
    have hchecked := admitted_iff.1 h _ _ hget
    have hknown : PropertyKey.ofKey? k.key = some k := by cases k <;> decide
    rw [checkEntry, hknown] at hchecked
    rw [raw_eq_of_get? hget]
    exact Except.mapError_eq_ok.1 hchecked

/-- A text that reads as it stands is read when it is trimmed. -/
theorem value_eq_ok {α : Type} {read : String → Except PropertyFault α} {a : α}
    (h : read (p.raw k) = .ok a) (htrim : Text.trim (p.raw k) = p.raw k) :
    p.value k read = .ok a := by
  rw [value, htrim, h]
  rfl

theorem Admitted.executorSize_eq_ok (h : p.Admitted) :
    ∃ n, p.executorSize = .ok n ∧ PropertyFault.readSize (p.raw .executorSize) = .ok n := by
  have hvalid := h.validate_raw .executorSize
  rw [PropertyKey.validate] at hvalid
  obtain ⟨n, hn, -⟩ := Except.map_eq_ok hvalid
  have htrim := Text.trim_of_readWord (Except.mapError_eq_ok.1 hn)
  rw [executorSize, size]
  exact ⟨n, value_eq_ok hn htrim, hn⟩

theorem Admitted.flag_eq_ok (h : p.Admitted) (hk : k = .sqlShow ∨ k = .checkTables) :
    ∃ b, p.flag k = .ok b ∧ PropertyFault.readFlag (p.raw k) = .ok b := by
  have hvalid : (PropertyFault.readFlag (p.raw k)).map (fun _ => ()) = .ok () := by
    rcases hk with rfl | rfl
    · exact h.validate_raw .sqlShow
    · exact h.validate_raw .checkTables
  obtain ⟨b, hb, -⟩ := Except.map_eq_ok hvalid
  have htrim : Text.trim (p.raw k) = p.raw k := by
    cases hread : Text.readFlag (p.raw k) with
    | none =>
      rw [PropertyFault.readFlag, hread] at hb
      cases hb
    | some b' => exact Text.trim_of_readFlag hread
  exact ⟨b, value_eq_ok hb htrim, hb⟩

/-- A dialect is looked up by its trimmed name, by the check as well as by the reader. -/
theorem Admitted.frontend_eq_ok (h : p.Admitted) :
    ∃ d, p.frontend = .ok d ∧
      (if Text.isBlankText (p.raw .frontendProtocol) then .ok none
        else (PropertyFault.readDialect (p.raw .frontendProtocol)).map some) = .ok d := by
  have hvalid := h.validate_raw .frontendProtocol
  rw [PropertyKey.validate] at hvalid
  rw [frontend]
  split_ifs at hvalid ⊢ with hblank
  · exact ⟨none, rfl, rfl⟩
  · obtain ⟨d, hd, -⟩ := Except.map_eq_ok hvalid
    have htrim : PropertyFault.readDialect (Text.trim (p.raw .frontendProtocol)) = .ok d := by
      rw [PropertyFault.readDialect, Dialect.read_trim]
      exact hd
    refine ⟨some d, ?_, ?_⟩
    · rw [value, htrim]
      rfl
    · rw [hd]
      rfl

theorem protocol_eq_ok {d : Option Dialect} (h : p.frontend = .ok d) (storage : NameMap Dialect) :
    p.protocol storage = .ok (d.getD (storage.values.head?.getD .mySQL)) := by
  rw [protocol, h]
  cases d with
  | none => rfl
  | some d => rfl

/-- The properties **can be read**, and where one is present the reader finds what is checked. -/
structure Readable (p : Properties) : Prop where
  executorSize : ∃ n, p.executorSize = .ok n ∧
    ∀ text, p.values.get? PropertyKey.executorSize.key = some text →
      PropertyFault.readSize text = .ok n
  flag : ∀ k, k = .sqlShow ∨ k = .checkTables → ∃ b, p.flag k = .ok b ∧
    ∀ text, p.values.get? k.key = some text → PropertyFault.readFlag text = .ok b
  frontend : ∃ d, p.frontend = .ok d ∧
    ∀ text, p.values.get? PropertyKey.frontendProtocol.key = some text →
      (if Text.isBlankText text then .ok none
        else (PropertyFault.readDialect text).map some) = .ok d
  protocol : ∀ storage, ∃ d, p.protocol storage = .ok d

/-- **Properties can be read** however they come about. -/
theorem Obtained.readable (h : p.Obtained) : p.Readable := by
  obtain ⟨n, hn, hsize⟩ := h.admitted.executorSize_eq_ok
  obtain ⟨d, hd, hdialect⟩ := h.admitted.frontend_eq_ok
  refine ⟨⟨n, hn, fun text htext => raw_eq_of_get? htext ▸ hsize⟩, fun k hk => ?_,
    ⟨d, hd, fun text htext => raw_eq_of_get? htext ▸ hdialect⟩,
    fun storage => ⟨_, protocol_eq_ok hd storage⟩⟩
  obtain ⟨b, hb, hflag⟩ := h.admitted.flag_eq_ok hk
  exact ⟨b, hb, fun text htext => raw_eq_of_get? htext ▸ hflag⟩

end Properties

/-! ### Worlds -/

/-- The first snapshot has the properties that it was assembled with. -/
theorem Assembly.props_assembleFrom {reg : Registry} {props : Properties} {names : List String}
    {databases : NameMap Database} {rows : RowCache} {s t : Site} {snapshot : Snapshot}
    (h : (assembleFrom reg props names databases rows).run s = (.ok snapshot, t)) :
    snapshot.catalog.props = props := by
  induction names generalizing databases rows s with
  | nil =>
    obtain ⟨rules, -, rfl, -⟩ := assembleFrom_nil_ok h
    rfl
  | cons name names ih =>
    obtain ⟨d, u, -, h⟩ := assembleFrom_cons_ok h
    exact ih h

/-- What is planned has the installed properties, those in the store or new ones that pass the
check. -/
theorem Mutation.admitted_of_plan {reg : Registry} {s : Snapshot} {m : Mutation} {site t : Site}
    {c : Change} (hs : s.InOrder) (hsettled : s.Settled reg)
    (hadmitted : s.catalog.props.Admitted) (hstored : site.store.props.Admitted)
    (h : (m.plan reg s).run site = (.ok (some c), t)) : c.snapshot.catalog.props.Admitted := by
  cases hm : m.changesProperties with
  | false => exact (plan_shared hs hsettled h).2.1 hm ▸ hadmitted
  | true =>
    cases m with
    | alterProperties values =>
      obtain ⟨props, hmake, rfl⟩ := Snapshot.alterProperties_ok (SiteM.run_ofExcept_ok.1 h).1
      exact (Properties.make_eq_ok.1 hmake).2
    | reloadDatabase database =>
      obtain ⟨d, d', c', -, hc, hreload⟩ := plan_reloadDatabase h
      obtain rfl := Option.some.inj hc
      obtain ⟨rules, -, hinstalled⟩ := hreload.installed
      rw [hinstalled]
      exact hstored
    | _ => cases hm

/-- A database can be added under all properties that come about. -/
theorem Snapshot.addDatabase_isOk {s : Snapshot} (h : s.catalog.props.Obtained) (name : String) :
    ∃ planned, s.addDatabase name = .ok planned := by
  obtain ⟨protocol, hprotocol⟩ := h.readable.protocol ∅
  rw [addDatabase]
  cases s.database? name with
  | some d => exact ⟨none, rfl⟩
  | none =>
    rw [hprotocol]
    exact ⟨_, rfl⟩

namespace World

variable {w : World}

/-- **In every world that is reached the properties are admitted.** -/
theorem Reachable.props_admitted (h : w.Reachable) : w.proxy.snapshot.catalog.props.Admitted := by
  refine h.induction (P := fun w => w.proxy.snapshot.catalog.props.Admitted) (fun w hw => ?_)
    fun w m hw hprops => ?_
  · obtain ⟨settings, reg, site, hinitial, hfresh, hboot⟩ := hw
    rw [boot] at hboot
    split at hboot
    · next proxy t hstart =>
      obtain rfl := Except.ok.inj hboot
      have hassembled := Assembly.assemble_ok (Proxy.start_run hstart).2
      rw [Assembly.props_assembleFrom hassembled]
      exact hinitial.merged hfresh.proper.props
    · cases hboot
  · obtain ⟨-, hsame | ⟨mutation, c, t, -, hplan, hc⟩⟩ := w.snapshot_move m
    · rw [hsame]
      exact hprops
    · rw [hc]
      exact Mutation.admitted_of_plan hw.inOrder hw.settled hprops hw.proper_store.props hplan

theorem apply_addDatabase_isOk (h : w.proxy.snapshot.catalog.props.Obtained) (name : String) :
    ∃ outcome, (w.apply (.addDatabase name)).1 = .ok outcome := by
  obtain ⟨planned, hplanned⟩ := Snapshot.addDatabase_isOk h name
  rw [apply, Mutation.plan, SiteM.run_ofExcept, hplanned]
  cases planned with
  | none => exact ⟨.unchanged, rfl⟩
  | some c => exact ⟨.installed, rfl⟩

/-- **Properties can always be read**, however they come about, and a present number or flag is read
as what the check takes it for. In every world that is reached the properties have come about in
one of these ways, and a database can be added. -/
theorem always_readable :
    (∀ p : Properties, p.Obtained → p.Readable) ∧
      ∀ w : World, w.Reachable → w.proxy.snapshot.catalog.props.Obtained ∧
        ∀ name, ∃ outcome, (w.apply (.addDatabase name)).1 = .ok outcome := by
  refine ⟨fun p hp => hp.readable, fun w hw => ?_⟩
  have hobtained := Properties.obtained_iff_admitted.2 hw.props_admitted
  exact ⟨hobtained, apply_addDatabase_isOk hobtained⟩

end World

namespace Sample

/-- A number with a plus sign, a flag, and a dialect with space around its name. -/
private def configured : Properties :=
  ⟨.ofList [("kernel-executor-size", "+8"), ("sql-show", "true"),
    ("proxy-frontend-database-protocol-type", " postgresql ")]⟩

/-- **Properties put over none** are read with their values, and a database can be added to the
small world. -/
theorem configured_readable :
    ((∅ : Properties).merged configured).Obtained ∧
      ((∅ : Properties).merged configured).executorSize = .ok 8 ∧
        world.Reachable ∧ ∃ outcome, (world.apply (.addDatabase "bar_db")).1 = .ok outcome := by
  obtain ⟨hreadable, hworld⟩ := World.always_readable
  have hmade : Properties.make configured.values = .ok configured := by decide +kernel
  have hobtained : ((∅ : Properties).merged configured).Obtained := .merged .empty (.made hmade)
  obtain ⟨n, hn, hpresent⟩ := (hreadable _ hobtained).executorSize
  have hsize : PropertyFault.readSize "+8" = .ok n := hpresent "+8" (by decide +kernel)
  have height : PropertyFault.readSize "+8" = .ok 8 := by decide +kernel
  rw [Except.ok.inj (hsize.symm.trans height)] at hn
  have hreached := started_world.reachable
  exact ⟨hobtained, hn, hreached, (hworld _ hreached).2 "bar_db"⟩

end Sample

end ProxyCatalog
