import ProxyCatalog.Proofs.Readability

/-!
# What is written is read back

Configurations, tables, views, pools, rows and properties have written forms. A reader takes more
documents than its writer gives: fields may be missing, others may be there that nobody declared, a
record may be a list. What is written has all declared fields and no others, so reading a document
and writing what was read brings it into a normal form.

* `Document.Undoes`: a reader gives back every value that was written. The readers of lists, of
  maps and of values that may be missing undo their writers if the readers of the parts do.
* `RuleConfig.undone`, `Table.undone` and their like: the readers of records undo their writers,
  the parts before the whole. A rule configuration is read by its kind, so the kind that was written
  has to lead to the reader of the same kind.
* `Properties.Obtained.undone`: properties are checked when they are read. Those that were obtained
  before pass the check again, merged ones as well.
* `Document.Format`: values are read back, be they given or read from a document, and normal forms
  are kept. `Document.formats_settled` is this for every format.
-/

namespace ProxyCatalog

/-! ### Readers that undo writers -/

namespace Document

section Undoes

variable {α : Type} {read : Document → Option α} {write : α → Document}

/-- A reader **undoes** a writer if it gives back every value that was written. -/
def Undoes (read : Document → Option α) (write : α → Document) : Prop :=
  ∀ a, read (write a) = some a

@[simp] theorem text?_text (s : String) : text? (text s) = some s := rfl

@[simp] theorem bool?_bool (b : Bool) : bool? (bool b) = some b := rfl

theorem undoes_text : Undoes text? text :=
  text?_text

/-- Parts that are read back one by one are read back together. -/
private theorem mapM_map_of_undone {β γ : Type} {f : β → γ} {g : γ → Option β}
    (h : ∀ b, g (f b) = some b) (bs : List β) : (bs.map f).mapM g = some bs := by
  have hgf : g ∘ f = fun b => pure (id b) := funext h
  rw [List.mapM_map, hgf, List.mapM_pure, List.map_id]
  rfl

/-- Lists are read as they were written, member by member. -/
theorem Undoes.list (h : Undoes read write) : Undoes (list? read) (ofList write) :=
  mapM_map_of_undone h

/-- A map is written in the order of its names, which is how it is put together again. -/
theorem Undoes.map (h : Undoes read write) : Undoes (map? read) (ofMap write) := by
  intro m
  have hentry (e : String × α) : (read (write e.2)).map (Prod.mk e.1) = some e := by
    rw [h]
    rfl
  have hentries : (m.entries.map fun e => (e.1, write e.2)).mapM
      (fun f => (read f.2).map (Prod.mk f.1)) = some m.entries :=
    mapM_map_of_undone hentry m.entries
  rw [ofMap, map?, hentries, Option.map_some, NameMap.ofList_entries]

/-- A missing value is written as null, so no other value may be. -/
theorem Undoes.nullable (h : Undoes read write) (hnull : ∀ a, write a ≠ null) :
    Undoes (nullable? read) (ofOption write) := by
  intro o
  cases o with
  | none => rfl
  | some a =>
    have hread : nullable? read (write a) = (read (write a)).map some := by
      cases hd : write a with
      | null => exact absurd hd (hnull a)
      | _ => rfl
    rw [ofOption, hread, h]
    rfl

/-- A text that is missing is written as null. -/
theorem undoes_nullable_text : Undoes (nullable? text?) (ofOption text) :=
  undoes_text.nullable nofun

end Undoes

/-! ### Fields -/

section Fields

variable {α : Type} {read : Document → Option α} {fs : List (String × Document)}
  {name other : String} {d : Document} {default : α}

@[simp] theorem fields?_object (names : List String) : fields? names (object fs) = some fs := rfl

/-- A field is found where it was written. -/
@[simp] theorem required_cons_self : required ((name, d) :: fs) name read = read d := by
  rw [required, List.lookup_cons_self]
  rfl

@[simp] theorem required_cons_of_ne (h : name ≠ other) :
    required ((other, d) :: fs) name read = required fs name read := by
  rw [required, List.lookup_cons, beq_false_of_ne h]
  rfl

/-- A field that was written is read, and its default is of no account. -/
@[simp] theorem withDefault_cons_self :
    withDefault ((name, d) :: fs) name read default = read d := by
  rw [withDefault, List.lookup_cons_self]

@[simp] theorem withDefault_cons_of_ne (h : name ≠ other) :
    withDefault ((other, d) :: fs) name read default = withDefault fs name read default := by
  rw [withDefault, List.lookup_cons, beq_false_of_ne h]
  rfl

end Fields

end Document

open Document

/-! ### Tables and views -/

theorem ColumnType.undone : Undoes ofDocument? toDocument :=
  ofName?_name

/-- **A column is read as it was written.** -/
theorem Column.undone : Undoes ofDocument? toDocument := by
  intro c
  simp [ofDocument?, toDocument, ColumnType.undone c.dataType]

theorem Index.undone : Undoes ofDocument? toDocument := by
  intro i
  simp [ofDocument?, toDocument, undoes_text.list i.columns]

theorem Constraint.undone : Undoes ofDocument? toDocument := by
  intro c
  simp [ofDocument?, toDocument]

/-- **A table is read as it was written**, with its columns, indexes and constraints. -/
theorem Table.undone : Undoes ofDocument? toDocument := by
  intro t
  simp [ofDocument?, toDocument, Column.undone.list t.columns, Index.undone.list t.indexes,
    Constraint.undone.list t.constraints]

theorem View.undone : Undoes ofDocument? toDocument := by
  intro v
  simp [ofDocument?, toDocument]

/-! ### Pools and rows -/

/-- **Properties of a pool are read as they were written.** -/
theorem PoolSpec.undone : Undoes ofDocument? toDocument := by
  intro p
  simp [ofDocument?, toDocument, undoes_text.map p.props]

/-- **A row is read as it was written.** -/
theorem RowPayload.undone : Undoes ofDocument? toDocument := by
  intro p
  simp [ofDocument?, toDocument, undoes_nullable_text.list p.values]

/-! ### Rule configurations -/

theorem AlgorithmConfig.undone : Undoes ofDocument? toDocument := by
  intro a
  simp [ofDocument?, toDocument, undoes_text.map a.props]

theorem ShardingTable.undone : Undoes ofDocument? toDocument := by
  intro t
  simp [ofDocument?, toDocument]

/-- **Sharding rules are read as they were written**, and so are the other kinds below. -/
theorem ShardingConfig.undone : Undoes ofDocument? fun c => .object (toFields c) := by
  intro c
  simp [ofDocument?, toFields, ShardingTable.undone.list c.tables,
    undoes_text.list c.broadcastTables, undoes_nullable_text c.defaultColumn,
    AlgorithmConfig.undone.map c.algorithms]

theorem EncryptColumn.undone : Undoes ofDocument? toDocument := by
  intro c
  simp [ofDocument?, toDocument]

theorem EncryptTable.undone : Undoes ofDocument? toDocument := by
  intro t
  simp [ofDocument?, toDocument, EncryptColumn.undone.list t.columns]

theorem EncryptConfig.undone : Undoes ofDocument? fun c => .object (toFields c) := by
  intro c
  simp [ofDocument?, toFields, EncryptTable.undone.list c.tables,
    AlgorithmConfig.undone.map c.encryptors]

theorem ReadwriteGroup.undone : Undoes ofDocument? toDocument := by
  intro g
  simp [ofDocument?, toDocument, undoes_text.list g.readPools, undoes_nullable_text g.balancer]

theorem ReadwriteConfig.undone : Undoes ofDocument? fun c => .object (toFields c) := by
  intro c
  simp [ofDocument?, toFields, ReadwriteGroup.undone.list c.groups,
    AlgorithmConfig.undone.map c.balancers]

theorem SingleConfig.undone : Undoes ofDocument? fun c => .object (toFields c) := by
  intro c
  simp [ofDocument?, toFields, undoes_text.list c.entries, undoes_nullable_text c.defaultPool]

theorem TransactionConfig.undone : Undoes ofDocument? fun c => .object (toFields c) := by
  intro c
  simp [ofDocument?, toFields, undoes_nullable_text c.provider, undoes_text.map c.props]

theorem FederationConfig.undone : Undoes ofDocument? fun c => .object (toFields c) := by
  intro c
  simp [ofDocument?, toFields]

theorem TranslatorConfig.undone : Undoes ofDocument? fun c => .object (toFields c) := by
  intro c
  simp [ofDocument?, toFields]

namespace RuleConfig

/-- The fields of a configuration are read back by the reader of its kind. -/
theorem ofFields?_toFields (c : RuleConfig) : ofFields? c.kind (.object c.toFields) = some c := by
  cases c with
  | sharding c => exact congrArg (Option.map sharding) (ShardingConfig.undone c)
  | encrypt c => exact congrArg (Option.map encrypt) (EncryptConfig.undone c)
  | readwriteSplitting c =>
    exact congrArg (Option.map readwriteSplitting) (ReadwriteConfig.undone c)
  | single c => exact congrArg (Option.map single) (SingleConfig.undone c)
  | transaction c => exact congrArg (Option.map transaction) (TransactionConfig.undone c)
  | sqlFederation c => exact congrArg (Option.map sqlFederation) (FederationConfig.undone c)
  | sqlTranslator c => exact congrArg (Option.map sqlTranslator) (TranslatorConfig.undone c)

/-- No kind has a field of the name under which the kind itself is written. -/
theorem filter_toFields (c : RuleConfig) :
    (c.toFields.filter fun f => f.1 != "type") = c.toFields := by
  cases c <;> rfl

/-- The name of the kind leads back to the kind, and what is left are the fields of the kind. -/
theorem undone : Undoes ofDocument? toDocument := by
  intro c
  have hfields : ((("type", Document.text c.kind.key) :: c.toFields).filter
      fun f => f.1 != "type") = c.toFields :=
    (List.filter_cons_of_neg (by simp)).trans c.filter_toFields
  rw [toDocument, ofDocument?, List.lookup_cons_self, hfields, Option.bind_some, text?_text,
    Option.bind_eq_bind, Option.bind_some, RuleKind.ofKey?_key, Option.bind_eq_bind,
    Option.bind_some]
  exact c.ofFields?_toFields

end RuleConfig

/-! ### Properties -/

/-- Properties pass the check again when they are read back. -/
theorem Properties.Obtained.undone {p : Properties} (h : p.Obtained) :
    Properties.ofDocument? p.toDocument = some p := by
  have hvalues : map? text? p.toDocument = some p.values := undoes_text.map p.values
  rw [Properties.ofDocument?, hvalues, Option.bind_some, Except.toOption_eq_some]
  exact make_eq_ok.2 ⟨rfl, h.admitted⟩

/-! ### Formats -/

namespace Document

variable {α : Type} {read : Document → Option α} {write : α → Document} {sound : α → Prop}

/-- The **normal form** of a document: what was read of it, written again. -/
def normalForm? (read : Document → Option α) (write : α → Document) (d : Document) :
    Option Document :=
  (read d).map write

/-- A reader and a writer are a **format** for the sound values. -/
structure Format (read : Document → Option α) (write : α → Document) (sound : α → Prop) :
    Prop where
  /-- A sound value is read back from its written form. -/
  undone : ∀ a, sound a → read (write a) = some a
  /-- What is read of any document is sound, and is read back from its written form. -/
  settled : ∀ d a, read d = some a → sound a ∧ read (write a) = some a
  /-- A normal form is its own normal form. -/
  idempotent : ∀ d e, normalForm? read write d = some e → normalForm? read write e = some e

/-- It is enough that sound values are read back, and that nothing else is read. -/
theorem Format.of_undone (hundone : ∀ a, sound a → read (write a) = some a)
    (hsound : ∀ d a, read d = some a → sound a) : Format read write sound where
  undone := hundone
  settled d a h := ⟨hsound d a h, hundone a (hsound d a h)⟩
  idempotent d e h := by
    obtain ⟨a, ha, rfl⟩ := Option.map_eq_some_iff.1 h
    rw [normalForm?, hundone a (hsound d a ha)]
    rfl

/-- A reader that undoes its writer makes a format for all values. -/
theorem Undoes.format (h : Undoes read write) : Format read write fun _ => True :=
  .of_undone (fun a _ => h a) fun _ _ _ => trivial

/-- **What is written is read back** in every format: rule configurations of all kinds, tables,
views, the properties of pools, rows and the properties of the proxy, however these came about.
Whatever document is read, what was read of it is read back when it is written, so a document is
normal after it was read and written once. -/
theorem formats_settled :
    Format RuleConfig.ofDocument? RuleConfig.toDocument (fun _ => True) ∧
      Format Table.ofDocument? Table.toDocument (fun _ => True) ∧
        Format View.ofDocument? View.toDocument (fun _ => True) ∧
          Format PoolSpec.ofDocument? PoolSpec.toDocument (fun _ => True) ∧
            Format RowPayload.ofDocument? RowPayload.toDocument (fun _ => True) ∧
              Format Properties.ofDocument? Properties.toDocument Properties.Obtained :=
  ⟨RuleConfig.undone.format, Table.undone.format, View.undone.format, PoolSpec.undone.format,
    RowPayload.undone.format, .of_undone (fun _ h => h.undone) fun _ _ h => .read h⟩

/-- A column that has only its name and its type, and a field that is not declared. -/
example : normalForm? Column.ofDocument? Column.toDocument
    (.object [("comment", .text "key"), ("data_type", .text "BIG_INT"), ("name", .text "id")]) =
    some (.object [("name", .text "id"), ("data_type", .text "BIG_INT"),
      ("primary_key", .bool false), ("generated", .bool false), ("case_sensitive", .bool false),
      ("visible", .bool true), ("unsigned", .bool false)]) := by
  rfl

end Document

end ProxyCatalog
