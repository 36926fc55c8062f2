import ProxyCatalog.Proofs.Results
import ProxyCatalog.Row
import Mathlib.Data.List.Induction
import Mathlib.Data.Nat.Digits.Defs

/-!
# Typing the values of a row

The values of a payload meet the columns of a table by position. What a text stands for depends on
the type of its column alone (`RowValue.StandsFor`), so a payload fits a table or it does not, and
the row that it makes is determined. A payload that does not fit is refused for its width, without
a look at its values, or else for the leftmost text that stands for nothing.

* `Text.readInteger_eq_some_iff`: what is read as an integer are the numerals, an optional sign
  before decimal digits, whose numbers have at most 64 bits.
* `RowValue.read_eq_some_iff`: reading finds what a text stands for.
* `Row.convert_by_position`: the whole.
-/

namespace ProxyCatalog

/-! ### Numerals -/

namespace Text

/-- At least one decimal digit and nothing else. -/
def Digits (cs : List Char) : Prop :=
  cs ≠ [] ∧ ∀ c ∈ cs, c.isDigit

/-- The **number written** by decimal digits, the last one counting the ones. -/
def numberWritten (cs : List Char) : Nat :=
  Nat.ofDigits 10 (cs.reverse.map fun c => c.toNat - '0'.toNat)

/-- The value of digits is the number they write. -/
theorem digitsValue_eq_numberWritten (cs : List Char) : digitsValue cs = numberWritten cs := by
  induction cs using List.reverseRecOn with
  | nil => rfl
  | append_singleton cs c ih =>
    rw [numberWritten, List.reverse_concat, List.map_cons, Nat.ofDigits_cons, ← numberWritten, ← ih,
      digitsValue, List.foldl_append, ← digitsValue]
    exact Nat.add_comm _ _

/-- A **numeral**: decimal digits, perhaps after a sign, and the number that they write. -/
inductive Numeral : List Char → Int → Prop
  | unsigned {cs : List Char} : Digits cs → Numeral cs (numberWritten cs)
  | plus {cs : List Char} : Digits cs → Numeral ('+' :: cs) (numberWritten cs)
  | minus {cs : List Char} : Digits cs → Numeral ('-' :: cs) (-numberWritten cs)

theorem not_digits_cons {c : Char} {cs : List Char} (hc : c.isDigit = false) :
    ¬ Digits (c :: cs) := by
  intro h
  have hdigit := h.2 c List.mem_cons_self
  rw [hc] at hdigit
  cases hdigit

/-- A numeral with a minus writes the opposite of its digits. -/
theorem numeral_minus_iff {cs : List Char} {n : Int} :
    Numeral ('-' :: cs) n ↔ Digits cs ∧ n = -numberWritten cs := by
  constructor
  · intro h
    cases h with
    | unsigned hcs => exact absurd hcs (not_digits_cons rfl)
    | minus hcs => exact ⟨hcs, rfl⟩
  · rintro ⟨hcs, rfl⟩
    exact .minus hcs

theorem numeral_plus_iff {cs : List Char} {n : Int} :
    Numeral ('+' :: cs) n ↔ Digits cs ∧ n = numberWritten cs := by
  constructor
  · intro h
    cases h with
    | unsigned hcs => exact absurd hcs (not_digits_cons rfl)
    | plus hcs => exact ⟨hcs, rfl⟩
  · rintro ⟨hcs, rfl⟩
    exact .plus hcs

/-- Without a sign there are digits alone. -/
theorem numeral_iff_of_unsigned {cs : List Char} {n : Int} (hminus : ∀ ds, cs ≠ '-' :: ds)
    (hplus : ∀ ds, cs ≠ '+' :: ds) : Numeral cs n ↔ Digits cs ∧ n = numberWritten cs := by
  constructor
  · intro h
    cases h with
    | unsigned hcs => exact ⟨hcs, rfl⟩
    | plus => exact absurd rfl (hplus _)
    | minus => exact absurd rfl (hminus _)
  · rintro ⟨hcs, rfl⟩
    exact .unsigned hcs

/-- **A natural number is read** from digits, and from nothing else. -/
theorem natural?_eq_some_iff {cs : List Char} {n : Nat} :
    natural? cs = some n ↔ Digits cs ∧ n = numberWritten cs := by
  have hdigits : (!cs.isEmpty && cs.all Char.isDigit) = true ↔ Digits cs := by
    simp [Digits]
  rw [natural?]
  split_ifs with h
  · rw [Option.some.injEq, digitsValue_eq_numberWritten]
    exact ⟨fun hn => ⟨hdigits.1 h, hn.symm⟩, fun hn => hn.2.symm⟩
  · exact iff_of_false nofun fun hn => h (hdigits.2 hn.1)

/-- **Reading an integer** finds the number of a numeral, as far as it has 64 bits. -/
theorem readInteger_eq_some_iff {s : String} {n : Int} :
    readInteger s = some n ↔ Numeral s.toList n ∧ -2 ^ 63 ≤ n ∧ n < 2 ^ 63 := by
  have hbound : (1 <<< 63 : Nat) = 2 ^ 63 := rfl
  have hread {cs : List Char} {f : Nat → Int} {p : Nat → Prop} [DecidablePred p] :
      ((natural? cs).bind fun k => if p k then some (f k) else none) = some n ↔
        (Digits cs ∧ n = f (numberWritten cs)) ∧ p (numberWritten cs) := by
    simp only [Option.bind_eq_some_iff, natural?_eq_some_iff, Option.ite_none_right_eq_some,
      Option.some.injEq]
    constructor
    · rintro ⟨k, ⟨hcs, rfl⟩, hk, rfl⟩
      exact ⟨⟨hcs, rfl⟩, hk⟩
    · rintro ⟨⟨hcs, rfl⟩, hk⟩
      exact ⟨_, ⟨hcs, rfl⟩, hk, rfl⟩
  rw [readInteger]
  split
  next cs hs =>
    rw [hread, hs, numeral_minus_iff, hbound]
    refine and_congr_right fun ⟨_, hn⟩ => ?_
    omega
  next cs hs =>
    rw [hread, hs, numeral_plus_iff, hbound]
    refine and_congr_right fun ⟨_, hn⟩ => ?_
    omega
  next hminus hplus =>
    rw [hread, numeral_iff_of_unsigned hminus hplus, hbound]
    refine and_congr_right fun ⟨_, hn⟩ => ?_
    omega

/-- The range reaches one further down than up. -/
example : readInteger "-9223372036854775808" = some (-2 ^ 63) ∧
    readInteger "+9223372036854775808" = none := by
  decide +kernel

end Text

/-! ### What a text stands for -/

namespace RowValue

/-- The value that a text **stands for** in a column of a type. Truth values are the words and the
digits, in any case of ASCII letters; every text stands for itself where the type is neither that of
truth values nor one of numbers. -/
inductive StandsFor (type : ColumnType) (raw : String) : RowValue → Prop
  | yes : type = .boolean → Text.eqIgnoringCase raw "true" ∨ Text.eqIgnoringCase raw "1" →
      StandsFor type raw (.bool true)
  | no : type = .boolean → Text.eqIgnoringCase raw "false" ∨ Text.eqIgnoringCase raw "0" →
      StandsFor type raw (.bool false)
  | int {n : Int} : type.isIntegral → Text.Numeral raw.toList n → -2 ^ 63 ≤ n → n < 2 ^ 63 →
      StandsFor type raw (.int n)
  | float {x : Binary64} : type.isFloating → Text.readBinary64 raw = some x →
      StandsFor type raw (.float x)
  | text : type ≠ .boolean → type.isIntegral = false → type.isFloating = false →
      StandsFor type raw (.text raw)

/-- A text is **readable** if it stands for a value. -/
def Readable (type : ColumnType) (raw : String) : Prop :=
  ∃ v, StandsFor type raw v

/-- To compare in lower case is to ignore case, for a word in lower case. -/
theorem ofList_map_toLower_eq_iff {raw word : String}
    (hword : word.toList.map Char.toLower = word.toList) :
    String.ofList (raw.toList.map Char.toLower) = word ↔ Text.eqIgnoringCase raw word := by
  rw [Text.eqIgnoringCase, hword, beq_iff_eq, ← String.toList_inj, String.toList_ofList]

/-- What is read as true. -/
theorem readTruth_eq_some_true_iff {raw : String} :
    readTruth raw = some true ↔
      Text.eqIgnoringCase raw "true" ∨ Text.eqIgnoringCase raw "1" := by
  rw [← ofList_map_toLower_eq_iff rfl, ← ofList_map_toLower_eq_iff rfl, readTruth]
  split_ifs with hyes hno
  · exact iff_of_true rfl hyes
  · exact iff_of_false nofun hyes
  · exact iff_of_false nofun hyes

/-- What is read as false. -/
theorem readTruth_eq_some_false_iff {raw : String} :
    readTruth raw = some false ↔
      Text.eqIgnoringCase raw "false" ∨ Text.eqIgnoringCase raw "0" := by
  rw [← ofList_map_toLower_eq_iff rfl, ← ofList_map_toLower_eq_iff rfl, readTruth]
  split_ifs with hyes hno
  · -- What says yes is not one of the two that say no.
    refine iff_of_false nofun ?_
    rcases hyes with hyes | hyes <;> rw [hyes] <;> decide
  · exact iff_of_true rfl hno
  · exact iff_of_false nofun hno

/-- **Reading** finds the value that a text stands for. -/
theorem read_eq_some_iff {type : ColumnType} {raw : String} {v : RowValue} :
    read type raw = some v ↔ StandsFor type raw v := by
  constructor
  · intro h
    rw [read] at h
    split_ifs at h with hboolean hintegral hfloating
    · obtain ⟨b, hb, rfl⟩ := Option.map_eq_some_iff.1 h
      cases b with
      | false => exact .no hboolean (readTruth_eq_some_false_iff.1 hb)
      | true => exact .yes hboolean (readTruth_eq_some_true_iff.1 hb)
    · obtain ⟨n, hn, rfl⟩ := Option.map_eq_some_iff.1 h
      obtain ⟨hnumeral, hlow, hhigh⟩ := Text.readInteger_eq_some_iff.1 hn
      exact .int hintegral hnumeral hlow hhigh
    · obtain ⟨x, hx, rfl⟩ := Option.map_eq_some_iff.1 h
      exact .float hfloating hx
    · cases h
      exact .text hboolean (Bool.eq_false_iff.2 hintegral) (Bool.eq_false_iff.2 hfloating)
  · intro h
    cases h with
    | yes hboolean hraw =>
      rw [read, if_pos hboolean, readTruth_eq_some_true_iff.2 hraw]
      rfl
    | no hboolean hraw =>
      rw [read, if_pos hboolean, readTruth_eq_some_false_iff.2 hraw]
      rfl
    | int hintegral hnumeral hlow hhigh =>
      have hboolean : type ≠ .boolean := by
        rintro rfl
        cases hintegral
      rw [read, if_neg hboolean, if_pos hintegral,
        Text.readInteger_eq_some_iff.2 ⟨hnumeral, hlow, hhigh⟩]
      rfl
    | float hfloating hx =>
      have hboolean : type ≠ .boolean := by
        rintro rfl
        cases hfloating
      have hintegral : ¬ type.isIntegral := by
        cases type <;> first | decide | cases hfloating
      rw [read, if_neg hboolean, if_neg hintegral, if_pos hfloating, hx]
      rfl
    | text hboolean hintegral hfloating =>
      rw [read, if_neg hboolean, if_neg (Bool.eq_false_iff.1 hintegral),
        if_neg (Bool.eq_false_iff.1 hfloating)]

/-- A text is not read if it is not readable as its type. -/
theorem read_eq_none_iff {type : ColumnType} {raw : String} :
    read type raw = none ↔ ¬ Readable type raw := by
  simp only [Option.eq_none_iff_forall_ne_some, Readable, not_exists, ne_eq, read_eq_some_iff]

end RowValue

/-! ### Rows -/

namespace Row

/-- What a place of a payload **gives** a column: null without a text, else the value that the text
stands for. -/
inductive Gives (c : Column) : Option String → RowValue → Prop
  | null : Gives c none .null
  | value {raw : String} {v : RowValue} : RowValue.StandsFor c.dataType raw v →
      Gives c (some raw) v

section

variable {table : String} {c : Column} {place : Option String} {e : Fault}

/-- Only an empty place gives null. -/
theorem gives_null_iff : Gives c place .null ↔ place = none := by
  constructor
  · rintro (_ | ⟨⟨⟩⟩)
    rfl
  · rintro rfl
    exact .null

/-- A place gives something if it is empty or readable. -/
theorem exists_gives_iff :
    (∃ v, Gives c place v) ↔ ∀ raw, place = some raw → RowValue.Readable c.dataType raw := by
  constructor
  · rintro ⟨v, hv⟩ raw rfl
    cases hv with
    | value hstands => exact ⟨v, hstands⟩
  · intro h
    cases place with
    | none => exact ⟨.null, .null⟩
    | some raw =>
      obtain ⟨v, hv⟩ := h raw rfl
      exact ⟨v, .value hv⟩

/-- **A value is converted** to what its place gives. -/
theorem convertValue_eq_ok {v : RowValue} :
    convertValue table c place = .ok v ↔ Gives c place v := by
  cases place with
  | none =>
    constructor
    · rintro ⟨⟩
      exact .null
    · rintro ⟨⟩
      rfl
  | some raw =>
    rw [convertValue]
    constructor
    · intro h
      split at h
      next v' hread =>
        cases h
        exact .value (RowValue.read_eq_some_iff.1 hread)
      next => cases h
    · rintro ⟨⟩
      next hstands => rw [RowValue.read_eq_some_iff.2 hstands]

/-- A value that is not readable is reported with its column. -/
theorem convertValue_eq_error :
    convertValue table c place = .error e ↔
      ∃ raw, place = some raw ∧ ¬ RowValue.Readable c.dataType raw ∧
        e = .unreadableValue table c.name raw := by
  cases place with
  | none => exact iff_of_false nofun nofun
  | some raw =>
    simp only [convertValue, Option.some.injEq, exists_eq_left', ← RowValue.read_eq_none_iff]
    cases RowValue.read c.dataType raw with
    | none => exact ⟨fun h => ⟨rfl, (Except.error.inj h).symm⟩, fun h => congrArg _ h.2.symm⟩
    | some v => exact iff_of_false nofun nofun

end

/-- Values are converted in the order of the columns, as far as there are both. -/
theorem convertValues_eq_mapM (table : String) (cs : List Column) (places : List (Option String)) :
    convertValues table cs places =
      (cs.zip places).mapM fun x => convertValue table x.1 x.2 := by
  fun_induction convertValues table cs places with
  | case1 c cs place places ih =>
    rw [List.zip_cons_cons, List.mapM_cons, ih]
  | case2 cs places h =>
    have hzip : cs.zip places = [] := by
      cases cs with
      | nil => rfl
      | cons c cs =>
        cases places with
        | nil => rfl
        | cons place places => exact (h c cs place places rfl rfl).elim
    rw [hzip]
    rfl

/-- A payload **fits** a table: it is not wider, and its texts are readable for the columns at their
positions. -/
structure Fits (t : Table) (p : RowPayload) : Prop where
  width : p.values.length ≤ t.columns.length
  readable : ∀ (i : Nat) (c : Column) (raw : String), t.columns[i]? = some c →
    p.values[i]? = some (some raw) → RowValue.Readable c.dataType raw

/-- A row is **made of** a payload for a table: it has the key and as many values, null where there
is no text and else what the text stands for in the column at its position. -/
structure MadeOf (t : Table) (p : RowPayload) (row : Row) : Prop where
  width : p.values.length ≤ t.columns.length
  key : row.key = p.key
  length : row.values.length = p.values.length
  null : ∀ i : Nat, row.values[i]? = some .null ↔ p.values[i]? = some none
  value : ∀ (i : Nat) (c : Column) (raw : String), t.columns[i]? = some c →
    p.values[i]? = some (some raw) →
      ∃ v, row.values[i]? = some v ∧ RowValue.StandsFor c.dataType raw v

/-- The **first offence** of a payload: a text that is not readable for the column at its position,
where every text before it is. -/
def FirstOffence (t : Table) (p : RowPayload) (c : Column) (raw : String) : Prop :=
  ∃ i : Nat, t.columns[i]? = some c ∧ p.values[i]? = some (some raw) ∧
    ¬ RowValue.Readable c.dataType raw ∧
      ∀ (j : Nat) (c' : Column) (raw' : String), j < i → t.columns[j]? = some c' →
        p.values[j]? = some (some raw') → RowValue.Readable c'.dataType raw'

section

variable {t : Table} {p : RowPayload}

theorem madeOf_iff {vs : List RowValue} (hwidth : p.values.length ≤ t.columns.length) :
    MadeOf t p ⟨p.key, vs⟩ ↔ vs.length = p.values.length ∧
      ∀ (i : Nat) (c : Column) (place : Option String), t.columns[i]? = some c →
        p.values[i]? = some place → ∃ v, vs[i]? = some v ∧ Gives c place v := by
  constructor
  · intro h
    refine ⟨h.length, fun i c place hc hplace => ?_⟩
    cases place with
    | none => exact ⟨.null, (h.null i).2 hplace, .null⟩
    | some raw =>
      obtain ⟨v, hv, hstands⟩ := h.value i c raw hc hplace
      exact ⟨v, hv, .value hstands⟩
  · rintro ⟨hlength, hgives⟩
    refine ⟨hwidth, rfl, hlength, fun i => ⟨fun hnull => ?_, fun hnone => ?_⟩,
      fun i c raw hc hraw => ?_⟩
    · have hi : i < p.values.length := hlength ▸ (List.getElem?_eq_some_iff.1 hnull).1
      have hplace := List.getElem?_eq_getElem hi
      obtain ⟨v, hv, hgive⟩ :=
        hgives i _ _ (List.getElem?_eq_getElem (hi.trans_le hwidth)) hplace
      cases Option.some.inj (hnull.symm.trans hv)
      exact hplace.trans (congrArg some (gives_null_iff.1 hgive))
    · have hi := (List.getElem?_eq_some_iff.1 hnone).1
      obtain ⟨v, hv, ⟨⟩⟩ :=
        hgives i _ none (List.getElem?_eq_getElem (hi.trans_le hwidth)) hnone
      exact hv
    · obtain ⟨v, hv, ⟨⟩⟩ := hgives i c (some raw) hc hraw
      next hstands => exact ⟨v, hv, hstands⟩

/-- What values are converted to is what a row is made of. -/
theorem convertValues_eq_ok {vs : List RowValue} (hwidth : p.values.length ≤ t.columns.length) :
    convertValues t.name t.columns p.values = .ok vs ↔ MadeOf t p ⟨p.key, vs⟩ := by
  have hlength : (t.columns.zip p.values).length = p.values.length := by
    rw [List.length_zip, Nat.min_eq_right hwidth]
  rw [convertValues_eq_mapM, Except.mapM_eq_ok, hlength, madeOf_iff hwidth]
  simp only [Prod.forall, List.getElem?_zip_eq_some, and_imp, convertValue_eq_ok]

/-- **The first offence is reported**, in the order of the columns. -/
theorem convertValues_eq_error {e : Fault} :
    convertValues t.name t.columns p.values = .error e ↔
      ∃ c raw, FirstOffence t p c raw ∧ e = .unreadableValue t.name c.name raw := by
  rw [convertValues_eq_mapM, Except.mapM_eq_error]
  simp only [Prod.exists, Prod.forall, List.getElem?_zip_eq_some, convertValue_eq_error,
    convertValue_eq_ok, exists_gives_iff]
  constructor
  · rintro ⟨i, c, _, ⟨hc, hplace⟩, ⟨raw, rfl, hraw, rfl⟩, hbefore⟩
    exact ⟨c, raw, ⟨i, hc, hplace, hraw, fun j c' raw' hj hc' hraw' =>
      hbefore j c' _ hj ⟨hc', hraw'⟩ raw' rfl⟩, rfl⟩
  · rintro ⟨c, raw, ⟨i, hc, hplace, hraw, hbefore⟩, rfl⟩
    refine ⟨i, c, _, ⟨hc, hplace⟩, ⟨raw, rfl, hraw, rfl⟩, ?_⟩
    rintro j c' _ hj ⟨hc', hplace'⟩ raw' rfl
    exact hbefore j c' raw' hj hc' hplace'

theorem convert_eq_ok {row : Row} : convert t p = .ok row ↔ MadeOf t p row := by
  rw [convert]
  split_ifs with hwide
  · constructor
    · intro h
      cases h
    · intro h
      exact absurd h.width (Nat.not_le_of_lt hwide)
  · have hwidth : p.values.length ≤ t.columns.length := Nat.le_of_not_lt hwide
    constructor
    · intro h
      obtain ⟨vs, hvs, h⟩ := Except.bind_eq_ok h
      cases Except.ok.inj h
      exact (convertValues_eq_ok hwidth).1 hvs
    · intro h
      obtain ⟨key, vs⟩ := row
      obtain rfl : key = p.key := h.key
      change (convertValues t.name t.columns p.values >>= _) = _
      rw [(convertValues_eq_ok hwidth).2 h]
      rfl

theorem convert_eq_error {e : Fault} :
    convert t p = .error e ↔
      (t.columns.length < p.values.length ∧
        e = .rowTooWide p.key t.name p.values.length t.columns.length) ∨
      (p.values.length ≤ t.columns.length ∧
        ∃ c raw, FirstOffence t p c raw ∧ e = .unreadableValue t.name c.name raw) := by
  rw [convert]
  split_ifs with hwide
  · simp only [hwide, Nat.not_le_of_lt hwide, true_and, false_and, or_false]
    exact ⟨fun h => (Except.error.inj h).symm, fun h => congrArg Except.error h.symm⟩
  · simp only [hwide, Nat.le_of_not_lt hwide, true_and, false_and, false_or]
    rw [← convertValues_eq_error]
    cases convertValues t.name t.columns p.values with
    | ok vs =>
      constructor
      · intro h
        cases h
      · intro h
        cases h
    | error e' =>
      exact ⟨fun h => congrArg _ (Except.error.inj h), fun h => congrArg _ (Except.error.inj h)⟩

/-- A payload that fits makes a row, and no other one does. -/
theorem exists_convert_iff : (∃ row, convert t p = .ok row) ↔ Fits t p := by
  constructor
  · rintro ⟨row, h⟩
    have hrow := convert_eq_ok.1 h
    refine ⟨hrow.width, fun i c raw hc hraw => ?_⟩
    obtain ⟨v, -, hstands⟩ := hrow.value i c raw hc hraw
    exact ⟨v, hstands⟩
  · intro hfits
    cases h : convert t p with
    | ok row => exact ⟨row, rfl⟩
    | error e =>
      obtain ⟨hwide, -⟩ | ⟨-, c, raw, ⟨i, hc, hraw, hunreadable, -⟩, -⟩ := convert_eq_error.1 h
      · exact absurd hfits.width (Nat.not_le_of_lt hwide)
      · exact absurd (hfits.readable i c raw hc hraw) hunreadable

/-- **Conversion by position.** A payload makes a row of a table if and only if it fits, and the
row is what it is made of. A payload that is too wide is refused as such, whatever its values, and
one that is not is refused for its first offence. -/
theorem convert_by_position (t : Table) (p : RowPayload) :
    ((∃ row, convert t p = .ok row) ↔ Fits t p) ∧
      (∀ row, convert t p = .ok row ↔ MadeOf t p row) ∧
        ∀ e, convert t p = .error e ↔
          (t.columns.length < p.values.length ∧
            e = .rowTooWide p.key t.name p.values.length t.columns.length) ∨
          (p.values.length ≤ t.columns.length ∧
            ∃ c raw, FirstOffence t p c raw ∧ e = .unreadableValue t.name c.name raw) :=
  ⟨exists_convert_iff, fun _ => convert_eq_ok, fun _ => convert_eq_error⟩

end

/-- A table of orders, with the columns for the number, for whether it is paid and for a note. -/
private def orders : Table :=
  ⟨"t_order", [⟨"id", .bigInt, true, false, false, true, false⟩,
    ⟨"paid", .boolean, false, false, false, true, false⟩,
    ⟨"note", .varchar, false, false, false, true, false⟩], [], []⟩

/-- **A number with a sign and zeros in front, a word in capitals and no note** make a row, and a
number of more than 64 bits is reported, not the word that is no truth value after it. -/
theorem orders_by_position :
    MadeOf orders ⟨"7", [some "-007", some "TRUE", none]⟩ ⟨"7", [.int (-7), .bool true, .null]⟩ ∧
      convert orders ⟨"8", [some "9223372036854775808", some "perhaps"]⟩ =
        .error (.unreadableValue "t_order" "id" "9223372036854775808") := by
  obtain ⟨-, hok, -⟩ := convert_by_position orders ⟨"7", [some "-007", some "TRUE", none]⟩
  obtain ⟨-, -, herror⟩ :=
    convert_by_position orders ⟨"8", [some "9223372036854775808", some "perhaps"]⟩
  have hunreadable : ¬ RowValue.Readable .bigInt "9223372036854775808" :=
    RowValue.read_eq_none_iff.1 (by decide +kernel)
  exact ⟨(hok _).1 (by decide +kernel), (herror _).2 (.inr ⟨by decide, _, _,
    ⟨0, rfl, rfl, hunreadable, fun j _ _ hj => absurd hj (Nat.not_lt_zero j)⟩, rfl⟩)⟩

end Row

end ProxyCatalog
