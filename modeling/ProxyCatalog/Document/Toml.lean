import ProxyCatalog.Document

/-!
# Settings files

Reads the line-oriented part of TOML that settings are written in: comments, table headers, bare,
quoted and dotted keys, single-line strings, integers and flags. Values of other kinds (fractions,
dates, arrays, inline tables) are refused, since no setting has one.

A file is read line by line into `Definition`s of key paths. A header defines a table once; a key
may extend a table that only came into being as part of a longer path, never one that a header
defined; no path has two values. `Toml.read?` then builds the document of all values.
-/

namespace ProxyCatalog

namespace Toml

/-! ### Characters -/

/-- A character that may stand in a bare key. -/
def isBareKey (c : Char) : Bool :=
  c.isAlphanum || c == '_' || c == '-'

/-- A character that may stand in a comment or, unless it delimits, in a string. -/
def isPrintable (c : Char) : Bool :=
  c == '\t' || (0x20 ≤ c.toNat && c.toNat != 0x7F)

/-- Skips spaces and tabs. -/
def skipSpace (cs : List Char) : List Char :=
  cs.dropWhile fun c => c == ' ' || c == '\t'

/-- Only a comment, if anything, is left of the line. -/
def atLineEnd (cs : List Char) : Bool :=
  match skipSpace cs with
  | [] => true
  | '#' :: comment => comment.all isPrintable
  | _ => false

/-! ### Numerals -/

/-- The value of a digit in bases up to sixteen. -/
def digitValue? (c : Char) : Option Nat :=
  if c.isDigit then some (c.toNat - '0'.toNat)
  else if 'a' ≤ c ∧ c ≤ 'f' then some (c.toNat - 'a'.toNat + 10)
  else if 'A' ≤ c ∧ c ≤ 'F' then some (c.toNat - 'A'.toNat + 10)
  else none

/-- The number written in a base by digits alone. -/
def plainDigits? (base : Nat) (cs : List Char) : Option Nat :=
  cs.foldlM (fun n c => (digitValue? c).bind fun d =>
    if d < base then some (base * n + d) else none) 0

/-- The number written in a base, where single underscores may separate digits. -/
def digits? (base : Nat) (cs : List Char) : Option Nat :=
  if cs.isEmpty || cs.head? == some '_' || cs.getLast? == some '_' then none
  else if (cs.zip cs.tail).any fun p => p.1 == '_' && p.2 == '_' then none
  else plainDigits? base (cs.filter (· != '_'))

/-- A decimal numeral, which has no superfluous leading zero. -/
def decimal? (cs : List Char) : Option Nat :=
  if cs.head? == some '0' && cs.length != 1 then none else digits? 10 cs

/-- An integer between `-2 ^ 63` and `2 ^ 63 - 1`. -/
def integer? (cs : List Char) : Option Int :=
  let value : Option Int := match cs with
    | '0' :: 'x' :: ds => (digits? 16 ds).map Int.ofNat
    | '0' :: 'o' :: ds => (digits? 8 ds).map Int.ofNat
    | '0' :: 'b' :: ds => (digits? 2 ds).map Int.ofNat
    | '+' :: ds => (decimal? ds).map Int.ofNat
    | '-' :: ds => (decimal? ds).map fun n => -(n : Int)
    | ds => (decimal? ds).map Int.ofNat
  value.filter fun n => Int64.minValue.toInt ≤ n && n ≤ Int64.maxValue.toInt

/-! ### Strings -/

/-- The character with a code point given by hexadecimal digits. -/
def codePoint? (cs : List Char) : Option Char :=
  (plainDigits? 16 cs).bind fun n => if n.isValidChar then some (Char.ofNat n) else none

/-- Reads a string up to its closing quotation mark, escapes being replaced. Gives the characters
and what follows the mark. -/
def basicString? : List Char → Option (List Char × List Char)
  | [] => none
  | '"' :: rest => some ([], rest)
  | '\\' :: 'u' :: a :: b :: c :: d :: rest => do
    let ch ← codePoint? [a, b, c, d]
    let (cs, tail) ← basicString? rest
    return (ch :: cs, tail)
  | '\\' :: 'U' :: a :: b :: c :: d :: e :: f :: g :: h :: rest => do
    let ch ← codePoint? [a, b, c, d, e, f, g, h]
    let (cs, tail) ← basicString? rest
    return (ch :: cs, tail)
  | '\\' :: c :: rest => do
    let ch ← [('b', Char.ofNat 0x8), ('t', '\t'), ('n', '\n'), ('f', Char.ofNat 0xC), ('r', '\r'),
      ('"', '"'), ('\\', '\\')].lookup c
    let (cs, tail) ← basicString? rest
    return (ch :: cs, tail)
  | c :: rest =>
    if isPrintable c && c != '\\' then do
      let (cs, tail) ← basicString? rest
      return (c :: cs, tail)
    else none

/-- The single quotation mark. -/
def singleQuote : Char := Char.ofNat 0x27

/-- Reads a string up to its closing single quotation mark, character by character. -/
def literalString? (cs : List Char) : Option (List Char × List Char) :=
  let body := cs.takeWhile (· != singleQuote)
  match cs.dropWhile (· != singleQuote) with
  | [] => none
  | _ :: rest => if body.all isPrintable then some (body, rest) else none

/-! ### Keys and values -/

/-- Reads one bare or quoted key. -/
def key? (cs : List Char) : Option (String × List Char) :=
  match cs with
  | '"' :: rest => (basicString? rest).map fun r => (String.ofList r.1, r.2)
  | _ =>
    if cs.head? == some singleQuote then
      (literalString? cs.tail).map fun r => (String.ofList r.1, r.2)
    else
      let name := cs.takeWhile isBareKey
      if name.isEmpty then none else some (String.ofList name, cs.dropWhile isBareKey)

/-- Reads keys separated by points, at most `fuel` of them, and skips the space after them. -/
def path? : (fuel : Nat) → List Char → Option (List String × List Char)
  | 0, _ => none
  | fuel + 1, cs => do
    let (k, rest) ← key? (skipSpace cs)
    match skipSpace rest with
    | '.' :: more =>
      let (ks, tail) ← path? fuel more
      return (k :: ks, tail)
    | tail => return ([k], tail)

/-- Reads the value of a key, which the rest of the line has to end. -/
def value? (cs : List Char) : Option Document :=
  match skipSpace cs with
  | '"' :: rest => do
    let (s, tail) ← basicString? rest
    if atLineEnd tail then some (.text (String.ofList s)) else none
  | cs =>
    if cs.head? == some singleQuote then do
      let (s, tail) ← literalString? cs.tail
      if atLineEnd tail then some (.text (String.ofList s)) else none
    else
      let isWord := fun c => isBareKey c || c == '+'
      let word := cs.takeWhile isWord
      if !atLineEnd (cs.dropWhile isWord) then none
      else if word = ['t', 'r', 'u', 'e'] then some (.bool true)
      else if word = ['f', 'a', 'l', 's', 'e'] then some (.bool false)
      else (integer? word).map .int

/-! ### Definitions -/

/-- How a key path came to stand for something. -/
inductive Definition where
  /-- A table that is only part of a longer header. -/
  | implied
  /-- A table that is only part of a dotted key. -/
  | dotted
  /-- A table with a header of its own. -/
  | headed
  /-- A value. -/
  | value (document : Document)

/-- The definitions made so far, in order. -/
abbrev Definitions : Type := List (List String × Definition)

/-- The tables on the way to a path, outermost first. -/
def parents (path : List String) : List (List String) :=
  (List.range path.length).tail.map path.take

/-- Opens the table of a header. -/
def openTable (defs : Definitions) (path : List String) : Option Definitions := do
  let defs ← (parents path).foldlM (fun defs p =>
    match defs.lookup p with
    | none => some (defs ++ [(p, .implied)])
    | some (.value _) => none
    | some _ => some defs) defs
  match defs.lookup path with
  | none => some (defs ++ [(path, .headed)])
  | some .implied => some ((defs.filter fun d => d.1 != path) ++ [(path, .headed)])
  | some _ => none

/-- Gives a value to a key of the table `header`. -/
def assign (defs : Definitions) (header key : List String) (document : Document) :
    Option Definitions := do
  let defs ← ((parents key).map (header ++ ·)).foldlM (fun defs p =>
    match defs.lookup p with
    | none => some (defs ++ [(p, .dotted)])
    | some .implied => some defs
    | some .dotted => some defs
    | some _ => none) defs
  match defs.lookup (header ++ key) with
  | none => some (defs ++ [(header ++ key, .value document)])
  | some _ => none

/-- Reads one line on top of the current header and the definitions before it. -/
def line? (state : List String × Definitions) (cs : List Char) :
    Option (List String × Definitions) :=
  if atLineEnd cs then some state
  else match skipSpace cs with
    | '[' :: rest => do
      let (path, tail) ← path? rest.length rest
      match tail with
      | ']' :: tail =>
        if atLineEnd tail then (openTable state.2 path).map (Prod.mk path) else none
      | _ => none
    | cs => do
      let (path, tail) ← path? cs.length cs
      match tail with
      | '=' :: tail =>
        let document ← value? tail
        (assign state.2 state.1 path document).map (Prod.mk state.1)
      | _ => none

/-! ### The document -/

/-- Sets the value at a path, opening tables on the way. -/
def place : List String → Document → List (String × Document) → List (String × Document)
  | [], _, fs => fs
  | [k], d, fs =>
    if (fs.lookup k).isSome then fs else fs ++ [(k, d)]
  | k :: ks, d, fs =>
    match fs.lookup k with
    | some (.object inner) =>
      fs.map fun f => if f.1 = k then (k, .object (place ks d inner)) else f
    | _ => fs ++ [(k, .object (place ks d []))]

/-- The document that the definitions describe. -/
def assemble (defs : Definitions) : Document :=
  .object (defs.foldl (fun fs d => match d.2 with
    | .value v => place d.1 v fs
    | _ => place d.1 (.object []) fs) [])

/-- The document is a table without keys. A file has no null, so this is what stands for the
contents of an alternative that has none. -/
def isEmptyTable : Document → Bool
  | .object [] => true
  | _ => false

/-- A line without the carriage return of its line break. -/
def withoutReturn (line : List Char) : List Char :=
  if line.getLast? == some '\r' then line.dropLast else line

/-- Reads a whole file; `none` where it is not well-formed. -/
def read? (file : String) : Option Document := do
  -- A byte order mark in front is not part of the text.
  let cs := match file.toList with
    | c :: rest => if c.toNat = 0xFEFF then rest else c :: rest
    | [] => []
  -- The last line has no line break, so a carriage return at its end is its own.
  let lines := cs.splitOn '\n'
  let (_, defs) ← (lines.dropLast.map withoutReturn ++ lines.getLast?.toList).foldlM line? ([], [])
  return assemble defs

end Toml

end ProxyCatalog
