import ProxyCatalog.Text.LetterCase

/-!
# Folding names

Databases, schemas, tables and views are found by any spelling of their names. Two spellings name
the same thing when `lower` takes them to the same text, so every map of the catalog is keyed by
folded names.

* `lower`, `upper`: the full case mappings of Unicode. A capital sigma becomes the final form at
  the end of a word and the medial form elsewhere; this is the one letter that looks at its
  neighbours.
* `eqIgnoringCase`: the weaker comparison that only identifies the ASCII letters. Column names and
  dialect names are compared this way.
* `trim`, `isBlank`: Unicode white space at both ends of a text.
-/

namespace ProxyCatalog

namespace Text

/-! ### Case -/

/-- A cased letter comes next, once case-ignorable characters are passed over. -/
def meetsCased (cs : List Char) : Bool :=
  match cs.dropWhile isCaseIgnorable with
  | [] => false
  | c :: _ => isCased c

/-- Lower-cases the letters still to come, `before` being the letters already read, nearest
first. A capital sigma ends a word when a cased letter stands before it and none after it. -/
def lowerFrom (before : List Char) : List Char → List Char
  | [] => []
  | c :: rest =>
    (if c = 'Σ' then [if meetsCased before && !meetsCased rest then 'ς' else 'σ']
      else lowerLetters c) ++ lowerFrom (c :: before) rest

/-- The **folded form** of a name: its full lower-case mapping. -/
def lower (s : String) : String :=
  String.ofList (lowerFrom [] s.toList)

/-- The full upper-case mapping of a text. -/
def upper (s : String) : String :=
  String.ofList (s.toList.flatMap upperLetters)

/-- Equal up to the case of ASCII letters. -/
def eqIgnoringCase (s t : String) : Bool :=
  s.toList.map Char.toLower == t.toList.map Char.toLower

/-! ### White space -/

/-- Unicode white space. -/
def isBlank (c : Char) : Bool :=
  inRanges [(0x9, 0xD), (0x20, 0x20), (0x85, 0x85), (0xA0, 0xA0), (0x1680, 0x1680),
    (0x2000, 0x200A), (0x2028, 0x2029), (0x202F, 0x202F), (0x205F, 0x205F), (0x3000, 0x3000)]
    c.toNat

/-- The text without the white space at its ends. -/
def trim (s : String) : String :=
  String.ofList (((s.toList.dropWhile isBlank).reverse.dropWhile isBlank).reverse)

/-- Nothing but white space. -/
def isBlankText (s : String) : Bool :=
  s.toList.all isBlank

end Text

end ProxyCatalog
