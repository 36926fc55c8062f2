/-!
# Reading numbers and flags

The decimal numerals that properties, rows and settings are written in, and the two flags.

* `readWord`: a natural number of at most 64 bits, with an optional plus sign, or the reason why
  the text is none. The first offence from the left is the one reported, so a text with too many
  digits is too large even where a letter follows.
* `readInteger`: a signed number of at most 64 bits.
* `readFlag`: `true` or `false`, spelled exactly so.
-/

namespace ProxyCatalog

namespace Text

/-- Why a text is no numeral. -/
inductive NumeralFault where
  /-- There is no digit at all. -/
  | noDigits
  /-- A character other than a digit. -/
  | notDigit
  /-- More than 64 bits. -/
  | tooLarge
deriving DecidableEq

namespace NumeralFault

/-- The wording of the fault. -/
def message : NumeralFault → String
  | noDigits => "cannot parse integer from empty string"
  | notDigit => "invalid digit found in string"
  | tooLarge => "number too large to fit in target type"

end NumeralFault

/-- The value of a decimal digit. -/
def digit? (c : Char) : Option Nat :=
  if c.isDigit then some (c.toNat - '0'.toNat) else none

/-- The number written by decimal digits, most significant first. -/
def digitsValue (cs : List Char) : Nat :=
  cs.foldl (fun n c => 10 * n + (c.toNat - '0'.toNat)) 0

/-- Reads digits on top of those already read, which denote `n`, and stops at the first fault. -/
def readDigits (n : Nat) : List Char → Except NumeralFault Nat
  | [] => .ok n
  | c :: rest =>
    match digit? c with
    | none => .error .notDigit
    | some d => if 10 * n + d < UInt64.size then readDigits (10 * n + d) rest else .error .tooLarge

/-- Reads a natural number of at most 64 bits. A plus sign may stand in front. -/
def readWord (s : String) : Except NumeralFault Nat :=
  match s.toList with
  | [] => .error .noDigits
  | ['+'] => .error .notDigit
  | '+' :: cs => readDigits 0 cs
  | cs => readDigits 0 cs

/-- The number denoted by a non-empty run of digits. -/
def natural? (cs : List Char) : Option Nat :=
  if !cs.isEmpty && cs.all Char.isDigit then some (digitsValue cs) else none

/-- Reads a signed number between `-2 ^ 63` and `2 ^ 63 - 1`. -/
def readInteger (s : String) : Option Int :=
  match s.toList with
  | '-' :: cs => (natural? cs).bind fun n => if n ≤ 1 <<< 63 then some (-(n : Int)) else none
  | '+' :: cs => (natural? cs).bind fun n => if n < 1 <<< 63 then some (n : Int) else none
  | cs => (natural? cs).bind fun n => if n < 1 <<< 63 then some (n : Int) else none

/-- Reads `true` or `false`. -/
def readFlag (s : String) : Option Bool :=
  if s = "true" then some true else if s = "false" then some false else none

end Text

end ProxyCatalog
