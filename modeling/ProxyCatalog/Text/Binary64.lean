import ProxyCatalog.Text.Numeral

/-!
# Reading floating-point numbers

A number in decimal or scientific notation is read as the nearest binary floating-point number of
64 bits, and of two equally near ones as the one with an even last bit. All arithmetic is exact, on
natural numbers: the text denotes a quotient, the quotient is scaled by a power of two until its
integer part has as many bits as a mantissa, and the rest decides the rounding.

* `Binary64`: a floating-point number by its bits.
* `Binary64.ofQuotient`: the nearest number of a quotient of naturals.
* `readBinary64`: the reader. A sign may stand in front; `inf`, `infinity` and `nan` are read in
  any case of letters; a decimal point needs a digit on one of its sides.
-/

namespace ProxyCatalog

/-- A binary floating-point number of 64 bits: a sign bit, eleven bits of exponent and fifty-two
bits of mantissa. -/
structure Binary64 where
  bits : UInt64
deriving DecidableEq, Inhabited

namespace Binary64

/-- The bits of positive infinity. -/
def infinityBits : Nat := 0x7FF <<< 52

/-- The bits of the quiet not-a-number. -/
def nanBits : Nat := 0xFFF <<< 51

/-- A number from its magnitude's bits and its sign. -/
def ofBits (negative : Bool) (magnitude : Nat) : Binary64 :=
  ⟨UInt64.ofNat (if negative then (1 <<< 63) + magnitude else magnitude)⟩

/-- The value is not a number: the exponent is full and the mantissa is not zero. -/
def isNaN (x : Binary64) : Bool :=
  infinityBits < x.bits.toNat % (1 <<< 63)

/-- The quotient `num / den` rounded to a natural number, a half to the even neighbour. -/
def roundHalfEven (num den : Nat) : Nat :=
  let q := num / den
  let r := num % den
  if 2 * r < den then q
  else if 2 * r = den then q + q % 2
  else q + 1

/-- The largest `k` with `2 ^ k ≤ num / den`, for positive `num` and `den`. -/
def binaryOrder (num den : Nat) : Int :=
  let k : Int := (num.log2 : Int) - (den.log2 : Int)
  if den <<< k.toNat ≤ num <<< (-k).toNat then k else k - 1

/-- The bits of the number nearest to the positive quotient `num / den`. The exponent of the last
mantissa bit is that of the normal range or, below it, the least one; a mantissa that rounds up to
the next power of two carries into the exponent, which the sum of bits does by itself. -/
def ofQuotient (num den : Nat) : Nat :=
  let e : Int := max (binaryOrder num den - 52) (-1074)
  let mantissa := roundHalfEven (num <<< (-e).toNat) (den <<< e.toNat)
  min infinityBits (((e + 1074).toNat <<< 52) + mantissa)

/-- The bits of the number nearest to `digits · 10 ^ exponent`. A magnitude far outside the range
is decided by its order, so that no huge power is computed. -/
def ofDecimal (digits : List Char) (exponent : Int) : Nat :=
  let significant := digits.dropWhile (· == '0')
  let order : Int := significant.length + exponent
  if significant.isEmpty then 0
  else if 400 < order then infinityBits
  else if order < -400 then 0
  else ofQuotient (Text.digitsValue significant * Nat.pow 10 exponent.toNat)
    (Nat.pow 10 (-exponent).toNat)

end Binary64

namespace Text

/-- Reads the exponent part of a number: nothing, or a marked and possibly signed numeral. -/
def exponent? : List Char → Option Int
  | [] => some 0
  | c :: cs =>
    if c == 'e' || c == 'E' then
      match cs with
      | '-' :: ds => (natural? ds).map fun n => -(n : Int)
      | '+' :: ds => (natural? ds).map fun n => (n : Int)
      | ds => (natural? ds).map fun n => (n : Int)
    else none

/-- The bits of an unsigned number: digits, perhaps a point and more digits, perhaps an
exponent. -/
def unsignedBits? (cs : List Char) : Option Nat :=
  let whole := cs.takeWhile Char.isDigit
  let rest := cs.dropWhile Char.isDigit
  let (fraction, tail) := match rest with
    | '.' :: r => (r.takeWhile Char.isDigit, r.dropWhile Char.isDigit)
    | r => ([], r)
  if whole.isEmpty && fraction.isEmpty then none
  else (exponent? tail).map fun e =>
    Binary64.ofDecimal (whole ++ fraction) (e - (fraction.length : Int))

/-- The bits of an infinity or of the not-a-number, by name. -/
def namedBits? (cs : List Char) : Option Nat :=
  let word := String.ofList (cs.map Char.toLower)
  if word = "inf" ∨ word = "infinity" then some Binary64.infinityBits
  else if word = "nan" then some Binary64.nanBits
  else none

/-- Reads a floating-point number. -/
def readBinary64 (s : String) : Option Binary64 :=
  let (negative, cs) := match s.toList with
    | '-' :: r => (true, r)
    | '+' :: r => (false, r)
    | r => (false, r)
  ((unsignedBits? cs).or (namedBits? cs)).map (Binary64.ofBits negative)

end Text

end ProxyCatalog
