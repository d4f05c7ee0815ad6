import SchoolAtlas.Decimal.Numeral

/-!
# Numbers in JSON Texts

A number as a JSON text writes it, and the values that it is taken for.

Where a count is wanted, only plain digits will do: a point or an exponent makes
a measured value of a number, however whole it is, and so does a minus sign in
front of zero. A count has to fit a word of 64 bits.

A measured value is read quickly rather than exactly. As many leading digits as
fit a word of 64 bits are taken, the others only move the point, and the whole
is scaled by powers of ten in floating-point arithmetic. The result can differ
from the nearest number in its last bit. A value too large for the range is no
number at all, whereas one too small is zero.

## Main definitions

* `Json.Number`: A number as it is written.
* `Json.Number.take?`: Takes a number off a text.
* `Json.Number.natural?`: The count that a number stands for.
* `Json.Number.real?`: The measured value that a number stands for.
-/

namespace SchoolAtlas

/-- A number as it is written: digits before the point, digits after it, and the
    sign and digits of an exponent. -/
structure Json.Number where
  negative : Bool
  integer : List Char
  fraction : Option (List Char)
  exponent : Option (Bool × List Char)
deriving DecidableEq, Repr

namespace Json

namespace Number

/-- The values of a word of 64 bits lie below this bound. -/
def wordBound : Nat := UInt64.size

/-- Takes the digits before the point. A leading zero stands alone. -/
def takeInteger? : List Char → Option (List Char × List Char)
  | '0' :: rest => some (['0'], rest)
  | text =>
    let digits := text.takeWhile Char.isDigit
    if digits.isEmpty then none else some (digits, text.dropWhile Char.isDigit)

/-- Takes a point and the digits that have to follow it. -/
def takeFraction? : List Char → Option (Option (List Char) × List Char)
  | '.' :: rest =>
    let digits := rest.takeWhile Char.isDigit
    if digits.isEmpty then none else some (some digits, rest.dropWhile Char.isDigit)
  | text => some (none, text)

/-- Takes the mark of an exponent and the digits that have to follow it. -/
def takeExponent? : List Char → Option (Option (Bool × List Char) × List Char)
  | [] => some (none, [])
  | mark :: rest =>
    if mark = 'e' || mark = 'E' then
      let (negative, rest) := Numeral.takeSign rest
      let digits := rest.takeWhile Char.isDigit
      if digits.isEmpty then none
      else some (some (negative, digits), rest.dropWhile Char.isDigit)
    else some (none, mark :: rest)

/-- Takes a number off a text, with what is left of the text. -/
def take? (text : List Char) : Option (Number × List Char) :=
  let (negative, rest) := match text with
    | '-' :: rest => (true, rest)
    | rest => (false, rest)
  (takeInteger? rest).bind fun (integer, rest) =>
    (takeFraction? rest).bind fun (fraction, rest) =>
      (takeExponent? rest).map fun (exponent, rest) =>
        (⟨negative, integer, fraction, exponent⟩, rest)

/-- Whether a number is written with digits only, apart from its sign. -/
def isPlain (n : Number) : Bool := n.fraction.isNone && n.exponent.isNone

/-- The count that a number stands for. -/
def natural? (n : Number) : Option Nat :=
  let value := Numeral.ofDigits n.integer
  if n.isPlain && !n.negative && value < wordBound then some value else none

/-- The whole number below zero that a number stands for. -/
def negative? (n : Number) : Option Int :=
  let value := Numeral.ofDigits n.integer
  if n.isPlain && n.negative && 0 < value && value ≤ wordBound / 2 then some (-(value : Int))
  else none

/-- Appends leading digits to a number while it fits a word, and tells which
    digits were left over. -/
def appendWhileFitting (n : Nat) : List Char → Nat × List Char
  | [] => (n, [])
  | c :: rest =>
    let longer := 10 * n + Numeral.digitValue c
    if longer < wordBound then appendWhileFitting longer rest else (n, c :: rest)

/-- The digits that count and the power of ten that they are scaled by, without
    the written exponent. -/
def significand (n : Number) : Nat × Int :=
  let (digits, left) := appendWhileFitting 0 n.integer
  let fraction := n.fraction.getD []
  let (digits, dropped) := appendWhileFitting digits fraction
  (digits, (left.length : Int) - (fraction.length - dropped.length : Nat))

/-- A power of ten as a floating-point number. -/
def power (e : Nat) : Float := Float.ofScientific 1 false e

/-- The greatest power of ten in the range of floating-point numbers. -/
def greatestPower : Nat := 308

/-- Scales a number by a power of ten, by steps of the greatest power if the
    exponent is below the range. Three such steps take any word to zero. -/
def scale? (x : Float) (exponent : Int) : Nat → Option Float
  | 0 => some 0.0
  | steps + 1 =>
    if exponent.natAbs ≤ greatestPower then
      if 0 ≤ exponent then
        let scaled := x * power exponent.natAbs
        if scaled.isInf then none else some scaled
      else some (x / power exponent.natAbs)
    else if x == 0.0 then some x
    else if 0 ≤ exponent then none
    else scale? (x / power greatestPower) (exponent + greatestPower) steps

/-- The measured value that a number stands for, unless it is too large. -/
def real? (n : Number) : Option Float :=
  let (digits, shift) := n.significand
  let scaled := match n.exponent with
    | none => scale? digits.toUInt64.toFloat shift 4
    | some (negative, exponent) =>
      let exponent := Numeral.ofDigits exponent
      -- An exponent beyond a word of 32 bits settles the value by itself.
      if UInt32.size / 2 ≤ exponent then if digits ≠ 0 && !negative then none else some 0.0
      else
        let exponent : Int := if negative then -exponent else exponent
        scale? digits.toUInt64.toFloat (shift + exponent) 4
  scaled.map fun x => if n.negative then -x else x

end Number

end Json

end SchoolAtlas
