/-!
# Numerals

The numerals of grades and colour components: an optional sign, digits with an
optional point among them, and an optional exponent. Either side of the point
may be empty, but not both. Infinity and the undefined number are written as
words in any case.

A numeral is read for the exact number that it writes, and only then rounded to
the nearest number of the wanted precision. Numerals far outside every range are
settled by their magnitude, so a huge exponent costs nothing.

## Main definitions

* `Numeral`: What a numeral writes.
* `Numeral.ofText?`: Reads a numeral, all of the text or nothing.
* `Numeral.toFloat`, `Numeral.toFloat32`: The nearest number of double or single
  precision.
-/

namespace SchoolAtlas

/-- What a numeral writes. -/
inductive Numeral where
  /-- The number `digits · 10 ^ exponent` with a sign. -/
  | finite (negative : Bool) (digits : Nat) (exponent : Int)
  | infinite (negative : Bool)
  | undefined
deriving DecidableEq, Repr

namespace Numeral

/-- The value of a digit. -/
def digitValue (c : Char) : Nat := c.toNat - '0'.toNat

/-- Appends digits to a number. -/
def appendDigits (n : Nat) (digits : List Char) : Nat :=
  digits.foldl (fun n c => 10 * n + digitValue c) n

/-- The number written by digits. -/
def ofDigits (digits : List Char) : Nat := appendDigits 0 digits

/-- Takes a sign off the text. Without one the number is positive. -/
def takeSign : List Char → Bool × List Char
  | '-' :: rest => (true, rest)
  | '+' :: rest => (false, rest)
  | rest => (false, rest)

/-- Reads what follows the digits: nothing, or an exponent up to the end. -/
def exponent? : List Char → Option Int
  | [] => some 0
  | mark :: rest =>
    if mark = 'e' || mark = 'E' then
      let (negative, digits) := takeSign rest
      if digits.isEmpty || !digits.all Char.isDigit then none
      else if negative then some (-(ofDigits digits : Int)) else some (ofDigits digits)
    else none

/-- Reads digits, a point and an exponent. -/
def number? (negative : Bool) (text : List Char) : Option Numeral :=
  let whole := text.takeWhile Char.isDigit
  let rest := text.dropWhile Char.isDigit
  let (fraction, tail) := match rest with
    | '.' :: rest => (rest.takeWhile Char.isDigit, rest.dropWhile Char.isDigit)
    | rest => ([], rest)
  if whole.isEmpty && fraction.isEmpty then none
  else (exponent? tail).map fun e =>
    .finite negative (ofDigits (whole ++ fraction)) (e - fraction.length)

/-- Reads one of the words, in any case. -/
def word? (negative : Bool) (text : List Char) : Option Numeral :=
  match String.ofList (text.map Char.toLower) with
  | "nan" => some .undefined
  | "inf" | "infinity" => some (.infinite negative)
  | _ => none

/-- Reads a numeral, all of the text or nothing. -/
def ofChars? (text : List Char) : Option Numeral :=
  let (negative, rest) := takeSign text
  (number? negative rest).orElse fun _ => word? negative rest

/-- Reads a numeral, all of the text or nothing. -/
def ofText? (text : String) : Option Numeral := ofChars? text.toList

/-- Rounds `digits · 10 ^ exponent` with a rounding function that takes the
    exponent as a size and a direction. Beyond `10 ^ 400` every number is
    infinite and below `10 ^ -400` every number is zero. -/
def scale (round : Nat → Bool → Nat → α) (zero infinity : α) (digits : Nat) (exponent : Int) :
    α :=
  let magnitude := (Nat.toDigits 10 digits).length + exponent
  if digits = 0 then zero
  else if magnitude > 400 then infinity
  else if magnitude < -400 then zero
  else round digits (exponent < 0) exponent.natAbs

/-- The number without a value, of double precision. -/
def undefinedFloat : Float := 0.0 / 0.0

/-- Infinity of double precision. -/
def infiniteFloat : Float := 1.0 / 0.0

/-- The nearest number of double precision. -/
def toFloat : Numeral → Float
  | finite negative digits exponent =>
    let x := scale Float.ofScientific 0.0 infiniteFloat digits exponent
    if negative then -x else x
  | infinite negative => if negative then -infiniteFloat else infiniteFloat
  | undefined => undefinedFloat

/-- The nearest number of single precision. -/
def toFloat32 : Numeral → Float32
  | finite negative digits exponent =>
    let x := scale Float32.ofScientific 0.0 (1.0 / 0.0) digits exponent
    if negative then -x else x
  | infinite negative => if negative then -(1.0 / 0.0) else 1.0 / 0.0
  | undefined => 0.0 / 0.0

end Numeral

end SchoolAtlas
