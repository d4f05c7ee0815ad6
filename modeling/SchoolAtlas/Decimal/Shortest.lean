/-!
# Shortest Decimals

The decimal that a floating-point number is written with.

A finite number of binary precision stands for every real that rounds to it, an
interval around `m · 2 ^ q`. Any decimal in that interval reads back as the same
number, so the shortest one is enough, and of several shortest ones the nearest
is taken. The search goes from coarse grids to fine ones: on the grid of `n`
digits only the two neighbours of the number can be in the interval and
nearest, and with seventeen digits one of them always is.

All of it is arithmetic on natural numbers. The bounds of the interval lie half
way between neighbouring numbers, and below a power of two a quarter of the way,
so everything is counted in quarters of a unit.

The written form is positional for numbers of middling size and has an exponent
otherwise. Both always show a fractional part or an exponent, so a written
number is never mistaken for an integer.

## Main definitions

* `Decimal`: A whole number of digits and a power of ten.
* `Decimal.Interval`: The reals that round to a number, counted in quarters.
* `Decimal.shortest`: The shortest decimal of a positive finite number.
* `Decimal.text`: The written form of a floating-point number.
-/

namespace SchoolAtlas

/-- The number `digits · 10 ^ exponent`. -/
structure Decimal where
  digits : Nat
  exponent : Int
deriving DecidableEq, Repr

namespace Decimal

/-- The reals that round to one number: those between `low` and `high`, in units
    of `num / den`. The bounds belong to it if the number's significand is even. -/
structure Interval where
  low : Nat
  value : Nat
  high : Nat
  closed : Bool
  num : Nat
  den : Nat
deriving DecidableEq, Repr

namespace Interval

/-- The interval of the number `m · 2 ^ q`, in units of `2 ^ (q - 2)`. At a power
    of two the neighbour below is only half as far away. -/
def ofBinary (m : Nat) (q : Int) (boundary : Bool) : Interval where
  low := if boundary then 4 * m - 1 else 4 * m - 2
  value := 4 * m
  high := 4 * m + 2
  closed := m % 2 == 0
  num := Nat.pow 2 (q - 2).toNat
  den := Nat.pow 2 (2 - q).toNat

/-- Whether `c · num / den` counted on a grid of its own lies in the interval.
    The grid's unit is `gridNum / gridDen`. -/
def contains (i : Interval) (gridNum gridDen c : Nat) : Bool :=
  let point := c * gridNum * i.den
  let low := i.low * i.num * gridDen
  let high := i.high * i.num * gridDen
  if i.closed then decide (low ≤ point ∧ point ≤ high) else decide (low < point ∧ point < high)

/-- The point of a decimal grid that stands for the number, if one does: of the
    two neighbours in the interval the nearer, and the even one of a tie. -/
def onGrid? (i : Interval) (exponent : Int) : Option Nat :=
  let gridNum := Nat.pow 10 exponent.toNat
  let gridDen := Nat.pow 10 (-exponent).toNat
  let scaled := i.value * i.num * gridDen
  let unit := gridNum * i.den
  let below := scaled / unit
  let rest := scaled % unit
  let above := below + 1
  match i.contains gridNum gridDen below, i.contains gridNum gridDen above with
  | true, false => some below
  | false, true => some above
  | false, false => none
  | true, true =>
    if 2 * rest < unit then some below
    else if unit < 2 * rest then some above
    else if below % 2 == 0 then some below else some above

/-- The number of digits before the decimal point, counted below zero for the
    zeros that follow the point. -/
def magnitude (i : Interval) : Int :=
  let whole := i.value * i.num / i.den
  if whole = 0 then
    -- The zeros after the point are as many as the powers of ten needed to reach one.
    let inverse := (i.den - 1) / (i.value * i.num)
    1 - ((Nat.toDigits 10 inverse).length : Int)
  else (Nat.toDigits 10 whole).length

end Interval

/-- Tries the grids of `n`, `n + 1`, … digits. -/
def search (i : Interval) (magnitude : Int) (n : Nat) : Nat → Decimal
  | 0 => ⟨i.value * i.num / i.den, 0⟩
  | more + 1 =>
    let exponent := magnitude - n
    match i.onGrid? exponent with
    | some digits => if digits = 0 then search i magnitude (n + 1) more else ⟨digits, exponent⟩
    | none => search i magnitude (n + 1) more

/-- Moves trailing zeros of the digits into the exponent. -/
def trim (digits : Nat) (exponent : Int) : Nat → Decimal
  | 0 => ⟨digits, exponent⟩
  | more + 1 =>
    if digits % 10 = 0 ∧ digits ≠ 0 then trim (digits / 10) (exponent + 1) more
    else ⟨digits, exponent⟩

/-- The shortest decimal that reads back as `m · 2 ^ q`, for a positive `m`. -/
def shortest (m : Nat) (q : Int) (boundary : Bool) : Decimal :=
  let i := Interval.ofBinary m q boundary
  -- One grid more at either end covers a neighbour that gains a digit.
  let d := search i i.magnitude 0 19
  trim d.digits d.exponent 20

/-- The decimal of a positive finite number of double precision, read off its
    bits. -/
def ofBits (bits : Nat) : Decimal :=
  let fraction := bits % Nat.pow 2 52
  let field := bits / Nat.pow 2 52 % Nat.pow 2 11
  if field = 0 then shortest fraction (-1074) false
  else shortest (Nat.pow 2 52 + fraction) ((field : Int) - 1075) (fraction == 0 && field != 1)

/-- The decimal with a point or an exponent. Up to sixteen places before the
    point and four zeros after it are written out. An exponent always has a sign. -/
def positional (d : Decimal) : String :=
  let digits := Nat.toDigits 10 d.digits
  let length := digits.length
  let point : Int := d.exponent + length
  let zeros (n : Int) := List.replicate n.toNat '0'
  String.ofList <|
    if 0 ≤ d.exponent && point ≤ 16 then digits ++ zeros d.exponent ++ ['.', '0']
    else if 0 < point && point ≤ 16 then
      digits.take point.toNat ++ '.' :: digits.drop point.toNat
    else if -5 < point && point ≤ 0 then '0' :: '.' :: zeros (-point) ++ digits
    else
      let size := (toString (point - 1).natAbs).toList
      let exponent := (if point ≤ 0 then '-' else '+') :: size
      match digits with
      | [single] => single :: 'e' :: exponent
      | first :: rest => first :: '.' :: rest ++ 'e' :: exponent
      | [] => exponent

/-- The written form of a finite floating-point number. -/
def text (x : Float) : String :=
  let bits := x.toBits.toNat
  let sign := if bits / Nat.pow 2 63 = 1 then "-" else ""
  if bits % Nat.pow 2 63 = 0 then sign ++ "0.0" else sign ++ (ofBits bits).positional

end Decimal

end SchoolAtlas
