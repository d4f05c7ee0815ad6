/-!
# Single Precision

Arithmetic on the components of colours.

Colours are computed in single precision, and only their finished components are
taken over into double precision. A number of single precision is also one of
double precision, so nothing is lost there: the significand is the same and only
the exponent is written differently.

The angle of a hue is brought into its circle by the remainder of a division,
and that remainder is exact. A number at least as large as the circle has no
digit further down than the unit's twenty-third binary place, so it is a whole
number of such units, and so is the remainder. It has the sign of the number, so a
whole circle is added to it, whatever its sign, and the remainder is taken again.
That addition is rounded, and every angle loses what the larger number has no
digits for.

## Main definitions

* `Single.clamp`: A number brought between zero and one.
* `Single.remainder`: The remainder of a division by a whole number.
* `Single.wrap`: An angle brought into its circle.
* `Single.widen`: The same number in double precision.
-/

namespace SchoolAtlas

namespace Single

/-- A number brought between zero and one. What is not a number stays as it is. -/
def clamp (x : Float32) : Float32 :=
  if x < 0.0 then 0.0 else if x > 1.0 then 1.0 else x

/-- A number, or zero if it is below zero or is none. -/
def atLeastZero (x : Float32) : Float32 := if x > 0.0 then x else 0.0

/-- The significand of a finite number and the power of two that it is scaled by. -/
def parts (x : Float32) : Nat × Int :=
  let bits : Nat := x.toBits.toNat
  let fraction := bits % Nat.pow 2 23
  let field := bits / Nat.pow 2 23 % Nat.pow 2 8
  if field = 0 then (fraction, -149) else (Nat.pow 2 23 + fraction, (field : Int) - 150)

/-- What is no number. -/
def undefined : Float32 := 0.0 / 0.0

/-- The remainder of the division of a number by a whole number, with the sign of
    the number. -/
def remainder (x : Float32) (n : Nat) : Float32 :=
  if !x.isFinite then undefined
  else if x.abs < Float32.ofNat n then x
  else
    let (m, e) := parts x
    let places := (-e).toNat
    let rest := m * Nat.pow 2 e.toNat % (n * Nat.pow 2 places)
    let r := Float32.ofNat rest / Float32.ofNat (Nat.pow 2 places)
    if x < 0.0 then -r else r

/-- The remainder as an angle of a circle of whole units, never below zero. -/
def wrap (x : Float32) (n : Nat) : Float32 :=
  remainder (remainder x n + Float32.ofNat n) n

/-- The same number in double precision. -/
def widen (x : Float32) : Float :=
  let size :=
    if x.isNaN then 0.0 / 0.0
    else if x.isInf then 1.0 / 0.0
    else
      let (m, e) := parts x
      if 0 ≤ e then Float.ofNat (m * Nat.pow 2 e.toNat)
      else Float.ofNat m / Float.ofNat (Nat.pow 2 (-e).toNat)
  if x < 0.0 then -size else size

end Single

end SchoolAtlas
