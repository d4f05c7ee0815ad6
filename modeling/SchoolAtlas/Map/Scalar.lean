/-!
# Scalars

The arithmetic that legends and rates are computed with.

A legend divides a range, finds the place of a value in it and blends two
colours there. These formulas are written once, over any kind of number that has
the operations they take. A map is painted with floating-point numbers. The same
formulas over fractions say what the map means to show, without rounding.

No law is asked of the operations. Floating-point numbers obey few laws, and some
of them are no numbers at all: every comparison with such a one fails, and it is
never finite.

## Main definitions

* `Scalar`: Numbers with the operations of a legend.
* `Scalar.clamp`: A number brought between zero and one.
* `Scalar.round`: The nearest whole number, half way going up.
-/

namespace SchoolAtlas

/-- Numbers with the operations of a legend. -/
class Scalar (α : Type) extends Add α, Sub α, Mul α, Div α where
  ofNat : Nat → α
  /-- Whether a number is less than another. -/
  less : α → α → Bool
  /-- Whether a number is less than or equal to another. -/
  atMost : α → α → Bool
  isFinite : α → Bool
  /-- The whole part of a number, and zero below zero and for what is no
      number. -/
  truncate : α → Nat

instance : Scalar Float where
  ofNat := Float.ofNat
  less x y := x < y
  atMost x y := x ≤ y
  isFinite := Float.isFinite
  truncate x := x.toUInt64.toNat

instance : Scalar Rat where
  ofNat n := n
  less x y := x < y
  atMost x y := x ≤ y
  isFinite _ := true
  truncate x := x.floor.toNat

namespace Scalar

variable {α : Type} [Scalar α]

/-- A number brought between zero and one. What is no number stays as it is. -/
def clamp (x : α) : α :=
  if less x (ofNat 0) then ofNat 0 else if less (ofNat 1) x then ofNat 1 else x

/-- The nearest whole number to one that is not below zero, half way going up. -/
def round (x : α) : Nat :=
  let whole := truncate x
  if atMost (ofNat 1 / ofNat 2) (x - ofNat whole) then whole + 1 else whole

end Scalar

end SchoolAtlas
