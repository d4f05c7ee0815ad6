/-!
# Aggregates

Sums and means over the rows of a group.

Whole numbers are added in words of 64 bits, and a sum that leaves them has no
value. Grades are added with compensation: beside the running sum stands the
part of each addition that rounding cut off, and it is added at the very end. The
mean is then nearly independent of the order of the grades. Once the sum is no
longer finite the compensation means nothing and is left out, so an infinite
grade makes an infinite mean, and two of opposite signs make none.

## Main definitions

* `sumOfWords?`: The sum of whole numbers, if it fits a word at every step.
* `CompensatedSum`: A running sum with what rounding cut off.
* `meanOfGrades?`: The mean of grades, if there are any and it is a number.
* `Amount`: The value of a region.
-/

namespace SchoolAtlas

/-- Whether a whole number fits a word of 64 bits with a sign. -/
def fitsWord (n : Int) : Bool := Int64.minValue.toInt ≤ n && n ≤ Int64.maxValue.toInt

/-- Adds to a sum, if the result fits a word. -/
def addWord? (sum n : Int) : Option Int := if fitsWord (sum + n) then some (sum + n) else none

/-- The sum of whole numbers, if it fits a word at every step. -/
def sumOfWords? (ns : List Int) : Option Int := ns.foldlM addWord? 0

/-- A running sum with what rounding cut off. -/
structure CompensatedSum where
  sum : Float
  compensation : Float
deriving Repr, Inhabited

namespace CompensatedSum

/-- The sum of nothing. -/
def zero : CompensatedSum := ⟨0.0, 0.0⟩

/-- Adds a number. What rounding cuts off belongs to the smaller of the two. -/
def add (s : CompensatedSum) (x : Float) : CompensatedSum :=
  let total := s.sum + x
  let lost := if s.sum.abs > x.abs then (s.sum - total) + x else (x - total) + s.sum
  ⟨total, s.compensation + lost⟩

/-- The value of the sum, compensated as long as that means something. -/
def value (s : CompensatedSum) : Float :=
  if s.compensation.isFinite then s.sum + s.compensation else s.sum

/-- The compensated sum of numbers. -/
def ofList (xs : List Float) : CompensatedSum := xs.foldl add zero

end CompensatedSum

/-- The mean of grades, if there are any and it is a number. -/
def meanOfGrades? (grades : List Float) : Option Float :=
  if grades.isEmpty then none
  else
    let mean := (CompensatedSum.ofList grades).value / Float.ofNat grades.length
    if mean.isNaN then none else some mean

/-- The value of a region: a count, or a mean. -/
inductive Amount where
  | count (n : Int)
  | mean (x : Float)
deriving Repr, Inhabited

/-- The value as a floating-point number. -/
def Amount.toFloat : Amount → Float
  | count n => Float.ofInt n
  | mean x => x

end SchoolAtlas
