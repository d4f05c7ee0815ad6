import SchoolAtlas.Census
import SchoolAtlas.Map.Scalar
import SchoolAtlas.Query.Answer

/-!
# Values of Regions

From the rows of an answer to the values on the map.

A map shows one value for each region, under the name of the region. Counts can
be shown as they are or per capita. A rate per capita is taken over units of
people that make handy numbers: ten thousand in a county, one thousand in a
town. A region of which the census knows nobody has no rate and is left out.

## Main definitions

* `RegionValues`: Values by the name of the region.
* `perCapita`: A rate per capita.
* `Census.denominator?`: The people that a rate is taken over.
* `normalize`: The values that an answer puts on the map.
-/

namespace SchoolAtlas

/-- Values by the name of the region. -/
abbrev RegionValues := NameMap Float

/-- The people in one unit of a rate: more in a county than in a town. -/
def unitOfPeople (town : Option String) : Nat := if town.isSome then 1000 else 10000

/-- A rate per capita, over people counted in units. -/
def perCapita {α : Type} [Scalar α] (value : α) (people unit : Nat) : α :=
  value / (Scalar.ofNat people / Scalar.ofNat unit)

/-- The people that a rate of a region is taken over, if there are any. -/
def Census.denominator? (c : Census) (schoolAgeOnly : Bool) (row : RegionRow) : Option Nat :=
  (c.population? row.county row.town).bind fun population =>
    let people := population.denominator schoolAgeOnly
    if people = 0 then none else some people

/-- The value that a row puts on the map, if it puts one there. -/
def RegionRow.shown? (filters : Filter.State) (census : Census) (row : RegionRow) :
    Option Float :=
  if filters.perCapita then
    (census.denominator? filters.schoolAgeOnly row).map fun people =>
      perCapita row.value.toFloat people (unitOfPeople row.town)
  else some row.value.toFloat

/-- The values that an answer puts on the map. Of several rows of one name the
    last stays. -/
def normalize (rows : List RegionRow) (filters : Filter.State) (census : Census) :
    RegionValues :=
  .ofList (rows.filterMap fun row =>
    (row.shown? filters census).map fun value => (row.key, value))

end SchoolAtlas
