import SchoolAtlas.Filter.State
import SchoolAtlas.Json.Value

/-!
# The Census

Populations of counties and towns, by age.

The census gives ages in brackets of five years. A bracket that a unit does not
mention counts as nobody. The school-age population is three of the brackets
together, and the age profile of a town shows the brackets in six coarse groups
beside the three school ages on their own.

What the census says about ethnicity and education is kept as it is. Nothing is
computed from it.

## Main definitions

* `Census`: Counties with their population and their towns.
* `Population.ofBrackets`: The people in some of the brackets.
* `Population.schoolAge`: The people aged 5 to 19.
* `TownProfile`: The age summary of a town.
* `Census.profile?`: The age summary of the town that a filter state opens.
-/

namespace SchoolAtlas

/-- The people of one administrative unit. -/
structure Population where
  total : Nat
  /-- People by bracket, such as `10-14` and `85+`. -/
  age : NameMap Nat
  ethnicity : Json
  education : Json
deriving Repr, Inhabited

namespace Population

/-- The brackets of the school-age population. -/
def schoolAgeBrackets : List String := ["5-9", "10-14", "15-19"]

/-- The people in one bracket. -/
def inBracket (p : Population) (bracket : String) : Nat := (p.age.get? bracket).getD 0

/-- The people in some of the brackets. -/
def inBrackets (p : Population) (brackets : List String) : Nat :=
  brackets.foldr (fun bracket rest => p.inBracket bracket + rest) 0

/-- The people aged 5 to 19. -/
def schoolAge (p : Population) : Nat := p.inBrackets schoolAgeBrackets

/-- The population that a count per capita is taken over. -/
def denominator (p : Population) (schoolAgeOnly : Bool) : Nat :=
  if schoolAgeOnly then p.schoolAge else p.total

end Population

/-- A county with its own population and that of its towns. -/
structure CountyCensus where
  population : Population
  towns : NameMap Population
deriving Repr, Inhabited

/-- Counties by their code. -/
structure Census where
  counties : NameMap CountyCensus
deriving Repr, Inhabited

/-- The age summary of a town. -/
structure TownProfile where
  total : Nat
  /-- Coarse age groups in the order in which they are shown. -/
  ageGroups : List (String × Nat)
  primaryAge : Nat
  middleSchoolAge : Nat
  highSchoolAge : Nat
deriving DecidableEq, Repr, Inhabited

namespace TownProfile

/-- The coarse age groups and the brackets that make them up. -/
def groups : List (String × List String) :=
  [("0-4", ["0-4"]),
    ("5-14", ["5-9", "10-14"]),
    ("15-19", ["15-19"]),
    ("20-24", ["20-24"]),
    ("25-64", ["25-29", "30-34", "35-39", "40-44", "45-49", "50-54", "55-59", "60-64"]),
    ("65+", ["65-69", "70-74", "75-79", "80-84", "85+"])]

/-- The age summary of a population. -/
def ofPopulation (p : Population) : TownProfile where
  total := p.total
  ageGroups := groups.map (fun (label, brackets) => (label, p.inBrackets brackets))
  primaryAge := p.inBrackets ["5-9"]
  middleSchoolAge := p.inBrackets ["10-14"]
  highSchoolAge := p.inBrackets ["15-19"]

end TownProfile

namespace Census

/-- The census that knows no county. -/
def empty : Census := ⟨.empty⟩

/-- The population of a county. -/
def county? (c : Census) (code : String) : Option Population :=
  (c.counties.get? code).map CountyCensus.population

/-- The population of a town. -/
def town? (c : Census) (code name : String) : Option Population :=
  (c.counties.get? code).bind fun county => county.towns.get? name

/-- The population of a region: of a town if one is named, else of the county. -/
def population? (c : Census) (code : String) : Option String → Option Population
  | some name => c.town? code name
  | none => c.county? code

/-- The age summary of the town that a filter state opens. -/
def profile? (c : Census) (filters : Filter.State) : Option TownProfile :=
  filters.openTown?.bind fun (code, name) =>
    (c.town? code name).map TownProfile.ofPopulation

end Census

end SchoolAtlas
