import SchoolAtlas.Census
import SchoolAtlas.Json.Record

/-!
# The Text of a Census

Reading a census from its published form, and its stored form.

The published form nests counties and towns in the same way: a unit has a
`population` and, if it is divided further, its `cities`. The country is the
outermost unit and has no population of its own.

The parts on ethnicity and education are kept whatever they hold, so all of what
they hold has to make sense. Such a part lies within the objects around it,
which count towards the depth that a document may have.

## Main definitions

* `Census.ofText?`: Reads a census.
* `Census.json`, `TownProfile.json`: Stored forms.
-/

namespace SchoolAtlas

open Json (Document)

/-- The number of levels that arrays and objects may lie within each other. -/
def Json.depthLimit : Nat := 127

namespace Population

/-- Reads a population. Its remaining parts may lie so many levels deep. -/
def ofDocument? (depth : Nat) (document : Document) : Option Population := do
  match ← document.fields? ["total", "age", "ethnicity", "education"] with
  | [total, age, ethnicity, education] =>
    return {
      total := ← total.required? Document.count?
      age := ← age.orDefault? .empty (Document.entries? Document.count?)
      ethnicity := ← ethnicity.orDefault? .null (Document.keep? depth)
      education := ← education.orDefault? .null (Document.keep? depth) }
  | _ => none

/-- The stored form of a population. -/
def json (p : Population) : Json :=
  .object
    [("total", .whole p.total), ("age", .ofMap (fun (n : Nat) => .whole n) p.age),
      ("ethnicity", p.ethnicity), ("education", p.education)]

end Population

namespace Census

/-- Reads a town, which is the fifth object from outside, and its population. -/
def readTown? (document : Document) : Option Population := do
  match ← document.fields? ["population"] with
  | [population] => population.required? (Population.ofDocument? (Json.depthLimit - 6))
  | _ => none

/-- Reads a county, which is the third object from outside. -/
def readCounty? (document : Document) : Option CountyCensus := do
  match ← document.fields? ["population", "cities"] with
  | [population, towns] =>
    return {
      population := ← population.required? (Population.ofDocument? (Json.depthLimit - 4))
      towns := ← towns.orDefault? .empty (Document.entries? readTown?) }
  | _ => none

/-- Reads a document as a census. -/
def ofDocument? (document : Document) : Option Census := do
  match ← document.fields? ["cities"] with
  | [counties] => return ⟨← counties.orDefault? .empty (Document.entries? readCounty?)⟩
  | _ => none

/-- Reads the text of a census. -/
def ofText? (text : String) : Option Census := (Document.ofText? text).bind ofDocument?

/-- The message about a text that is no census. -/
def unreadable : String := "Failed to parse demographics JSON"

/-- The stored form of a census. -/
def json (c : Census) : Json :=
  let county (c : CountyCensus) : Json :=
    .object
      [("population", c.population.json),
        ("cities", .ofMap (fun town => .object [("population", town.json)]) c.towns)]
  .object [("cities", .ofMap county c.counties)]

end Census

/-- The stored form of an age summary. -/
def TownProfile.json (p : TownProfile) : Json :=
  .object
    [("total", .whole p.total),
      ("age_groups", .array (p.ageGroups.map fun (label, n) => .array [.string label, .whole n])),
      ("primary_age", .whole p.primaryAge), ("middle_school_age", .whole p.middleSchoolAge),
      ("high_school_age", .whole p.highSchoolAge)]

end SchoolAtlas
