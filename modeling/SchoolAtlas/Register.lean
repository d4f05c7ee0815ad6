/-!
# The Register

The tables that the maps are drawn from.

The register knows schools, and for each school the students enrolled in it by
level and language, and the candidates it sent to the two exams. A row of the
last three tables names its school by identifier and need not find it: exports
are made at different times, and a row of an unknown school is kept but never
counted.

A school is known by its identifier, so a second school of one identifier takes
the place of the first. The other tables only grow.

## Main definitions

* `School`, `Enrolment`, `BacResult`, `EvaluationResult`: The rows of the tables.
* `Register`: The tables.
* `Register.putSchool`: Adds a school, in place of one of the same identifier.
* `Table`: The names of the tables.
-/

namespace SchoolAtlas

/-- A school. -/
structure School where
  id : String
  county : String
  town : Option String
  name : String
  phone : Option String
  email : Option String
  street : Option String
  number : Option String
deriving DecidableEq, Repr, Inhabited

/-- The students of a school at one level and in one language. -/
structure Enrolment where
  school : String
  level : String
  language : Option String
  students : Int
deriving DecidableEq, Repr, Inhabited

/-- A candidate of the baccalaureate. One who took the exam of the majority
    language has no mother-tongue language. -/
structure BacResult where
  school : String
  sex : Option String
  profile : Option String
  motherTongue : Option String
  foreignLanguage : Option String
  result : Option String
  grade : Option Float
deriving Repr, Inhabited

/-- A candidate of the national evaluation. -/
structure EvaluationResult where
  school : String
  sex : Option String
  majorityLanguageGrade : Option Float
  mathematicsGrade : Option Float
  grade : Option Float
  schoolGrade : Option Float
deriving Repr, Inhabited

/-- The tables that the maps are drawn from. -/
structure Register where
  schools : List School
  enrolments : List Enrolment
  bacResults : List BacResult
  evaluationResults : List EvaluationResult
deriving Repr, Inhabited

/-- The names of the tables. -/
inductive Table where
  | schools
  | enrolments
  | bacResults
  | evaluationResults
deriving DecidableEq, Repr, Inhabited

namespace Table

/-- The name of a table in statements and files. -/
def name : Table → String
  | schools => "school_info"
  | enrolments => "student_stats"
  | bacResults => "bac_2024"
  | evaluationResults => "en_2024"

/-- All tables, the schools first. -/
def all : List Table := [schools, enrolments, bacResults, evaluationResults]

/-- The table of a name. -/
def ofName? (text : String) : Option Table := all.find? (fun t => t.name = text)

end Table

namespace Register

/-- The register without any row. -/
def empty : Register := ⟨[], [], [], []⟩

/-- Adds a school at the end, in place of one of the same identifier. -/
def putSchool (schools : List School) (s : School) : List School :=
  schools.filter (fun other => other.id ≠ s.id) ++ [s]

/-- The number of rows in a table. -/
def rowCount (r : Register) : Table → Nat
  | .schools => r.schools.length
  | .enrolments => r.enrolments.length
  | .bacResults => r.bacResults.length
  | .evaluationResults => r.evaluationResults.length

end Register

end SchoolAtlas
