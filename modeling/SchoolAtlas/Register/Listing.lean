import SchoolAtlas.Json.Value
import SchoolAtlas.Register

/-!
# Listings

The tables of the register written out row by row, with nothing in place of an
empty column.

Schools are listed by identifier and the other tables in the order in which
their rows came in. An infinite grade, which JSON has no number for, is written
as a word.

## Main definitions

* `Register.listing`: The rows of a table.
-/

namespace SchoolAtlas

namespace Register

/-- The written form of a grade. -/
def gradeJson : Option Float → Json
  | none => .null
  | some x =>
    if x.isInf then .string (if x < 0.0 then "-inf" else "inf") else .real x

/-- The row of a school. -/
def schoolRow (s : School) : Json :=
  .array
    [.string s.id, .string s.county, .ofText? s.town, .string s.name, .ofText? s.phone,
      .ofText? s.email, .ofText? s.street, .ofText? s.number]

/-- The row of an enrolment. -/
def enrolmentRow (e : Enrolment) : Json :=
  .array [.string e.school, .string e.level, .ofText? e.language, .whole e.students]

/-- The row of a candidate of the baccalaureate. -/
def bacRow (b : BacResult) : Json :=
  .array
    [.string b.school, .ofText? b.sex, .ofText? b.profile, .ofText? b.motherTongue,
      .ofText? b.foreignLanguage, .ofText? b.result, gradeJson b.grade]

/-- The row of a candidate of the national evaluation. -/
def evaluationRow (e : EvaluationResult) : Json :=
  .array
    [.string e.school, .ofText? e.sex, gradeJson e.majorityLanguageGrade,
      gradeJson e.mathematicsGrade, gradeJson e.grade, gradeJson e.schoolGrade]

/-- The rows of a table. -/
def listing (r : Register) : Table → List Json
  | .schools => (r.schools.mergeSort (fun s t => s.id ≤ t.id)).map schoolRow
  | .enrolments => r.enrolments.map enrolmentRow
  | .bacResults => r.bacResults.map bacRow
  | .evaluationResults => r.evaluationResults.map evaluationRow

end Register

end SchoolAtlas
