import SchoolAtlas.Csv.Row
import SchoolAtlas.Register
import SchoolAtlas.Register.Clean

/-!
# Loading Tables

Filling the register from tables in text form.

The directory of schools is loaded as a whole or not at all, because a map with
half of the schools would be wrong without looking wrong. The other tables are
large exports with the odd broken line, and there a row that cannot be read is
passed over and the rest is kept.

What is stored is clean: names and places have their letters replaced, languages
are in their short form, a head count below zero counts as zero, a grade that is
not a number is no grade, and a grade of zero has no sign.

## Main definitions

* `School.ofCells?`, `Enrolment.ofCells?`, `BacResult.ofCells?`,
  `EvaluationResult.ofCells?`: Reads a row, cleaned.
* `Register.load?`: Loads a text into a table.
-/

namespace SchoolAtlas

open Csv

namespace School

/-- The columns of the directory of schools. -/
def columns : List String :=
  ["id", "judet", "localitate", "nume", "telefon", "email", "strada", "numar"]

/-- Reads a school, cleaned. -/
def ofCells? : List Cell → Option School
  | [id, county, town, name, phone, email, street, number] => do
    return {
      id := ← id.text?
      county := ← county.text?
      town := (← town.optional? some).map Clean.diacritics
      name := Clean.diacritics (← name.text?)
      phone := ← phone.optional? some
      email := ← email.optional? some
      street := (← street.optional? some).map Clean.diacritics
      number := ← number.optional? some }
  | _ => none

end School

namespace Enrolment

/-- The columns of the enrolment statistics. -/
def columns : List String := ["cod_siiir_unitate", "nivel", "limba_de_predare", "numar_elevi"]

/-- Reads an enrolment, cleaned. A head count that is missing is zero. -/
def ofCells? : List Cell → Option Enrolment
  | [school, level, language, students] => do
    return {
      school := ← school.text?
      level := Clean.diacritics (← level.text?)
      language := (← language.optional? some).map Clean.language
      students := max ((← students.optional? integer?).getD 0) 0 }
  | _ => none

end Enrolment

/-- A grade as it is stored. One that is not a number is no grade, and zero is
    stored without a sign. -/
def storedGrade? (x : Float) : Option Float :=
  if x.isNaN then none else if x == 0.0 then some 0.0 else some x

/-- Reads a grade that may be missing. -/
def grade? (cell : Cell) : Option (Option Float) :=
  (cell.optional? real?).map fun grade => grade.bind storedGrade?

namespace BacResult

/-- The columns of the baccalaureate results. -/
def columns : List String :=
  ["school_code", "sex", "profil", "non_romanian_lang", "foreign_lang", "result", "mean_grade"]

/-- Reads a candidate, cleaned. -/
def ofCells? : List Cell → Option BacResult
  | [school, sex, profile, motherTongue, foreignLanguage, result, grade] => do
    return {
      school := ← school.text?
      sex := ← sex.optional? some
      profile := ← profile.optional? some
      motherTongue := (← motherTongue.optional? some).map Clean.language
      foreignLanguage := (← foreignLanguage.optional? some).map Clean.language
      result := ← result.optional? some
      grade := ← grade? grade }
  | _ => none

end BacResult

namespace EvaluationResult

/-- The columns of the results of the national evaluation. -/
def columns : List String :=
  ["school_code", "sex", "ro_grade", "math_grade", "mean_grade", "mean_grade_school"]

/-- Reads a candidate. -/
def ofCells? : List Cell → Option EvaluationResult
  | [school, sex, majorityLanguageGrade, mathematicsGrade, grade, schoolGrade] => do
    return {
      school := ← school.text?
      sex := ← sex.optional? some
      majorityLanguageGrade := ← grade? majorityLanguageGrade
      mathematicsGrade := ← grade? mathematicsGrade
      grade := ← grade? grade
      schoolGrade := ← grade? schoolGrade }
  | _ => none

end EvaluationResult

namespace Register

/-- Reads the records of a table as rows, nothing for one that cannot be read. -/
def readRows (columns : List String) (ofCells? : List Cell → Option α) (text : String) :
    List (Option α) :=
  let table := Csv.table text
  table.records.map fun record => (cells? columns table.header record).bind ofCells?

/-- Loads the directory of schools, unless one of its rows cannot be read. -/
def loadSchools? (r : Register) (text : String) : Option Register :=
  ((readRows School.columns School.ofCells? text).mapM id).map fun schools =>
    { r with schools := schools.foldl putSchool r.schools }

/-- Loads enrolment statistics. -/
def loadEnrolments (r : Register) (text : String) : Register :=
  let rows := (readRows Enrolment.columns Enrolment.ofCells? text).filterMap id
  { r with enrolments := r.enrolments ++ rows }

/-- Loads results of the baccalaureate. -/
def loadBacResults (r : Register) (text : String) : Register :=
  let rows := (readRows BacResult.columns BacResult.ofCells? text).filterMap id
  { r with bacResults := r.bacResults ++ rows }

/-- Loads results of the national evaluation. -/
def loadEvaluationResults (r : Register) (text : String) : Register :=
  let rows := (readRows EvaluationResult.columns EvaluationResult.ofCells? text).filterMap id
  { r with evaluationResults := r.evaluationResults ++ rows }

/-- Loads a text into a table. Only the directory of schools can be refused. -/
def load? (r : Register) : Table → String → Option Register
  | .schools, text => r.loadSchools? text
  | .enrolments, text => some (r.loadEnrolments text)
  | .bacResults, text => some (r.loadBacResults text)
  | .evaluationResults, text => some (r.loadEvaluationResults text)

end Register

end SchoolAtlas
