import SchoolAtlas.Filter.State
import SchoolAtlas.Query.Plan

/-!
# From Filters to Queries

The query that a filter state asks for.

The place is asked for first: without a county the country is shown by county,
with one its towns. What else is asked depends on the data source.

* Enrolments are restricted by level and language. Over schools the two are
  asked independently, unless they have to meet in one row: then every ticked
  level needs a row of its own in one of the ticked languages. Over students the
  rows themselves are restricted, and there level and language always meet.
* Candidates of the baccalaureate are restricted by mother tongue and result,
  as far as something is left out. The majority language is stored as an empty
  column, so picking it asks for that; a row that spells it out is not one of
  its rows.
* Candidates of the national evaluation are not restricted.

A roster asks of the schools of a town what the school map asks of the schools of
a region.

## Main definitions

* `Filter.State.regionQuery`: The map query of a state.
* `Filter.State.rosterQuery?`: The roster query of a state that opens a town.
-/

namespace SchoolAtlas

namespace Filter

namespace State

/-- One condition if there is a choice of values, none if there is not. -/
def choice (column : DetailColumn) (values : List String) : List (Condition DetailColumn) :=
  (Condition.oneOf? column values).toList

/-- Whether level and language have to meet in one row. With either of the two
    unrestricted there is nothing to meet. -/
def isStrict (s : State) : Bool :=
  s.strictLevelLanguage && !s.levels.selected.isEmpty && !s.languages.selected.isEmpty

/-- For every ticked level, a row in one of the ticked languages. -/
def strictConditions (s : State) : List SchoolCondition :=
  s.levels.selected.map fun level =>
    .hasRow ⟨.enrolments, .equals .level level :: choice .language s.languages.selected⟩

/-- Some row of a ticked level, and some row in a ticked language. -/
def independentJoins (s : State) : List Join :=
  let keys (label : String) (column : DetailColumn) (values : List String) : List Join :=
    (Condition.oneOf? column values).toList.map fun c => .keys label ⟨.enrolments, [c]⟩
  keys "lvl" .level s.levels.selected ++ keys "lng" .language s.languages.selected

/-- The enrolments of ticked levels in ticked languages. -/
def enrolmentRows (s : State) : DetailQuery :=
  ⟨.enrolments, choice .level s.levels.selected ++ choice .language s.languages.selected⟩

/-- The condition on the mother tongue of a candidate, if one is left out. -/
def motherTongueCondition? (languages : Selection) : Option (Condition DetailColumn) :=
  languages.restriction?.bind fun picked =>
    let minority? :=
      Condition.oneOf? .motherTongue (picked.filter (· ≠ Catalogue.majorityLanguage))
    if picked.contains Catalogue.majorityLanguage then
      let majority := Condition.isNull .motherTongue
      some <| .grouped <| match minority? with
        | some minority => .either majority minority
        | none => majority
    else minority?

/-- The condition on the result of a candidate, if one is left out. -/
def resultCondition? (results : Selection) : Option (Condition DetailColumn) :=
  results.restriction?.bind (Condition.oneOf? .result)

/-- The candidates of the baccalaureate that are let through. -/
def bacRows (s : State) : DetailQuery :=
  ⟨.bacResults,
    (motherTongueCondition? s.bacLanguages).toList ++ (resultCondition? s.bacResults).toList⟩

/-- The candidates of the national evaluation. -/
def evaluationRows : DetailQuery := ⟨.evaluationResults, []⟩

/-- What keeps a school by its rows: joins of keys. -/
def schoolJoins (s : State) : List Join :=
  match s.source with
  | .general => if s.isStrict then [] else s.independentJoins
  | .bac => [.keys "bac" s.bacRows]
  | .evaluation => [.keys "en" evaluationRows]

/-- What keeps a school by its rows: conditions on it. -/
def schoolConditions (s : State) : List SchoolCondition :=
  match s.source with
  | .general => if s.isStrict then s.strictConditions else []
  | .bac | .evaluation => []

/-- The rows that a map over students is taken over. -/
def studentJoins (s : State) : List Join :=
  match s.source with
  | .general => [.rows "fs" [DetailTable.enrolments.key, "numar_elevi"] s.enrolmentRows]
  | .bac => [.rows "x" [] s.bacRows]
  | .evaluation => [.rows "x" [] evaluationRows]

/-- What a map shows. Enrolments have head counts and no grades, so a map of
    grades shows their students. -/
def measure (source : DataSource) : Statistic → Measure
  | .schools => .distinctSchools
  | .students => if source = .general then .studentSum else .rowCount
  | .grades => if source = .general then .studentSum else .gradeMean

/-- The condition that a school lies in a county. -/
def inCounty (code : String) : SchoolCondition := .column (.equals .county code)

/-- The condition that a school lies in a town. -/
def inTown (name : String) : SchoolCondition := .column (.equals .town name)

/-- The map query of a state. -/
def regionQuery (s : State) (statistic : Statistic) : RegionQuery where
  grouping := if s.county.isSome then .town else .county
  joins := if statistic.overStudents then s.studentJoins else s.schoolJoins
  conditions :=
    s.county.toList.map inCounty
      ++ if statistic.overStudents then [] else s.schoolConditions
  measure := measure s.source statistic

/-- The roster query of a state that opens a town. -/
def rosterQuery? (s : State) : Option RosterQuery :=
  s.openTown?.map fun (code, name) =>
    { joins := .totals :: s.schoolJoins
      conditions := [inCounty code, inTown name] ++ s.schoolConditions }

end State

end Filter

end SchoolAtlas
