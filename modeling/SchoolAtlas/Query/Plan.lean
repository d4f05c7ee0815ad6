import SchoolAtlas.Query.Condition
import SchoolAtlas.Register

/-!
# Query Plans

The queries that the atlas asks, before they are put into words.

Every query starts from the schools. It keeps those in one place and joins rows
of the detail tables to them, in one of three ways. Joining the keys of a table
keeps the schools that have some row there and changes nothing else: the keys
are distinct, so a school is not repeated. Joining the rows themselves gives one
row for each, over which something can be counted or averaged. Joining the
totals of the enrolment table adds a summary where there is one.

A map query then collapses the rows of each region into one value. A roster
query shows the rows as they are, by the name of the school.

A plan is a value on its own. It can be written as a statement and it can be
answered from a register, and the two readings are separate functions.

## Main definitions

* `Detail`: The detail tables, and what their rows show to a query.
* `Join`, `SchoolCondition`: What a query joins to a school and asks of it.
* `RegionQuery`, `RosterQuery`: The two kinds of query.
* `Query`: A query of either kind.
-/

namespace SchoolAtlas

/-- The tables whose rows belong to schools. -/
inductive DetailTable where
  | enrolments
  | bacResults
  | evaluationResults
deriving DecidableEq, Repr, Inhabited

namespace DetailTable

/-- The table among all tables. -/
def table : DetailTable → Table
  | enrolments => .enrolments
  | bacResults => .bacResults
  | evaluationResults => .evaluationResults

/-- The column that names the school. -/
def key : DetailTable → String
  | enrolments => "cod_siiir_unitate"
  | bacResults | evaluationResults => "school_code"

end DetailTable

/-- The columns of the detail tables that conditions are about. -/
inductive DetailColumn where
  | level
  | language
  | motherTongue
  | result
deriving DecidableEq, Repr, Inhabited

/-- The name of a column in statements. -/
def DetailColumn.name : DetailColumn → String
  | level => "nivel"
  | language => "limba_de_predare"
  | motherTongue => "non_romanian_lang"
  | result => "result"

/-- What a row of a detail table shows to a query. A column that the row's table
    does not have is empty. -/
structure Detail where
  school : String
  level : Option String
  language : Option String
  motherTongue : Option String
  result : Option String
  /-- The head count of the row. -/
  students : Int
  grade : Option Float
deriving Repr, Inhabited

namespace Detail

/-- What a row has in a column. -/
def text (d : Detail) : DetailColumn → Option String
  | .level => d.level
  | .language => d.language
  | .motherTongue => d.motherTongue
  | .result => d.result

/-- What an enrolment shows. -/
def ofEnrolment (e : Enrolment) : Detail :=
  ⟨e.school, some e.level, e.language, none, none, e.students, none⟩

/-- What a candidate of the baccalaureate shows. -/
def ofBacResult (b : BacResult) : Detail :=
  ⟨b.school, none, none, b.motherTongue, b.result, 0, b.grade⟩

/-- What a candidate of the national evaluation shows. -/
def ofEvaluationResult (e : EvaluationResult) : Detail :=
  ⟨e.school, none, none, none, none, 0, e.grade⟩

end Detail

/-- The rows of a detail table as a query sees them. -/
def Register.details (r : Register) : DetailTable → List Detail
  | .enrolments => r.enrolments.map Detail.ofEnrolment
  | .bacResults => r.bacResults.map Detail.ofBacResult
  | .evaluationResults => r.evaluationResults.map Detail.ofEvaluationResult

/-- Rows of a detail table that meet several conditions. -/
structure DetailQuery where
  table : DetailTable
  conditions : List (Condition DetailColumn)
deriving DecidableEq, Repr

/-- What is joined to a school. -/
inductive Join where
  /-- The distinct keys of some rows: the school stays if its key is among them. -/
  | keys (label : String) (query : DetailQuery)
  /-- Some rows with the named columns, or with all columns if none is named. -/
  | rows (label : String) (columns : List String) (query : DetailQuery)
  /-- The summary of the school's enrolments, if it has any. -/
  | totals
deriving DecidableEq, Repr

/-- The columns of a school that conditions are about. -/
inductive SchoolColumn where
  | county
  | town
deriving DecidableEq, Repr, Inhabited

/-- The name of a column in statements. -/
def SchoolColumn.name : SchoolColumn → String
  | county => "si.judet"
  | town => "si.localitate"

/-- What a school has in a column. -/
def School.text (s : School) : SchoolColumn → Option String
  | .county => some s.county
  | .town => s.town

/-- What is asked of a school. -/
inductive SchoolCondition where
  | column (condition : Condition SchoolColumn)
  /-- Some row of the school meets several conditions. -/
  | hasRow (query : DetailQuery)
deriving DecidableEq, Repr

/-- The value that the rows of a region collapse into. -/
inductive Measure where
  /-- How many schools there are. -/
  | distinctSchools
  /-- The head counts added up. -/
  | studentSum
  /-- How many rows there are. -/
  | rowCount
  /-- The mean of the grades, over the rows that have one. -/
  | gradeMean
deriving DecidableEq, Repr, Inhabited

/-- A query for one value per region. -/
structure RegionQuery where
  grouping : Grouping
  joins : List Join
  conditions : List SchoolCondition
  measure : Measure
deriving DecidableEq, Repr

/-- A query for the schools of a town. -/
structure RosterQuery where
  joins : List Join
  conditions : List SchoolCondition
deriving DecidableEq, Repr

/-- A query of either kind. -/
inductive Query where
  | regions (query : RegionQuery)
  | roster (query : RosterQuery)
deriving DecidableEq, Repr

end SchoolAtlas
