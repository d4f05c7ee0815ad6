import SchoolAtlas.Query.Plan

/-!
# Query Plans in Writing

The statement that a plan is written as.

The text of a statement follows from the form of its plan alone. The values that
conditions compare with become parameters, and nothing else of the plan is text
that a user could choose.

## Main definitions

* `DetailQuery.statement`: The rows of a detail table.
* `RegionQuery.statement`, `RosterQuery.statement`: The statement of a plan.
* `Query.compiled`: The statement of a plan with its shape.
-/

namespace SchoolAtlas

namespace DetailQuery

/-- The rows that meet the conditions, without any column chosen yet. -/
def statement (q : DetailQuery) : Statement :=
  q.conditions.foldl (fun s c => s.filter (c.fragment DetailColumn.name))
    (.ofTable q.table.table.name)

/-- Whether a school has such a row. -/
def existence (q : DetailQuery) : Fragment :=
  -- The row's key is compared with the school's before anything else is asked.
  let ofSchool := Fragment.raw (q.table.key ++ " = si.id")
  let own := q.conditions.foldl (fun s c => s.filter (c.fragment DetailColumn.name))
    (((Statement.ofTable q.table.table.name).select "1").filter ofSchool)
  own.fragment.rowExists

end DetailQuery

/-- The summary of the enrolments of each school. -/
def totalsStatement : Statement :=
  ((Statement.ofTable Table.enrolments.name).selectAll
    [DetailTable.enrolments.key, "SUM(numar_elevi) AS total_elevi",
      "json_group_array(DISTINCT nivel) AS nivele",
      "json_group_array(DISTINCT limba_de_predare) AS limbi"]).groupBy DetailTable.enrolments.key

/-- A statement with one more join. -/
def Join.addTo (s : Statement) : Join → Statement
  | keys label query =>
    let key := query.table.key
    s.join .inner (query.statement.asDistinct.select key).fragment label
      (label ++ "." ++ key ++ " = si.id")
  | rows label columns query =>
    s.join .inner (query.statement.selectAll columns).fragment label
      (label ++ "." ++ query.table.key ++ " = si.id")
  | totals =>
    s.join .left totalsStatement.fragment "stats"
      ("stats." ++ DetailTable.enrolments.key ++ " = si.id")

/-- The written form of a condition on schools. -/
def SchoolCondition.fragment : SchoolCondition → Fragment
  | column condition => condition.fragment SchoolColumn.name
  | hasRow query => query.existence

/-- The schools, with joins and conditions. -/
def schoolStatement (joins : List Join) (conditions : List SchoolCondition) : Statement :=
  conditions.foldl (fun s c => s.filter c.fragment)
    (joins.foldl Join.addTo (.ofTable (Table.schools.name ++ " si")))

namespace Measure

/-- The value as a column. -/
def expression : Measure → String
  | distinctSchools => "CAST(COUNT(DISTINCT si.id) AS INTEGER) AS school_count"
  | studentSum => "CAST(SUM(fs.numar_elevi) AS INTEGER) AS student_count"
  | rowCount => "CAST(COUNT(*) AS INTEGER) AS student_count"
  | gradeMean =>
    "CAST(AVG(x.mean_grade) FILTER (WHERE x.mean_grade IS NOT NULL) AS REAL) AS mean_grade"

/-- The name of the column. -/
def columnName : Measure → String
  | distinctSchools => "school_count"
  | studentSum | rowCount => "student_count"
  | gradeMean => "mean_grade"

end Measure

namespace RegionQuery

/-- A school's town, with a name for schools that have none. -/
def townKey : String := "COALESCE(si.localitate, 'Unknown')"

/-- The columns that name a region. -/
def keyColumns : Grouping → List String
  | .county => ["si.judet"]
  | .town => ["si.judet", townKey ++ " AS localitate"]

/-- The columns that rows are grouped by. -/
def groupColumns : Grouping → List String
  | .county => ["si.judet"]
  | .town => ["si.judet", townKey]

/-- The statement of a map query. -/
def statement (q : RegionQuery) : Statement :=
  let rows := (schoolStatement q.joins q.conditions).selectAll (keyColumns q.grouping)
  ((groupColumns q.grouping).foldl Statement.groupBy rows).select q.measure.expression

/-- The shape of the rows of a map query. -/
def shape (q : RegionQuery) : RowShape := .regions q.grouping q.measure.columnName

end RegionQuery

namespace RosterQuery

/-- The columns of a roster. -/
def columns : List String :=
  ["si.id", "si.nume", "si.judet", "si.localitate", "si.telefon", "si.email", "si.strada",
    "si.numar", "stats.total_elevi", "stats.nivele", "stats.limbi"]

/-- The statement of a roster query. -/
def statement (q : RosterQuery) : Statement :=
  ((schoolStatement q.joins q.conditions).selectAll columns).orderBy "si.nume"

end RosterQuery

namespace Query

/-- The shape of the rows of a query. -/
def shape : Query → RowShape
  | regions query => query.shape
  | roster _ => .schools

/-- The statement of a query. -/
def statement : Query → Statement
  | regions query => query.statement
  | roster query => query.statement

/-- The statement of a query with its shape, ready to run. -/
def compiled (q : Query) : Compiled := q.statement.compiled q.shape

end Query

end SchoolAtlas
