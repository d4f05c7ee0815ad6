import SchoolAtlas.NameMap
import SchoolAtlas.Query.Aggregate
import SchoolAtlas.Query.Extent

/-!
# Answers

What a register answers to a query plan.

The schools are visited in their order. A school that lies in the place asked for
makes one row, and the joins then multiply rows, drop them or add to them, one
join after the other. Conditions on the rows of a school are looked at last, as
far as there is room. The rows of a map query are put into groups, one for each
region that has a row, and each group collapses into a value. A region whose
value is empty is left out, which only a mean of grades can be.

A sum that leaves the range of words fails the whole query, whichever region it
belongs to. The totals of a roster are taken for all schools at once, as soon as
one row asks for them, and fail in the same way. A query that is too large is not
answered at all.

## Main definitions

* `RegionRow`, `SchoolRecord`: The rows of the two kinds of answer.
* `Register.rows?`: The rows that conditions and joins make of the schools.
* `RegionQuery.answer?`, `RosterQuery.answer?`: The answer to a plan.
* `Register.regionRows`, `Register.schoolRecords`, `Register.countRows`: Answers,
  with the errors of asking the wrong question.
-/

namespace SchoolAtlas

/-- The value of one region. -/
structure RegionRow where
  county : String
  /-- The town, in a map of one county. -/
  town : Option String
  value : Amount
deriving Repr, Inhabited

/-- The name of the region on the map: the town if there is one, else the county. -/
def RegionRow.key (row : RegionRow) : String := row.town.getD row.county

/-- A school in the roster of a town. -/
structure SchoolRecord where
  id : String
  name : String
  county : String
  town : String
  /-- The languages of its enrolments, each once and in order. -/
  languages : List String
  /-- The levels of its enrolments, each once and in order. -/
  levels : List String
  /-- The students of all its enrolments. -/
  totalStudents : Nat
  phone : Option String
  email : Option String
  street : Option String
  number : Option String
deriving DecidableEq, Repr, Inhabited

/-- The summary of a school's enrolments. -/
structure EnrolmentTotals where
  students : Int
  levels : List String
  languages : List String
deriving DecidableEq, Repr, Inhabited

/-- The texts of a list, each once and in order. -/
def distinctInOrder (texts : List String) : List String :=
  (NameMap.ofList (texts.map (fun t => (t, ())))).names

namespace EnrolmentTotals

/-- The summary of enrolments, if their sum fits a word. -/
def ofEnrolments? (enrolments : List Enrolment) : Option EnrolmentTotals :=
  (sumOfWords? (enrolments.map Enrolment.students)).map fun students =>
    { students
      levels := distinctInOrder (enrolments.map Enrolment.level)
      languages := distinctInOrder (enrolments.filterMap Enrolment.language) }

end EnrolmentTotals

/-- A row of a query: a school with what has been joined to it. -/
structure SchoolRow where
  school : School
  detail : Option Detail
  totals : Option EnrolmentTotals
deriving Repr, Inhabited

namespace DetailQuery

/-- The rows of a register that meet the conditions. -/
def details (q : DetailQuery) (r : Register) : List Detail :=
  (r.details q.table).filter (fun d => Condition.allHold d.text q.conditions)

/-- The rows of one school among them. -/
def detailsOf (details : List Detail) (id : String) : List Detail :=
  details.filter (fun d => d.school = id)

end DetailQuery

namespace Register

/-- The summaries of the enrolments of all schools, if all sums fit a word. -/
def totals? (r : Register) : Option (List (String × EnrolmentTotals)) :=
  (r.enrolments.map Enrolment.school).eraseDups.mapM fun id =>
    (EnrolmentTotals.ofEnrolments? (r.enrolments.filter (fun e => e.school = id))).map
      fun totals => (id, totals)

end Register

namespace Join

/-- Joins to rows. -/
def extend? (r : Register) (rows : List SchoolRow) : Join → Option (List SchoolRow)
  | keys _ query =>
    let details := query.details r
    some <| rows.flatMap fun row =>
      ((DetailQuery.detailsOf details row.school.id).map Detail.school).eraseDups.map fun _ => row
  | .rows _ _ query =>
    let details := query.details r
    some <| rows.flatMap fun row =>
      (DetailQuery.detailsOf details row.school.id).map fun d => { row with detail := some d }
  | totals =>
    if rows.isEmpty then some []
    else r.totals?.map fun totals =>
      rows.map fun row => { row with totals := totals.lookup row.school.id }

end Join

namespace SchoolCondition

/-- Whether a school meets a condition. -/
def holds (r : Register) (s : School) : SchoolCondition → Bool
  | column condition => condition.truth s.text == some true
  | hasRow query => !(DetailQuery.detailsOf (query.details r) s.id).isEmpty

end SchoolCondition

/-- The rows that conditions and joins make of the schools. -/
def Register.rows? (r : Register) (conditions : List SchoolCondition) (joins : List Join) :
    Option (List SchoolRow) :=
  let first := SchoolCondition.immediate joins conditions
  let last := SchoolCondition.tabled joins conditions
  let schools := r.visits.filter fun s => first.all (SchoolCondition.holds r s)
  ((Join.inOrder joins).foldlM (Join.extend? r) (schools.map fun s => ⟨s, none, none⟩)).map
    fun rows => rows.filter fun row => last.all (SchoolCondition.holds r row.school)

/-- The rows of a table that meet the conditions, each with its school, in the
    order of the table. A row of no school is left out. -/
def DetailQuery.rows (q : DetailQuery) (r : Register) : List SchoolRow :=
  (q.details r).filterMap fun d =>
    (r.schools.find? (fun s => s.id = d.school)).map fun s => ⟨s, some d, none⟩

namespace RegionQuery

/-- The town under which schools of no town are counted. -/
def unknownTown : String := "Unknown"

/-- The region of a row. -/
def region (grouping : Grouping) (row : SchoolRow) : String × Option String :=
  (row.school.county,
    match grouping with
    | .county => none
    | .town => some (row.school.town.getD unknownTown))

/-- Whether one region is listed before another. -/
def listedBefore (a b : String × Option String) : Bool :=
  if a.1 = b.1 then a.2.getD "" ≤ b.2.getD "" else a.1 < b.1

/-- The regions of rows, each once and in order. -/
def regions (grouping : Grouping) (rows : List SchoolRow) : List (String × Option String) :=
  (rows.map (region grouping)).eraseDups.mergeSort listedBefore

end RegionQuery

namespace Measure

/-- The value of a group of rows: nothing if it cannot be computed, and an empty
    value if there is nothing to compute it from. -/
def value? (rows : List SchoolRow) : Measure → Option (Option Amount)
  | distinctSchools =>
    some (some (.count (rows.map (fun row => row.school.id)).eraseDups.length))
  | studentSum =>
    (sumOfWords? (rows.filterMap (fun row => row.detail.map Detail.students))).map fun sum =>
      some (.count sum)
  | rowCount => some (some (.count rows.length))
  | gradeMean =>
    some ((meanOfGrades? (rows.filterMap (fun row => row.detail.bind Detail.grade))).map .mean)

end Measure

namespace RegionQuery

/-- The rows that a map query is taken over. -/
def rows? (q : RegionQuery) (r : Register) : Option (List SchoolRow) :=
  match q.leading? with
  | some leading => some (leading.rows r)
  | none => r.rows? q.conditions q.joins

/-- The answer to a map query, by county and town. -/
def answer? (q : RegionQuery) (r : Register) : Option (List RegionRow) :=
  (q.rows? r).bind fun rows =>
    ((regions q.grouping rows).mapM fun key =>
      (q.measure.value? (rows.filter (fun row => region q.grouping row = key))).map fun value =>
        value.map fun amount => RegionRow.mk key.1 key.2 amount).map fun values =>
          values.filterMap id

end RegionQuery

namespace SchoolRow

/-- A row as a record of the roster. -/
def record (row : SchoolRow) : SchoolRecord where
  id := row.school.id
  name := row.school.name
  county := row.school.county
  town := row.school.town.getD ""
  languages := (row.totals.map EnrolmentTotals.languages).getD []
  levels := (row.totals.map EnrolmentTotals.levels).getD []
  totalStudents := ((row.totals.map EnrolmentTotals.students).getD 0).toNat
  phone := row.school.phone
  email := row.school.email
  street := row.school.street
  number := row.school.number

end SchoolRow

namespace RosterQuery

/-- Whether one school may be listed before another: by name. -/
def listedBefore (a b : SchoolRecord) : Bool := a.name ≤ b.name

/-- The answer to a roster query, by name. Schools of one name stay in the order of
    visits. -/
def answer? (q : RosterQuery) (r : Register) : Option (List SchoolRecord) :=
  (r.rows? q.conditions q.joins).map fun rows =>
    (rows.map SchoolRow.record).mergeSort listedBefore

end RosterQuery

/-- What can go wrong with a question. -/
inductive QueryError where
  /-- Regions were asked for by a query of another shape. -/
  | regionsExpected (got : RowShape)
  /-- Schools were asked for by a query of another shape. -/
  | schoolsExpected (got : RowShape)
  /-- There is no table of the name. -/
  | unknownTable (name : String)
  /-- The query is too large to be asked. -/
  | tooLarge
  /-- A sum left the range of words. -/
  | overflow
deriving DecidableEq, Repr

namespace Register

/-- The regions that a query asks for. -/
def regionRows (r : Register) : Query → Except QueryError (List RegionRow)
  | .roster query => .error (.regionsExpected (Query.roster query).shape)
  | .regions query =>
    if (Query.regions query).Fits then
      match query.answer? r with
      | some rows => .ok rows
      | none => .error .overflow
    else .error .tooLarge

/-- The schools that a query asks for. -/
def schoolRecords (r : Register) : Query → Except QueryError (List SchoolRecord)
  | .regions query => .error (.schoolsExpected query.shape)
  | .roster query =>
    if (Query.roster query).Fits then
      match query.answer? r with
      | some records => .ok records
      | none => .error .overflow
    else .error .tooLarge

/-- The number of rows in the table of a name. -/
def countRows (r : Register) (name : String) : Except QueryError Nat :=
  match Table.ofName? name with
  | some table => .ok (r.rowCount table)
  | none => .error (.unknownTable name)

end Register

end SchoolAtlas
