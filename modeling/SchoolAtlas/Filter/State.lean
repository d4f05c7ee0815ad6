import SchoolAtlas.Catalogue
import SchoolAtlas.Selection

/-!
# Filter States

Everything that has been picked on the map: the place shown, the ticks of the
four menus, and the flags that choose a dataset and a way of counting.

A state is plain data. Which combinations make sense is a rule about states,
`Filter.State.Consistent`, and not part of the type, because a stored state is
taken as it was written: only its town is checked on the way in.

Two flags choose the data source, and both may be on at once. The
baccalaureate then has precedence.

## Main definitions

* `Filter.State`: What has been picked.
* `Filter.State.initial`: The state before anything has been picked.
* `Filter.State.openTown?`: County and town of the open detail view.
* `Filter.State.source`: The dataset that answers for the state.
* `Filter.State.Consistent`: The combinations that interaction leads to.
* `DataSource`, `Statistic`: The datasets and the statistics shown.
-/

namespace SchoolAtlas

/-- The datasets that a map can be drawn from. -/
inductive DataSource where
  /-- Enrolment statistics. -/
  | general
  /-- Results of the baccalaureate. -/
  | bac
  /-- Results of the national evaluation. -/
  | evaluation
deriving DecidableEq, Repr, Inhabited

namespace DataSource

/-- The name under which a source is stored. -/
def name : DataSource → String
  | general => "general"
  | bac => "bac"
  | evaluation => "evaluare"

/-- The sources in the order in which a menu lists them. -/
def all : List DataSource := [general, bac, evaluation]

/-- Reads a source as it is typed. The evaluation has a short form. -/
def ofText? (text : String) : Option DataSource :=
  if text = "en" then some evaluation else all.find? (fun s => s.name = text)

/-- The message about a text that names no source. -/
def unknown (text : String) : String :=
  "unknown data source '" ++ text ++ "' (general, bac, en)"

end DataSource

/-- The statistics that a map can show. -/
inductive Statistic where
  /-- Distinct schools. -/
  | schools
  /-- Enrolled students or candidates. -/
  | students
  /-- Mean grades. -/
  | grades
deriving DecidableEq, Repr, Inhabited

namespace Statistic

/-- The name of a statistic, which also titles its legend. -/
def name : Statistic → String
  | schools => "schools"
  | students => "students"
  | grades => "grades"

/-- The statistics in the order in which a menu lists them. -/
def all : List Statistic := [schools, students, grades]

/-- Reads a statistic as it is typed. -/
def ofText? (text : String) : Option Statistic := all.find? (fun s => s.name = text)

/-- The message about a text that names no statistic. -/
def unknown (text : String) : String :=
  "unknown map type '" ++ text ++ "' (" ++ ", ".intercalate (all.map name) ++ ")"

/-- Whether a statistic is taken over rows of students instead of over schools. -/
def overStudents : Statistic → Bool
  | schools => false
  | students | grades => true

end Statistic

namespace Filter

/-- What has been picked on the map. -/
structure State where
  /-- The county shown; without one the map shows the country. -/
  county : Option String
  /-- The town whose detail view is open. -/
  town : Option String
  levels : Selection
  languages : Selection
  bacLanguages : Selection
  bacResults : Selection
  /-- Level and language have to meet in one enrolment row. -/
  strictLevelLanguage : Bool
  perCapita : Bool
  /-- Per capita of the school-age population alone. -/
  schoolAgeOnly : Bool
  examDataset : Bool
  inBacData : Bool
  inEvaluationData : Bool
deriving DecidableEq, Repr

namespace State

/-- The state before anything has been picked: the country, with the main
    levels and everything in the other menus ticked. -/
def initial : State where
  county := none
  town := none
  levels := .ofNames Catalogue.levels (Catalogue.mainLevels.contains ·)
  languages := .all Catalogue.languages
  bacLanguages := .all Catalogue.bacLanguages
  bacResults := .all Catalogue.bacResults
  strictLevelLanguage := false
  perCapita := false
  schoolAgeOnly := false
  examDataset := false
  inBacData := false
  inEvaluationData := false

instance : Inhabited State := ⟨initial⟩

/-- County and town, if a detail view is open. -/
def openTown? (s : State) : Option (String × String) :=
  match s.county, s.town with
  | some county, some town => some (county, town)
  | _, _ => none

/-- The dataset that answers for the state. With both flags on the baccalaureate
    has precedence. -/
def source (s : State) : DataSource :=
  if s.inBacData then .bac else if s.inEvaluationData then .evaluation else .general

/-- The combinations that interaction leads to. A town belongs to a county that
    has towns, the school-age population is a way of counting per capita, and an
    exam goes with the level that leads to it. -/
structure Consistent (s : State) : Prop where
  town_county : s.town.isSome → ∃ c, s.county = some c ∧ c ≠ Catalogue.capital
  schoolAge_perCapita : s.schoolAgeOnly = true → s.perCapita = true
  bac_level : s.inBacData = true → s.levels.isSelected Catalogue.highSchool = true
  evaluation_level :
    s.inEvaluationData = true → s.levels.isSelected Catalogue.middleSchool = true

end State

end Filter

end SchoolAtlas
