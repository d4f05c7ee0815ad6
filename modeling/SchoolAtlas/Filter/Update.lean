import SchoolAtlas.Filter.State

/-!
# Updates of the Filter State

One click, and what it brings with it.

Some updates carry a rule across fields. Another county closes the town. The
school-age population is only a way of counting per capita, so picking it turns
that on and turning that off drops it. An exam needs the level that leads to
it: asking for the exam ticks the level, and unticking the level gives up the
exam.

Each rule looks at the state before the update and acts once. It sets nothing
off in turn, so an update is a plain function from states to states.

## Main definitions

* `Filter.Update`: The kinds of click.
* `Filter.State.apply`: The state after an update.
* `Filter.State.applyAll`: The state after several updates in order.
-/

namespace SchoolAtlas

namespace Filter

/-- The kinds of click. -/
inductive Update where
  | county (code : Option String)
  | town (name : Option String)
  | level (name : String) (ticked : Bool)
  | language (name : String) (ticked : Bool)
  | bacLanguage (name : String) (ticked : Bool)
  | bacResult (name : String) (ticked : Bool)
  | strictLevelLanguage (on : Bool)
  | perCapita (on : Bool)
  | schoolAgeOnly (on : Bool)
  | examDataset (on : Bool)
  | inBacData (on : Bool)
  | inEvaluationData (on : Bool)
  /-- One pick in the menu of sources, which sets both dataset flags. -/
  | source (source : DataSource)
deriving DecidableEq, Repr

namespace State

/-- Shows another county, or the country. A town stays open only if the county
    does not change. -/
def pickCounty (s : State) (code : Option String) : State :=
  { s with county := code, town := if s.county = code then s.town else none }

/-- Opens a town or closes the open one. Only a county that has towns can have
    one of them opened; otherwise nothing happens. -/
def pickTown (s : State) (name : Option String) : State :=
  match s.county, name with
  | _, none => { s with town := none }
  | none, some _ => s
  | some c, some t => if c = Catalogue.capital then s else { s with town := some t }

/-- Ticks or unticks a level. An exam whose level is no longer ticked is given
    up. -/
def tickLevel (s : State) (name : String) (ticked : Bool) : State :=
  let levels := s.levels.set name ticked
  { s with
    levels
    inBacData := s.inBacData && levels.isSelected Catalogue.highSchool
    inEvaluationData := s.inEvaluationData && levels.isSelected Catalogue.middleSchool }

/-- The levels with one of them certainly ticked. -/
def withLevel (levels : Selection) (name : String) : Selection :=
  if levels.isSelected name then levels else levels.set name true

/-- Turns the baccalaureate on, together with its level, or off. -/
def useBac (s : State) (on : Bool) : State :=
  { s with
    inBacData := on
    levels := if on then withLevel s.levels Catalogue.highSchool else s.levels }

/-- Turns the national evaluation on, together with its level, or off. -/
def useEvaluation (s : State) (on : Bool) : State :=
  { s with
    inEvaluationData := on
    levels := if on then withLevel s.levels Catalogue.middleSchool else s.levels }

/-- Turns the exam datasets on, both of them and with their levels. Turning them
    off only takes back the flag. -/
def useExams (s : State) (on : Bool) : State :=
  if on then { (s.useBac true).useEvaluation true with examDataset := true }
  else { s with examDataset := false }

/-- The state after an update. -/
def apply (s : State) : Update → State
  | .county code => s.pickCounty code
  | .town name => s.pickTown name
  | .level name ticked => s.tickLevel name ticked
  | .language name ticked => { s with languages := s.languages.set name ticked }
  | .bacLanguage name ticked => { s with bacLanguages := s.bacLanguages.set name ticked }
  | .bacResult name ticked => { s with bacResults := s.bacResults.set name ticked }
  | .strictLevelLanguage on => { s with strictLevelLanguage := on }
  | .perCapita on => { s with perCapita := on, schoolAgeOnly := s.schoolAgeOnly && on }
  | .schoolAgeOnly on => { s with schoolAgeOnly := on, perCapita := s.perCapita || on }
  | .examDataset on => s.useExams on
  | .inBacData on => s.useBac on
  | .inEvaluationData on => s.useEvaluation on
  | .source source => (s.useBac (source == .bac)).useEvaluation (source == .evaluation)

/-- The state after several updates in order. -/
def applyAll (s : State) (updates : List Update) : State := updates.foldl apply s

end State

end Filter

end SchoolAtlas
