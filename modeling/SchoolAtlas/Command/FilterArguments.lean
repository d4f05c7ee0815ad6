import SchoolAtlas.Command.Arguments
import SchoolAtlas.Filter.Update

/-!
# Filters on the Command Line

The options that pick what every command is about.

The options act like clicks. They are applied one after the other to the state of
a preset, or to the initial state without one, and each has the effects that the
click has. A source given as an option therefore ticks its level, even when the
levels are given too.

A list of names replaces a menu: the names given are ticked, and then every other
name of the menu is unticked. The clicks that do this are worked out from the
state before any option, whose menus they replace.

## Main definitions

* `FilterArguments`: What the options pick.
* `FilterArguments.ofArguments?`: Takes the options from the command line.
* `FilterArguments.updates`: The clicks that the options stand for.
* `FilterArguments.state`: The state that the options lead to.
-/

namespace SchoolAtlas

/-- What the options pick. -/
structure FilterArguments where
  /-- The file of the preset to start from. -/
  preset : Option String
  county : Option String
  town : Option String
  levels : List String
  languages : List String
  bacLanguages : List String
  bacResults : List String
  strict : Bool
  perCapita : Bool
  schoolAgeOnly : Bool
  examDataset : Bool
  source : Option DataSource
deriving DecidableEq, Repr, Inhabited

namespace FilterArguments

/-- The options that take a value. -/
def parameters : List Parameter :=
  [.filters, .county, .town, .level, .language, .bacLanguage, .bacResult, .source]

/-- The options that stand for themselves. -/
def switches : List Switch := [.strict, .perCapita, .schoolAgeOnly, .examDataset]

/-- Takes the options from the command line, unless the source has no such name. -/
def ofArguments? (a : Arguments) : Option FilterArguments := do
  return {
    preset := a.value? .filters
    county := a.value? .county
    town := a.value? .town
    levels := a.valuesOf .level
    languages := a.valuesOf .language
    bacLanguages := a.valuesOf .bacLanguage
    bacResults := a.valuesOf .bacResult
    strict := a.has .strict
    perCapita := a.has .perCapita
    schoolAgeOnly := a.has .schoolAgeOnly
    examDataset := a.has .examDataset
    source := ← (a.value? .source).mapM DataSource.ofText? }

/-- The clicks that replace the ticks of a menu by the names given, if any is. -/
def replacement (given : List String) (menu : Selection)
    (update : String → Bool → Filter.Update) : List Filter.Update :=
  if given.isEmpty then []
  else
    given.map (update · true) ++ (menu.names.filter (!given.contains ·)).map (update · false)

/-- A click, if an option asks for it. -/
def clickIf (on : Bool) (update : Filter.Update) : List Filter.Update :=
  if on then [update] else []

/-- The clicks that the options stand for, in the state that they start from. -/
def updates (a : FilterArguments) (start : Filter.State) : List Filter.Update :=
  clickIf a.county.isSome (.county a.county)
    ++ clickIf a.town.isSome (.town a.town)
    ++ replacement a.levels start.levels .level
    ++ replacement a.languages start.languages .language
    ++ replacement a.bacLanguages start.bacLanguages .bacLanguage
    ++ replacement a.bacResults start.bacResults .bacResult
    ++ clickIf a.strict (.strictLevelLanguage true)
    ++ clickIf a.perCapita (.perCapita true)
    ++ clickIf a.schoolAgeOnly (.schoolAgeOnly true)
    ++ clickIf a.examDataset (.examDataset true)
    ++ a.source.toList.map .source

/-- The state that the options lead to from another. -/
def state (a : FilterArguments) (start : Filter.State) : Filter.State :=
  start.applyAll (a.updates start)

end FilterArguments

end SchoolAtlas
