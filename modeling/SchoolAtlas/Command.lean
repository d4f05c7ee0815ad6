import SchoolAtlas.Command.DataDirectory
import SchoolAtlas.Command.FilterArguments
import SchoolAtlas.Filter.Preset
import SchoolAtlas.Query.Report
import SchoolAtlas.Query.Text

/-!
# Commands

The atlas on the command line.

There are three commands. One writes the statement that a filter state is
compiled to and needs no data. One draws the map of the state, as values, legend
and colours. One lists the schools of the open town. Whatever a command answers
is one JSON value, on as many lines as it takes.

A command line that cannot be read is a matter of usage. One that can be read may
still fail, and then it fails at the first thing that is wrong, in the order in
which the command goes about its work: filters, settings, tables, census, colours.

## Main definitions

* `Command`: What is to be done.
* `Command.ofWords?`: Reads a command line.
* `Command.answer`: The answer of a command.
* `CommandLine.outcome`: What comes of a command line.
-/

namespace SchoolAtlas

/-- What is to be done. -/
inductive Command where
  /-- Write the statement of a map, or that of a roster. -/
  | statement (filters : FilterArguments) (statistic : Statistic) (ofRoster : Bool)
  /-- Draw a map. -/
  | map (directory : String) (filters : FilterArguments) (statistic : Statistic)
      (config : Option String)
  /-- List the schools of a town. -/
  | roster (directory : String) (filters : FilterArguments)
deriving DecidableEq, Repr

/-- Why a command fails. -/
inductive CommandError where
  | presetUnreadable (path : String)
  | presetInvalid (path : String)
  | noTownForStatement
  | noTownForRoster
  | configUnreadable (path : String)
  | configInvalid (path : String)
  | data (e : DataError)
  | colours (e : RampError)
deriving DecidableEq, Repr

/-- The message of an error, if it has one. -/
def CommandError.message? : CommandError → Option String
  | presetUnreadable path => some ("Failed to read filter preset " ++ path)
  | presetInvalid path => some ("Invalid filter preset " ++ path)
  | noTownForStatement => some "The roster query needs --county and --town"
  | noTownForRoster => some "The roster needs --county and --town"
  | configUnreadable path => some ("Failed to read " ++ path)
  | configInvalid path => some ("Invalid map config " ++ path)
  | data e => e.message?
  | colours e => some e.message

namespace Command

/-- The options of a command: those that pick filters, and its own. -/
def vocabulary (parameters : List Parameter) (switches : List Switch) : Vocabulary :=
  ⟨FilterArguments.parameters ++ parameters, FilterArguments.switches ++ switches⟩

/-- The statistic that is given, or that of schools. -/
def statistic? (a : Arguments) : Option Statistic :=
  match a.value? .mapType with
  | some text => Statistic.ofText? text
  | none => some .schools

/-- Reads a command line. -/
def ofWords? : List String → Option Command
  | "sql" :: words => do
    let a ← Arguments.ofWords? (vocabulary [.mapType] [.roster]) words
    return .statement (← FilterArguments.ofArguments? a) (← statistic? a) (a.has .roster)
  | "map" :: words => do
    let a ← Arguments.ofWords? (vocabulary [.dataDir, .mapType, .config] []) words
    return .map (← a.value? .dataDir) (← FilterArguments.ofArguments? a) (← statistic? a)
      (a.value? .config)
  | "roster" :: words => do
    let a ← Arguments.ofWords? (vocabulary [.dataDir] []) words
    return .roster (← a.value? .dataDir) (← FilterArguments.ofArguments? a)
  | _ => none

/-- All paths that a command may look at. -/
def paths : Command → List String
  | statement filters _ _ => filters.preset.toList
  | map directory filters _ config =>
    filters.preset.toList ++ config.toList ++ DataDirectory.paths directory
  | roster directory filters => filters.preset.toList ++ DataDirectory.paths directory

end Command

namespace Files

/-- The state that options start from. -/
def startState (files : Files) (a : FilterArguments) : Except CommandError Filter.State :=
  match a.preset with
  | none => .ok .initial
  | some path =>
    match (files path).text? with
    | none => .error (.presetUnreadable path)
    | some text =>
      match Filter.State.ofPreset? text with
      | some s => .ok s
      | none => .error (.presetInvalid path)

/-- The state that options lead to. -/
def filterState (files : Files) (a : FilterArguments) : Except CommandError Filter.State :=
  (files.startState a).map a.state

/-- The colours of a map. -/
def config (files : Files) : Option String → Except CommandError MapConfig
  | none => .ok .default
  | some path =>
    match (files path).text? with
    | none => .error (.configUnreadable path)
    | some text =>
      match MapConfig.ofText? text with
      | some config => .ok config
      | none => .error (.configInvalid path)

/-- A directory's tables, and a session with its census. -/
def session (files : Files) (directory : String) (config : MapConfig) :
    Except CommandError (Register × Session) := do
  let r ← (files.register directory).mapError .data
  let census ← (files.census directory).mapError .data
  return (r, ← (Session.ofConfig census config).mapError .colours)

end Files

namespace Command

/-- The answer to the question for a statement. -/
def statementAnswer (files : Files) (filters : FilterArguments) (statistic : Statistic)
    (ofRoster : Bool) : Except CommandError Json := do
  let s ← files.filterState filters
  if ofRoster then
    match s.rosterQuery? with
    | some query => return (Query.roster query).compiled.json
    | none => throw .noTownForStatement
  else return (Query.regions (s.regionQuery statistic)).compiled.json

/-- A map with the filters that it was drawn for. -/
def mapJson (s : Filter.State) (v : MapView) : Json :=
  .object
    [("filters", s.json), ("mapType", .string v.statistic.name), ("values", .ofMap .real v.values),
      ("legend", v.legend.json), ("fill", v.fill)]

/-- The answer to the question for a map. -/
def mapAnswer (files : Files) (directory : String) (filters : FilterArguments)
    (statistic : Statistic) (config : Option String) : Except CommandError Json := do
  let s ← files.filterState filters
  let (r, session) ← files.session directory (← files.config config)
  return (mapJson s (session.refresh r s statistic).2).sorted

/-- The answer to the question for a roster. -/
def rosterAnswer (files : Files) (directory : String) (filters : FilterArguments) :
    Except CommandError Json := do
  let s ← files.filterState filters
  match s.openTown? with
  | none => throw .noTownForRoster
  | some (county, town) =>
    let (r, session) ← files.session directory .default
    let profile := match session.townProfile? s with
      | some profile => profile.json
      | none => .null
    return (Json.object
      [("county", .string county), ("town", .string town), ("profile", profile),
        ("schools", .array ((session.roster r s).2.map SchoolRecord.json))]).sorted

/-- The answer of a command. -/
def answer (files : Files) : Command → Except CommandError Json
  | statement filters statistic ofRoster => statementAnswer files filters statistic ofRoster
  | map directory filters statistic config => mapAnswer files directory filters statistic config
  | roster directory filters => rosterAnswer files directory filters

end Command

/-- What comes of a command line. -/
inductive Outcome where
  /-- The command line cannot be read. -/
  | misused
  | failed (e : CommandError)
  | printed (text : String)
deriving DecidableEq, Repr

/-- What comes of a command line. The answer is followed by the end of its last
    line. -/
def CommandLine.outcome (words : List String) (files : Files) : Outcome :=
  match Command.ofWords? words with
  | none => .misused
  | some command =>
    match command.answer files with
    | .ok answer => .printed (answer.pretty ++ "\n")
    | .error e => .failed e

end SchoolAtlas
