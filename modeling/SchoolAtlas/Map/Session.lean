import SchoolAtlas.Map.Legend
import SchoolAtlas.Query.Compile

/-!
# Map Sessions

Requests and their answers, when answers take their time.

Someone who clicks twice asks twice, and the answer to the first click may come
after the answer to the second. It must then not be shown. Every request
therefore takes a number when it starts, one higher than the last, and an answer
is shown only if no later request has started. Maps and rosters are numbered
apart, since a new map does not make a roster out of date.

A request is a value between its start and its answer, and a session is a value
too: starting a request gives the session after it, and an answer is judged by
the session at the time it comes. An answer that reports a failure counts as an
answer without rows.

A roster without an open town needs no answer. It is empty at once, and yet it
supersedes the rosters asked for before.

## Main definitions

* `Generation`: The number of the last request.
* `Session`: What the answers to requests are shown with.
* `Session.startMap`, `Session.answerMap?`: The two halves of a map request.
* `Session.startRoster`, `Session.answerRoster?`: Those of a roster request.
* `Session.refresh`, `Session.roster`: Requests that a register answers at once.

## Theorems

* `Session.answerMap?_startMap`: An answer that comes at once is shown.
-/

namespace SchoolAtlas

/-- The number of the last request. -/
structure Generation where
  latest : Nat
deriving DecidableEq, Repr, Inhabited

namespace Generation

/-- No request has started. -/
def zero : Generation := ⟨0⟩

/-- Starts a request. Its number is the latest afterwards. -/
def next (g : Generation) : Generation := ⟨g.latest + 1⟩

/-- Whether a request is the last one. -/
def isCurrent (g : Generation) (request : Nat) : Bool := g.latest = request

end Generation

/-- A map as it is shown. -/
structure MapView where
  statistic : Statistic
  values : RegionValues
  legend : Legend
  colours : ColourMatch
deriving Repr

namespace MapView

/-- The colours of the regions as an expression. -/
def fill (v : MapView) : Json := v.colours.expression

/-- The stored form of a map. -/
def json (v : MapView) : Json :=
  .object
    [("map_type", .string v.statistic.name), ("values", .ofMap .real v.values),
      ("legend", v.legend.json), ("colors", v.colours.json)]

end MapView

/-- What the answers to requests are shown with, and the numbers of the last
    requests. -/
structure Session where
  census : Census
  config : MapConfig
  ramp : Ramp Float
  maps : Generation
  rosters : Generation

/-- A map request that waits for its answer. -/
structure MapRequest where
  number : Nat
  filters : Filter.State
  statistic : Statistic
deriving Repr

/-- A roster request that waits for its answer. -/
structure RosterRequest where
  number : Nat
  query : RosterQuery
deriving Repr

/-- The query of a map request. -/
def MapRequest.query (request : MapRequest) : Query :=
  .regions (request.filters.regionQuery request.statistic)

namespace Session

/-- A session without requests. -/
def ofConfig (census : Census) (config : MapConfig) : Except RampError Session :=
  match Ramp.ofTexts config.ramp with
  | .ok ramp => .ok ⟨census, config, ramp, .zero, .zero⟩
  | .error e => .error e

/-- The map that rows make. -/
def view (s : Session) (filters : Filter.State) (statistic : Statistic) (rows : List RegionRow) :
    MapView :=
  let values := normalize rows filters s.census
  let bounds := Bounds.ofValues values
  { statistic
    values
    legend := .ofMap filters statistic bounds s.ramp
    colours := .ofValues values (colourProperty filters) s.ramp bounds s.config }

/-- Starts a map request. -/
def startMap (s : Session) (filters : Filter.State) (statistic : Statistic) :
    Session × MapRequest :=
  let maps := s.maps.next
  ({ s with maps }, ⟨maps.latest, filters, statistic⟩)

/-- The map of an answer. A failure shows a map without values. -/
def mapOf (s : Session) (request : MapRequest) (answer : Except QueryError (List RegionRow)) :
    MapView :=
  s.view request.filters request.statistic (answer.toOption.getD [])

/-- The map of an answer, unless a later map has been asked for. -/
def answerMap? (s : Session) (request : MapRequest)
    (answer : Except QueryError (List RegionRow)) : Option MapView :=
  if s.maps.isCurrent request.number then some (s.mapOf request answer) else none

/-- Starts a roster request. Without an open town there is nothing to wait for. -/
def startRoster (s : Session) (filters : Filter.State) : Session × Option RosterRequest :=
  let rosters := s.rosters.next
  ({ s with rosters }, filters.rosterQuery?.map fun query => ⟨rosters.latest, query⟩)

/-- The schools of an answer. A failure shows none. -/
def schoolsOf (answer : Except QueryError (List SchoolRecord)) : List SchoolRecord :=
  answer.toOption.getD []

/-- The schools of an answer, unless a later roster has been asked for. -/
def answerRoster? (s : Session) (request : RosterRequest)
    (answer : Except QueryError (List SchoolRecord)) : Option (List SchoolRecord) :=
  if s.rosters.isCurrent request.number then some (schoolsOf answer) else none

/-- Asks a register for a map. The answer is there at once, so nothing supersedes
    it. -/
def refresh (s : Session) (r : Register) (filters : Filter.State) (statistic : Statistic) :
    Session × MapView :=
  let (s, request) := s.startMap filters statistic
  (s, s.mapOf request (r.regionRows request.query))

/-- Asks a register for a roster. -/
def roster (s : Session) (r : Register) (filters : Filter.State) :
    Session × List SchoolRecord :=
  let (s, request?) := s.startRoster filters
  match request? with
  | some request => (s, schoolsOf (r.schoolRecords (.roster request.query)))
  | none => (s, [])

/-- A map whose answer comes before any other request is shown. -/
theorem answerMap?_startMap (s : Session) (filters : Filter.State) (statistic : Statistic)
    (answer : Except QueryError (List RegionRow)) :
    (s.startMap filters statistic).1.answerMap? (s.startMap filters statistic).2 answer
      = some ((s.startMap filters statistic).1.mapOf (s.startMap filters statistic).2 answer) := by
  simp only [answerMap?, startMap, Generation.isCurrent, decide_true, if_true]

/-- The age profile of the open town. -/
def townProfile? (s : Session) (filters : Filter.State) : Option TownProfile :=
  s.census.profile? filters

end Session

end SchoolAtlas
