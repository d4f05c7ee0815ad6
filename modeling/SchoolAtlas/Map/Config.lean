import SchoolAtlas.Json.Record

/-!
# Map Settings

The colours of a map.

A setting that is not written keeps its default, so a file of settings need only
say what it changes.

## Main definitions

* `MapConfig`: The colours of a map.
* `MapConfig.default`: The colours that a map has unless told otherwise.
* `MapConfig.ofText?`: Reads settings.
-/

namespace SchoolAtlas

/-- The colours of a map. -/
structure MapConfig where
  /-- The colours of the ramp, lowest value first. -/
  ramp : List String
  /-- The colour of regions without a value. -/
  fallbackColour : String
  /-- The colour of a map without any region. -/
  emptyColour : String
deriving DecidableEq, Repr

namespace MapConfig

/-- The colours that a map has unless told otherwise: ten blues, lightest
    first, and two greys. -/
def default : MapConfig where
  ramp :=
    ["#e6f4ff", "#bae0ff", "#91caff", "#69b1ff", "#4096ff", "#1677ff", "#0958d9", "#003eb3",
      "#002c8c", "#001d66"]
  fallbackColour := "#f0f0f0"
  emptyColour := "#ccc"

instance : Inhabited MapConfig := ⟨default⟩

/-- Reads a document as settings. -/
def ofDocument? (document : Json.Document) : Option MapConfig := do
  match ← document.fields? ["ramp", "fallback_color", "empty_color"] with
  | [ramp, fallbackColour, emptyColour] =>
    return {
      ramp := ← ramp.orDefault? default.ramp (Json.Document.items? Json.Document.text?)
      fallbackColour := ← fallbackColour.orDefault? default.fallbackColour Json.Document.text?
      emptyColour := ← emptyColour.orDefault? default.emptyColour Json.Document.text? }
  | _ => none

/-- Reads the text of settings. -/
def ofText? (text : String) : Option MapConfig :=
  (Json.Document.ofText? text).bind ofDocument?

/-- The stored form of settings. -/
def json (c : MapConfig) : Json :=
  .object
    [("ramp", .texts c.ramp), ("fallback_color", .string c.fallbackColour),
      ("empty_color", .string c.emptyColour)]

end MapConfig

end SchoolAtlas
