import SchoolAtlas.Filter.Update
import SchoolAtlas.Json.Record

/-!
# Stored Filter States

The JSON form of a filter state, and reading it back.

A state is stored as an object with one member for each field. A stored state
need not be complete: a field that is missing or `null` is as it was at the
start. So is a whole selection, whereas a selection that is written replaces the
initial one entirely, names and all.

One field is checked on the way in. The town is picked as a click would pick it,
after everything else is in place, so a town without a county is dropped. The
flags are taken as they are written.

## Main definitions

* `Filter.State.json`: The stored form of a state.
* `Filter.Preset`: What a stored state says.
* `Filter.Preset.state`: The state that a preset stands for.
* `Filter.State.ofPreset?`: Reads the text of a preset.
* `DataSource.ofJson?`, `Statistic.ofJson?`: Reads stored names.
-/

namespace SchoolAtlas

/-- Reads the stored name of a source. -/
def DataSource.ofJson? (text : String) : Option DataSource :=
  ((Json.Document.ofText? text).bind Json.Document.choice?).bind fun name =>
    all.find? (fun s => s.name = name)

/-- Reads the stored name of a statistic. -/
def Statistic.ofJson? (text : String) : Option Statistic :=
  ((Json.Document.ofText? text).bind Json.Document.choice?).bind ofText?

namespace Selection

/-- The stored form of a selection: each listed name with its tick. -/
def json (s : Selection) : Json := .ofMap .bool s.ticks

/-- Reads a stored selection. -/
def ofDocument? (document : Json.Document) : Option Selection :=
  (document.entries? Json.Document.bool?).map Selection.mk

/-- Reads the text of a stored selection. -/
def ofJson? (text : String) : Option Selection :=
  (Json.Document.ofText? text).bind ofDocument?

end Selection

namespace Filter

/-- The names of the fields of a stored state, in their fixed order. -/
def fieldNames : List String :=
  ["county", "town", "levels", "languages", "bacLanguages", "bacResults",
    "strictLevelLanguage", "perCapita", "schoolAgeOnly", "examDataset", "inBacData",
    "inEvaluareData"]

namespace State

/-- The stored values of the fields of a state, in their fixed order. -/
def fieldValues (s : State) : List Json :=
  [.ofText? s.county, .ofText? s.town, s.levels.json, s.languages.json, s.bacLanguages.json,
    s.bacResults.json, .bool s.strictLevelLanguage, .bool s.perCapita, .bool s.schoolAgeOnly,
    .bool s.examDataset, .bool s.inBacData, .bool s.inEvaluationData]

/-- The stored form of a state. -/
def json (s : State) : Json := .object (fieldNames.zip s.fieldValues)

end State

/-- What a stored state says. A field that it does not say is empty. -/
structure Preset where
  county : Option String
  town : Option String
  levels : Option Selection
  languages : Option Selection
  bacLanguages : Option Selection
  bacResults : Option Selection
  strictLevelLanguage : Option Bool
  perCapita : Option Bool
  schoolAgeOnly : Option Bool
  examDataset : Option Bool
  inBacData : Option Bool
  inEvaluationData : Option Bool
deriving DecidableEq, Repr

namespace Preset

/-- Reads the fields of a preset in their fixed order. -/
def ofFields? : List Json.Field → Option Preset
  | [county, town, levels, languages, bacLanguages, bacResults, strictLevelLanguage, perCapita,
      schoolAgeOnly, examDataset, inBacData, inEvaluationData] => do
    return {
      county := ← county.optional? Json.Document.text?
      town := ← town.optional? Json.Document.text?
      levels := ← levels.optional? Selection.ofDocument?
      languages := ← languages.optional? Selection.ofDocument?
      bacLanguages := ← bacLanguages.optional? Selection.ofDocument?
      bacResults := ← bacResults.optional? Selection.ofDocument?
      strictLevelLanguage := ← strictLevelLanguage.optional? Json.Document.bool?
      perCapita := ← perCapita.optional? Json.Document.bool?
      schoolAgeOnly := ← schoolAgeOnly.optional? Json.Document.bool?
      examDataset := ← examDataset.optional? Json.Document.bool?
      inBacData := ← inBacData.optional? Json.Document.bool?
      inEvaluationData := ← inEvaluationData.optional? Json.Document.bool? }
  | _ => none

/-- Reads a document as a preset. -/
def ofDocument? (document : Json.Document) : Option Preset :=
  (document.fields? fieldNames).bind ofFields?

/-- The state that a preset stands for before its town is picked. -/
def withoutTown (p : Preset) : State where
  county := p.county
  town := none
  levels := p.levels.getD State.initial.levels
  languages := p.languages.getD State.initial.languages
  bacLanguages := p.bacLanguages.getD State.initial.bacLanguages
  bacResults := p.bacResults.getD State.initial.bacResults
  strictLevelLanguage := p.strictLevelLanguage.getD false
  perCapita := p.perCapita.getD false
  schoolAgeOnly := p.schoolAgeOnly.getD false
  examDataset := p.examDataset.getD false
  inBacData := p.inBacData.getD false
  inEvaluationData := p.inEvaluationData.getD false

/-- The state that a preset stands for. Its town is picked as a click would pick
    it. -/
def state (p : Preset) : State := p.withoutTown.apply (.town p.town)

end Preset

namespace State

/-- Reads a document as a stored state. -/
def ofDocument? (document : Json.Document) : Option State :=
  (Preset.ofDocument? document).map Preset.state

/-- Reads the text of a stored state. -/
def ofPreset? (text : String) : Option State :=
  (Json.Document.ofText? text).bind ofDocument?

end State

end Filter

end SchoolAtlas
