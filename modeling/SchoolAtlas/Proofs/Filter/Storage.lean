import SchoolAtlas.Filter.Preset
import SchoolAtlas.Proofs.Filter.Consistency
import SchoolAtlas.Proofs.Json.Rereading

/-!
# Filter States Read Back

What becomes of a state that is stored and read again, with all of its fields or with some.

Writing and reading are not each other's inverse by construction. A state is written as it is,
field by field. It is read by way of a preset, whose fields may all be missing, and whose town is
picked after everything else. So there is a preset in the middle that says which fields were kept
(`Preset.ofKept`), and two things to be shown: that what was written is read as this preset, which
goes field by field and does not look at which fields are kept, and that the preset stands for the
right state.

The right state has the missing fields as they were at the start, and then its town only if the
county has towns (`State.settled`). Leaving out the county therefore also loses the town, although
the town was written. For a whole state that clicks have led to, settling changes nothing, since
clicks open a town nowhere else.

## Main definitions

* `Json.without`: An object without its members of some names.
* `Filter.State.reset`: Some fields are as they were at the start.
* `Filter.State.settled`: The town is kept only in a county that has towns.
* `Filter.Preset.ofKept`: What a stored state says of which some fields are kept.

## Theorems

* `Filter.State.rereads_without`: What is left of a stored state can be read.
* `Filter.Preset.ofDocument?_kept`: It is read as what was kept.
* `Filter.Preset.state_ofKept`: The state that this stands for.
* `Filter.State.stored_reads_back`: Stored states are read back, whole or in part.
-/

namespace SchoolAtlas

/-- An object without its members of some names. -/
def Json.without (dropped : List String) : Json → Json
  | .object members => .object (members.filter (fun m => !dropped.contains m.1))
  | v => v

namespace Selection

theorem rereads_json (s : Selection) : s.json.Rereads (.ofMap .bool s.ticks) :=
  Json.Rereads.ofMap Json.Rereads.bool s.ticks

theorem ofDocument?_ofMap (s : Selection) : ofDocument? (.ofMap .bool s.ticks) = some s := by
  have hread : ∀ b, Json.Document.bool? (.bool b) = some b := fun _ => rfl
  rw [ofDocument?, Json.Document.entries?_ofMap hread]
  rfl

end Selection

namespace Filter

open Json (Document Field)

namespace State

/-- What is read of the stored values of a state, in their fixed order. -/
def fieldDocuments (s : State) : List Document :=
  [.optional s.county, .optional s.town, .ofMap .bool s.levels.ticks,
    .ofMap .bool s.languages.ticks, .ofMap .bool s.bacLanguages.ticks,
    .ofMap .bool s.bacResults.ticks, .bool s.strictLevelLanguage, .bool s.perCapita,
    .bool s.schoolAgeOnly, .bool s.examDataset, .bool s.inBacData, .bool s.inEvaluationData]

/-- What the stored form of a state says of each field. -/
def fields (s : State) : List (String × Document) := fieldNames.zip s.fieldDocuments

/-- The state with some of its fields as they were at the start. -/
def reset (dropped : List String) (s : State) : State where
  county := if dropped.contains "county" then initial.county else s.county
  town := if dropped.contains "town" then initial.town else s.town
  levels := if dropped.contains "levels" then initial.levels else s.levels
  languages := if dropped.contains "languages" then initial.languages else s.languages
  bacLanguages := if dropped.contains "bacLanguages" then initial.bacLanguages else s.bacLanguages
  bacResults := if dropped.contains "bacResults" then initial.bacResults else s.bacResults
  strictLevelLanguage :=
    if dropped.contains "strictLevelLanguage" then initial.strictLevelLanguage
    else s.strictLevelLanguage
  perCapita := if dropped.contains "perCapita" then initial.perCapita else s.perCapita
  schoolAgeOnly :=
    if dropped.contains "schoolAgeOnly" then initial.schoolAgeOnly else s.schoolAgeOnly
  examDataset := if dropped.contains "examDataset" then initial.examDataset else s.examDataset
  inBacData := if dropped.contains "inBacData" then initial.inBacData else s.inBacData
  inEvaluationData :=
    if dropped.contains "inEvaluareData" then initial.inEvaluationData else s.inEvaluationData

/-- The state with its town only if the county is one that has towns. -/
def settled (s : State) : State :=
  { s with town := if s.county.isSome ∧ s.county ≠ some Catalogue.capital then s.town else none }

/-- To pick a town while none is open is to settle it. -/
theorem pickTown_of_closed (s : State) :
    ({ s with town := none } : State).pickTown s.town = s.settled := by
  cases htown : s.town with
  | none =>
      rw [settled, htown, ite_self]
      cases s.county <;> rfl
  | some name =>
      rw [settled, htown]
      cases hcounty : s.county with
      | none => simp only [pickTown, Option.isSome_none, Bool.false_eq_true, false_and, if_false]
      -- A stored town is opened in its county, unless that is the capital, which has none.
      | some code =>
          by_cases hcode : code = Catalogue.capital
          · simp only [pickTown, hcode, if_true, ne_eq, not_true_eq_false, and_false, if_false]
          · simp only [pickTown, hcode, if_false, Option.isSome_some, ne_eq, Option.some.injEq,
              not_false_eq_true, and_self, if_true]

theorem settled_of_townInCounty {s : State} (h : s.TownInCounty) : s.settled = s := by
  cases htown : s.town with
  | none => rw [settled, htown, ite_self, ← htown]
  | some name =>
      rcases h (htown ▸ rfl) with ⟨code, hcounty, hcode⟩
      have hkept : s.county.isSome ∧ s.county ≠ some Catalogue.capital := by
        rw [hcounty]
        exact ⟨rfl, fun heq => hcode (Option.some.inj heq)⟩
      rw [settled, if_pos hkept]

theorem reset_nil (s : State) : s.reset [] = s := rfl

/-- What is left of a stored state is read field by field. -/
theorem rereads_without (s : State) (dropped : List String) :
    (s.json.without dropped).Rereads
      (.object ((s.fields.filter (fun f => !dropped.contains f.1)).map Document.member)) := by
  -- Value by value, what is written is what is read. Dropping members leaves the others in place.
  have hvalues : List.Forall₂ Json.Rereads s.fieldValues s.fieldDocuments :=
    .cons (.ofText? _) (.cons (.ofText? _) (.cons (Selection.rereads_json _)
      (.cons (Selection.rereads_json _) (.cons (Selection.rereads_json _)
        (.cons (Selection.rereads_json _) (.cons (.bool _) (.cons (.bool _) (.cons (.bool _)
          (.cons (.bool _) (.cons (.bool _) (.cons (.bool _) .nil)))))))))))
  rw [json, Json.without]
  refine Json.Rereads.object (List.rel_filter (fun m f hm => ?_) (Json.Rereads.zip hvalues))
  have hname := hm.name_eq
  simp only [hname]

end State

namespace Preset

/-- A value that is kept or not. -/
def kept? (kept : Bool) (a : α) : Option α := if kept then some a else none

theorem getD_kept?_not (dropped : Bool) (a b : α) :
    (kept? (!dropped) a).getD b = if dropped then b else a := by
  cases dropped <;> rfl

/-- What the stored form of a state says if only some of its fields are kept. -/
def ofKept (kept : String → Bool) (s : State) : Preset where
  county := if kept "county" then s.county else none
  town := if kept "town" then s.town else none
  levels := kept? (kept "levels") s.levels
  languages := kept? (kept "languages") s.languages
  bacLanguages := kept? (kept "bacLanguages") s.bacLanguages
  bacResults := kept? (kept "bacResults") s.bacResults
  strictLevelLanguage := kept? (kept "strictLevelLanguage") s.strictLevelLanguage
  perCapita := kept? (kept "perCapita") s.perCapita
  schoolAgeOnly := kept? (kept "schoolAgeOnly") s.schoolAgeOnly
  examDataset := kept? (kept "examDataset") s.examDataset
  inBacData := kept? (kept "inBacData") s.inBacData
  inEvaluationData := kept? (kept "inEvaluareData") s.inEvaluationData

theorem optional?_text (text : Option String) (kept : Bool) :
    (if kept then Field.written (.optional text) else .unmentioned).optional? Document.text?
      = some (if kept then text else none) := by
  cases kept <;> cases text <;> rfl

theorem optional?_bool (b kept : Bool) :
    (if kept then Field.written (.bool b) else .unmentioned).optional? Document.bool?
      = some (kept? kept b) := by
  cases kept <;> rfl

theorem optional?_selection (menu : Selection) (kept : Bool) :
    (if kept then Field.written (.ofMap .bool menu.ticks) else .unmentioned).optional?
        Selection.ofDocument?
      = some (kept? kept menu) := by
  cases kept with
  | false => rfl
  | true =>
      have hwritten : (Field.written (.ofMap .bool menu.ticks)).optional? Selection.ofDocument?
          = (Selection.ofDocument? (.ofMap .bool menu.ticks)).map some := rfl
      rw [if_pos rfl, hwritten, Selection.ofDocument?_ofMap]
      rfl

theorem ofDocument?_kept (kept : String → Bool) (s : State) :
    ofDocument? (.object ((s.fields.filter (kept ·.1)).map Document.member))
      = some (ofKept kept s) := by
  have hnames : s.fields.map Prod.fst = fieldNames := rfl
  rw [ofDocument?, ← hnames, Document.fields?_filter (by rw [hnames]; decide), Option.bind_some]
  simp only [State.fields, fieldNames, State.fieldDocuments, List.zip_cons_cons,
    List.zip_nil_right, List.map_cons, List.map_nil, ofFields?, optional?_text, optional?_bool,
    optional?_selection]
  rfl

/-- The state with the fields that are not kept as they were at the start, and its town
    settled after all else. -/
theorem state_ofKept (dropped : List String) (s : State) :
    (ofKept (fun name => !dropped.contains name) s).state = (s.reset dropped).settled := by
  have hoption : ∀ (name : String) (text : Option String),
      (if !dropped.contains name then text else none)
        = if dropped.contains name then none else text := by
    intro name text
    cases dropped.contains name <;> rfl
  -- Without its town the state is what was kept, and the town is picked in it.
  have hwithout : (ofKept (fun name => !dropped.contains name) s).withoutTown
      = { s.reset dropped with town := none } := by
    simp only [withoutTown, ofKept, getD_kept?_not, hoption]
    rfl
  have htown : (ofKept (fun name => !dropped.contains name) s).town = (s.reset dropped).town :=
    hoption "town" s.town
  rw [state, State.apply, hwithout, htown, State.pickTown_of_closed]

end Preset

namespace State

/-- What is left of a stored state when some fields are left out, read back. -/
theorem ofPreset?_without (s : State) (dropped : List String) :
    ofPreset? (s.json.without dropped).compact = some (s.reset dropped).settled := by
  rw [ofPreset?, (rereads_without s dropped).ofText?_compact, Option.bind_some, ofDocument?,
    Preset.ofDocument?_kept (fun name => !dropped.contains name), Option.map_some,
    Preset.state_ofKept]

/-- The whole stored state, read back. -/
theorem ofPreset?_json (s : State) : ofPreset? s.json.compact = some s.settled := by
  have hwhole : s.json.without [] = s.json :=
    congrArg Json.object (List.filter_eq_self.mpr (fun _ _ => rfl))
  rw [← hwhole, ofPreset?_without, reset_nil]

theorem townInCounty_of_ofPreset? {s : State} {text : String} (h : ofPreset? text = some s) :
    s.TownInCounty := by
  rw [ofPreset?, Option.bind_eq_some_iff] at h
  rcases h with ⟨document, _, hread⟩
  rw [ofDocument?, Option.map_eq_some_iff] at hread
  rcases hread with ⟨p, _, rfl⟩
  exact p.townInCounty_state

/-- A state that is stored without some of its fields, whichever they are, can be read back.
    The fields left out are then as they were at the start, and the town is kept if the county
    has towns. Nothing is lost of a whole state that updates lead to, from the start or from
    any text that can be read. -/
theorem stored_reads_back :
    (∀ (s : State) (dropped : List String),
      ofPreset? (s.json.without dropped).compact = some (s.reset dropped).settled) ∧
    ∀ (start : State) (updates : List Update),
      (start = initial ∨ ∃ text, ofPreset? text = some start) →
        ofPreset? (start.applyAll updates).json.compact = some (start.applyAll updates) := by
  refine ⟨ofPreset?_without, fun start updates hstart => ?_⟩
  -- Only the town can be lost in reading, and not if it lies in its county.
  have htown : start.TownInCounty := by
    rcases hstart with rfl | ⟨text, hread⟩
    · exact consistent_initial.town_county
    · exact townInCounty_of_ofPreset? hread
  have hstep : ∀ (s : State) (u : Update), s.TownInCounty → (s.apply u).TownInCounty :=
    fun _ u ht => townInCounty_apply ht u
  have hreached := applyAll_of_apply hstep htown updates
  rw [ofPreset?_json, settled_of_townInCounty hreached]

/-- A stored state is read, clicked on and read back. Without its county it loses its town. -/
theorem stored_reads_back_turda : ∃ start,
    ofPreset? ("\x7b\"county\":\"CJ\",\"town\":\"Turda\",\"inBacData\":true,"
      ++ "\"levels\":\x7b\"Primar\":true\x7d\x7d") = some start ∧
    let s := start.applyAll [.language "română" false, .source .evaluation]
    s.openTown? = some ("CJ", "Turda") ∧ ofPreset? s.json.compact = some s ∧
      ofPreset? (s.json.without ["county"]).compact
        = some { s with county := none, town := none } := by
  let start : State :=
    { initial with county := some "CJ", town := some "Turda", levels := .all ["Primar"],
                   inBacData := true }
  have hread : ofPreset? ("\x7b\"county\":\"CJ\",\"town\":\"Turda\",\"inBacData\":true,"
      ++ "\"levels\":\x7b\"Primar\":true\x7d\x7d") = some start := by decide +kernel
  refine ⟨start, hread, ?_⟩
  intro s
  refine ⟨rfl, stored_reads_back.2 start _ (Or.inr ⟨_, hread⟩), ?_⟩
  -- Where the county is dropped, the town is dropped with it.
  rw [stored_reads_back.1 s ["county"]]
  rfl

end State

end Filter

end SchoolAtlas
