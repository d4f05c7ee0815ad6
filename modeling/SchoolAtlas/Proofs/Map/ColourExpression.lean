import SchoolAtlas.Map.Legend
import SchoolAtlas.Proofs.Selection

/-!
# Colours as an Expression

What a map paints that is given its colours as an expression.

The colours of regions go to the map as one flat list. What a text in it stands for shows only in
its place: after the name of the property labels and colours take turns, and the last element stands
alone. A region may have the name of a colour, of the property or of the word that begins the list,
and a colour may be any text. None of this is looked at by who reads the list, and so nothing can
get out of step: the list is put together two elements at a time, and it is read in the same way
(`Json.branches_branchElements`).

The reader is defined here, as the map has it. A feature is compared with the labels in their order,
and the first that is equal decides. That the first decides does not matter in the end, since every
label occurs once.

## Main definitions

* `Feature`: What the map knows of a place.
* `Json.branches`: The labels of a match and the outputs after them.
* `Json.taken?`: What a match takes for a value.
* `Json.painted?`: The colour of a feature by an expression.
* `Json.labelled`: The labels and outputs of an expression.
* `ColourMatch.colourOf`: The colour that a feature is meant to have.
* `ColourMatch.Means`: An expression paints features as they are meant to be.

## Theorems

* `Json.branches_branchElements`: Labels and outputs are read as they were put together.
* `Json.taken?_branchElements`: A match takes the output of the label.
* `ColourMatch.means_expression`: Any colours are painted as they are meant.
* `ColourMatch.expression_paints`: What the expression of a map paints.
-/

namespace SchoolAtlas

/-- What the map knows of a place: texts by the name of a property. -/
abbrev Feature := NameMap String

namespace Json

/-- The text that a value is. -/
def text? : Json → Option String
  | .string s => some s
  | _ => none

/-- The labels of a match, each with the output after it. An element without one after it is no
    label. -/
def branches : List Json → List (Json × Json)
  | label :: output :: rest => (label, output) :: branches rest
  | _ => []

/-- What a match takes of its elements for a value: the output after the first label that is equal
    to the value, or else the last element. -/
def taken? (value : Option String) (elements : List Json) : Option Json :=
  (value.bind fun value =>
    ((branches elements).find? (·.1.text? == some value)).map Prod.snd).or elements.getLast?

/-- The colour of a feature by an expression. A text is a colour itself, and a match compares a
    property of the feature with its labels. -/
def painted? (feature : Feature) : Json → Option String
  | .string colour => some colour
  | .array (.string "match" :: .array [.string "get", .string property] :: elements) =>
    (taken? (feature.get? property) elements).bind text?
  | _ => none

/-- The labels of an expression with their outputs. Without a match there are none. -/
def labelled : Json → List (Json × Json)
  | .array (.string "match" :: .array [.string "get", .string _] :: elements) => branches elements
  | _ => []

/-- Texts in pairs, one after the other. -/
def branchElements (pairs : List (String × String)) : List Json :=
  pairs.flatMap fun p => [.string p.1, .string p.2]

variable (pairs : List (String × String)) (last : Json)

/-- Labels and outputs are read as they were put together, whatever texts they are. -/
theorem branches_branchElements :
    branches (branchElements pairs ++ [last]) = pairs.map fun p => (.string p.1, .string p.2) := by
  induction pairs with
  | nil => rfl
  | cons p rest ih =>
      have hstep : branchElements (p :: rest) ++ [last]
          = .string p.1 :: .string p.2 :: (branchElements rest ++ [last]) := rfl
      rw [hstep, branches, ih, List.map_cons]

/-- The output of the first label that is a text is what is found under the text. -/
theorem find?_branches (value : String) :
    ((pairs.map fun p => (Json.string p.1, Json.string p.2)).find?
        (·.1.text? == some value)).map Prod.snd
      = (NameMap.find? value pairs).map .string := by
  induction pairs with
  | nil => rfl
  | cons p rest ih =>
      rw [List.map_cons, List.find?_cons, text?, NameMap.find?]
      -- A label is matched as the name it was made from, whatever text that is.
      by_cases hp : p.1 = value
      · rw [if_pos hp, hp, BEq.rfl]
        rfl
      · have hne : (some p.1 == some value) = false :=
          beq_eq_false_iff_ne.mpr (fun heq => hp (Option.some.inj heq))
        rw [if_neg hp, hne]
        exact ih

/-- A match takes the output of the label that is the value, or else what stands last. -/
theorem taken?_branchElements (value : Option String) (other : String) :
    taken? value (branchElements pairs ++ [.string other])
      = some (.string ((value.bind (NameMap.find? · pairs)).getD other)) := by
  rw [taken?, branches_branchElements, List.getLast?_concat]
  cases value with
  | none => rfl
  | some value =>
      rw [Option.bind_some, Option.bind_some, find?_branches]
      cases NameMap.find? value pairs <;> rfl

end Json

namespace ColourMatch

/-- The colour that a feature is meant to have: that of the region it is, or else the fallback.
    Without any region all features have one colour. -/
def colourOf (c : ColourMatch) (feature : Feature) : String :=
  if c.colours.isEmpty then c.empty
  else ((feature.get? c.property).bind c.colours.get?).getD c.fallback

/-- An expression paints every feature in the colour that it is meant to have. Its labels are the
    names of the regions, each of them once and with the region's colour, and without any region it
    is just a colour. -/
structure Means (c : ColourMatch) (expression : Json) : Prop where
  painted?_eq : ∀ feature, expression.painted? feature = some (c.colourOf feature)
  labelled_eq : expression.labelled = c.colours.entries.map fun p => (.string p.1, .string p.2)
  labels_nodup : (expression.labelled.map Prod.fst).Nodup
  eq_empty : c.colours.isEmpty = true → expression = .string c.empty

variable (c : ColourMatch)

theorem expression_of_isEmpty (h : c.colours.isEmpty = true) : c.expression = .string c.empty := by
  rw [expression, if_pos h]

theorem expression_of_not_isEmpty (h : ¬c.colours.isEmpty = true) :
    c.expression = .array (.string "match" :: .array [.string "get", .string c.property] ::
      (Json.branchElements c.colours.entries ++ [.string c.fallback])) := by
  rw [expression, if_neg h]
  rfl

theorem painted?_expression (feature : Feature) :
    c.expression.painted? feature = some (c.colourOf feature) := by
  by_cases h : c.colours.isEmpty = true
  · rw [expression_of_isEmpty c h, Json.painted?, colourOf, if_pos h]
  · rw [expression_of_not_isEmpty c h, Json.painted?, Json.taken?_branchElements, colourOf,
      if_neg h]
    rfl

theorem labelled_expression :
    c.expression.labelled = c.colours.entries.map fun p => (.string p.1, .string p.2) := by
  by_cases h : c.colours.isEmpty = true
  · rw [expression_of_isEmpty c h, List.isEmpty_iff.mp h]
    rfl
  · rw [expression_of_not_isEmpty c h, Json.labelled, Json.branches_branchElements]

theorem nodup_labels_expression : (c.expression.labelled.map Prod.fst).Nodup := by
  have hlabels : c.expression.labelled.map Prod.fst = c.colours.names.map .string := by
    rw [labelled_expression, NameMap.names, List.map_map, List.map_map]
    rfl
  rw [hlabels]
  exact c.colours.nodup_names.map (fun _ _ => Json.string.inj)

/-- Any colours are painted as they are meant, whatever the names of regions and the colours are. -/
theorem means_expression : c.Means c.expression :=
  ⟨painted?_expression c, labelled_expression c, nodup_labels_expression c,
    expression_of_isEmpty c⟩

section Values

variable (values : RegionValues) (property : String) (ramp : Ramp Float) (bounds : Bounds Float)
  (config : MapConfig)

/-- The regions that have a colour are those that have a value. -/
theorem names_ofValues :
    (ofValues values property ramp bounds config).colours.names = values.names := by
  rw [ofValues, NameMap.map, NameMap.names, List.map_map]
  rfl

/-- A region has the colour of its value. -/
theorem get?_ofValues (name : String) :
    (ofValues values property ramp bounds config).colours.get? name
      = (values.get? name).map fun value => ramp.colourAt value bounds :=
  NameMap.get?_map _ values name

/-- On a map of values a feature is meant to have the colour of the value of the region that it is,
    and the fallback if it is none. -/
theorem colourOf_ofValues (feature : Feature) :
    (ofValues values property ramp bounds config).colourOf feature
      = if values.isEmpty then config.emptyColour
        else match (feature.get? property).bind values.get? with
          | some value => ramp.colourAt value bounds
          | none => config.fallbackColour := by
  have hempty : (ofValues values property ramp bounds config).colours.isEmpty = values.isEmpty :=
    List.isEmpty_map
  rw [colourOf, hempty]
  refine if_congr Iff.rfl rfl ?_
  -- Names without a value have no colour, so the fallback stands for both.
  have hcolours : (feature.get? property).bind
        (ofValues values property ramp bounds config).colours.get?
      = ((feature.get? property).bind values.get?).map fun value => ramp.colourAt value bounds := by
    rw [Option.map_bind]
    exact Option.bind_congr (fun name _ => get?_ofValues values property ramp bounds config name)
  have hsame : (ofValues values property ramp bounds config).property = property := rfl
  rw [hsame, hcolours]
  cases (feature.get? property).bind values.get? <;> rfl

end Values

/-- What the expression of a map paints. There is one colour for each region that has a value,
    the one of its value. A feature is painted in the colour of the region that its property
    names, in the fallback if that is none, and in one colour if there are no regions at all.
    Labels and colours keep together whatever texts they are, be it of a map of values or of any
    colours. -/
theorem expression_paints :
    (∀ c : ColourMatch, c.Means c.expression) ∧
    ∀ (values : RegionValues) (property : String) (ramp : Ramp Float) (bounds : Bounds Float)
      (config : MapConfig),
      let c := ofValues values property ramp bounds config
      c.colours.names = values.names ∧
      (∀ name, c.colours.get? name
        = (values.get? name).map fun value => ramp.colourAt value bounds) ∧
      ∀ feature : Feature, c.expression.painted? feature = some (
        if values.isEmpty then config.emptyColour
        else match (feature.get? property).bind values.get? with
          | some value => ramp.colourAt value bounds
          | none => config.fallbackColour) := by
  refine ⟨means_expression, fun values property ramp bounds config => ?_⟩
  intro c
  -- What the expression paints is the colour of the feature, which is that of its value.
  refine ⟨names_ofValues .., get?_ofValues values property ramp bounds config, fun feature => ?_⟩
  rw [painted?_expression, colourOf_ofValues]

/-- Regions that have the names of the property, of a colour and of the word that begins the list,
    and a map without regions. -/
theorem expression_paints_match :
    let values : RegionValues := .ofList [("match", 2.0), ("name", 4.0), ("#f0f0f0", 2.0)]
    let ramp : Ramp Float := ⟨[⟨0, 0, 0⟩, ⟨1, 1, 1⟩], List.cons_ne_nil _ _⟩
    let c := ofValues values "name" ramp ⟨2.0, 4.0⟩ .default
    let none := ofValues .empty "name" ramp ⟨0.0, 0.0⟩ .default
    c.expression.painted? (.ofList [("name", "match")]) = some "#000000" ∧
      c.expression.painted? (.ofList [("name", "name")]) = some "#ffffff" ∧
      c.expression.painted? (.ofList [("name", "#000000")]) = some "#f0f0f0" ∧
      c.expression.painted? (.ofList [("mnemonic", "match")]) = some "#f0f0f0" ∧
      none.expression = .string "#ccc" := by
  intro values ramp c none
  have hpaints := (expression_paints.2 values "name" ramp ⟨2.0, 4.0⟩ .default).2.2
  -- A name may be a keyword or a colour, and a feature may lack the property.
  refine ⟨(hpaints _).trans ?_, (hpaints _).trans ?_, (hpaints _).trans ?_, (hpaints _).trans ?_,
    (expression_paints.1 none).eq_empty rfl⟩
  all_goals decide +kernel

end ColourMatch

end SchoolAtlas
