import SchoolAtlas.Map.Config
import SchoolAtlas.Map.Ramp
import SchoolAtlas.Map.RegionValues

/-!
# Legends

What explains the colours of a map, and the colours themselves.

The range of a legend is that of the values shown. One value alone would make a
range without extent, so the range then starts at zero. Values that are no
numbers do not count towards the range.

The colours go to the map as an expression: the name of a property, pairs of a
label and a colour, and a colour for everything else. A map without any region is
painted in one colour.

## Main definitions

* `Bounds.ofValues`: The range of values.
* `ColourMatch`: The colours of regions.
* `ColourMatch.expression`: The colours as an expression.
* `Legend`: Title, range and colours of a map.
-/

namespace SchoolAtlas

namespace Bounds

variable {α : Type} [Scalar α]

/-- The lesser of two numbers, or the one that is a number. -/
def lesser (x y : α) : α :=
  if Scalar.atMost y y then if Scalar.less y x || !Scalar.atMost x x then y else x else x

/-- The greater of two numbers, or the one that is a number. -/
def greater (x y : α) : α :=
  if Scalar.atMost y y then if Scalar.less x y || !Scalar.atMost x x then y else x else x

/-- The range of values, starting from bounds that any value improves on. -/
def ofList (start : Bounds α) (values : List α) : Bounds α :=
  values.foldl (fun b v => ⟨lesser b.min v, greater b.max v⟩) start

/-- A range with some extent: a single value makes one that starts at zero. -/
def spread (b : Bounds α) : Bounds α :=
  if Scalar.atMost b.min b.max && Scalar.atMost b.max b.min then ⟨Scalar.ofNat 0, b.max⟩ else b

/-- The range of values on a map. Without values it is the point zero. -/
def ofValues (values : RegionValues) : Bounds Float :=
  if values.isEmpty then ⟨0.0, 0.0⟩
  else (ofList ⟨Numeral.infiniteFloat, -Numeral.infiniteFloat⟩ values.values).spread

/-- The stored form of a range. -/
def json (b : Bounds Float) : Json := .object [("min", .real b.min), ("max", .real b.max)]

end Bounds

/-- The colours of regions, for one property of the map. -/
structure ColourMatch where
  property : String
  colours : NameMap String
  /-- The colour of regions without a value. -/
  fallback : String
  /-- The colour of a map without any region. -/
  empty : String
deriving DecidableEq, Repr

namespace ColourMatch

/-- The colours of values. -/
def ofValues (values : RegionValues) (property : String) (ramp : Ramp Float)
    (bounds : Bounds Float) (config : MapConfig) : ColourMatch where
  property
  colours := values.map fun _ value => ramp.colourAt value bounds
  fallback := config.fallbackColour
  empty := config.emptyColour

/-- The colours as an expression: which property to look at, a colour for each of
    its values, and a colour for the others. -/
def expression (c : ColourMatch) : Json :=
  if c.colours.isEmpty then .string c.empty
  else
    .array
      ([.string "match", .array [.string "get", .string c.property]]
        ++ c.colours.entries.flatMap (fun p => [.string p.1, .string p.2])
        ++ [.string c.fallback])

/-- The stored form of the colours. -/
def json (c : ColourMatch) : Json :=
  .object
    [("property", .string c.property), ("colors", .ofMap .string c.colours),
      ("fallback", .string c.fallback), ("empty", .string c.empty)]

end ColourMatch

/-- The property that regions are known by: towns by their name, counties by
    their code. -/
def colourProperty (filters : Filter.State) : String :=
  if filters.county.isSome then "name" else "mnemonic"

/-- Title, range and colours of a map. -/
structure Legend where
  title : String
  subtitle : String
  bounds : Bounds Float
  gradient : List String
deriving Repr

namespace Legend

/-- The place that a map shows: a county by its name if it has one, and else the
    country. -/
def place (filters : Filter.State) : String :=
  match filters.county with
  | some code => (Catalogue.countyName? code).getD code
  | none => "România"

/-- The legend of a map. -/
def ofMap (filters : Filter.State) (statistic : Statistic) (bounds : Bounds Float)
    (ramp : Ramp Float) : Legend where
  title := statistic.name
  subtitle := place filters
  bounds
  gradient := ramp.hexStops

/-- The stored form of a legend. -/
def json (l : Legend) : Json :=
  .object
    [("title", .string l.title), ("subtitle", .string l.subtitle), ("bounds", l.bounds.json),
      ("gradient", .texts l.gradient)]

end Legend

end SchoolAtlas
