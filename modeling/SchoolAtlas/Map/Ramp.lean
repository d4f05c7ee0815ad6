import SchoolAtlas.Colour
import SchoolAtlas.Map.Scalar

/-!
# Colour Ramps

From values to colours.

A ramp is a row of colours, the lowest value's first. A value has a place in the
range of the legend, from zero at its lower bound to one at its upper bound, and
the ramp has as many equal segments as it has neighbouring colours. Within its
segment a value is painted in a blend of the two colours at the segment's ends.

Values outside the range are painted like its bounds. A range without extent and
a value that is not finite have no place, so the first colour stands in for
them. There always is a first colour: a ramp without colours cannot be built.

## Main definitions

* `Bounds`, `Bounds.position`: The range of a legend and places in it.
* `Ramp`: A row of colours.
* `Ramp.colourAt`: The colour of a value.
* `Ramp.hexStops`: The colours of the row.
* `Ramp.ofTexts`: Reads the colours of a ramp.
-/

namespace SchoolAtlas

/-- The range of a legend. -/
structure Bounds (α : Type) where
  min : α
  max : α
deriving DecidableEq, Repr, Inhabited

/-- The place of a value in a range, from zero to one. -/
def Bounds.position {α : Type} [Scalar α] (b : Bounds α) (value : α) : α :=
  let span := b.max - b.min
  if Scalar.atMost span (Scalar.ofNat 0) || !Scalar.isFinite value then Scalar.ofNat 0
  else Scalar.clamp ((value - b.min) / span)

/-- The byte of a component. -/
def channel {α : Type} [Scalar α] (x : α) : Nat :=
  Scalar.round (Scalar.clamp x * Scalar.ofNat 255)

/-- Two hexadecimal digits of a byte. -/
def hexPair (n : Nat) : List Char := [Nat.digitChar (n / 16 % 16), Nat.digitChar (n % 16)]

/-- A colour in hexadecimal digits. -/
def Rgb.hex {α : Type} [Scalar α] (c : Rgb α) : String :=
  String.ofList
    ('#' :: hexPair (channel c.red) ++ hexPair (channel c.green) ++ hexPair (channel c.blue))

/-- A row of colours, the lowest value's first. -/
structure Ramp (α : Type) where
  stops : List (Rgb α)
  stops_ne_nil : stops ≠ []
deriving Repr

namespace Ramp

variable {α : Type}

/-- The number of segments between neighbouring colours. -/
def segments (r : Ramp α) : Nat := r.stops.length - 1

/-- A ramp has at least one colour. -/
theorem length_pos (r : Ramp α) : 0 < r.stops.length :=
  List.length_pos_iff.mpr r.stops_ne_nil

/-- The first colour. -/
def first (r : Ramp α) : Rgb α := r.stops.head r.stops_ne_nil

variable [Scalar α]

/-- The blend of two colours at a place between them. -/
def blend (place : α) (c d : Rgb α) : Rgb α :=
  c.zipWith (fun x y => x + (y - x) * place) d

/-- The colour at a place of the whole ramp, from zero to one. -/
def blendAt (r : Ramp α) (place : α) : Rgb α :=
  if h : r.segments = 0 then r.first
  else
    let scaled := place * Scalar.ofNat r.segments
    let segment := min (Scalar.truncate scaled) (r.segments - 1)
    -- The last segment still has a colour at either end.
    have bound : segment + 1 < r.stops.length := by
      have := r.length_pos
      have : r.segments = r.stops.length - 1 := rfl
      have : segment ≤ r.segments - 1 := Nat.min_le_right ..
      omega
    blend (scaled - Scalar.ofNat segment) r.stops[segment] r.stops[segment + 1]

/-- The colour of a value in a range. -/
def colourAt (r : Ramp α) (value : α) (b : Bounds α) : String := (r.blendAt (b.position value)).hex

/-- The colours of the row. -/
def hexStops (r : Ramp α) : List String := r.stops.map Rgb.hex

end Ramp

/-- Why a ramp cannot be built. -/
inductive RampError where
  | noStops
  | invalidColour (text : String)
deriving DecidableEq, Repr

/-- The message of an error. -/
def RampError.message : RampError → String
  | noStops => "colour ramp needs at least one stop"
  | invalidColour text => "Invalid color '" ++ text ++ "'"

namespace Ramp

/-- Reads a colour of a ramp. -/
def readStop (text : String) : Except RampError (Rgb Float) :=
  match Colour.ofText? text with
  | some c => .ok c
  | none => .error (.invalidColour text)

/-- Reads colours, up to the first that cannot be read. -/
def readStops : List String → Except RampError (List (Rgb Float))
  | [] => .ok []
  | text :: rest =>
    match readStop text with
    | .error e => .error e
    | .ok c =>
      match readStops rest with
      | .error e => .error e
      | .ok stops => .ok (c :: stops)

/-- Reads the colours of a ramp, lowest value first. -/
def ofTexts (texts : List String) : Except RampError (Ramp Float) :=
  match readStops texts with
  | .error e => .error e
  | .ok stops => if h : stops = [] then .error .noStops else .ok ⟨stops, h⟩

end Ramp

end SchoolAtlas
