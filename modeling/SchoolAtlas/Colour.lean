import SchoolAtlas.Colour.Named
import SchoolAtlas.Colour.Single
import SchoolAtlas.Decimal.Numeral
import SchoolAtlas.Text.Blank

/-!
# Colours

Reading colours as style sheets write them.

A colour is a name, hexadecimal digits with or without a mark before them, or a
function of components. Functions take their components as red, green and blue,
as hue with whiteness and blackness, with saturation and lightness or value, or
in the perceptual space with its rectangular or polar coordinates. A fourth
component tells how opaque the colour is; it has to make sense, but a map is
painted opaquely and makes no use of it.

Components are separated by commas, slashes and blanks, of which any number may
stand together. A component is a number or a percentage, and components that
belong together have to be of one kind. Components out of range are brought into
it as they are read. What is computed from them stays as it comes out: rounding
may carry it a little beyond full strength, and colours from the perceptual space
may lie outside of what a screen can show.

## Main definitions

* `Rgb`: Red, green and blue.
* `Colour.ofText?`: Reads a colour.
-/

namespace SchoolAtlas

/-- Red, green and blue components, where one is full strength. -/
structure Rgb (α : Type) where
  red : α
  green : α
  blue : α
deriving DecidableEq, Repr, Inhabited

namespace Rgb

/-- Applies a function to each component. -/
def map (f : α → β) (c : Rgb α) : Rgb β := ⟨f c.red, f c.green, f c.blue⟩

/-- Combines two colours component by component. -/
def zipWith (f : α → β → γ) (c : Rgb α) (d : Rgb β) : Rgb γ :=
  ⟨f c.red d.red, f c.green d.green, f c.blue d.blue⟩

end Rgb

namespace Colour

/-- The colour of three bytes. -/
def ofBytes (red green blue : Nat) : Rgb Float32 :=
  (Rgb.mk red green blue).map fun n => Float32.ofNat n / 255.0

/-- The value of a hexadecimal digit. -/
def hexDigit? (c : Char) : Option Nat :=
  if '0' ≤ c && c ≤ '9' then some (c.toNat - '0'.toNat)
  else if 'a' ≤ c && c ≤ 'f' then some (c.toNat - 'a'.toNat + 10)
  else if 'A' ≤ c && c ≤ 'F' then some (c.toNat - 'A'.toNat + 10)
  else none

/-- The value of two hexadecimal digits, of which the first may be a plus sign. -/
def hexPair? (a b : Char) : Option Nat :=
  if a = '+' then hexDigit? b
  else (hexDigit? a).bind fun high => (hexDigit? b).map fun low => 16 * high + low

/-- Reads three or four digits, each for a byte of two equal ones, or three or
    four pairs of digits. The last byte tells how opaque the colour is. -/
def ofHex? : List Char → Option (Rgb Float32)
  | [r, g, b] => short? r g b
  | [r, g, b, a] => (hexDigit? a).bind fun _ => short? r g b
  | [r, r', g, g', b, b'] => long? r r' g g' b b'
  | [r, r', g, g', b, b', a, a'] => (hexPair? a a').bind fun _ => long? r r' g g' b b'
  | _ => none
where
  short? (r g b : Char) : Option (Rgb Float32) := do
    return ofBytes (17 * (← hexDigit? r)) (17 * (← hexDigit? g)) (17 * (← hexDigit? b))
  long? (r r' g g' b b' : Char) : Option (Rgb Float32) := do
    return ofBytes (← hexPair? r r') (← hexPair? g g') (← hexPair? b b')

/-- A component: a number, and whether it is written as a percentage. -/
structure Component where
  value : Float32
  percent : Bool

/-- The text without a given end, if it has that end in any case. -/
def before? (ending text : List Char) : Option (List Char) :=
  let kept := text.length - ending.length
  if (text.drop kept).map Char.toLower = ending then some (text.take kept) else none

/-- Reads a number of single precision. -/
def single? (text : List Char) : Option Float32 :=
  (Numeral.ofChars? text).map Numeral.toFloat32

/-- Reads a component. A number without a percent sign is a fraction of the whole
    that it is given in. -/
def component? (whole : Float32) (text : List Char) : Option Component :=
  let percentage := (before? ['%'] text).bind fun text =>
    (single? text).map fun x => Component.mk (x / 100.0) true
  percentage.orElse fun _ => (single? text).map fun x => Component.mk (x / whole) false

/-- Reads an angle in one of its units and gives it in degrees. -/
def angle? (text : List Char) : Option Float32 :=
  let inUnit (unit : String) (toDegrees : Float32 → Float32) : Option Float32 :=
    (before? unit.toList text).bind fun text => (single? text).map toDegrees
  (inUnit "deg" id).orElse fun _ =>
    (inUnit "grad" (· * 360.0 / 400.0)).orElse fun _ =>
      (inUnit "rad" (· * 57.2957795130823208767981548141051703)).orElse fun _ =>
        (inUnit "turn" (· * 360.0)).orElse fun _ => single? text

/-- The strength of one primary colour between the weakest and the strongest, by
    its distance in sixths of the circle. -/
def ofHue (low high : Float32) (h : Float32) : Float32 :=
  let h := Single.wrap h 6
  if h < 1.0 then low + (high - low) * h
  else if h < 3.0 then high
  else if h < 4.0 then low + (high - low) * (4.0 - h)
  else low

/-- The colour of a hue, a saturation and a lightness. -/
def ofHsl (hue saturation lightness : Float32) : Rgb Float32 :=
  if saturation == 0.0 then ⟨lightness, lightness, lightness⟩
  else
    let high :=
      if lightness < 0.5 then lightness * (1.0 + saturation)
      else lightness + saturation - lightness * saturation
    let low := 2.0 * lightness - high
    let h := hue / 60.0
    ⟨ofHue low high (h + 2.0), ofHue low high h, ofHue low high (h - 2.0)⟩

/-- The colour of a hue, a whiteness and a blackness. Without room for the hue it
    is a grey. -/
def ofHwb (hue white black : Float32) : Rgb Float32 :=
  if white + black >= 1.0 then
    let grey := white / (white + black)
    ⟨grey, grey, grey⟩
  else (ofHsl hue 1.0 0.5).map fun c => c * (1.0 - white - black) + white

/-- The colour of a hue, a saturation and a value. -/
def ofHsv (hue saturation value : Float32) : Rgb Float32 :=
  let lightness := (2.0 - saturation) * value / 2.0
  let scaled :=
    if lightness == 0.0 then saturation
    else if lightness == 1.0 then 0.0
    else if lightness < 0.5 then saturation * value / (lightness * 2.0)
    else saturation * value / (2.0 - lightness * 2.0)
  ofHsl hue scaled lightness

/-- A linear component as a screen shows it. -/
def ofLinear (x : Float32) : Float32 :=
  if x >= 0.0031308 then 1.055 * Float32.pow x (1.0 / 2.4) - 0.055 else 12.92 * x

/-- A number to the third power. -/
def cube (x : Float32) : Float32 := x * (x * x)

/-- The colour of rectangular coordinates of the perceptual space. -/
def ofPerceptual (lightness a b : Float32) : Rgb Float32 :=
  let l := cube (lightness + 0.3963377774 * a + 0.2158037573 * b)
  let m := cube (lightness - 0.1055613458 * a - 0.0638541728 * b)
  let s := cube (lightness - 0.0894841775 * a - 1.2914855480 * b)
  (Rgb.mk (4.0767416621 * l - 3.3077115913 * m + 0.2309699292 * s)
    (-1.2684380046 * l + 2.6097574011 * m - 0.3413193965 * s)
    (-0.0041960863 * l - 0.7034186147 * m + 1.7076147010 * s)).map ofLinear

/-- The angle of a number of degrees. -/
def radians (degrees : Float32) : Float32 :=
  degrees * (3.14159265358979323846264338327950288 / 180.0)

/-- The colour of a function of three components. -/
def ofFunction? (name : String) (x y z : List Char) : Option (Rgb Float32) :=
  match name with
  | "rgb" | "rgba" => do
    let r ← component? 255.0 x
    let g ← component? 255.0 y
    let b ← component? 255.0 z
    if r.percent = g.percent ∧ g.percent = b.percent then
      return (Rgb.mk r.value g.value b.value).map Single.clamp
    else none
  | "hsl" | "hsla" => hueAnd? ofHsl
  | "hwb" | "hwba" => hueAnd? ofHwb
  | "hsv" | "hsva" => hueAnd? ofHsv
  | "oklab" => do
    let l ← component? 1.0 x
    let a ← component? 1.0 y
    let b ← component? 1.0 z
    return ofPerceptual (Single.atLeastZero l.value) (axis a) (axis b)
  | "oklch" => do
    let l ← component? 1.0 x
    let c ← component? 1.0 y
    let hue ← angle? z
    let chroma := Single.atLeastZero (if c.percent then c.value * 0.4 else c.value)
    let h := radians hue
    return ofPerceptual (Single.atLeastZero l.value) (chroma * h.cos) (chroma * h.sin)
  | _ => none
where
  /-- A hue with two components of one kind, each brought into its range. -/
  hueAnd? (colour : Float32 → Float32 → Float32 → Rgb Float32) : Option (Rgb Float32) := do
    let hue := Single.wrap (← angle? x) 360
    let s ← component? 1.0 y
    let t ← component? 1.0 z
    if s.percent = t.percent then
      return colour hue (Single.clamp s.value) (Single.clamp t.value)
    else none
  /-- A coordinate, of which a percentage counts from one end of its range to the
      other. -/
  axis (c : Component) : Float32 :=
    if c.percent then (c.value - -1.0) * ((0.4 - -0.4) / (1.0 - -1.0)) + -0.4 else c.value

/-- Whether a character separates components. -/
def isSeparator (c : Char) : Bool :=
  c = ',' || c = '/' || c = ' ' || c = '\t' || c = '\n' || c = '\r' || c.toNat = 12

/-- The parts of a text between separators. The part being read comes last
    first. -/
def split (part : List Char) : List Char → List (List Char)
  | [] => if part.isEmpty then [] else [part.reverse]
  | c :: rest =>
    if isSeparator c then
      if part.isEmpty then split [] rest else part.reverse :: split [] rest
    else split (c :: part) rest

/-- Reads a function: a name and its components in brackets. -/
def ofCall? (text : List Char) : Option (Rgb Float32) :=
  let name := Text.trimChars (text.takeWhile (· ≠ '('))
  let rest := (text.dropWhile (· ≠ '(')).drop 1
  match split [] rest.dropLast with
  | [x, y, z] => ofFunction? (String.ofList (name.map Char.toLower)) x y z
  | [x, y, z, opacity] =>
    (component? 1.0 opacity).bind fun _ =>
      ofFunction? (String.ofList (name.map Char.toLower)) x y z
  | _ => none

/-- Whether a text has an opening bracket and ends with a closing one. -/
def isCall (text : List Char) : Bool := text.contains '(' && text.getLast? == some ')'

/-- The colour of a name. -/
def ofName? (name : String) : Option (Rgb Float32) :=
  if name.map Char.toLower = "transparent" then some (ofBytes 0 0 0)
  else (named? name).map fun n => ofBytes (n / 65536) (n / 256 % 256) (n % 256)

/-- Reads a colour in single precision. -/
def read? (text : String) : Option (Rgb Float32) :=
  match Text.trimChars text.toList with
  | '#' :: digits => ofHex? digits
  | chars =>
    if isCall chars then ofCall? chars
    else (ofHex? chars).orElse fun _ => ofName? (String.ofList chars)

/-- Reads a colour. -/
def ofText? (text : String) : Option (Rgb Float) := (read? text).map (Rgb.map Single.widen)

end Colour

end SchoolAtlas
