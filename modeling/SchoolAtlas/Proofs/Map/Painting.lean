import SchoolAtlas.Proofs.Float.Product
import SchoolAtlas.Proofs.Map.LegendRange

/-!
# Painting Any Value

A ramp paints every number, also one that is none, and over every range.

The place of a value is found by floating-point arithmetic, and it may come out as no number, as it
does between two infinite bounds. Nothing goes wrong there, because of the place only its conversion
to a word counts, which is zero for no number, and the last segment is the most that is taken of it.
So both colours exist whatever the place is, and what the argument needs of the row is that it is
not empty.

To say that nothing goes wrong the computation is written once more with the steps that can fail, in
which one is taken from a number and a colour is looked up (`Ramp.colourAt?`). These fail for an
empty row and for no other, and an empty row is refused when it is read.

That the text has six digits is plain, but that they are those of three bytes is not. A component is
brought between zero and one, unless it is no number. Its part of 255 is rounded twice, once as a
product and once to a whole number. The product is not above 255 (`Floats.mul_le`), and where it is
255 there is nothing left to round up (`Scalar.round_byte`).

## Main definitions

* `IsHexColour`: A hash and six hexadecimal digits.
* `Ramp.colourAt?`: The colour of a value, by steps that can fail.

## Theorems

* `Scalar.clamp_cases`: A number brought between zero and one, if it is one.
* `Scalar.round_lt`: What is at most 255 is rounded to a byte.
* `channel_float_lt`: Every component has a byte.
* `Ramp.colourAt?_stops`: The steps that can fail do not.
* `Ramp.paints_all_values`: What has been read as a ramp paints every value over every range.
-/

namespace SchoolAtlas

open Floats (parts exact)

namespace Floats

/-- What is not finite is no number or an infinity. -/
theorem isNaN_or_isInfinite {x : Float} (h : ¬x.isFinite = true) :
    x.isNaN = true ∨ ∃ sign, IsInfinite x sign := by
  have hfinite : x.isFinite = (parts x).isFinite := rfl
  have hnan : x.isNaN = (parts x).isNaN := rfl
  rw [hfinite] at h
  rw [hnan]
  simp only [IsInfinite]
  -- Of the four kinds of number, two are not finite.
  cases hparts : parts x with
  | notANumber => exact Or.inl rfl
  | infinity sign => exact Or.inr ⟨sign, rfl⟩
  | zero sign => exact absurd (hparts ▸ rfl) h
  | finite sign m e hm => exact absurd (hparts ▸ rfl) h

theorem exact_ofNat_zero : exact (Float.ofNat 0) = 0 := rfl

theorem exact_ofNat_one : exact (Float.ofNat 1) = 1 := by
  have hparts : parts (Float.ofNat 1) = .finite .positive (2 ^ 52) (-52) (by decide) := rfl
  rw [exact, hparts, value_positive]
  norm_num

/-- The greatest byte has all its bits as a floating-point number. -/
theorem parts_ofNat_byte :
    parts (Float.ofNat 255) = .finite .positive (255 * 2 ^ 45) (-45) (by decide) := rfl

theorem exact_ofNat_byte : exact (Float.ofNat 255) = 255 := by
  rw [exact, parts_ofNat_byte, value_positive]
  norm_num

end Floats

namespace Scalar

open Floats
open Float.Model (UnpackedFloat)

/-- What comes out of bringing a number between zero and one. -/
theorem clamp_cases (x : Float) :
    (clamp x).isNaN = true ∨
      ((clamp x).isFinite = true ∧ 0 ≤ exact (clamp x) ∧ exact (clamp x) ≤ 1) := by
  have hzero : (Float.ofNat 0).isFinite = true := rfl
  have hone : (Float.ofNat 1).isFinite = true := rfl
  have hclamp : clamp x = if less x (Float.ofNat 0) then Float.ofNat 0
      else if less (Float.ofNat 1) x then Float.ofNat 1 else x := rfl
  rw [hclamp]
  split
  · exact Or.inr ⟨hzero, exact_ofNat_zero.ge, exact_ofNat_zero.trans_le zero_le_one⟩
  · next hbelow =>
    split
    · exact Or.inr ⟨hone, zero_le_one.trans_eq exact_ofNat_one.symm, exact_ofNat_one.le⟩
    · next habove =>
      by_cases hx : x.isFinite = true
      · rw [less_eq hx hzero, decide_eq_true_eq, exact_ofNat_zero, not_lt] at hbelow
        rw [less_eq hone hx, decide_eq_true_eq, exact_ofNat_one, not_lt] at habove
        exact Or.inr ⟨hx, hbelow, habove⟩
      · rcases isNaN_or_isInfinite hx with hnan | ⟨sign, hinfinite⟩
        · exact Or.inl hnan
        · -- An infinity is below zero or above one.
          cases sign with
          | negative => exact absurd (less_of_infinite_left hinfinite hzero) hbelow
          | positive => exact absurd (less_of_infinite_right hone hinfinite) habove

variable {p : Float}

theorem round_float_eq (p : Float) :
    round p = if atMost (Float.ofNat 1 / Float.ofNat 2) (p - Float.ofNat (truncate p))
      then truncate p + 1 else truncate p := rfl

theorem round_le (p : Float) : round p ≤ truncate p + 1 := by
  rw [round_float_eq]
  split <;> omega

/-- Behind the point of 255 there is nothing to round up. -/
theorem round_byte (hfinite : p.isFinite = true) (hp : exact p = 255)
    (htruncate : truncate p = 255) : round p = 255 := by
  have hparts : parts p = parts (Float.ofNat 255) :=
    parts_eq_of_exact_eq hfinite rfl (by rw [hp]; norm_num) (hp.trans exact_ofNat_byte.symm)
  -- Nothing is left after the whole part, so there is no half to round up.
  have hrest : parts (p - Float.ofNat 255) = .zero .positive := by
    have hsub : parts (p - Float.ofNat 255) = (Float.Model.pack
        (UnpackedFloat.sub .binary64 (parts p) (parts (Float.ofNat 255)))).unpack := rfl
    rw [hsub, hparts]
    rfl
  have hless : atMost (Float.ofNat 1 / Float.ofNat 2) (p - Float.ofNat 255) = false := by
    refine decide_eq_false fun hhalf => ?_
    have hle : (parts (Float.ofNat 1 / Float.ofNat 2)).le (parts (p - Float.ofNat 255)) = true :=
      of_decide_eq_true hhalf
    rw [hrest] at hle
    exact absurd hle (by decide)
  rw [round_float_eq, htruncate, hless]
  rfl

/-- What is at most 255 is rounded to a byte, and what is no number is. -/
theorem round_lt (h : p.isNaN = true ∨ (p.isFinite = true ∧ 0 ≤ exact p ∧ exact p ≤ 255)) :
    round p < 256 := by
  have htruncate : truncate p = p.toUInt64.toNat := rfl
  have hle := round_le p
  rcases h with hnan | ⟨hfinite, hnonneg, hmost⟩
  · rw [htruncate, toUInt64_of_isNaN hnan] at hle
    omega
  · rw [toUInt64_eq hfinite hnonneg (by linarith)] at htruncate
    have hwhole : ⌊exact p⌋₊ ≤ 255 := Nat.floor_le_of_le (by exact_mod_cast hmost)
    -- A whole part of 255 means that the number is 255, since it is not above it.
    by_cases hlast : ⌊exact p⌋₊ = 255
    · have hfloor := Nat.floor_le hnonneg
      rw [hlast] at hfloor
      have hexact : exact p = 255 := le_antisymm hmost (by exact_mod_cast hfloor)
      rw [round_byte hfinite hexact (htruncate.trans hlast)]
      decide
    · omega

end Scalar

/-- Every component has a byte. -/
theorem channel_float_lt (x : Float) : channel x < 256 := by
  have hchannel : channel x = Scalar.round (Scalar.clamp x * Float.ofNat 255) := rfl
  rw [hchannel]
  refine Scalar.round_lt ?_
  rcases Scalar.clamp_cases x with hnan | ⟨hfinite, hnonneg, hone⟩
  · exact Or.inl (Floats.isNaN_mul_of_isNaN hnan)
  · right
    rw [← Floats.exact_ofNat_byte]
    exact Floats.mul_le Floats.parts_ofNat_byte (by decide) (by decide) hfinite hnonneg hone

/-- A hash and six hexadecimal digits, those above nine in lower case. -/
def IsHexColour (text : String) : Prop :=
  ∃ digits : List Char, text.toList = '#' :: digits ∧ digits.length = 6 ∧
    ∀ d ∈ digits, d ∈ "0123456789abcdef".toList

theorem hexPair_digits (n : Nat) : ∀ d ∈ hexPair n, d ∈ "0123456789abcdef".toList := by
  have hdigit : ∀ k < 16, Nat.digitChar k ∈ "0123456789abcdef".toList := by decide
  rw [hexPair, List.forall_mem_cons, List.forall_mem_singleton]
  exact ⟨hdigit _ (Nat.mod_lt _ (by decide)), hdigit _ (Nat.mod_lt _ (by decide))⟩

theorem isHexColour_hex {α : Type} [Scalar α] (c : Rgb α) : IsHexColour c.hex := by
  refine ⟨_, by rw [Rgb.hex, String.toList_ofList, List.cons_append, List.cons_append], rfl, ?_⟩
  rw [List.forall_mem_append, List.forall_mem_append]
  exact ⟨⟨hexPair_digits _, hexPair_digits _⟩, hexPair_digits _⟩

namespace Ramp

section Steps

variable {α : Type} [Scalar α]

/-- The colour of a value, by steps that can fail. One cannot be taken from zero, and there is no
    colour outside the row. -/
def colourAt? (stops : List (Rgb α)) (value : α) (b : Bounds α) : Option String := do
  let segments ← stops.length.ppred
  if segments = 0 then
    let c ← stops[0]?
    return c.hex
  let scaled := b.position value * Scalar.ofNat segments
  let last ← segments.ppred
  let segment := min (Scalar.truncate scaled) last
  let c ← stops[segment]?
  let d ← stops[segment + 1]?
  return (blend (scaled - Scalar.ofNat segment) c d).hex

/-- The steps that can fail do not, if there is a colour. -/
theorem colourAt?_stops (r : Ramp α) (value : α) (b : Bounds α) :
    colourAt? r.stops value b = some (r.colourAt value b) := by
  have hpos := r.length_pos
  have hlength : r.segments = r.stops.length - 1 := rfl
  have hfirst : r.stops.length.ppred = some r.segments := Nat.ppred_eq_some.mpr (by omega)
  rw [colourAt?, hfirst, colourAt]
  by_cases hsegments : r.segments = 0
  · -- A single colour is the first one.
    have hhead : r.stops[0]? = some r.first := by
      rw [← List.head?_eq_getElem?, List.head?_eq_some_head r.stops_ne_nil, first]
    rw [blendAt, dif_pos hsegments]
    simp [hsegments, hhead]
  · have hlast : r.segments.ppred = some (r.segments - 1) := Nat.ppred_eq_some.mpr (by omega)
    rcases r.exists_blend hsegments (b.position value) with ⟨i, hi, hsegment, hblend⟩
    rw [hblend]
    simp only [Option.bind_eq_bind, Option.bind_some]
    rw [if_neg hsegments, hlast, Option.bind_some, ← hsegment, List.getElem?_eq_getElem hi,
      List.getElem?_eq_getElem (Nat.lt_of_succ_lt hi), Option.bind_some, Option.bind_some]
    rfl

end Steps

/-- What is read has a colour for each text. -/
theorem length_readStops {texts : List String} {stops : List (Rgb Float)}
    (h : readStops texts = .ok stops) : stops.length = texts.length := by
  induction texts generalizing stops with
  | nil =>
      cases h
      rfl
  | cons text rest ih =>
      -- A text that is no colour, here or later, would have ended the reading.
      rw [readStops] at h
      split at h
      · cases h
      · split at h
        · cases h
        · next hrest =>
          cases h
          rw [List.length_cons, List.length_cons, ih hrest]

theorem length_ofTexts {texts : List String} {r : Ramp Float} (h : ofTexts texts = .ok r) :
    r.stops.length = texts.length := by
  rw [ofTexts] at h
  split at h
  · cases h
  · next hstops =>
    split at h
    · cases h
    · cases h
      exact length_readStops hstops

/-- The text of a painted value tells its three bytes. -/
theorem byte_colourAt_float (r : Ramp Float) (value : Float) (b : Bounds Float) (ch : Channel) :
    channel (ch.of (r.blendAt (b.position value))) < 256 ∧
      ch.byte (r.colourAt value b) = channel (ch.of (r.blendAt (b.position value))) :=
  ⟨channel_float_lt _, ch.byte_hex_of_lt (channel_float_lt _)⟩

/-- What has been read as a ramp paints every value over every range, be they numbers or not. It has
    as many colours as texts were read, of which there is at least one, and one more than it has
    segments. The segment of a value has a colour at either end, and the value is painted in a blend
    of the two. None of the steps that can fail does, and the text is a hash and six digits, which
    are those of three bytes. -/
theorem paints_all_values {texts : List String} {r : Ramp Float} (h : ofTexts texts = .ok r)
    (value : Float) (b : Bounds Float) :
    texts ≠ [] ∧ r.stops.length = texts.length ∧ r.stops.length = r.segments + 1 ∧
    (r.segments ≠ 0 → ∃ (i : Nat) (hi : i + 1 < r.stops.length),
      i = min (Scalar.truncate (b.position value * Scalar.ofNat r.segments)) (r.segments - 1) ∧
      r.blendAt (b.position value) = blend
        (b.position value * Scalar.ofNat r.segments - Scalar.ofNat i) r.stops[i] r.stops[i + 1]) ∧
    colourAt? r.stops value b = some (r.colourAt value b) ∧ IsHexColour (r.colourAt value b) ∧
    ∀ ch : Channel, channel (ch.of (r.blendAt (b.position value))) < 256 ∧
      ch.byte (r.colourAt value b) = channel (ch.of (r.blendAt (b.position value))) := by
  have hpos := r.length_pos
  have hlength := length_ofTexts h
  have hsegments : r.segments = r.stops.length - 1 := rfl
  refine ⟨fun hnil => ?_, hlength, by omega, fun hne => r.exists_blend hne _,
    colourAt?_stops r value b, isHexColour_hex _, byte_colourAt_float r value b⟩
  -- A ramp has a first colour, and so there was a text for it.
  rw [hnil, List.length_nil] at hlength
  omega

/-- Two colours over a range without ends, in which no value has a place, and a value that is no
    number over a range that is upside down. -/
theorem paints_all_values_two :
    let infinite := Numeral.infiniteFloat
    ∃ r, ofTexts ["#000000", "white"] = .ok r ∧
      ((⟨-infinite, infinite⟩ : Bounds Float).position 1.0).isNaN = true ∧
      colourAt? r.stops 1.0 ⟨-infinite, infinite⟩ = some (r.colourAt 1.0 ⟨-infinite, infinite⟩) ∧
      IsHexColour (r.colourAt (infinite - infinite) ⟨4.0, 0.0⟩) := by
  intro infinite
  have hread : (ofTexts ["#000000", "white"]).isOk = true := by decide +kernel
  -- The ramp can be read, which is all that the theorem asks for.
  cases hramp : ofTexts ["#000000", "white"] with
  | error e =>
      rw [hramp] at hread
      exact Bool.noConfusion hread
  | ok r =>
      refine ⟨r, rfl, by decide +kernel, ?_, ?_⟩
      · exact (paints_all_values hramp 1.0 ⟨-infinite, infinite⟩).2.2.2.2.1
      · exact (paints_all_values hramp (infinite - infinite) ⟨4.0, 0.0⟩).2.2.2.2.2.1

end Ramp

end SchoolAtlas
