import Mathlib
import SchoolAtlas.Map.Ramp

/-!
# Ramps in Exact Arithmetic

What a map means to show, without rounding: the formulas of the ramp over fractions.

A value is painted in two steps. It is given a place in the range, and the ramp is followed to
that place. The first step is a straight line that is cut off at both ends. The second is made of
straight pieces, one for each segment, and everything rests on their fitting together: at the
place of a colour it does not matter which of the two segments that meet there is taken
(`Ramp.blendAt_eq`). The code takes the one above, except at the upper end, where there is none.

Within a segment a component runs straight from one colour to the next, so it stays between them
and never turns. That carries over to the bytes, which keep the order of components. Over several
segments a byte never turns if it does not turn from colour to colour. This is asked of the bytes
and not of the components, since two components in the wrong order may have the same byte, and
then the byte stands still between them.

Rising and falling are the same argument about a relation that is kept in each segment
(`Ramp.byte_along`).

## Main definitions

* `Channel`, `Channel.byte`: Red, green or blue, and its byte in the text of a colour.
* `Ramp.valueAt`: The value that is painted in one of the colours.
* `Ramp.Interpolates`: A ramp runs from colour to colour over a range.

## Theorems

* `channel_mono`: Bytes keep the order of components.
* `Channel.byte_hex_of_lt`, `Channel.byte_hex`: The text of a colour tells its bytes.
* `Bounds.position_mono`: Places keep the order of values.
* `Ramp.blendAt_eq`: The colour at a place of a segment.
* `Ramp.byte_along`: What is kept in each segment is kept along the ramp.
* `Ramp.interpolates`: A ramp runs from colour to colour over a range with extent.
* `Ramp.exact_colours`: The colours of a ramp in exact arithmetic.
-/

namespace SchoolAtlas

namespace Scalar

theorem clamp_eq (x : Rat) : clamp x = max 0 (min x 1) := by
  have hclamp : clamp x = if x < 0 then 0 else if 1 < x then 1 else x := by
    simp only [clamp, less, decide_eq_true_eq]
    rfl
  rw [hclamp]
  split
  · next hx => rw [min_eq_left (by linarith), max_eq_left hx.le]
  · next hx =>
    split
    · next hx' => rw [min_eq_right hx'.le, max_eq_right zero_le_one]
    · next hx' => rw [min_eq_left (not_lt.mp hx'), max_eq_right (not_lt.mp hx)]

theorem clamp_mono : Monotone (clamp : Rat → Rat) := by
  intro x y hxy
  rw [clamp_eq, clamp_eq]
  exact max_le_max le_rfl (min_le_min hxy le_rfl)

theorem clamp_nonneg (x : Rat) : 0 ≤ clamp x := by
  rw [clamp_eq]
  exact le_max_left _ _

theorem clamp_le_one (x : Rat) : clamp x ≤ 1 := by
  rw [clamp_eq]
  exact max_le zero_le_one (min_le_right _ _)

theorem clamp_of_nonpos {x : Rat} (h : x ≤ 0) : clamp x = 0 := by
  rw [clamp_eq, min_eq_left (h.trans zero_le_one), max_eq_left h]

theorem clamp_of_one_le {x : Rat} (h : 1 ≤ x) : clamp x = 1 := by
  rw [clamp_eq, min_eq_right h, max_eq_right zero_le_one]

theorem clamp_of_mem {x : Rat} (h : 0 ≤ x) (h' : x ≤ 1) : clamp x = x := by
  rw [clamp_eq, min_eq_left h', max_eq_right h]

theorem truncate_eq (x : Rat) : truncate x = ⌊x⌋₊ := Int.floor_toNat x

/-- Half way goes up, so rounding is taking the whole part of what lies a half above. -/
theorem round_eq (x : Rat) : round x = ⌊x + 1 / 2⌋₊ := by
  have hround : round x = if 1 / 2 ≤ x - (⌊x⌋₊ : Rat) then ⌊x⌋₊ + 1 else ⌊x⌋₊ := by
    rw [← truncate_eq]
    simp only [round, atMost, decide_eq_true_eq]
    rfl
  rw [hround]
  symm
  by_cases hx : 0 ≤ x
  · have hlo := Nat.floor_le hx
    have hhi := Nat.lt_floor_add_one x
    split
    · next hhalf =>
      refine (Nat.floor_eq_iff (by linarith)).mpr ⟨?_, ?_⟩
      · push_cast
        linarith
      · push_cast
        linarith
    · next hhalf => exact (Nat.floor_eq_iff (by linarith)).mpr ⟨by linarith, by linarith⟩
  · -- Below zero the whole part is zero, and a half does not lift it to one.
    have hzero : ⌊x⌋₊ = 0 := Nat.floor_of_nonpos (not_le.mp hx).le
    rw [hzero, if_neg (by push_cast; linarith)]
    exact Nat.floor_eq_zero.mpr (by linarith)

end Scalar

/-- The byte of a component is its part of 255, rounded. -/
theorem channel_eq (x : Rat) : channel x = ⌊Scalar.clamp x * 255 + 1 / 2⌋₊ := by
  rw [← Scalar.round_eq]
  rfl

/-- Bytes keep the order of components. -/
theorem channel_mono : Monotone (channel : Rat → Nat) := by
  intro x y hxy
  have hclamped := Scalar.clamp_mono hxy
  rw [channel_eq, channel_eq]
  exact Nat.floor_mono (by linarith)

theorem channel_lt (x : Rat) : channel x < 256 := by
  have hclamped := Scalar.clamp_le_one x
  rw [channel_eq, Nat.floor_lt' (by decide)]
  push_cast
  linarith

/-- The components of a colour. -/
inductive Channel where
  | red
  | green
  | blue
deriving DecidableEq, Repr

namespace Channel

/-- The component of a colour. -/
def of {α : Type} : Channel → Rgb α → α
  | red => Rgb.red
  | green => Rgb.green
  | blue => Rgb.blue

/-- How many characters of a colour's text come before the digits of a channel. -/
def digitsAfter : Channel → Nat
  | red => 1
  | green => 3
  | blue => 5

/-- The byte of a channel in the text of a colour. -/
def byte (ch : Channel) (text : String) : Nat :=
  match text.toList.drop ch.digitsAfter with
  | high :: low :: _ => (Colour.hexPair? high low).getD 0
  | _ => 0

theorem hexPair?_hexPair {n : Nat} (h : n < 256) :
    Colour.hexPair? (Nat.digitChar (n / 16 % 16)) (Nat.digitChar (n % 16)) = some n := by
  revert n
  decide +kernel

/-- The text of a colour tells what is a byte, in any arithmetic. -/
theorem byte_hex_of_lt {α : Type} [Scalar α] (ch : Channel) {c : Rgb α}
    (h : channel (ch.of c) < 256) : ch.byte c.hex = channel (ch.of c) := by
  -- Each component has two digits of its own, at a place that its channel knows.
  have hread : (Colour.hexPair? (Nat.digitChar (channel (ch.of c) / 16 % 16))
      (Nat.digitChar (channel (ch.of c) % 16))).getD 0 = channel (ch.of c) := by
    rw [hexPair?_hexPair h, Option.getD_some]
  cases ch with
  | red =>
      rw [byte, Rgb.hex, String.toList_ofList]
      exact hread
  | green =>
      rw [byte, Rgb.hex, String.toList_ofList]
      exact hread
  | blue =>
      rw [byte, Rgb.hex, String.toList_ofList]
      exact hread

/-- The text of a colour tells its bytes. -/
theorem byte_hex (ch : Channel) (c : Rgb Rat) : ch.byte c.hex = channel (ch.of c) :=
  ch.byte_hex_of_lt (channel_lt _)

end Channel

namespace Bounds

variable {b : Bounds Rat} {v : Rat}

theorem position_eq (h : b.min < b.max) (v : Rat) :
    b.position v = Scalar.clamp ((v - b.min) / (b.max - b.min)) := by
  have hspan : ¬b.max - b.min ≤ 0 := by linarith
  rw [position]
  exact if_neg (by simpa [Scalar.atMost, Scalar.isFinite, Scalar.ofNat] using hspan)

/-- Without extent there is only one place. -/
theorem position_of_le (h : b.max ≤ b.min) (v : Rat) : b.position v = 0 := by
  have hspan : b.max - b.min ≤ 0 := by linarith
  rw [position]
  exact if_pos (by simpa [Scalar.atMost, Scalar.isFinite, Scalar.ofNat] using hspan)

/-- Places keep the order of values. -/
theorem position_mono (h : b.min < b.max) : Monotone b.position := by
  intro v w hvw
  have hspan : 0 < b.max - b.min := by linarith
  rw [position_eq h, position_eq h]
  exact Scalar.clamp_mono (div_le_div_of_nonneg_right (by linarith) hspan.le)

theorem position_nonneg (h : b.min < b.max) (v : Rat) : 0 ≤ b.position v := by
  rw [position_eq h]
  exact Scalar.clamp_nonneg _

theorem position_le_one (h : b.min < b.max) (v : Rat) : b.position v ≤ 1 := by
  rw [position_eq h]
  exact Scalar.clamp_le_one _

theorem position_of_le_min (h : b.min < b.max) (hv : v ≤ b.min) : b.position v = 0 := by
  have hspan : 0 < b.max - b.min := by linarith
  rw [position_eq h]
  exact Scalar.clamp_of_nonpos (div_nonpos_of_nonpos_of_nonneg (by linarith) hspan.le)

theorem position_of_max_le (h : b.min < b.max) (hv : b.max ≤ v) : b.position v = 1 := by
  have hspan : 0 < b.max - b.min := by linarith
  rw [position_eq h]
  refine Scalar.clamp_of_one_le ((one_le_div hspan).mpr ?_)
  linarith

end Bounds

namespace Ramp

variable {r : Ramp Rat} {b : Bounds Rat}

/-- The value that is painted in one of the colours. They divide the range evenly. -/
def valueAt (r : Ramp Rat) (b : Bounds Rat) (k : Nat) : Rat :=
  b.min + k * (b.max - b.min) / r.segments

theorem position_valueAt (h : b.min < b.max) {k : Nat} (hk : k ≤ r.segments)
    (hsegments : 0 < r.segments) : b.position (r.valueAt b k) * r.segments = k := by
  have hspan : b.max - b.min ≠ 0 := by linarith
  have hpos : (0 : Rat) < r.segments := Nat.cast_pos.mpr hsegments
  -- The value was made from the place, so the place comes back if the range has an extent.
  have hplace : (r.valueAt b k - b.min) / (b.max - b.min) = k / r.segments := by
    rw [valueAt]
    field_simp
    ring
  have hone : (k : Rat) / r.segments ≤ 1 := by
    rw [div_le_one hpos]
    exact Nat.cast_le.mpr hk
  rw [Bounds.position_eq h, hplace, Scalar.clamp_of_mem (by positivity) hone,
    div_mul_cancel₀ _ hpos.ne']

/-- Straight from one component to another. -/
def mix (x y place : Rat) : Rat := x + (y - x) * place

theorem of_blend (ch : Channel) (place : Rat) (c d : Rgb Rat) :
    ch.of (blend place c d) = mix (ch.of c) (ch.of d) place := by
  cases ch <;> rfl

theorem mix_zero (x y : Rat) : mix x y 0 = x := by
  unfold mix
  ring

theorem mix_one (x y : Rat) : mix x y 1 = y := by
  unfold mix
  ring

/-- From one component to another is the same way as back. -/
theorem mix_swap (x y place : Rat) : mix x y place = mix y x (1 - place) := by
  unfold mix
  ring

/-- On the way to a greater component components grow. -/
theorem mix_mono {x y p q : Rat} (h : x ≤ y) (hpq : p ≤ q) : mix x y p ≤ mix x y q := by
  have hway : (y - x) * p ≤ (y - x) * q := mul_le_mul_of_nonneg_left hpq (by linarith)
  unfold mix
  linarith

/-- On the way to a byte that is not less, bytes do not fall. -/
theorem channel_mix_mono {x y p q : Rat} (h : channel x ≤ channel y) (hp : 0 ≤ p) (hpq : p ≤ q)
    (hq : q ≤ 1) : channel (mix x y p) ≤ channel (mix x y q) := by
  by_cases hxy : x ≤ y
  · exact channel_mono (mix_mono hxy hpq)
  · -- The components fall, but their bytes are the same at both ends and so in between.
    have hyx : y ≤ x := (not_le.mp hxy).le
    have hfirst : channel (mix x y p) ≤ channel x := by
      refine channel_mono ?_
      rw [mix_swap]
      exact (mix_mono hyx (by linarith)).trans_eq (mix_one y x)
    have hsecond : channel y ≤ channel (mix x y q) := by
      refine channel_mono ?_
      rw [mix_swap x y q]
      exact (mix_zero y x).symm.trans_le (mix_mono hyx (by linarith))
    exact hfirst.trans (h.trans hsecond)

theorem channel_mix_anti {x y p q : Rat} (h : channel y ≤ channel x) (hp : 0 ≤ p) (hpq : p ≤ q)
    (hq : q ≤ 1) : channel (mix x y q) ≤ channel (mix x y p) := by
  rw [mix_swap x y p, mix_swap x y q]
  exact channel_mix_mono h (by linarith) (by linarith) (by linarith)

/-- A byte on the way lies between the bytes at its ends. -/
theorem channel_mix_between (x y : Rat) {p : Rat} (hp : 0 ≤ p) (hp' : p ≤ 1) :
    min (channel x) (channel y) ≤ channel (mix x y p) ∧
      channel (mix x y p) ≤ max (channel x) (channel y) := by
  rcases le_total (channel x) (channel y) with h | h
  -- Going from the smaller component to the greater, the byte only grows.
  · have hlow := channel_mix_mono h le_rfl hp hp'
    have hhigh := channel_mix_mono h hp hp' le_rfl
    rw [mix_zero] at hlow
    rw [mix_one] at hhigh
    exact ⟨(min_le_left _ _).trans hlow, hhigh.trans (le_max_right _ _)⟩
  · have hhigh := channel_mix_anti h le_rfl hp hp'
    have hlow := channel_mix_anti h hp hp' le_rfl
    rw [mix_zero] at hhigh
    rw [mix_one] at hlow
    exact ⟨(min_le_right _ _).trans hlow, hhigh.trans (le_max_left _ _)⟩

theorem ext_of {c d : Rgb Rat} (h : ∀ ch : Channel, ch.of c = ch.of d) : c = d := by
  rcases c with ⟨red, green, blue⟩
  rcases d with ⟨red', green', blue'⟩
  cases h .red
  cases h .green
  cases h .blue
  rfl

theorem blend_zero (c d : Rgb Rat) : blend 0 c d = c :=
  ext_of fun ch => (of_blend ch 0 c d).trans (mix_zero _ _)

theorem blend_one (c d : Rgb Rat) : blend 1 c d = d :=
  ext_of fun ch => (of_blend ch 1 c d).trans (mix_one _ _)

/-- The segment that the code takes, in any arithmetic. -/
theorem exists_blend {α : Type} [Scalar α] (r : Ramp α) (hsegments : r.segments ≠ 0) (place : α) :
    ∃ (i : Nat) (hi : i + 1 < r.stops.length),
      i = min (Scalar.truncate (place * Scalar.ofNat r.segments)) (r.segments - 1) ∧
      r.blendAt place = blend (place * Scalar.ofNat r.segments - Scalar.ofNat i) r.stops[i]
        r.stops[i + 1] := by
  -- The last segment is the most that is taken, and it has a colour at its end.
  have hbound : min (Scalar.truncate (place * Scalar.ofNat r.segments)) (r.segments - 1) + 1
      < r.stops.length := by
    have hlength : r.segments = r.stops.length - 1 := rfl
    have hmin := Nat.min_le_right (Scalar.truncate (place * Scalar.ofNat r.segments))
      (r.segments - 1)
    omega
  refine ⟨_, hbound, rfl, ?_⟩
  rw [blendAt, dif_neg hsegments]

/-- The segment of a place in exact arithmetic. -/
theorem blendAt_segment (r : Ramp Rat) (hsegments : r.segments ≠ 0) (place : Rat) :
    ∃ (i : Nat) (hi : i + 1 < r.stops.length),
      i = min ⌊place * r.segments⌋₊ (r.segments - 1) ∧
      r.blendAt place = blend (place * r.segments - i) r.stops[i] r.stops[i + 1] := by
  rcases r.exists_blend hsegments place with ⟨i, hi, hsegment, hblend⟩
  rw [Scalar.truncate_eq] at hsegment
  exact ⟨i, hi, hsegment, hblend⟩

/-- The colour at a place of a segment, be it inside or at one of its ends. Where two segments meet
    it does not matter which is taken. -/
theorem blendAt_eq {k : Nat} (hk : k + 1 < r.stops.length) {place : Rat}
    (hlo : k ≤ place * r.segments) (hhi : place * r.segments ≤ k + 1) :
    r.blendAt place = blend (place * r.segments - k) r.stops[k] r.stops[k + 1] := by
  have hlength : r.segments = r.stops.length - 1 := rfl
  rcases r.blendAt_segment (by omega) place with ⟨i, hi, hsegment, hblend⟩
  rw [hblend]
  by_cases hend : place * r.segments = k + 1
  · have hfloor : ⌊place * r.segments⌋₊ = k + 1 := by
      rw [hend]
      exact_mod_cast Nat.floor_natCast (k + 1)
    by_cases hlast : k + 1 = r.segments
    · -- At the upper end of the ramp there is no segment above.
      have hik : i = k := by omega
      subst hik
      rfl
    · have hik : i = k + 1 := by omega
      subst hik
      rw [hend]
      push_cast
      rw [sub_self, add_sub_cancel_left, blend_zero, blend_one]
  · have hfloor : ⌊place * r.segments⌋₊ = k :=
      (Nat.floor_eq_iff (le_trans (Nat.cast_nonneg k) hlo)).mpr ⟨hlo, lt_of_le_of_ne hhi hend⟩
    have hik : i = k := by omega
    subst hik
    rfl

/-- Every place lies in a segment. -/
theorem exists_segment (r : Ramp Rat) (hsegments : r.segments ≠ 0) {place : Rat} (h : 0 ≤ place)
    (h' : place ≤ 1) :
    ∃ k, k + 1 < r.stops.length ∧ k ≤ place * r.segments ∧ place * r.segments ≤ k + 1 := by
  have hlength : r.segments = r.stops.length - 1 := rfl
  have hnonneg : 0 ≤ place * r.segments := mul_nonneg h (Nat.cast_nonneg _)
  have hmost : place * r.segments ≤ r.segments := mul_le_of_le_one_left (Nat.cast_nonneg _) h'
  have hlo := Nat.floor_le hnonneg
  by_cases hlast : ⌊place * r.segments⌋₊ < r.segments
  · exact ⟨_, by omega, hlo, (Nat.lt_floor_add_one _).le⟩
  · -- The upper end belongs to the last segment.
    have hend : r.segments - 1 + 1 = r.segments := by omega
    have hcast : ((r.segments - 1 : Nat) : Rat) + 1 = r.segments := by exact_mod_cast hend
    have hfloor : (r.segments : Rat) ≤ ⌊place * r.segments⌋₊ := Nat.cast_le.mpr (not_lt.mp hlast)
    exact ⟨r.segments - 1, by omega, by linarith, by linarith⟩

/-- At the place of a colour the ramp has that colour. -/
theorem blendAt_stop (hsegments : r.segments ≠ 0) {k : Nat} (hk : k < r.stops.length) {place : Rat}
    (h : place * r.segments = k) : r.blendAt place = r.stops[k] := by
  have hlength : r.segments = r.stops.length - 1 := rfl
  by_cases hnext : k + 1 < r.stops.length
  · rw [blendAt_eq hnext h.ge (by linarith), h, sub_self, blend_zero]
  · -- The last colour is where the last segment ends.
    obtain ⟨j, rfl⟩ : ∃ j, k = j + 1 := ⟨k - 1, by omega⟩
    push_cast at h
    rw [blendAt_eq hk (by linarith) h.le, h, add_sub_cancel_left, blend_one]

theorem byte_colourAt (ch : Channel) (v : Rat) :
    ch.byte (r.colourAt v b) = channel (ch.of (r.blendAt (b.position v))) :=
  ch.byte_hex _

section Along

variable {R : Nat → Nat → Prop} [IsPreorder Nat R] {ch : Channel}

/-- What the bytes of neighbouring colours keep, all of them keep. -/
theorem byte_stops (h : (r.hexStops.map ch.byte).IsChain R) {i j : Nat} (hij : i ≤ j)
    (hj : j < r.stops.length) :
    R (channel (ch.of r.stops[i])) (channel (ch.of r.stops[j])) := by
  have hbytes : r.hexStops.map ch.byte = r.stops.map (fun c => channel (ch.of c)) := by
    rw [hexStops, List.map_map]
    exact List.map_congr_left fun c _ => ch.byte_hex c
  rw [hbytes, List.isChain_iff_pairwise, List.pairwise_map, List.pairwise_iff_getElem] at h
  rcases hij.eq_or_lt with rfl | hlt
  · exact refl_of R _
  · exact h i j _ hj hlt

/-- What a byte keeps within each segment, and from colour to colour, it keeps along the ramp. -/
theorem byte_along (h : (r.hexStops.map ch.byte).IsChain R)
    (hmix : ∀ {x y p q : Rat}, R (channel x) (channel y) → 0 ≤ p → p ≤ q → q ≤ 1 →
      R (channel (mix x y p)) (channel (mix x y q)))
    (hsegments : r.segments ≠ 0) {p q : Rat} (hp : 0 ≤ p) (hpq : p ≤ q) (hq : q ≤ 1) :
    R (channel (ch.of (r.blendAt p))) (channel (ch.of (r.blendAt q))) := by
  rcases r.exists_segment hsegments hp (hpq.trans hq) with ⟨i, hi, hilo, hihi⟩
  rcases r.exists_segment hsegments (hp.trans hpq) hq with ⟨j, hj, hjlo, hjhi⟩
  have hscaled : p * r.segments ≤ q * r.segments :=
    mul_le_mul_of_nonneg_right hpq (Nat.cast_nonneg _)
  rw [blendAt_eq hi hilo hihi, blendAt_eq hj hjlo hjhi, of_blend, of_blend]
  have hneighbours : ∀ k (hk : k + 1 < r.stops.length),
      R (channel (ch.of r.stops[k])) (channel (ch.of r.stops[k + 1])) :=
    fun k hk => byte_stops h k.le_succ hk
  rcases lt_trichotomy i j with hij | rfl | hji
  · -- From the one place to the end of its segment, along the colours, and on to the other place.
    have hfirst := hmix (hneighbours i hi) (p := p * r.segments - i) (q := 1) (by linarith)
      (by linarith) le_rfl
    have hlast := hmix (hneighbours j hj) (p := 0) (q := q * r.segments - j) le_rfl
      (by linarith) (by linarith)
    rw [mix_one] at hfirst
    rw [mix_zero] at hlast
    exact trans_of R hfirst (trans_of R (byte_stops h hij (by omega)) hlast)
  · exact hmix (hneighbours i hi) (by linarith) (by linarith) (by linarith)
  · -- The places can only be the same, where the two segments meet.
    have hmeet : ((j : Rat) + 1) ≤ i := by exact_mod_cast hji
    have hsame : p * r.segments = q * r.segments := by linarith
    have hpq' : r.blendAt p = r.blendAt q :=
      congrArg r.blendAt (mul_right_cancel₀ (Nat.cast_ne_zero.mpr hsegments) hsame)
    rw [← of_blend, ← of_blend, ← blendAt_eq hi hilo hihi, ← blendAt_eq hj hjlo hjhi, hpq']
    exact refl_of R _

end Along

/-- A ramp runs from colour to colour over a range. -/
structure Interpolates (r : Ramp Rat) (b : Bounds Rat) : Prop where
  below : ∀ v ≤ b.min, r.hexStops.head? = some (r.colourAt v b)
  above : ∀ v, b.max ≤ v → r.hexStops.getLast? = some (r.colourAt v b)
  onStop : ∀ k < r.hexStops.length, r.hexStops[k]? = some (r.colourAt (r.valueAt b k) b)
  between : ∀ k low high, r.hexStops[k]? = some low → r.hexStops[k + 1]? = some high →
    ∀ v, r.valueAt b k ≤ v → v ≤ r.valueAt b (k + 1) → ∀ ch : Channel,
      min (ch.byte low) (ch.byte high) ≤ ch.byte (r.colourAt v b) ∧
      ch.byte (r.colourAt v b) ≤ max (ch.byte low) (ch.byte high)
  rising : ∀ ch : Channel, (r.hexStops.map ch.byte).IsChain (· ≤ ·) →
    Monotone fun v => ch.byte (r.colourAt v b)
  falling : ∀ ch : Channel, (r.hexStops.map ch.byte).IsChain (· ≥ ·) →
    Antitone fun v => ch.byte (r.colourAt v b)

theorem getElem?_hexStops (k : Nat) : r.hexStops[k]? = r.stops[k]?.map Rgb.hex :=
  List.getElem?_map ..

/-- A ramp of several colours runs from colour to colour over a range with extent. -/
theorem interpolates (hstops : 2 ≤ r.stops.length) (h : b.min < b.max) : r.Interpolates b := by
  have hlength : r.segments = r.stops.length - 1 := rfl
  have hsegments : r.segments ≠ 0 := by omega
  have hstop : ∀ k (hk : k < r.stops.length) v, b.position v * r.segments = k →
      r.hexStops[k]? = some (r.colourAt v b) := by
    intro k hk v hv
    rw [getElem?_hexStops, List.getElem?_eq_getElem hk, colourAt, blendAt_stop hsegments hk hv]
    rfl
  have hlast : r.hexStops.length - 1 = r.segments := by rw [hexStops, List.length_map, hlength]
  refine ⟨fun v hv => ?_, fun v hv => ?_, fun k hk => ?_, ?_, fun ch hrise v w hvw => ?_,
    fun ch hfall v w hvw => ?_⟩
  · rw [List.head?_eq_getElem?]
    exact hstop 0 (by omega) v (by rw [Bounds.position_of_le_min h hv, zero_mul, Nat.cast_zero])
  · rw [List.getLast?_eq_getElem?, hlast]
    exact hstop _ (by omega) v (by rw [Bounds.position_of_max_le h hv, one_mul])
  · rw [hexStops, List.length_map] at hk
    exact hstop k hk _ (position_valueAt h (by omega) (by omega))
  · intro k low high hlow hhigh v hv hv' ch
    rw [getElem?_hexStops, Option.map_eq_some_iff] at hlow hhigh
    rcases hlow with ⟨c, hc, rfl⟩
    rcases hhigh with ⟨d, hd, rfl⟩
    rcases List.getElem?_eq_some_iff.mp hc with ⟨_, rfl⟩
    rcases List.getElem?_eq_some_iff.mp hd with ⟨hk, rfl⟩
    -- Between the values of two colours the place lies between their places.
    have hlo := mul_le_mul_of_nonneg_right (Bounds.position_mono h hv) (Nat.cast_nonneg r.segments)
    have hhi := mul_le_mul_of_nonneg_right (Bounds.position_mono h hv') (Nat.cast_nonneg r.segments)
    rw [position_valueAt h (by omega) (by omega)] at hlo hhi
    push_cast at hhi
    rw [ch.byte_hex, ch.byte_hex, byte_colourAt, blendAt_eq hk hlo hhi, of_blend]
    exact channel_mix_between _ _ (by linarith) (by linarith)
  · simp only [byte_colourAt]
    exact byte_along hrise channel_mix_mono hsegments (Bounds.position_nonneg h v)
      (Bounds.position_mono h hvw) (Bounds.position_le_one h w)
  · simp only [byte_colourAt]
    exact byte_along (R := (· ≥ ·)) hfall channel_mix_anti hsegments (Bounds.position_nonneg h v)
      (Bounds.position_mono h hvw) (Bounds.position_le_one h w)

theorem head?_hexStops {α : Type} [Scalar α] (r : Ramp α) :
    r.hexStops.head? = some r.first.hex := by
  rw [hexStops, List.head?_map, List.head?_eq_some_head r.stops_ne_nil]
  rfl

/-- A single colour is that of all values, in any arithmetic. -/
theorem colourAt_of_one_stop {α : Type} [Scalar α] {r : Ramp α} (h : r.stops.length = 1) (v : α)
    (b : Bounds α) : r.hexStops.head? = some (r.colourAt v b) := by
  have hsegments : r.segments = 0 := by rw [segments, h]
  rw [head?_hexStops, colourAt, blendAt, dif_pos hsegments]

/-- Over a range without extent all values have the first colour. -/
theorem colourAt_of_no_extent (h : b.max ≤ b.min) (v : Rat) :
    r.hexStops.head? = some (r.colourAt v b) := by
  have hlength : r.segments = r.stops.length - 1 := rfl
  have hpos := r.length_pos
  by_cases hsegments : r.segments = 0
  · exact colourAt_of_one_stop (by omega) v b
  · have hfirst : r.blendAt (b.position v) = r.stops[0] :=
      blendAt_stop hsegments hpos (by rw [Bounds.position_of_le h, zero_mul, Nat.cast_zero])
    rw [head?_hexStops, colourAt, hfirst, first, List.head_eq_getElem]

/-- A value that is not above the lower bound has the first colour, whatever the other bound is. -/
theorem colourAt_of_le_min {v : Rat} (hv : v ≤ b.min) :
    r.hexStops.head? = some (r.colourAt v b) := by
  have hpos := r.length_pos
  by_cases hextent : b.min < b.max
  · by_cases hstops : 2 ≤ r.stops.length
    · exact (interpolates hstops hextent).below v hv
    · exact colourAt_of_one_stop (by omega) v b
  · exact colourAt_of_no_extent (not_lt.mp hextent) v

/-- A value that is not below the upper bound has the last colour if there is extent. -/
theorem colourAt_of_max_le (h : b.min < b.max) {v : Rat} (hv : b.max ≤ v) :
    r.hexStops.getLast? = some (r.colourAt v b) := by
  have hpos := r.length_pos
  by_cases hstops : 2 ≤ r.stops.length
  · exact (interpolates hstops h).above v hv
  · -- A single colour is the first and the last.
    have hone : r.stops.length = 1 := by omega
    rcases List.length_eq_one_iff.mp hone with ⟨c, hc⟩
    rw [← colourAt_of_one_stop hone v b, hexStops, hc]
    rfl

/-- If components keep an order from colour to colour, so do their bytes. -/
theorem isChain_bytes {R : Rat → Rat → Prop} {S : Nat → Nat → Prop} {ch : Channel}
    (hbyte : ∀ x y, R x y → S (channel x) (channel y)) (h : (r.stops.map ch.of).IsChain R) :
    (r.hexStops.map ch.byte).IsChain S := by
  have hbytes : r.hexStops.map ch.byte = (r.stops.map ch.of).map channel := by
    rw [hexStops, List.map_map, List.map_map]
    exact List.map_congr_left fun c _ => ch.byte_hex c
  rw [hbytes, List.isChain_map]
  exact h.imp hbyte

/-- The colours of a ramp in exact arithmetic. Over a range with extent several colours are run
    through one after another: values outside have the first colour and the last, the values that
    divide the range evenly have one colour each, a byte is between those of the neighbouring
    colours, and it never turns if it does not turn from colour to colour, for which it is enough
    that the component does not. A single colour, and a range without extent, leave the first colour
    for all values. That of a single colour holds of the floating-point numbers as well, whether or
    not they are finite. -/
theorem exact_colours (r : Ramp Rat) (b : Bounds Rat) :
    (2 ≤ r.stops.length → b.min < b.max → r.Interpolates b) ∧
    (∀ ch : Channel,
      ((r.stops.map ch.of).IsChain (· ≤ ·) → (r.hexStops.map ch.byte).IsChain (· ≤ ·)) ∧
      ((r.stops.map ch.of).IsChain (· ≥ ·) → (r.hexStops.map ch.byte).IsChain (· ≥ ·))) ∧
    (r.stops.length = 1 ∨ b.max ≤ b.min → ∀ v, r.hexStops.head? = some (r.colourAt v b)) ∧
    ∀ (r : Ramp Float) (b : Bounds Float) (v : Float), r.stops.length = 1 →
      r.hexStops.head? = some (r.colourAt v b) := by
  refine ⟨interpolates, fun ch => ⟨isChain_bytes fun _ _ hxy => channel_mono hxy,
    isChain_bytes fun _ _ hxy => channel_mono hxy⟩, fun h v => ?_,
    fun _ b v hone => colourAt_of_one_stop hone v b⟩
  -- One colour is all there is, and without an extent every value is at the start.
  rcases h with hone | hextent
  · exact colourAt_of_one_stop hone v b
  · exact colourAt_of_no_extent hextent v

/-- Three colours of which red rises, blue falls and green turns. -/
def threeColours : Ramp Rat :=
  ⟨[⟨0, 0, 1⟩, ⟨1 / 2, 1, 1 / 2⟩, ⟨1, 1 / 4, 0⟩], List.cons_ne_nil _ _⟩

/-- Three colours over a range of four: the ends and the middle, and what lies between them. -/
theorem exact_colours_three :
    let b : Bounds Rat := ⟨0, 4⟩
    threeColours.colourAt (-3) b = "#0000ff" ∧ threeColours.colourAt 2 b = "#80ff80" ∧
    threeColours.colourAt 9 b = "#ff4000" ∧ threeColours.colourAt 1 b = "#4080bf" ∧
    (64 ≤ Channel.green.byte (threeColours.colourAt (7 / 2) b) ∧
      Channel.green.byte (threeColours.colourAt (7 / 2) b) ≤ 255) ∧
    Channel.red.byte (threeColours.colourAt 1 b) ≤ Channel.red.byte (threeColours.colourAt 3 b) ∧
    Channel.blue.byte (threeColours.colourAt 3 b) ≤ Channel.blue.byte (threeColours.colourAt 1 b) ∧
    threeColours.colourAt 1 ⟨4, 0⟩ = "#0000ff" := by
  intro b
  have hstops : threeColours.hexStops = ["#0000ff", "#80ff80", "#ff4000"] := by decide +kernel
  have hexact := exact_colours threeColours b
  have hramp := hexact.1 (by decide) (by decide)
  have hmiddle : threeColours.valueAt b 1 = 2 := by decide +kernel
  have hend : threeColours.valueAt b 2 = 4 := by decide +kernel
  -- Each value is an instance of one part of the theorem, except for the one that is computed.
  refine ⟨?_, ?_, ?_, by decide +kernel, ?_, ?_, ?_, ?_⟩
  · have hbelow := hramp.below (-3) (by decide)
    rw [hstops] at hbelow
    exact (Option.some.inj hbelow).symm
  · have honStop := hramp.onStop 1 (by decide)
    rw [hstops, hmiddle] at honStop
    exact (Option.some.inj honStop).symm
  · have habove := hramp.above 9 (by decide)
    rw [hstops] at habove
    exact (Option.some.inj habove).symm
  · refine hramp.between 1 "#80ff80" "#ff4000" (by rw [hstops]; rfl) (by rw [hstops]; rfl) (7 / 2)
      ?_ ?_ .green
    · rw [hmiddle]
      decide +kernel
    · rw [hend]
      decide +kernel
  · exact hramp.rising .red ((hexact.2.1 .red).1 (by decide +kernel)) (by decide)
  · exact hramp.falling .blue ((hexact.2.1 .blue).2 (by decide +kernel)) (by decide)
  · have hfirst := (exact_colours threeColours ⟨4, 0⟩).2.2.1 (Or.inr (by decide)) 1
    rw [hstops] at hfirst
    exact (Option.some.inj hfirst).symm

end Ramp

end SchoolAtlas
