import SchoolAtlas.Map.Legend
import SchoolAtlas.Proofs.Float.Order
import SchoolAtlas.Proofs.Map.Ramp

/-!
# The Range of a Legend

The range of a legend is that of the values on the map, with one exception.

The range is found by going through the values, starting from infinite bounds that any number
improves on. After the first value both bounds are that value, and from there on they are the
extremes of the values seen (`Bounds.IsExtent`). Each step compares finite numbers only, so it
can be followed in fractions.

A single value makes a range without extent, in which the code then puts zero for the lower
bound. That is meant for what a map shows as a rule, counts and rates. Numbers may be negative,
though, since grades are loaded as they are written, and if all values are the same negative
number the range is upside down: it starts at zero and ends below. Such a range has no extent
either, and the first colour stands in for all.

How values are painted in their range is said in exact arithmetic. Values and bounds are read as the
fractions that they are, and the ramp is any ramp over fractions.

## Main definitions

* `Bounds.IsExtent`: Bounds are the extremes of values.
* `Bounds.Encloses`: All values are between the bounds.
* `Bounds.toRat`: Bounds as fractions.
* `RegionValues.AllEqual`: All values are the same number.
* `RegionValues.OneNegative`: All values are the same negative number.
* `RegionValues.colourOf`: The colour of a value in exact arithmetic.

## Theorems

* `Bounds.IsExtent.widen`: One step of going through the values.
* `Bounds.IsExtent.run`: Any number of steps.
* `Bounds.isExtent_ofList`: The bounds of values are their extremes.
* `Bounds.encloses_iff`, `Bounds.min_le_max_iff`: When all values are in their range.
* `Bounds.colourOf_extremes`, `Bounds.colourOf_single`: How the ends of a range are painted.
* `Bounds.ofValues_encloses`: What the range of a legend encloses, and how its ends are painted.
* `Bounds.ofValues_negative`: A single negative value is not in its range.
-/

namespace SchoolAtlas

open Floats (exact le_iff_exact_le lt_iff_exact_lt)

namespace Floats

open Float.Model (UnpackedFloat)

variable {x y : Float}

theorem atMost_eq (hx : x.isFinite = true) (hy : y.isFinite = true) :
    Scalar.atMost x y = decide (exact x ≤ exact y) :=
  decide_eq_decide.mpr (le_iff_exact_le hx hy)

theorem less_eq (hx : x.isFinite = true) (hy : y.isFinite = true) :
    Scalar.less x y = decide (exact x < exact y) :=
  decide_eq_decide.mpr (lt_iff_exact_lt hx hy)

/-- Finite numbers lie between the infinities. -/
theorem between_infinities {u : UnpackedFloat} (h : u.isFinite = true) :
    u.lt (.infinity .positive) = true ∧ UnpackedFloat.lt (.infinity .negative) u = true := by
  cases u with
  | notANumber => exact Bool.noConfusion h
  | infinity sign => exact Bool.noConfusion h
  | zero sign => exact ⟨rfl, rfl⟩
  | finite sign m e hm => exact ⟨rfl, rfl⟩

theorem less_of_infinite_left (hx : IsInfinite x .negative) (hy : y.isFinite = true) :
    Scalar.less x y = true := by
  have hless := (between_infinities hy).2
  rw [← hx] at hless
  exact decide_eq_true (decide_eq_true hless)

theorem less_of_infinite_right (hx : x.isFinite = true) (hy : IsInfinite y .positive) :
    Scalar.less x y = true := by
  have hless := (between_infinities hx).1
  rw [← hy] at hless
  exact decide_eq_true (decide_eq_true hless)

theorem less_infinite (hx : x.isFinite = true) : Scalar.less x Numeral.infiniteFloat = true :=
  less_of_infinite_right hx rfl

theorem infinite_less (hx : x.isFinite = true) :
    Scalar.less (-Numeral.infiniteFloat) x = true :=
  less_of_infinite_left rfl hx

theorem isFinite_zero : (0.0 : Float).isFinite = true := rfl

end Floats

namespace Bounds

open Floats

variable {x y : Float}

/-- Any number is less than the bound that a search for the least starts from. -/
theorem lesser_infinite (hx : x.isFinite = true) : lesser Numeral.infiniteFloat x = x := by
  rw [lesser, atMost_eq hx hx, decide_eq_true le_rfl, less_infinite hx]
  rfl

theorem greater_infinite (hx : x.isFinite = true) : greater (-Numeral.infiniteFloat) x = x := by
  rw [greater, atMost_eq hx hx, decide_eq_true le_rfl, infinite_less hx]
  rfl

theorem lesser_eq (hx : x.isFinite = true) (hy : y.isFinite = true) :
    lesser x y = if exact y < exact x then y else x := by
  simp [lesser, atMost_eq hx hx, atMost_eq hy hy, less_eq hy hx]

theorem greater_eq (hx : x.isFinite = true) (hy : y.isFinite = true) :
    greater x y = if exact x < exact y then y else x := by
  simp [greater, atMost_eq hx hx, atMost_eq hy hy, less_eq hx hy]

/-- Bounds are the extremes of values. -/
structure IsExtent (b : Bounds Float) (values : List Float) : Prop where
  min_mem : b.min ∈ values
  max_mem : b.max ∈ values
  least : ∀ v ∈ values, exact b.min ≤ exact v
  greatest : ∀ v ∈ values, exact v ≤ exact b.max

namespace IsExtent

variable {b : Bounds Float} {seen : List Float}

/-- One more value widens the extremes if it lies outside. -/
theorem widen (h : b.IsExtent seen) (hseen : ∀ v ∈ seen, v.isFinite = true)
    (hx : x.isFinite = true) :
    IsExtent ⟨lesser b.min x, greater b.max x⟩ (seen ++ [x]) := by
  have hmin := lesser_eq (hseen _ h.min_mem) hx
  have hmax := greater_eq (hseen _ h.max_mem) hx
  -- Each bound stays or becomes the new value, which is one of the values seen either way.
  refine ⟨?_, ?_, ?_, ?_⟩
  · rw [hmin, List.mem_append, List.mem_singleton]
    split
    · exact Or.inr rfl
    · exact Or.inl h.min_mem
  · rw [hmax, List.mem_append, List.mem_singleton]
    split
    · exact Or.inr rfl
    · exact Or.inl h.max_mem
  · rw [hmin]
    simp only [List.forall_mem_append, List.forall_mem_singleton]
    split
    · next hless => exact ⟨fun v hv => hless.le.trans (h.least v hv), le_rfl⟩
    · next hless => exact ⟨h.least, not_lt.mp hless⟩
  · rw [hmax]
    simp only [List.forall_mem_append, List.forall_mem_singleton]
    split
    · next hless => exact ⟨fun v hv => (h.greatest v hv).trans hless.le, le_rfl⟩
    · next hless => exact ⟨h.greatest, not_lt.mp hless⟩

/-- Going on through values gives the extremes of all of them. -/
theorem run (h : b.IsExtent seen) {more : List Float}
    (hfinite : ∀ v ∈ seen ++ more, v.isFinite = true) :
    (ofList b more).IsExtent (seen ++ more) := by
  induction more generalizing b seen with
  | nil => rwa [List.append_nil]
  | cons x rest ih =>
      have hseen : ∀ v ∈ seen, v.isFinite = true :=
        fun v hv => hfinite v (List.mem_append_left _ hv)
      have hx : x.isFinite = true := hfinite x (List.mem_append_right _ List.mem_cons_self)
      rw [List.append_cons] at hfinite ⊢
      exact ih (h.widen hseen hx) hfinite

end IsExtent

/-- The bounds of values are their extremes. -/
theorem isExtent_ofList {values : List Float} (hne : values ≠ [])
    (hfinite : ∀ v ∈ values, v.isFinite = true) :
    (ofList ⟨Numeral.infiniteFloat, -Numeral.infiniteFloat⟩ values).IsExtent values := by
  cases values with
  | nil => exact absurd rfl hne
  | cons x rest =>
      have hx := hfinite x List.mem_cons_self
      -- The first value takes the place of both infinities.
      have hfirst : ofList ⟨Numeral.infiniteFloat, -Numeral.infiniteFloat⟩ (x :: rest)
          = ofList ⟨x, x⟩ rest := by
        rw [ofList, List.foldl_cons, lesser_infinite hx, greater_infinite hx]
        rfl
      have hone : IsExtent ⟨x, x⟩ [x] :=
        ⟨List.mem_singleton_self x, List.mem_singleton_self x,
          List.forall_mem_singleton.mpr le_rfl, List.forall_mem_singleton.mpr le_rfl⟩
      rw [hfirst]
      exact hone.run hfinite

theorem spread_eq {b : Bounds Float} (hmin : b.min.isFinite = true) (hmax : b.max.isFinite = true) :
    b.spread = if exact b.min = exact b.max then ⟨0.0, b.max⟩ else b := by
  rw [spread, atMost_eq hmin hmax, atMost_eq hmax hmin, ← Bool.decide_and]
  simp only [decide_eq_true_eq, ← le_antisymm_iff]
  rfl

/-- All values are between the bounds. -/
def Encloses (b : Bounds Float) (values : RegionValues) : Prop :=
  ∀ v ∈ values.values, b.min ≤ v ∧ v ≤ b.max

instance (b : Bounds Float) (values : RegionValues) : Decidable (b.Encloses values) :=
  inferInstanceAs (Decidable (∀ v ∈ values.values, b.min ≤ v ∧ v ≤ b.max))

/-- Bounds as fractions. -/
def toRat (b : Bounds Float) : Bounds Rat := ⟨exact b.min, exact b.max⟩

end Bounds

namespace RegionValues

/-- All values are the same number. -/
def AllEqual (values : RegionValues) : Prop :=
  ∀ v ∈ values.values, ∀ w ∈ values.values, v ≤ w

instance (values : RegionValues) : Decidable values.AllEqual :=
  inferInstanceAs (Decidable (∀ v ∈ values.values, ∀ w ∈ values.values, v ≤ w))

/-- All values are the same number, and it is negative. -/
def OneNegative (values : RegionValues) : Prop :=
  values.AllEqual ∧ ∀ v ∈ values.values, v < 0.0

instance (values : RegionValues) : Decidable values.OneNegative :=
  inferInstanceAs (Decidable (values.AllEqual ∧ ∀ v ∈ values.values, v < 0.0))

/-- The colour of a value on a map of values, in exact arithmetic. -/
def colourOf (values : RegionValues) (r : Ramp Rat) (v : Float) : String :=
  r.colourAt (exact v) (Bounds.ofValues values).toRat

variable {values : RegionValues} {b : Bounds Float}

theorem values_ne_nil (h : values.isEmpty = false) : values.values ≠ [] := by
  intro hnil
  rw [NameMap.isEmpty, List.map_eq_nil_iff.mp hnil] at h
  exact Bool.noConfusion h

/-- All values are the same if the extremes are. -/
theorem allEqual_iff (hfinite : ∀ v ∈ values.values, v.isFinite = true)
    (h : b.IsExtent values.values) : values.AllEqual ↔ exact b.min = exact b.max := by
  constructor
  · intro hequal
    have hle := hequal b.max h.max_mem b.min h.min_mem
    rw [le_iff_exact_le (hfinite _ h.max_mem) (hfinite _ h.min_mem)] at hle
    exact le_antisymm (h.least _ h.max_mem) hle
  -- All values lie between two bounds that are one number.
  · intro hextremes v hv w hw
    rw [le_iff_exact_le (hfinite v hv) (hfinite w hw)]
    calc exact v ≤ exact b.max := h.greatest v hv
      _ = exact b.min := hextremes.symm
      _ ≤ exact w := h.least w hw

end RegionValues

namespace Bounds

open Floats (isFinite_zero)

variable {values : RegionValues}

section Finite

variable (hne : values.isEmpty = false) (hfinite : ∀ v ∈ values.values, v.isFinite = true)

include hne hfinite

theorem ofValues_eq :
    ∃ b, b.IsExtent values.values ∧
      ofValues values = if exact b.min = exact b.max then ⟨0.0, b.max⟩ else b := by
  have hextent := isExtent_ofList (RegionValues.values_ne_nil hne) hfinite
  refine ⟨_, hextent, ?_⟩
  rw [ofValues, hne, ← spread_eq (hfinite _ hextent.min_mem) (hfinite _ hextent.max_mem)]
  rfl

/-- The range of a single value starts at zero. -/
theorem ofValues_of_allEqual (h : values.AllEqual) :
    ∃ v ∈ values.values, ofValues values = ⟨0.0, v⟩ := by
  rcases ofValues_eq hne hfinite with ⟨b, hextent, hb⟩
  rw [if_pos ((RegionValues.allEqual_iff hfinite hextent).mp h)] at hb
  exact ⟨b.max, hextent.max_mem, hb⟩

/-- The range of several values is that of their extremes, which are different. -/
theorem ofValues_of_not_allEqual (h : ¬values.AllEqual) :
    (ofValues values).IsExtent values.values ∧
      (ofValues values).toRat.min < (ofValues values).toRat.max := by
  rcases ofValues_eq hne hfinite with ⟨b, hextent, hb⟩
  have hdiffer := mt (RegionValues.allEqual_iff hfinite hextent).mpr h
  rw [if_neg hdiffer] at hb
  rw [hb]
  exact ⟨hextent, lt_of_le_of_ne (hextent.least _ hextent.max_mem) hdiffer⟩

theorem isFinite_ofValues :
    (ofValues values).min.isFinite = true ∧ (ofValues values).max.isFinite = true := by
  by_cases hequal : values.AllEqual
  · rcases ofValues_of_allEqual hne hfinite hequal with ⟨w, hw, hb⟩
    rw [hb]
    exact ⟨isFinite_zero, hfinite w hw⟩
  · have hextent := (ofValues_of_not_allEqual hne hfinite hequal).1
    exact ⟨hfinite _ hextent.min_mem, hfinite _ hextent.max_mem⟩

/-- Unless there is one negative value only, the range encloses all values. -/
theorem encloses_of_not_oneNegative (h : ¬values.OneNegative) :
    (ofValues values).Encloses values := by
  by_cases hequal : values.AllEqual
  · rcases ofValues_of_allEqual hne hfinite hequal with ⟨w, hw, hb⟩
    -- If one of them were negative, all would be.
    have hzero : 0.0 ≤ w := by
      refine (Floats.not_lt (hfinite w hw) isFinite_zero).mp fun hneg => h ⟨hequal, fun v hv => ?_⟩
      exact Floats.lt_of_le_of_lt (hfinite v hv) (hfinite w hw) isFinite_zero
        (hequal v hv w hw) hneg
    rw [hb]
    intro v hv
    have hwv := hequal w hw v hv
    exact ⟨Floats.le_trans isFinite_zero (hfinite w hw) (hfinite v hv) hzero hwv,
      hequal v hv w hw⟩
  · have hextent := (ofValues_of_not_allEqual hne hfinite hequal).1
    intro v hv
    exact ⟨(le_iff_exact_le (hfinite _ hextent.min_mem) (hfinite v hv)).mpr (hextent.least v hv),
      (le_iff_exact_le (hfinite v hv) (hfinite _ hextent.max_mem)).mpr (hextent.greatest v hv)⟩

/-- If there is one negative value only, the range is upside down. -/
theorem ofValues_of_oneNegative (h : values.OneNegative) :
    (ofValues values).max ∈ values.values ∧ (ofValues values).max < (ofValues values).min := by
  rcases ofValues_of_allEqual hne hfinite h.1 with ⟨w, hw, hb⟩
  rw [hb]
  exact ⟨hw, h.2 w hw⟩

/-- The range encloses all values unless there is one negative value only. -/
theorem encloses_iff : (ofValues values).Encloses values ↔ ¬values.OneNegative := by
  refine ⟨fun hencloses hneg => ?_, encloses_of_not_oneNegative hne hfinite⟩
  rcases isFinite_ofValues hne hfinite with ⟨hmin, hmax⟩
  rcases ofValues_of_oneNegative hne hfinite hneg with ⟨hmem, hless⟩
  -- The upper bound is a value, and it lies below the lower bound.
  exact absurd hless ((Floats.not_lt hmax hmin).mpr (hencloses _ hmem).1)

theorem min_le_max_iff : (ofValues values).min ≤ (ofValues values).max ↔ ¬values.OneNegative := by
  rcases isFinite_ofValues hne hfinite with ⟨hmin, hmax⟩
  constructor
  · intro hle hneg
    have hless := (ofValues_of_oneNegative hne hfinite hneg).2
    exact absurd hless ((Floats.not_lt hmax hmin).mpr hle)
  · intro hnot
    rcases List.exists_mem_of_ne_nil _ (RegionValues.values_ne_nil hne) with ⟨v, hv⟩
    rcases encloses_of_not_oneNegative hne hfinite hnot v hv with ⟨hlower, hupper⟩
    exact Floats.le_trans hmin (hfinite v hv) hmax hlower hupper

/-- Where the least and the greatest of several values are painted. -/
theorem colourOf_extremes (h : ¬values.AllEqual) (r : Ramp Rat) {v : Float}
    (hv : v ∈ values.values) :
    ((∀ w ∈ values.values, v ≤ w) → r.hexStops.head? = some (values.colourOf r v)) ∧
    ((∀ w ∈ values.values, w ≤ v) → r.hexStops.getLast? = some (values.colourOf r v)) := by
  -- Values that differ leave the range an extent, at whose ends the ramp begins and ends.
  rcases ofValues_of_not_allEqual hne hfinite h with ⟨hextent, hless⟩
  constructor
  · intro hleast
    have hmin := hleast _ hextent.min_mem
    rw [le_iff_exact_le (hfinite v hv) (hfinite _ hextent.min_mem)] at hmin
    exact Ramp.colourAt_of_le_min hmin
  · intro hgreatest
    have hmax := hgreatest _ hextent.max_mem
    rw [le_iff_exact_le (hfinite _ hextent.max_mem) (hfinite v hv)] at hmax
    exact Ramp.colourAt_of_max_le hless hmax

/-- How a single value is painted depends on its sign. -/
theorem colourOf_single (h : values.AllEqual) (r : Ramp Rat) {v : Float}
    (hv : v ∈ values.values) :
    (0.0 < v → r.hexStops.getLast? = some (values.colourOf r v)) ∧
    (v ≤ 0.0 → r.hexStops.head? = some (values.colourOf r v)) := by
  rcases ofValues_of_allEqual hne hfinite h with ⟨w, hw, hb⟩
  have hwv := h w hw v hv
  rw [le_iff_exact_le (hfinite w hw) (hfinite v hv)] at hwv
  have hvw := h v hv w hw
  rw [le_iff_exact_le (hfinite v hv) (hfinite w hw)] at hvw
  -- The range goes from zero to the value, so its sign says at which end it is.
  rw [RegionValues.colourOf, hb, lt_iff_exact_lt isFinite_zero (hfinite v hv),
    le_iff_exact_le (hfinite v hv) isFinite_zero]
  exact ⟨fun hpos => Ramp.colourAt_of_max_le (hpos.trans_le hvw) hwv,
    fun hneg => Ramp.colourAt_of_le_min hneg⟩

end Finite

/-- What the range of a legend encloses, and how its ends are painted. The range encloses all
    values unless they are one and the same negative number. Several values have their extremes
    for bounds, of which the lower is painted in the first colour and the upper in the last. The
    range of a single value starts at zero, and the value is painted in the last colour if it is
    positive and in the first if it is not. -/
theorem ofValues_encloses (values : RegionValues) (hne : values.isEmpty = false)
    (hfinite : ∀ v ∈ values.values, v.isFinite = true) :
    let b := ofValues values
    (b.Encloses values ↔ ¬values.OneNegative) ∧ (b.min ≤ b.max ↔ ¬values.OneNegative) ∧
    (values.AllEqual → b.min = 0.0 ∧ b.max ∈ values.values) ∧
    (¬values.AllEqual → b.min ∈ values.values ∧ b.max ∈ values.values) ∧
    ∀ (r : Ramp Rat), ∀ v ∈ values.values,
      (¬values.AllEqual →
        ((∀ w ∈ values.values, v ≤ w) → r.hexStops.head? = some (values.colourOf r v)) ∧
        ((∀ w ∈ values.values, w ≤ v) → r.hexStops.getLast? = some (values.colourOf r v))) ∧
      (values.AllEqual →
        (0.0 < v → r.hexStops.getLast? = some (values.colourOf r v)) ∧
        (v ≤ 0.0 → r.hexStops.head? = some (values.colourOf r v))) := by
  intro b
  refine ⟨encloses_iff hne hfinite, min_le_max_iff hne hfinite, fun hequal => ?_,
    fun hdiffer => ?_, fun r v hv => ?_⟩
  -- A single value is the upper bound of its range.
  · rcases ofValues_of_allEqual hne hfinite hequal with ⟨w, hw, hb⟩
    have hb' : b = ⟨0.0, w⟩ := hb
    rw [hb']
    exact ⟨rfl, hw⟩
  · have hextent := (ofValues_of_not_allEqual hne hfinite hdiffer).1
    exact ⟨hextent.min_mem, hextent.max_mem⟩
  · exact ⟨fun hdiffer => colourOf_extremes hne hfinite hdiffer r hv,
      fun hequal => colourOf_single hne hfinite hequal r hv⟩

/-- Three values, and one value of two regions. -/
theorem ofValues_encloses_three :
    let three : RegionValues := .ofList [("CJ", 7.0), ("AB", 2.0), ("HR", 4.5)]
    let one : RegionValues := .ofList [("CJ", 7.0), ("AB", 7.0)]
    (ofValues three).Encloses three ∧ (ofValues one).Encloses one ∧
    three.colourOf Ramp.threeColours 2.0 = "#0000ff" ∧
    three.colourOf Ramp.threeColours 7.0 = "#ff4000" ∧
    one.colourOf Ramp.threeColours 7.0 = "#ff4000" := by
  intro three one
  have hstops : Ramp.threeColours.hexStops = ["#0000ff", "#80ff80", "#ff4000"] := by decide +kernel
  have hthree : three.values = [2.0, 7.0, 4.5] := rfl
  have hone : one.values = [7.0, 7.0] := rfl
  have hlow : 2.0 ∈ three.values := hthree ▸ List.mem_cons_self
  have hhigh : 7.0 ∈ three.values := hthree ▸ List.mem_cons_of_mem _ List.mem_cons_self
  have hsingle : 7.0 ∈ one.values := hone ▸ List.mem_cons_self
  rcases ofValues_encloses three (by decide +kernel) (by decide +kernel)
    with ⟨hencloses, _, _, _, hpaint⟩
  rcases ofValues_encloses one (by decide +kernel) (by decide +kernel)
    with ⟨hencloses', _, _, _, hpaint'⟩
  -- Seven is the greatest of three values and the only one of two, and is painted alike.
  refine ⟨hencloses.mpr (by decide +kernel), hencloses'.mpr (by decide +kernel), ?_, ?_, ?_⟩
  · have hfirst := ((hpaint Ramp.threeColours 2.0 hlow).1 (by decide +kernel)).1 (by decide +kernel)
    rw [hstops] at hfirst
    exact (Option.some.inj hfirst).symm
  · have hlast := ((hpaint Ramp.threeColours 7.0 hhigh).1 (by decide +kernel)).2 (by decide +kernel)
    rw [hstops] at hlast
    exact (Option.some.inj hlast).symm
  · have hlast := ((hpaint' Ramp.threeColours 7.0 hsingle).2 (by decide +kernel)).1
      (by decide +kernel)
    rw [hstops] at hlast
    exact (Option.some.inj hlast).symm

/-- A single negative value is not in its range. -/
theorem ofValues_negative :
    let values : RegionValues := .ofList [("CJ", -5.0)]
    values.isEmpty = false ∧ (∀ v ∈ values.values, v.isFinite = true) ∧
    ¬(ofValues values).Encloses values ∧ ¬(ofValues values).min ≤ (ofValues values).max := by
  decide +kernel

end Bounds

end SchoolAtlas
