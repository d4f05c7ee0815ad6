import Mathlib
import SchoolAtlas.Proofs.Float

/-!
# The Order of Finite Numbers

A finite floating-point number is a fraction, and the order of these numbers is that of the
fractions.

Numbers are compared by their exponents first and by their mantissas after that. This is the
order of their values only because a number has one form: its mantissa is as long as it can be,
unless the exponent is already the least. A greater exponent then outweighs every mantissa
(`magnitude_lt_of_exponent_lt`). What is unpacked has this form (`isCanonical_parts`).

With that, comparisons of finite numbers can be read as comparisons of fractions, which have all
the laws of an order, and so these numbers have them. Two zeros of different signs are one
fraction, and they are equal as numbers too.

## Main definitions

* `Floats.exact`: A finite number as a fraction.
* `Floats.IsCanonical`: The one form of a number.

## Theorems

* `Floats.isCanonical_parts`: What is unpacked is in its one form.
* `Floats.compare_eq`: Finite numbers are compared as fractions.
* `Floats.le_iff_exact_le`, `Floats.lt_iff_exact_lt`: The two comparisons.
* `Floats.not_lt`, `Floats.le_trans`, `Floats.lt_of_le_of_lt`: The laws of an order.
-/

namespace SchoolAtlas

namespace Floats

open Float.Model (UnpackedFloat Format)
open Float.Model.UnpackedFloat (Sign)

/-- The value of a finite number. What is not finite has none, and zero stands for it. -/
def value : UnpackedFloat → Rat
  | .finite sign m e _ => (sign.apply m : Int) * 2 ^ e
  | _ => 0

/-- A finite number as a fraction. -/
def exact (x : Float) : Rat := value (parts x)

/-- A number has one form. The mantissa has all its bits, or the exponent is the least. -/
def IsCanonical : UnpackedFloat → Prop
  | .finite _ m e _ => m < 2 ^ 53 ∧ -1074 ≤ e ∧ (2 ^ 52 ≤ m ∨ e = -1074)
  | _ => True

theorem isCanonical_unpack (bits : BitVec (Format.numBits .binary64)) :
    IsCanonical (UnpackedFloat.unpack .binary64 bits) := by
  unfold UnpackedFloat.unpack
  simp only [exponentBias_eq]
  split
  · -- Infinities, and what is no number.
    split <;> exact trivial
  · split
    · split
      · exact trivial
      · next hzero _ =>
        -- Near zero the exponent is the least, and the mantissa is what is stored.
        have hmantissa : (UnpackedFloat.unpackMantissa bits).toNat < 2 ^ 52 := BitVec.isLt _
        rw [hzero]
        exact ⟨by omega, by decide, Or.inr rfl⟩
    · next hzero =>
      have hexponent : (UnpackedFloat.unpackExponent bits).toNat ≠ 0 :=
        fun hnat => hzero (BitVec.eq_of_toNat_eq hnat)
      -- The leading bit is not stored.
      have hleading : 2 ^ 52 ≤ (1#1 ++ UnpackedFloat.unpackMantissa bits).toNat := by
        rw [BitVec.toNat_append]
        exact Nat.left_le_or
      have hmantissa : (1#1 ++ UnpackedFloat.unpackMantissa bits).toNat < 2 ^ 53 := BitVec.isLt _
      exact ⟨hmantissa, by omega, Or.inl hleading⟩

/-- What is unpacked is in its one form. -/
theorem isCanonical_parts (x : Float) : IsCanonical (parts x) := isCanonical_unpack _

/-- A greater exponent outweighs every mantissa. -/
theorem magnitude_lt_of_exponent_lt {m m' : Nat} {e e' : Int} (hm : m < 2 ^ 53)
    (he : -1074 ≤ e) (hm' : 2 ^ 52 ≤ m' ∨ e' = -1074) (hlt : e < e') :
    (m : Rat) * 2 ^ e < m' * 2 ^ e' := by
  have hfull : 2 ^ 52 ≤ m' := hm'.resolve_right (by omega)
  have hmRat : (m : Rat) < 2 ^ 53 := by exact_mod_cast hm
  have hfullRat : (2 : Rat) ^ 52 ≤ m' := by exact_mod_cast hfull
  -- A mantissa that is too short by one bit is made up for by one step of the exponent.
  calc (m : Rat) * 2 ^ e
      < 2 ^ 53 * 2 ^ e := mul_lt_mul_of_pos_right hmRat (by positivity)
    _ = 2 ^ 52 * 2 ^ (e + 1) := by rw [zpow_add₀ two_ne_zero]; ring
    _ ≤ 2 ^ 52 * 2 ^ e' :=
        mul_le_mul_of_nonneg_left (zpow_le_zpow_right₀ one_le_two (by omega)) (by positivity)
    _ ≤ m' * 2 ^ e' := mul_le_mul_of_nonneg_right hfullRat (by positivity)

/-- Numbers of one sign are compared by exponent and mantissa. -/
theorem compare_magnitude {m m' : Nat} {e e' : Int} (hm : m < 2 ^ 53) (he : -1074 ≤ e)
    (hfull : 2 ^ 52 ≤ m ∨ e = -1074) (hm' : m' < 2 ^ 53) (he' : -1074 ≤ e')
    (hfull' : 2 ^ 52 ≤ m' ∨ e' = -1074) :
    (compare e e').then (compare m m') = compare ((m : Rat) * 2 ^ e) (m' * 2 ^ e') := by
  rcases lt_trichotomy e e' with hlt | rfl | hgt
  · rw [compare_lt_iff_lt.mpr hlt, Ordering.lt_then,
      compare_lt_iff_lt.mpr (magnitude_lt_of_exponent_lt hm he hfull' hlt)]
  · -- With one exponent the mantissas decide.
    have hpos : (0 : Rat) < 2 ^ e := by positivity
    rw [compare_eq_iff_eq.mpr rfl, Ordering.eq_then]
    rcases lt_trichotomy m m' with hmlt | rfl | hmgt
    · rw [compare_lt_iff_lt.mpr hmlt, compare_lt_iff_lt.mpr]
      exact mul_lt_mul_of_pos_right (Nat.cast_lt.mpr hmlt) hpos
    · rw [compare_eq_iff_eq.mpr rfl, compare_eq_iff_eq.mpr rfl]
    · rw [compare_gt_iff_gt.mpr hmgt, compare_gt_iff_gt.mpr]
      exact mul_lt_mul_of_pos_right (Nat.cast_lt.mpr hmgt) hpos
  · rw [compare_gt_iff_gt.mpr hgt, Ordering.gt_then,
      compare_gt_iff_gt.mpr (magnitude_lt_of_exponent_lt hm' he' hfull hgt)]

theorem value_positive (m : Nat) (e : Int) (hm : 0 < m) :
    value (.finite .positive m e hm) = m * 2 ^ e := by
  simp [value, Sign.apply]

theorem value_negative (m : Nat) (e : Int) (hm : 0 < m) :
    value (.finite .negative m e hm) = -(m * 2 ^ e) := by
  simp [value, Sign.apply]

theorem magnitude_pos {m : Nat} (e : Int) (hm : 0 < m) : (0 : Rat) < m * 2 ^ e :=
  mul_pos (Nat.cast_pos.mpr hm) (by positivity)

theorem compare_neg (a b : Rat) : compare (-a) (-b) = (compare a b).swap := by
  rcases lt_trichotomy a b with hlt | rfl | hgt
  · rw [compare_lt_iff_lt.mpr hlt, compare_gt_iff_gt.mpr (neg_lt_neg hlt)]
    rfl
  · rw [compare_eq_iff_eq.mpr rfl, compare_eq_iff_eq.mpr rfl]
    rfl
  · rw [compare_gt_iff_gt.mpr hgt, compare_lt_iff_lt.mpr (neg_lt_neg hgt)]
    rfl

/-- Finite numbers are compared as fractions. -/
theorem compare_eq {u v : UnpackedFloat} (hu : IsCanonical u) (hv : IsCanonical v)
    (hufinite : u.isFinite = true) (hvfinite : v.isFinite = true) :
    u.compare v = some (compare (value u) (value v)) := by
  cases u with
  | notANumber => exact Bool.noConfusion hufinite
  | infinity sign => exact Bool.noConfusion hufinite
  | zero sign =>
      -- Zero is compared by the sign of the other number, and its own sign does not count.
      have hzero : value (.zero sign) = 0 := rfl
      cases v with
      | notANumber => exact Bool.noConfusion hvfinite
      | infinity sign' => exact Bool.noConfusion hvfinite
      | zero sign' => rfl
      | finite sign' m' e' hm' =>
          have hpos := magnitude_pos e' hm'
          cases sign' with
          | positive =>
              rw [value_positive, hzero, compare_lt_iff_lt.mpr hpos]
              rfl
          | negative =>
              rw [value_negative, hzero, compare_gt_iff_gt.mpr (neg_lt_zero.mpr hpos)]
              rfl
  | finite sign m e hm =>
      rcases hu with ⟨hbits, hleast, hfull⟩
      have hpos := magnitude_pos e hm
      cases v with
      | notANumber => exact Bool.noConfusion hvfinite
      | infinity sign' => exact Bool.noConfusion hvfinite
      | zero sign' =>
          -- The same from the other side.
          have hzero : value (.zero sign') = 0 := rfl
          cases sign with
          | positive =>
              rw [value_positive, hzero, compare_gt_iff_gt.mpr hpos]
              rfl
          | negative =>
              rw [value_negative, hzero, compare_lt_iff_lt.mpr (neg_lt_zero.mpr hpos)]
              rfl
      | finite sign' m' e' hm' =>
          rcases hv with ⟨hbits', hleast', hfull'⟩
          have hpos' := magnitude_pos e' hm'
          -- Both have a magnitude. It decides if the signs are equal, turned round if both are
          -- negative.
          have hmagnitudes := compare_magnitude hbits hleast hfull hbits' hleast' hfull'
          cases sign with
          | positive =>
              cases sign' with
              | positive =>
                  rw [value_positive, value_positive, ← hmagnitudes]
                  rfl
              | negative =>
                  rw [value_positive, value_negative, compare_gt_iff_gt.mpr (by linarith)]
                  rfl
          | negative =>
              cases sign' with
              | positive =>
                  rw [value_negative, value_positive, compare_lt_iff_lt.mpr (by linarith)]
                  rfl
              | negative =>
                  rw [value_negative, value_negative, compare_neg, ← hmagnitudes]
                  rfl

theorem le_iff_exact_le {x y : Float} (hx : x.isFinite = true) (hy : y.isFinite = true) :
    x ≤ y ↔ exact x ≤ exact y := by
  have hle : x ≤ y ↔ (parts x).le (parts y) = true := decide_eq_true_iff
  rw [hle, UnpackedFloat.le, compare_eq (isCanonical_parts x) (isCanonical_parts y) hx hy,
    Option.any_some, Ordering.isLE_iff_ne_gt]
  exact (not_congr compare_gt_iff_gt).trans not_lt

theorem lt_iff_exact_lt {x y : Float} (hx : x.isFinite = true) (hy : y.isFinite = true) :
    x < y ↔ exact x < exact y := by
  have hlt : x < y ↔ (parts x).lt (parts y) = true := decide_eq_true_iff
  rw [hlt, UnpackedFloat.lt, compare_eq (isCanonical_parts x) (isCanonical_parts y) hx hy,
    beq_iff_eq, Option.some.injEq, compare_lt_iff_lt]
  rfl

section Finite

variable {x y z : Float} (hx : x.isFinite = true) (hy : y.isFinite = true)
  (hz : z.isFinite = true)

include hx hy

protected theorem not_lt : ¬x < y ↔ y ≤ x := by
  rw [lt_iff_exact_lt hx hy, le_iff_exact_le hy hx, not_lt]

include hz

protected theorem le_trans (hxy : x ≤ y) (hyz : y ≤ z) : x ≤ z := by
  rw [le_iff_exact_le hx hy] at hxy
  rw [le_iff_exact_le hy hz] at hyz
  exact (le_iff_exact_le hx hz).mpr (hxy.trans hyz)

protected theorem lt_of_le_of_lt (hxy : x ≤ y) (hyz : y < z) : x < z := by
  rw [le_iff_exact_le hx hy] at hxy
  rw [lt_iff_exact_lt hy hz] at hyz
  exact (lt_iff_exact_lt hx hz).mpr (hxy.trans_lt hyz)

end Finite

end Floats

end SchoolAtlas
