import Mathlib
import SchoolAtlas.Query.Aggregate

/-!
# Undefined Numbers

When floating-point arithmetic ends in something that is no number.

Whether a mean exists is not a matter of digits. A sum is undefined if a part of it is,
or if two infinities of opposite signs meet, and nothing else that happens to digits
makes it so: rounding may end in zero or in an infinity, never in nothing. So digits have
to be followed at one place only, which is the divisor. A whole number of a word is
converted to a finite number other than zero, and dividing by one of these neither makes
nor mends an undefined number. The quotient of two of these is again such a number, since
words are far from the sizes at which exponents give out.

An operation unpacks its operands, computes and rounds, and packs the result. Each of the
three steps has its lemma here. Rounding takes a mantissa that has more bits than there
is room for, and so what is said about it counts these bits: with `k` of them the
exponent grows by `k`, or by one more where rounding carries through.

## Main definitions

* `Floats.parts`: The parts of a number.
* `Floats.IsInfinite`: A number is infinite with some sign.
* `Floats.Opposed`: Two infinities of opposite signs.
* `Floats.IsNormal`: A finite number of full precision.

## Theorems

* `Floats.isNaN_repacked`: Packing neither makes nor mends an undefined number.
* `Floats.repacked_of_full`, `Floats.IsNormal.repacked`: Packing keeps full precision.
* `Floats.round_normal`: Rounding ends in full precision.
* `Floats.normal_natural`: A whole number as a floating-point number.
* `Floats.isNaN_add_iff`: When a sum is undefined.
* `Floats.isInfinite_add`: An infinite sum stays infinite.
* `Floats.isNaN_div_natural`: Dividing by a whole number.
* `Floats.finite_div_natural`: The quotient of two whole numbers.
-/

namespace SchoolAtlas

namespace Floats

open Float.Model (UnpackedFloat Format)
open Float.Model.UnpackedFloat (Sign Accuracy ExtendedMantissa packComponents)

/-- The parts of a number. -/
def parts (x : Float) : UnpackedFloat := x.toModel.unpack

/-- A number is infinite with some sign. -/
def IsInfinite (x : Float) (sign : Sign) : Prop := parts x = .infinity sign

/-- Two numbers are infinite with opposite signs. -/
def Opposed (x y : Float) : Prop := ∃ sign, IsInfinite x sign ∧ IsInfinite y (-sign)

section Packing

theorem isNaN_packComponents {sign : Sign} {exponent : BitVec 11} {mantissa : BitVec 52}
    (h : exponent ≠ -1#11 ∨ mantissa = 0#52) :
    (UnpackedFloat.unpack .binary64
      (packComponents .binary64 sign exponent mantissa)).isNaN = false := by
  unfold UnpackedFloat.unpack
  simp only [UnpackedFloat.unpackMantissa_packComponents,
    UnpackedFloat.unpackExponent_packComponents]
  by_cases hones : exponent = -1#11
  · -- With the last exponent the mantissa decides, and an empty one is an infinity.
    rw [if_pos hones, if_pos (h.resolve_left (fun hne => hne hones))]
    rfl
  · rw [if_neg hones]
    split
    · split <;> rfl
    · rfl

/-- Packing and unpacking neither makes nor mends an undefined number. -/
theorem isNaN_repacked (u : UnpackedFloat) :
    (Float.Model.pack u).unpack.isNaN = u.isNaN := by
  cases u with
  | notANumber => rfl
  | infinity sign => cases sign <;> rfl
  | zero sign => cases sign <;> rfl
  | finite sign m e hm =>
      change (UnpackedFloat.unpack .binary64
        (UnpackedFloat.pack .binary64 (.finite sign m e hm))).isNaN = false
      simp only [UnpackedFloat.pack]
      split
      · -- An exponent that is too large ends in an infinity.
        exact isNaN_packComponents (Or.inr rfl)
      · next hroom =>
        split
        · -- The exponent has room below the one that stands for no number.
          refine isNaN_packComponents (Or.inl (fun hones => ?_))
          have hnat := congrArg BitVec.toNat hones
          have hlast : (-1#11 : BitVec 11).toNat = 2047 := rfl
          rw [BitVec.toNat_ofNat, hlast] at hnat
          have hless : ¬2048 ≤ _ + 1 := hroom
          omega
        · exact isNaN_packComponents (Or.inl (by decide))

/-- A finite number of full precision, with its exponent in a range. -/
def IsNormal (u : UnpackedFloat) (least most : Int) : Prop :=
  ∃ sign m e h, u = .finite sign m e h ∧ 2 ^ 52 ≤ m ∧ m < 2 ^ 53 ∧ least ≤ e ∧ e ≤ most

theorem IsNormal.widen {u : UnpackedFloat} {least most least' most' : Int}
    (h : IsNormal u least most) (hleast : least' ≤ least) (hmost : most ≤ most') :
    IsNormal u least' most' := by
  rcases h with ⟨sign, m, e, hm, rfl, hlo, hhi, hel, heh⟩
  exact ⟨sign, m, e, hm, rfl, hlo, hhi, Int.le_trans hleast hel, Int.le_trans heh hmost⟩

theorem exponentBias_eq : Format.exponentBias .binary64 = 1023 := rfl

theorem unpackSign_packComponents {format : Format} (sign : Sign)
    (exponent : BitVec format.exponentBits)
    (mantissa : BitVec format.mantissaBitsWithoutImplicit) :
    UnpackedFloat.unpackSign (packComponents format sign exponent mantissa) = sign.toBitVec := by
  ext i hi
  obtain rfl : i = 0 := by omega
  simp [UnpackedFloat.unpackSign, packComponents, BitVec.getLsbD_append, BitVec.getElem_append]

theorem ofBitVec_toBitVec (sign : Sign) : Sign.ofBitVec sign.toBitVec = sign := by
  cases sign <;> rfl

/-- The leading bit is not stored, and reading puts it back. -/
theorem toNat_leading {m : Nat} (hlo : 2 ^ 52 ≤ m) (hhi : m < 2 ^ 53) :
    (1#1 ++ BitVec.ofNat 52 m).toNat = m := by
  have hstored : (BitVec.ofNat 52 m).toNat = m - 2 ^ 52 := by
    rw [BitVec.toNat_ofNat]
    omega
  rw [BitVec.toNat_append, hstored, ← Nat.shiftLeft_add_eq_or_of_lt (by omega)]
  exact Nat.add_sub_cancel' hlo

/-- An exponent that is neither that of the infinities nor that of the numbers near zero is read
    as it was stored. -/
theorem unpack_normal (sign : Sign) {m b : Nat} (hm : 0 < m) (hlo : 2 ^ 52 ≤ m)
    (hhi : m < 2 ^ 53) (hb : 0 < b) (hb' : b < 2047) :
    UnpackedFloat.unpack .binary64
        (packComponents .binary64 sign (BitVec.ofNat 11 b) (BitVec.ofNat 52 m))
      = .finite sign m (b - 1075) hm := by
  have hnat : (BitVec.ofNat 11 b).toNat = b := by
    rw [BitVec.toNat_ofNat]
    omega
  -- The field of the exponent is neither the greatest nor zero, which stand for other numbers.
  have hones : BitVec.ofNat 11 b ≠ -1#11 := by
    intro heq
    have hlast : (-1#11 : BitVec 11).toNat = 2047 := rfl
    rw [heq, hlast] at hnat
    omega
  have hzero : BitVec.ofNat 11 b ≠ 0#11 := by
    intro heq
    have hfirst : (0#11 : BitVec 11).toNat = 0 := rfl
    rw [heq, hfirst] at hnat
    omega
  unfold UnpackedFloat.unpack
  simp only [UnpackedFloat.unpackMantissa_packComponents,
    UnpackedFloat.unpackExponent_packComponents, unpackSign_packComponents, ofBitVec_toBitVec,
    exponentBias_eq]
  rw [if_neg hones, if_neg hzero]
  simp only [toNat_leading hlo hhi, hnat]
  rfl

/-- Packing keeps a mantissa of full precision, if there is room for its exponent. -/
theorem repacked_of_full (sign : Sign) {m : Nat} {e : Int} (hm : 0 < m) (hlo : 2 ^ 52 ≤ m)
    (hhi : m < 2 ^ 53) (hleast : -1074 ≤ e) (hmost : e ≤ 971) :
    (Float.Model.pack (.finite sign m e hm)).unpack = .finite sign m e hm := by
  have hlog : m.log2 = 52 := (Nat.log2_eq_iff (Nat.ne_of_gt hm)).mpr ⟨hlo, hhi⟩
  have hfield : (e + (1023 : Nat) + (52 : Nat)).toNat = (e + 1075).toNat := by omega
  have hroom : ¬2 ^ 11 ≤ (e + 1075).toNat + 1 := by omega
  change UnpackedFloat.unpack .binary64
    (UnpackedFloat.pack .binary64 (.finite sign m e hm)) = _
  simp only [UnpackedFloat.pack, hlog, exponentBias_eq, hfield]
  rw [if_neg hroom, if_pos (by rfl), unpack_normal sign hm hlo hhi (by omega) (by omega)]
  -- What is left to compare is the exponent, which was stored with an offset.
  congr 1
  omega

/-- Packing keeps a number of full precision, if there is room for its exponent. -/
theorem IsNormal.repacked {u : UnpackedFloat} {least most : Int}
    (h : IsNormal u least most) (hleast : -1074 ≤ least) (hmost : most ≤ 971) :
    IsNormal (Float.Model.pack u).unpack least most := by
  rcases h with ⟨sign, m, e, hm, rfl, hlo, hhi, hel, heh⟩
  rw [repacked_of_full sign hm hlo hhi (hleast.trans hel) (heh.trans hmost)]
  exact ⟨sign, m, e, hm, rfl, hlo, hhi, hel, heh⟩

end Packing

section Rounding

open Float.Model.UnpackedFloat (shiftToTargetExponent roundWithAccuracy)

theorem mantissa_ofMantissaAndAccuracy (m : Nat) (accuracy : Accuracy) :
    (ExtendedMantissa.ofMantissaAndAccuracy m accuracy).mantissa = m := by
  cases accuracy with
  | exact => rfl
  | inexact place => cases place <;> rfl

theorem mantissa_shiftRight (em : ExtendedMantissa) (k : Nat) :
    (em >>> k).mantissa = em.mantissa / 2 ^ k := by
  induction k with
  | zero => exact (Nat.div_one _).symm
  | succ k ih =>
      -- What is shifted out is remembered beside the mantissa and not in it.
      have hstep : em >>> (k + 1) = (em >>> k).shiftRightOne := rfl
      rw [hstep, ExtendedMantissa.shiftRightOne, ih, Nat.div_div_eq_div_mul, Nat.pow_succ]

theorem roundToNearestEven_bounds (m : Nat) (accuracy : Accuracy) :
    m ≤ accuracy.roundToNearestEven m ∧ accuracy.roundToNearestEven m ≤ m + 1 := by
  cases accuracy with
  | exact => exact ⟨Nat.le_refl _, Nat.le_succ _⟩
  | inexact place =>
      cases place with
      | lt => exact ⟨Nat.le_refl _, Nat.le_succ _⟩
      | eq => exact ⟨Nat.le_add_right _ _, by rw [Accuracy.roundToNearestEven]; omega⟩
      | gt => exact ⟨Nat.le_succ _, Nat.le_refl _⟩

/-- A mantissa with some bits more than full precision is shifted by just these. -/
theorem shiftToTargetExponent_eq {m k : Nat} {e : Int} (accuracy : Accuracy)
    (hlo : 2 ^ (52 + k) ≤ m) (hhi : m < 2 ^ (53 + k)) (he : -1074 ≤ e + k) :
    (shiftToTargetExponent .binary64 m e accuracy).1.mantissa = m / 2 ^ k ∧
      (shiftToTargetExponent .binary64 m e accuracy).2 = e + k := by
  have hm : m ≠ 0 := Nat.ne_of_gt (Nat.lt_of_lt_of_le (Nat.two_pow_pos _) hlo)
  have hlog : m.log2 = 52 + k :=
    (Nat.log2_eq_iff hm).mpr ⟨hlo, by rw [Nat.add_right_comm]; exact hhi⟩
  have hmost : (Format.mantissaBits .binary64 : Nat) = 53 := rfl
  have hleast : Format.minExponent .binary64 = -1074 := rfl
  -- The shift leaves 53 bits, and the exponent after it is not below the least.
  have htarget : Format.targetExponent .binary64 (Float.Model.totalExponent m e)
      = e + k := by
    rw [Format.targetExponent, Float.Model.totalExponent, hlog, hmost, hleast]
    omega
  have hshift : (e + k - e).toNat = k := by omega
  simp only [shiftToTargetExponent, htarget, UnpackedFloat.shiftToExponent, hshift,
    mantissa_shiftRight, mantissa_ofMantissaAndAccuracy, and_self]

theorem full_shiftRight {m k : Nat} (hlo : 2 ^ (52 + k) ≤ m) (hhi : m < 2 ^ (53 + k)) :
    2 ^ 52 ≤ m / 2 ^ k ∧ m / 2 ^ k < 2 ^ 53 := by
  rw [Nat.le_div_iff_mul_le (Nat.two_pow_pos k), Nat.div_lt_iff_lt_mul (Nat.two_pow_pos k),
    ← Nat.pow_add, ← Nat.pow_add]
  exact ⟨hlo, hhi⟩

/-- Rounding a number of at least full precision ends in one of full precision. The
    exponent may come out one larger, where rounding carries through all bits. -/
theorem round_normal (sign : Sign) {m k : Nat} {e : Int} (accuracy : Accuracy)
    (hlo : 2 ^ (52 + k) ≤ m) (hhi : m < 2 ^ (53 + k)) (he : -1074 ≤ e + k) :
    IsNormal (roundWithAccuracy .binary64 sign m e accuracy) (e + k) (e + k + 1) := by
  rcases shiftToTargetExponent_eq accuracy hlo hhi he with ⟨hmantissa, hexponent⟩
  have hfull := full_shiftRight hlo hhi
  have hrounded := roundToNearestEven_bounds (m / 2 ^ k)
    (shiftToTargetExponent .binary64 m e accuracy).1.accuracy
  rw [← hmantissa] at hrounded hfull
  -- After the first shift the mantissa is rounded, and then it is shifted once more.
  rw [roundWithAccuracy]
  simp only [hexponent]
  rw [ExtendedMantissa.roundedMantissa]
  generalize (shiftToTargetExponent .binary64 m e accuracy).1.accuracy.roundToNearestEven
    (shiftToTargetExponent .binary64 m e accuracy).1.mantissa = rounded at hrounded ⊢
  -- Rounding up can carry into one more bit, and then the second shift drops it.
  have hbits : ∃ more : Nat, more ≤ 1 ∧ 2 ^ (52 + more) ≤ rounded ∧ rounded < 2 ^ (53 + more) := by
    by_cases hcarry : rounded < 2 ^ 53
    · exact ⟨0, by omega, by omega, hcarry⟩
    · exact ⟨1, by omega, by omega, by omega⟩
  rcases hbits with ⟨more, hone, hlo', hhi'⟩
  rcases shiftToTargetExponent_eq .exact hlo' hhi' (show -1074 ≤ e + k + more by omega) with
    ⟨hmantissa', hexponent'⟩
  have hfull' := full_shiftRight hlo' hhi'
  rw [← hmantissa'] at hfull'
  rw [dif_neg (by omega)]
  exact ⟨_, _, _, _, rfl, hfull'.1, hfull'.2, by omega, by omega⟩

theorem shiftLeft_bounds {n : Nat} (hn : 0 < n) (k : Nat) :
    2 ^ (n.log2 + k) ≤ n <<< k ∧ n <<< k < 2 ^ (n.log2 + 1 + k) := by
  have hbits := (Nat.log2_eq_iff (Nat.ne_of_gt hn)).mp rfl
  rw [Nat.shiftLeft_eq, Nat.pow_add, Nat.pow_add 2 (n.log2 + 1)]
  exact ⟨Nat.mul_le_mul_right _ hbits.1, Nat.mul_lt_mul_of_pos_right hbits.2 (Nat.two_pow_pos k)⟩

theorem normal_small {n : Nat} (hn : 0 < n) (hsmall : n < 2 ^ 53) :
    IsNormal (UnpackedFloat.ofNat .binary64 n) (-52) 1 := by
  have hlog : n.log2 < 53 := (Nat.log2_lt (Nat.ne_of_gt hn)).mpr hsmall
  have hmost : (Format.mantissaBits .binary64 : Nat) = 53 := rfl
  have hleast : Format.minExponent .binary64 = -1074 := rfl
  have htarget : Format.targetExponent .binary64 (Float.Model.totalExponent n 0)
      = n.log2 - 52 := by
    rw [Format.targetExponent, Float.Model.totalExponent, hmost, hleast]
    omega
  have hshift : (0 - ((n.log2 : Int) - 52)).toNat = 52 - n.log2 := by omega
  have hcompare : compare (n : Int) 0 = .gt := Int.compare_eq_gt.mpr (by omega)
  -- The bits that are added make up for those that are missing.
  have hmantissa := shiftLeft_bounds hn (52 - n.log2)
  rw [show n.log2 + (52 - n.log2) = 52 + 0 by omega,
    show n.log2 + 1 + (52 - n.log2) = 53 + 0 by omega] at hmantissa
  rw [UnpackedFloat.ofNat, UnpackedFloat.ofInt, UnpackedFloat.normalize, hcompare]
  simp only [Int.toNat_natCast, UnpackedFloat.round, htarget, UnpackedFloat.decreaseExponent,
    hshift]
  rcases round_normal .positive .exact hmantissa.1 hmantissa.2
    (show -1074 ≤ (0 - ((52 - n.log2 : Nat) : Int)) + (0 : Nat) by omega) with
    ⟨_, _, _, _, heq, hlo, hhi, hel, heh⟩
  exact ⟨_, _, _, _, heq, hlo, hhi, by omega, by omega⟩

theorem IsNormal.mul_one {u : UnpackedFloat} {least most : Int}
    (h : IsNormal u least most) (hleast : -1000 ≤ least) :
    IsNormal (UnpackedFloat.mul .binary64 u (parts (Float.ofBits 0x3FF0000000000000)))
      least (most + 1) := by
  have hunit : parts (Float.ofBits 0x3FF0000000000000)
      = .finite .positive (2 ^ 52) (-52) (by decide) := rfl
  rcases h with ⟨sign, m, e, hm, rfl, hlo, hhi, hel, heh⟩
  -- The product has the bits of both mantissas, and those of the unit are shifted out.
  rw [hunit, UnpackedFloat.mul]
  rcases round_normal (sign * .positive) (m := m * 2 ^ 52) (k := 52) (e := e + -52) .exact
    (by omega) (by omega) (by omega) with ⟨_, _, _, _, heq, hlo', hhi', hel', heh'⟩
  exact ⟨_, _, _, _, heq, hlo', hhi', by omega, by omega⟩

theorem ofNat_eq_ofScientific (n : Nat) : Float.ofNat n = Float.ofScientific n false 0 := rfl

theorem normal_natural_small {n : Nat} (hn : 0 < n) (hsmall : n < 2 ^ 53) :
    IsNormal (parts (Float.ofNat n)) (-52) 2 := by
  have hconverted : parts (Float.ofNat n)
      = (Float.Model.pack (UnpackedFloat.mul .binary64
          (Float.Model.pack (UnpackedFloat.ofNat .binary64 n.toUInt64.toNat)).unpack
          (parts (Float.ofBits 0x3FF0000000000000)))).unpack := by
    rw [ofNat_eq_ofScientific, Float.ofScientific, dif_pos ⟨hsmall, by omega⟩]
    rfl
  have hnat : n.toUInt64.toNat = n := by
    rw [Nat.toUInt64, UInt64.toNat_ofNat']
    omega
  -- It is converted as it is and then scaled by one, and packed both times.
  have hexact := (normal_small hn hsmall).repacked (by omega) (by omega)
  rw [hconverted, hnat]
  exact (hexact.mul_one (by omega)).repacked (by omega) (by omega)

theorem normal_natural_large {n : Nat} (hlarge : 2 ^ 53 ≤ n) (hword : n < 2 ^ 64) :
    IsNormal (parts (Float.ofNat n)) (n.log2 - 52) (n.log2 - 51) := by
  have hn : 0 < n := by omega
  have hconverted : parts (Float.ofNat n)
      = (Float.Model.pack (UnpackedFloat.ofScientific .binary64 n 0)).unpack := by
    rw [ofNat_eq_ofScientific, Float.ofScientific, dif_neg (by omega)]
    rfl
  have hlog : n.log2 < 64 := (Nat.log2_lt (Nat.ne_of_gt hn)).mpr hword
  have hmantissa := shiftLeft_bounds hn 53
  rw [show n.log2 + 53 = 52 + (n.log2 + 1) by omega,
    show n.log2 + 1 + 53 = 53 + (n.log2 + 1) by omega, ← Nat.mul_one (n <<< 53)] at hmantissa
  -- It is far from the sizes at which scaling gives up.
  have hrange : (2 ^ Format.exponentBits .binary64 : Int) = 2048 := rfl
  rw [hconverted, UnpackedFloat.ofScientific, dif_neg (Nat.ne_of_gt hn),
    if_neg (by omega), if_neg (by omega), if_pos (Int.le_refl 0)]
  rcases (round_normal (.positive * .positive) (e := -53 + 0) .exact hmantissa.1 hmantissa.2
    (by omega)).repacked (by omega) (by omega) with ⟨_, _, _, _, heq, hlo, hhi, hel, heh⟩
  exact ⟨_, _, _, _, heq, hlo, hhi, by omega, by omega⟩

/-- A whole number of a word is a finite number other than zero. -/
theorem normal_natural {n : Nat} (hn : 0 < n) (hword : n < 2 ^ 64) :
    IsNormal (parts (Float.ofNat n)) (-52) 12 := by
  by_cases hsmall : n < 2 ^ 53
  · exact (normal_natural_small hn hsmall).widen (by omega) (by omega)
  · have hlog : n.log2 < 64 := (Nat.log2_lt (Nat.ne_of_gt hn)).mpr hword
    exact (normal_natural_large (by omega) hword).widen (by omega) (by omega)

/-- The quotient of two mantissas of full precision has at least full precision, if the first is
    shifted far enough. -/
theorem shifted_quotient_bounds {m m' : Nat} (hlo : 2 ^ 52 ≤ m) (hhi : m < 2 ^ 53)
    (hlo' : 2 ^ 52 ≤ m') (hhi' : m' < 2 ^ 53) :
    2 ^ 52 ≤ m <<< 53 / m' ∧ m <<< 53 / m' < 2 ^ 54 := by
  rw [Nat.shiftLeft_eq, Nat.le_div_iff_mul_le (by omega), Nat.div_lt_iff_lt_mul (by omega)]
  constructor <;> omega

theorem IsNormal.div {u v : UnpackedFloat} {least most least' most' : Int}
    (hu : IsNormal u least most) (hv : IsNormal v least' most') (hleast : -1000 ≤ least - most') :
    IsNormal (UnpackedFloat.div .binary64 u v) (least - most' - 53) (most - least' - 51) := by
  rcases hu with ⟨sign, m, e, hm, rfl, hlo, hhi, hel, heh⟩
  rcases hv with ⟨sign', m', e', hm', rfl, hlo', hhi', hel', heh'⟩
  have hlog : m.log2 = 52 := (Nat.log2_eq_iff (Nat.ne_of_gt hm)).mpr ⟨hlo, hhi⟩
  have hlog' : m'.log2 = 52 := (Nat.log2_eq_iff (Nat.ne_of_gt hm')).mpr ⟨hlo', hhi'⟩
  have hbits : (Format.mantissaBits .binary64 : Nat) = 53 := rfl
  have hfirst : Format.minExponent .binary64 = -1074 := rfl
  have htarget : min (e - e') (Format.targetExponent .binary64
      (Float.Model.totalExponent m e - Float.Model.totalExponent m' e')) = e - e' - 53 := by
    rw [Format.targetExponent, Float.Model.totalExponent, Float.Model.totalExponent, hlog, hlog',
      hbits, hfirst]
    omega
  have hshift : (e - e' - (e - e' - 53)).toNat = 53 := by omega
  simp only [UnpackedFloat.div, UnpackedFloat.divCore, htarget, hshift]
  -- The quotient may have one bit more than it needs, and rounding drops it.
  rcases shifted_quotient_bounds hlo hhi hlo' hhi' with ⟨hq, hq'⟩
  by_cases hfull : m <<< 53 / m' < 2 ^ 53
  · exact (round_normal (sign / sign') (k := 0) _ hq hfull (by omega)).widen (by omega) (by omega)
  · exact (round_normal (sign / sign') (k := 1) _ (by omega) hq' (by omega)).widen (by omega)
      (by omega)

end Rounding

section Arithmetic

open Float.Model.UnpackedFloat (roundWithAccuracy)

theorem isNaN_eq_true_iff {u : UnpackedFloat} :
    u.isNaN = true ↔ u = .notANumber := by
  cases u <;> simp only [UnpackedFloat.isNaN, reduceCtorEq]

/-- Rounding never ends in nothing. -/
theorem round_ne_notANumber (sign : Sign) (m : Nat) (e : Int) (accuracy : Accuracy) :
    roundWithAccuracy .binary64 sign m e accuracy ≠ .notANumber := by
  simp only [roundWithAccuracy]
  split
  · simp only [ne_eq, reduceCtorEq, not_false_eq_true]
  · simp only [ne_eq, reduceCtorEq, not_false_eq_true]

theorem normalize_ne_notANumber (m e : Int) (sign : Sign) :
    UnpackedFloat.normalize .binary64 m e sign ≠ .notANumber := by
  rw [UnpackedFloat.normalize]
  split
  · exact round_ne_notANumber _ _ _ _
  · simp only [ne_eq, reduceCtorEq, not_false_eq_true]
  · exact round_ne_notANumber _ _ _ _

theorem eq_neg_iff (sign sign' : Sign) : sign' = -sign ↔ ¬(sign == sign') = true := by
  cases sign with
  | negative =>
      cases sign' with
      | negative => exact iff_of_false (fun h => Sign.noConfusion h) (fun h => h rfl)
      | positive => exact iff_of_true rfl (fun h => Bool.noConfusion h)
  | positive =>
      cases sign' with
      | negative => exact iff_of_true rfl (fun h => Bool.noConfusion h)
      | positive => exact iff_of_false (fun h => Sign.noConfusion h) (fun h => h rfl)

theorem add_eq_notANumber_iff (a b : UnpackedFloat) :
    UnpackedFloat.add .binary64 a b = .notANumber ↔
      a = .notANumber ∨ b = .notANumber ∨ ∃ sign, a = .infinity sign ∧ b = .infinity (-sign) := by
  cases a with
  | notANumber => simp [UnpackedFloat.add]
  | infinity sign =>
      cases b with
      -- This is the one case in which defined operands come to nothing.
      | infinity sign' => simp [UnpackedFloat.add, eq_neg_iff]
      | _ => simp [UnpackedFloat.add]
  | zero sign =>
      cases b with
      | zero sign' => rw [UnpackedFloat.add]; split <;> simp
      | _ => simp [UnpackedFloat.add]
  | finite sign m e hm =>
      cases b with
      | finite sign' m' e' hm' => simp [UnpackedFloat.add, normalize_ne_notANumber]
      | _ => simp [UnpackedFloat.add]

/-- A sum is undefined exactly if one of its parts is, or if they are opposed. -/
theorem isNaN_add_iff {x y : Float} :
    (x + y).isNaN = true ↔ x.isNaN = true ∨ y.isNaN = true ∨ Opposed x y := by
  have hsum : (x + y).isNaN
      = (UnpackedFloat.add .binary64 (parts x) (parts y)).isNaN := isNaN_repacked _
  rw [hsum, isNaN_eq_true_iff, add_eq_notANumber_iff, ← isNaN_eq_true_iff, ← isNaN_eq_true_iff]
  rfl

theorem add_infinity_left (sign : Sign) (b : UnpackedFloat) :
    UnpackedFloat.add .binary64 (.infinity sign) b = .notANumber ∨
      UnpackedFloat.add .binary64 (.infinity sign) b = .infinity sign := by
  cases b with
  | notANumber => exact Or.inl rfl
  -- Only an infinity of the other sign spoils the sum.
  | infinity sign' =>
      rw [UnpackedFloat.add]
      split
      · exact Or.inr rfl
      · exact Or.inl rfl
  | zero sign' => exact Or.inr rfl
  | finite sign' m e hm => exact Or.inr rfl

theorem add_infinity_right (sign : Sign) (a : UnpackedFloat) :
    UnpackedFloat.add .binary64 a (.infinity sign) = .notANumber ∨
      UnpackedFloat.add .binary64 a (.infinity sign) = .infinity sign := by
  cases a with
  | notANumber => exact Or.inl rfl
  | infinity sign' =>
      -- Of two infinities the sign is that of either.
      cases sign <;> cases sign' <;> first | exact Or.inl rfl | exact Or.inr rfl
  | zero sign' => exact Or.inr rfl
  | finite sign' m e hm => exact Or.inr rfl

/-- Unless it is undefined, a sum of an infinity is infinite. -/
theorem isInfinite_add {x y : Float} {sign : Sign} (h : IsInfinite x sign ∨ IsInfinite y sign)
    (hdefined : ¬(x + y).isNaN = true) : IsInfinite (x + y) sign := by
  have hsum : parts (x + y)
      = (Float.Model.pack (UnpackedFloat.add .binary64 (parts x) (parts y))).unpack := rfl
  -- The unpacked sum is defined as well, since packing does not touch that.
  have hnot : UnpackedFloat.add .binary64 (parts x) (parts y) ≠ .notANumber := by
    intro heq
    refine hdefined (isNaN_add_iff.mpr ?_)
    rw [add_eq_notANumber_iff, ← isNaN_eq_true_iff, ← isNaN_eq_true_iff] at heq
    exact heq
  have hinfinite : UnpackedFloat.add .binary64 (parts x) (parts y) = .infinity sign := by
    rcases h with h | h
    · rw [h] at hnot ⊢
      exact (add_infinity_left sign _).resolve_left hnot
    · rw [h] at hnot ⊢
      exact (add_infinity_right sign _).resolve_left hnot
  rw [IsInfinite, hsum, hinfinite]
  cases sign <;> rfl

theorem not_opposed_of_isFinite {x y : Float} (h : y.isFinite = true) :
    ¬y.isNaN = true ∧ ¬Opposed x y := by
  have hy : y.isFinite = (parts y).isFinite := rfl
  have hy' : y.isNaN = (parts y).isNaN := rfl
  rw [hy] at h
  rw [hy', Opposed]
  simp only [IsInfinite]
  -- A finite number is no infinity, and only infinities are opposed.
  cases hparts : parts y with
  | notANumber =>
      rw [hparts] at h
      exact Bool.noConfusion h
  | infinity sign =>
      rw [hparts] at h
      exact Bool.noConfusion h
  | zero sign => simp [UnpackedFloat.isNaN]
  | finite sign m e hm => simp [UnpackedFloat.isNaN]

/-- Dividing by a whole number other than zero neither makes nor mends an undefined
    number. -/
theorem isNaN_div_natural {x : Float} {n : Nat} (hn : 0 < n) (hword : n < 2 ^ 64) :
    (x / Float.ofNat n).isNaN = x.isNaN := by
  rcases normal_natural hn hword with ⟨sign, m, e, hm, hnatural, _⟩
  have hquotient : (x / Float.ofNat n).isNaN
      = (UnpackedFloat.div .binary64 (parts x) (parts (Float.ofNat n))).isNaN := isNaN_repacked _
  have hx : x.isNaN = (parts x).isNaN := rfl
  rw [hquotient, hx, hnatural, Bool.eq_iff_iff, isNaN_eq_true_iff, isNaN_eq_true_iff]
  cases parts x <;> simp [UnpackedFloat.div, round_ne_notANumber]

/-- A number of full precision is finite and not zero. -/
theorem finite_of_isNormal {x : Float} {least most : Int} (h : IsNormal (parts x) least most) :
    x.isFinite = true ∧ (x == 0.0) = false := by
  rcases h with ⟨sign, m, e, hm, hparts, _⟩
  have hfinite : x.isFinite = (parts x).isFinite := rfl
  have hzero : (x == 0.0) = (parts x).beq (.zero .positive) := rfl
  rw [hfinite, hzero, hparts]
  exact ⟨rfl, by cases sign <;> rfl⟩

/-- The quotient of two whole numbers of words, neither of them zero, is finite and not zero. -/
theorem finite_div_natural {n d : Nat} (hn : 0 < n) (hnword : n < 2 ^ 64) (hd : 0 < d)
    (hdword : d < 2 ^ 64) :
    (Float.ofNat n / Float.ofNat d).isFinite = true ∧
      (Float.ofNat n / Float.ofNat d == 0.0) = false := by
  have hquotient : parts (Float.ofNat n / Float.ofNat d)
      = (Float.Model.pack (UnpackedFloat.div .binary64 (parts (Float.ofNat n))
          (parts (Float.ofNat d)))).unpack := rfl
  -- Both numbers are words, so the exponent of their quotient is far from both ends.
  have hnormal : IsNormal (parts (Float.ofNat n / Float.ofNat d)) (-52 - 12 - 53)
      (12 - -52 - 51) := by
    rw [hquotient]
    exact ((normal_natural hn hnword).div (normal_natural hd hdword) (by omega)).repacked
      (by omega) (by omega)
  exact finite_of_isNormal hnormal

end Arithmetic

end Floats

end SchoolAtlas
