import SchoolAtlas.Proofs.Float.Order

/-!
# Products and Whole Parts

A part of a number is not greater than the number, although it is rounded.

The product of a number between zero and one and a second number has more bits than there is room
for, and rounding it may go up. It does not go past the second number, because that one needs no
rounding: with the exponent that is rounded to, it has a whole mantissa. The product's mantissa,
without the bits there is no room for, is either this whole number, and then nothing is rounded, or
less by one at least, while rounding adds one at most (`rounded_le`).

The rest is about the form of the result. A mantissa that was rounded up through all its bits is one
bit too long, which is put right by a shift that leaves the number as it is (`shift_carry`). The
result is then in its one form, and packing keeps it (`repacked_of_isCanonical`).

A number that is not below zero is converted to a word by dropping what is behind the point.

## Main definitions

* `Floats.spareBits`: How many bits of a mantissa there is no room for.
* `Floats.rounded`: A mantissa without these bits, rounded.

## Theorems

* `Floats.repacked_of_isCanonical`: Packing keeps a number in its one form.
* `Floats.round_exact`: What rounding ends in.
* `Floats.rounded_mul_le`: Rounding does not go past what needs no rounding.
* `Floats.mul_le`: A part of a number is not greater than the number.
* `Floats.parts_eq_of_exact_eq`: Positive numbers of one value have the same parts.
* `Floats.toUInt64_eq`: A number as a word.
-/

namespace SchoolAtlas

namespace Floats

open Float.Model (UnpackedFloat Format)
open Float.Model.UnpackedFloat (Sign Accuracy ExtendedMantissa packComponents)

section Packing

/-- Near zero the mantissa is stored as it is. -/
theorem repacked_of_short (sign : Sign) {m : Nat} (hm : 0 < m) (hhi : m < 2 ^ 52) :
    (Float.Model.pack (.finite sign m (-1074) hm)).unpack = .finite sign m (-1074) hm := by
  have hlog : m.log2 < 52 := (Nat.log2_lt (Nat.ne_of_gt hm)).mpr hhi
  -- The mantissa is not full, which is what a stored exponent of zero stands for.
  have hless : ¬m.log2 + 1 = Format.mantissaBits .binary64 := by
    have hmost : (Format.mantissaBits .binary64 : Nat) = 53 := rfl
    omega
  have hfield : (-1074 + (1023 : Nat) + (52 : Nat) : Int).toNat = 1 := rfl
  have hroom : ¬2 ^ 11 ≤ 1 + 1 := by decide
  have hnat : (BitVec.ofNat 52 m).toNat = m := by
    rw [BitVec.toNat_ofNat]
    omega
  -- It is not empty either, or the number would be zero.
  have hstored : BitVec.ofNat 52 m ≠ 0#52 := by
    intro heq
    have hfirst : (0#52 : BitVec 52).toNat = 0 := rfl
    rw [heq, hfirst] at hnat
    omega
  change UnpackedFloat.unpack .binary64
    (UnpackedFloat.pack .binary64 (.finite sign m (-1074) hm)) = _
  simp only [UnpackedFloat.pack, exponentBias_eq, hfield]
  rw [if_neg hroom, if_neg hless]
  unfold UnpackedFloat.unpack
  simp only [UnpackedFloat.unpackMantissa_packComponents,
    UnpackedFloat.unpackExponent_packComponents, unpackSign_packComponents, ofBitVec_toBitVec,
    exponentBias_eq]
  rw [if_neg (by decide), if_pos trivial, dif_neg hstored]
  simp only [hnat]
  rfl

/-- A number in its one form that is not too large has room for its exponent. -/
theorem exponent_le_of_value_lt {m : Nat} {e : Int} (hfull : 2 ^ 52 ≤ m ∨ e = -1074)
    (hroom : (m : Rat) * 2 ^ e < 2 ^ 1024) : e ≤ 971 := by
  by_contra hlarge
  -- An exponent above the greatest is not the least, so the mantissa is full.
  have hm : ((2 ^ 52 : Nat) : Rat) ≤ m := Nat.cast_le.mpr (hfull.resolve_right (by omega))
  have hge : (2 : Rat) ^ 1024 ≤ m * 2 ^ e := by
    calc (2 : Rat) ^ 1024 = (2 ^ 52 : Nat) * 2 ^ (972 : Int) := by
          rw [zpow_ofNat, Nat.cast_pow, Nat.cast_two]
          exact pow_add 2 52 972
      _ ≤ m * 2 ^ e :=
          mul_le_mul hm (zpow_le_zpow_right₀ one_le_two (by omega)) (by positivity)
            (Nat.cast_nonneg m)
  exact absurd hroom (not_lt.mpr hge)

/-- Packing keeps a number in its one form, if it is not too large. -/
theorem repacked_of_isCanonical {u : UnpackedFloat} (hfinite : u.isFinite = true)
    (h : IsCanonical u) (hroom : |value u| < 2 ^ 1024) : (Float.Model.pack u).unpack = u := by
  cases u with
  | notANumber => exact Bool.noConfusion hfinite
  | infinity sign => exact Bool.noConfusion hfinite
  | zero sign => cases sign <;> rfl
  | finite sign m e hm =>
      rcases h with ⟨hbits, hleast, hfull⟩
      have hmagnitude : |value (.finite sign m e hm)| = m * 2 ^ e := by
        have hpos := magnitude_pos e hm
        cases sign with
        | positive => rw [value_positive, abs_of_pos hpos]
        | negative => rw [value_negative, abs_neg, abs_of_pos hpos]
      have hexponent := exponent_le_of_value_lt hfull (hmagnitude ▸ hroom)
      -- A mantissa is full, or it is short and has the least exponent.
      by_cases hlo : 2 ^ 52 ≤ m
      · exact repacked_of_full sign hm hlo hbits hleast hexponent
      · obtain rfl := hfull.resolve_left hlo
        exact repacked_of_short sign hm (not_le.mp hlo)

end Packing

section Rounding

open Float.Model.UnpackedFloat (shiftToTargetExponent roundWithAccuracy)

/-- How many bits of a mantissa there is no room for. -/
def spareBits (m : Nat) (e : Int) : Nat := (max (m.log2 + e - 52) (-1074) - e).toNat

/-- A mantissa without these bits, rounded. -/
def rounded (m : Nat) (e : Int) : Nat :=
  (ExtendedMantissa.ofMantissaAndAccuracy m .exact >>> spareBits m e).roundedMantissa

theorem shiftToTargetExponent_exact (m : Nat) (e : Int) :
    shiftToTargetExponent .binary64 m e .exact
      = (ExtendedMantissa.ofMantissaAndAccuracy m .exact >>> spareBits m e, e + spareBits m e) := by
  have hmost : (Format.mantissaBits .binary64 : Nat) = 53 := rfl
  have hleast : Format.minExponent .binary64 = -1074 := rfl
  have htarget : Format.targetExponent .binary64 (Float.Model.totalExponent m e)
      = max (m.log2 + e - 52) (-1074) := by
    rw [Format.targetExponent, Float.Model.totalExponent, hmost, hleast]
    omega
  rw [shiftToTargetExponent, htarget]
  rfl

/-- Nothing is lost where only zeros are shifted out. -/
theorem shiftRight_zeros (n k : Nat) :
    (⟨n * 2 ^ k, false, false⟩ : ExtendedMantissa) >>> k = ⟨n, false, false⟩ := by
  induction k generalizing n with
  | zero =>
      rw [pow_zero, mul_one]
      rfl
  | succ k ih =>
      have hstep : ∀ em : ExtendedMantissa, em >>> (k + 1) = (em >>> k).shiftRightOne :=
        fun _ => rfl
      rw [hstep, pow_succ', ← mul_assoc, ih, ExtendedMantissa.shiftRightOne]
      simp

/-- What is at most a whole number is not rounded past it. -/
theorem rounded_le {m n : Nat} {e : Int} (h : m ≤ n * 2 ^ spareBits m e) : rounded m e ≤ n := by
  rcases h.eq_or_lt with heq | hlt
  · have hzeros := shiftRight_zeros n (spareBits m e)
    rw [← heq] at hzeros
    rw [rounded, ExtendedMantissa.ofMantissaAndAccuracy, hzeros]
    exact le_rfl
  · -- The whole part is less by one at least, and rounding adds one at most.
    have hwhole : m / 2 ^ spareBits m e < n :=
      (Nat.div_lt_iff_lt_mul (Nat.two_pow_pos _)).mpr hlt
    rw [rounded, ExtendedMantissa.roundedMantissa, mantissa_shiftRight,
      mantissa_ofMantissaAndAccuracy]
    exact (roundToNearestEven_bounds _ _).2.trans hwhole

theorem le_rounded (m : Nat) (e : Int) : m / 2 ^ spareBits m e ≤ rounded m e := by
  rw [rounded, ExtendedMantissa.roundedMantissa, mantissa_shiftRight,
    mantissa_ofMantissaAndAccuracy]
  exact (roundToNearestEven_bounds _ _).1

/-- A rounded mantissa has all its bits, unless the exponent is the least, and one bit more at
    most. -/
theorem rounded_bits {m : Nat} {e : Int} (hm : 2 ^ 52 ≤ m) :
    -1074 ≤ e + spareBits m e ∧ rounded m e ≤ 2 ^ 53 ∧
      (2 ^ 52 ≤ rounded m e ∨ e + spareBits m e = -1074) := by
  have hne : m ≠ 0 := by omega
  have hlog : 52 ≤ m.log2 := (Nat.le_log2 hne).mpr hm
  rcases (Nat.log2_eq_iff hne).mp rfl with ⟨hlo, hhi⟩
  have hspare : e + spareBits m e = max (m.log2 + e - 52) (-1074) := by
    rw [spareBits]
    omega
  refine ⟨by omega, rounded_le ?_, ?_⟩
  · calc m ≤ 2 ^ (m.log2 + 1) := hhi.le
      _ ≤ 2 ^ (53 + spareBits m e) := Nat.pow_le_pow_right (by decide) (by omega)
      _ = 2 ^ 53 * 2 ^ spareBits m e := Nat.pow_add ..
  -- The shift leaves 53 bits, unless it stops at the least exponent.
  · rcases le_or_gt ((m.log2 : Int) + e - 52) (-1074) with hleast | habove
    · exact Or.inr (by omega)
    · left
      have hbits : m.log2 = 52 + spareBits m e := by omega
      rw [hbits, Nat.pow_add] at hlo
      exact ((Nat.le_div_iff_mul_le (Nat.two_pow_pos _)).mpr hlo).trans (le_rounded m e)

/-- A carry through all bits is put right by one more shift, which does not change the number. -/
theorem shift_carry {m : Nat} {e : Int} (he : -1074 ≤ e) (hbits : m ≤ 2 ^ 53)
    (hfull : 2 ^ 52 ≤ m ∨ e = -1074) :
    let m' := m / 2 ^ spareBits m e
    (m' < 2 ^ 53 ∧ -1074 ≤ e + spareBits m e ∧ (2 ^ 52 ≤ m' ∨ e + spareBits m e = -1074)) ∧
      (m' : Rat) * 2 ^ (e + spareBits m e) = m * 2 ^ e := by
  rcases hbits.eq_or_lt with rfl | hlt
  -- After a carry there is one bit to spare, and it is zero.
  · have hone : spareBits (2 ^ 53) e = 1 := by
      rw [spareBits, Nat.log2_two_pow]
      omega
    have hhalf : 2 ^ 53 / 2 ^ 1 = 2 ^ 52 := by decide
    rw [hone, hhalf]
    refine ⟨⟨by decide, by omega, Or.inl le_rfl⟩, ?_⟩
    rw [Nat.cast_one, zpow_add_one₀ two_ne_zero]
    push_cast
    ring
  -- Otherwise there is none.
  · have hlog : m.log2 ≤ 52 := by
      rcases Nat.eq_zero_or_pos m with rfl | hpos
      · exact Nat.zero_le _
      · exact Nat.le_of_lt_succ ((Nat.log2_lt (Nat.ne_of_gt hpos)).mpr hlt)
    have hnone : spareBits m e = 0 := by
      rw [spareBits]
      omega
    rw [hnone, pow_zero, Nat.div_one, Nat.cast_zero, add_zero]
    exact ⟨⟨hlt, he, hfull⟩, rfl⟩

/-- Rounding what has bits to spare ends in the one form of the rounded mantissa. -/
theorem round_exact {m : Nat} {e : Int} (hm : 2 ^ 52 ≤ m) :
    let u := roundWithAccuracy .binary64 .positive m e .exact
    u.isFinite = true ∧ IsCanonical u ∧ value u = rounded m e * 2 ^ (e + spareBits m e) := by
  rcases rounded_bits (e := e) hm with ⟨hleast, hbits, hfull⟩
  rcases shift_carry hleast hbits hfull with ⟨hcanonical, hvalue⟩
  have hrounded : (ExtendedMantissa.ofMantissaAndAccuracy m .exact
      >>> spareBits m e).roundedMantissa = rounded m e := rfl
  intro u
  rw [← hvalue]
  simp only [u, roundWithAccuracy, shiftToTargetExponent_exact, hrounded, mantissa_shiftRight,
    mantissa_ofMantissaAndAccuracy]
  -- A mantissa is rounded to zero only if nothing is left of it.
  split
  · next hzero =>
    refine ⟨rfl, trivial, ?_⟩
    rw [hzero, Nat.cast_zero, zero_mul]
    rfl
  · exact ⟨rfl, hcanonical, value_positive _ _ _⟩

/-- A number that has bits to spare is not rounded past one that needs no rounding. -/
theorem rounded_mul_le {m c : Nat} {e t : Int} (hm : 2 ^ 52 ≤ m) (hc : c < 2 ^ 53)
    (ht : -1074 ≤ t) (hle : (m : Rat) * 2 ^ e ≤ c * 2 ^ t) :
    (rounded m e : Rat) * 2 ^ (e + spareBits m e) ≤ c * 2 ^ t := by
  have hne : m ≠ 0 := by omega
  have hlog : 52 ≤ m.log2 := (Nat.le_log2 hne).mpr hm
  rcases (Nat.log2_eq_iff hne).mp rfl with ⟨hlo, -⟩
  -- The exponent that is rounded to is not above the other number's.
  have hpowers : (2 : Rat) ^ (m.log2 + e) < 2 ^ (53 + t) := by
    calc (2 : Rat) ^ (m.log2 + e) = (2 ^ m.log2 : Nat) * 2 ^ e := by
          rw [zpow_add₀ two_ne_zero, zpow_natCast, Nat.cast_pow, Nat.cast_two]
      _ ≤ m * 2 ^ e := mul_le_mul_of_nonneg_right (Nat.cast_le.mpr hlo) (by positivity)
      _ ≤ c * 2 ^ t := hle
      _ < (2 ^ 53 : Nat) * 2 ^ t := mul_lt_mul_of_pos_right (Nat.cast_lt.mpr hc) (by positivity)
      _ = 2 ^ (53 + t) := by
          rw [zpow_add₀ two_ne_zero, Nat.cast_pow, Nat.cast_two, zpow_ofNat]
  have hexponent := (zpow_lt_zpow_iff_right₀ one_lt_two).mp hpowers
  obtain ⟨j, rfl⟩ : ∃ j : Nat, t = e + spareBits m e + j := by
    have hspare : spareBits m e = (max ((m.log2 : Int) + e - 52) (-1074) - e).toNat := rfl
    exact ⟨(t - (e + spareBits m e)).toNat, by omega⟩
  -- With that exponent the other number has a whole mantissa as well.
  have hwhole : (c : Rat) * 2 ^ (e + spareBits m e + j)
      = (c * 2 ^ j : Nat) * 2 ^ (e + spareBits m e) := by
    rw [zpow_add₀ two_ne_zero _ (j : Int), zpow_natCast]
    push_cast
    ring
  rw [hwhole] at hle ⊢
  refine mul_le_mul_of_nonneg_right (Nat.cast_le.mpr (rounded_le ?_)) (by positivity)
  have hpos : (0 : Rat) < 2 ^ e := by positivity
  rw [zpow_add₀ two_ne_zero, mul_left_comm, mul_comm (2 ^ e : Rat), mul_le_mul_iff_left₀ hpos,
    zpow_natCast] at hle
  exact_mod_cast hle

end Rounding

section Products

variable {x y : Float}

/-- A finite number that is not below zero is zero or positive. -/
theorem zero_or_positive {u : UnpackedFloat} (hu : u.isFinite = true) (h : 0 ≤ value u) :
    (∃ sign, u = .zero sign) ∨ ∃ m e hm, u = .finite .positive m e hm := by
  cases u with
  | notANumber => exact Bool.noConfusion hu
  | infinity sign => exact Bool.noConfusion hu
  | zero sign => exact Or.inl ⟨sign, rfl⟩
  | finite sign m e hm =>
      cases sign with
      | positive => exact Or.inr ⟨m, e, hm, rfl⟩
      -- The value of a negative number is below zero, however small it is.
      | negative =>
          rw [value_negative] at h
          exact absurd h (not_le.mpr (neg_lt_zero.mpr (magnitude_pos e hm)))

/-- Before it is packed, a part of a number of full precision is not greater than the number. -/
theorem mul_unpacked_le {u : UnpackedFloat} {c : Nat} {t : Int} (hc : 0 < c) (hfull : 2 ^ 52 ≤ c)
    (hbits : c < 2 ^ 53) (ht : -1074 ≤ t) (hu : u.isFinite = true) (hnonneg : 0 ≤ value u)
    (hone : value u ≤ 1) :
    let p := UnpackedFloat.mul .binary64 u (.finite .positive c t hc)
    p.isFinite = true ∧ IsCanonical p ∧ 0 ≤ value p ∧ value p ≤ c * 2 ^ t := by
  intro p
  rcases zero_or_positive hu hnonneg with ⟨sign, rfl⟩ | ⟨m, e, hm, rfl⟩
  · exact ⟨rfl, trivial, le_rfl, by positivity⟩
  · rw [value_positive] at hone
    -- The one number has all its bits, so the product has enough of them whatever the other has.
    have hlong : 2 ^ 52 ≤ m * c := hfull.trans (Nat.le_mul_of_pos_left c hm)
    have hle : ((m * c : Nat) : Rat) * 2 ^ (e + t) ≤ c * 2 ^ t := by
      calc ((m * c : Nat) : Rat) * 2 ^ (e + t) = m * 2 ^ e * (c * 2 ^ t) := by
            rw [zpow_add₀ two_ne_zero]
            push_cast
            ring
        _ ≤ 1 * (c * 2 ^ t) := mul_le_mul_of_nonneg_right hone (by positivity)
        _ = c * 2 ^ t := one_mul _
    rcases round_exact (e := e + t) hlong with ⟨hfinite, hcanonical, hvalue⟩
    refine ⟨hfinite, hcanonical, ?_, hvalue.trans_le (rounded_mul_le hlong hbits ht hle)⟩
    exact (mul_nonneg (Nat.cast_nonneg _) (by positivity)).trans_eq hvalue.symm

/-- A part of a number of full precision is not greater than the number. -/
theorem mul_le {c : Nat} {t : Int} {hc : 0 < c} (hy : parts y = .finite .positive c t hc)
    (hfull : 2 ^ 52 ≤ c) (hroom : t ≤ 971) (hx : x.isFinite = true) (hnonneg : 0 ≤ exact x)
    (hone : exact x ≤ 1) :
    (x * y).isFinite = true ∧ 0 ≤ exact (x * y) ∧ exact (x * y) ≤ exact y := by
  have hvalue : exact y = c * 2 ^ t := by rw [exact, hy, value_positive]
  have hcanonical := isCanonical_parts y
  rw [hy] at hcanonical
  rcases mul_unpacked_le hc hfull hcanonical.1 hcanonical.2.1 hx hnonneg hone with
    ⟨hfinite, hform, hpos, hle⟩
  -- The second factor is less than `2 ^ 1024`, and the product is no greater.
  have hlarge : (c : Rat) * 2 ^ t < 2 ^ 1024 := by
    calc (c : Rat) * 2 ^ t < (2 ^ 53 : Nat) * 2 ^ t :=
          mul_lt_mul_of_pos_right (Nat.cast_lt.mpr hcanonical.1) (by positivity)
      _ ≤ (2 ^ 53 : Nat) * 2 ^ (971 : Int) :=
          mul_le_mul_of_nonneg_left (zpow_le_zpow_right₀ one_le_two hroom) (Nat.cast_nonneg _)
      _ = 2 ^ 1024 := by
          rw [zpow_ofNat, Nat.cast_pow, Nat.cast_two]
          exact (pow_add 2 53 971).symm
  have hrepacked := repacked_of_isCanonical hfinite hform
    (by rw [abs_of_nonneg hpos]; exact hle.trans_lt hlarge)
  -- Packing the product and unpacking it again loses nothing.
  have hproduct : parts (x * y) = UnpackedFloat.mul .binary64 (parts x)
      (.finite .positive c t hc) := by
    rw [← hy] at hrepacked ⊢
    exact hrepacked
  have hparts : (x * y).isFinite = (parts (x * y)).isFinite := rfl
  rw [hparts, hvalue, exact, hproduct]
  exact ⟨hfinite, hpos, hle⟩

theorem isNaN_mul_of_isNaN (h : x.isNaN = true) : (x * y).isNaN = true := by
  have hproduct : (x * y).isNaN = (UnpackedFloat.mul .binary64 (parts x) (parts y)).isNaN :=
    isNaN_repacked _
  have hx : parts x = .notANumber := isNaN_eq_true_iff.mp h
  rw [hproduct, hx]
  rfl

theorem exists_positive {u : UnpackedFloat} (hu : u.isFinite = true) (h : 0 < value u) :
    ∃ m e hm, u = .finite .positive m e hm := by
  rcases zero_or_positive hu h.le with ⟨sign, rfl⟩ | hpositive
  · exact absurd h (lt_irrefl 0)
  · exact hpositive

/-- Positive numbers of one value have the same parts. -/
theorem parts_eq_of_exact_eq (hx : x.isFinite = true) (hy : y.isFinite = true)
    (hpos : 0 < exact x) (h : exact x = exact y) : parts x = parts y := by
  rcases exists_positive (u := parts x) hx hpos with ⟨m, e, hm, hx⟩
  rcases exists_positive (u := parts y) hy (hpos.trans_eq h) with ⟨m', e', hm', hy⟩
  -- In their one form numbers compare by their parts, and these compare as equal.
  rcases hx ▸ isCanonical_parts x with ⟨hbits, hleast, hfull⟩
  rcases hy ▸ isCanonical_parts y with ⟨hbits', hleast', hfull'⟩
  have hcompare := compare_magnitude hbits hleast hfull hbits' hleast' hfull'
  rw [exact, exact, hx, hy, value_positive, value_positive] at h
  rw [compare_eq_iff_eq.mpr h, Ordering.then_eq_eq, compare_eq_iff_eq, compare_eq_iff_eq]
    at hcompare
  rcases hcompare with ⟨rfl, rfl⟩
  exact hx.trans hy.symm

end Products

section Truncation

open Float.Model.UnpackedFloat (roundToInt)

/-- Dropping the bits behind the point leaves the whole part. -/
theorem roundToInt_positive (m : Nat) (e : Int) :
    roundToInt .positive m e = ⌊(m : Rat) * 2 ^ e⌋₊ := by
  -- By the sign of the exponent, one of the two shifts is by nothing.
  have hshift : roundToInt .positive m e = ((m <<< e.toNat / 2 ^ (-e).toNat : Nat) : Int) := by
    have hback : (0 - (e - (e.toNat : Int))).toNat = (-e).toNat := by omega
    simp only [roundToInt, UnpackedFloat.decreaseExponent, UnpackedFloat.shiftToExponent,
      mantissa_shiftRight, mantissa_ofMantissaAndAccuracy, Sign.apply, sub_zero, hback]
  have hvalue : (m : Rat) * 2 ^ e = (m <<< e.toNat : Nat) / (2 ^ (-e).toNat : Nat) := by
    rw [Nat.shiftLeft_eq, Nat.cast_mul, Nat.cast_pow, Nat.cast_pow, Nat.cast_two, mul_div_assoc,
      ← zpow_natCast, ← zpow_natCast, ← zpow_sub₀ two_ne_zero]
    congr 2
    omega
  rw [hshift, hvalue, Nat.floor_div_eq_div]

variable {x : Float}

/-- A number that fits a word is converted to its whole part. -/
theorem toUInt64_eq (hx : x.isFinite = true) (hnonneg : 0 ≤ exact x) (hword : exact x < 2 ^ 64) :
    x.toUInt64.toNat = ⌊exact x⌋₊ := by
  have hword' : x.toUInt64 = (parts x).toUInt64 := rfl
  -- A word holds the whole part, so nothing is cut off at the ends.
  have hint : (parts x).toInt 0 (UInt64.size - 1) = ⌊exact x⌋₊ := by
    rw [exact]
    rcases zero_or_positive (u := parts x) hx hnonneg with ⟨sign, hzero⟩ | ⟨m, e, hm, hpositive⟩
    · rw [hzero]
      exact (Nat.cast_eq_zero.mpr (Nat.floor_zero (R := Rat))).symm
    · rw [hpositive, value_positive]
      exact roundToInt_positive m e
  have hless : ⌊exact x⌋₊ < 2 ^ 64 := by
    rw [Nat.floor_lt hnonneg]
    exact_mod_cast hword
  rw [hword', UnpackedFloat.toUInt64, hint, Int.toNat_natCast,
    UInt64.ofNatClamp_eq_ofNat _ hless, UInt64.toNat_ofNat_of_lt' hless]

theorem toUInt64_of_isNaN (hx : x.isNaN = true) : x.toUInt64.toNat = 0 := by
  have hword : x.toUInt64 = (parts x).toUInt64 := rfl
  have hparts : parts x = .notANumber := isNaN_eq_true_iff.mp hx
  rw [hword, hparts]
  rfl

end Truncation

end Floats

end SchoolAtlas
