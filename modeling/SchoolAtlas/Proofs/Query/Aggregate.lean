import SchoolAtlas.Proofs.Float

/-!
# Sums and Means

When a sum of head counts and a mean of grades can be had.

A sum is computed from one number to the next, and it fails as soon as it leaves the
range of words on the way. Head counts are never negative, so their running sum never
comes back down: it stays within words all the way exactly if it ends there. What a
computation over steps says about itself then becomes a comparison of one number with
the greatest word.

A mean of grades fails in another way. Nothing leaves a range, but a running sum that
has become infinite and meets an infinity of the other sign is undefined from there on.
The compensation has no part in that, nor has the division, which is by a whole number.
Two infinite grades of opposite signs always end so. They are not the only way: finite
grades can add up to an infinity, and one infinite grade is enough after that.

## Main definitions

* `CompensatedSum.runningSum`: The sum that is compensated.
* `CompensatedSum.Cancels`: Infinities meet on the way.

## Theorems

* `sumOfWords?_eq`: The sum of numbers that are not negative.
* `sumOfWords?_isSome_iff`: When there is one.
* `CompensatedSum.isNaN_value_iff`: The compensation does not matter to being undefined.
* `CompensatedSum.isNaN_runningSum_iff`: When a sum is undefined.
* `CompensatedSum.cancels_of_opposed`: Infinities of both signs meet.
* `meanOfGrades?_eq_none_iff`: When there is no mean.
-/

namespace SchoolAtlas

/-- The sum of numbers that are not negative is their sum as whole numbers, or nothing if
    that is no word. -/
theorem sumOfWords?_eq {ns : List Int} (hpos : ∀ n ∈ ns, 0 ≤ n) :
    sumOfWords? ns = if ns.sum ≤ Int64.maxValue.toInt then some ns.sum else none := by
  have hmin : Int64.minValue.toInt ≤ 0 := by decide
  -- The induction is on what is left to add, with a word that is not negative so far.
  have hfold : ∀ rest : List Int, (∀ n ∈ rest, 0 ≤ n) → ∀ start : Int, 0 ≤ start →
      start ≤ Int64.maxValue.toInt → rest.foldlM addWord? start
        = if start + rest.sum ≤ Int64.maxValue.toInt then some (start + rest.sum)
          else none := by
    intro rest
    induction rest with
    | nil =>
        intro _ start _ hstart
        rw [List.sum_nil, Int.add_zero, if_pos hstart]
        rfl
    | cons n rest ih =>
        intro hrest start hzero hstart
        rcases List.forall_mem_cons.mp hrest with ⟨hn, hrest⟩
        have hpart : 0 ≤ rest.sum := List.sum_nonneg hrest
        rw [List.foldlM_cons, addWord?, List.sum_cons, ← Int.add_assoc]
        by_cases hword : start + n ≤ Int64.maxValue.toInt
        · have hfits : fitsWord (start + n) = true := by
            rw [fitsWord, Bool.and_eq_true, decide_eq_true_eq, decide_eq_true_eq]
            exact ⟨by omega, hword⟩
          rw [if_pos hfits]
          exact ih hrest (start + n) (by omega) hword
        · -- What is left to add cannot bring the sum back.
          have hfits : ¬fitsWord (start + n) = true := by
            rw [fitsWord, Bool.and_eq_true, decide_eq_true_eq, decide_eq_true_eq]
            exact fun h => hword h.2
          rw [if_neg hfits, if_neg (by omega)]
          rfl
  have h := hfold ns hpos 0 (Int.le_refl 0) (by decide)
  rw [Int.zero_add] at h
  exact h

/-- A sum of numbers that are not negative fits a word at every step if it does at the
    last. -/
theorem sumOfWords?_isSome_iff {ns : List Int} (hpos : ∀ n ∈ ns, 0 ≤ n) :
    (sumOfWords? ns).isSome = true ↔ ns.sum ≤ Int64.maxValue.toInt := by
  rw [sumOfWords?_eq hpos]
  by_cases hfits : ns.sum ≤ Int64.maxValue.toInt
  · rw [if_pos hfits]
    exact iff_of_true rfl hfits
  · rw [if_neg hfits]
    exact iff_of_false Bool.false_ne_true hfits

namespace CompensatedSum

open Floats (Opposed IsInfinite)
open Float.Model.UnpackedFloat (Sign)

/-- The sum of numbers without its compensation. -/
def runningSum (xs : List Float) : Float := xs.foldl (· + ·) 0.0

/-- The sum of numbers becomes infinite and then meets an infinity of the other sign. -/
def Cancels (xs : List Float) : Prop :=
  ∃ before x after, xs = before ++ x :: after ∧ Opposed (runningSum before) x

theorem runningSum_concat (xs : List Float) (x : Float) :
    runningSum (xs ++ [x]) = runningSum xs + x := by
  rw [runningSum, List.foldl_append]
  rfl

theorem sum_ofList (xs : List Float) : (ofList xs).sum = runningSum xs := by
  induction xs using List.reverseRecOn with
  | nil => rfl
  | append_singleton xs x ih =>
      rw [runningSum_concat, ← ih, ofList, List.foldl_append]
      rfl

/-- A compensation that is used is finite, so it neither makes nor mends anything. -/
theorem isNaN_value_iff (s : CompensatedSum) : s.value.isNaN = true ↔ s.sum.isNaN = true := by
  rw [value]
  by_cases hfinite : s.compensation.isFinite = true
  · rcases Floats.not_opposed_of_isFinite hfinite with ⟨hdefined, hopposed⟩
    rw [if_pos hfinite, Floats.isNaN_add_iff]
    exact or_iff_left (fun h => h.elim hdefined hopposed)
  · rw [if_neg hfinite]

theorem cancels_concat_iff (xs : List Float) (x : Float) :
    Cancels (xs ++ [x]) ↔ Cancels xs ∨ Opposed (runningSum xs) x := by
  constructor
  · intro h
    rcases h with ⟨before, y, after, heq, hopposed⟩
    rcases List.eq_nil_or_concat after with rfl | ⟨rest, last, rfl⟩
    · -- The infinity that is met is the last number.
      rcases List.append_inj' heq rfl with ⟨rfl, hlast⟩
      rw [List.singleton_inj] at hlast
      exact Or.inr (hlast ▸ hopposed)
    · rw [List.concat_eq_append, ← List.cons_append, ← List.append_assoc] at heq
      exact Or.inl ⟨before, y, rest, (List.append_inj' heq rfl).1, hopposed⟩
  · intro h
    rcases h with ⟨before, y, after, rfl, hopposed⟩ | hopposed
    · exact ⟨before, y, after ++ [x], by rw [List.append_assoc, List.cons_append], hopposed⟩
    · exact ⟨xs, x, [], rfl, hopposed⟩

/-- A sum of numbers is undefined exactly if infinities meet on the way. -/
theorem isNaN_runningSum_iff {xs : List Float} (h : ∀ x ∈ xs, ¬x.isNaN = true) :
    (runningSum xs).isNaN = true ↔ Cancels xs := by
  induction xs using List.reverseRecOn with
  | nil =>
      refine iff_of_false (by decide +kernel) (fun hcancels => ?_)
      rcases hcancels with ⟨before, x, after, heq, _⟩
      exact List.append_ne_nil_of_right_ne_nil before (List.cons_ne_nil x after) heq.symm
  | append_singleton xs x ih =>
      rw [List.forall_mem_append, List.forall_mem_singleton] at h
      rw [runningSum_concat, Floats.isNaN_add_iff, cancels_concat_iff, ih h.1]
      exact or_congr_right (or_iff_right h.2)

/-- As long as no infinities met, an infinite number among those added shows. -/
theorem isInfinite_runningSum {xs : List Float} {x : Float} {sign : Sign}
    (hdefined : ¬(runningSum xs).isNaN = true) (hx : x ∈ xs) (h : IsInfinite x sign) :
    IsInfinite (runningSum xs) sign := by
  induction xs using List.reverseRecOn with
  | nil => exact absurd hx List.not_mem_nil
  | append_singleton xs y ih =>
      rw [runningSum_concat] at hdefined ⊢
      -- An infinite number makes the sum infinite, and what comes later cannot make it finite.
      rcases List.mem_append.mp hx with hbefore | hlast
      · have hsum : ¬(runningSum xs).isNaN = true :=
          fun hnan => hdefined (Floats.isNaN_add_iff.mpr (Or.inl hnan))
        exact Floats.isInfinite_add (Or.inl (ih hsum hbefore)) hdefined
      · exact Floats.isInfinite_add (Or.inr (List.mem_singleton.mp hlast ▸ h)) hdefined

/-- Infinite numbers of both signs meet, whatever lies between them. -/
theorem cancels_of_opposed {xs : List Float} (hnan : ∀ x ∈ xs, ¬x.isNaN = true) {x y : Float}
    (hx : x ∈ xs) (hy : y ∈ xs) (h : Opposed x y) : Cancels xs := by
  rw [← isNaN_runningSum_iff hnan]
  by_contra hdefined
  rcases h with ⟨sign, hsign, hopposite⟩
  have hone := isInfinite_runningSum hdefined hx hsign
  have hother := isInfinite_runningSum hdefined hy hopposite
  -- One number does not have both signs.
  injection Eq.trans (Eq.symm hone) hother with hsame
  refine (Floats.eq_neg_iff sign sign).mp hsame ?_
  cases sign <;> rfl

end CompensatedSum

/-- There is no mean exactly if there are no grades, or infinities meet in their sum. -/
theorem meanOfGrades?_eq_none_iff {grades : List Float} (h : ∀ x ∈ grades, ¬x.isNaN = true)
    (hword : grades.length < 2 ^ 64) :
    meanOfGrades? grades = none ↔ grades = [] ∨ CompensatedSum.Cancels grades := by
  rw [meanOfGrades?]
  by_cases hnil : grades = []
  · rw [if_pos (List.isEmpty_iff.mpr hnil)]
    exact iff_of_true rfl (Or.inl hnil)
  · have hpos : 0 < grades.length := List.length_pos_iff.mpr hnil
    have hmean : ((CompensatedSum.ofList grades).value / Float.ofNat grades.length).isNaN = true
        ↔ CompensatedSum.Cancels grades := by
      rw [Floats.isNaN_div_natural hpos hword, CompensatedSum.isNaN_value_iff,
        CompensatedSum.sum_ofList, CompensatedSum.isNaN_runningSum_iff h]
    rw [if_neg (fun hempty => hnil (List.isEmpty_iff.mp hempty)), or_iff_right hnil, ← hmean]
    simp only [ite_eq_left_iff, reduceCtorEq, imp_false, not_not]

end SchoolAtlas
