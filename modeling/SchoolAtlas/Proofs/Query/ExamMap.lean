import SchoolAtlas.Proofs.Query.Aggregate
import SchoolAtlas.Proofs.Query.StudentGroups

/-!
# Exam Maps

What the three maps of an exam show.

All of them look at candidates. A region is on a map if some candidate of it is let
through whose school is known, and the three maps differ in what they make of these
candidates: the number of their schools, their number, or the mean of their grades. The
first goes about it in another way than the others, since it joins keys to schools and
not rows, and it still comes to the same regions.

Only the third can leave a region out. A candidate need not have a grade, and if none of
a region has one, there is no mean. Nor is there one if infinite grades cancel each other
on the way. The mean is that of the grades in the order in which they are met, because
floating-point sums depend on it; which grades these are does not.

A state can tick more tongues and results than a query has room for, and then all three
maps are refused. For the national evaluation nothing is ticked, and they never are.

## Main definitions

* `Filter.State.gradesMet`: The grades of a region in the order in which they are met.
* `Filter.State.shownValue?`: What a map shows under a region.
* `Filter.State.manyPicks`: A state with many ticked tongues and results.

## Theorems

* `Filter.State.admits_iff_exists_row`: A school is let through by its rows.
* `Filter.State.schoolsAt_ne_nil_iff`: Regions of schools are regions of rows.
* `Filter.State.value?_examMeasure`: The value that a group collapses into.
* `Filter.State.meanOfGrades?_gradesMet_eq_none_iff`: When a region has no mean.
* `Filter.State.examMap`: The maps of an exam.
-/

namespace SchoolAtlas

namespace Filter

namespace State

variable {s : State} {r : Register} {statistic : Statistic} {key : String × Option String}

/-- The grades of a region, in the order in which a map meets them. -/
def gradesMet (s : State) (r : Register) (key : String × Option String) : List Float :=
  (s.rowsMet r .grades key).filterMap Detail.grade

/-- What the map of an exam shows under a region that has candidates. -/
def shownValue? (s : State) (r : Register) (statistic : Statistic)
    (key : String × Option String) : Option Amount :=
  match statistic with
  | .schools => some (.count (s.schoolsAt r key).length)
  | .students => some (.count (s.rowsAt r key).length)
  | .grades => (meanOfGrades? (s.gradesMet r key)).map .mean

/-- Under an exam a school is let through exactly if one of its rows is. -/
theorem admits_iff_exists_row (hs : s.source ≠ .general) {school : School} :
    s.Admits r school ↔ ∃ d ∈ s.admittedRows r, d.school = school.id := by
  rw [Admits, admittedRows]
  -- A school is admitted for a row that is admitted, which is the row that is counted.
  cases hsource : s.source with
  | general => exact absurd hsource hs
  | bac =>
      simp only [AdmittedBy, List.mem_map, List.mem_filter, decide_eq_true_eq]
      constructor
      · intro hex
        rcases hex with ⟨b, hb, hid, hadmitted⟩
        exact ⟨_, ⟨b, ⟨hb, hadmitted⟩, rfl⟩, hid⟩
      · intro hex
        rcases hex with ⟨_, ⟨b, ⟨hb, hadmitted⟩, rfl⟩, hid⟩
        exact ⟨b, hb, hid, hadmitted⟩
  | evaluation =>
      simp only [AdmittedBy, List.mem_map]
      constructor
      · intro hex
        rcases hex with ⟨e, he, hid⟩
        exact ⟨_, ⟨e, he, rfl⟩, hid⟩
      · intro hex
        rcases hex with ⟨_, ⟨e, he, rfl⟩, hid⟩
        exact ⟨e, he, hid⟩

/-- A region has schools that are let through if it has rows that are, provided that a row is
    enough for its school. -/
theorem schoolsAt_ne_nil_of_rowsAt
    (h : ∀ school : School, (∃ d ∈ s.admittedRows r, d.school = school.id) → s.Admits r school)
    (hne : s.rowsAt r key ≠ []) : s.schoolsAt r key ≠ [] := by
  rcases List.exists_mem_of_ne_nil _ hne with ⟨d, hrow⟩
  rcases List.mem_filter.mp hrow with ⟨hd, hlies⟩
  rcases of_decide_eq_true hlies with ⟨school, hin, hid, hscope, hplace⟩
  exact List.ne_nil_of_mem (mem_schoolsAt_iff.mpr
    ⟨hin, hscope, h school ⟨d, hd, hid.symm⟩, hplace⟩)

/-- It has rows that are let through if it has schools that are, provided that schools are let
    through by a row. -/
theorem rowsAt_ne_nil_of_schoolsAt
    (h : ∀ school : School, s.Admits r school → ∃ d ∈ s.admittedRows r, d.school = school.id)
    (hne : s.schoolsAt r key ≠ []) : s.rowsAt r key ≠ [] := by
  rcases List.exists_mem_of_ne_nil _ hne with ⟨school, hschool⟩
  rcases mem_schoolsAt_iff.mp hschool with ⟨hin, hscope, hadmits, hplace⟩
  rcases h school hadmits with ⟨d, hd, hid⟩
  exact List.ne_nil_of_mem (List.mem_filter.mpr
    ⟨hd, decide_eq_true ⟨school, hin, hid.symm, hscope, hplace⟩⟩)

theorem schoolsAt_ne_nil_iff (hs : s.source ≠ .general) :
    s.schoolsAt r key ≠ [] ↔ s.rowsAt r key ≠ [] :=
  ⟨rowsAt_ne_nil_of_schoolsAt (fun _ => (admits_iff_exists_row hs).mp),
    schoolsAt_ne_nil_of_rowsAt (fun _ => (admits_iff_exists_row hs).mpr)⟩

/-- What the group of a region collapses into on a map over candidates. -/
theorem value?_examMeasure (hids : (r.schools.map School.id).Nodup) (hs : s.source ≠ .general)
    (hover : statistic.overStudents = true) {group : List SchoolRow}
    (h : group.map SchoolRow.detail = (s.rowsMet r statistic key).map some) :
    (s.regionQuery statistic).measure.value? group = some (s.shownValue? r statistic key) := by
  cases statistic with
  | schools => exact Bool.noConfusion hover
  | students =>
      have hmeasure : (s.regionQuery .students).measure = .rowCount := if_neg hs
      -- The join meets the rows in the order of the schools, which does not matter to counting.
      have hmet : (s.rowsMet r .students key).Perm (s.rowsAt r key) := rowsMet_perm hids _
      have hlength : group.length = (s.rowsMet r .students key).length := by
        rw [← List.length_map SchoolRow.detail, h, List.length_map]
      rw [hmeasure, Measure.value?, shownValue?, hlength, hmet.length_eq]
  | grades =>
      have hmeasure : (s.regionQuery .grades).measure = .gradeMean := if_neg hs
      rw [hmeasure, Measure.value?, shownValue?, gradesMet, filterMap_detail h]

/-- The grades that are met in a region are those of its rows. -/
theorem gradesMet_perm (hids : (r.schools.map School.id).Nodup) :
    (s.gradesMet r key).Perm ((s.rowsAt r key).filterMap Detail.grade) :=
  (rowsMet_perm hids .grades).filterMap Detail.grade

theorem gradesMet_defined (hr : r.Reached) : ∀ x ∈ s.gradesMet r key, ¬x.isNaN = true := by
  intro x hx
  rcases List.mem_filterMap.mp ((gradesMet_perm hr.nodup_ids).mem_iff.mp hx) with
    ⟨d, hd, hgrade⟩
  -- A row that is met is a row of its table, and no grade is undefined there.
  have hadmitted := (List.mem_filter.mp hd).1
  rw [← details_studentQuery] at hadmitted
  exact hr.grades_defined (List.mem_filter.mp hadmitted).1 hgrade

/-- A region has no mean exactly if no row of it has a grade, or if infinities meet in the
    sum of its grades. -/
theorem meanOfGrades?_gradesMet_eq_none_iff (hr : r.Reached)
    (hword : (s.gradesMet r key).length < 2 ^ 64) :
    meanOfGrades? (s.gradesMet r key) = none ↔
      (∀ d ∈ s.rowsAt r key, d.grade = none) ∨ CompensatedSum.Cancels (s.gradesMet r key) := by
  have hempty : s.gradesMet r key = [] ↔ ∀ d ∈ s.rowsAt r key, d.grade = none := by
    rw [← List.filterMap_eq_nil_iff, ← List.length_eq_zero_iff, ← List.length_eq_zero_iff,
      (gradesMet_perm hr.nodup_ids).length_eq]
  rw [meanOfGrades?_eq_none_iff (gradesMet_defined hr) hword, hempty]

/-- A map of an exam with more ticked names than a query has room for is refused. -/
theorem regionRows_examMap_refused (r : Register) (hs : s.source ≠ .general)
    (statistic : Statistic) (hfits : ¬s.PicksFit) :
    r.regionRows (.regions (s.regionQuery statistic)) = .error .tooLarge := by
  rw [Register.regionRows, if_neg (fun h => hfits ((examMap_fits_iff hs statistic).mp h))]

theorem regionRows_examMap (hids : (r.schools.map School.id).Nodup) (hs : s.source ≠ .general)
    (statistic : Statistic) (hfits : s.PicksFit) :
    ∃ rows, r.regionRows (.regions (s.regionQuery statistic)) = .ok rows ∧
      (rows.map RegionRow.place).Nodup ∧
      ∀ row, row ∈ rows ↔ s.rowsAt r row.place ≠ [] ∧
        s.shownValue? r statistic row.place = some row.value := by
  cases hover : statistic.overStudents with
  | false =>
      -- The map of schools is the one that is known already, with rows for its schools.
      rw [eq_schools_of_overStudents hover]
      rcases regionRows_schoolMap hids ((schoolMapFits_iff_picksFit hs).mpr hfits) with
        ⟨rows, hrows, hnodup, hmem⟩
      refine ⟨rows, hrows, hnodup, fun row => ?_⟩
      rw [hmem, schoolsAt_ne_nil_iff hs, shownValue?, Option.some.injEq, eq_comm (a := row.value)]
  | true =>
      exact regionRows_studentMap hids hover hfits _
        (fun key group hgroup => value?_examMeasure hids hs hover hgroup)

/-- The maps of an exam. Unless the state ticks more names than a query has room for, each
    shows the regions that have a candidate let through whose school is known, each once and
    with its value: the number of the schools of these candidates, which all differ, or of
    the candidates, or the mean of their grades. A region whose mean does not exist is left
    out, which is so exactly if none of its candidates has a grade or if infinities meet in
    the sum. They do if there are infinite grades of both signs. -/
theorem examMap (hr : r.Reached) (hs : s.source ≠ .general) (statistic : Statistic) :
    (¬s.PicksFit → r.regionRows (.regions (s.regionQuery statistic)) = .error .tooLarge) ∧
    (s.PicksFit → ∃ rows, r.regionRows (.regions (s.regionQuery statistic)) = .ok rows ∧
      (rows.map RegionRow.place).Nodup ∧
      ∀ row, row ∈ rows ↔ s.rowsAt r row.place ≠ [] ∧
        s.shownValue? r statistic row.place = some row.value) ∧
    ∀ key, ((s.schoolsAt r key).map School.id).Nodup ∧
      (s.gradesMet r key).Perm ((s.rowsAt r key).filterMap Detail.grade) ∧
      ((s.gradesMet r key).length < 2 ^ 64 →
        (s.shownValue? r .grades key = none ↔
          (∀ d ∈ s.rowsAt r key, d.grade = none) ∨
            CompensatedSum.Cancels (s.gradesMet r key))) ∧
      ∀ x ∈ s.gradesMet r key, ∀ y ∈ s.gradesMet r key, Floats.Opposed x y →
        CompensatedSum.Cancels (s.gradesMet r key) := by
  refine ⟨regionRows_examMap_refused r hs statistic, regionRows_examMap hr.nodup_ids hs statistic,
    fun key => ⟨nodup_ids_schoolsAt hr key, gradesMet_perm hr.nodup_ids, fun hword => ?_,
      fun x hx y hy h => CompensatedSum.cancels_of_opposed (gradesMet_defined hr) hx hy h⟩⟩
  -- There is no mean without grades, and none if the running sum is undefined.
  rw [shownValue?, Option.map_eq_none_iff]
  exact meanOfGrades?_gradesMet_eq_none_iff hr hword

/-- The files of two schools and four candidates. One candidate is of neither school, and
    of the others one has a grade. -/
def fourCandidates : List (Table × String) :=
  [(.schools, "id,judet,localitate,nume\n1,CJ,Turda,A\n2,AB,Blaj,B\n"),
    (.bacResults, "school_code,sex,profil,non_romanian_lang,foreign_lang,result,mean_grade\n"
      ++ "1,,,,,Promovat,7.5\n1,,,,,Promovat,\n2,,,,,Respins,\n9,,,,,Promovat,10\n")]

/-- The register of these files. -/
def fourCandidatesRegister : Register where
  schools :=
    [⟨"1", "CJ", some "Turda", "A", none, none, none, none⟩,
      ⟨"2", "AB", some "Blaj", "B", none, none, none, none⟩]
  enrolments := []
  bacResults :=
    [⟨"1", none, none, none, none, some "Promovat", some 7.5⟩,
      ⟨"1", none, none, none, none, some "Promovat", none⟩,
      ⟨"2", none, none, none, none, some "Respins", none⟩,
      ⟨"9", none, none, none, none, some "Promovat", some 10.0⟩]
  evaluationResults := []

theorem fourCandidatesRegister_reached : fourCandidatesRegister.Reached :=
  Register.reached_iff.mpr ⟨fourCandidates, by decide +kernel⟩

/-- The state at the start, with the baccalaureate for its data source. -/
def bacMap : State := { initial with inBacData := true }

/-- The map of grades shows the mean of the one grade of a county, and not the county that
    has a candidate but no grade. -/
theorem examMap_fourCandidates : ∃ rows,
    fourCandidatesRegister.regionRows (.regions (bacMap.regionQuery .grades)) = .ok rows ∧
      ⟨"CJ", none, .mean 7.5⟩ ∈ rows ∧ ∀ value, ⟨"AB", none, value⟩ ∉ rows := by
  rcases examMap fourCandidatesRegister_reached (s := bacMap) (by decide) .grades with
    ⟨_, hanswered, hgrades⟩
  rcases hanswered (by decide) with ⟨rows, hrows, _, hmem⟩
  -- With one grade at most, the order in which grades are met makes no difference.
  have hone : bacMap.gradesMet fourCandidatesRegister ("CJ", none) = [7.5] := by
    have hgrade : (bacMap.rowsAt fourCandidatesRegister ("CJ", none)).filterMap Detail.grade
        = [7.5] := by decide +kernel
    have hperm := (hgrades ("CJ", none)).2.1
    rw [hgrade] at hperm
    exact List.perm_singleton.mp hperm
  have hnone : bacMap.gradesMet fourCandidatesRegister ("AB", none) = [] := by
    have hgrade : (bacMap.rowsAt fourCandidatesRegister ("AB", none)).filterMap Detail.grade
        = [] := by decide +kernel
    have hperm := (hgrades ("AB", none)).2.1
    rw [hgrade] at hperm
    exact hperm.eq_nil
  refine ⟨rows, hrows, (hmem _).mpr ⟨by decide +kernel, ?_⟩, fun value hrow => ?_⟩
  · have hmean : meanOfGrades? [7.5] = some 7.5 := by decide +kernel
    rw [RegionRow.place, shownValue?, hone, hmean]
    rfl
  · have hleft := ((hgrades ("AB", none)).2.2.1 (by rw [hnone]; decide)).mpr
      (Or.inl (by decide +kernel))
    have hshown := ((hmem _).mp hrow).2
    rw [RegionRow.place, hleft] at hshown
    exact absurd hshown (by simp only [reduceCtorEq, not_false_eq_true])

/-- A menu of many names, all of them ticked but the first. -/
def partMenu (n : Nat) (h : n < 0x5000) : Selection where
  ticks :=
    { entries := (ideograph 0, false) :: (List.range n).map (fun i => (ideograph (i + 1), true))
      ordered := by
        refine List.pairwise_cons.mpr ⟨fun entry hentry => ?_, List.pairwise_map.mpr
          (List.pairwise_lt_range.imp_of_mem (fun _ hj hlt => ?_))⟩
        · rcases List.mem_map.mp hentry with ⟨i, hi, rfl⟩
          have hrange := List.mem_range.mp hi
          exact ideograph_lt (Nat.succ_pos i) (by omega)
        · have hrange := List.mem_range.mp hj
          exact ideograph_lt (by omega) (by omega) }

theorem selected_partMenu {n : Nat} (h : n < 0x5000) :
    (partMenu n h).selected = (List.range n).map (fun i => ideograph (i + 1)) := by
  rw [Selection.selected, partMenu, List.filter_cons_of_neg Bool.false_ne_true, List.filter_map,
    List.map_map]
  have hall : (List.range n).filter (Prod.snd ∘ fun i => (ideograph (i + 1), true))
      = List.range n := List.filter_eq_self.mpr (fun _ _ => rfl)
  rw [hall]
  rfl

/-- One listed name is not ticked, so the menu restricts to all others. -/
theorem restriction?_partMenu {n : Nat} (h : n < 0x5000) (hn : 0 < n) :
    (partMenu n h).restriction? = some (partMenu n h).selected := by
  have hentry : (ideograph 0, false) ∈ (partMenu n h).ticks.entries := List.mem_cons_self
  refine Selection.restriction?_eq_some_iff.mpr
    ⟨?_, ⟨_, List.mem_map_of_mem hentry, Selection.isSelected_of_mem hentry⟩, rfl⟩
  rw [selected_partMenu, ne_eq, List.map_eq_nil_iff, List.range_eq_nil]
  omega

theorem ideograph_ne_majorityLanguage (i : Nat) : ideograph i ≠ Catalogue.majorityLanguage := by
  intro heq
  have hchars := congrArg String.toList heq
  rw [ideograph, String.toList_singleton] at hchars
  have hlength := congrArg List.length hchars
  rw [List.length_singleton] at hlength
  exact absurd hlength (by decide)

/-- The state at the start, with the baccalaureate for its data source and many tongues and
    results. -/
def manyPicks (n : Nat) (h : n < 0x5000) : State :=
  { initial with inBacData := true, bacLanguages := partMenu n h, bacResults := partMenu n h }

theorem not_picksFit_manyPicks {n : Nat} (h : n < 0x5000) (hn : 16383 < n) :
    ¬(manyPicks n h).PicksFit := by
  have hmenu := restriction?_partMenu h (by omega)
  have hlength : (partMenu n h).selected.length = n := by
    rw [selected_partMenu, List.length_map, List.length_range]
  have hresults : (manyPicks n h).pickedResults = (partMenu n h).selected := by
    change (partMenu n h).restriction?.getD [] = _
    rw [hmenu, Option.getD_some]
  have htongues : (manyPicks n h).pickedTongues = (partMenu n h).selected := by
    change ((partMenu n h).restriction?.getD []).filter (· ≠ Catalogue.majorityLanguage) = _
    rw [hmenu, Option.getD_some]
    refine List.filter_eq_self.mpr (fun name hname => ?_)
    rw [selected_partMenu] at hname
    rcases List.mem_map.mp hname with ⟨i, _, rfl⟩
    exact decide_eq_true (ideograph_ne_majorityLanguage (i + 1))
  have hpicks : (manyPicks n h).picks
      = (manyPicks n h).pickedTongues ++ (manyPicks n h).pickedResults := rfl
  -- Each name takes two places, as a tongue and as a result.
  rw [PicksFit, hpicks, List.length_append, htongues, hresults, hlength]
  omega

/-- The files of a school with two grades whose sum is infinite and one that is so by
    itself. -/
def largeGrades : List (Table × String) :=
  [(.schools, "id,judet,localitate,nume\n1,CJ,Turda,A\n"),
    (.bacResults, "school_code,sex,profil,non_romanian_lang,foreign_lang,result,mean_grade\n"
      ++ "1,,,,,,1e308\n1,,,,,,1e308\n1,,,,,,-inf\n")]

/-- The register of these files. -/
def largeGradesRegister : Register where
  schools := [⟨"1", "CJ", some "Turda", "A", none, none, none, none⟩]
  enrolments := []
  bacResults :=
    [⟨"1", none, none, none, none, none, some 1e308⟩,
      ⟨"1", none, none, none, none, none, some 1e308⟩,
      ⟨"1", none, none, none, none, none, some (-Numeral.infiniteFloat)⟩]
  evaluationResults := []

theorem largeGradesRegister_reached : largeGradesRegister.Reached :=
  Register.reached_iff.mpr ⟨largeGrades, by decide +kernel⟩

/-- What is infinite among these grades is negative. -/
theorem largeGrades_negative : ∀ x ∈ [1e308, 1e308, -Numeral.infiniteFloat],
    ∀ sign, Floats.IsInfinite x sign → sign = .negative := by
  have hfinite : ∀ sign, Floats.IsInfinite 1e308 sign → sign = .negative := by
    intro sign hsign
    have hlarge : (Floats.parts 1e308).isFinite = true := by decide +kernel
    rw [show Floats.parts 1e308 = .infinity sign from hsign] at hlarge
    exact Bool.noConfusion hlarge
  have hinfinite : ∀ sign, Floats.IsInfinite (-Numeral.infiniteFloat) sign → sign = .negative := by
    intro sign hsign
    have hparts : Floats.parts (-Numeral.infiniteFloat) = .infinity .negative := rfl
    injection Eq.trans (Eq.symm hparts) hsign with hsame
    exact hsame.symm
  -- Two of the three grades are finite, and the third is a negative infinity.
  intro x hx
  rcases List.mem_cons.mp hx with rfl | hx
  · exact hfinite
  · rcases List.mem_cons.mp hx with rfl | hx
    · exact hfinite
    · exact List.mem_singleton.mp hx ▸ hinfinite

/-- Not every map of an exam is answered. Nor is a region with grades left out only where
    infinite grades have both signs: a finite sum can be infinite before the one that is. -/
theorem examMap_not_total :
    (¬∀ (r : Register) (s : State) (statistic : Statistic), r.Reached → s.source = .bac →
      ∃ rows, r.regionRows (.regions (s.regionQuery statistic)) = .ok rows) ∧
    ¬∀ (r : Register) (s : State) (key : String × Option String), r.Reached → s.source = .bac →
      s.rowsAt r key ≠ [] → s.shownValue? r .grades key = none →
      (∀ d ∈ s.rowsAt r key, d.grade = none) ∨
        ∃ x ∈ s.gradesMet r key, ∃ y ∈ s.gradesMet r key, Floats.Opposed x y := by
  constructor
  · intro hall
    rcases hall .empty (manyPicks 16384 (by decide)) .grades .empty rfl with ⟨rows, hrows⟩
    have hrefused := regionRows_examMap_refused (s := manyPicks 16384 (by decide)) .empty
      (by decide) .grades (not_picksFit_manyPicks (by decide) (by decide))
    rw [hrefused] at hrows
    exact absurd hrows (by simp only [reduceCtorEq, not_false_eq_true])
  · intro hall
    have hmet : bacMap.gradesMet largeGradesRegister ("CJ", none)
        = [1e308, 1e308, -Numeral.infiniteFloat] := by decide +kernel
    have hmean : bacMap.shownValue? largeGradesRegister .grades ("CJ", none) = none := by
      have hnone : meanOfGrades? [1e308, 1e308, -Numeral.infiniteFloat] = none := by
        decide +kernel
      rw [shownValue?, hmet, hnone]
      rfl
    rcases hall _ _ _ largeGradesRegister_reached rfl (by decide +kernel) hmean with
      hgrades | ⟨x, hx, y, hy, hopposed⟩
    · exact absurd hgrades (by decide +kernel)
    · -- The only infinity is negative, so none is opposed to it.
      rcases hopposed with ⟨sign, hsign, hopposite⟩
      rw [hmet] at hx hy
      have hone := largeGrades_negative x hx sign hsign
      have hother := largeGrades_negative y hy (-sign) hopposite
      rw [hone] at hother
      exact Float.Model.UnpackedFloat.Sign.noConfusion hother

end State

end Filter

end SchoolAtlas
