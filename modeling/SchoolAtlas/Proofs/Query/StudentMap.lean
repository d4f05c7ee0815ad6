import SchoolAtlas.Proofs.Query.Aggregate
import SchoolAtlas.Proofs.Query.StudentGroups

/-!
# Student Maps

What the map of students shows where students are those of enrolments.

A region is shown exactly if some enrolment of it is let through, and with the sum of
their head counts. Which enrolments these are is `enrolmentsAt`: level and language of
the enrolment itself have to be ticked, with or without strict matching, and its school
has to lie in the region. A school that nothing is known of lies nowhere, and one that is
known lies in one region only, so no enrolment counts twice. Head counts may be zero, and
a region of such enrolments is shown with zero.

The sums are those of whole numbers. They come school by school and not in the order of
the table, which makes no difference to a sum that is not negative on the way: it leaves
the range of words at the end or never. A region whose students are more than a word
holds makes the whole map fail, and so do more ticked names than a query has room for.

## Main definitions

* `Filter.State.studentsAt`: The students of a region.
* `Filter.State.manyNames`: A state with many ticked levels and languages.

## Theorems

* `Filter.State.LiesIn.unique`: A school lies in one region.
* `Filter.State.value?_studentSum`: The sum that a group collapses into.
* `Filter.State.studentMap_general`: The map of students by their enrolments.
* `Filter.State.studentMap_not_total`: Not every map of students is answered.
-/

namespace SchoolAtlas

namespace Filter

namespace State

variable {s : State} {r : Register} {statistic : Statistic} {key : String × Option String}

/-- The students of a region: those of its enrolments that are let through. -/
def studentsAt (s : State) (r : Register) (key : String × Option String) : Int :=
  ((s.enrolmentsAt r key).map Enrolment.students).sum

/-- A school lies in one region at most. -/
theorem LiesIn.unique (hids : (r.schools.map School.id).Nodup) {key' : String × Option String}
    {id : String} (h : s.LiesIn r key id) (h' : s.LiesIn r key' id) : key = key' := by
  rcases h with ⟨school, hin, hid, _, hplace⟩
  rcases h' with ⟨other, hother, hid', _, hplace'⟩
  have hsame : school = other := List.inj_on_of_nodup_map hids hin hother (hid.trans hid'.symm)
  rw [← hplace, ← hplace', hsame]

/-- What the group of a region collapses into is the sum of its students. -/
theorem value?_studentSum (hr : r.Reached) (hs : s.source = .general) {group : List SchoolRow}
    (h : group.map SchoolRow.detail = (s.rowsMet r statistic key).map some) :
    Measure.studentSum.value? group
      = if s.studentsAt r key ≤ Int64.maxValue.toInt then some (some (.count (s.studentsAt r key)))
        else none := by
  have hread : group.filterMap (fun row => row.detail.map Detail.students)
      = (s.rowsMet r statistic key).map Detail.students := by
    simp only [Option.map_eq_bind]
    exact (filterMap_detail h _).trans (congrFun List.filterMap_eq_map _)
  -- The enrolments are met in another order than the table has them in.
  have hperm : ((s.rowsMet r statistic key).map Detail.students).Perm
      ((s.enrolmentsAt r key).map Enrolment.students) := by
    have hmet : (s.rowsMet r statistic key).Perm (s.rowsAt r key) :=
      rowsMet_perm hr.nodup_ids statistic
    rw [rowsAt_of_general hs] at hmet
    have hstudents := hmet.map Detail.students
    rw [List.map_map] at hstudents
    exact hstudents
  have hpos : ∀ n ∈ (s.rowsMet r statistic key).map Detail.students, 0 ≤ n := by
    intro n hn
    rcases List.mem_map.mp (hperm.mem_iff.mp hn) with ⟨e, he, rfl⟩
    exact hr.students_nonneg e (List.mem_filter.mp he).1
  rw [Measure.value?, hread, sumOfWords?_eq hpos, hperm.sum_eq, ← studentsAt]
  split
  · rfl
  · rfl

/-- No region has more students than all enrolments together. -/
theorem studentsAt_le (hr : r.Reached) :
    s.studentsAt r key ≤ (r.enrolments.map Enrolment.students).sum := by
  refine (List.filter_sublist.map Enrolment.students).sum_le_sum (fun n hn => ?_)
  rcases List.mem_map.mp hn with ⟨e, he, rfl⟩
  exact hr.students_nonneg e he

theorem enrolmentsAt_ne_nil (h : 0 < s.studentsAt r key) : s.enrolmentsAt r key ≠ [] := by
  intro hnil
  rw [studentsAt, hnil] at h
  exact Int.lt_irrefl 0 h

/-- The map of students by their enrolments. Unless the state ticks more names than a query
    has room for, it fails exactly if the students of some region are more than a word holds,
    and otherwise it shows exactly the regions that have an enrolment let through, each once
    and with the number of its students. No school lies in two of them. -/
theorem studentMap_general (hr : r.Reached) (hs : s.source = .general)
    (hover : statistic.overStudents = true) :
    (¬s.PicksFit → r.regionRows (.regions (s.regionQuery statistic)) = .error .tooLarge) ∧
    (s.PicksFit → (∃ key, Int64.maxValue.toInt < s.studentsAt r key) →
      r.regionRows (.regions (s.regionQuery statistic)) = .error .overflow) ∧
    (s.PicksFit → (∀ key, s.studentsAt r key ≤ Int64.maxValue.toInt) →
      ∃ rows, r.regionRows (.regions (s.regionQuery statistic)) = .ok rows ∧
        (rows.map RegionRow.place).Nodup ∧
        ∀ row, row ∈ rows ↔ s.enrolmentsAt r row.place ≠ [] ∧
          row.value = .count (s.studentsAt r row.place)) ∧
    ∀ key key' id, s.LiesIn r key id → s.LiesIn r key' id → key = key' := by
  have hmeasure : (s.regionQuery statistic).measure = .studentSum := by
    cases statistic with
    | schools => exact Bool.noConfusion hover
    | students => exact if_pos hs
    | grades => exact if_pos hs
  have hrows : ∀ key, s.rowsAt r key ≠ [] ↔ s.enrolmentsAt r key ≠ [] := by
    intro key
    rw [rowsAt_of_general hs, ne_eq, List.map_eq_nil_iff]
  refine ⟨regionRows_studentMap_refused r hover, fun hfits hlarge => ?_, fun hfits hsmall => ?_,
    fun _ _ _ h h' => h.unique hr.nodup_ids h'⟩
  · rcases hlarge with ⟨key, hlarge⟩
    -- A region with students has enrolments, so their sum is asked for.
    have hpos : 0 < s.studentsAt r key := Int.lt_trans (by decide) hlarge
    refine regionRows_studentMap_overflow hr.nodup_ids hover hfits
      ((hrows key).mpr (enrolmentsAt_ne_nil hpos)) (fun group hgroup => ?_)
    rw [hmeasure, value?_studentSum hr hs hgroup, if_neg (Int.not_le.mpr hlarge)]
  · have hvalue : ∀ key (group : List SchoolRow),
        group.map SchoolRow.detail = (s.rowsMet r statistic key).map some →
        (s.regionQuery statistic).measure.value? group
          = some (some (.count (s.studentsAt r key))) := by
      intro key group hgroup
      rw [hmeasure, value?_studentSum hr hs hgroup, if_pos (hsmall key)]
    rcases regionRows_studentMap hr.nodup_ids hover hfits _ hvalue with
      ⟨rows, hanswer, hnodup, hmem⟩
    refine ⟨rows, hanswer, hnodup, fun row => ?_⟩
    rw [hmem, hrows, Option.some.injEq, eq_comm (a := row.value)]

/-- At the start, the students of both schools of one county are added up, and the county
    whose school has no enrolments is not shown. -/
theorem studentMap_threeSchools : ∃ rows,
    threeSchoolsRegister.regionRows (.regions (initial.regionQuery .students)) = .ok rows ∧
      ⟨"CJ", none, .count 12⟩ ∈ rows ∧ ∀ value, ⟨"AB", none, value⟩ ∉ rows := by
  have hsmall : ∀ key, initial.studentsAt threeSchoolsRegister key ≤ Int64.maxValue.toInt :=
    fun key => Int.le_trans (studentsAt_le threeSchoolsRegister_reached) (by decide)
  have hover : Statistic.students.overStudents = true := rfl
  rcases (studentMap_general threeSchoolsRegister_reached (s := initial) rfl hover).2.2.1
    (by decide) hsmall with ⟨rows, hrows, _, hmem⟩
  refine ⟨rows, hrows, (hmem _).mpr ⟨by decide, congrArg Amount.count (by decide)⟩,
    fun value hrow => ?_⟩
  have hnone : initial.enrolmentsAt threeSchoolsRegister ("AB", none) = [] := by decide
  exact ((hmem _).mp hrow).1 hnone

/-- The state at the start, with many levels and many languages. -/
def manyNames (n : Nat) (h : n ≤ 0x5000) : State :=
  { initial with levels := manyLevels n h, languages := manyLevels n h }

theorem not_picksFit_manyNames {n : Nat} (h : n ≤ 0x5000) (hn : 16383 < n) :
    ¬(manyNames n h).PicksFit := by
  have hlength : (manyLevels n h).selected.length = n := length_selected_manyLevels h
  have hpicks : (manyNames n h).picks = (manyLevels n h).selected ++ (manyLevels n h).selected :=
    rfl
  rw [PicksFit, hpicks, List.length_append, hlength]
  omega

/-- No head count is too large where there are none, and still a map can be refused. -/
theorem studentMap_not_total : ¬∀ (r : Register) (s : State), r.Reached → s.source = .general →
    ((∃ rows, r.regionRows (.regions (s.regionQuery .students)) = .ok rows) ↔
      ∀ key, s.studentsAt r key ≤ Int64.maxValue.toInt) := by
  intro hall
  have hsmall : ∀ key, (manyNames 16384 (by decide)).studentsAt .empty key
      ≤ Int64.maxValue.toInt := fun key => Int.zero_le_ofNat _
  rcases (hall .empty (manyNames 16384 (by decide)) .empty rfl).mpr hsmall with ⟨rows, hrows⟩
  have hrefused := regionRows_studentMap_refused .empty
    (rfl : Statistic.students.overStudents = true)
    (not_picksFit_manyNames (n := 16384) (by decide) (by decide))
  rw [hrefused] at hrows
  exact absurd hrows (by simp only [reduceCtorEq, not_false_eq_true])

end State

end Filter

end SchoolAtlas
