import SchoolAtlas.Proofs.Query.DrillDown

/-!
# Schools and Their Students

What the map of schools and the map of students say about each other.

The two maps of a state are different queries. One asks of a school whether it has rows of some
kind, and the other is taken over the rows. They tell one story as far as having a row that is
let through is what lets a school through.

For an exam that is the whole truth. The two maps show the same regions, and since every school
that is counted has a candidate of its own who is counted, there are no more schools than
candidates. Enrolments are another matter. Asked for apart, level and language may be met by two
different enrolments of a school, of which none is let through, so the map of schools can show
more regions. Under strict matching it can show fewer, because a school needs a row for every
ticked level. With one level only, that row is again an enrolment that is let through.

## Theorems

* `Filter.State.length_schoolsAt_le`: There are no more schools than candidates.
* `Filter.State.schoolCount_le`: What that means for the maps of an exam.
* `Filter.State.admits_of_row`, `Filter.State.admits_iff_row_of_one_level`: Schools of the
  general source that are let through by a row.
* `Filter.State.places_iff_of_one_level`: What that means for strict matching with one level.
* `Filter.State.schools_and_students`: The two maps of a state.
-/

namespace SchoolAtlas

namespace Filter

namespace State

variable {s : State} {r : Register} {statistic : Statistic} {key : String × Option String}

/-- A map of counts shows the regions where something is counted. -/
theorem ShowsCounts.mem_places_iff {rows : List RegionRow} (h : s.ShowsCounts r statistic rows) :
    key ∈ rows.map RegionRow.place ↔ s.countedAt r statistic key ≠ [] := by
  rw [List.mem_map]
  exact h.exists_place_iff

theorem mem_places_schools_iff (hr : r.Reached) {rows : List RegionRow}
    (hrows : r.regionRows (.regions (s.regionQuery .schools)) = .ok rows) :
    key ∈ rows.map RegionRow.place ↔ s.schoolsAt r key ≠ [] := by
  rw [(showsCounts_of_regionRows hr (Or.inl (by decide)) hrows).mem_places_iff]
  exact not_congr List.map_eq_nil_iff

theorem mem_places_students_iff (hr : r.Reached) {rows : List RegionRow}
    (hrows : r.regionRows (.regions (s.regionQuery .students)) = .ok rows) :
    key ∈ rows.map RegionRow.place ↔ s.rowsAt r key ≠ [] := by
  rw [(showsCounts_of_regionRows hr (Or.inl (by decide)) hrows).mem_places_iff]
  exact countedAt_ne_nil_iff rfl

/-- Under an exam every school that is counted has a candidate who is. -/
theorem length_schoolsAt_le (hr : r.Reached) (hs : s.source ≠ .general) :
    (s.schoolsAt r key).length ≤ (s.rowsAt r key).length := by
  have hsub : (s.schoolsAt r key).map School.id ⊆ (s.rowsAt r key).map Detail.school := by
    intro id hid
    rcases List.mem_map.mp hid with ⟨school, hschool, rfl⟩
    rcases mem_schoolsAt_iff.mp hschool with ⟨hin, hscope, hadmits, hplace⟩
    rcases (admits_iff_exists_row hs).mp hadmits with ⟨d, hd, hid⟩
    exact List.mem_map.mpr ⟨d, List.mem_filter.mpr
      ⟨hd, decide_eq_true ⟨school, hin, hid.symm, hscope, hplace⟩⟩, hid⟩
  -- The schools differ, so their candidates do.
  have hlength := (List.subperm_of_subset (nodup_ids_schoolsAt hr key) hsub).length_le
  rwa [List.length_map, List.length_map] at hlength

theorem exists_row_iff (hs : s.source = .general) {id : String} :
    (∃ d ∈ s.admittedRows r, d.school = id) ↔
      ∃ e ∈ r.enrolments, e.school = id ∧ s.Qualifies e := by
  unfold admittedRows
  rw [hs]
  constructor
  -- The rows are the enrolments that qualify, one for one.
  · intro hex
    rcases hex with ⟨d, hd, hid⟩
    rcases List.mem_map.mp hd with ⟨e, he, rfl⟩
    rcases List.mem_filter.mp he with ⟨hin, hqualifies⟩
    exact ⟨e, hin, hid, of_decide_eq_true hqualifies⟩
  · intro hex
    rcases hex with ⟨e, hin, hid, hqualifies⟩
    exact ⟨_, List.mem_map.mpr ⟨e, List.mem_filter.mpr ⟨hin, decide_eq_true hqualifies⟩, rfl⟩, hid⟩

/-- An enrolment that is let through lets its school through, if level and language are asked
    for apart. -/
theorem admits_of_row (hs : s.source = .general) (hstrict : ¬s.isStrict = true) {school : School}
    (h : ∃ d ∈ s.admittedRows r, d.school = school.id) : s.Admits r school := by
  rcases (exists_row_iff hs).mp h with ⟨e, he, hid, hlevel, hlanguage⟩
  unfold Admits
  rw [hs]
  exact (matches_iff_of_not_strict hstrict).mpr
    ⟨hlevel.imp_right (fun hticked => ⟨e, he, hid, hticked⟩),
      hlanguage.imp_right (fun hticked => ⟨e, he, hid, hticked⟩)⟩

/-- Under strict matching with one level it is an enrolment that lets a school through. -/
theorem admits_iff_row_of_one_level (hs : s.source = .general) (hstrict : s.isStrict = true)
    {level : String} (hlevel : s.levels.selected = [level]) {school : School} :
    s.Admits r school ↔ ∃ d ∈ s.admittedRows r, d.school = school.id := by
  rw [exists_row_iff hs]
  unfold Admits
  rw [hs]
  refine (matches_iff_of_strict hstrict).trans ?_
  rw [hlevel, List.forall_mem_singleton]
  -- With one level to ask for, one enrolment is asked for, as it is for a row.
  refine exists_congr (fun e => and_congr_right (fun _ => and_congr_right (fun _ => ?_)))
  unfold Qualifies LevelTicked
  rw [or_iff_right (isStrict_iff.mp hstrict).2.1, or_iff_right (isStrict_iff.mp hstrict).2.2,
    hlevel, List.mem_singleton]

section Exams

variable {schools students : List RegionRow}

/-- The number of schools of a region is not zero and not above that of candidates. -/
theorem schoolCount_le (hr : r.Reached) (hs : s.source ≠ .general)
    (hschools : r.regionRows (.regions (s.regionQuery .schools)) = .ok schools)
    (hstudents : r.regionRows (.regions (s.regionQuery .students)) = .ok students)
    {row row' : RegionRow} (hrow : row ∈ schools) (hrow' : row' ∈ students)
    (hplace : row.place = row'.place) :
    ∃ count count' : Int, row.value = .count count ∧ row'.value = .count count' ∧
      1 ≤ count ∧ count ≤ count' := by
  have hshows := showsCounts_of_regionRows hr (Or.inl (by decide)) hschools
  have hshows' := showsCounts_of_regionRows hr (Or.inl (by decide)) hstudents
  rcases (hshows.mem_iff row).mp hrow with ⟨hne, hvalue⟩
  have hvalue' := ((hshows'.mem_iff row').mp hrow').2
  rw [totalAt_schools] at hvalue
  rw [← hplace, totalAt_candidates rfl hs] at hvalue'
  -- The place has a row, so there is a school in it, and each school brings a candidate.
  have hpos := List.length_pos_iff.mpr (fun hnil => hne (List.map_eq_nil_iff.mpr hnil))
  have hle : (s.schoolsAt r row.place).length ≤ (s.rowsAt r row.place).length :=
    length_schoolsAt_le hr hs
  exact ⟨_, _, hvalue, hvalue', by omega, by omega⟩

/-- The grades of an exam are shown for regions that have candidates. -/
theorem rowsAt_ne_nil_of_grades (hr : r.Reached) (hs : s.source ≠ .general)
    {rows : List RegionRow}
    (hrows : r.regionRows (.regions (s.regionQuery .grades)) = .ok rows)
    (hkey : key ∈ rows.map RegionRow.place) : s.rowsAt r key ≠ [] := by
  -- A query that is too large has no answer to have places in.
  by_cases hfits : s.PicksFit
  · rcases regionRows_examMap hr.nodup_ids hs .grades hfits with ⟨_, hanswer, _, hmem⟩
    rw [hrows, Except.ok.injEq] at hanswer
    subst hanswer
    rcases List.mem_map.mp hkey with ⟨row, hrow, rfl⟩
    exact ((hmem row).mp hrow).1
  · rw [regionRows_examMap_refused r hs .grades hfits] at hrows
    simp only [reduceCtorEq] at hrows

end Exams

/-- With one level, strict matching asks of schools what is asked of rows. -/
theorem places_iff_of_one_level (hr : r.Reached) (hs : s.source = .general)
    (hstrict : s.isStrict = true) (hone : s.levels.selected.length = 1)
    {schools students : List RegionRow}
    (hschools : r.regionRows (.regions (s.regionQuery .schools)) = .ok schools)
    (hstudents : r.regionRows (.regions (s.regionQuery .students)) = .ok students) :
    key ∈ schools.map RegionRow.place ↔ key ∈ students.map RegionRow.place := by
  rcases List.length_eq_one_iff.mp hone with ⟨level, hlevel⟩
  -- A school is admitted exactly if it has a row, so no place tells them apart.
  have hadmits : ∀ school, s.Admits r school ↔ ∃ d ∈ s.admittedRows r, d.school = school.id :=
    fun _ => admits_iff_row_of_one_level hs hstrict hlevel
  rw [mem_places_schools_iff hr hschools, mem_places_students_iff hr hstudents]
  exact ⟨rowsAt_ne_nil_of_schoolsAt (fun school => (hadmits school).mp),
    schoolsAt_ne_nil_of_rowsAt (fun school => (hadmits school).mpr)⟩

/-- The map of schools and the map of students of one state. For an exam they show the same
    regions, with at least one school and no more schools than candidates, and a mean of grades
    is shown for no other region. For the general source, a region with students has schools
    that are let through, unless strict matching asks for more. If it asks for one level, the
    two maps show the same regions again. -/
theorem schools_and_students (hr : r.Reached) (s : State) :
    let shown (s : State) (statistic : Statistic) (rows : List RegionRow) :=
      r.regionRows (.regions (s.regionQuery statistic)) = .ok rows
    let loose := s.apply (.strictLevelLanguage false)
    (s.source ≠ .general → ∀ schools students, shown s .schools schools →
      shown s .students students →
      (∀ key, key ∈ schools.map RegionRow.place ↔ key ∈ students.map RegionRow.place) ∧
      (∀ row ∈ schools, ∀ row' ∈ students, row.place = row'.place → ∃ count count' : Int,
        row.value = .count count ∧ row'.value = .count count' ∧ 1 ≤ count ∧ count ≤ count')) ∧
    (s.source ≠ .general → ∀ students grades, shown s .students students →
      shown s .grades grades →
      ∀ key ∈ grades.map RegionRow.place, key ∈ students.map RegionRow.place) ∧
    (s.source = .general → ∀ schools students, shown loose .schools schools →
      shown s .students students →
      ∀ key ∈ students.map RegionRow.place, key ∈ schools.map RegionRow.place) ∧
    (s.source = .general → s.strictLevelLanguage = true → s.levels.selected.length = 1 →
      s.languages.selected ≠ [] → ∀ schools students, shown s .schools schools →
      shown s .students students →
      ∀ key, key ∈ schools.map RegionRow.place ↔ key ∈ students.map RegionRow.place) := by
  intro shown loose
  refine ⟨fun hs schools students hschools hstudents => ⟨fun key => ?_,
    fun row hrow row' hrow' => schoolCount_le hr hs hschools hstudents hrow hrow'⟩,
    fun hs students grades hstudents hgrades key hkey => ?_,
    fun hs schools students hschools hstudents key hkey => ?_,
    fun hs hstrict hone hlanguages schools students hschools hstudents key => ?_⟩
  · rw [mem_places_schools_iff hr hschools, mem_places_students_iff hr hstudents,
      schoolsAt_ne_nil_iff hs]
  · exact (mem_places_students_iff hr hstudents).mpr
      (rowsAt_ne_nil_of_grades hr hs hgrades hkey)
  · rw [mem_places_students_iff hr hstudents] at hkey
    rw [mem_places_schools_iff hr hschools]
    -- Loosely, a school with a row has an enrolment of the level and one in the language.
    have hstrict : ¬loose.isStrict = true := fun h => Bool.noConfusion h
    exact schoolsAt_ne_nil_of_rowsAt (fun _ => admits_of_row (s := loose) hs hstrict) hkey
  · have hlevels : s.levels.selected ≠ [] :=
      List.ne_nil_of_length_pos (hone.symm ▸ Nat.one_pos)
    exact places_iff_of_one_level hr hs (isStrict_iff.mpr ⟨hstrict, hlevels, hlanguages⟩) hone
      hschools hstudents

/-- A county with two candidates of one school, and a county with one. -/
theorem schools_and_students_fourCandidates : ∃ schools students,
    fourCandidatesRegister.regionRows (.regions (bacMap.regionQuery .schools)) = .ok schools ∧
      fourCandidatesRegister.regionRows (.regions (bacMap.regionQuery .students))
        = .ok students ∧
      ⟨"CJ", none, .count 2⟩ ∈ students ∧ ⟨"AB", none, .count 1⟩ ∈ students ∧
      ∀ county ∈ ["CJ", "AB"], (county, none) ∈ schools.map RegionRow.place := by
  have hs : bacMap.source ≠ .general := by decide
  have hids := fourCandidatesRegister_reached.nodup_ids
  rcases regionRows_examMap hids hs .schools (by decide) with ⟨schools, hschools, _⟩
  rcases regionRows_examMap hids hs .students (by decide) with ⟨students, hstudents, _, hmem⟩
  have hplaces := ((schools_and_students fourCandidatesRegister_reached bacMap).1 hs schools
    students hschools hstudents).1
  have hrow : ∀ entry ∈ [("CJ", 2), ("AB", 1)],
      (⟨entry.1, none, .count entry.2⟩ : RegionRow) ∈ students := by
    intro entry hentry
    -- What the map of candidates shows can be computed, the map of schools follows from it.
    have hcandidates : ∀ entry ∈ [("CJ", 2), ("AB", 1)],
        bacMap.rowsAt fourCandidatesRegister (entry.1, none) ≠ [] ∧
          ((bacMap.rowsAt fourCandidatesRegister (entry.1, none)).length : Int) = entry.2 := by
      decide +kernel
    rcases hcandidates entry hentry with ⟨hne, hlength⟩
    exact (hmem _).mpr ⟨hne, congrArg (fun n => some (Amount.count n)) hlength⟩
  refine ⟨schools, students, hschools, hstudents, hrow ("CJ", 2) (by decide),
    hrow ("AB", 1) (by decide), fun county hcounty => (hplaces _).mpr ?_⟩
  rcases List.mem_cons.mp hcounty with rfl | hcounty
  · exact List.mem_map.mpr ⟨_, hrow ("CJ", 2) (by decide), rfl⟩
  · rw [List.mem_singleton.mp hcounty]
    exact List.mem_map.mpr ⟨_, hrow ("AB", 1) (by decide), rfl⟩

end State

end Filter

end SchoolAtlas
