import SchoolAtlas.Proofs.Query.Correspondence
import SchoolAtlas.Proofs.Query.RosterRecords

/-!
# Rosters and the Map of Students

How many students a roster tells of, and how many of them the map shows.

Both numbers are sums of head counts of one town, taken in two ways. The map goes through the
enrolments that are let through and leaves out schools. The roster goes through the schools that
are let through and sums up all their enrolments, those that were not asked for as well. Said of
the enrolments alone, the roster sums up the enrolments of its schools
(`studentsListed_eq_sum`), and the map a part of them: an enrolment that is let through lets its
school through, if level and language are asked for apart. So the map shows no more, and what it
leaves out are the enrolments that are not asked for. With nothing ticked there are none.

Strict matching breaks this, because a school with an enrolment that is let through may still
lack one of another level. The name for no town breaks it too: schools of no town are shown under
it and listed nowhere.

All of this is about whole numbers. A map hands its sums on as floating-point numbers, and there
a town of very many students can show more of them than its roster lists
(`students_shown_rounded`).

## Main definitions

* `studentsListed`: The students of all schools of a roster.

## Theorems

* `Filter.State.liesIn_town_iff`: The schools that lie in a town.
* `Filter.State.studentsListed_eq_sum`: A roster sums up the enrolments of its schools.
* `Filter.State.enrolmentsAt_town_eq`: The map sums up some of these.
* `Filter.State.ShowsCounts.shownAt_eq`: What a map of counts shows under a region.
* `Filter.State.students_and_roster`: The map of students and the roster of a town.
* `Filter.State.students_shown_rounded`: Rounding can put the map above the roster.
-/

namespace SchoolAtlas

/-- The students of all schools of a roster. -/
def studentsListed (records : List SchoolRecord) : Nat :=
  (records.map SchoolRecord.totalStudents).sum

namespace Filter

namespace State

variable {s : State} {r : Register} {statistic : Statistic} {code name : String}

/-- The schools that lie in a town of a county are those whose town has the name, unless the name
    stands for having none. -/
theorem liesIn_town_iff (hc : s.county = some code) (hname : name ≠ RegionQuery.unknownTown)
    {id : String} :
    s.LiesIn r (code, some name) id ↔
      ∃ school ∈ r.schools, school.id = id ∧ school.county = code ∧ school.town = some name := by
  refine exists_congr (fun school => and_congr_right (fun _ => and_congr_right (fun _ => ?_)))
  simp only [InScope, place, hc, Option.isSome_some, if_true, Prod.mk.injEq, Option.some.injEq,
    reduceCtorEq, false_or]
  cases htown : school.town with
  | none =>
      -- The school is shown under another name.
      simp only [Option.getD_none, reduceCtorEq, and_false, iff_false, not_and]
      exact fun _ _ hsame => hname hsame.symm
  | some town =>
      simp only [Option.getD_some, Option.some.injEq]
      exact ⟨fun h => h.2, fun h => ⟨h.1.symm, h⟩⟩

/-- A roster sums up the enrolments of the schools that it lists. -/
theorem studentsListed_eq_sum {q : RosterQuery} {records : List SchoolRecord} (hr : r.Reached)
    (ht : s.openTown? = some (code, name)) (hq : s.rosterQuery? = some q)
    (hrecords : r.schoolRecords (.roster q) = .ok records) :
    (studentsListed records : Int) = ((r.enrolments.filter (fun e =>
      e.school ∈ (s.rosterSchools r code name).map School.id)).map Enrolment.students).sum := by
  rcases rows_of_schoolRecords ht hq hrecords with ⟨rows, hschools, htotals, rfl⟩
  have hids : ((s.rosterSchools r code name).map School.id).Nodup :=
    hr.nodup_ids.sublist (List.filter_sublist.map School.id)
  have hsummary : ∀ row ∈ rows, (row.record.totalStudents : Int)
      = ((r.enrolmentsOf row.school.id).map Enrolment.students).sum :=
    fun row hrow => (row.summary_record hr (htotals row hrow)).1
  -- The schools have identifiers of their own, so no enrolment is met twice.
  have hmet := Lists.flatMap_filter_perm hids r.enrolments Enrolment.school
  calc (studentsListed ((rows.map SchoolRow.record).mergeSort RosterQuery.listedBefore) : Int)
      = (rows.map (fun row => (row.record.totalStudents : Int))).sum := by
        rw [studentsListed, ((List.mergeSort_perm _ _).map _).sum_eq, Nat.cast_list_sum,
          List.map_map, List.map_map]
        rfl
    _ = (rows.map (fun row => ((r.enrolmentsOf row.school.id).map Enrolment.students).sum)).sum :=
        congrArg List.sum (List.map_congr_left hsummary)
    _ = ((s.rosterSchools r code name).map (fun school =>
          ((r.enrolmentsOf school.id).map Enrolment.students).sum)).sum := by
        rw [← (hschools.map _).sum_eq, List.map_map]
        rfl
    _ = ((((s.rosterSchools r code name).map School.id).flatMap r.enrolmentsOf).map
          Enrolment.students).sum := by
        rw [List.map_flatMap, List.flatMap_map, List.flatMap_def, List.sum_flatten, List.map_map]
        rfl
    _ = _ := (hmet.map Enrolment.students).sum_eq

/-- The enrolments that the map sums up under a town are enrolments of schools that the roster
    lists, as far as they are let through. -/
theorem enrolmentsAt_town_eq (hc : s.county = some code) (hname : name ≠ RegionQuery.unknownTown)
    (hs : s.source = .general) (hstrict : ¬s.isStrict = true) :
    s.enrolmentsAt r (code, some name) = (r.enrolments.filter (fun e =>
      e.school ∈ (s.rosterSchools r code name).map School.id)).filter s.Qualifies := by
  rw [enrolmentsAt, List.filter_filter]
  refine List.filter_congr (fun e he => ?_)
  rw [← Bool.decide_and, decide_eq_decide, liesIn_town_iff hc hname, List.mem_map]
  refine and_congr_right (fun hqualifies => ?_)
  constructor
  · intro hex
    rcases hex with ⟨school, hin, hid, hcounty, htown⟩
    -- The enrolment itself lets its school through.
    have hadmits : s.Admits r school :=
      admits_of_row hs hstrict ((exists_row_iff hs).mpr ⟨e, he, hid.symm, hqualifies⟩)
    exact ⟨school, mem_rosterSchools_iff.mpr ⟨hin, hcounty, htown, hadmits⟩, hid⟩
  · intro hex
    rcases hex with ⟨school, hlisted, hid⟩
    rcases mem_rosterSchools_iff.mp hlisted with ⟨hin, hcounty, htown, _⟩
    exact ⟨school, hin, hid, hcounty, htown⟩

/-- With nothing ticked every enrolment is let through. -/
theorem qualifies_of_nothing_ticked (hlevels : s.levels.selected = [])
    (hlanguages : s.languages.selected = []) (e : Enrolment) : s.Qualifies e :=
  ⟨Or.inl hlevels, Or.inl hlanguages⟩

/-- What a map of counts shows under a region is its count, and under a region that is not shown
    there is nothing to count. -/
theorem ShowsCounts.shownAt_eq {rows : List RegionRow} (h : s.ShowsCounts r statistic rows)
    (key : String × Option String) : shownAt rows key = .count (s.totalAt r statistic key) := by
  refine SchoolAtlas.shownAt_eq (fun key => s.countedAt r statistic key ≠ [])
    (s.totalAt r statistic) h.mem_iff (fun key hnone => ?_) key
  rw [totalAt, not_not.mp hnone, List.map_nil, List.sum_nil]

/-- The map of students and the roster of a town that has a name of its own, unless matching is
    strict. If both are answered, the map shows no more students than the roster lists, and with
    nothing ticked as many. -/
theorem students_and_roster (hr : r.Reached) (ht : s.openTown? = some (code, name))
    (hname : name ≠ RegionQuery.unknownTown) (hs : s.source = .general)
    (hstrict : ¬s.isStrict = true) {q : RosterQuery} (hq : s.rosterQuery? = some q)
    {rows : List RegionRow} {records : List SchoolRecord}
    (hrows : r.regionRows (.regions (s.regionQuery .students)) = .ok rows)
    (hrecords : r.schoolRecords (.roster q) = .ok records) :
    ∃ count : Int, shownAt rows (code, some name) = .count count ∧
      count ≤ studentsListed records ∧
      (s.levels.selected = [] → s.languages.selected = [] → count = studentsListed records) := by
  have hc := county_of_openTown? ht
  have hshows := showsCounts_of_regionRows hr (Or.inl (by decide)) hrows
  have hshown := hshows.shownAt_eq (code, some name)
  rw [totalAt_students rfl hs] at hshown
  refine ⟨_, hshown, ?_, fun hlevels hlanguages => ?_⟩
  -- The map adds up some of the enrolments that the roster adds up, and none is negative.
  · rw [studentsListed_eq_sum hr ht hq hrecords, studentsAt,
      enrolmentsAt_town_eq hc hname hs hstrict]
    refine (List.filter_sublist.map Enrolment.students).sum_le_sum (fun n hn => ?_)
    rcases List.mem_map.mp hn with ⟨e, he, rfl⟩
    exact hr.students_nonneg e (List.mem_filter.mp he).1
  -- With nothing ticked it adds up all of them.
  · have hall : ∀ e, s.Qualifies e := qualifies_of_nothing_ticked hlevels hlanguages
    rw [studentsListed_eq_sum hr ht hq hrecords, studentsAt,
      enrolmentsAt_town_eq hc hname hs hstrict,
      List.filter_eq_self.mpr (fun e _ => decide_eq_true (hall e))]

/-- The start with nothing ticked in the menus of enrolments and with a town open. -/
def openedAll (code name : String) : State :=
  { opened code name with levels := .empty, languages := .empty }

/-- With nothing ticked, the one school of a town has the seven students that the map shows. -/
theorem students_and_roster_threeSchools : ∃ q rows records,
    (openedAll "CJ" "Turda").rosterQuery? = some q ∧
      threeSchoolsRegister.regionRows (.regions ((openedAll "CJ" "Turda").regionQuery .students))
        = .ok rows ∧
      threeSchoolsRegister.schoolRecords (.roster q) = .ok records ∧
      studentsListed records = 7 ∧ shownAt rows ("CJ", some "Turda") = .count 7 := by
  let s := openedAll "CJ" "Turda"
  have hr := threeSchoolsRegister_reached
  have hover : Statistic.students.overStudents = true := rfl
  have hq := rosterQuery?_eq (s := s) rfl
  have hsmall : ∀ key, s.studentsAt threeSchoolsRegister key ≤ Int64.maxValue.toInt :=
    fun key => Int.le_trans (studentsAt_le hr) (by decide)
  rcases (studentMap_general (s := s) hr rfl hover).2.2.1 (by decide) hsmall with ⟨rows, hrows, _⟩
  rcases schoolRecords_isOk hr hq (by decide) (by decide) with ⟨records, hrecords⟩
  rcases students_and_roster (s := s) hr rfl (by decide) rfl (by decide) hq hrows hrecords with
    ⟨count, hshown, _, hequal⟩
  have hsum := studentsListed_eq_sum (s := s) hr rfl hq hrecords
  have hseven : ((threeSchoolsRegister.enrolments.filter (fun e =>
      e.school ∈ (s.rosterSchools threeSchoolsRegister "CJ" "Turda").map School.id)).map
        Enrolment.students).sum = 7 := by decide
  rw [hseven] at hsum
  rw [hequal rfl rfl, hsum] at hshown
  exact ⟨_, rows, records, hq, hrows, hrecords, by omega, hshown⟩

/-- The files of one school with more students than floating-point numbers tell apart. -/
def crowdedSchool : List (Table × String) :=
  [(.schools, "id,judet,localitate,nume\n1,CJ,Turda,A\n"),
    (.enrolments, "cod_siiir_unitate,nivel,limba_de_predare,numar_elevi\n"
      ++ "1,Primar,română,9007199254740995\n")]

/-- The register of these files. -/
def crowdedSchoolRegister : Register where
  schools := [⟨"1", "CJ", some "Turda", "A", none, none, none, none⟩]
  enrolments := [⟨"1", "Primar", some "română", 9007199254740995⟩]
  bacResults := []
  evaluationResults := []

theorem crowdedSchoolRegister_reached : crowdedSchoolRegister.Reached :=
  Register.reached_iff.mpr ⟨crowdedSchool, by decide +kernel⟩

/-- The number that the map hands on is a floating-point number, and it can lie above the number
    of students that the roster lists. -/
theorem students_shown_rounded : ¬∀ (r : Register) (s : State) (code name : String)
    (q : RosterQuery) (rows : List RegionRow) (records : List SchoolRecord), r.Reached →
    s.openTown? = some (code, name) → name ≠ RegionQuery.unknownTown → s.source = .general →
    ¬s.isStrict = true → s.rosterQuery? = some q →
    r.regionRows (.regions (s.regionQuery .students)) = .ok rows →
    r.schoolRecords (.roster q) = .ok records →
    (shownAt rows (code, some name)).toFloat.toUInt64.toNat ≤ studentsListed records ∧
      (s.levels.selected = [] → s.languages.selected = [] →
        (shownAt rows (code, some name)).toFloat.toUInt64.toNat = studentsListed records) := by
  intro hall
  let s := openedAll "CJ" "Turda"
  have hr := crowdedSchoolRegister_reached
  have hover : Statistic.students.overStudents = true := rfl
  have hq := rosterQuery?_eq (s := s) rfl
  have hsmall : ∀ key, s.studentsAt crowdedSchoolRegister key ≤ Int64.maxValue.toInt :=
    fun key => Int.le_trans (studentsAt_le hr) (by decide)
  rcases (studentMap_general (s := s) hr rfl hover).2.2.1 (by decide) hsmall with ⟨rows, hrows, _⟩
  rcases schoolRecords_isOk hr hq (by decide) (by decide) with ⟨records, hrecords⟩
  have hshown := (showsCounts_of_regionRows hr (Or.inl (by decide)) hrows).shownAt_eq
    ("CJ", some "Turda")
  have hcount : s.studentsAt crowdedSchoolRegister ("CJ", some "Turda") = 9007199254740995 := by
    decide
  have hsum := studentsListed_eq_sum (s := s) hr rfl hq hrecords
  have hlisted : ((crowdedSchoolRegister.enrolments.filter (fun e =>
      e.school ∈ (s.rosterSchools crowdedSchoolRegister "CJ" "Turda").map School.id)).map
        Enrolment.students).sum = 9007199254740995 := by decide
  rw [hlisted] at hsum
  -- An odd number of this size is rounded to an even one, here to the next.
  have hrounded : (Amount.count 9007199254740995).toFloat.toUInt64.toNat = 9007199254740996 := by
    decide +kernel
  have hle := (hall _ s _ _ _ _ _ hr rfl (by decide) rfl (by decide) hq hrows hrecords).1
  rw [hshown, totalAt_students rfl rfl, hcount, hrounded] at hle
  omega

end State

end Filter

end SchoolAtlas
