import SchoolAtlas.Proofs.Query.Aggregate
import SchoolAtlas.Proofs.Query.SchoolMap

/-!
# Rosters and the Map

Whether a town opens to the schools that its map counts.

The roster of a town asks of a school what the map asks of it, and it lists schools
where the map counts them. One thing is asked differently. On the map a school of
no town is counted under a name that stands for having none, and a roster asks for
schools whose town has the name. So the two agree on every town but one. Under the
name for no town the map counts the schools without a town as well, and the roster
never lists them: `roster_and_map` says by how many schools the two differ.

A roster shows head counts, and these are added up for all schools at once. If the
sums of all schools fit a word, a roster that is not too large is answered; the
sums of a register that was filled by loading never fall from one enrolment to the
next, so it is enough to look at the last.

## Main definitions

* `Register.TotalsFit`: The head counts of every school add up to a word.
* `Filter.State.rosterSchools`: The admitted schools of a town.
* `Filter.State.townless`: The admitted schools of no town.
* `shownAt`: What a map shows under a region.

## Theorems

* `Register.totals?_isSome_iff`: When the totals can be had.
* `Filter.State.roster_ids`: The schools that a roster lists.
* `Filter.State.schoolsAt_town_perm`: The schools that the map counts under a town.
* `Filter.State.shownAt_schoolMap`: What the map of schools shows.
* `Filter.State.roster_and_map`: The roster of a town and the map of its county.
* `Filter.State.roster_not_always_map`: The two can differ.
-/

namespace SchoolAtlas

namespace Register

/-- The head counts of every school add up to a word. -/
def TotalsFit (r : Register) : Prop :=
  ∀ e ∈ r.enrolments,
    ((r.enrolments.filter (fun other => other.school = e.school)).map Enrolment.students).sum
      ≤ Int64.maxValue.toInt

instance (r : Register) : Decidable r.TotalsFit :=
  inferInstanceAs (Decidable (∀ e ∈ r.enrolments, _))

/-- The totals can be had exactly if the head counts of every school add up to a word. -/
theorem totals?_isSome_iff {r : Register} (hr : r.Reached) :
    r.totals?.isSome = true ↔ r.TotalsFit := by
  -- Head counts are not negative, so only the whole sum of a school can leave the words.
  have hsum : ∀ id, (EnrolmentTotals.ofEnrolments?
        (r.enrolments.filter (fun e => e.school = id))).isSome = true ↔
      ((r.enrolments.filter (fun e => e.school = id)).map Enrolment.students).sum
        ≤ Int64.maxValue.toInt := by
    intro id
    rw [EnrolmentTotals.ofEnrolments?, Option.isSome_map]
    refine sumOfWords?_isSome_iff fun n hn => ?_
    rcases List.mem_map.mp hn with ⟨e, he, rfl⟩
    exact hr.students_nonneg e (List.mem_filter.mp he).1
  rw [totals?, Option.isSome_iff_exists]
  simp only [Lists.mapM_eq_some_iff, exists_and_left, exists_eq, and_true, Option.isSome_map,
    List.mem_eraseDups, List.mem_map, forall_exists_index, and_imp, forall_apply_eq_imp_iff₂,
    hsum]
  exact Iff.rfl

theorem totals?_isSome {r : Register} (hr : r.Reached) (hfits : r.TotalsFit) :
    r.totals?.isSome :=
  (totals?_isSome_iff hr).mpr hfits

/-- The records that a register answers with are those of the plan, if it may be asked
    for. -/
theorem schoolRecords_eq_ok_iff {r : Register} {q : RosterQuery} {records : List SchoolRecord} :
    r.schoolRecords (.roster q) = .ok records ↔
      (Query.roster q).Fits ∧ q.answer? r = some records := by
  rw [schoolRecords]
  by_cases hfits : (Query.roster q).Fits
  · rw [if_pos hfits]
    cases q.answer? r with
    | none => simp only [reduceCtorEq, and_false]
    | some answer => simp only [Except.ok.injEq, Option.some.injEq, hfits, true_and]
  · rw [if_neg hfits]
    simp only [reduceCtorEq, hfits, false_and]

end Register

/-- What a map shows under a region: the value of its row, or that nothing was counted. -/
def shownAt (rows : List RegionRow) (key : String × Option String) : Amount :=
  ((rows.find? (fun row => row.place = key)).map RegionRow.value).getD (.count 0)

/-- What a map shows under a region is its count, if the map has rows for some regions with their
    counts and there is nothing to count elsewhere. -/
theorem shownAt_eq {rows : List RegionRow} (Shown : String × Option String → Prop)
    (count : String × Option String → Int)
    (hmem : ∀ row, row ∈ rows ↔ Shown row.place ∧ row.value = .count (count row.place))
    (hzero : ∀ key, ¬Shown key → count key = 0) (key : String × Option String) :
    shownAt rows key = .count (count key) := by
  rw [shownAt]
  cases hfind : rows.find? (fun row => row.place = key) with
  | none =>
      -- A region without a row has nothing to count, which is what zero says.
      have hnot : ¬Shown key := by
        intro hshown
        have hrow := (hmem ⟨key.1, key.2, .count (count key)⟩).mpr ⟨hshown, rfl⟩
        exact List.find?_eq_none.mp hfind _ hrow (decide_eq_true rfl)
      rw [hzero key hnot]
      rfl
  | some row =>
      have hfound := List.find?_some hfind
      have hkey : row.place = key := of_decide_eq_true hfound
      have hvalue := ((hmem row).mp (List.mem_of_find?_eq_some hfind)).2
      rw [Option.map_some, Option.getD_some, hvalue, hkey]

namespace Filter

namespace State

variable {s : State} {r : Register} {code name : String}

/-- The schools of a town that a state lets through. -/
def rosterSchools (s : State) (r : Register) (code name : String) : List School :=
  r.schools.filter (fun school =>
    school.county = code ∧ school.town = some name ∧ s.Admits r school)

/-- The schools of no town that a state lets through, under the name for no town. Under
    any other name there are none. -/
def townless (s : State) (r : Register) (code name : String) : List School :=
  r.schools.filter (fun school =>
    name = RegionQuery.unknownTown ∧ school.county = code ∧ school.town = none
      ∧ s.Admits r school)

/-- A state has an open town only in the county that it shows. -/
theorem county_of_openTown? (h : s.openTown? = some (code, name)) : s.county = some code := by
  rw [openTown?] at h
  split at h
  · next county town hcounty htown =>
    rw [Option.some.injEq, Prod.mk.injEq] at h
    rw [hcounty, h.1]
  · exact absurd h (by simp only [reduceCtorEq, not_false_eq_true])

theorem rosterQuery?_eq (h : s.openTown? = some (code, name)) :
    s.rosterQuery? = some
      { joins := .totals :: s.schoolJoins
        conditions := inCounty code :: inTown name :: s.schoolConditions } := by
  rw [rosterQuery?, h]
  rfl

/-- The schools of the rows that a roster is made from are those of its town that are
    admitted. -/
theorem rosterRows_school {rows : List SchoolRow}
    (hrows : r.rows? (inCounty code :: inTown name :: s.schoolConditions)
      (.totals :: s.schoolJoins) = some rows) :
    (rows.map SchoolRow.school).Perm (s.rosterSchools r code name) := by
  have hschools := Register.rows?_school (List.forall_mem_cons.mpr
    ⟨rfl, fun _ hj => repeats_schoolJoins hj⟩) hrows
  -- Totals drop nobody, so what is left are the conditions and joins of the map.
  have hkept : rows.map SchoolRow.school = r.visits.filter (fun school =>
      school.county = code ∧ school.town = some name ∧ s.Admits r school) := by
    rw [hschools]
    refine List.filter_congr (fun school _ => ?_)
    rw [Bool.eq_iff_iff, decide_eq_true_eq, ← keeps_iff_admits, ← holds_inCounty_iff (r := r),
      ← holds_inTown_iff (r := r), keeps]
    simp only [List.all_cons, Join.keeps, Bool.true_and, Bool.and_eq_true, and_assoc]
  rw [hkept]
  exact r.visits_perm.filter _

/-- The schools that a roster lists, each once: those of its town that are admitted. -/
theorem roster_ids {q : RosterQuery} {records : List SchoolRecord}
    (ht : s.openTown? = some (code, name)) (hq : s.rosterQuery? = some q)
    (hrecords : r.schoolRecords (.roster q) = .ok records) :
    (records.map SchoolRecord.id).Perm ((s.rosterSchools r code name).map School.id) := by
  rw [rosterQuery?_eq ht, Option.some.injEq] at hq
  subst hq
  have hanswer := (Register.schoolRecords_eq_ok_iff.mp hrecords).2
  rcases Option.map_eq_some_iff.mp hanswer with ⟨rows, hrows, rfl⟩
  -- A record has the identifier of its school, and sorting only moves it.
  have hids : (rows.map SchoolRow.record).map SchoolRecord.id
      = (rows.map SchoolRow.school).map School.id := by
    rw [List.map_map, List.map_map]
    rfl
  refine ((List.mergeSort_perm _ _).map SchoolRecord.id).trans ?_
  rw [hids]
  exact (rosterRows_school hrows).map School.id

/-- A roster with more ticked names than a query has room for is refused. -/
theorem schoolRecords_refused {q : RosterQuery} (r : Register) (hq : s.rosterQuery? = some q)
    (hfits : ¬s.RosterFits) : r.schoolRecords (.roster q) = .error .tooLarge := by
  rw [Register.schoolRecords, if_neg (fun h => hfits ((rosterQuery_fits_iff hq).mp h))]

/-- A roster that is not too large is answered if the totals can be had. -/
theorem schoolRecords_isOk_of_totals? {q : RosterQuery} (hq : s.rosterQuery? = some q)
    (hfits : s.RosterFits) (htotals : r.totals?.isSome) :
    ∃ records, r.schoolRecords (.roster q) = .ok records := by
  have hrows : (r.rows? q.conditions q.joins).isSome := Register.rows?_isSome (fun _ => htotals)
  rcases Option.isSome_iff_exists.mp hrows with ⟨rows, hrows⟩
  refine ⟨(rows.map SchoolRow.record).mergeSort RosterQuery.listedBefore,
    Register.schoolRecords_eq_ok_iff.mpr ⟨(rosterQuery_fits_iff hq).mpr hfits, ?_⟩⟩
  rw [RosterQuery.answer?, hrows, Option.map_some]

theorem schoolRecords_isOk {q : RosterQuery} (hr : r.Reached) (hq : s.rosterQuery? = some q)
    (hfits : s.RosterFits) (htotals : r.TotalsFit) :
    ∃ records, r.schoolRecords (.roster q) = .ok records :=
  schoolRecords_isOk_of_totals? hq hfits (Register.totals?_isSome hr htotals)

/-- What it takes for the map of a county to count a school under a town. -/
theorem counted_iff (hc : s.county = some code) (school : School) :
    (s.InScope school ∧ s.Admits r school ∧ s.place school = (code, some name)) ↔
      school.county = code ∧ school.town.getD RegionQuery.unknownTown = name
        ∧ s.Admits r school := by
  -- In an open county a place is a town, where a school without one has that of the unknown.
  simp only [InScope, place, hc, Option.isSome_some, if_true, Prod.mk.injEq,
    Option.some.injEq, reduceCtorEq, false_or]
  constructor
  · intro hcounted
    rcases hcounted with ⟨_, hadmits, hcounty, htown⟩
    exact ⟨hcounty, htown, hadmits⟩
  · intro hcounted
    rcases hcounted with ⟨hcounty, htown, hadmits⟩
    exact ⟨hcounty.symm, hadmits, hcounty, htown⟩

/-- Those of the counted schools that have a town are the schools of the town. -/
theorem schoolsAt_of_town (hc : s.county = some code) :
    (s.schoolsAt r (code, some name)).filter (fun school => school.town.isSome)
      = s.rosterSchools r code name := by
  rw [schoolsAt, List.filter_filter, rosterSchools]
  refine List.filter_congr (fun school _ => ?_)
  rw [Bool.eq_iff_iff, Bool.and_eq_true, decide_eq_true_eq, decide_eq_true_eq, counted_iff hc]
  cases school.town with
  | none => simp only [Option.isSome_none, Bool.false_eq_true, false_and, reduceCtorEq, and_false]
  | some town => simp only [Option.isSome_some, true_and, Option.getD_some, Option.some.injEq]

/-- The others are those without a town, and are counted only under the name for that. -/
theorem schoolsAt_of_no_town (hc : s.county = some code) :
    (s.schoolsAt r (code, some name)).filter (fun school => !school.town.isSome)
      = s.townless r code name := by
  rw [schoolsAt, List.filter_filter, townless]
  refine List.filter_congr (fun school _ => ?_)
  rw [Bool.eq_iff_iff, Bool.and_eq_true, decide_eq_true_eq, decide_eq_true_eq, counted_iff hc]
  -- A school without a town is counted under the name that stands for none.
  cases school.town with
  | none =>
      simp only [Option.isSome_none, Bool.not_false, true_and, Option.getD_none, eq_comm]
      exact and_left_comm
  | some town => simp only [Option.isSome_some, Bool.not_true, Bool.false_eq_true, false_and,
      reduceCtorEq, and_false]

/-- The schools that the map counts under a town: those of the town, and under the name
    for no town those without one as well. -/
theorem schoolsAt_town_perm (r : Register) (name : String) (hc : s.county = some code) :
    (s.schoolsAt r (code, some name)).Perm
      (s.rosterSchools r code name ++ s.townless r code name) := by
  rw [← schoolsAt_of_town hc, ← schoolsAt_of_no_town hc]
  exact (List.filter_append_perm _ _).symm

/-- What the map of schools shows under a region is how many schools of it are admitted. -/
theorem shownAt_schoolMap {rows : List RegionRow} (hmem : ∀ row, row ∈ rows ↔
      s.schoolsAt r row.place ≠ [] ∧ row.value = .count (s.schoolsAt r row.place).length)
    (key : String × Option String) :
    shownAt rows key = .count (s.schoolsAt r key).length := by
  refine shownAt_eq (fun key => s.schoolsAt r key ≠ []) (fun key => (s.schoolsAt r key).length)
    hmem (fun key hnone => ?_) key
  rw [not_not.mp hnone]
  rfl

theorem townless_eq_nil_iff :
    s.townless r code name = [] ↔
      ¬(name = RegionQuery.unknownTown ∧ ∃ school ∈ r.schools,
        school.county = code ∧ school.town = none ∧ s.Admits r school) := by
  rw [townless, List.filter_eq_nil_iff]
  simp only [decide_eq_true_eq]
  -- There is nothing to leave out if the town has another name, or no such school is admitted.
  constructor
  · intro hall hex
    rcases hex with ⟨hname, school, hschool, hrest⟩
    exact hall school hschool ⟨hname, hrest⟩
  · intro hnot school hschool hex
    rcases hex with ⟨hname, hrest⟩
    exact hnot ⟨hname, school, hschool, hrest⟩

/-- The roster of a town and the map of its county. An open town has a roster query, and it
    is answered unless it is too large or some head counts are. If it is answered, so is
    the map. The roster lists the admitted schools of the town, and the map counts those
    and, under the name for no town, the admitted schools of no town on top. So roster and
    map agree exactly if there are none of these. -/
theorem roster_and_map (hr : r.Reached) (ht : s.openTown? = some (code, name)) :
    ∃ q, s.rosterQuery? = some q ∧
      (s.RosterFits → r.TotalsFit → ∃ records, r.schoolRecords (.roster q) = .ok records) ∧
      (¬s.RosterFits → r.schoolRecords (.roster q) = .error .tooLarge) ∧
      ∀ records, r.schoolRecords (.roster q) = .ok records →
        ∃ rows, r.regionRows (.regions (s.regionQuery .schools)) = .ok rows ∧
          (records.map SchoolRecord.id).Perm ((s.rosterSchools r code name).map School.id) ∧
          ((s.schoolsAt r (code, some name)).map School.id).Perm
            (records.map SchoolRecord.id ++ (s.townless r code name).map School.id) ∧
          shownAt rows (code, some name)
            = .count (records.length + (s.townless r code name).length : Nat) ∧
          (shownAt rows (code, some name) = .count records.length ↔
            ¬(name = RegionQuery.unknownTown ∧ ∃ school ∈ r.schools,
              school.county = code ∧ school.town = none ∧ s.Admits r school)) := by
  have hq := rosterQuery?_eq ht
  refine ⟨_, hq, schoolRecords_isOk hr hq, schoolRecords_refused r hq, fun records hrecords => ?_⟩
  have hfits := (rosterQuery_fits_iff hq).mp (Register.schoolRecords_eq_ok_iff.mp hrecords).1
  rcases regionRows_schoolMap hr.nodup_ids (schoolMapFits_of_rosterFits hfits) with
    ⟨rows, hrows, _, hmem⟩
  have hlisted := roster_ids ht hq hrecords
  -- What is counted splits into what is listed and the schools of no town.
  have hcounted : ((s.schoolsAt r (code, some name)).map School.id).Perm
      (records.map SchoolRecord.id ++ (s.townless r code name).map School.id) := by
    have htown := (schoolsAt_town_perm r name (county_of_openTown? ht)).map School.id
    rw [List.map_append] at htown
    exact htown.trans (hlisted.symm.append_right _)
  have hlength : (s.schoolsAt r (code, some name)).length
      = records.length + (s.townless r code name).length := by
    have h := hcounted.length_eq
    rw [List.length_append, List.length_map, List.length_map, List.length_map] at h
    exact h
  have hshown := shownAt_schoolMap hmem (code, some name)
  rw [hlength] at hshown
  refine ⟨rows, hrows, hlisted, hcounted, hshown, ?_⟩
  rw [hshown, ← townless_eq_nil_iff, ← List.length_eq_zero_iff, Amount.count.injEq]
  omega

/-- The state at the start, with the detail view of a town open. -/
def opened (code name : String) : State :=
  { initial with county := some code, town := some name }

/-- A town of the register opens to the one school that the map counts there. -/
theorem roster_and_map_threeSchools : ∃ q records rows,
    (opened "CJ" "Turda").rosterQuery? = some q ∧
      threeSchoolsRegister.schoolRecords (.roster q) = .ok records ∧
      records.map SchoolRecord.id = ["1"] ∧
      threeSchoolsRegister.regionRows (.regions ((opened "CJ" "Turda").regionQuery .schools))
        = .ok rows ∧
      shownAt rows ("CJ", some "Turda") = .count 1 := by
  rcases roster_and_map (s := opened "CJ" "Turda") threeSchoolsRegister_reached rfl with
    ⟨q, hq, hanswered, _, hagree⟩
  rcases hanswered (by decide) (by decide) with ⟨records, hrecords⟩
  rcases hagree records hrecords with ⟨rows, hrows, hids, _, hshown, _⟩
  -- One school is in the town, and none without a town is counted there.
  have honly : ((opened "CJ" "Turda").rosterSchools threeSchoolsRegister "CJ" "Turda").map
      School.id = ["1"] := by decide
  have hnone : (opened "CJ" "Turda").townless threeSchoolsRegister "CJ" "Turda" = [] := by decide
  rw [honly, List.perm_singleton] at hids
  have hone : records.length = 1 := by
    rw [← List.length_map SchoolRecord.id, hids]
    rfl
  rw [hone, hnone] at hshown
  exact ⟨q, records, rows, hq, hrecords, hids, hrows, hshown⟩

/-- Under the name for no town the map counts a school that the roster does not list. -/
theorem roster_not_always_map : ¬∀ (r : Register) (s : State) (code name : String)
    (q : RosterQuery) (records : List SchoolRecord) (rows : List RegionRow), r.Reached →
    s.openTown? = some (code, name) → s.rosterQuery? = some q →
    r.schoolRecords (.roster q) = .ok records →
    r.regionRows (.regions (s.regionQuery .schools)) = .ok rows →
    shownAt rows (code, some name) = .count records.length := by
  intro hall
  have ht : (opened "CJ" RegionQuery.unknownTown).openTown?
    = some ("CJ", RegionQuery.unknownTown) := rfl
  have hq := rosterQuery?_eq ht
  rcases schoolRecords_isOk threeSchoolsRegister_reached hq (by decide) (by decide) with
    ⟨records, hrecords⟩
  rcases regionRows_schoolMap (s := opened "CJ" RegionQuery.unknownTown)
    threeSchoolsRegister_reached.nodup_ids (by decide) with ⟨rows, hrows, _, hmem⟩
  -- The map counts one school there and the roster lists none.
  have heq := hall _ _ _ _ _ _ _ threeSchoolsRegister_reached ht hq hrecords hrows
  have hempty := (roster_ids ht hq hrecords).length_eq
  have hcounted : ((opened "CJ" RegionQuery.unknownTown).schoolsAt threeSchoolsRegister
    ("CJ", some RegionQuery.unknownTown)).length = 1 := by decide
  have hlisted : (((opened "CJ" RegionQuery.unknownTown).rosterSchools threeSchoolsRegister
    "CJ" RegionQuery.unknownTown).map School.id).length = 0 := by decide
  rw [shownAt_schoolMap hmem, hcounted, Amount.count.injEq] at heq
  rw [List.length_map, hlisted] at hempty
  omega

end State

end Filter

end SchoolAtlas
