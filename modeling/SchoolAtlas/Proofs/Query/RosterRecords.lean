import SchoolAtlas.Proofs.Query.Roster
import SchoolAtlas.Proofs.Text.ByteOrder

/-!
# What a Roster Says of a School

Rosters, record by record.

A record repeats what the directory says of a school and adds a summary of its enrolments.
The summary is over all of them. Level and language decide whether a school is listed and
not what is then said of it, so a school that is listed for its one class in a minority
language still shows the students and the languages of all its classes. `Describes` spells
this out from the rows of the register.

The summaries are computed for all schools at once and looked up by identifier. That makes
no difference to a record, but it does to the whole roster: a sum that leaves the range of
words fails it, also if it is the sum of a school that nobody asked for, or of one that the
directory does not know. `roster_not_total` has a register of that kind, next to a state
that ticks more levels than a query has room for.

The order is by name, byte by byte.

## Main definitions

* `Register.enrolmentsOf`: The enrolments of a school.
* `SchoolRecord.Describes`: What a record says of a school.
* `SchoolRow.HasTotals`: A row has the summary of its school.

## Theorems

* `Register.lookup_totals?`: The summary that is looked up for a school.
* `Register.hasTotals_of_rows?`: Rows to which totals are joined have them.
* `SchoolRow.describes_record`: The record of a row describes its school.
* `Filter.State.roster_records`: The records of a roster.
* `Filter.State.roster_not_total`: Not every roster is answered.
-/

namespace SchoolAtlas

theorem distinctInOrder_ordered (texts : List String) :
    (distinctInOrder texts).Pairwise (· < ·) :=
  NameMap.names_ordered _

theorem mem_distinctInOrder {texts : List String} {text : String} :
    text ∈ distinctInOrder texts ↔ text ∈ texts := by
  rw [distinctInOrder, NameMap.mem_names_ofList, List.map_map]
  simp only [Function.comp_def, List.map_id']

namespace Register

variable {r : Register}

/-- The enrolments of a school, at whatever level and in whatever language. -/
def enrolmentsOf (r : Register) (id : String) : List Enrolment :=
  r.enrolments.filter (fun e => e.school = id)

theorem enrolmentsOf_ne_nil_iff {id : String} :
    r.enrolmentsOf id ≠ [] ↔ id ∈ r.enrolments.map Enrolment.school := by
  rw [enrolmentsOf, ← List.isEmpty_eq_false_iff, List.isEmpty_eq_false_iff_exists_mem,
    List.mem_map]
  simp only [List.mem_filter, decide_eq_true_eq]

/-- The summary that is looked up for a school is that of its enrolments, and a school without
    enrolments has none. -/
theorem lookup_totals? {totals : List (String × EnrolmentTotals)} (h : r.totals? = some totals)
    (id : String) :
    totals.lookup id = (if r.enrolmentsOf id = [] then none
        else EnrolmentTotals.ofEnrolments? (r.enrolmentsOf id)) ∧
      (r.enrolmentsOf id ≠ [] → (EnrolmentTotals.ofEnrolments? (r.enrolmentsOf id)).isSome) := by
  rcases Lists.mapM_eq_some_iff.mp h with ⟨hall, rfl⟩
  -- There is an entry for each school that has an enrolment.
  have hkeys : id ∈ (r.enrolments.map Enrolment.school).eraseDups ↔ r.enrolmentsOf id ≠ [] := by
    rw [List.mem_eraseDups, enrolmentsOf_ne_nil_iff]
  constructor
  · refine (Lists.lookup_filterMap _ (fun id =>
      EnrolmentTotals.ofEnrolments? (r.enrolmentsOf id)) id).trans ?_
    by_cases hnil : r.enrolmentsOf id = []
    · rw [if_pos hnil, if_neg]
      rw [List.contains_iff_mem, hkeys, not_not]
      exact hnil
    · rw [if_neg hnil, if_pos (List.contains_iff_mem.mpr (hkeys.mpr hnil))]
  · intro hne
    have hsome := hall id (hkeys.mpr hne)
    rw [Option.isSome_map] at hsome
    exact hsome

end Register

/-- What a record says of a school: what the directory has, and a summary of all enrolments of
    the school, whatever has been ticked. A level or language is listed once. -/
structure SchoolRecord.Describes (record : SchoolRecord) (r : Register) (school : School) :
    Prop where
  id : record.id = school.id
  name : record.name = school.name
  county : record.county = school.county
  town : some record.town = school.town
  phone : record.phone = school.phone
  email : record.email = school.email
  street : record.street = school.street
  number : record.number = school.number
  totalStudents :
    (record.totalStudents : Int) = ((r.enrolmentsOf school.id).map Enrolment.students).sum
  levels_ordered : record.levels.Pairwise (· < ·)
  mem_levels : ∀ level, level ∈ record.levels ↔ ∃ e ∈ r.enrolmentsOf school.id, e.level = level
  languages_ordered : record.languages.Pairwise (· < ·)
  mem_languages : ∀ language,
    language ∈ record.languages ↔ ∃ e ∈ r.enrolmentsOf school.id, e.language = some language

/-- A row has the summary of its school, as far as there is one. -/
def SchoolRow.HasTotals (r : Register) (row : SchoolRow) : Prop :=
  ∃ totals, r.totals? = some totals ∧ row.totals = totals.lookup row.school.id

namespace Join

variable {r : Register} {rows rows' : List SchoolRow}

theorem hasTotals_extend?_totals (h : extend? r rows .totals = some rows') :
    ∀ row ∈ rows', row.HasTotals r := by
  intro row hrow
  rw [extend?] at h
  split at h
  · rw [Option.some.injEq] at h
    exact absurd (h ▸ hrow) List.not_mem_nil
  · rcases Option.map_eq_some_iff.mp h with ⟨totals, htotals, rfl⟩
    rcases List.mem_map.mp hrow with ⟨start, _, rfl⟩
    exact ⟨totals, htotals, rfl⟩

/-- Rows that have their summary keep it, whatever is joined to them next. -/
theorem hasTotals_extend? {j : Join} (hrows : ∀ row ∈ rows, row.HasTotals r)
    (h : extend? r rows j = some rows') : ∀ row ∈ rows', row.HasTotals r := by
  -- Only the summary sets the totals of a row. Other joins pass them on.
  cases j with
  | keys label query =>
      rw [extend?_keys, Option.some.injEq] at h
      intro row hrow
      exact hrows row (List.mem_filter.mp (h ▸ hrow)).1
  | rows label columns query =>
      rw [extend?, Option.some.injEq] at h
      intro row hrow
      rcases List.mem_flatMap.mp (h ▸ hrow) with ⟨start, hstart, hrow⟩
      rcases List.mem_map.mp hrow with ⟨d, _, rfl⟩
      exact hrows start hstart
  | totals => exact hasTotals_extend?_totals h

theorem hasTotals_foldlM_extend? {joins : List Join}
    (ht : .totals ∈ joins ∨ ∀ row ∈ rows, row.HasTotals r)
    (h : joins.foldlM (extend? r) rows = some rows') : ∀ row ∈ rows', row.HasTotals r := by
  induction joins generalizing rows with
  | nil =>
      rw [List.foldlM_nil, Option.pure_def, Option.some.injEq] at h
      exact h ▸ ht.resolve_left List.not_mem_nil
  | cons j rest ih =>
      rw [List.foldlM_cons, Option.bind_eq_bind, Option.bind_eq_some_iff] at h
      rcases h with ⟨mid, hmid, hrest⟩
      refine ih ?_ hrest
      -- The totals have been joined, or are joined now, or are still to come.
      rcases ht with hin | hrows
      · rcases List.mem_cons.mp hin with rfl | hin
        · exact Or.inr (hasTotals_extend?_totals hmid)
        · exact Or.inl hin
      · exact Or.inr (hasTotals_extend? hrows hmid)

end Join

theorem Register.hasTotals_of_rows? {r : Register} {conditions : List SchoolCondition}
    {joins : List Join} {rows : List SchoolRow} (ht : .totals ∈ joins)
    (h : r.rows? conditions joins = some rows) : ∀ row ∈ rows, row.HasTotals r := by
  rw [rows?, Option.map_eq_some_iff] at h
  rcases h with ⟨joined, hjoined, rfl⟩
  intro row hrow
  exact Join.hasTotals_foldlM_extend? (Or.inl ((Join.inOrder_perm joins).mem_iff.mpr ht)) hjoined
    row (List.mem_filter.mp hrow).1

/-- What a record adds to the directory is a summary of all enrolments of its school. Without
    enrolments it is empty. -/
theorem SchoolRow.summary_record {r : Register} (hr : r.Reached) {row : SchoolRow}
    (ht : row.HasTotals r) :
    (row.record.totalStudents : Int)
        = ((r.enrolmentsOf row.school.id).map Enrolment.students).sum ∧
      row.record.levels
        = distinctInOrder ((r.enrolmentsOf row.school.id).map Enrolment.level) ∧
      row.record.languages
        = distinctInOrder ((r.enrolmentsOf row.school.id).filterMap Enrolment.language) := by
  rcases ht with ⟨totals, htotals, hrow⟩
  rcases Register.lookup_totals? htotals row.school.id with ⟨hlookup, hsome⟩
  rw [hlookup] at hrow
  by_cases hnil : r.enrolmentsOf row.school.id = []
  · -- Nothing was looked up, and the record has the empty summary.
    rw [if_pos hnil] at hrow
    simp only [record, hrow, hnil]
    exact ⟨rfl, rfl, rfl⟩
  · have hpos : ∀ n ∈ (r.enrolmentsOf row.school.id).map Enrolment.students, 0 ≤ n := by
      intro n hn
      rcases List.mem_map.mp hn with ⟨e, he, rfl⟩
      exact hr.students_nonneg e (List.mem_filter.mp he).1
    -- The totals were had, so the sum fits a word and is the sum of whole numbers.
    rcases Option.isSome_iff_exists.mp (hsome hnil) with ⟨summary, hsummary⟩
    rw [if_neg hnil, hsummary] at hrow
    rw [EnrolmentTotals.ofEnrolments?, sumOfWords?_eq hpos, Option.map_eq_some_iff] at hsummary
    rcases hsummary with ⟨students, hstudents, rfl⟩
    have hsum : students = ((r.enrolmentsOf row.school.id).map Enrolment.students).sum := by
      split at hstudents
      · exact (Option.some.inj hstudents).symm
      · exact absurd hstudents (by simp only [reduceCtorEq, not_false_eq_true])
    simp only [record, hrow, Option.map_some, Option.getD_some, and_true]
    rw [hsum, Int.toNat_of_nonneg (List.sum_nonneg hpos)]

theorem SchoolRow.describes_record {r : Register} (hr : r.Reached) {row : SchoolRow}
    (ht : row.HasTotals r) {name : String} (htown : row.school.town = some name) :
    row.record.Describes r row.school := by
  rcases row.summary_record hr ht with ⟨hstudents, hlevels, hlanguages⟩
  refine ⟨rfl, rfl, rfl, ?_, rfl, rfl, rfl, rfl, hstudents, ?_, fun level => ?_, ?_,
    fun language => ?_⟩
  · simp only [record, htown, Option.getD_some]
  · exact hlevels ▸ distinctInOrder_ordered _
  · rw [hlevels, mem_distinctInOrder, List.mem_map]
  · exact hlanguages ▸ distinctInOrder_ordered _
  · rw [hlanguages, mem_distinctInOrder, List.mem_filterMap]

namespace RosterQuery

theorem listedBefore_trans (a b c : SchoolRecord) (hab : listedBefore a b = true)
    (hbc : listedBefore b c = true) : listedBefore a c = true :=
  decide_eq_true (String.le_trans (of_decide_eq_true hab) (of_decide_eq_true hbc))

theorem listedBefore_total (a b : SchoolRecord) : listedBefore a b || listedBefore b a := by
  rw [listedBefore, listedBefore, Bool.or_eq_true, decide_eq_true_eq, decide_eq_true_eq]
  exact String.le_total a.name b.name

theorem ordered_mergeSort (records : List SchoolRecord) :
    (records.mergeSort listedBefore).Pairwise
      (fun a b => Text.bytes a.name ≤ Text.bytes b.name) :=
  (List.pairwise_mergeSort listedBefore_trans listedBefore_total records).imp
    (fun h => Text.bytes_le_iff.mpr (of_decide_eq_true h))

end RosterQuery

namespace Filter

namespace State

variable {s : State} {r : Register} {code name : String}

theorem mem_rosterSchools_iff {school : School} :
    school ∈ s.rosterSchools r code name ↔
      school ∈ r.schools ∧ school.county = code ∧ school.town = some name ∧ s.Admits r school := by
  rw [rosterSchools, List.mem_filter, decide_eq_true_eq]

/-- An answered roster was made from rows of the schools that are listed, each with the
    summary of its school. -/
theorem rows_of_schoolRecords {q : RosterQuery} {records : List SchoolRecord}
    (ht : s.openTown? = some (code, name)) (hq : s.rosterQuery? = some q)
    (hrecords : r.schoolRecords (.roster q) = .ok records) :
    ∃ rows : List SchoolRow, (rows.map SchoolRow.school).Perm (s.rosterSchools r code name) ∧
      (∀ row ∈ rows, row.HasTotals r) ∧
      records = (rows.map SchoolRow.record).mergeSort RosterQuery.listedBefore := by
  rw [rosterQuery?_eq ht, Option.some.injEq] at hq
  subst hq
  have hanswer := (Register.schoolRecords_eq_ok_iff.mp hrecords).2
  -- An answer is made of rows, and sorting them is the last step.
  rcases Option.map_eq_some_iff.mp hanswer with ⟨rows, hrows, rfl⟩
  exact ⟨rows, rosterRows_school hrows,
    Register.hasTotals_of_rows? List.mem_cons_self hrows, rfl⟩

theorem describes_roster {q : RosterQuery} {records : List SchoolRecord} (hr : r.Reached)
    (ht : s.openTown? = some (code, name)) (hq : s.rosterQuery? = some q)
    (hrecords : r.schoolRecords (.roster q) = .ok records) :
    (∀ record ∈ records, ∃ school ∈ s.rosterSchools r code name, record.Describes r school) ∧
      records.Pairwise (fun a b => Text.bytes a.name ≤ Text.bytes b.name) := by
  rcases rows_of_schoolRecords ht hq hrecords with ⟨rows, hschools, htotals, rfl⟩
  refine ⟨fun record hrecord => ?_, RosterQuery.ordered_mergeSort _⟩
  rcases List.mem_map.mp (List.mem_mergeSort.mp hrecord) with ⟨row, hrow, rfl⟩
  have hschool := hschools.mem_iff.mp (List.mem_map.mpr ⟨row, hrow, rfl⟩)
  exact ⟨row.school, hschool, row.describes_record hr (htotals row hrow)
    (mem_rosterSchools_iff.mp hschool).2.2.1⟩

/-- If a roster lists a school, the totals of all schools could be had. -/
theorem totals?_isSome_of_records {q : RosterQuery} {records : List SchoolRecord}
    (ht : s.openTown? = some (code, name)) (hq : s.rosterQuery? = some q)
    (hlisted : s.rosterSchools r code name ≠ [])
    (hrecords : r.schoolRecords (.roster q) = .ok records) : r.totals?.isSome := by
  rcases rows_of_schoolRecords ht hq hrecords with ⟨rows, hschools, htotals, _⟩
  rcases List.exists_mem_of_ne_nil _ hlisted with ⟨school, hschool⟩
  rcases List.mem_map.mp (hschools.mem_iff.mpr hschool) with ⟨row, hrow, _⟩
  rcases htotals row hrow with ⟨totals, htotals, _⟩
  exact Option.isSome_iff_exists.mpr ⟨totals, htotals⟩

/-- The records of a roster. An open town has a roster query, and it is answered unless it is
    too large or some head counts are. An answer has one record for every school of the town
    that the state lets through, and no other record. It tells what the directory has of the
    school and sums up all its enrolments, and the records are in the order of names. -/
theorem roster_records (hr : r.Reached) (ht : s.openTown? = some (code, name)) :
    ∃ q, s.rosterQuery? = some q ∧
      (s.RosterFits → r.TotalsFit → ∃ records, r.schoolRecords (.roster q) = .ok records) ∧
      (¬s.RosterFits → r.schoolRecords (.roster q) = .error .tooLarge) ∧
      ∀ records, r.schoolRecords (.roster q) = .ok records →
        (records.map SchoolRecord.id).Nodup ∧
          (∀ record ∈ records, ∃ school ∈ r.schools, school.county = code ∧
            school.town = some name ∧ s.Admits r school ∧ record.Describes r school) ∧
          (∀ school ∈ r.schools, school.county = code → school.town = some name →
            s.Admits r school → ∃ record ∈ records, record.Describes r school) ∧
          records.Pairwise (fun a b => Text.bytes a.name ≤ Text.bytes b.name) := by
  have hq := rosterQuery?_eq ht
  refine ⟨_, hq, schoolRecords_isOk hr hq, schoolRecords_refused r hq, fun records hrecords => ?_⟩
  have hids := roster_ids ht hq hrecords
  rcases describes_roster hr ht hq hrecords with ⟨hdescribes, hordered⟩
  have hnodup : ((s.rosterSchools r code name).map School.id).Nodup :=
    hr.nodup_ids.sublist (List.filter_sublist.map School.id)
  refine ⟨hids.nodup_iff.mpr hnodup, fun record hrecord => ?_,
    fun school hschool hcounty htown hadmits => ?_, hordered⟩
  · rcases hdescribes record hrecord with ⟨school, hschool, hdescribed⟩
    rcases mem_rosterSchools_iff.mp hschool with ⟨hin, hcounty, htown, hadmits⟩
    exact ⟨school, hin, hcounty, htown, hadmits, hdescribed⟩
  · have hlisted := mem_rosterSchools_iff.mpr ⟨hschool, hcounty, htown, hadmits⟩
    -- Some record has the identifier of the school, and the school it describes has it too.
    rcases List.mem_map.mp (hids.mem_iff.mpr (List.mem_map.mpr ⟨school, hlisted, rfl⟩)) with
      ⟨record, hrecord, hid⟩
    rcases hdescribes record hrecord with ⟨other, hother, hdescribed⟩
    have hsame : other = school := List.inj_on_of_nodup_map hnodup hother hlisted
      (hdescribed.id.symm.trans hid)
    exact ⟨record, hrecord, hsame ▸ hdescribed⟩

/-- The roster of a town has the one school of the town, with the sum, the level and the
    language of its enrolments. -/
theorem roster_records_threeSchools : ∃ q records,
    (opened "CJ" "Turda").rosterQuery? = some q ∧
      threeSchoolsRegister.schoolRecords (.roster q) = .ok records ∧
      (records.map SchoolRecord.id).Nodup ∧
      ∃ record ∈ records, record.id = "1" ∧ record.name = "A" ∧ record.totalStudents = 7 ∧
        (∀ level, level ∈ record.levels ↔ level = "Primar") ∧
        (∀ language, language ∈ record.languages ↔ language = "română") := by
  rcases roster_records (s := opened "CJ" "Turda") threeSchoolsRegister_reached rfl with
    ⟨q, hq, hanswered, _, hlisted⟩
  rcases hanswered (by decide) (by decide) with ⟨records, hrecords⟩
  rcases hlisted records hrecords with ⟨hnodup, _, hall, _⟩
  rcases hall ⟨"1", "CJ", some "Turda", "A", none, none, none, none⟩ (by decide) rfl rfl
    (by decide) with ⟨record, hrecord, hdescribed⟩
  -- The school has one enrolment, from which its levels, languages and students are read.
  have honly : threeSchoolsRegister.enrolmentsOf "1" = [⟨"1", "Primar", some "română", 7⟩] := by
    decide
  have hstudents := hdescribed.totalStudents
  have hlevels := hdescribed.mem_levels
  have hlanguages := hdescribed.mem_languages
  simp only [honly, List.map_singleton, List.sum_singleton, List.mem_singleton,
    exists_eq_left, Option.some.injEq] at hstudents hlevels hlanguages
  exact ⟨q, records, hq, hrecords, hnodup, record, hrecord, hdescribed.id, hdescribed.name,
    by omega, fun level => (hlevels level).trans eq_comm,
    fun language => (hlanguages language).trans eq_comm⟩

/-- The files of one school with few students, and of an identifier of no school with more
    than a word can count. -/
def strayEnrolments : List (Table × String) :=
  [(.schools, "id,judet,localitate,nume\n1,CJ,Turda,A\n"),
    (.enrolments, "cod_siiir_unitate,nivel,limba_de_predare,numar_elevi\n1,Primar,română,7\n"
      ++ "9,Primar,română,9223372036854775807\n9,Primar,română,9223372036854775807\n")]

/-- The register of these files. -/
def strayRegister : Register where
  schools := [⟨"1", "CJ", some "Turda", "A", none, none, none, none⟩]
  enrolments :=
    [⟨"1", "Primar", some "română", 7⟩,
      ⟨"9", "Primar", some "română", 9223372036854775807⟩,
      ⟨"9", "Primar", some "română", 9223372036854775807⟩]
  bacResults := []
  evaluationResults := []

theorem strayRegister_reached : strayRegister.Reached :=
  Register.reached_iff.mpr ⟨strayEnrolments, by decide +kernel⟩

/-- A state with as many ticked levels as the map of the country has room for, and with the
    detail view of a town open. -/
def openedCrowded (code name : String) : State :=
  { crowded 932 (by decide) with county := some code, town := some name }

theorem not_rosterFits_openedCrowded : ¬(openedCrowded code name).RosterFits := by
  intro hfits
  have hlevels := hfits.2 rfl (isStrict_crowded (by decide) (by decide))
  have hlength : (openedCrowded code name).levels.selected.length = 932 :=
    length_selected_manyLevels (by decide)
  omega

/-- The roster of a town is not always there. With many ticked levels it is refused, and it
    fails for a sum that belongs to no school of the register. -/
theorem roster_not_total :
    (¬∀ (r : Register) (s : State) (code name : String) (q : RosterQuery), r.Reached →
      s.openTown? = some (code, name) → s.rosterQuery? = some q → r.TotalsFit →
      ∃ records, r.schoolRecords (.roster q) = .ok records) ∧
    ¬∀ (r : Register) (s : State) (code name : String) (q : RosterQuery), r.Reached →
      s.openTown? = some (code, name) → s.rosterQuery? = some q → s.RosterFits →
      (∀ school ∈ r.schools, ((r.enrolmentsOf school.id).map Enrolment.students).sum
        ≤ Int64.maxValue.toInt) →
      ∃ records, r.schoolRecords (.roster q) = .ok records := by
  constructor
  · intro hall
    have ht : (openedCrowded "CJ" "Turda").openTown? = some ("CJ", "Turda") := rfl
    rcases hall .empty _ _ _ _ .empty ht (rosterQuery?_eq ht) (by decide) with
      ⟨records, hrecords⟩
    rw [schoolRecords_refused _ (rosterQuery?_eq ht) not_rosterFits_openedCrowded] at hrecords
    exact absurd hrecords (by simp only [reduceCtorEq, not_false_eq_true])
  · intro hall
    have ht : (opened "CJ" "Turda").openTown? = some ("CJ", "Turda") := rfl
    rcases hall _ _ _ _ _ strayRegister_reached ht (rosterQuery?_eq ht) (by decide) (by decide)
      with ⟨records, hrecords⟩
    have hlisted : (opened "CJ" "Turda").rosterSchools strayRegister "CJ" "Turda" ≠ [] := by
      decide
    -- The sum of the identifier of no school is computed with the others, and is no word.
    have hoverflow : strayRegister.totals? = none := by decide +kernel
    have htotals := totals?_isSome_of_records ht (rosterQuery?_eq ht) hlisted hrecords
    rw [hoverflow] at htotals
    exact Bool.noConfusion htotals

end State

end Filter

end SchoolAtlas
