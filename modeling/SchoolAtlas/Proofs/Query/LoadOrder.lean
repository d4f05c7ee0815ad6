import SchoolAtlas.Proofs.Query.DrillDown
import SchoolAtlas.Proofs.Query.RosterRecords
import SchoolAtlas.Proofs.Register.Tidy

/-!
# The Order of Loading

Counts and rosters do not show in which order the tables were loaded.

A register keeps its rows in the order in which they came, and that depends on how an export was
split and which file was loaded first. A query goes through the rows in this order. What it makes
of them does not depend on it: a school is admitted by some row of it, wherever that row stands; a
count is a length or a sum; and what is listed of levels and languages is put in order anyhow. So
the answers of two registers with the same rows have the same rows.

That a query fails could still depend on the order, since a sum may leave the range of words on the
way and come back. It cannot come back without a head count below zero, and loading stores none.
Therefore a sum fails exactly if it is too large in the end, and the end is the same. The totals of
a roster fail only if some school is left when they are asked for, and which schools are left does
not depend on the order either.

Means of grades are not treated here. They are rounded at every addition.

## Main definitions

* `Register.Rearranged`: Two registers have the same rows, each table in an order of its own.
* `AnswersAlike`: Two answers fail for the same reason or have the same rows.
* `Register.recordOf`: What a roster says of a school.

## Theorems

* `Register.Rearranged.admits`: The same schools are let through.
* `Register.Rearranged.countedAt`: The same things are counted under a region.
* `Register.Rearranged.rows?_isSome`: A roster fails in both registers or in neither.
* `Register.Rearranged.regionRows`: Maps of counts are alike.
* `Register.Rearranged.schoolRecords`: Rosters are alike.
* `Register.answers_alike_of_loadEach`: Maps and rosters after two histories of loading.
-/

namespace SchoolAtlas

open SchoolAtlas.Filter (State)

/-- Two answers are alike: both fail for the same reason, or they have the same rows, each equally
    often. -/
inductive AnswersAlike {α : Type} :
    Except QueryError (List α) → Except QueryError (List α) → Prop
  | refused (e : QueryError) : AnswersAlike (.error e) (.error e)
  | answered {rows rows' : List α} (h : rows.Perm rows') : AnswersAlike (.ok rows) (.ok rows')

namespace Register

/-- Two registers have the same rows, each table in an order of its own. -/
structure Rearranged (r r' : Register) : Prop where
  schools : r.schools.Perm r'.schools
  enrolments : r.enrolments.Perm r'.enrolments
  bacResults : r.bacResults.Perm r'.bacResults
  evaluationResults : r.evaluationResults.Perm r'.evaluationResults

/-- What a roster says of a school: what the directory has, and a summary of its enrolments. -/
def recordOf (r : Register) (school : School) : SchoolRecord where
  id := school.id
  name := school.name
  county := school.county
  town := school.town.getD ""
  languages := distinctInOrder ((r.enrolmentsOf school.id).filterMap Enrolment.language)
  levels := distinctInOrder ((r.enrolmentsOf school.id).map Enrolment.level)
  totalStudents := ((r.enrolmentsOf school.id).map Enrolment.students).sum.toNat
  phone := school.phone
  email := school.email
  street := school.street
  number := school.number

end Register

/-- The texts that are listed once and in order depend on which there are and on nothing else. -/
theorem distinctInOrder_congr {texts texts' : List String}
    (h : ∀ text, text ∈ texts ↔ text ∈ texts') :
    distinctInOrder texts = distinctInOrder texts' := by
  refine Selection.eq_of_ordered (distinctInOrder_ordered _) (distinctInOrder_ordered _)
    (fun text => ?_)
  rw [mem_distinctInOrder, mem_distinctInOrder, h]

/-- The record of a row that has its summary is what a roster says of the school. -/
theorem SchoolRow.record_eq_recordOf {r : Register} (hr : r.Reached) {row : SchoolRow}
    (ht : row.HasTotals r) : row.record = r.recordOf row.school := by
  rcases row.summary_record hr ht with ⟨hstudents, hlevels, hlanguages⟩
  rw [Register.recordOf, ← hstudents, ← hlevels, ← hlanguages]
  rfl

/-- A roster says of the schools that it lists what it says of a school. -/
theorem Filter.State.records_perm {r : Register} {s : State} {code name : String} {q : RosterQuery}
    {records : List SchoolRecord} (hr : r.Reached) (ht : s.openTown? = some (code, name))
    (hq : s.rosterQuery? = some q) (hrecords : r.schoolRecords (.roster q) = .ok records) :
    records.Perm ((s.rosterSchools r code name).map r.recordOf) := by
  rcases State.rows_of_schoolRecords ht hq hrecords with ⟨rows, hschools, htotals, rfl⟩
  have hsaid : rows.map SchoolRow.record = (rows.map SchoolRow.school).map r.recordOf := by
    rw [List.map_map]
    exact List.map_congr_left (fun row hrow => row.record_eq_recordOf hr (htotals row hrow))
  refine (List.mergeSort_perm _ _).trans ?_
  rw [hsaid]
  exact hschools.map _

namespace Register

namespace Rearranged

variable {r r' : Register} {s : State} {statistic : Statistic} {key : String × Option String}

theorem details (h : r.Rearranged r') (table : DetailTable) :
    (r.details table).Perm (r'.details table) := by
  cases table with
  | enrolments => exact h.enrolments.map _
  | bacResults => exact h.bacResults.map _
  | evaluationResults => exact h.evaluationResults.map _

theorem visits (h : r.Rearranged r') : r.visits.Perm r'.visits :=
  (r.visits_perm.trans h.schools).trans r'.visits_perm.symm

theorem finds (h : r.Rearranged r') (q : DetailQuery) (school : School) :
    q.finds r school = q.finds r' school := by
  rw [Bool.eq_iff_iff, DetailQuery.finds_iff, DetailQuery.finds_iff]
  simp only [(h.details q.table).mem_iff]

theorem holds (h : r.Rearranged r') (school : School) :
    SchoolCondition.holds r school = SchoolCondition.holds r' school := by
  funext c
  cases c with
  | column condition => rfl
  | hasRow query => exact h.finds query school

theorem keeps (h : r.Rearranged r') (j : Join) (school : School) :
    j.keeps r school = j.keeps r' school := by
  cases j with
  | keys label query => exact h.finds query school
  | rows label columns query => exact h.finds query school
  | totals => rfl

/-- The same schools are let through. -/
theorem admits (h : r.Rearranged r') (school : School) :
    s.Admits r school ↔ s.Admits r' school := by
  rw [← State.keeps_iff_admits, ← State.keeps_iff_admits, State.keeps, State.keeps]
  simp only [h.holds, h.keeps]

section Counts

theorem liesIn (h : r.Rearranged r') (id : String) : s.LiesIn r key id ↔ s.LiesIn r' key id := by
  simp only [State.LiesIn, h.schools.mem_iff]

theorem admittedRows (h : r.Rearranged r') : (s.admittedRows r).Perm (s.admittedRows r') := by
  unfold State.admittedRows
  cases s.source with
  | general => exact (h.enrolments.filter _).map _
  | bac => exact (h.bacResults.filter _).map _
  | evaluation => exact h.evaluationResults.map _

theorem rowsAt (h : r.Rearranged r') : (s.rowsAt r key).Perm (s.rowsAt r' key) := by
  unfold State.rowsAt
  simp only [h.liesIn]
  exact h.admittedRows.filter _

theorem schoolsAt (h : r.Rearranged r') : (s.schoolsAt r key).Perm (s.schoolsAt r' key) := by
  unfold State.schoolsAt
  simp only [h.admits]
  exact h.schools.filter _

/-- The same things are counted under a region. -/
theorem countedAt (h : r.Rearranged r') :
    (s.countedAt r statistic key).Perm (s.countedAt r' statistic key) := by
  unfold State.countedAt
  split
  · exact h.rowsAt.map _
  · exact h.schoolsAt.map _

theorem totalAt (h : r.Rearranged r') : s.totalAt r statistic key = s.totalAt r' statistic key :=
  (h.countedAt.map s.weight).sum_eq

theorem overflows (h : r.Rearranged r') :
    s.Overflows r statistic key ↔ s.Overflows r' statistic key := by
  rw [State.Overflows, State.Overflows, h.totalAt]

/-- Maps of counts are alike. -/
theorem regionRows (h : r.Rearranged r') (hr : r.Reached) (hr' : r'.Reached)
    (hcounts : s.Counts statistic) :
    AnswersAlike (r.regionRows (.regions (s.regionQuery statistic)))
      (r'.regionRows (.regions (s.regionQuery statistic))) := by
  by_cases hfits : s.MapFits statistic
  · by_cases hlarge : ∃ key, s.Overflows r statistic key
    · rcases hlarge with ⟨key, hlarge⟩
      rw [State.regionRows_overflow hr hcounts hfits hlarge,
        State.regionRows_overflow hr' hcounts hfits (h.overflows.mp hlarge)]
      exact .refused .overflow
    · have hwords : ∀ key, ¬s.Overflows r statistic key := fun key hkey => hlarge ⟨key, hkey⟩
      rcases State.regionRows_counted hr hcounts hfits hwords with ⟨rows, hrows, hshows⟩
      rcases State.regionRows_counted hr' hcounts hfits
        (fun key hkey => hwords key (h.overflows.mpr hkey)) with ⟨rows', hrows', hshows'⟩
      rw [hrows, hrows']
      refine .answered ((List.perm_ext_iff_of_nodup (List.Nodup.of_map _ hshows.nodup_place)
        (List.Nodup.of_map _ hshows'.nodup_place)).mpr (fun row => ?_))
      rw [hshows.mem_iff, hshows'.mem_iff, h.totalAt, ne_eq, ne_eq,
        ← List.length_eq_zero_iff, ← List.length_eq_zero_iff, h.countedAt.length_eq]
  · -- Whether there is room for a query does not depend on the register.
    rw [State.regionRows_refused r hfits, State.regionRows_refused r' hfits]
    exact .refused .tooLarge

end Counts

section Rosters

variable {code name : String} {joins : List Join}

theorem totalsFit (h : r.Rearranged r') : r.TotalsFit ↔ r'.TotalsFit := by
  have hsum : ∀ id,
      ((r.enrolments.filter (fun other => other.school = id)).map Enrolment.students).sum
        = ((r'.enrolments.filter (fun other => other.school = id)).map Enrolment.students).sum :=
    fun id => ((h.enrolments.filter _).map _).sum_eq
  simp only [TotalsFit, h.enrolments.mem_iff, hsum]

theorem totals?_isSome (h : r.Rearranged r') (hr : r.Reached) (hr' : r'.Reached) :
    r.totals?.isSome = r'.totals?.isSome := by
  rw [Bool.eq_iff_iff, totals?_isSome_iff hr, totals?_isSome_iff hr', h.totalsFit]

/-- If rows belong to the same schools, joins that repeat nothing fail for both or for neither. -/
theorem foldlM_extend?_isSome (h : r.Rearranged r') (hr : r.Reached) (hr' : r'.Reached)
    (hj : ∀ j ∈ joins, j.repeats = false) {rows rows' : List SchoolRow}
    (hrows : (rows.map SchoolRow.school).Perm (rows'.map SchoolRow.school)) :
    (joins.foldlM (Join.extend? r) rows).isSome
      = (joins.foldlM (Join.extend? r') rows').isSome := by
  induction joins generalizing rows rows' with
  | nil => rfl
  | cons j rest ih =>
      have hstep : (j.extend? r rows).isSome = (j.extend? r' rows').isSome := by
        cases j with
        | keys label query => rfl
        | rows label columns query => rfl
        | totals =>
            have hempty : rows.isEmpty = rows'.isEmpty :=
              Lists.isEmpty_congr (by simpa only [List.length_map] using hrows.length_eq)
            rw [Join.extend?, Join.extend?, hempty]
            split
            · rfl
            · rw [Option.isSome_map, Option.isSome_map, h.totals?_isSome hr hr']
      rw [List.foldlM_cons, List.foldlM_cons]
      rcases Options.none_or_some hstep with ⟨hmid, hmid'⟩ | ⟨mid, mid', hmid, hmid'⟩
      · rw [hmid, hmid']
        rfl
      · rw [hmid, hmid']
        refine ih (fun k hk => hj k (List.mem_cons_of_mem j hk)) ?_
        -- The join leaves the same schools in.
        have hrepeats := hj j List.mem_cons_self
        rw [Join.extend?_school hrepeats hmid, Join.extend?_school hrepeats hmid']
        simp only [h.keeps]
        exact hrows.filter _

/-- A query that repeats nothing fails in both registers or in neither. -/
theorem rows?_isSome (h : r.Rearranged r') (hr : r.Reached) (hr' : r'.Reached)
    (hj : ∀ j ∈ joins, j.repeats = false) (conditions : List SchoolCondition) :
    (r.rows? conditions joins).isSome = (r'.rows? conditions joins).isSome := by
  rw [rows?, rows?, Option.isSome_map, Option.isSome_map]
  refine h.foldlM_extend?_isSome hr hr'
    (fun j hjin => hj j ((Join.inOrder_perm joins).mem_iff.mp hjin)) ?_
  simp only [List.map_map, Function.comp_def, List.map_id', h.holds]
  exact h.visits.filter _

theorem rosterSchools (h : r.Rearranged r') :
    (s.rosterSchools r code name).Perm (s.rosterSchools r' code name) := by
  unfold State.rosterSchools
  simp only [h.admits]
  exact h.schools.filter _

/-- The same is said of a school. -/
theorem recordOf (h : r.Rearranged r') (school : School) :
    r.recordOf school = r'.recordOf school := by
  have henrolments : (r.enrolmentsOf school.id).Perm (r'.enrolmentsOf school.id) :=
    h.enrolments.filter _
  rw [Register.recordOf, Register.recordOf, (henrolments.map _).sum_eq,
    distinctInOrder_congr (fun _ => (henrolments.map Enrolment.level).mem_iff),
    distinctInOrder_congr (fun _ => (henrolments.filterMap Enrolment.language).mem_iff)]

/-- Rosters are alike. -/
theorem schoolRecords (h : r.Rearranged r') (hr : r.Reached) (hr' : r'.Reached) {q : RosterQuery}
    (hq : s.rosterQuery? = some q) :
    AnswersAlike (r.schoolRecords (.roster q)) (r'.schoolRecords (.roster q)) := by
  rcases Option.map_eq_some_iff.mp hq with ⟨⟨code, name⟩, hopen, hquery⟩
  by_cases hfits : (Query.roster q).Fits
  · have hsome : (q.answer? r).isSome = (q.answer? r').isSome := by
      rw [RosterQuery.answer?, RosterQuery.answer?, Option.isSome_map, Option.isSome_map]
      refine h.rows?_isSome hr hr' ?_ _
      rw [← hquery]
      exact List.forall_mem_cons.mpr ⟨rfl, fun _ hj => State.repeats_schoolJoins hj⟩
    rcases Options.none_or_some hsome with
      ⟨hanswer, hanswer'⟩ | ⟨records, records', hanswer, hanswer'⟩
    · rw [Register.schoolRecords, Register.schoolRecords, if_pos hfits, if_pos hfits, hanswer,
        hanswer']
      exact .refused .overflow
    · have hrecords := schoolRecords_eq_ok_iff.mpr ⟨hfits, hanswer⟩
      have hrecords' := schoolRecords_eq_ok_iff.mpr ⟨hfits, hanswer'⟩
      rw [hrecords, hrecords']
      -- The schools that are listed are the same, and so is what is said of them.
      have hsaid : ((s.rosterSchools r code name).map r.recordOf).Perm
          ((s.rosterSchools r' code name).map r'.recordOf) := by
        rw [funext h.recordOf]
        exact h.rosterSchools.map _
      exact .answered (((State.records_perm hr hopen hq hrecords).trans hsaid).trans
        (State.records_perm hr' hopen hq hrecords').symm)
  · rw [Register.schoolRecords, Register.schoolRecords, if_neg hfits, if_neg hfits]
    exact .refused .tooLarge

end Rosters

end Rearranged

/-- After two histories of loading that leave the same rows, whatever files they came in and in
    whatever order the files were loaded, maps of counts are alike, and so are rosters. -/
theorem answers_alike_of_loadEach {files files' : List (Table × String)}
    (h : (Register.empty.loadEach files).Rearranged (Register.empty.loadEach files')) (s : State) :
    (∀ statistic, s.Counts statistic →
      AnswersAlike
        ((Register.empty.loadEach files).regionRows (.regions (s.regionQuery statistic)))
        ((Register.empty.loadEach files').regionRows (.regions (s.regionQuery statistic)))) ∧
    ∀ q, s.rosterQuery? = some q →
      AnswersAlike ((Register.empty.loadEach files).schoolRecords (.roster q))
        ((Register.empty.loadEach files').schoolRecords (.roster q)) :=
  ⟨fun _ hcounts => h.regionRows (Reached.empty.loadEach files) (Reached.empty.loadEach files')
      hcounts,
    fun _ hq => h.schoolRecords (Reached.empty.loadEach files) (Reached.empty.loadEach files') hq⟩

/-- The files of three schools in another order and in more parts. One school was written
    differently at first. -/
def threeSchoolsShuffled : List (Table × String) :=
  [(.enrolments, "cod_siiir_unitate,nivel,limba_de_predare,numar_elevi\n2,Liceal,maghiară,5\n"),
    (.schools, "id,judet,localitate,nume\n3,AB,Blaj,C\n1,SJ,Zalău,Z\n"),
    (.schools, "id,judet,localitate,nume\n2,CJ,,B\n1,CJ,Turda,A\n"),
    (.enrolments, "cod_siiir_unitate,nivel,limba_de_predare,numar_elevi\n1,Primar,română,7\n")]

/-- The register of these files. -/
def threeSchoolsShuffledRegister : Register where
  schools :=
    [⟨"3", "AB", some "Blaj", "C", none, none, none, none⟩,
      ⟨"2", "CJ", none, "B", none, none, none, none⟩,
      ⟨"1", "CJ", some "Turda", "A", none, none, none, none⟩]
  enrolments := [⟨"2", "Liceal", some "maghiară", 5⟩, ⟨"1", "Primar", some "română", 7⟩]
  bacResults := []
  evaluationResults := []

/-- Both histories end with three schools and two enrolments, in different orders. So the students
    of a county are shown alike, and so is the roster of a town. -/
theorem answers_alike_threeSchools :
    let r := Register.empty.loadEach State.threeSchools
    let r' := Register.empty.loadEach threeSchoolsShuffled
    r.schools ≠ r'.schools ∧ r.enrolments ≠ r'.enrolments ∧
    AnswersAlike (r.regionRows (.regions ((State.opened "CJ" "Turda").regionQuery .students)))
      (r'.regionRows (.regions ((State.opened "CJ" "Turda").regionQuery .students))) ∧
    ∃ q, (State.opened "CJ" "Turda").rosterQuery? = some q ∧
      AnswersAlike (r.schoolRecords (.roster q)) (r'.schoolRecords (.roster q)) := by
  have hfirst : Register.empty.loadEach State.threeSchools = State.threeSchoolsRegister := by cbv
  have hother : Register.empty.loadEach threeSchoolsShuffled = threeSchoolsShuffledRegister := by
    cbv
  -- The files are loaded in another order, and in each the rows are in another order.
  have hsame : (Register.empty.loadEach State.threeSchools).Rearranged
      (Register.empty.loadEach threeSchoolsShuffled) := by
    rw [hfirst, hother]
    exact ⟨by decide, by decide, by decide, by decide⟩
  rcases answers_alike_of_loadEach hsame (State.opened "CJ" "Turda") with ⟨hmaps, hrosters⟩
  refine ⟨?_, ?_, hmaps .students (by decide), _, rfl, hrosters _ rfl⟩
  · rw [hfirst, hother]
    decide
  · rw [hfirst, hother]
    decide

end Register

end SchoolAtlas
