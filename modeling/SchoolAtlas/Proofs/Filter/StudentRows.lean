import SchoolAtlas.Proofs.Filter.Extent

/-!
# Rows of Students

Which rows of a table a map over students counts, and under which region.

A map of schools asks whether a school has rows of some kind. A map of students or
grades is taken over the rows themselves, so what has to be said is which rows are let
through and where each of them belongs. An enrolment is let through if its own level is
ticked and its own language is: the two meet in one row here, with or without strict
matching. A candidate of the baccalaureate is let through by the rules for candidates,
and one of the national evaluation always.

A row belongs to a region through the school it names. A row of a school that the
register does not know belongs to none, and since schools have identifiers of their own,
no row belongs to two.

The rows of a region are listed here in the order of their table, `rowsAt`. A query meets
them school by school instead, `rowsMet`, with one exception: a mean over the whole
country that lets little of its table through goes along the table. Counts and sums do
not depend on the order. A mean of floating-point numbers does, and that is the only
reason to have a name for it.

## Main definitions

* `Filter.State.Qualifies`: An enrolment is let through.
* `Filter.State.studentQuery`, `Filter.State.admittedRows`: The rows that are let
  through, as they are asked for and as they are.
* `Filter.State.LiesIn`: A school of some identifier lies in a region.
* `Filter.State.rowsAt`, `Filter.State.enrolmentsAt`: The rows of a region.
* `Filter.State.rowsMet`: The rows of a region in the order in which they are met.
* `Filter.State.picks`: The names that rows are asked for.
* `Filter.State.PicksFit`: They are not too many for a query.

## Theorems

* `Filter.State.details_studentQuery`: The rows that are asked for are the rows that
  are let through.
* `Filter.State.rowsAt_of_general`: The rows of a region are its enrolments.
* `Filter.State.rowsMet_perm`: The order of rows is all that a query changes.
* `Filter.State.values_studentQuery`: The values of a query are the names picked.
* `Filter.State.studentMap_fits_iff`: The limits of maps over students.
* `Filter.State.schoolMapFits_iff_picksFit`: The limits of the map of the schools of an
  exam.
* `Filter.State.examMap_fits_iff`: The limits of all maps of an exam.
-/

namespace SchoolAtlas

namespace Filter

namespace State

variable {s : State} {r : Register} {key : String × Option String}

/-- An enrolment is let through: its level is ticked and so is its language. A menu with
    nothing ticked lets every enrolment through. -/
def Qualifies (s : State) (e : Enrolment) : Prop :=
  (s.levels.selected = [] ∨ s.LevelTicked e) ∧ (s.languages.selected = [] ∨ s.LanguageTicked e)

instance (s : State) (e : Enrolment) : Decidable (s.Qualifies e) :=
  inferInstanceAs (Decidable (_ ∧ _))

/-- The rows that a map over students asks for. -/
def studentQuery (s : State) : DetailQuery :=
  match s.source with
  | .general => s.enrolmentRows
  | .bac => s.bacRows
  | .evaluation => evaluationRows

/-- The rows that the data source of a state lets through, as a query sees them. -/
def admittedRows (s : State) (r : Register) : List Detail :=
  match s.source with
  | .general => (r.enrolments.filter s.Qualifies).map Detail.ofEnrolment
  | .bac => (r.bacResults.filter s.AdmitsCandidate).map Detail.ofBacResult
  | .evaluation => r.evaluationResults.map Detail.ofEvaluationResult

/-- The school of an identifier is in the register and lies in a region that is shown. -/
def LiesIn (s : State) (r : Register) (key : String × Option String) (id : String) : Prop :=
  ∃ school ∈ r.schools, school.id = id ∧ s.InScope school ∧ s.place school = key

instance (s : State) (r : Register) (key : String × Option String) (id : String) :
    Decidable (s.LiesIn r key id) :=
  inferInstanceAs (Decidable (∃ school ∈ r.schools, _))

/-- The rows of a region that are let through, in the order of their table. -/
def rowsAt (s : State) (r : Register) (key : String × Option String) : List Detail :=
  (s.admittedRows r).filter (fun d => s.LiesIn r key d.school)

/-- The enrolments of a region that are let through. -/
def enrolmentsAt (s : State) (r : Register) (key : String × Option String) : List Enrolment :=
  r.enrolments.filter (fun e => s.Qualifies e ∧ s.LiesIn r key e.school)

/-- Whether a map goes along its table: a mean over the whole country, if little of the
    table is let through. -/
def alongTable (s : State) : Statistic → Bool
  | .grades => s.source = .bac && s.county.isNone && s.bacRows.isTight
  | .schools | .students => false

/-- The schools shown in a region, in the order of visits. -/
def visitsAt (s : State) (r : Register) (key : String × Option String) : List School :=
  r.visits.filter (fun school => s.InScope school ∧ s.place school = key)

/-- The rows of a region in the order in which a map meets them. -/
def rowsMet (s : State) (r : Register) (statistic : Statistic)
    (key : String × Option String) : List Detail :=
  if s.alongTable statistic then s.rowsAt r key
  else (s.visitsAt r key).flatMap (fun school =>
    (s.admittedRows r).filter (fun d => d.school = school.id))

/-- The mother tongues that candidates are asked for by name. The majority language is not
    one of them, since it is asked for as an empty column. -/
def pickedTongues (s : State) : List String :=
  (s.bacLanguages.restriction?.getD []).filter (· ≠ Catalogue.majorityLanguage)

/-- The results that candidates are asked for. -/
def pickedResults (s : State) : List String := s.bacResults.restriction?.getD []

/-- The names that rows of students are asked for. -/
def picks (s : State) : List String :=
  match s.source with
  | .general => s.levels.selected ++ s.languages.selected
  | .bac => s.pickedTongues ++ s.pickedResults
  | .evaluation => []

/-- A query has places for the county and the names picked. -/
def PicksFit (s : State) : Prop := s.county.toList.length + s.picks.length ≤ 32766

instance (s : State) : Decidable s.PicksFit := inferInstanceAs (Decidable (_ ≤ _))

theorem studentJoins_eq (s : State) :
    ∃ label columns, s.studentJoins = [.rows label columns s.studentQuery] := by
  unfold studentJoins studentQuery
  cases s.source with
  | general => exact ⟨_, _, rfl⟩
  | bac => exact ⟨_, _, rfl⟩
  | evaluation => exact ⟨_, _, rfl⟩

/-- The conditions on enrolments mean that level and language are ticked. -/
theorem allHold_enrolmentRows_iff {e : Enrolment} :
    Condition.allHold (Detail.ofEnrolment e).text s.enrolmentRows.conditions = true ↔
      s.Qualifies e := by
  rw [Condition.allHold_iff, enrolmentRows, List.forall_mem_append, allHold_choice_iff,
    allHold_choice_iff, Qualifies, LevelTicked, LanguageTicked]
  -- Every enrolment has a level, so that column is never empty.
  simp only [Detail.ofEnrolment, Detail.text, List.mem_map, Option.some.injEq, exists_eq_right]

/-- The rows that are asked for are the rows that are let through. -/
theorem details_studentQuery (s : State) (r : Register) :
    s.studentQuery.details r = s.admittedRows r := by
  rw [studentQuery, admittedRows]
  cases s.source with
  | general =>
      have htable : s.enrolmentRows.table = .enrolments := rfl
      simp only [DetailQuery.details, htable, Register.details, List.filter_map]
      refine congrArg (List.map _) (List.filter_congr (fun e _ => ?_))
      rw [Function.comp_apply, Bool.eq_iff_iff, allHold_enrolmentRows_iff, decide_eq_true_eq]
  | bac =>
      have htable : s.bacRows.table = .bacResults := rfl
      simp only [DetailQuery.details, htable, Register.details, List.filter_map]
      refine congrArg (List.map _) (List.filter_congr (fun b _ => ?_))
      rw [Function.comp_apply, Bool.eq_iff_iff, allHold_bacRows_iff, decide_eq_true_eq]
  | evaluation =>
      -- Nothing is asked of these candidates.
      exact List.filter_eq_self.mpr (fun _ _ => rfl)

theorem rowsAt_of_general (hs : s.source = .general) :
    s.rowsAt r key = (s.enrolmentsAt r key).map Detail.ofEnrolment := by
  simp only [rowsAt, admittedRows, hs, enrolmentsAt, List.filter_map, List.filter_filter]
  refine congrArg (List.map _) (List.filter_congr (fun e _ => ?_))
  rw [Function.comp_apply, ← Bool.decide_and, decide_eq_decide]
  exact and_comm

theorem mem_visitsAt_iff {school : School} :
    school ∈ s.visitsAt r key ↔
      school ∈ r.schools ∧ s.InScope school ∧ s.place school = key := by
  rw [visitsAt, List.mem_filter, decide_eq_true_eq, r.visits_perm.mem_iff]

theorem liesIn_iff {id : String} :
    s.LiesIn r key id ↔ id ∈ (s.visitsAt r key).map School.id := by
  rw [LiesIn, List.mem_map]
  refine exists_congr (fun school => ?_)
  rw [mem_visitsAt_iff]
  tauto

/-- A query meets the rows of a region, each once. -/
theorem rowsMet_perm (hids : (r.schools.map School.id).Nodup) (statistic : Statistic) :
    (s.rowsMet r statistic key).Perm (s.rowsAt r key) := by
  rw [rowsMet]
  split
  · exact List.Perm.refl _
  · -- Schools have identifiers of their own, so a row is met under one school at most.
    have hvisited : (r.visits.map School.id).Nodup :=
      (r.visits_perm.map School.id).nodup_iff.mpr hids
    have hkeys : ((s.visitsAt r key).map School.id).Nodup :=
      hvisited.sublist (List.filter_sublist.map School.id)
    have hmet := Lists.flatMap_filter_perm hkeys (s.admittedRows r) Detail.school
    rw [List.flatMap_map] at hmet
    refine hmet.trans (.of_eq ?_)
    refine List.filter_congr (fun d _ => ?_)
    rw [decide_eq_decide, liesIn_iff]

theorem motherTongueCondition?_values (languages : Selection) :
    (motherTongueCondition? languages).toList.flatMap Condition.values
      = (languages.restriction?.getD []).filter (· ≠ Catalogue.majorityLanguage) := by
  rw [motherTongueCondition?]
  cases hr : languages.restriction? with
  | none => rfl
  | some picked =>
      rw [Option.bind_some, Option.getD_some]
      -- With or without the majority language, the values are the minorities picked.
      cases hminority : picked.filter (· ≠ Catalogue.majorityLanguage) with
      | nil => split <;> rfl
      | cons name rest =>
          simp only [Condition.oneOf?, List.isEmpty_cons, Bool.false_eq_true, if_false]
          split <;>
            simp only [Option.toList_some, List.flatMap_singleton, Condition.values,
              List.nil_append]

theorem resultCondition?_values (results : Selection) :
    (resultCondition? results).toList.flatMap Condition.values
      = results.restriction?.getD [] := by
  rw [resultCondition?]
  cases results.restriction? with
  | none => rfl
  | some picked => exact choice_values .result picked

theorem values_studentQuery (s : State) : s.studentQuery.values = s.picks := by
  rw [studentQuery, picks]
  cases s.source with
  | general =>
      simp only [enrolmentRows, DetailQuery.values, List.flatMap_append, choice_values]
  | bac =>
      simp only [bacRows, DetailQuery.values, List.flatMap_append,
        motherTongueCondition?_values, resultCondition?_values, pickedTongues, pickedResults]
  | evaluation => rfl

/-- A map over students may be asked for exactly if the names picked fit. It has no
    conditions but the one on the county, so its nesting is never the trouble. -/
theorem studentMap_fits_iff {statistic : Statistic} (hover : statistic.overStudents = true) :
    (Query.regions (s.regionQuery statistic)).Fits ↔ s.PicksFit := by
  rcases studentJoins_eq s with ⟨label, columns, hjoins⟩
  have hone : s.county.toList.length ≤ 1 := Option.length_toList_le
  have hdepth := place_depth [.rows label columns s.studentQuery] (isPlaceCondition_scope s)
  rw [List.length_map, List.length_singleton] at hdepth
  have hvalues : (Query.regions (s.regionQuery statistic)).values.length
      = s.county.toList.length + s.picks.length := by
    rw [Query.values, regionQuery]
    simp only [hover, if_true, List.append_nil, hjoins, List.flatMap_singleton, Join.values,
      values_studentQuery, List.length_append, length_values_scope]
    omega
  rw [Query.Fits, Query.compiled_params, hvalues, PicksFit, Query.depth, regionQuery,
    Query.mostValues, Query.deepest]
  simp only [hover, if_true, hjoins, List.append_nil]
  -- Only the number of values can be too large, as one join and one condition are not deep.
  exact and_iff_left (by omega)

/-- The map of the schools of an exam asks for the names that its candidates are asked for. -/
theorem schoolMapFits_iff_picksFit (hs : s.source ≠ .general) :
    s.SchoolMapFits ↔ s.PicksFit := by
  have hasked : s.askedValues = s.picks.length := by
    rw [← values_studentQuery, askedValues, studentQuery]
    cases hsource : s.source with
    | general => exact absurd hsource hs
    | bac => rfl
    | evaluation => rfl
  rw [SchoolMapFits, hasked, PicksFit]
  exact and_iff_left (fun hgeneral => absurd hgeneral hs)

/-- The only map that is not over students is that of schools. -/
theorem eq_schools_of_overStudents {statistic : Statistic}
    (h : statistic.overStudents = false) : statistic = .schools := by
  cases statistic with
  | schools => rfl
  | students => exact Bool.noConfusion h
  | grades => exact Bool.noConfusion h

/-- All maps of an exam have the same limits. -/
theorem examMap_fits_iff (hs : s.source ≠ .general) (statistic : Statistic) :
    (Query.regions (s.regionQuery statistic)).Fits ↔ s.PicksFit := by
  cases hover : statistic.overStudents with
  | true => exact studentMap_fits_iff hover
  | false =>
      rw [eq_schools_of_overStudents hover, regionQuery_fits_iff, schoolMapFits_iff_picksFit hs]

end State

end Filter

end SchoolAtlas
