import SchoolAtlas.Filter.Update
import SchoolAtlas.Proofs.Query.ExamMap
import SchoolAtlas.Proofs.Query.StudentMap

/-!
# From the Country to a County

Whether a county breaks down into what the country shows for it.

A map of schools or students shows a count under every region. Picking a county asks
another query, with another grouping and one more condition, and its regions are the towns
of the county. What the country counted under the county is then counted again, piece by
piece: every school and every row that was counted lies in exactly one of the towns that
are shown, schools of no town under the name for that, and nothing else is counted. So the
counts of the towns add up to the count of the county.

None of them can leave the range of words before their sum does, because no part of a
county has more students than the county. What can go wrong is the size of the query: the
county is one more value to ask for and one more condition, and a map of the country that
was just small enough has no map of a county. `drillDown_not_total` has the state for that.

A mean of grades does not break down in this way, and it is not treated here.

## Main definitions

* `Counted`: What a map counts.
* `Filter.State.countedAt`, `Filter.State.totalAt`: The things counted under a region, and
  their count.
* `Filter.State.Counts`: A map shows counts.
* `Filter.State.MapFits`: A map is within the limits of queries.
* `Filter.State.ShowsCounts`: What the rows of such a map are.
* `Filter.State.Under`: Something is counted under a region, if at all.

## Theorems

* `Filter.State.regionRows_counted`: What a map of counts shows.
* `Filter.State.countedAt_pickCounty`: What the map of a county counts.
* `Filter.State.countedAt_partition`: The towns of a county divide what it counts.
* `Filter.State.drillDown`: A county of the country and the map of the county.
* `Filter.State.drillDown_not_total`: The map of a county may be too large.
-/

namespace SchoolAtlas

/-- What a map counts: a school, or a row of a table of students. -/
inductive Counted where
  | school (school : School)
  | row (detail : Detail)

namespace Filter

namespace State

variable {s : State} {r : Register} {statistic : Statistic} {key : String × Option String}

/-- What is counted under a region: its rows if students are shown, and else its schools. -/
def countedAt (s : State) (r : Register) (statistic : Statistic)
    (key : String × Option String) : List Counted :=
  if statistic.overStudents then (s.rowsAt r key).map .row else (s.schoolsAt r key).map .school

/-- What something counts for. An enrolment counts for its students, and a school or a
    candidate for one. -/
def weight (s : State) : Counted → Int
  | .school _ => 1
  | .row d => if s.source = .general then d.students else 1

/-- The count of a region. -/
def totalAt (s : State) (r : Register) (statistic : Statistic)
    (key : String × Option String) : Int :=
  ((s.countedAt r statistic key).map s.weight).sum

/-- A map shows counts. Grades are shown as means, except for enrolments, which have none. -/
def Counts (s : State) (statistic : Statistic) : Prop :=
  statistic ≠ .grades ∨ s.source = .general

/-- A map is within the limits of queries. -/
def MapFits (s : State) (statistic : Statistic) : Prop :=
  if statistic.overStudents then s.PicksFit else s.SchoolMapFits

/-- The students of a region are more than a word holds. -/
def Overflows (s : State) (r : Register) (statistic : Statistic)
    (key : String × Option String) : Prop :=
  statistic.overStudents = true ∧ s.source = .general
    ∧ Int64.maxValue.toInt < s.totalAt r statistic key

instance (s : State) (statistic : Statistic) : Decidable (s.Counts statistic) :=
  inferInstanceAs (Decidable (_ ∨ _))

instance (s : State) (statistic : Statistic) : Decidable (s.MapFits statistic) :=
  inferInstanceAs (Decidable (ite _ _ _))

theorem mapFits_iff :
    (Query.regions (s.regionQuery statistic)).Fits ↔ s.MapFits statistic := by
  rw [MapFits]
  cases hover : statistic.overStudents with
  | true => rw [if_pos rfl, studentMap_fits_iff hover]
  | false =>
      rw [if_neg Bool.false_ne_true, eq_schools_of_overStudents hover, regionQuery_fits_iff]

theorem totalAt_schools : s.totalAt r .schools key = (s.schoolsAt r key).length := by
  have hcounted : s.countedAt r .schools key = (s.schoolsAt r key).map .school := rfl
  have hone : s.weight ∘ Counted.school = fun _ => 1 := rfl
  rw [totalAt, hcounted, List.map_map, hone, List.map_const', List.sum_replicate, nsmul_one]

theorem totalAt_students (hover : statistic.overStudents = true) (hs : s.source = .general) :
    s.totalAt r statistic key = s.studentsAt r key := by
  have hstudents : (s.weight ∘ Counted.row) ∘ Detail.ofEnrolment = Enrolment.students := by
    funext e
    exact if_pos hs
  rw [totalAt, countedAt, if_pos hover, rowsAt_of_general hs, List.map_map, List.map_map,
    hstudents, studentsAt]

theorem totalAt_candidates (hover : statistic.overStudents = true) (hs : s.source ≠ .general) :
    s.totalAt r statistic key = (s.rowsAt r key).length := by
  have hone : s.weight ∘ Counted.row = fun _ => 1 := by
    funext d
    exact if_neg hs
  rw [totalAt, countedAt, if_pos hover, List.map_map, hone, List.map_const',
    List.sum_replicate, nsmul_one]

theorem countedAt_ne_nil_iff (hover : statistic.overStudents = true) :
    s.countedAt r statistic key ≠ [] ↔ s.rowsAt r key ≠ [] := by
  rw [countedAt, if_pos hover, ne_eq, ne_eq, List.map_eq_nil_iff]

theorem value?_counted (hr : r.Reached) (hcounts : s.Counts statistic)
    (hover : statistic.overStudents = true) {group : List SchoolRow}
    (h : group.map SchoolRow.detail = (s.rowsMet r statistic key).map some) :
    ((s.Overflows r statistic key → (s.regionQuery statistic).measure.value? group = none) ∧
      (¬s.Overflows r statistic key → (s.regionQuery statistic).measure.value? group
        = some (some (.count (s.totalAt r statistic key))))) := by
  -- Without an exam students are added up, which may overflow. Candidates are counted.
  by_cases hs : s.source = .general
  · have hmeasure : (s.regionQuery statistic).measure = .studentSum := by
      cases statistic with
      | schools => exact Bool.noConfusion hover
      | students => exact if_pos hs
      | grades => exact if_pos hs
    rw [Overflows, hmeasure, value?_studentSum hr hs h, totalAt_students hover hs]
    constructor
    · intro hlarge
      rw [if_neg (Int.not_le.mpr hlarge.2.2)]
    · intro hsmall
      rw [if_pos (Int.not_lt.mp (fun hlarge => hsmall ⟨hover, hs, hlarge⟩))]
  · refine ⟨fun hlarge => absurd hlarge.2.1 hs, fun _ => ?_⟩
    rw [value?_examMeasure hr.nodup_ids hs hover h, totalAt_candidates hover hs]
    cases statistic with
    | schools => exact Bool.noConfusion hover
    | students => rfl
    | grades => exact absurd rfl (hcounts.resolve_right hs)

/-- The rows of a map of counts: the regions where something is counted, each once and with
    its count. -/
structure ShowsCounts (s : State) (r : Register) (statistic : Statistic)
    (rows : List RegionRow) : Prop where
  nodup_place : (rows.map RegionRow.place).Nodup
  mem_iff : ∀ row, row ∈ rows ↔ s.countedAt r statistic row.place ≠ [] ∧
    row.value = .count (s.totalAt r statistic row.place)

namespace ShowsCounts

variable {rows : List RegionRow}

theorem exists_place_iff (h : s.ShowsCounts r statistic rows) :
    (∃ row ∈ rows, row.place = key) ↔ s.countedAt r statistic key ≠ [] := by
  constructor
  · intro hex
    rcases hex with ⟨row, hin, hplace⟩
    exact hplace ▸ ((h.mem_iff row).mp hin).1
  · intro hne
    let count := s.totalAt r statistic key
    exact ⟨⟨key.1, key.2, .count count⟩, (h.mem_iff _).mpr ⟨hne, rfl⟩, rfl⟩

theorem values (h : s.ShowsCounts r statistic rows) :
    rows.map RegionRow.value
      = (rows.map (fun row => s.totalAt r statistic row.place)).map Amount.count := by
  rw [List.map_map]
  exact List.map_congr_left (fun row hin => ((h.mem_iff row).mp hin).2)

end ShowsCounts

/-- A map of counts shows them, unless it is too large or one of them is. -/
theorem regionRows_counted (hr : r.Reached) (hcounts : s.Counts statistic)
    (hfits : s.MapFits statistic) (hwords : ∀ key, ¬s.Overflows r statistic key) :
    ∃ rows, r.regionRows (.regions (s.regionQuery statistic)) = .ok rows ∧
      s.ShowsCounts r statistic rows := by
  -- A map that is not over students is that of schools.
  cases hover : statistic.overStudents with
  | false =>
      have hschools := eq_schools_of_overStudents hover
      subst hschools
      rcases regionRows_schoolMap hr.nodup_ids hfits with ⟨rows, hrows, hnodup, hmem⟩
      refine ⟨rows, hrows, ⟨hnodup, fun row => ?_⟩⟩
      have hcounted : s.countedAt r .schools row.place ≠ [] ↔ s.schoolsAt r row.place ≠ [] :=
        not_congr List.map_eq_nil_iff
      rw [hmem, totalAt_schools, hcounted]
  | true =>
      rw [MapFits, if_pos hover] at hfits
      have hvalue := fun key (group : List SchoolRow)
          (h : group.map SchoolRow.detail = (s.rowsMet r statistic key).map some) =>
        (value?_counted hr hcounts hover h).2 (hwords key)
      rcases regionRows_studentMap hr.nodup_ids hover hfits _ hvalue with
        ⟨rows, hrows, hnodup, hmem⟩
      refine ⟨rows, hrows, ⟨hnodup, fun row => ?_⟩⟩
      rw [hmem, countedAt_ne_nil_iff hover, Option.some.injEq, eq_comm (a := row.value)]

theorem regionRows_refused (r : Register) (hfits : ¬s.MapFits statistic) :
    r.regionRows (.regions (s.regionQuery statistic)) = .error .tooLarge := by
  rw [Register.regionRows, if_neg (fun h => hfits (mapFits_iff.mp h))]

/-- A map of counts fails as a whole if one of them is too large. -/
theorem regionRows_overflow (hr : r.Reached) (hcounts : s.Counts statistic)
    (hfits : s.MapFits statistic) (hlarge : s.Overflows r statistic key) :
    r.regionRows (.regions (s.regionQuery statistic)) = .error .overflow := by
  rw [MapFits, if_pos hlarge.1] at hfits
  -- A count above zero is the count of something.
  have hne : s.rowsAt r key ≠ [] := by
    intro hnil
    have hword := hlarge.2.2
    rw [totalAt, countedAt, if_pos hlarge.1, hnil, List.map_nil, List.map_nil, List.sum_nil]
      at hword
    exact absurd hword (by decide)
  exact regionRows_studentMap_overflow hr.nodup_ids hlarge.1 hfits hne
    (fun group h => (value?_counted hr hcounts hlarge.1 h).1 hlarge)

/-- A map of counts that is answered is neither too large nor has it a count that is. -/
theorem fits_of_regionRows (hr : r.Reached) (hcounts : s.Counts statistic)
    {rows : List RegionRow} (hrows : r.regionRows (.regions (s.regionQuery statistic)) = .ok rows) :
    s.MapFits statistic ∧ ∀ key, ¬s.Overflows r statistic key := by
  have hfits : s.MapFits statistic := by
    by_contra hfits
    rw [regionRows_refused r hfits] at hrows
    exact absurd hrows (by simp only [reduceCtorEq, not_false_eq_true])
  refine ⟨hfits, fun key hlarge => ?_⟩
  rw [regionRows_overflow hr hcounts hfits hlarge] at hrows
  exact absurd hrows (by simp only [reduceCtorEq, not_false_eq_true])

theorem showsCounts_of_regionRows (hr : r.Reached) (hcounts : s.Counts statistic)
    {rows : List RegionRow} (hrows : r.regionRows (.regions (s.regionQuery statistic)) = .ok rows) :
    s.ShowsCounts r statistic rows := by
  rcases fits_of_regionRows hr hcounts hrows with ⟨hfits, hwords⟩
  rcases regionRows_counted hr hcounts hfits hwords with ⟨_, hanswer, hshows⟩
  rw [hrows, Except.ok.injEq] at hanswer
  exact hanswer ▸ hshows

/-- Something is counted under a region, if it is counted at all. -/
def Under (s : State) (r : Register) (key : String × Option String) : Counted → Prop
  | .school school => s.InScope school ∧ s.place school = key
  | .row d => s.LiesIn r key d.school

instance (s : State) (r : Register) (key : String × Option String) :
    (counted : Counted) → Decidable (s.Under r key counted)
  | .school _ => inferInstanceAs (Decidable (_ ∧ _))
  | .row _ => inferInstanceAs (Decidable (s.LiesIn _ _ _))

theorem Under.unique (hids : (r.schools.map School.id).Nodup) {key' : String × Option String}
    {counted : Counted} (h : s.Under r key counted) (h' : s.Under r key' counted) :
    key = key' := by
  cases counted with
  | school school => exact h.2.symm.trans h'.2
  | row d => exact LiesIn.unique hids h h'

section County

variable {code : String}

theorem inScope_pickCounty_iff {school : School} :
    (s.pickCounty (some code)).InScope school ↔ school.county = code := by
  simp only [InScope, pickCounty, reduceCtorEq, false_or, Option.some.injEq, eq_comm]

theorem inScope_and_place_iff (hcounty : s.county = none) {school : School} :
    (s.InScope school ∧ s.place school = (code, none)) ↔ school.county = code := by
  simp only [InScope, place, hcounty, true_or, true_and, Option.isSome_none, Bool.false_eq_true,
    if_false, Prod.mk.injEq, and_true]

/-- What lies in a town of a county lies in the county. -/
theorem under_country (hcounty : s.county = none) {counted : Counted}
    (h : (s.pickCounty (some code)).Under r key counted) : s.Under r (code, none) counted := by
  cases counted with
  | school school =>
      exact (inScope_and_place_iff hcounty).mpr (inScope_pickCounty_iff.mp h.1)
  | row d =>
      rcases h with ⟨school, hin, hid, hscope, _⟩
      exact ⟨school, hin, hid,
        (inScope_and_place_iff hcounty).mpr (inScope_pickCounty_iff.mp hscope)⟩

/-- What lies in a county lies in a town of it, if only in that for schools of no town. -/
theorem exists_under_town (hcounty : s.county = none) {counted : Counted}
    (h : s.Under r (code, none) counted) :
    ∃ name, (s.pickCounty (some code)).Under r (code, some name) counted := by
  -- A school of no town lies in the town that stands for having none.
  have htown : ∀ school : School, school.county = code →
      (s.pickCounty (some code)).InScope school ∧ (s.pickCounty (some code)).place school
        = (code, some (school.town.getD RegionQuery.unknownTown)) := by
    intro school hschool
    exact ⟨inScope_pickCounty_iff.mpr hschool, by rw [← hschool]; rfl⟩
  cases counted with
  | school school =>
      exact ⟨_, htown school ((inScope_and_place_iff hcounty).mp h)⟩
  | row d =>
      rcases h with ⟨school, hin, hid, hlies⟩
      exact ⟨_, school, hin, hid, htown school ((inScope_and_place_iff hcounty).mp hlies)⟩

theorem place_of_under {counted : Counted}
    (h : (s.pickCounty (some code)).Under r key counted) : ∃ name, key = (code, some name) := by
  have htown : ∀ school : School, (s.pickCounty (some code)).InScope school →
      (s.pickCounty (some code)).place school = key → ∃ name, key = (code, some name) := by
    intro school hscope hplace
    exact ⟨_, by rw [← hplace, ← inScope_pickCounty_iff.mp hscope]; rfl⟩
  cases counted with
  | school school => exact htown school h.1 h.2
  | row d =>
      rcases h with ⟨school, _, _, hscope, hplace⟩
      exact htown school hscope hplace

theorem under_of_mem_countedAt {counted : Counted} (h : counted ∈ s.countedAt r statistic key) :
    s.Under r key counted := by
  rw [countedAt] at h
  split at h
  · rcases List.mem_map.mp h with ⟨d, hd, rfl⟩
    exact of_decide_eq_true (List.mem_filter.mp hd).2
  · rcases List.mem_map.mp h with ⟨school, hschool, rfl⟩
    rcases mem_schoolsAt_iff.mp hschool with ⟨_, hscope, _, hplace⟩
    exact ⟨hscope, hplace⟩

/-- What the map of a county counts under a town is what the map of the country counts under
    the county, as far as it lies in the town. -/
theorem countedAt_pickCounty (hcounty : s.county = none) :
    (s.pickCounty (some code)).countedAt r statistic key
      = (s.countedAt r statistic (code, none)).filter
          (fun counted => (s.pickCounty (some code)).Under r key counted) := by
  rw [countedAt, countedAt]
  split
  · rw [List.filter_map, rowsAt, rowsAt, List.filter_filter]
    refine congrArg (List.map Counted.row) (List.filter_congr (fun d _ => ?_))
    rw [Function.comp_apply, ← Bool.decide_and, decide_eq_decide]
    have hrow : (s.pickCounty (some code)).Under r key (.row d) → s.Under r (code, none) (.row d) :=
      under_country hcounty
    exact (and_iff_left_of_imp hrow).symm
  · rw [List.filter_map, schoolsAt, schoolsAt, List.filter_filter]
    refine congrArg (List.map Counted.school) (List.filter_congr (fun school _ => ?_))
    rw [Function.comp_apply, ← Bool.decide_and, decide_eq_decide]
    -- A county changes nothing about who is admitted.
    constructor
    · intro hin
      rcases hin with ⟨hscope, hadmits, hplace⟩
      have hunder : (s.pickCounty (some code)).Under r key (.school school) := ⟨hscope, hplace⟩
      have hcountry := under_country hcounty hunder
      exact ⟨hunder, hcountry.1, hadmits, hcountry.2⟩
    · intro hin
      rcases hin with ⟨hunder, _, hadmits, _⟩
      exact ⟨hunder.1, hadmits, hunder.2⟩

/-- The towns of a county divide what is counted under the county. -/
theorem countedAt_partition (hids : (r.schools.map School.id).Nodup) (hcounty : s.county = none)
    {towns : List RegionRow} (h : (s.pickCounty (some code)).ShowsCounts r statistic towns) :
    (s.countedAt r statistic (code, none)).Perm
      (towns.flatMap (fun town =>
        (s.pickCounty (some code)).countedAt r statistic town.place)) := by
  have hparts := Lists.flatMap_filter_perm_of_exclusive h.nodup_place
    (s.countedAt r statistic (code, none))
    (fun key counted => decide ((s.pickCounty (some code)).Under r key counted))
    (fun _ _ key key' h h' => (of_decide_eq_true h).unique hids (of_decide_eq_true h'))
  simp only [← countedAt_pickCounty hcounty] at hparts
  rw [List.flatMap_map] at hparts
  refine (List.Perm.of_eq ?_).trans hparts.symm
  -- Nothing is left over: what is counted lies in a town, and the town is shown.
  refine (List.filter_eq_self.mpr (fun counted hcounted => ?_)).symm
  rcases exists_under_town hcounty (under_of_mem_countedAt hcounted) with ⟨name, hunder⟩
  have hin : counted ∈ (s.pickCounty (some code)).countedAt r statistic (code, some name) := by
    rw [countedAt_pickCounty hcounty]
    exact List.mem_filter.mpr ⟨hcounted, decide_eq_true hunder⟩
  exact List.any_eq_true.mpr ⟨_, List.mem_map.mpr (h.exists_place_iff.mpr (List.ne_nil_of_mem hin)),
    decide_eq_true hunder⟩

/-- So the county has something to count exactly if a town is shown. -/
theorem countedAt_ne_nil_iff_towns (hids : (r.schools.map School.id).Nodup)
    (hcounty : s.county = none) {towns : List RegionRow}
    (h : (s.pickCounty (some code)).ShowsCounts r statistic towns) :
    s.countedAt r statistic (code, none) ≠ [] ↔ towns ≠ [] := by
  rw [ne_eq, ne_eq, ← List.isEmpty_iff, (countedAt_partition hids hcounty h).isEmpty_eq,
    List.isEmpty_iff, List.flatMap_eq_nil_iff]
  refine not_congr ⟨fun hnone => ?_, fun hnil town hin => absurd (hnil ▸ hin) List.not_mem_nil⟩
  -- A town that is shown has something to count.
  exact List.eq_nil_iff_forall_not_mem.mpr
    (fun town hin => ((h.mem_iff town).mp hin).1 (hnone town hin))

theorem totalAt_eq_sum_towns (hids : (r.schools.map School.id).Nodup) (hcounty : s.county = none)
    {towns : List RegionRow} (h : (s.pickCounty (some code)).ShowsCounts r statistic towns) :
    s.totalAt r statistic (code, none) = (towns.map (fun town =>
      (s.pickCounty (some code)).totalAt r statistic town.place)).sum := by
  rw [totalAt, ((countedAt_partition hids hcounty h).map s.weight).sum_eq, List.map_flatMap,
    List.flatMap_def, List.sum_flatten, List.map_map]
  rfl

theorem weight_nonneg (hr : r.Reached) {counted : Counted}
    (h : counted ∈ s.countedAt r statistic key) : 0 ≤ s.weight counted := by
  cases counted with
  | school school => exact Int.one_nonneg
  | row d =>
      rw [weight]
      split
      -- What weighs other than one is an enrolment of the register.
      · next hs =>
        rw [countedAt] at h
        split at h
        · rcases List.mem_map.mp h with ⟨_, hd, heq⟩
          rw [Counted.row.inj heq, rowsAt_of_general hs] at hd
          rcases List.mem_map.mp hd with ⟨e, he, rfl⟩
          exact hr.students_nonneg e (List.mem_filter.mp he).1
        · rcases List.mem_map.mp h with ⟨_, _, heq⟩
          exact Counted.noConfusion heq
      · exact Int.one_nonneg

/-- No town has more than its county, so its count is a word if that of the county is. -/
theorem overflows_of_pickCounty (hr : r.Reached) (hcounty : s.county = none)
    (h : (s.pickCounty (some code)).Overflows r statistic key) :
    s.Overflows r statistic (code, none) := by
  have hle : (s.pickCounty (some code)).totalAt r statistic key
      ≤ s.totalAt r statistic (code, none) := by
    rw [totalAt, totalAt, countedAt_pickCounty hcounty]
    refine (List.filter_sublist.map s.weight).sum_le_sum (fun n hn => ?_)
    rcases List.mem_map.mp hn with ⟨counted, hcounted, rfl⟩
    exact weight_nonneg hr hcounted
  exact ⟨h.1, h.2.1, Int.lt_of_lt_of_le h.2.2 hle⟩

end County

/-- A county of the country and the map of the county, for maps of schools and students. If
    the country is answered, the county is unless it is too large, and no count of its towns
    is. The country shows the county exactly if the county shows a town, and then its count
    is the sum of those of the towns. What is counted under the county is what is counted
    under the towns, and everything under one town only. -/
theorem drillDown (hr : r.Reached) (hcounty : s.county = none) (hcounts : s.Counts statistic)
    (code : String) {rows : List RegionRow}
    (hrows : r.regionRows (.regions (s.regionQuery statistic)) = .ok rows) :
    (¬(s.apply (.county (some code))).MapFits statistic →
      r.regionRows (.regions ((s.apply (.county (some code))).regionQuery statistic))
        = .error .tooLarge) ∧
    ((s.apply (.county (some code))).MapFits statistic → ∃ towns,
      r.regionRows (.regions ((s.apply (.county (some code))).regionQuery statistic))
        = .ok towns ∧
      (∀ town ∈ towns, ∃ name, town.place = (code, some name)) ∧
      ((∃ row ∈ rows, row.place = (code, none)) ↔ towns ≠ []) ∧
      (∀ row ∈ rows, row.place = (code, none) → ∃ counts : List Int,
        towns.map RegionRow.value = counts.map Amount.count ∧ row.value = .count counts.sum) ∧
      (s.countedAt r statistic (code, none)).Perm (towns.flatMap (fun town =>
        (s.apply (.county (some code))).countedAt r statistic town.place)) ∧
      ∀ counted ∈ s.countedAt r statistic (code, none), ∃! town, town ∈ towns ∧
        counted ∈ (s.apply (.county (some code))).countedAt r statistic town.place) := by
  have happly : s.apply (.county (some code)) = s.pickCounty (some code) := rfl
  rw [happly]
  refine ⟨regionRows_refused r, fun hfits => ?_⟩
  have hcountry := showsCounts_of_regionRows hr hcounts hrows
  have hwords := (fits_of_regionRows hr hcounts hrows).2
  -- A town that overflows is part of a county that does, and the country was answered.
  rcases regionRows_counted (s := s.pickCounty (some code)) hr hcounts hfits
    (fun key h => hwords _ (overflows_of_pickCounty hr hcounty h)) with ⟨towns, htowns, hshows⟩
  have hparts := countedAt_partition hr.nodup_ids hcounty hshows
  refine ⟨towns, htowns, fun town hin => ?_, ?_, fun row hin hplace => ?_, hparts,
    fun counted hcounted => ?_⟩
  · rcases List.exists_mem_of_ne_nil _ ((hshows.mem_iff town).mp hin).1 with ⟨counted, hcounted⟩
    exact place_of_under (under_of_mem_countedAt hcounted)
  · rw [hcountry.exists_place_iff, countedAt_ne_nil_iff_towns hr.nodup_ids hcounty hshows]
  · refine ⟨_, hshows.values, ?_⟩
    rw [((hcountry.mem_iff row).mp hin).2, hplace,
      totalAt_eq_sum_towns hr.nodup_ids hcounty hshows]
  · rcases List.mem_flatMap.mp (hparts.mem_iff.mp hcounted) with ⟨town, hin, hunder⟩
    refine ⟨town, ⟨hin, hunder⟩, fun other hother => ?_⟩
    have hplace : other.place = town.place :=
      (under_of_mem_countedAt hother.2).unique hr.nodup_ids (under_of_mem_countedAt hunder)
    exact List.inj_on_of_nodup_map hshows.nodup_place hother.1 hin hplace

/-- Picking a county of three schools shows its two towns, whose students add up. -/
theorem drillDown_threeSchools : ∃ rows towns,
    threeSchoolsRegister.regionRows (.regions (initial.regionQuery .students)) = .ok rows ∧
      threeSchoolsRegister.regionRows
        (.regions ((initial.apply (.county (some "CJ"))).regionQuery .students)) = .ok towns ∧
      towns ≠ [] ∧ ∃ counts : List Int, towns.map RegionRow.value = counts.map Amount.count ∧
        counts.sum = 12 := by
  have hcounts : initial.Counts .students := Or.inl (by decide)
  have hover : Statistic.students.overStudents = true := rfl
  have hwords : ∀ key, ¬initial.Overflows threeSchoolsRegister .students key := by
    intro key h
    have hword := h.2.2
    rw [totalAt_students hover rfl] at hword
    exact absurd (Int.lt_of_lt_of_le hword (studentsAt_le threeSchoolsRegister_reached)) (by decide)
  rcases regionRows_counted threeSchoolsRegister_reached hcounts (by decide) hwords with
    ⟨rows, hrows, hshows⟩
  rcases (drillDown threeSchoolsRegister_reached rfl hcounts "CJ" hrows).2 (by decide) with
    ⟨towns, htowns, _, hshown, hsum, _⟩
  -- The county has twelve students, and so have its towns together.
  have htotal : initial.totalAt threeSchoolsRegister .students ("CJ", none) = 12 := by
    rw [totalAt_students hover rfl]
    decide
  have hrow : ⟨"CJ", none, .count 12⟩ ∈ rows := (hshows.mem_iff _).mpr
    ⟨(countedAt_ne_nil_iff hover).mpr (by decide), congrArg Amount.count htotal.symm⟩
  rcases hsum _ hrow rfl with ⟨counts, hvalues, hcount⟩
  exact ⟨rows, towns, hrows, htowns, hshown.mp ⟨_, hrow, rfl⟩, counts, hvalues,
    (Amount.count.inj hcount).symm⟩

/-- The map of a county need not be there where that of the country is. -/
theorem drillDown_not_total : ¬∀ (r : Register) (s : State) (code : String)
    (rows : List RegionRow), r.Reached → s.county = none →
    r.regionRows (.regions (s.regionQuery .schools)) = .ok rows →
    ∃ towns, r.regionRows (.regions ((s.apply (.county (some code))).regionQuery .schools))
      = .ok towns := by
  intro hall
  let s := crowded 932 (by decide)
  have hlevels : s.levels.selected.length = 932 := length_selected_manyLevels (by decide)
  have hlanguages : s.languages.selected.length = 13 := by decide
  have hstrict : s.isStrict = true := isStrict_crowded (by decide) (by decide)
  -- The map of the country has room for the levels, and no room for one thing more.
  have hcountry : s.SchoolMapFits := by
    have hcounty : s.county.toList.length = 0 := rfl
    have hasked : s.askedValues = 932 * 14 := by
      rw [askedValues, show s.source = .general from rfl]
      simp only [hstrict, if_true, hlevels, hlanguages]
    exact ⟨by omega, fun _ _ => by omega⟩
  have hcounty : ¬(s.apply (.county (some "CJ"))).SchoolMapFits := by
    intro hfits
    have hone : (s.apply (.county (some "CJ"))).county.toList.length = 1 := rfl
    have hsame : (s.apply (.county (some "CJ"))).levels = s.levels := rfl
    have hnested := hfits.2 rfl hstrict
    rw [hsame] at hnested
    omega
  rcases regionRows_schoolMap Register.Reached.empty.nodup_ids hcountry with ⟨rows, hrows, _⟩
  rcases hall .empty s "CJ" rows .empty rfl hrows with ⟨towns, htowns⟩
  rw [regionRows_schoolMap_refused .empty hcounty] at htowns
  exact absurd htowns (by simp only [reduceCtorEq, not_false_eq_true])

end State

end Filter

end SchoolAtlas
