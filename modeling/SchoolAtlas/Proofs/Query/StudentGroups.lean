import SchoolAtlas.Proofs.Filter.StudentRows
import SchoolAtlas.Proofs.Query.SchoolMap

/-!
# Groups of Students

The rows that a map over students collapses into one value.

A map over students joins rows to schools, and its answer puts the joined rows into
groups. What a group holds is said here without joins: it is the list `State.rowsMet` of
the region, row for row and in the order in which they are met. The two ways of going
through the rows come together in that, so nothing later has to tell them apart.

A value is taken from a group through what its rows show, and that is all that is left of
the query once `map_detail_group` is there. A group is empty exactly if no row of the
region is let through. So whatever a map over students measures, its answer follows from
the value of a list of rows, and there are three of them: the map, a failure because of
one value, and a refusal because of the size of the query.

## Theorems

* `Register.rows?_of_rows`: The rows that a join of rows makes of the schools.
* `Filter.State.leading?_eq`: The maps that go along their table.
* `Filter.State.map_detail_group`: What the rows of a group show.
* `Filter.State.filterMap_detail`: What is read off the rows of a group.
* `Filter.State.group_ne_nil_iff`: A region has a group if it has rows.
* `Filter.State.regionRows_studentMap`: A map over students that is answered.
* `Filter.State.regionRows_studentMap_overflow`: One that fails.
* `Filter.State.regionRows_studentMap_refused`: One that is refused.
-/

namespace SchoolAtlas

namespace Register

variable {r : Register}

/-- A single join of rows goes through the visited schools that meet the conditions, and
    gives each of them one row for each of its rows in the table. -/
theorem rows?_of_rows {conditions : List SchoolCondition} (label : String)
    (columns : List String) (query : DetailQuery)
    (hc : ∀ c ∈ conditions, c.isOnRows = false) :
    r.rows? conditions [.rows label columns query]
      = some ((r.visits.filter (fun s => conditions.all (SchoolCondition.holds r s))).flatMap
          (fun s => (DetailQuery.detailsOf (query.details r) s.id).map
            (fun d => ⟨s, some d, none⟩))) := by
  have hnone : conditions.filter SchoolCondition.isOnRows = [] := by
    refine List.filter_eq_nil_iff.mpr (fun c hcin => ?_)
    rw [hc c hcin]
    exact Bool.false_ne_true
  have hall : conditions.filter (fun c => !c.isOnRows) = conditions := by
    refine List.filter_eq_self.mpr (fun c hcin => ?_)
    rw [hc c hcin, Bool.not_false]
  -- No condition is on rows, so all of them are looked at before the join.
  have htabled : SchoolCondition.tabled [.rows label columns query] conditions = [] := by
    rw [SchoolCondition.tabled, hnone, List.take_nil]
  have himmediate : SchoolCondition.immediate [.rows label columns query] conditions
      = conditions := by
    rw [SchoolCondition.immediate, hnone, hall, List.drop_nil, List.append_nil]
  have horder : Join.inOrder [.rows label columns query] = [.rows label columns query] := rfl
  rw [rows?, htabled, himmediate, horder, List.foldlM_cons, Join.extend?]
  simp only [Option.bind_eq_bind, Option.bind_some, List.foldlM_nil, Option.pure_def,
    Option.map_some, List.all_nil, List.filter_true, List.flatMap_map]

end Register

namespace Filter

namespace State

variable {s : State} {r : Register} {statistic : Statistic}

/-- Only a mean over the whole country goes along its table, and only if it is over the
    baccalaureate: nothing is asked of the candidates of the national evaluation. -/
theorem leading?_eq (s : State) (hover : statistic.overStudents = true) :
    (s.regionQuery statistic).leading?
      = if s.alongTable statistic then some s.studentQuery else none := by
  rcases studentJoins_eq s with ⟨label, columns, hjoins⟩
  unfold RegionQuery.leading? regionQuery
  simp only [hover, if_true, hjoins, List.append_nil]
  cases hcounty : s.county with
  | some code =>
      -- A county is a condition.
      cases statistic <;> simp [measure, alongTable, hcounty]
  | none =>
      cases statistic with
      | schools => exact Bool.noConfusion hover
      | students =>
          cases hsource : s.source <;> simp [measure, alongTable]
      | grades =>
          cases hsource : s.source with
          | general => simp [measure, alongTable, hsource]
          | bac =>
              simp [measure, alongTable, hsource, hcounty, studentQuery]
          | evaluation =>
              simp [measure, alongTable, hsource, studentQuery, DetailQuery.isTight,
                evaluationRows]

/-- Going along a table looks up the school of each row. What is left of the table where
    only some schools are wanted are the rows of these schools. -/
theorem map_detail_lookup (hids : (r.schools.map School.id).Nodup) (wanted : School → Bool)
    (details : List Detail) :
    ((details.filterMap (fun d => (r.schools.find? (fun school => school.id = d.school)).map
        (fun school => (⟨school, some d, none⟩ : SchoolRow)))).filter
          (fun row => wanted row.school)).map SchoolRow.detail
      = (details.filter (fun d =>
          ∃ school ∈ r.schools, school.id = d.school ∧ wanted school = true)).map some := by
  induction details with
  | nil => rfl
  | cons d rest ih =>
      rw [List.filter_cons]
      cases hfind : r.schools.find? (fun school => school.id = d.school) with
      | none =>
          -- The row names no school of the register.
          have hunknown : ¬∃ school ∈ r.schools, school.id = d.school ∧ wanted school = true := by
            intro hex
            rcases hex with ⟨school, hin, hid, _⟩
            exact List.find?_eq_none.mp hfind school hin (decide_eq_true hid)
          rw [List.filterMap_cons_none (by rw [hfind]; rfl), ih, decide_eq_false hunknown,
            if_neg Bool.false_ne_true]
      | some school =>
          have hid : school.id = d.school := by simpa using List.find?_some hfind
          have hin := List.mem_of_find?_eq_some hfind
          -- No other school has the identifier.
          have honly : (∃ other ∈ r.schools, other.id = d.school ∧ wanted other = true) ↔
              wanted school = true := by
            constructor
            · intro hex
              rcases hex with ⟨other, hother, hsame, hwanted⟩
              have heq := List.inj_on_of_nodup_map hids hother hin (hsame.trans hid.symm)
              exact heq ▸ hwanted
            · exact fun hwanted => ⟨school, hin, hid, hwanted⟩
          rw [List.filterMap_cons_some (by rw [hfind]; rfl), List.filter_cons]
          by_cases hwanted : wanted school = true
          · rw [if_pos hwanted, decide_eq_true (honly.mpr hwanted), if_pos rfl, List.map_cons,
              List.map_cons, ih]
          · rw [if_neg hwanted, decide_eq_false (fun hex => hwanted (honly.mp hex)),
              if_neg Bool.false_ne_true, ih]

/-- The rows that a map over students is taken over. Whatever the region, those of its
    group show the rows that are met there, in the same order. -/
theorem map_detail_group (hids : (r.schools.map School.id).Nodup)
    (hover : statistic.overStudents = true) :
    ∃ rows, (s.regionQuery statistic).rows? r = some rows ∧
      ∀ key, ((s.regionQuery statistic).group rows key).map SchoolRow.detail
        = (s.rowsMet r statistic key).map some := by
  rw [RegionQuery.rows?, leading?_eq s hover]
  cases halong : s.alongTable statistic with
  | true =>
      refine ⟨_, rfl, fun key => ?_⟩
      -- There is no county then, and every school is in scope.
      have hcounty : s.county = none := by
        cases statistic with
        | grades =>
            simp only [alongTable, Bool.and_eq_true, Option.isNone_iff_eq_none] at halong
            exact halong.1.2
        | schools => exact Bool.noConfusion halong
        | students => exact Bool.noConfusion halong
      have hlies : ∀ id, s.LiesIn r key id ↔
          ∃ school ∈ r.schools, school.id = id ∧ decide (s.place school = key) = true := by
        intro id
        refine exists_congr (fun school => and_congr_right (fun _ => and_congr_right (fun _ => ?_)))
        rw [decide_eq_true_eq]
        exact and_iff_right (Or.inl hcounty)
      have hlookup := map_detail_lookup hids (fun school => decide (s.place school = key))
        (s.admittedRows r)
      rw [RegionQuery.group, rowsMet, halong, if_pos rfl, rowsAt, DetailQuery.rows,
        details_studentQuery]
      simp only [region_regionQuery, hlies]
      exact hlookup
  | false =>
      rcases studentJoins_eq s with ⟨label, columns, hjoins⟩
      have hrows : r.rows? (s.regionQuery statistic).conditions (s.regionQuery statistic).joins
          = r.rows? (s.county.toList.map inCounty) [.rows label columns s.studentQuery] := by
        rw [regionQuery, hover, if_pos rfl, if_pos rfl, List.append_nil, hjoins]
      rw [if_neg Bool.false_ne_true]
      refine ⟨_, hrows.trans (Register.rows?_of_rows label columns s.studentQuery
        (fun c hc => (isPlaceCondition_scope s c hc).2)), fun key => ?_⟩
      -- All rows of a school belong to the region of the school.
      rw [RegionQuery.group, Lists.filter_flatMap_of_forall (q := fun school =>
        decide (s.place school = key))]
      · rw [rowsMet, halong, if_neg Bool.false_ne_true, List.filter_filter, visitsAt,
          details_studentQuery, List.map_flatMap, List.map_flatMap]
        have hvisits : (fun school => decide (s.place school = key)
              && (s.county.toList.map inCounty).all (SchoolCondition.holds r school))
            = fun school => decide (s.InScope school ∧ s.place school = key) := by
          funext school
          rw [Bool.eq_iff_iff, Bool.and_eq_true, holds_scope_iff, decide_eq_true_eq,
            decide_eq_true_eq, and_comm]
        rw [hvisits]
        refine List.flatMap_congr (fun school _ => ?_)
        rw [List.map_map]
        rfl
      · intro school _ row hrow
        rcases List.mem_map.mp hrow with ⟨d, _, rfl⟩
        rw [region_regionQuery]

/-- What is read off the rows of a group can be read off what they show. -/
theorem filterMap_detail {group : List SchoolRow} {details : List Detail}
    (h : group.map SchoolRow.detail = details.map some) (f : Detail → Option β) :
    group.filterMap (fun row => row.detail.bind f) = details.filterMap f := by
  have hread : (fun row : SchoolRow => row.detail.bind f)
      = (fun d => d.bind f) ∘ SchoolRow.detail := rfl
  rw [hread, ← List.filterMap_map, h, List.filterMap_map]
  rfl

theorem group_ne_nil_iff (hids : (r.schools.map School.id).Nodup) {rows : List SchoolRow}
    {key : String × Option String}
    (h : ((s.regionQuery statistic).group rows key).map SchoolRow.detail
      = (s.rowsMet r statistic key).map some) :
    (s.regionQuery statistic).group rows key ≠ [] ↔ s.rowsAt r key ≠ [] := by
  have hperm : (s.rowsMet r statistic key).Perm (s.rowsAt r key) := rowsMet_perm hids statistic
  rw [← List.length_pos_iff, ← List.length_pos_iff, ← hperm.length_eq,
    ← List.length_map SchoolRow.detail, h, List.length_map]

/-- A map over students shows the regions that have rows, if all their values can be had
    and as far as they are not empty. A value is known if it is from what the rows of a
    region show. -/
theorem regionRows_studentMap (hids : (r.schools.map School.id).Nodup)
    (hover : statistic.overStudents = true) (hfits : s.PicksFit)
    (shown? : String × Option String → Option Amount)
    (hvalue : ∀ key (group : List SchoolRow),
      group.map SchoolRow.detail = (s.rowsMet r statistic key).map some →
      (s.regionQuery statistic).measure.value? group = some (shown? key)) :
    ∃ rows, r.regionRows (.regions (s.regionQuery statistic)) = .ok rows ∧
      (rows.map RegionRow.place).Nodup ∧
      ∀ row, row ∈ rows ↔ s.rowsAt r row.place ≠ [] ∧ shown? row.place = some row.value := by
  rcases map_detail_group (s := s) (r := r) hids hover with ⟨rows, hrows, hgroup⟩
  have hanswer := (RegionQuery.answer?_eq_some_iff hrows).mpr ⟨fun key _ => by
    rw [hvalue key _ (hgroup key)]
    rfl, rfl⟩
  refine ⟨_, ?_, RegionQuery.nodup_place hrows hanswer, fun row => ?_⟩
  · rw [Register.regionRows, if_pos ((studentMap_fits_iff hover).mpr hfits), hanswer]
  · rw [RegionQuery.mem_answer?_iff hrows hanswer, hvalue _ _ (hgroup row.place),
      group_ne_nil_iff hids (hgroup row.place), Option.some.injEq]

/-- It fails if the value of a region that has rows cannot be had. -/
theorem regionRows_studentMap_overflow (hids : (r.schools.map School.id).Nodup)
    (hover : statistic.overStudents = true) (hfits : s.PicksFit)
    {key : String × Option String} (hne : s.rowsAt r key ≠ [])
    (hvalue : ∀ group : List SchoolRow,
      group.map SchoolRow.detail = (s.rowsMet r statistic key).map some →
      (s.regionQuery statistic).measure.value? group = none) :
    r.regionRows (.regions (s.regionQuery statistic)) = .error .overflow := by
  rcases map_detail_group (s := s) (r := r) hids hover with ⟨rows, hrows, hgroup⟩
  have hregion := RegionQuery.mem_regions_iff_group_ne_nil.mpr
    ((group_ne_nil_iff hids (hgroup key)).mpr hne)
  -- An answer would have a value for every region that has rows.
  have hnone : (s.regionQuery statistic).answer? r = none := by
    refine Option.eq_none_iff_forall_ne_some.mpr (fun answer hanswer => ?_)
    have hsome := ((RegionQuery.answer?_eq_some_iff hrows).mp hanswer).1 key hregion
    rw [hvalue _ (hgroup key)] at hsome
    exact Bool.noConfusion hsome
  rw [Register.regionRows, if_pos ((studentMap_fits_iff hover).mpr hfits), hnone]

/-- A map over students with more names picked than a query has room for is refused. -/
theorem regionRows_studentMap_refused (r : Register) (hover : statistic.overStudents = true)
    (hfits : ¬s.PicksFit) :
    r.regionRows (.regions (s.regionQuery statistic)) = .error .tooLarge := by
  rw [Register.regionRows, if_neg (fun h => hfits ((studentMap_fits_iff hover).mp h))]

end State

end Filter

end SchoolAtlas
