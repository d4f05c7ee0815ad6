import SchoolAtlas.Proofs.Filter.Admission
import SchoolAtlas.Proofs.Query.Values
import SchoolAtlas.Query.Extent

/-!
# How Much a State May Ask For

The limits on queries, said in terms of the ticks of a filter state.

A query may be refused for its size, and then nobody is told which tick was one
too many. The two limits on a query, on its places for values and on the nesting
of its conditions, come to something simple for the queries of a state. The places
are the ticked names, counted once, except under strict matching: there every
ticked level has a condition of its own that names all ticked languages again.
The nesting stays flat, with the same exception: each of those conditions adds a
level, and the first few of them, which are gone through as tables, add another.
What is left is a bound on the number of ticked levels, and it is lower by one for
each further condition on the place.

## Main definitions

* `Filter.State.askedValues`: The values that schools are asked for.
* `Filter.State.SchoolMapFits`: The school map of a state is within the limits.
* `Filter.State.RosterFits`: The roster of a state is within the limits.

## Theorems

* `foldl_depth_eq`: Shallow conditions add one level each.
* `Filter.State.regionQuery_fits_iff`: The limits of the school map.
* `Filter.State.rosterQuery_fits_iff`: The limits of the roster.
* `Filter.State.schoolMapFits_of_rosterFits`: A roster that may be asked for has a
  map that may be.
-/

namespace SchoolAtlas

/-- Conditions that are not deeper than what precedes them add one level each. -/
theorem foldl_depth_eq {depth : Nat} {others : List Nat} (h : ∀ other ∈ others, other ≤ depth) :
    others.foldl (fun depth other => max depth other + 1) depth = depth + others.length := by
  induction others generalizing depth with
  | nil => rfl
  | cons other rest ih =>
      rcases List.forall_mem_cons.mp h with ⟨hother, hrest⟩
      rw [List.foldl_cons, Nat.max_eq_left hother,
        ih (fun o ho => Nat.le_succ_of_le (hrest o ho)), List.length_cons]
      omega

theorem conjunctionDepth_replicate (depth n : Nat) :
    conjunctionDepth (List.replicate n depth) = if n = 0 then 0 else depth + (n - 1) := by
  cases n with
  | zero => rfl
  | succ n =>
      rw [List.replicate_succ, conjunctionDepth,
        foldl_depth_eq (fun other h => Nat.le_of_eq (List.eq_of_mem_replicate h)),
        List.length_replicate, if_neg (Nat.succ_ne_zero n), Nat.add_sub_cancel]

/-- A few shallow conditions before deep ones count for one level at most, and shallow
    ones after them for one level each. -/
theorem conjunctionDepth_blocks {here deep joined tabled : Nat} (hhere : here ≤ 4)
    (hdeep : 0 < deep) :
    conjunctionDepth (List.replicate here 3 ++ List.replicate deep 6 ++ List.replicate joined 3
        ++ List.replicate tabled 5)
      = 5 + min here 1 + deep + joined + tabled := by
  rcases Nat.exists_eq_succ_of_ne_zero (Nat.ne_of_gt hdeep) with ⟨deep, rfl⟩
  -- After the first deep condition nothing is deeper than what precedes it.
  have hrest : ∀ depth, 6 ≤ depth → (List.replicate deep 6 ++ (List.replicate joined 3
      ++ List.replicate tabled 5)).foldl (fun depth other => max depth other + 1) depth
        = depth + (deep + joined + tabled) := by
    intro depth hdepth
    rw [foldl_depth_eq]
    · simp only [List.length_append, List.length_replicate, Nat.add_assoc]
    · intro other hother
      simp only [List.mem_append, List.mem_replicate] at hother
      omega
  rw [List.append_assoc, List.append_assoc]
  cases here with
  | zero =>
      rw [List.replicate_zero, List.nil_append, List.replicate_succ, List.cons_append,
        conjunctionDepth, hrest 6 (Nat.le_refl 6)]
      omega
  | succ here =>
      rw [List.replicate_succ, List.cons_append, conjunctionDepth, List.foldl_append,
        foldl_depth_eq (fun other h => Nat.le_of_eq (List.eq_of_mem_replicate h)),
        List.length_replicate, List.replicate_succ, List.cons_append, List.foldl_cons,
        hrest _ (by omega)]
      omega

namespace Filter

namespace State

/-- The number of values that schools are asked for. -/
def askedValues (s : State) : Nat :=
  match s.source with
  | .general =>
    if s.isStrict then s.levels.selected.length * (s.languages.selected.length + 1)
    else s.levels.selected.length + s.languages.selected.length
  | .bac => s.bacRows.values.length
  | .evaluation => 0

/-- The school map of a state is within the limits. -/
def SchoolMapFits (s : State) : Prop :=
  s.county.toList.length + s.askedValues ≤ 32766 ∧
    (s.source = .general → s.isStrict = true →
      s.county.toList.length + s.levels.selected.length ≤ 932)

/-- The roster of a state is within the limits. -/
def RosterFits (s : State) : Prop :=
  2 + s.askedValues ≤ 32766 ∧
    (s.source = .general → s.isStrict = true → 1 + s.levels.selected.length ≤ 932)

instance (s : State) : Decidable s.SchoolMapFits := inferInstanceAs (Decidable (_ ∧ _))

instance (s : State) : Decidable s.RosterFits := inferInstanceAs (Decidable (_ ∧ _))

variable {s : State}

theorem choice_values (column : DetailColumn) (values : List String) :
    (choice column values).flatMap Condition.values = values := by
  cases values with
  | nil => rfl
  | cons v rest =>
      rw [choice, Condition.oneOf?, List.isEmpty_cons, if_neg Bool.false_ne_true,
        Option.toList_some, List.flatMap_singleton]
      rfl

/-- The joins for a choice of values ask for all of them. -/
theorem choiceJoins_values (label : String) (column : DetailColumn) (values : List String) :
    ((Condition.oneOf? column values).toList.map
        (fun c => Join.keys label ⟨.enrolments, [c]⟩)).flatMap Join.values = values := by
  cases values with
  | nil => rfl
  | cons v rest =>
      rw [Condition.oneOf?, List.isEmpty_cons, if_neg Bool.false_ne_true, Option.toList_some,
        List.map_singleton, List.flatMap_singleton, Join.values, DetailQuery.values,
        List.flatMap_singleton]
      rfl

/-- What schools are asked for has as many places as there are values. -/
theorem length_asked (s : State) :
    (s.schoolJoins.flatMap Join.values).length
      + (s.schoolConditions.flatMap SchoolCondition.values).length = s.askedValues := by
  rw [schoolJoins, schoolConditions, askedValues]
  cases s.source with
  | general =>
      by_cases hstrict : s.isStrict = true
      · simp only [hstrict, if_true, List.flatMap_nil, List.length_nil, Nat.zero_add]
        rw [strictConditions, List.flatMap_map, List.length_flatMap]
        -- Every level brings itself and all ticked languages.
        have heach : ∀ level ∈ s.levels.selected,
            (SchoolCondition.values (.hasRow ⟨.enrolments,
              .equals .level level :: choice .language s.languages.selected⟩)).length
              = s.languages.selected.length + 1 := by
          intro level _
          rw [SchoolCondition.values, DetailQuery.values, List.flatMap_cons, choice_values]
          rfl
        rw [List.map_congr_left heach, List.map_const', List.sum_replicate_nat]
      · simp only [hstrict, if_false, List.flatMap_nil, List.length_nil, Nat.add_zero,
          Bool.false_eq_true]
        rw [independentJoins, List.flatMap_append, List.length_append, choiceJoins_values,
          choiceJoins_values]
  | bac =>
      simp only [List.flatMap_singleton, List.flatMap_nil, List.length_nil, Nat.add_zero,
        Join.values]
  | evaluation => rfl

/-- Every condition of strict matching is nested alike. -/
theorem depth_of_mem_strictConditions (h : s.isStrict = true) {c : SchoolCondition}
    (hc : c ∈ s.strictConditions) :
    c.depth = 6 ∧ c.innerDepth = 5 ∧ c.isOnRows = true := by
  have hne := (isStrict_iff.mp h).2.2
  rcases List.mem_map.mp hc with ⟨level, _, rfl⟩
  rw [choice, Condition.oneOf?, if_neg (by rw [List.isEmpty_iff]; exact hne)]
  exact ⟨rfl, rfl, rfl⟩

/-- Conditions on the place are shallow, and are not on rows. -/
def IsPlaceCondition (c : SchoolCondition) : Prop := c.depth = 3 ∧ c.isOnRows = false

theorem isPlaceCondition_inCounty (code : String) : IsPlaceCondition (inCounty code) := ⟨rfl, rfl⟩

theorem isPlaceCondition_inTown (name : String) : IsPlaceCondition (inTown name) := ⟨rfl, rfl⟩

/-- The conditions on the county shown, of which there is one or none, are on the place. -/
theorem isPlaceCondition_scope (s : State) :
    ∀ c ∈ s.county.toList.map inCounty, IsPlaceCondition c := by
  intro c hc
  rcases List.mem_map.mp hc with ⟨code, _, rfl⟩
  exact isPlaceCondition_inCounty code

theorem length_values_scope (s : State) :
    ((s.county.toList.map inCounty).flatMap SchoolCondition.values).length
      = s.county.toList.length := by
  cases s.county with
  | none => rfl
  | some code => rfl

theorem map_depth_place {here : List SchoolCondition} (h : ∀ c ∈ here, IsPlaceCondition c) :
    here.map SchoolCondition.depth = List.replicate here.length 3 := by
  rw [List.map_congr_left (fun c hc => (h c hc).1), List.map_const']

/-- Conditions on the place alone are never too deep, whatever is joined. -/
theorem place_depth (joins : List Join) {here : List SchoolCondition}
    (h : ∀ c ∈ here, IsPlaceCondition c) :
    SchoolCondition.depthTogether joins here ≤ 3 + here.length + joins.length := by
  -- None of them is on rows, so none is gone through as a table.
  have htabled : SchoolCondition.tabled joins here = [] := by
    rw [SchoolCondition.tabled, List.filter_eq_nil_iff.mpr (fun c hc => by
      simp only [(h c hc).2, Bool.false_eq_true, not_false_eq_true]), List.take_nil]
  rw [SchoolCondition.depthTogether, htabled, map_depth_place h, List.map_nil, List.append_nil,
    List.map_const', ← show (3 : Nat) = keyDepth from rfl, List.replicate_append_replicate,
    conjunctionDepth_replicate]
  split <;> omega

/-- Under strict matching each ticked level adds a level of nesting, and one more as long
    as there is room for its rows. -/
theorem strict_depth (h : s.isStrict = true) (joins : List Join) {here : List SchoolCondition}
    (hhere : here.length ≤ 4) (hplace : ∀ c ∈ here, IsPlaceCondition c) :
    SchoolCondition.depthTogether joins (here ++ s.strictConditions)
      = 5 + min here.length 1 + s.levels.selected.length + joins.length
        + min (63 - joins.length) s.levels.selected.length := by
  have hlength : s.strictConditions.length = s.levels.selected.length := List.length_map _
  -- The conditions themselves are the deep ones, and as tables they are one less deep.
  have hdeep : s.strictConditions.map SchoolCondition.depth
      = List.replicate s.levels.selected.length 6 := by
    rw [List.map_congr_left (fun c hc => (depth_of_mem_strictConditions h hc).1),
      List.map_const', hlength]
  have hrows : (here ++ s.strictConditions).filter SchoolCondition.isOnRows
      = s.strictConditions := by
    rw [List.filter_append, List.filter_eq_nil_iff.mpr (fun c hc => by
      simp only [(hplace c hc).2, Bool.false_eq_true, not_false_eq_true]), List.nil_append]
    exact List.filter_eq_self.mpr (fun c hc => (depth_of_mem_strictConditions h hc).2.2)
  have htabled : (SchoolCondition.tabled joins (here ++ s.strictConditions)).map
      SchoolCondition.innerDepth
      = List.replicate (min (63 - joins.length) s.levels.selected.length) 5 := by
    rw [SchoolCondition.tabled, hrows, List.map_congr_left (fun c hc =>
      (depth_of_mem_strictConditions h (List.mem_of_mem_take hc)).2.1), List.map_const',
      List.length_take, hlength]
    rfl
  have hpos : 0 < s.levels.selected.length :=
    List.length_pos_iff.mpr (isStrict_iff.mp h).2.1
  rw [SchoolCondition.depthTogether, List.map_append, map_depth_place hplace, hdeep, htabled,
    List.map_const', ← show (3 : Nat) = keyDepth from rfl,
    conjunctionDepth_blocks hhere hpos]

theorem length_schoolJoins_le (s : State) : s.schoolJoins.length ≤ 2 := by
  rw [schoolJoins]
  cases s.source with
  | general =>
      -- Each of the two menus makes one join at most.
      have hone : ∀ column values,
          (Condition.oneOf? column values : Option (Condition DetailColumn)).toList.length ≤ 1 :=
        fun _ _ => Option.length_toList_le
      have hlevel := hone .level s.levels.selected
      have hlanguage := hone .language s.languages.selected
      by_cases hstrict : s.isStrict = true
      · simp only [hstrict, if_true, List.length_nil, Nat.zero_le]
      · simp only [hstrict, if_false, Bool.false_eq_true, independentJoins, List.length_append,
          List.length_map]
        omega
  | bac => exact Nat.le_succ 1
  | evaluation => exact Nat.le_succ 1

/-- The conditions of a state are too deep only under strict matching, and then from a
    number of levels on that is lower by one where a place is asked for. What else is
    joined does not matter: it takes the room of rows that would be gone through. -/
theorem depth_fits_iff (s : State) (extra : List Join) {here : List SchoolCondition}
    (hextra : extra.length ≤ 1) (hhere : here.length ≤ 2)
    (hplace : ∀ c ∈ here, IsPlaceCondition c) :
    SchoolCondition.depthTogether (extra ++ s.schoolJoins) (here ++ s.schoolConditions)
        ≤ Query.deepest
      ↔ (s.source = .general → s.isStrict = true →
          min here.length 1 + s.levels.selected.length ≤ 932) := by
  rw [Query.deepest]
  by_cases hstrict : s.source = .general ∧ s.isStrict = true
  · rcases hstrict with ⟨hsource, hstrict⟩
    have hjoins : s.schoolJoins = [] := by rw [schoolJoins, hsource]; simp only [hstrict, if_true]
    have hconditions : s.schoolConditions = s.strictConditions := by
      rw [schoolConditions, hsource]
      simp only [hstrict, if_true]
    rw [hjoins, hconditions, List.append_nil, strict_depth hstrict extra (by omega) hplace]
    simp only [hsource, hstrict, true_imp_iff]
    omega
  · have hconditions : s.schoolConditions = [] := by
      rw [schoolConditions]
      cases hsource : s.source with
      | general => exact if_neg (fun h => hstrict ⟨hsource, h⟩)
      | bac => rfl
      | evaluation => rfl
    -- Without strict matching all conditions are on the place, far from the limit.
    have hdepth := place_depth (extra ++ s.schoolJoins) hplace
    have hjoins := length_schoolJoins_le s
    rw [List.length_append] at hdepth
    rw [hconditions, List.append_nil]
    refine iff_of_true (by omega) ?_
    intro hsource h
    exact absurd ⟨hsource, h⟩ hstrict

theorem length_values_regionQuery (s : State) :
    (Query.regions (s.regionQuery .schools)).values.length
      = s.county.toList.length + s.askedValues := by
  rw [← length_asked, Query.values, regionQuery]
  simp only [Statistic.overStudents, Bool.false_eq_true, if_false, List.flatMap_append,
    List.length_append, length_values_scope]
  omega

/-- The school map of a state may be asked for exactly if the ticked names fit, and under
    strict matching if there are not too many levels. -/
theorem regionQuery_fits_iff (s : State) :
    (Query.regions (s.regionQuery .schools)).Fits ↔ s.SchoolMapFits := by
  have hone : s.county.toList.length ≤ 1 := Option.length_toList_le
  have hdepth := depth_fits_iff s [] (Nat.zero_le 1)
    (by rw [List.length_map]; omega) (isPlaceCondition_scope s)
  rw [List.nil_append, List.length_map, Nat.min_eq_left hone] at hdepth
  rw [Query.Fits, Query.compiled_params, length_values_regionQuery, SchoolMapFits, Query.depth,
    regionQuery]
  exact and_congr Iff.rfl hdepth

/-- The values of the roster query: county, town and those that schools are asked for. -/
theorem length_values_rosterQuery {q : RosterQuery} (h : s.rosterQuery? = some q) :
    (Query.roster q).values.length = 2 + s.askedValues := by
  rcases Option.map_eq_some_iff.mp h with ⟨⟨code, name⟩, _, rfl⟩
  rw [← length_asked, Query.values]
  simp only [List.flatMap_cons, List.flatMap_append, List.flatMap_nil, List.length_append,
    List.length_cons, List.length_nil, Join.values, inCounty, inTown, SchoolCondition.values,
    Condition.values]
  omega

/-- The roster of a state may be asked for exactly if the ticked names fit, and under strict
    matching if there are not too many levels. -/
theorem rosterQuery_fits_iff {q : RosterQuery} (h : s.rosterQuery? = some q) :
    (Query.roster q).Fits ↔ s.RosterFits := by
  rw [Query.Fits, Query.compiled_params, length_values_rosterQuery h, RosterFits, Query.depth]
  refine and_congr Iff.rfl ?_
  rcases Option.map_eq_some_iff.mp h with ⟨⟨code, name⟩, _, rfl⟩
  have hplace : ∀ c ∈ [inCounty code, inTown name], IsPlaceCondition c := by
    intro c hc
    rcases List.mem_pair.mp hc with rfl | rfl
    · exact isPlaceCondition_inCounty code
    · exact isPlaceCondition_inTown name
  exact depth_fits_iff s [.totals] (Nat.le_refl 1) (Nat.le_refl 2) hplace

/-- A roster that may be asked for belongs to a map that may be asked for. -/
theorem schoolMapFits_of_rosterFits (h : s.RosterFits) : s.SchoolMapFits := by
  have hone : s.county.toList.length ≤ 1 := Option.length_toList_le
  rcases h with ⟨hvalues, hlevels⟩
  refine ⟨by omega, ?_⟩
  intro hsource hstrict
  have := hlevels hsource hstrict
  omega

end State

end Filter

end SchoolAtlas
