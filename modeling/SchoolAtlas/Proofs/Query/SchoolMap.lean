import Mathlib
import SchoolAtlas.Proofs.Filter.Extent
import SchoolAtlas.Proofs.Query.Regions
import SchoolAtlas.Proofs.Register.Reached

/-!
# School Maps

What the map of schools shows.

A map query is compiled from a filter state, and it is answered by visiting
schools, joining keys to them and counting identifiers in groups. What comes out
can be said without any of that: a region is shown exactly if some school of it is
admitted, and with the number of such schools. `schoolsAt` is that description.
It goes through the schools of the register once and asks of each whether it lies
in the county shown, whether its rows admit it and which region it belongs to.

The two agree because nothing on the way counts a school twice. Loading keeps the
identifiers of schools apart, joins of keys repeat nothing, and so the number of
different identifiers in a group is the number of schools in it.

They agree as long as the query is asked at all. A state can tick more names than a
query has room for, and its map is then refused, whatever the register holds: strict
matching has room for 932 levels on the map of the country, and `crowded` ticks one
more.

## Main definitions

* `Filter.State.schoolsAt`: The admitted schools of a region.
* `Filter.State.crowded`: A state with many ticked levels.

## Theorems

* `Filter.State.rows?_schoolMap`: The schools behind the map.
* `Filter.State.regionRows_schoolMap`: The map of schools under every data source.
* `Filter.State.regionRows_schoolMap_refused`: A map of schools that is too large.
* `Filter.State.schoolMap_general`: The map of schools by their enrolments.
* `Filter.State.schoolMap_not_total`: Not every map of schools is answered.
-/

namespace SchoolAtlas

namespace Filter

namespace State

variable {s : State} {r : Register}

/-- The schools of a region that a state lets through. -/
def schoolsAt (s : State) (r : Register) (key : String × Option String) : List School :=
  r.schools.filter (fun school => s.InScope school ∧ s.Admits r school ∧ s.place school = key)

theorem mem_schoolsAt_iff {key : String × Option String} {school : School} :
    school ∈ s.schoolsAt r key ↔
      school ∈ r.schools ∧ s.InScope school ∧ s.Admits r school ∧ s.place school = key := by
  rw [schoolsAt, List.mem_filter, decide_eq_true_eq]

theorem nodup_ids_schoolsAt (hr : r.Reached) (key : String × Option String) :
    ((s.schoolsAt r key).map School.id).Nodup :=
  hr.nodup_ids.sublist (List.filter_sublist.map School.id)

theorem holds_inCounty_iff {code : String} {school : School} :
    (inCounty code).holds r school = true ↔ school.county = code := by
  rw [inCounty, SchoolCondition.holds, beq_iff_eq, Condition.truth_equals_iff, School.text,
    Option.some.injEq]

/-- Asking for a town means having just that town. A school of no town never does. -/
theorem holds_inTown_iff {name : String} {school : School} :
    (inTown name).holds r school = true ↔ school.town = some name := by
  rw [inTown, SchoolCondition.holds, beq_iff_eq, Condition.truth_equals_iff, School.text]

theorem holds_scope_iff {school : School} :
    (s.county.toList.map inCounty).all (SchoolCondition.holds r school) = true ↔
      s.InScope school := by
  rw [InScope]
  cases s.county with
  | none => exact iff_of_true rfl (Or.inl rfl)
  | some code =>
      rw [Option.toList_some, List.map_singleton, List.all_cons, List.all_nil, Bool.and_true,
        holds_inCounty_iff, Option.some.injEq, eq_comm]
      -- With a county shown, scope is to lie in it.
      exact (or_iff_right (Option.some_ne_none code)).symm

theorem isKeys_of_mem_schoolJoins {j : Join} (hj : j ∈ s.schoolJoins) : j.isKeys = true := by
  rcases eq_keys_of_mem_schoolJoins hj with ⟨_, _, _, rfl⟩
  rfl

/-- As a state joins only keys, none of its joins gives a school several rows. -/
theorem repeats_schoolJoins {j : Join} (hj : j ∈ s.schoolJoins) : j.repeats = false := by
  have hkeys := isKeys_of_mem_schoolJoins hj
  cases j with
  | keys label query => rfl
  | rows label columns query => exact Bool.noConfusion hkeys
  | totals => rfl

theorem region_regionQuery (statistic : Statistic) (row : SchoolRow) :
    RegionQuery.region (s.regionQuery statistic).grouping row = s.place row.school := by
  unfold RegionQuery.region regionQuery place
  cases s.county with
  | none => rfl
  | some code => rfl

/-- The map of schools is taken over the visited schools in scope that are admitted,
    each once. -/
theorem rows?_schoolMap (s : State) (r : Register) :
    ∃ rows, (s.regionQuery .schools).rows? r = some rows ∧
      rows.map SchoolRow.school
        = r.visits.filter (fun school => s.InScope school ∧ s.Admits r school) := by
  -- No totals are joined, so the rows are there.
  have hsome : (r.rows? (s.county.toList.map inCounty ++ s.schoolConditions)
      s.schoolJoins).isSome :=
    Register.rows?_isSome (fun h => Bool.noConfusion (isKeys_of_mem_schoolJoins h))
  rcases Option.isSome_iff_exists.mp hsome with ⟨rows, hrows⟩
  refine ⟨rows, hrows, ?_⟩
  rw [Register.rows?_school (fun _ => repeats_schoolJoins) hrows]
  refine List.filter_congr (fun school _ => ?_)
  rw [List.all_append, Bool.and_assoc, Bool.eq_iff_iff, Bool.and_eq_true, holds_scope_iff,
    decide_eq_true_eq]
  exact and_congr_right (fun _ => keeps_iff_admits)

/-- The schools of a group of rows are the admitted schools of its region. -/
theorem group_perm_schoolsAt {rows : List SchoolRow}
    (h : rows.map SchoolRow.school
      = r.visits.filter (fun school => s.InScope school ∧ s.Admits r school))
    (key : String × Option String) :
    (((s.regionQuery .schools).group rows key).map SchoolRow.school).Perm (s.schoolsAt r key) := by
  -- A region of rows is a place of their schools.
  have hgroup : ((s.regionQuery .schools).group rows key).map SchoolRow.school
      = (rows.map SchoolRow.school).filter (fun school => s.place school = key) := by
    rw [RegionQuery.group, List.filter_map]
    refine congrArg (List.map SchoolRow.school) (List.filter_congr (fun row _ => ?_))
    rw [region_regionQuery]
    rfl
  have hall : (fun school => decide (s.place school = key)
        && decide (s.InScope school ∧ s.Admits r school))
      = fun school => decide (s.InScope school ∧ s.Admits r school ∧ s.place school = key) := by
    funext school
    rw [← Bool.decide_and, decide_eq_decide, and_comm, and_assoc]
  rw [hgroup, h, List.filter_filter, hall]
  exact r.visits_perm.filter _

/-- The map of schools, if it can be asked for, shows the regions that have an admitted
    school, each once and with the number of its admitted schools. -/
theorem regionRows_schoolMap (hids : (r.schools.map School.id).Nodup) (hfits : s.SchoolMapFits) :
    ∃ rows, r.regionRows (.regions (s.regionQuery .schools)) = .ok rows ∧
      (rows.map RegionRow.place).Nodup ∧
      ∀ row, row ∈ rows ↔ s.schoolsAt r row.place ≠ [] ∧
        row.value = .count (s.schoolsAt r row.place).length := by
  rcases rows?_schoolMap s r with ⟨rows, hrows, hschools⟩
  have hmeasure : (s.regionQuery .schools).measure = .distinctSchools := rfl
  have hanswer := RegionQuery.answer?_isSome hrows
    (by rw [hmeasure]; exact Measure.noConfusion)
  rcases Option.isSome_iff_exists.mp hanswer with ⟨answer, hanswer⟩
  have hdistinct : (rows.map (fun row => row.school.id)).Nodup := by
    -- Loading keeps identifiers apart, and no join repeats a school.
    have hvisited : (r.visits.map School.id).Nodup :=
      (r.visits_perm.map School.id).nodup_iff.mpr hids
    have hrowids : rows.map (fun row => row.school.id)
        = (rows.map SchoolRow.school).map School.id := by
      rw [List.map_map]
      rfl
    rw [hrowids, hschools]
    exact hvisited.sublist (List.filter_sublist.map School.id)
  refine ⟨answer, ?_, RegionQuery.nodup_place hrows hanswer, fun row => ?_⟩
  · rw [Register.regionRows, if_pos ((regionQuery_fits_iff s).mpr hfits), hanswer]
  · have hperm := group_perm_schoolsAt hschools row.place
    rw [RegionQuery.mem_answer?_schools hrows hanswer hmeasure hdistinct]
    rw [← hperm.length_eq, List.length_map, ne_eq, ne_eq, ← List.length_eq_zero_iff,
      ← List.length_eq_zero_iff, ← hperm.length_eq, List.length_map]

/-- A map of schools with more ticked names than a query has room for is refused. -/
theorem regionRows_schoolMap_refused (r : Register) (hfits : ¬s.SchoolMapFits) :
    r.regionRows (.regions (s.regionQuery .schools)) = .error .tooLarge := by
  rw [Register.regionRows, if_neg (fun h => hfits ((regionQuery_fits_iff s).mp h))]

/-- The map of schools by their enrolments. It shows exactly the regions that have a
    matching school in scope, each once and with the number of different matching schools,
    unless the state ticks more names than a query has room for: then it is refused. -/
theorem schoolMap_general (hr : r.Reached) (hs : s.source = .general) :
    (s.SchoolMapFits → ∃ rows, r.regionRows (.regions (s.regionQuery .schools)) = .ok rows ∧
      (rows.map RegionRow.place).Nodup ∧
      ∀ row, row ∈ rows ↔ s.schoolsAt r row.place ≠ [] ∧
        row.value = .count (s.schoolsAt r row.place).length) ∧
    (¬s.SchoolMapFits → r.regionRows (.regions (s.regionQuery .schools)) = .error .tooLarge) ∧
    ∀ key, ((s.schoolsAt r key).map School.id).Nodup ∧
      ∀ school, school ∈ s.schoolsAt r key ↔
        school ∈ r.schools ∧ s.InScope school ∧ s.Matches r school ∧ s.place school = key := by
  refine ⟨regionRows_schoolMap hr.nodup_ids, regionRows_schoolMap_refused r, fun key => ?_⟩
  refine ⟨nodup_ids_schoolsAt hr key, fun school => ?_⟩
  rw [mem_schoolsAt_iff, Admits, hs]
  rfl

/-- The files of three schools. One of them has no town, and another no enrolments. -/
def threeSchools : List (Table × String) :=
  [(.schools, "id,judet,localitate,nume\n1,CJ,Turda,A\n2,CJ,,B\n3,AB,Blaj,C\n"),
    (.enrolments, "cod_siiir_unitate,nivel,limba_de_predare,numar_elevi\n"
      ++ "1,Primar,română,7\n2,Liceal,maghiară,5\n")]

/-- The register of these files. -/
def threeSchoolsRegister : Register where
  schools :=
    [⟨"1", "CJ", some "Turda", "A", none, none, none, none⟩,
      ⟨"2", "CJ", none, "B", none, none, none, none⟩,
      ⟨"3", "AB", some "Blaj", "C", none, none, none, none⟩]
  enrolments := [⟨"1", "Primar", some "română", 7⟩, ⟨"2", "Liceal", some "maghiară", 5⟩]
  bacResults := []
  evaluationResults := []

theorem threeSchoolsRegister_reached : threeSchoolsRegister.Reached :=
  Register.reached_iff.mpr ⟨threeSchools, by cbv⟩

/-- At the start, one county shows its two schools, and the one whose school has no
    enrolments is not shown. -/
theorem schoolMap_threeSchools : ∃ rows,
    threeSchoolsRegister.regionRows (.regions (initial.regionQuery .schools)) = .ok rows ∧
      ⟨"CJ", none, .count 2⟩ ∈ rows ∧ ∀ value, ⟨"AB", none, value⟩ ∉ rows := by
  rcases (schoolMap_general threeSchoolsRegister_reached (s := initial) rfl).1 (by decide) with
    ⟨rows, hrows, _, hmem⟩
  refine ⟨rows, hrows, (hmem _).mpr ⟨by decide, rfl⟩, fun value hrow => ?_⟩
  have hnone : initial.schoolsAt threeSchoolsRegister ("AB", none) = [] := by decide
  exact ((hmem _).mp hrow).1 hnone

/-- A name of one character. -/
def ideograph (i : Nat) : String := String.singleton (Char.ofNat (0x4E00 + i))

/-- Names of one character are ordered like the characters. -/
theorem ideograph_lt {i j : Nat} (h : i < j) (hj : j < 0x5000) : ideograph i < ideograph j := by
  have hcode : ∀ k, k < 0x5000 → (Char.ofNat (0x4E00 + k)).val.toNat = 0x4E00 + k := by
    intro k hk
    -- Such code points lie below the surrogates.
    have hvalid : (0x4E00 + k).isValidChar := Or.inl (by omega)
    rw [Char.ofNat, dif_pos hvalid]
    rfl
  rw [ideograph, ideograph, String.lt_iff, String.toList_singleton, String.toList_singleton,
    List.cons_lt_cons_iff]
  refine Or.inl ?_
  rw [Char.lt_def, UInt32.lt_iff_toNat_lt, hcode i (by omega), hcode j hj]
  omega

/-- A menu of many levels, all of them ticked. -/
def manyLevels (n : Nat) (h : n ≤ 0x5000) : Selection where
  ticks :=
    { entries := (List.range n).map (fun i => (ideograph i, true))
      ordered := List.pairwise_map.mpr (List.pairwise_lt_range.imp_of_mem (fun _ hj hlt =>
        ideograph_lt hlt (Nat.lt_of_lt_of_le (List.mem_range.mp hj) h))) }

theorem length_selected_manyLevels {n : Nat} (h : n ≤ 0x5000) :
    (manyLevels n h).selected.length = n := by
  rw [Selection.selected, manyLevels, List.length_map, List.filter_map, List.length_map]
  have hall : (List.range n).filter (Prod.snd ∘ fun i => (ideograph i, true)) = List.range n :=
    List.filter_eq_self.mpr (fun _ _ => rfl)
  rw [hall, List.length_range]

/-- The state at the start, with many levels and strict matching. -/
def crowded (n : Nat) (h : n ≤ 0x5000) : State :=
  { initial with levels := manyLevels n h, strictLevelLanguage := true }

theorem isStrict_crowded {n : Nat} (h : n ≤ 0x5000) (hn : 0 < n) :
    (crowded n h).isStrict = true := by
  have hlength : (crowded n h).levels.selected.length = n := length_selected_manyLevels h
  have hlanguages : initial.languages.selected ≠ [] := by decide
  refine isStrict_iff.mpr ⟨rfl, ?_, hlanguages⟩
  rw [← List.length_pos_iff, hlength]
  exact hn

/-- Strict matching has room for 932 levels on the map of the country. -/
theorem not_schoolMapFits_crowded {n : Nat} (h : n ≤ 0x5000) (hn : 932 < n) :
    ¬(crowded n h).SchoolMapFits := by
  have hlength : (crowded n h).levels.selected.length = n := length_selected_manyLevels h
  intro hfits
  -- Every ticked level nests one deeper, which is what there is no room for.
  have hlevels := hfits.2 rfl (isStrict_crowded h (by omega))
  rw [hlength] at hlevels
  omega

/-- So the map of schools is not always there: with one level more it is refused. -/
theorem schoolMap_not_total : ¬∀ (r : Register) (s : State), r.Reached → s.source = .general →
    ∃ rows, r.regionRows (.regions (s.regionQuery .schools)) = .ok rows := by
  intro hall
  rcases hall .empty (crowded 933 (by decide)) .empty rfl with ⟨rows, hrows⟩
  rw [regionRows_schoolMap_refused _ (not_schoolMapFits_crowded (by decide) (by decide))] at hrows
  exact absurd hrows (by simp only [reduceCtorEq, not_false_eq_true])

end State

end Filter

end SchoolAtlas
