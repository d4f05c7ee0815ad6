import SchoolAtlas.Proofs.Query.Rows

/-!
# Answers of Map Queries

What the answer to a map query says about the rows it was taken over.

An answer is read in one way only: a region, and the value it shows. So an answer
is characterised by the rows it has. `mem_answer?_iff` does that for every
measure: a row of the answer stands for a region that occurs among the rows of
the query, and its value is the measure of the rows of that region. Regions do not
repeat, so nothing else is left to be said about it apart from the order.

Counting schools never fails and never leaves a region out. When the rows belong
to different schools, which they do unless a join repeats schools, the number of
different schools in a region is just the number of its rows.

## Main definitions

* `RegionRow.place`: The region that a row of an answer stands for.
* `RegionQuery.group`: The rows of one region.

## Theorems

* `RegionQuery.answer?_eq_some_iff`: What an answer is made of.
* `RegionQuery.mem_answer?_iff`: The rows of an answer.
* `RegionQuery.nodup_place`: No region occurs twice in an answer.
* `RegionQuery.answer?_isSome`: Only sums of head counts can fail.
* `RegionQuery.mem_answer?_schools`: The rows of an answer that counts schools.
* `RegionQuery.answer?_congr`: An answer depends on a register as far as the query
  looks.
-/

namespace SchoolAtlas

/-- The region that a row of an answer stands for. -/
def RegionRow.place (row : RegionRow) : String × Option String := (row.county, row.town)

namespace RegionQuery

variable {q : RegionQuery} {r : Register} {rows : List SchoolRow} {answer : List RegionRow}

/-- The rows of one region. -/
def group (q : RegionQuery) (rows : List SchoolRow) (key : String × Option String) :
    List SchoolRow :=
  rows.filter (fun row => region q.grouping row = key)

theorem mem_regions_iff {grouping : Grouping} {key : String × Option String} :
    key ∈ regions grouping rows ↔ key ∈ rows.map (region grouping) := by
  rw [regions, List.mem_mergeSort, List.mem_eraseDups]

theorem nodup_regions (grouping : Grouping) (rows : List SchoolRow) :
    (regions grouping rows).Nodup :=
  (List.mergeSort_perm _ _).nodup_iff.mpr (Lists.nodup_eraseDups _)

theorem mem_regions_iff_group_ne_nil {key : String × Option String} :
    key ∈ regions q.grouping rows ↔ q.group rows key ≠ [] := by
  rw [mem_regions_iff, List.mem_map]
  constructor
  · intro hex
    rcases hex with ⟨row, hrow, hkey⟩
    exact List.ne_nil_of_mem (List.mem_filter.mpr ⟨hrow, decide_eq_true hkey⟩)
  · intro hne
    rcases List.exists_mem_of_ne_nil _ hne with ⟨row, hrow⟩
    rcases List.mem_filter.mp hrow with ⟨hin, hkey⟩
    exact ⟨row, hin, of_decide_eq_true hkey⟩

/-- An answer goes through the regions: the measure of each has to be computed, and
    the answer shows those that are not empty. -/
theorem answer?_eq_some_iff (h : q.rows? r = some rows) :
    q.answer? r = some answer ↔
      (∀ key ∈ regions q.grouping rows, (q.measure.value? (q.group rows key)).isSome) ∧
        answer = (regions q.grouping rows).filterMap (fun key =>
          (q.measure.value? (q.group rows key)).join.map (RegionRow.mk key.1 key.2)) := by
  simp only [answer?, h, Option.bind_some, Option.map_eq_some_iff, Lists.mapM_eq_some_iff,
    Option.isSome_map]
  -- A region shows nothing if its measure is empty.
  have hshown : ∀ value : Option (Option Amount), ∀ key : String × Option String,
      (value.map (fun amount? => amount?.map (RegionRow.mk key.1 key.2))).bind id
        = value.join.map (RegionRow.mk key.1 key.2) := by
    intro value key
    rcases value with _ | _ | amount <;> rfl
  constructor
  · intro hex
    rcases hex with ⟨_, ⟨hall, rfl⟩, rfl⟩
    refine ⟨hall, ?_⟩
    rw [List.filterMap_filterMap]
    exact List.filterMap_congr (fun key _ => hshown _ key)
  · intro hex
    rcases hex with ⟨hall, rfl⟩
    refine ⟨_, ⟨hall, rfl⟩, ?_⟩
    rw [List.filterMap_filterMap]
    exact List.filterMap_congr (fun key _ => hshown _ key)

/-- The rows of an answer: each stands for a region of the rows, and shows the measure
    of that region. -/
theorem mem_answer?_iff (h : q.rows? r = some rows) (ha : q.answer? r = some answer)
    (row : RegionRow) :
    row ∈ answer ↔ q.group rows row.place ≠ [] ∧
      q.measure.value? (q.group rows row.place) = some (some row.value) := by
  rw [((answer?_eq_some_iff h).mp ha).2, List.mem_filterMap]
  constructor
  · intro hex
    rcases hex with ⟨key, hkey, hrow⟩
    rcases Option.map_eq_some_iff.mp hrow with ⟨amount, hamount, rfl⟩
    exact ⟨mem_regions_iff_group_ne_nil.mp hkey, Option.join_eq_some_iff.mp hamount⟩
  · intro hex
    rcases hex with ⟨hne, hvalue⟩
    refine ⟨row.place, mem_regions_iff_group_ne_nil.mpr hne, ?_⟩
    rw [hvalue]
    rfl

theorem nodup_place (h : q.rows? r = some rows) (ha : q.answer? r = some answer) :
    (answer.map RegionRow.place).Nodup := by
  rw [((answer?_eq_some_iff h).mp ha).2]
  refine List.pairwise_map.mpr (List.pairwise_filterMap.mpr ?_)
  refine (nodup_regions q.grouping rows).imp (fun hne row hrow row' hrow' hplace => hne ?_)
  rcases Option.map_eq_some_iff.mp hrow with ⟨_, _, rfl⟩
  rcases Option.map_eq_some_iff.mp hrow' with ⟨_, _, rfl⟩
  -- Two rows of one place come from one key.
  exact hplace

theorem answer?_isSome (h : q.rows? r = some rows) (hm : q.measure ≠ .studentSum) :
    (q.answer? r).isSome := by
  have hvalue : ∀ group : List SchoolRow, (q.measure.value? group).isSome := by
    intro group
    cases hq : q.measure with
    | studentSum => exact absurd hq hm
    | distinctSchools => rfl
    | rowCount => rfl
    | gradeMean => rfl
  exact Option.isSome_iff_exists.mpr
    ⟨_, (answer?_eq_some_iff h).mpr ⟨fun key _ => hvalue _, rfl⟩⟩

/-- An answer that counts schools shows every region of the rows. If the rows belong
    to different schools, the value is the number of rows. -/
theorem mem_answer?_schools (h : q.rows? r = some rows) (ha : q.answer? r = some answer)
    (hm : q.measure = .distinctSchools)
    (hdistinct : (rows.map (fun row => row.school.id)).Nodup) (row : RegionRow) :
    row ∈ answer ↔ q.group rows row.place ≠ [] ∧
      row.value = .count (q.group rows row.place).length := by
  -- Rows of one region are some of all rows, so their schools differ too.
  have hids : ((q.group rows row.place).map (fun row => row.school.id)).Nodup :=
    hdistinct.sublist (List.filter_sublist.map _)
  rw [mem_answer?_iff h ha, hm, Measure.value?, Lists.eraseDups_of_nodup hids, List.length_map]
  simp only [Option.some.injEq, eq_comm]

/-- The rows that a map goes through before the schools are rows that it joins. -/
theorem exists_mem_joins_of_leading? {query : DetailQuery} (h : q.leading? = some query) :
    ∃ label columns, Join.rows label columns query ∈ q.joins := by
  unfold leading? at h
  split at h
  · next label columns query' _ _ hjoins =>
    split at h
    · rw [Option.some.injEq] at h
      rw [hjoins, h]
      exact ⟨label, columns, List.mem_singleton_self _⟩
    · exact absurd h (by simp only [reduceCtorEq, not_false_eq_true])
  · exact absurd h (by simp only [reduceCtorEq, not_false_eq_true])

/-- The answer of two registers of the same schools is the same if they look alike to the
    joins and conditions of the query. -/
theorem answer?_congr {r' : Register} (hs : r.schools = r'.schools)
    (hc : ∀ c ∈ q.conditions, ∀ s, SchoolCondition.holds r s c = SchoolCondition.holds r' s c)
    (hj : ∀ j ∈ q.joins, j.LooksAlike r r') : q.answer? r = q.answer? r' := by
  have hrows : q.rows? r = q.rows? r' := by
    unfold rows?
    cases hleading : q.leading? with
    | none => exact Register.rows?_congr hs hc hj
    | some query =>
        -- A map that goes through the rows of a join looks no further than that join.
        rcases exists_mem_joins_of_leading? hleading with ⟨label, columns, hin⟩
        have hdetails : query.details r = query.details r' := hj _ hin
        simp only [DetailQuery.rows, hdetails, hs]
  rw [answer?, answer?, hrows]

end RegionQuery

end SchoolAtlas
