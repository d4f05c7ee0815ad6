import SchoolAtlas.Proofs.Lists
import SchoolAtlas.Query.Answer

/-!
# The Schools Behind Rows

Which schools the rows of a query belong to.

`Register.rows?` says how rows come about: schools are visited in an order, some
conditions are looked at before the joins and some after them, and the joins are
carried out in an order of their own. None of that matters for what is asked most
often, which schools are left. A join of keys keeps a school or drops it and
repeats nothing, because all keys that belong to one school are the same key.
Totals are written into a row and keep every school. So as long as no join
repeats schools, the rows belong to the visited schools that pass everything, each
once, and it does not matter what was looked at when.

The one thing that can go wrong is a total that does not fit a word. If the
totals can be had, the rows can.

## Main definitions

* `DetailQuery.finds`: A school has a row that meets the conditions.
* `Join.keeps`: A join leaves a school in.
* `Join.repeats`: A join may give a school several rows.
* `Join.LooksAlike`: Two registers hold the same for a join.

## Theorems

* `DetailQuery.finds_iff`: What it means to have such a row.
* `Join.extend?_keys`: A join of keys drops rows and changes nothing else.
* `Join.foldlM_extend?_school`: Joins that repeat nothing filter the schools.
* `Register.rows?_school`: The schools of the rows of a query.
* `Register.holds_of_mem_rows?`: The schools of rows meet all conditions, whatever is joined.
* `Register.rows?_isSome`: When there are rows at all.
* `Register.rows?_congr`: Rows depend on a register as far as the query looks.
-/

namespace SchoolAtlas

namespace DetailQuery

/-- A school has a row that meets the conditions. -/
def finds (q : DetailQuery) (r : Register) (s : School) : Bool :=
  !(detailsOf (q.details r) s.id).isEmpty

theorem finds_iff {q : DetailQuery} {r : Register} {s : School} :
    q.finds r s = true ↔
      ∃ d ∈ r.details q.table, d.school = s.id ∧ Condition.allHold d.text q.conditions = true := by
  rw [finds, Bool.not_eq_true', List.isEmpty_eq_false_iff_exists_mem]
  -- A row is filtered by the conditions first, and by its school after that.
  simp only [detailsOf, details, List.mem_filter, decide_eq_true_eq]
  constructor
  · intro hex
    rcases hex with ⟨d, ⟨hd, hmeets⟩, hschool⟩
    exact ⟨d, hd, hschool, hmeets⟩
  · intro hex
    rcases hex with ⟨d, hd, hschool, hmeets⟩
    exact ⟨d, ⟨hd, hmeets⟩, hschool⟩

end DetailQuery

namespace Join

/-- A join leaves a school in: it has one of the rows, if rows are joined. -/
def keeps (r : Register) (s : School) : Join → Bool
  | keys _ query | rows _ _ query => query.finds r s
  | totals => true

/-- A join may give a school several rows. -/
def repeats : Join → Bool
  | keys _ _ | totals => false
  | rows _ _ _ => true

/-- Two registers hold the same for a join: the rows that it joins, or the totals. -/
def LooksAlike (r r' : Register) : Join → Prop
  | keys _ query | rows _ _ query => query.details r = query.details r'
  | totals => r.totals? = r'.totals?

/-- A join sees no more of a register than that. -/
theorem extend?_congr {r r' : Register} {j : Join} (h : j.LooksAlike r r')
    (rows : List SchoolRow) : extend? r rows j = extend? r' rows j := by
  -- Every join looks at one thing in the register, and that is alike.
  cases j with
  | keys label query =>
      rw [LooksAlike] at h
      simp only [extend?, h]
  | rows label columns query =>
      rw [LooksAlike] at h
      simp only [extend?, h]
  | totals =>
      rw [LooksAlike] at h
      simp only [extend?, h]

/-- A join of keys drops rows and changes nothing else. -/
theorem extend?_keys (r : Register) (rows : List SchoolRow) (label : String)
    (query : DetailQuery) :
    extend? r rows (.keys label query) = some (rows.filter (fun row => query.finds r row.school))
      := by
  have hrow : ∀ row : SchoolRow,
      ((DetailQuery.detailsOf (query.details r) row.school.id).map Detail.school).eraseDups.map
          (fun _ => row)
        = if query.finds r row.school then [row] else [] := by
    intro row
    -- All keys that belong to one school are the same key, and a repeated key is used once.
    have hsame : (DetailQuery.detailsOf (query.details r) row.school.id).map Detail.school
        = (DetailQuery.detailsOf (query.details r) row.school.id).map
          (fun _ => row.school.id) := by
      refine List.map_congr_left (fun d hd => ?_)
      exact of_decide_eq_true (List.mem_filter.mp hd).2
    rw [hsame, Lists.eraseDups_map_const, DetailQuery.finds]
    cases (DetailQuery.detailsOf (query.details r) row.school.id).isEmpty <;> rfl
  have hfilter : ∀ rest : List SchoolRow,
      rest.flatMap (fun row => if query.finds r row.school then [row] else [])
        = rest.filter (fun row => query.finds r row.school) := by
    intro rest
    induction rest with
    | nil => rfl
    | cons row rest ih =>
        rw [List.flatMap_cons, ih, List.filter_cons]
        split <;> rfl
  simp only [extend?, hrow, hfilter]

/-- A join that repeats nothing filters the schools of the rows. -/
theorem extend?_school {r : Register} {rows rows' : List SchoolRow} {j : Join}
    (hj : j.repeats = false) (h : extend? r rows j = some rows') :
    rows'.map SchoolRow.school = (rows.map SchoolRow.school).filter (fun s => j.keeps r s) := by
  cases j with
  | keys label query =>
      rw [extend?_keys, Option.some.injEq] at h
      rw [← h, List.filter_map]
      rfl
  | rows label columns query => exact absurd hj (by simp only [repeats, reduceCtorEq,
      not_false_eq_true])
  | totals =>
      simp only [keeps, List.filter_true]
      rw [extend?] at h
      split at h
      -- No totals are asked for where there is nothing to write them into.
      · next hempty =>
        rw [Option.some.injEq] at h
        rw [← h, List.isEmpty_iff.mp hempty]
      · rcases Option.map_eq_some_iff.mp h with ⟨totals, _, rfl⟩
        rw [List.map_map]
        rfl

theorem foldlM_extend?_school {r : Register} {joins : List Join} {rows rows' : List SchoolRow}
    (hj : ∀ j ∈ joins, j.repeats = false) (h : joins.foldlM (extend? r) rows = some rows') :
    rows'.map SchoolRow.school
      = (rows.map SchoolRow.school).filter (fun s => joins.all (fun j => j.keeps r s)) := by
  induction joins generalizing rows with
  | nil =>
      rw [List.foldlM_nil, Option.pure_def, Option.some.injEq] at h
      simp only [h, List.all_nil, List.filter_true]
  | cons j rest ih =>
      rw [List.foldlM_cons, Option.bind_eq_bind, Option.bind_eq_some_iff] at h
      -- A school that the first join drops does not come back.
      rcases h with ⟨mid, hmid, hrest⟩
      rw [ih (fun k hk => hj k (List.mem_cons_of_mem j hk)) hrest,
        extend?_school (hj j List.mem_cons_self) hmid, List.filter_filter]
      simp only [List.all_cons, Bool.and_comm]

/-- Whatever is joined, a row belongs to a school that was there before. -/
theorem mem_schools_of_extend? {r : Register} {rows rows' : List SchoolRow} {j : Join}
    (h : extend? r rows j = some rows') {row : SchoolRow} (hrow : row ∈ rows') :
    row.school ∈ rows.map SchoolRow.school := by
  -- Only rows are repeated by a join. The other two filter what is there.
  cases j with
  | rows label columns query =>
      rw [extend?, Option.some.injEq] at h
      subst h
      rcases List.mem_flatMap.mp hrow with ⟨before, hbefore, hrow⟩
      rcases List.mem_map.mp hrow with ⟨_, _, rfl⟩
      exact List.mem_map.mpr ⟨before, hbefore, rfl⟩
  | keys label query =>
      have hschool : row.school ∈ rows'.map SchoolRow.school := List.mem_map_of_mem hrow
      rw [extend?_school rfl h] at hschool
      exact List.mem_of_mem_filter hschool
  | totals =>
      have hschool : row.school ∈ rows'.map SchoolRow.school := List.mem_map_of_mem hrow
      rw [extend?_school rfl h] at hschool
      exact List.mem_of_mem_filter hschool

theorem mem_schools_of_foldlM_extend? {r : Register} {joins : List Join}
    {rows rows' : List SchoolRow} (h : joins.foldlM (extend? r) rows = some rows')
    {row : SchoolRow} (hrow : row ∈ rows') : row.school ∈ rows.map SchoolRow.school := by
  induction joins generalizing rows with
  | nil =>
      rw [List.foldlM_nil, Option.pure_def, Option.some.injEq] at h
      exact h ▸ List.mem_map_of_mem hrow
  | cons j rest ih =>
      rw [List.foldlM_cons, Option.bind_eq_bind, Option.bind_eq_some_iff] at h
      -- The last row comes from one after the first join, and that one from one before it.
      rcases h with ⟨mid, hmid, hrest⟩
      rcases List.mem_map.mp (ih hrest) with ⟨before, hbefore, hschool⟩
      exact hschool ▸ mem_schools_of_extend? hmid hbefore

/-- Joins that do not ask for totals always have rows, and so do others if the
    totals can be had. -/
theorem foldlM_extend?_isSome {r : Register} {joins : List Join}
    (ht : .totals ∈ joins → r.totals?.isSome) (rows : List SchoolRow) :
    (joins.foldlM (extend? r) rows).isSome := by
  induction joins generalizing rows with
  | nil => rfl
  | cons j rest ih =>
      -- Only the totals can be missing.
      have hstep : (extend? r rows j).isSome := by
        cases j with
        | keys label query => rfl
        | rows label columns query => rfl
        | totals =>
            rw [extend?]
            split
            · rfl
            · rw [Option.isSome_map]
              exact ht List.mem_cons_self
      rcases Option.isSome_iff_exists.mp hstep with ⟨mid, hmid⟩
      rw [List.foldlM_cons, hmid]
      exact ih (fun h => ht (List.mem_cons_of_mem j h)) mid

end Join

namespace Register

theorem visits_perm (r : Register) : r.visits.Perm r.schools := List.mergeSort_perm _ _

variable {r r' : Register} {conditions : List SchoolCondition} {joins : List Join}

/-- The rows of a query belong to the visited schools that meet all conditions and
    are left in by all joins, each once. -/
theorem rows?_school {rows : List SchoolRow} (hj : ∀ j ∈ joins, j.repeats = false)
    (h : r.rows? conditions joins = some rows) :
    rows.map SchoolRow.school = r.visits.filter (fun s =>
      conditions.all (SchoolCondition.holds r s) && joins.all (fun j => j.keeps r s)) := by
  rw [rows?, Option.map_eq_some_iff] at h
  rcases h with ⟨joined, hjoined, rfl⟩
  have horder := Join.inOrder_perm joins
  have hschools := Join.foldlM_extend?_school
    (fun j hjin => hj j (horder.mem_iff.mp hjin)) hjoined
  -- Every visited school starts with one row.
  have hstart : ∀ schools : List School,
      (schools.map (fun s => (⟨s, none, none⟩ : SchoolRow))).map SchoolRow.school = schools := by
    intro schools
    rw [List.map_map]
    exact List.map_id schools
  -- The conditions looked at first and last are together all of them.
  have hall : ∀ s, ((SchoolCondition.immediate joins conditions).all (SchoolCondition.holds r s)
      && (SchoolCondition.tabled joins conditions).all (SchoolCondition.holds r s))
      = conditions.all (SchoolCondition.holds r s) := by
    intro s
    rw [← List.all_append]
    exact (SchoolCondition.immediate_append_tabled_perm joins conditions).all_eq
  have hlast : (joined.filter (fun row =>
        (SchoolCondition.tabled joins conditions).all
          (SchoolCondition.holds r row.school))).map SchoolRow.school
      = (joined.map SchoolRow.school).filter (fun s =>
        (SchoolCondition.tabled joins conditions).all (SchoolCondition.holds r s)) := by
    rw [List.filter_map]
    rfl
  rw [hlast, hschools, hstart, List.filter_filter, List.filter_filter]
  refine List.filter_congr (fun s _ => ?_)
  rw [← hall s, horder.all_eq]
  ac_rfl

/-- Whatever is joined, a row belongs to a school that meets all conditions. -/
theorem holds_of_mem_rows? {rows : List SchoolRow} (h : r.rows? conditions joins = some rows)
    {row : SchoolRow} (hrow : row ∈ rows) :
    ∀ c ∈ conditions, SchoolCondition.holds r row.school c = true := by
  rw [rows?, Option.map_eq_some_iff] at h
  rcases h with ⟨joined, hjoined, rfl⟩
  rcases List.mem_filter.mp hrow with ⟨hin, hlast⟩
  rcases List.mem_map.mp (Join.mem_schools_of_foldlM_extend? hjoined hin) with
    ⟨start, hstart, hschool⟩
  rcases List.mem_map.mp hstart with ⟨school, hvisited, rfl⟩
  rw [← hschool] at hlast ⊢
  have hfirst := (List.mem_filter.mp hvisited).2
  intro c hc
  -- A condition was looked at before the joins or after them.
  have hparts := SchoolCondition.immediate_append_tabled_perm joins conditions
  rcases List.mem_append.mp (hparts.mem_iff.mpr hc) with hbefore | hafter
  · exact List.all_eq_true.mp hfirst c hbefore
  · exact List.all_eq_true.mp hlast c hafter

theorem rows?_isSome (ht : .totals ∈ joins → r.totals?.isSome) :
    (r.rows? conditions joins).isSome := by
  rw [rows?, Option.isSome_map]
  exact Join.foldlM_extend?_isSome
    (fun h => ht ((Join.inOrder_perm joins).mem_iff.mp h)) _

/-- Rows depend on a register only as far as the query looks: two registers of the same
    schools that look alike to its joins and conditions give the same rows. -/
theorem rows?_congr (hs : r.schools = r'.schools)
    (hc : ∀ c ∈ conditions, ∀ s, SchoolCondition.holds r s c = SchoolCondition.holds r' s c)
    (hj : ∀ j ∈ joins, j.LooksAlike r r') :
    r.rows? conditions joins = r'.rows? conditions joins := by
  have hv : r.visits = r'.visits := by rw [visits, visits, hs]
  have hall : ∀ part : List SchoolCondition, part ⊆ conditions → ∀ s,
      part.all (SchoolCondition.holds r s) = part.all (SchoolCondition.holds r' s) := by
    intro part hpart s
    rw [Bool.eq_iff_iff, List.all_eq_true, List.all_eq_true]
    exact forall₂_congr (fun c hcin => by rw [hc c (hpart hcin) s])
  have hparts := (SchoolCondition.immediate_append_tabled_perm joins conditions).subset
  have hfirst := hall _ (List.Subset.trans (List.subset_append_left _ _) hparts)
  have hlast := hall _ (List.Subset.trans (List.subset_append_right _ _) hparts)
  -- The joins are carried out in an order of their own, so any part of them is looked at.
  have hfold : ∀ part : List Join, part ⊆ joins → ∀ rows,
      part.foldlM (Join.extend? r) rows = part.foldlM (Join.extend? r') rows := by
    intro part
    induction part with
    | nil => exact fun _ _ => rfl
    | cons j rest ih =>
        intro hpart rows
        rw [List.foldlM_cons, List.foldlM_cons,
          Join.extend?_congr (hj j (hpart List.mem_cons_self)) rows]
        exact congrArg _ (funext (ih (fun k hk => hpart (List.mem_cons_of_mem j hk))))
  simp only [rows?, hv, hfirst, hlast, hfold _ (Join.inOrder_perm joins).subset]

end Register

end SchoolAtlas
