import SchoolAtlas.Proofs.Query.DrillDown
import SchoolAtlas.Proofs.Query.RosterRecords

/-!
# Answers Inside Answers

What it takes for one answer to lie inside another.

Two filter states that show the same place may let different schools and students through.
If one of them lets through no more than the other, then its answers lie inside the answers
of the other: a map has no region more and no count that is greater (`Within`), and a roster
has no record more. For maps of counts that is a matter of what is counted under each region.
For rosters there is something to it. A record tells nothing of the state it was asked for
with: it is put together from the directory and from all enrolments of its school, so a school
that is listed twice, under two states, has one record.

## Main definitions

* `Within`: The regions and counts of one map lie inside those of another.

## Theorems

* `Filter.State.ShowsCounts.within`: Maps of which one counts no more than the other.
* `Filter.State.schoolMap_within`, `Filter.State.studentMap_within`: What it takes for maps.
* `Filter.State.roster_subset`: What it takes for rosters.
-/

namespace SchoolAtlas

/-- Every region of one map is a region of the other, where the count is no less. -/
def Within (rows rows' : List RegionRow) : Prop :=
  ∀ row ∈ rows, ∃ row' ∈ rows', row'.place = row.place ∧
    ∃ count count' : Int, row.value = .count count ∧ row'.value = .count count' ∧ count ≤ count'

theorem SchoolRow.record_eq {r : Register} {row row' : SchoolRow} (h : row.HasTotals r)
    (h' : row'.HasTotals r) (hschool : row.school = row'.school) : row.record = row'.record := by
  rcases h with ⟨totals, htotals, hrow⟩
  rcases h' with ⟨totals', htotals', hrow'⟩
  rw [htotals, Option.some.injEq] at htotals'
  -- The totals are looked up in one table, under one identifier.
  rw [record, record, hrow, hrow', hschool, htotals']

namespace Filter

namespace State

variable {s t : State} {r : Register} {statistic : Statistic} {key : String × Option String}

theorem inScope_congr (hcounty : s.county = t.county) {school : School} :
    s.InScope school ↔ t.InScope school := by
  rw [InScope, InScope, hcounty]

theorem place_congr (hcounty : s.county = t.county) (school : School) :
    s.place school = t.place school := by
  rw [place, place, hcounty]

theorem liesIn_congr (hcounty : s.county = t.county) {id : String} :
    s.LiesIn r key id ↔ t.LiesIn r key id := by
  simp only [LiesIn, inScope_congr hcounty, place_congr hcounty]

theorem schoolsAt_sublist (hcounty : s.county = t.county)
    (hadmits : ∀ school, s.Admits r school → t.Admits r school) :
    (s.schoolsAt r key).Sublist (t.schoolsAt r key) := by
  refine List.monotone_filter_right _ (fun school hin => ?_)
  rw [decide_eq_true_eq] at hin ⊢
  exact ⟨(inScope_congr hcounty).mp hin.1, hadmits school hin.2.1,
    (place_congr hcounty school).symm.trans hin.2.2⟩

theorem rowsAt_sublist (hcounty : s.county = t.county)
    (hadmitted : (s.admittedRows r).Sublist (t.admittedRows r)) :
    (s.rowsAt r key).Sublist (t.rowsAt r key) := by
  have hsame : ∀ d : Detail, decide (s.LiesIn r key d.school) = decide (t.LiesIn r key d.school) :=
    fun d => decide_eq_decide.mpr (liesIn_congr hcounty)
  rw [rowsAt, rowsAt, List.filter_congr (fun d _ => hsame d)]
  exact hadmitted.filter _

theorem weight_congr (hsource : s.source = t.source) : s.weight = t.weight := by
  funext counted
  cases counted with
  | school school => rfl
  | row d => rw [weight, weight, hsource]

namespace ShowsCounts

variable {rows rows' : List RegionRow}

/-- A map that counts no more under any region lies within the other. -/
theorem within (hr : r.Reached) (h : s.ShowsCounts r statistic rows)
    (h' : t.ShowsCounts r statistic rows') (hweight : s.weight = t.weight)
    (hsub : ∀ key, (s.countedAt r statistic key).Sublist (t.countedAt r statistic key)) :
    Within rows rows' := by
  intro row hrow
  rcases (h.mem_iff row).mp hrow with ⟨hne, hvalue⟩
  have hne' : t.countedAt r statistic row.place ≠ [] :=
    fun hnil => hne (List.sublist_nil.mp (hnil ▸ hsub row.place))
  rcases h'.exists_place_iff.mpr hne' with ⟨row', hrow', hplace⟩
  refine ⟨row', hrow', hplace, _, _, hvalue, ((h'.mem_iff row').mp hrow').2, ?_⟩
  rw [hplace, totalAt, totalAt, hweight]
  -- What is counted in addition counts for nothing below zero.
  refine ((hsub row.place).map t.weight).sum_le_sum (fun n hn => ?_)
  rcases List.mem_map.mp hn with ⟨counted, hcounted, rfl⟩
  exact weight_nonneg hr hcounted

end ShowsCounts

section Maps

variable {rows rows' : List RegionRow}

theorem schoolMap_within (hr : r.Reached) (hcounty : s.county = t.county)
    (hsource : s.source = t.source) (hadmits : ∀ school, s.Admits r school → t.Admits r school)
    (hrows : r.regionRows (.regions (s.regionQuery .schools)) = .ok rows)
    (hrows' : r.regionRows (.regions (t.regionQuery .schools)) = .ok rows') :
    Within rows rows' := by
  have hcounts : ∀ s : State, s.Counts .schools := fun _ => Or.inl (by decide)
  refine (showsCounts_of_regionRows hr (hcounts s) hrows).within hr
    (showsCounts_of_regionRows hr (hcounts t) hrows') (weight_congr hsource) (fun key => ?_)
  exact (schoolsAt_sublist hcounty hadmits).map _

theorem studentMap_within (hr : r.Reached) (hcounty : s.county = t.county)
    (hsource : s.source = t.source) (hadmitted : (s.admittedRows r).Sublist (t.admittedRows r))
    (hrows : r.regionRows (.regions (s.regionQuery .students)) = .ok rows)
    (hrows' : r.regionRows (.regions (t.regionQuery .students)) = .ok rows') :
    Within rows rows' := by
  have hcounts : ∀ s : State, s.Counts .students := fun _ => Or.inl (by decide)
  refine (showsCounts_of_regionRows hr (hcounts s) hrows).within hr
    (showsCounts_of_regionRows hr (hcounts t) hrows') (weight_congr hsource) (fun key => ?_)
  exact (rowsAt_sublist hcounty hadmitted).map _

end Maps

section Rosters

variable {q q' : RosterQuery} {records records' : List SchoolRecord}

theorem exists_openTown? (hq : s.rosterQuery? = some q) :
    ∃ code name, s.openTown? = some (code, name) := by
  rcases Option.map_eq_some_iff.mp hq with ⟨⟨code, name⟩, hopen, _⟩
  exact ⟨code, name, hopen⟩

theorem rosterSchools_subset {code name : String}
    (hadmits : ∀ school, s.Admits r school → t.Admits r school) :
    s.rosterSchools r code name ⊆ t.rosterSchools r code name := by
  intro school hschool
  rw [mem_rosterSchools_iff] at hschool ⊢
  rcases hschool with ⟨hin, hcounty, htown, hadmitted⟩
  exact ⟨hin, hcounty, htown, hadmits school hadmitted⟩

/-- The records of a roster stay as they are in a roster that lets through more. -/
theorem roster_subset (hopen : s.openTown? = t.openTown?)
    (hadmits : ∀ school, s.Admits r school → t.Admits r school)
    (hq : s.rosterQuery? = some q) (hq' : t.rosterQuery? = some q')
    (hrecords : r.schoolRecords (.roster q) = .ok records)
    (hrecords' : r.schoolRecords (.roster q') = .ok records') : records ⊆ records' := by
  rcases exists_openTown? hq with ⟨code, name, ht⟩
  have ht' : t.openTown? = some (code, name) := hopen ▸ ht
  rcases rows_of_schoolRecords ht hq hrecords with ⟨rows, hschools, htotals, rfl⟩
  rcases rows_of_schoolRecords ht' hq' hrecords' with ⟨rows', hschools', htotals', rfl⟩
  intro record hrecord
  rcases List.mem_map.mp (List.mem_mergeSort.mp hrecord) with ⟨row, hrow, rfl⟩
  have hlisted := hschools.mem_iff.mp (List.mem_map.mpr ⟨row, hrow, rfl⟩)
  -- The other roster has a row of the school too.
  rcases List.mem_map.mp (hschools'.mem_iff.mpr (rosterSchools_subset hadmits hlisted)) with
    ⟨row', hrow', hschool⟩
  rw [SchoolRow.record_eq (htotals row hrow) (htotals' row' hrow') hschool.symm]
  exact List.mem_mergeSort.mpr (List.mem_map.mpr ⟨row', hrow', rfl⟩)

/-- If a roster lists a school, all rosters that are not too large are answered. -/
theorem schoolRecords_isOk_of_mem {record : SchoolRecord} (hq : s.rosterQuery? = some q)
    (hrecords : r.schoolRecords (.roster q) = .ok records) (hrecord : record ∈ records)
    (hq' : t.rosterQuery? = some q') (hfits : t.RosterFits) :
    ∃ records', r.schoolRecords (.roster q') = .ok records' := by
  rcases exists_openTown? hq with ⟨code, name, ht⟩
  -- A record was listed, so the totals were asked for and could be had.
  have hlisted : s.rosterSchools r code name ≠ [] := by
    intro hnil
    have hids := roster_ids ht hq hrecords
    rw [hnil, List.map_nil, List.perm_nil, List.map_eq_nil_iff] at hids
    exact List.not_mem_nil (hids ▸ hrecord)
  exact schoolRecords_isOk_of_totals? hq' hfits
    (totals?_isSome_of_records ht hq hlisted hrecords)

end Rosters

end State

end Filter

end SchoolAtlas
