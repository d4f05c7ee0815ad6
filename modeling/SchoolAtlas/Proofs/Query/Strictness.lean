import SchoolAtlas.Proofs.Query.Inclusion
import SchoolAtlas.Proofs.Query.Restriction

/-!
# Strict Matching

What strict matching takes away, and that it adds nothing.

The switch decides whether a school has to teach every ticked level in some ticked language, or
whether level and language are asked for apart. The two are different queries: a condition for
each level on the one hand, two joins of keys on the other. A school that meets the conditions
meets the joins as well, because one of its enrolments answers both, and strict matching asks
for one as soon as it is in effect.

The switch has an effect on schools of the general source only, and only if something is ticked
in both menus. In all other cases the two queries are the same.

A query of strict matching is never the smaller one of the two. Where it is answered, so is the
other, with one proviso: a roster in which nothing is listed has not been asked for totals, and
the other roster may fail for want of them.

## Theorems

* `Filter.State.admits_loose_of_strict`: A school that strict matching admits.
* `Filter.State.schoolMap_within_loose`, `Filter.State.mem_records_loose`: What it leaves.
* `Filter.State.sameRestriction_strictness`: Where the switch has no effect.
* `Filter.State.strictness_removes`: Strict matching only removes.
-/

namespace SchoolAtlas

namespace Filter

namespace State

variable {s : State} {r : Register}

/-- The switch of strict matching changes the way schools are asked for and nothing else. -/
theorem isStrict_apply (s : State) (on : Bool) :
    (s.apply (.strictLevelLanguage on)).isStrict
      = (on && !s.levels.selected.isEmpty && !s.languages.selected.isEmpty) := rfl

/-- One enrolment is enough for both menus. -/
theorem matches_loose_of_strict {school : School}
    (h : (s.apply (.strictLevelLanguage true)).Matches r school) :
    (s.apply (.strictLevelLanguage false)).Matches r school := by
  rw [matches_iff_of_not_strict (fun hoff => Bool.noConfusion hoff)]
  by_cases hon : (s.apply (.strictLevelLanguage true)).isStrict = true
  · rw [matches_iff_of_strict hon] at h
    -- Some level is ticked, so there is an enrolment, and its level and language are ticked.
    rcases List.exists_mem_of_ne_nil _ (isStrict_iff.mp hon).2.1 with ⟨level, hlevel⟩
    rcases h level hlevel with ⟨e, he, hschool, rfl, hlanguage⟩
    exact ⟨Or.inr ⟨e, he, hschool, hlevel⟩, Or.inr ⟨e, he, hschool, hlanguage⟩⟩
  · exact (matches_iff_of_not_strict hon).mp h

theorem admits_loose_of_strict {school : School}
    (h : (s.apply (.strictLevelLanguage true)).Admits r school) :
    (s.apply (.strictLevelLanguage false)).Admits r school := by
  have hsource : ∀ on, (s.apply (.strictLevelLanguage on)).source = s.source := fun _ => rfl
  rw [Admits, hsource] at h ⊢
  cases hs : s.source with
  | general => rw [hs] at h; exact matches_loose_of_strict h
  | bac => rw [hs] at h; exact h
  | evaluation => rw [hs] at h; exact h

/-- Asking for every level on its own takes as many values, at least. -/
theorem askedValues_loose_le :
    (s.apply (.strictLevelLanguage false)).askedValues
      ≤ (s.apply (.strictLevelLanguage true)).askedValues := by
  rw [askedValues, askedValues, isStrict_apply, isStrict_apply, Bool.false_and, Bool.false_and]
  have hsource : ∀ on, (s.apply (.strictLevelLanguage on)).source = s.source := fun _ => rfl
  rw [hsource, hsource]
  cases s.source with
  | general =>
      simp only [Bool.false_eq_true, if_false]
      split
      · next hon =>
        simp only [Bool.true_and, Bool.and_eq_true, Bool.not_eq_true', List.isEmpty_eq_false_iff]
          at hon
        have hpos := List.length_pos_iff.mpr hon.1
        -- Strict matching asks for the languages once for each level, loose matching once.
        have hproduct := Nat.le_mul_of_pos_left s.languages.selected.length hpos
        rw [Nat.mul_succ, Nat.add_comm]
        exact Nat.add_le_add_right hproduct _
      · exact Nat.le_refl _
  | bac => exact Nat.le_refl _
  | evaluation => exact Nat.le_refl _

theorem schoolMapFits_loose (h : (s.apply (.strictLevelLanguage true)).SchoolMapFits) :
    (s.apply (.strictLevelLanguage false)).SchoolMapFits :=
  ⟨(Nat.add_le_add_left askedValues_loose_le _).trans h.1, fun _ hon => Bool.noConfusion hon⟩

theorem rosterFits_loose (h : (s.apply (.strictLevelLanguage true)).RosterFits) :
    (s.apply (.strictLevelLanguage false)).RosterFits :=
  ⟨(Nat.add_le_add_left askedValues_loose_le _).trans h.1, fun _ hon => Bool.noConfusion hon⟩

theorem sameRestriction_strictness (overSchools : Bool)
    (h : overSchools = true → s.source = .general →
      s.levels.selected = [] ∨ s.languages.selected = []) :
    SameRestriction overSchools (s.apply (.strictLevelLanguage true))
      (s.apply (.strictLevelLanguage false)) where
  source := rfl
  levels := fun _ _ => rfl
  languages := fun _ _ => rfl
  strict := by
    intro hs hover
    rw [isStrict_apply, isStrict_apply]
    -- With an empty menu matching is loose, whatever is asked for.
    rcases h hover hs with hnil | hnil
    · rw [hnil, List.isEmpty_nil, Bool.not_true, Bool.and_false, Bool.and_false]
    · rw [hnil, List.isEmpty_nil, Bool.not_true, Bool.and_false, Bool.and_false]
  bacLanguages := fun _ => rfl
  bacResults := fun _ => rfl

/-- A map of schools under strict matching is answered without it too, and lies within that. -/
theorem schoolMap_within_loose (hr : r.Reached) {rows : List RegionRow}
    (hrows : r.regionRows (.regions ((s.apply (.strictLevelLanguage true)).regionQuery .schools))
      = .ok rows) :
    ∃ rows', r.regionRows (.regions
      ((s.apply (.strictLevelLanguage false)).regionQuery .schools)) = .ok rows' ∧
        Within rows rows' := by
  have hfits := (fits_of_regionRows hr (Or.inl (by decide)) hrows).1
  rcases regionRows_schoolMap hr.nodup_ids (schoolMapFits_loose hfits) with ⟨rows', hrows', _⟩
  exact ⟨rows', hrows', schoolMap_within (s := s.apply (.strictLevelLanguage true))
    (t := s.apply (.strictLevelLanguage false)) hr rfl rfl (fun _ => admits_loose_of_strict) hrows
    hrows'⟩

/-- A record of a roster under strict matching is a record of the roster without it. -/
theorem mem_records_loose {q q' : RosterQuery} {records : List SchoolRecord} {record : SchoolRecord}
    (hq : (s.apply (.strictLevelLanguage true)).rosterQuery? = some q)
    (hq' : (s.apply (.strictLevelLanguage false)).rosterQuery? = some q')
    (hrecords : r.schoolRecords (.roster q) = .ok records) (hrecord : record ∈ records) :
    ∃ records', r.schoolRecords (.roster q') = .ok records' ∧ record ∈ records' := by
  have hfits := (rosterQuery_fits_iff hq).mp (Register.schoolRecords_eq_ok_iff.mp hrecords).1
  -- The record has totals, so they are at hand for the schools that are listed in addition.
  rcases schoolRecords_isOk_of_mem hq hrecords hrecord hq' (rosterFits_loose hfits) with
    ⟨records', hrecords'⟩
  have hsub := roster_subset (s := s.apply (.strictLevelLanguage true))
    (t := s.apply (.strictLevelLanguage false)) rfl (fun _ => admits_loose_of_strict) hq hq'
    hrecords hrecords'
  exact ⟨records', hrecords', hsub hrecord⟩

/-- Strict matching only removes. With it, the map of schools has no region and no school that
    it does not have without, and every record of a roster is in the roster without, as it is.
    If nothing is ticked in one of the two menus, or the source is not the general one, the
    queries are the same, and those of students and grades always are. -/
theorem strictness_removes (hr : r.Reached) (s : State) :
    let strict := s.apply (.strictLevelLanguage true)
    let loose := s.apply (.strictLevelLanguage false)
    (∀ rows, r.regionRows (.regions (strict.regionQuery .schools)) = .ok rows →
      ∃ rows', r.regionRows (.regions (loose.regionQuery .schools)) = .ok rows' ∧
        Within rows rows') ∧
    (s.openTown?.isSome → ∃ q q', strict.rosterQuery? = some q ∧ loose.rosterQuery? = some q' ∧
      ∀ records, r.schoolRecords (.roster q) = .ok records → ∀ record ∈ records,
        ∃ records', r.schoolRecords (.roster q') = .ok records' ∧ record ∈ records') ∧
    (s.levels.selected = [] ∨ s.languages.selected = [] ∨ s.source ≠ .general →
      (∀ statistic, strict.regionQuery statistic = loose.regionQuery statistic) ∧
        strict.rosterQuery? = loose.rosterQuery?) ∧
    ∀ statistic, statistic ≠ .schools →
      strict.regionQuery statistic = loose.regionQuery statistic := by
  intro strict loose
  refine ⟨fun rows => schoolMap_within_loose hr, fun htown => ?_, fun hnone => ?_,
    fun statistic hne => ?_⟩
  · rcases Option.isSome_iff_exists.mp htown with ⟨⟨code, name⟩, hopen⟩
    have hopen₁ : strict.openTown? = some (code, name) := hopen
    have hopen₂ : loose.openTown? = some (code, name) := hopen
    have hq := rosterQuery?_eq hopen₁
    have hq' := rosterQuery?_eq hopen₂
    exact ⟨_, _, hq, hq', fun _ hrecords _ => mem_records_loose hq hq' hrecords⟩
  -- An empty menu or an exam leaves nothing for strictness to act on.
  · have hsame : ∀ overSchools, SameRestriction overSchools strict loose := by
      refine fun overSchools => sameRestriction_strictness overSchools (fun _ hs => ?_)
      rcases hnone with hnil | hnil | hsource
      · exact Or.inl hnil
      · exact Or.inr hnil
      · exact absurd hs hsource
    exact ⟨fun statistic => (regionQuery_eq_iff _ _ statistic).mpr ⟨rfl, hsame _⟩,
      rosterQuery?_congr rfl (hsame true)⟩
  -- Only schools can be matched strictly.
  · have hover : statistic.overStudents = true := by
      cases statistic with
      | schools => exact absurd rfl hne
      | students => rfl
      | grades => rfl
    refine (regionQuery_eq_iff _ _ statistic).mpr ⟨rfl, sameRestriction_strictness _ (fun h => ?_)⟩
    rw [hover] at h
    exact Bool.noConfusion h

/-- The state at the start, with one level, one language and the detail view of a town. -/
def oneLevel : State :=
  { opened "CJ" "Turda" with levels := .all ["Primar"], languages := .all ["română"] }

/-- In a town with one school, with and without strict matching, the map shows it and the roster
    lists it. -/
theorem strictness_removes_threeSchools : ∃ q q' records records' record rows rows',
    (oneLevel.apply (.strictLevelLanguage true)).rosterQuery? = some q ∧
      oneLevel.rosterQuery? = some q' ∧
      threeSchoolsRegister.schoolRecords (.roster q) = .ok records ∧
      threeSchoolsRegister.schoolRecords (.roster q') = .ok records' ∧
      record ∈ records ∧ record ∈ records' ∧ record.id = "1" ∧
      threeSchoolsRegister.regionRows (.regions
        ((oneLevel.apply (.strictLevelLanguage true)).regionQuery .schools)) = .ok rows ∧
      threeSchoolsRegister.regionRows (.regions (oneLevel.regionQuery .schools)) = .ok rows' ∧
      rows ≠ [] ∧ Within rows rows' := by
  let strict := oneLevel.apply (.strictLevelLanguage true)
  rcases strictness_removes threeSchoolsRegister_reached oneLevel with ⟨hmaps, hrosters, _⟩
  rcases hrosters rfl with ⟨q, q', hq, hq', hlisted⟩
  rcases regionRows_schoolMap (s := strict) threeSchoolsRegister_reached.nodup_ids (by decide) with
    ⟨rows, hrows, _, hmem⟩
  rcases hmaps rows hrows with ⟨rows', hrows', hwithin⟩
  rcases schoolRecords_isOk (s := strict) threeSchoolsRegister_reached hq (by decide) (by decide)
    with ⟨records, hrecords⟩
  -- The school of the town is listed under strict matching, and so it is listed without.
  have hids := roster_ids (s := strict) rfl hq hrecords
  have honly : (strict.rosterSchools threeSchoolsRegister "CJ" "Turda").map School.id = ["1"] := by
    decide
  rw [honly, List.perm_singleton] at hids
  rcases List.mem_map.mp (hids ▸ List.mem_singleton_self "1") with ⟨record, hrecord, hid⟩
  rcases hlisted records hrecords record hrecord with ⟨records', hrecords', hsame⟩
  have hshown : (⟨"CJ", some "Turda", .count 1⟩ : RegionRow) ∈ rows :=
    (hmem _).mpr ⟨by decide, congrArg Amount.count (by decide)⟩
  exact ⟨q, q', records, records', record, rows, rows', hq, hq', hrecords, hrecords', hrecord,
    hsame, hid, hrows, hrows', List.ne_nil_of_mem hshown, hwithin⟩

end State

end Filter

end SchoolAtlas
