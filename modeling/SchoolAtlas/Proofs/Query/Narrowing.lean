import SchoolAtlas.Filter.Preset
import SchoolAtlas.Proofs.Filter.StudentRows
import SchoolAtlas.Proofs.Query.Roster

/-!
# Narrowing the Candidates

Whether picking some candidates of the baccalaureate leaves the others out.

A query takes the candidates whose mother tongue and result it lets through, and
no other candidate has a say in any answer. `dependsOnlyOn_iff` is that fact: the
maps and the roster of a state look only at some candidates exactly if these
include all that the state admits, the one exception being a state whose queries
are too large to be asked.

So a selection narrows the answers exactly if admission does. A selection that
has a ticked name lets everything through as soon as all names that it lists are
ticked, and it need not list the whole menu: a stored selection lists what it was
stored with. Hence the condition of `bac_narrowing_iff`, that some listed name is
not ticked. A menu as it is at the start lists everything, clicking never takes a
name off a list, and from there on every selection that leaves something out
narrows the answers.

## Main definitions

* `Register.keepCandidates`: A register without some candidates.
* `Filter.State.DependsOnlyOn`: The answers of a state look at some candidates only.
* `Filter.State.tongueTicked`, `Filter.State.resultTicked`: What a candidate has is
  ticked.
* `Filter.State.Narrowed`, `Filter.State.ListsMenus`: Menus that leave something out,
  and menus listed in full.

## Theorems

* `Filter.State.dependsOnlyOn_iff`: The candidates that answers look at.
* `Filter.State.bac_narrowing_iff`: When a selection narrows the answers.
* `Filter.State.names_subset_applyAll`: Clicking takes no name off a list.
-/

namespace SchoolAtlas

/-- A register without the candidates of the baccalaureate that are not kept. -/
def Register.keepCandidates (r : Register) (keep : BacResult → Bool) : Register :=
  { r with bacResults := r.bacResults.filter keep }

namespace Filter

namespace State

variable {s : State} {r : Register} {keep : BacResult → Bool}

/-- The three maps and the roster of a state look only at candidates that are kept:
    whatever the register, they are the same without the others. -/
def DependsOnlyOn (s : State) (keep : BacResult → Bool) : Prop :=
  ∀ r : Register,
    (∀ statistic, r.regionRows (.regions (s.regionQuery statistic))
      = (r.keepCandidates keep).regionRows (.regions (s.regionQuery statistic))) ∧
    ∀ q, s.rosterQuery? = some q →
      r.schoolRecords (.roster q) = (r.keepCandidates keep).schoolRecords (.roster q)

/-- The mother tongue of a candidate is ticked. A candidate without one took the exam of
    the majority language. -/
def tongueTicked (s : State) (b : BacResult) : Bool :=
  s.bacLanguages.isSelected (b.motherTongue.getD Catalogue.majorityLanguage)

/-- The result of a candidate is ticked. -/
def resultTicked (s : State) (b : BacResult) : Bool := b.result.any s.bacResults.isSelected

/-- The candidates that a query takes are not among those that are left out, if the state
    admits only candidates that are kept. -/
theorem details_keepCandidates (hkeep : ∀ b, s.AdmitsCandidate b → keep b = true) :
    s.bacRows.details r = s.bacRows.details (r.keepCandidates keep) := by
  have htable : s.bacRows.table = .bacResults := rfl
  simp only [DetailQuery.details, htable, Register.details, Register.keepCandidates,
    List.filter_map, List.filter_filter]
  refine congrArg (List.map Detail.ofBacResult) (List.filter_congr (fun b _ => ?_))
  simp only [Function.comp_apply]
  rw [Bool.eq_iff_iff, Bool.and_eq_true, allHold_bacRows_iff]
  exact ⟨fun h => ⟨h, hkeep b h⟩, fun h => h.1⟩

/-- Conditions of a baccalaureate query do not look at rows. -/
theorem holds_inCounty_congr {r' : Register} {code : Option String} :
    ∀ c ∈ code.toList.map inCounty, ∀ school,
      SchoolCondition.holds r school c = SchoolCondition.holds r' school c := by
  intro c hc school
  rcases List.mem_map.mp hc with ⟨_, _, rfl⟩
  rfl

/-- The answers of a state do not change with candidates that it does not admit. -/
theorem dependsOnlyOn_of_admits (hs : s.source = .bac)
    (hkeep : ∀ b, s.AdmitsCandidate b → keep b = true) : s.DependsOnlyOn keep := by
  intro r
  -- All that a query sees of the candidates are the rows it joins.
  have hdetails := details_keepCandidates (r := r) hkeep
  have hjoins : s.schoolJoins = [.keys "bac" s.bacRows] := by rw [schoolJoins, hs]
  have hrows : s.studentJoins = [.rows "x" [] s.bacRows] := by rw [studentJoins, hs]
  have hconditions : s.schoolConditions = [] := by rw [schoolConditions, hs]
  constructor
  · intro statistic
    have hanswer : (s.regionQuery statistic).answer? r
        = (s.regionQuery statistic).answer? (r.keepCandidates keep) := by
      refine RegionQuery.answer?_congr rfl ?_ ?_
      · rw [regionQuery, hconditions, ite_self, List.append_nil]
        exact holds_inCounty_congr
      · rw [regionQuery, hjoins, hrows]
        cases statistic.overStudents with
        | true => exact List.forall_mem_singleton.mpr hdetails
        | false => exact List.forall_mem_singleton.mpr hdetails
    rw [Register.regionRows, Register.regionRows, hanswer]
  · intro q hq
    have hanswer : q.answer? r = q.answer? (r.keepCandidates keep) := by
      rcases Option.map_eq_some_iff.mp hq with ⟨⟨code, name⟩, ht, _⟩
      rw [rosterQuery?_eq ht, Option.some.injEq, hjoins, hconditions] at hq
      subst hq
      rw [RosterQuery.answer?, RosterQuery.answer?]
      refine congrArg (Option.map _) (Register.rows?_congr rfl ?_ ?_)
      · exact List.forall_mem_cons.mpr
          ⟨fun _ => rfl, List.forall_mem_singleton.mpr (fun _ => rfl)⟩
      · exact List.forall_mem_cons.mpr ⟨rfl, List.forall_mem_singleton.mpr hdetails⟩
    rw [Register.schoolRecords, Register.schoolRecords, hanswer]

/-- The school that a candidate names, in a county. -/
def schoolOf (code : String) (b : BacResult) : School :=
  ⟨b.school, code, none, "", none, none, none, none⟩

/-- A register of one candidate and the candidate's school. -/
def oneCandidate (code : String) (b : BacResult) : Register where
  schools := [schoolOf code b]
  enrolments := []
  bacResults := [b]
  evaluationResults := []

theorem mem_schoolsAt_oneCandidate {code : String} {b : BacResult} (hs : s.source = .bac)
    (hscope : s.InScope (schoolOf code b)) (hb : s.AdmitsCandidate b) :
    schoolOf code b ∈ s.schoolsAt (oneCandidate code b) (s.place (schoolOf code b)) := by
  have hadmits : s.Admits (oneCandidate code b) (schoolOf code b) := by
    rw [Admits, hs]
    exact ⟨b, List.mem_singleton_self b, rfl, hb⟩
  exact mem_schoolsAt_iff.mpr ⟨List.mem_singleton_self _, hscope, hadmits, rfl⟩

/-- No school is counted without the candidate. -/
theorem schoolsAt_oneCandidate_eq_nil {code : String} {b : BacResult} (hs : s.source = .bac)
    (hkeep : keep b = false) (key : String × Option String) :
    s.schoolsAt ((oneCandidate code b).keepCandidates keep) key = [] := by
  refine List.eq_nil_iff_forall_not_mem.mpr (fun school hin => ?_)
  have hadmits := (mem_schoolsAt_iff.mp hin).2.2.1
  rw [Admits, hs] at hadmits
  rcases hadmits with ⟨other, hother, _⟩
  rcases List.mem_filter.mp hother with ⟨hsame, hkept⟩
  rw [List.mem_singleton.mp hsame, hkeep] at hkept
  exact Bool.noConfusion hkept

/-- A candidate that is admitted but not kept shows on the map of schools: a school that
    sent nobody else would not be there. -/
theorem not_dependsOnlyOn {b : BacResult} (hs : s.source = .bac) (hfits : s.SchoolMapFits)
    (hb : s.AdmitsCandidate b) (hkeep : keep b = false) : ¬s.DependsOnlyOn keep := by
  intro hdepends
  -- Whatever county is shown, a school can lie in it.
  have hscope : ∃ code, s.InScope (schoolOf code b) := by
    cases hcounty : s.county with
    | none => exact ⟨"", Or.inl hcounty⟩
    | some code => exact ⟨code, Or.inr hcounty⟩
  rcases hscope with ⟨code, hscope⟩
  rcases regionRows_schoolMap (s := s) (r := oneCandidate code b) (List.nodup_singleton _) hfits
    with ⟨rows, hrows, _, hmem⟩
  rcases regionRows_schoolMap (s := s) (r := (oneCandidate code b).keepCandidates keep)
    (List.nodup_singleton _) hfits with ⟨rows', hrows', _, hmem'⟩
  have hmaps := (hdepends (oneCandidate code b)).1 .schools
  rw [hrows, hrows', Except.ok.injEq] at hmaps
  subst hmaps
  -- One and the same map would show the school's region and not show it.
  have hshown : ∀ key, s.schoolsAt (oneCandidate code b) key ≠ [] →
      ⟨key.1, key.2, .count (s.schoolsAt (oneCandidate code b) key).length⟩ ∈ rows :=
    fun key hne => (hmem _).mpr ⟨hne, rfl⟩
  have hrow := hshown _ (List.ne_nil_of_mem (mem_schoolsAt_oneCandidate hs hscope hb))
  exact ((hmem' _).mp hrow).1 (schoolsAt_oneCandidate_eq_nil hs hkeep _)

/-- A state whose maps are too large to be asked for has a roster that is too large as
    well, and then no candidate has a say in anything. -/
theorem dependsOnlyOn_of_not_fits (hs : s.source = .bac) (hfits : ¬s.SchoolMapFits) :
    s.DependsOnlyOn keep := by
  intro r
  constructor
  · intro statistic
    have hexam : s.source ≠ .general := by
      rw [hs]
      exact DataSource.noConfusion
    -- A query that is too large is refused whatever the register holds.
    have hlarge : ¬(Query.regions (s.regionQuery statistic)).Fits := by
      rw [examMap_fits_iff hexam, ← schoolMapFits_iff_picksFit hexam]
      exact hfits
    rw [Register.regionRows, Register.regionRows, if_neg hlarge, if_neg hlarge]
  · intro q hq
    have hroster : ¬s.RosterFits := fun h => hfits (schoolMapFits_of_rosterFits h)
    rw [schoolRecords_refused r hq hroster, schoolRecords_refused _ hq hroster]

/-- The answers of a state look only at some candidates exactly if these include all that
    it admits, unless its queries are too large to be asked. -/
theorem dependsOnlyOn_iff (hs : s.source = .bac) :
    s.DependsOnlyOn keep ↔ (∀ b, s.AdmitsCandidate b → keep b = true) ∨ ¬s.SchoolMapFits := by
  constructor
  · intro hdepends
    -- If something is answered, one candidate who is admitted but not kept makes a difference.
    by_cases hfits : s.SchoolMapFits
    · refine Or.inl (fun b hb => ?_)
      by_contra hkeep
      exact not_dependsOnlyOn hs hfits hb (Bool.eq_false_iff.mpr hkeep) hdepends
    · exact Or.inr hfits
  · intro hor
    rcases hor with hkeep | hfits
    · exact dependsOnlyOn_of_admits hs hkeep
    · exact dependsOnlyOn_of_not_fits hs hfits

/-- Every restriction by mother tongue lets some column pass. -/
theorem exists_passesLanguage (languages : Selection) :
    ∃ tongue, PassesLanguage languages.restriction? tongue := by
  cases hr : languages.restriction? with
  | none => exact ⟨none, trivial⟩
  | some picked =>
      rcases Selection.restriction?_eq_some_iff.mp hr with ⟨hne, _, rfl⟩
      rcases List.exists_mem_of_ne_nil _ hne with ⟨name, hname⟩
      -- The majority language is stored as no language at all.
      by_cases hmajority : name = Catalogue.majorityLanguage
      · exact ⟨none, show Catalogue.majorityLanguage ∈ languages.selected from hmajority ▸ hname⟩
      · exact ⟨some name, hmajority, hname⟩

theorem exists_passesResult (results : Selection) :
    ∃ result, PassesResult results.restriction? result := by
  cases hr : results.restriction? with
  | none => exact ⟨none, trivial⟩
  | some picked =>
      rcases Selection.restriction?_eq_some_iff.mp hr with ⟨hne, _, rfl⟩
      rcases List.exists_mem_of_ne_nil _ hne with ⟨name, hname⟩
      exact ⟨some name, List.mem_map.mpr ⟨name, hname, rfl⟩⟩

theorem isSelected_of_passesLanguage {languages : Selection} {picked : List String}
    (hr : languages.restriction? = some picked) {tongue : Option String}
    (h : PassesLanguage (some picked) tongue) :
    languages.isSelected (tongue.getD Catalogue.majorityLanguage) = true := by
  rcases Selection.restriction?_eq_some_iff.mp hr with ⟨_, _, rfl⟩
  cases tongue with
  | none => exact Selection.mem_selected_iff.mp h
  | some name => exact Selection.mem_selected_iff.mp h.2

theorem isSelected_of_passesResult {results : Selection} {picked : List String}
    (hr : results.restriction? = some picked) {result : Option String}
    (h : PassesResult (some picked) result) : result.any results.isSelected = true := by
  rcases Selection.restriction?_eq_some_iff.mp hr with ⟨_, _, rfl⟩
  rcases List.mem_map.mp h with ⟨name, hname, rfl⟩
  exact Selection.mem_selected_iff.mp hname

/-- Only candidates of a ticked mother tongue are admitted exactly if some listed tongue is
    not ticked, given that some tongue is ticked and some is not. -/
theorem admits_tongueTicked_iff (hticked : s.bacLanguages.selected ≠ []) {left : String}
    (hleft : s.bacLanguages.isSelected left = false) :
    (∀ b, s.AdmitsCandidate b → s.tongueTicked b = true) ↔
      ∃ name ∈ s.bacLanguages.names, s.bacLanguages.isSelected name = false := by
  constructor
  · intro hall
    by_contra hlisted
    -- Without a restriction even a candidate of the unticked name is let through.
    have hopen := Selection.restriction?_eq_none_iff.mpr (Or.inr hlisted)
    rcases exists_passesResult s.bacResults with ⟨result, hresult⟩
    have hadmits : s.AdmitsCandidate ⟨"", none, none, some left, none, result, none⟩ :=
      ⟨by rw [hopen]; exact trivial, hresult⟩
    have hselected := hall _ hadmits
    rw [tongueTicked, Option.getD_some, hleft] at hselected
    exact Bool.noConfusion hselected
  · intro hlisted b hb
    have hr := Selection.restriction?_eq_some_iff.mpr ⟨hticked, hlisted, rfl⟩
    exact isSelected_of_passesLanguage hr (hr ▸ hb.1)

/-- Only candidates of a ticked result are admitted exactly if some listed result is not
    ticked, given that some result is ticked and some is not. -/
theorem admits_resultTicked_iff (hticked : s.bacResults.selected ≠ []) {left : String}
    (hleft : s.bacResults.isSelected left = false) :
    (∀ b, s.AdmitsCandidate b → s.resultTicked b = true) ↔
      ∃ name ∈ s.bacResults.names, s.bacResults.isSelected name = false := by
  constructor
  · intro hall
    by_contra hlisted
    -- If all listed results are ticked, nothing is asked for, and one that is not listed passes.
    have hopen := Selection.restriction?_eq_none_iff.mpr (Or.inr hlisted)
    rcases exists_passesLanguage s.bacLanguages with ⟨tongue, htongue⟩
    have hadmits : s.AdmitsCandidate ⟨"", none, none, tongue, none, some left, none⟩ :=
      ⟨htongue, by rw [hopen]; exact trivial⟩
    have hselected := hall _ hadmits
    rw [resultTicked, Option.any_some, hleft] at hselected
    exact Bool.noConfusion hselected
  · intro hlisted b hb
    have hr := Selection.restriction?_eq_some_iff.mpr ⟨hticked, hlisted, rfl⟩
    exact isSelected_of_passesResult hr (hr ▸ hb.2)

/-- Clicking on a name takes no name off a list. -/
theorem names_subset_set (sel : Selection) (name : String) (ticked : Bool) :
    sel.names ⊆ (sel.set name ticked).names := by
  intro x hx
  rw [Selection.names, NameMap.mem_names_iff] at hx
  rw [Selection.names, NameMap.mem_names_iff, Selection.set, NameMap.get?_insert]
  by_cases hname : name = x
  · rw [if_pos hname]
    rfl
  · rw [if_neg hname]
    exact hx

/-- Picking a town leaves the menus of the baccalaureate alone. -/
theorem menus_pickTown (s : State) (name : Option String) :
    (s.pickTown name).bacLanguages = s.bacLanguages
      ∧ (s.pickTown name).bacResults = s.bacResults := by
  unfold pickTown
  split
  · exact ⟨rfl, rfl⟩
  · exact ⟨rfl, rfl⟩
  · split <;> exact ⟨rfl, rfl⟩

theorem menus_useExams (s : State) (on : Bool) :
    (s.useExams on).bacLanguages = s.bacLanguages
      ∧ (s.useExams on).bacResults = s.bacResults := by
  unfold useExams
  split <;> exact ⟨rfl, rfl⟩

/-- No click takes a name off either menu of the baccalaureate. -/
theorem names_subset_apply (s : State) (u : Update) :
    s.bacLanguages.names ⊆ (s.apply u).bacLanguages.names ∧
      s.bacResults.names ⊆ (s.apply u).bacResults.names := by
  -- Only clicks in the two menus touch them, and they add the clicked name.
  cases u with
  | bacLanguage name ticked => exact ⟨names_subset_set _ name ticked, List.Subset.refl _⟩
  | bacResult name ticked => exact ⟨List.Subset.refl _, names_subset_set _ name ticked⟩
  | town name =>
      rw [apply, (menus_pickTown s name).1, (menus_pickTown s name).2]
      exact ⟨List.Subset.refl _, List.Subset.refl _⟩
  | examDataset on =>
      rw [apply, (menus_useExams s on).1, (menus_useExams s on).2]
      exact ⟨List.Subset.refl _, List.Subset.refl _⟩
  | county code => exact ⟨List.Subset.refl _, List.Subset.refl _⟩
  | level name ticked => exact ⟨List.Subset.refl _, List.Subset.refl _⟩
  | language name ticked => exact ⟨List.Subset.refl _, List.Subset.refl _⟩
  | strictLevelLanguage on => exact ⟨List.Subset.refl _, List.Subset.refl _⟩
  | perCapita on => exact ⟨List.Subset.refl _, List.Subset.refl _⟩
  | schoolAgeOnly on => exact ⟨List.Subset.refl _, List.Subset.refl _⟩
  | inBacData on => exact ⟨List.Subset.refl _, List.Subset.refl _⟩
  | inEvaluationData on => exact ⟨List.Subset.refl _, List.Subset.refl _⟩
  | source source => exact ⟨List.Subset.refl _, List.Subset.refl _⟩

theorem names_subset_applyAll (s : State) (updates : List Update) :
    s.bacLanguages.names ⊆ (s.applyAll updates).bacLanguages.names ∧
      s.bacResults.names ⊆ (s.applyAll updates).bacResults.names := by
  induction updates generalizing s with
  | nil => exact ⟨List.Subset.refl _, List.Subset.refl _⟩
  | cons u rest ih =>
      have hfirst := names_subset_apply s u
      have hrest := ih (s.apply u)
      exact ⟨List.Subset.trans hfirst.1 hrest.1, List.Subset.trans hfirst.2 hrest.2⟩

/-- A state lists both menus of the baccalaureate in full. -/
def ListsMenus (s : State) : Prop :=
  Catalogue.bacLanguages ⊆ s.bacLanguages.names ∧ Catalogue.bacResults ⊆ s.bacResults.names

instance (s : State) : Decidable s.ListsMenus :=
  inferInstanceAs (Decidable ((∀ name ∈ _, _) ∧ ∀ name ∈ _, _))

/-- A menu is narrowed: something is ticked, and some name on the menu is not. -/
def Narrowed (menu : List String) (sel : Selection) : Prop :=
  sel.selected ≠ [] ∧ ∃ name ∈ menu, sel.isSelected name = false

instance (menu : List String) (sel : Selection) : Decidable (Narrowed menu sel) :=
  inferInstanceAs (Decidable (_ ∧ ∃ name ∈ menu, _))

/-- When narrowing a menu of the baccalaureate narrows the answers. It does exactly if
    some name that the state lists is not ticked, or if nothing is answered anyway. So it
    does in every state that clicking leads to from one that lists the menus in full, and
    it need not in a state that was stored with a part of them. -/
theorem bac_narrowing_iff (hs : s.source = .bac) :
    (Narrowed Catalogue.bacLanguages s.bacLanguages →
      (s.DependsOnlyOn s.tongueTicked ↔
        (∃ name ∈ s.bacLanguages.names, s.bacLanguages.isSelected name = false)
          ∨ ¬s.SchoolMapFits)) ∧
    (Narrowed Catalogue.bacResults s.bacResults →
      (s.DependsOnlyOn s.resultTicked ↔
        (∃ name ∈ s.bacResults.names, s.bacResults.isSelected name = false)
          ∨ ¬s.SchoolMapFits)) ∧
    ∀ (start : State) (updates : List Update), start.ListsMenus → s = start.applyAll updates →
      (Narrowed Catalogue.bacLanguages s.bacLanguages → s.DependsOnlyOn s.tongueTicked) ∧
      (Narrowed Catalogue.bacResults s.bacResults → s.DependsOnlyOn s.resultTicked) := by
  have htongue : Narrowed Catalogue.bacLanguages s.bacLanguages →
      (s.DependsOnlyOn s.tongueTicked ↔
        (∃ name ∈ s.bacLanguages.names, s.bacLanguages.isSelected name = false)
          ∨ ¬s.SchoolMapFits) := by
    intro hex
    rcases hex with ⟨hticked, left, _, hleft⟩
    rw [dependsOnlyOn_iff hs, admits_tongueTicked_iff hticked hleft]
  have hresult : Narrowed Catalogue.bacResults s.bacResults →
      (s.DependsOnlyOn s.resultTicked ↔
        (∃ name ∈ s.bacResults.names, s.bacResults.isSelected name = false)
          ∨ ¬s.SchoolMapFits) := by
    intro hex
    rcases hex with ⟨hticked, left, _, hleft⟩
    rw [dependsOnlyOn_iff hs, admits_resultTicked_iff hticked hleft]
  refine ⟨htongue, hresult, fun start updates hmenus hreached => ?_⟩
  -- Updates do not take names from a menu, so a full menu stays full.
  have hnames := names_subset_applyAll start updates
  rw [← hreached] at hnames
  constructor
  · intro hnarrowed
    rcases hnarrowed.2 with ⟨left, hmenu, hleft⟩
    exact (htongue hnarrowed).mpr (Or.inl ⟨left, hnames.1 (hmenus.1 hmenu), hleft⟩)
  · intro hnarrowed
    rcases hnarrowed.2 with ⟨left, hmenu, hleft⟩
    exact (hresult hnarrowed).mpr (Or.inl ⟨left, hnames.2 (hmenus.2 hmenu), hleft⟩)

/-- From the start, turning the baccalaureate on and unticking the majority language leaves
    out its candidates, and unticking absence those who were absent. -/
theorem bac_narrowing_clicked :
    let s := initial.applyAll
      [.inBacData true, .bacLanguage Catalogue.majorityLanguage false, .bacResult "Absent" false]
    s.DependsOnlyOn s.tongueTicked ∧ s.DependsOnlyOn s.resultTicked := by
  intro s
  have hclicked := (bac_narrowing_iff (s := s) rfl).2.2 initial _ (by decide) rfl
  exact ⟨hclicked.1 (by decide), hclicked.2 (by decide)⟩

/-- A stored state that lists one language, with a tick, narrows nothing. -/
theorem bac_narrowing_stored : ∃ s,
    ofPreset? "\x7b\"inBacData\":true,\"bacLanguages\":\x7b\"maghiară\":true\x7d\x7d" = some s ∧
      s.source = .bac ∧ Narrowed Catalogue.bacLanguages s.bacLanguages ∧
      ¬s.DependsOnlyOn s.tongueTicked := by
  refine ⟨{ initial with inBacData := true, bacLanguages := .all ["maghiară"] }, by cbv, rfl,
    by decide, ?_⟩
  refine not_dependsOnlyOn (b := ⟨"1", none, none, some "germană", none, some "Promovat", none⟩)
    rfl (by decide) (by decide) (by decide)

end State

end Filter

end SchoolAtlas
