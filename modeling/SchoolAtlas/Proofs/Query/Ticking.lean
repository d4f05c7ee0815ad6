import SchoolAtlas.Proofs.Filter.Independence
import SchoolAtlas.Proofs.Query.Inclusion

/-!
# One More Tick

What another tick in a menu does to the answers.

A tick lets more through. That is true as long as the menu had a tick before: the first tick of
a menu turns it from a menu that asks for nothing into one that does. `Selection.Widened` says
what the two menus have to do with each other. There is more to it than the ticked names, since
the menus of the baccalaureate only count as far as they leave something out. Ticking the last
name that was left out lifts the restriction altogether, and ticking a name that was not listed
does not introduce one.

The whole state is then treated at once, whichever menu the tick was in (`State.Widened`). Rows
of students let through stay let through, and so do schools, with one exception. Under strict
matching every ticked level is one more thing to ask of a school, so a tick among the levels
lets fewer schools through and not more. The students are not concerned by that, because their
rows are taken one by one.

## Main definitions

* `Selection.Widened`: A menu has more ticks than another, and neither has the first one.
* `Filter.State.Widened`: A state has menus that are widened, and is the same otherwise.
* `Filter.Menu.tick`: A state with one more tick.

## Theorems

* `Selection.widened_set`: A tick widens a menu that had one.
* `Filter.State.Widened.admittedRows`: Rows of students that stay let through.
* `Filter.State.Widened.admits`: Schools that stay let through.
* `Filter.State.Widened.admits_of_strict`: Schools under strict matching.
* `Filter.State.ticking_monotone`: What one more tick does to the answers.
-/

namespace SchoolAtlas

namespace Selection

variable {m m' : Selection} {name : String}

/-- The ticks of one menu are ticks of the other, which has its first tick no later. What the
    other restricts to, the first restricts to more narrowly. -/
structure Widened (m m' : Selection) : Prop where
  selected : m.selected ⊆ m'.selected
  none_selected : m.selected = [] → m'.selected = []
  restriction : ∀ picked', m'.restriction? = some picked' →
    ∃ picked, m.restriction? = some picked ∧ picked ⊆ picked'

theorem Widened.refl (m : Selection) : Widened m m where
  selected := fun _ h => h
  none_selected := fun h => h
  restriction := fun picked h => ⟨picked, h, fun _ hin => hin⟩

theorem mem_names_set {x : String} (h : x ∈ (m.set name true).names) : name = x ∨ x ∈ m.names := by
  unfold names at h ⊢
  rw [NameMap.mem_names_iff] at h ⊢
  unfold set at h
  rw [NameMap.get?_insert] at h
  by_cases hname : name = x
  · exact Or.inl hname
  · rw [if_neg hname] at h
    exact Or.inr h

theorem isSelected_set_true {x : String} (h : m.isSelected x = true) :
    (m.set name true).isSelected x = true := by
  rw [isSelected_set, h, ite_self]

/-- A tick widens a menu that had one. -/
theorem widened_set (h : m.selected ≠ []) (name : String) : Widened m (m.set name true) where
  selected := by
    intro x hx
    rw [mem_selected_iff] at hx ⊢
    exact isSelected_set_true hx
  none_selected := fun hnil => absurd hnil h
  restriction := by
    intro picked' hpicked
    rcases restriction?_eq_some_iff.mp hpicked with ⟨_, ⟨left, hlisted, hleft⟩, rfl⟩
    -- The name that is left out still is not the one that was ticked.
    have hne : ¬name = left := by
      intro heq
      rw [isSelected_set, if_pos heq] at hleft
      exact Bool.noConfusion hleft
    rw [isSelected_set, if_neg hne] at hleft
    have hin := (mem_names_set hlisted).resolve_left hne
    refine ⟨m.selected, restriction?_eq_some_iff.mpr ⟨h, ⟨left, hin, hleft⟩, rfl⟩, fun x hx => ?_⟩
    rw [mem_selected_iff] at hx ⊢
    exact isSelected_set_true hx

end Selection

namespace Filter

variable {m m' : Selection}

theorem passesLanguage_of_widened (h : m.Widened m') {tongue : Option String}
    (hpass : PassesLanguage m.restriction? tongue) : PassesLanguage m'.restriction? tongue := by
  cases hr : m'.restriction? with
  | none => trivial
  | some picked' =>
      rcases h.restriction picked' hr with ⟨picked, hpicked, hsub⟩
      rw [hpicked] at hpass
      cases tongue with
      | none => exact hsub hpass
      | some language => exact ⟨hpass.1, hsub hpass.2⟩

theorem passesResult_of_widened (h : m.Widened m') {result : Option String}
    (hpass : PassesResult m.restriction? result) : PassesResult m'.restriction? result := by
  cases hr : m'.restriction? with
  | none => trivial
  | some picked' =>
      rcases h.restriction picked' hr with ⟨picked, hpicked, hsub⟩
      rw [hpicked] at hpass
      exact List.map_subset some hsub hpass

namespace State

variable {s t : State} {r : Register}

/-- A state differs from another only in that its menus are widened. -/
structure Widened (s t : State) : Prop where
  county : s.county = t.county
  town : s.town = t.town
  source : s.source = t.source
  strict : s.strictLevelLanguage = t.strictLevelLanguage
  levels : s.levels.Widened t.levels
  languages : s.languages.Widened t.languages
  bacLanguages : s.bacLanguages.Widened t.bacLanguages
  bacResults : s.bacResults.Widened t.bacResults

namespace Widened

theorem openTown? (h : Widened s t) : s.openTown? = t.openTown? := by
  unfold State.openTown?
  rw [h.county, h.town]

/-- Strict matching is in effect in both states or in neither. -/
theorem isStrict (h : Widened s t) : s.isStrict = true ↔ t.isStrict = true := by
  have hne : ∀ {m m' : Selection}, m.Widened m' → (m.selected ≠ [] ↔ m'.selected ≠ []) := by
    intro m m' hm
    refine not_congr ⟨hm.none_selected, fun hnil => ?_⟩
    exact List.subset_nil.mp (hnil ▸ hm.selected)
  rw [isStrict_iff, isStrict_iff, h.strict, hne h.levels, hne h.languages]

theorem levelTicked (h : Widened s t) {e : Enrolment} (he : s.LevelTicked e) : t.LevelTicked e :=
  h.levels.selected he

theorem languageTicked (h : Widened s t) {e : Enrolment} (he : s.LanguageTicked e) :
    t.LanguageTicked e :=
  List.map_subset some h.languages.selected he

theorem qualifies (h : Widened s t) {e : Enrolment} (he : s.Qualifies e) : t.Qualifies e :=
  ⟨he.1.imp h.levels.none_selected h.levelTicked,
    he.2.imp h.languages.none_selected h.languageTicked⟩

theorem admitsCandidate (h : Widened s t) {b : BacResult} (hb : s.AdmitsCandidate b) :
    t.AdmitsCandidate b :=
  ⟨passesLanguage_of_widened h.bacLanguages hb.1, passesResult_of_widened h.bacResults hb.2⟩

/-- Rows of students that are let through stay let through. -/
theorem admittedRows (h : Widened s t) (r : Register) :
    (s.admittedRows r).Sublist (t.admittedRows r) := by
  unfold State.admittedRows
  rw [← h.source]
  -- What admits a row is asked of the row alone, so more rows pass if more is ticked.
  cases s.source with
  | general =>
      refine (List.monotone_filter_right _ (fun e he => ?_)).map _
      exact decide_eq_true (h.qualifies (of_decide_eq_true he))
  | bac =>
      refine (List.monotone_filter_right _ (fun b hb => ?_)).map _
      exact decide_eq_true (h.admitsCandidate (of_decide_eq_true hb))
  | evaluation => exact List.Sublist.refl _

/-- Schools that are let through by their enrolments stay let through, unless another level is
    asked for on its own. -/
theorem matches_of (h : Widened s t)
    (hlevels : s.isStrict = true → t.levels.selected ⊆ s.levels.selected) {school : School}
    (hschool : s.Matches r school) : t.Matches r school := by
  by_cases hstrict : s.isStrict = true
  -- Strictly, every level is a demand. No level is added, so the demands are met as before.
  · rw [matches_iff_of_strict hstrict] at hschool
    rw [matches_iff_of_strict (h.isStrict.mp hstrict)]
    intro level hlevel
    rcases hschool level (hlevels hstrict hlevel) with ⟨e, he, hid, hsame, hlanguage⟩
    exact ⟨e, he, hid, hsame, h.languageTicked hlanguage⟩
  · rw [matches_iff_of_not_strict hstrict] at hschool
    rw [matches_iff_of_not_strict (fun ht => hstrict (h.isStrict.mpr ht))]
    refine ⟨hschool.1.imp h.levels.none_selected (fun hex => ?_),
      hschool.2.imp h.languages.none_selected (fun hex => ?_)⟩
    · rcases hex with ⟨e, he, hid, hlevel⟩
      exact ⟨e, he, hid, h.levelTicked hlevel⟩
    · rcases hex with ⟨e, he, hid, hlanguage⟩
      exact ⟨e, he, hid, h.languageTicked hlanguage⟩

/-- Under strict matching a level more is asked for, and the schools that have it are among
    those that did without. -/
theorem matches_of_strict (h : Widened s t) (hstrict : s.isStrict = true)
    (hlanguages : t.languages.selected = s.languages.selected) {school : School}
    (hschool : t.Matches r school) : s.Matches r school := by
  rw [matches_iff_of_strict (h.isStrict.mp hstrict)] at hschool
  rw [matches_iff_of_strict hstrict]
  intro level hlevel
  rcases hschool level (h.levels.selected hlevel) with ⟨e, he, hid, hsame, hlanguage⟩
  unfold LanguageTicked at hlanguage ⊢
  exact ⟨e, he, hid, hsame, hlanguages ▸ hlanguage⟩

theorem admits (h : Widened s t)
    (hlevels : s.source = .general → s.isStrict = true →
      t.levels.selected ⊆ s.levels.selected) {school : School}
    (hschool : s.Admits r school) : t.Admits r school := by
  unfold Admits at hschool ⊢
  rw [← h.source]
  -- The results of the evaluation are not asked about menus.
  cases hs : s.source with
  | general =>
      rw [hs] at hschool
      exact h.matches_of (hlevels hs) hschool
  | bac =>
      rw [hs] at hschool
      rcases hschool with ⟨b, hb, hid, hcandidate⟩
      exact ⟨b, hb, hid, h.admitsCandidate hcandidate⟩
  | evaluation =>
      rw [hs] at hschool
      exact hschool

end Widened

end State

namespace Menu

/-- What is ticked in a menu. -/
def selection (s : State) : Menu → Selection
  | levels => s.levels
  | languages => s.languages
  | bacLanguages => s.bacLanguages
  | bacResults => s.bacResults

/-- The state with one more name ticked in a menu, and no other change. -/
def tick (s : State) (name : String) : Menu → State
  | levels => { s with levels := s.levels.set name true }
  | languages => { s with languages := s.languages.set name true }
  | bacLanguages => { s with bacLanguages := s.bacLanguages.set name true }
  | bacResults => { s with bacResults := s.bacResults.set name true }

theorem widened_tick {s : State} {menu : Menu} (h : (menu.selection s).selected ≠ [])
    (name : String) : s.Widened (menu.tick s name) := by
  have hset := Selection.widened_set h name
  -- One menu is widened by the tick, and the others are as they were.
  cases menu with
  | levels => exact ⟨rfl, rfl, rfl, rfl, hset, .refl _, .refl _, .refl _⟩
  | languages => exact ⟨rfl, rfl, rfl, rfl, .refl _, hset, .refl _, .refl _⟩
  | bacLanguages => exact ⟨rfl, rfl, rfl, rfl, .refl _, .refl _, hset, .refl _⟩
  | bacResults => exact ⟨rfl, rfl, rfl, rfl, .refl _, .refl _, .refl _, hset⟩

end Menu

namespace State

variable {r : Register} {s : State} {menu : Menu}

/-- The one case in which a tick takes something away. -/
def TickNarrows (s : State) (menu : Menu) : Prop :=
  menu = .levels ∧ s.source = .general ∧ s.isStrict = true

instance (s : State) (menu : Menu) : Decidable (s.TickNarrows menu) :=
  inferInstanceAs (Decidable (_ ∧ _ ∧ _))

/-- Outside that case the schools that are let through stay let through. -/
theorem admits_tick (hticked : (menu.selection s).selected ≠ []) (name : String)
    (h : ¬s.TickNarrows menu) {school : School} (hschool : s.Admits r school) :
    (menu.tick s name).Admits r school := by
  refine (Menu.widened_tick hticked name).admits (fun hs hstrict => ?_) hschool
  cases menu with
  | levels => exact absurd ⟨rfl, hs, hstrict⟩ h
  | languages => exact fun _ hin => hin
  | bacLanguages => exact fun _ hin => hin
  | bacResults => exact fun _ hin => hin

/-- In that case the schools that are let through were so before. -/
theorem admits_of_tick (hticked : (menu.selection s).selected ≠ []) {name : String}
    (h : s.TickNarrows menu) {school : School} (hschool : (menu.tick s name).Admits r school) :
    s.Admits r school := by
  rcases h with ⟨rfl, hs, hstrict⟩
  have hwidened := Menu.widened_tick hticked name
  unfold Admits at hschool ⊢
  rw [← hwidened.source, hs] at hschool
  rw [hs]
  exact hwidened.matches_of_strict hstrict rfl hschool

/-- One more tick in a menu that had one. The map of students shows every region that it showed,
    with a count that is no less. So does the map of schools, and a roster lists what it listed,
    unless the tick is a level under strict matching. Then it is the other way round with
    schools: the new map lies within the old one, and the new roster within the old one. -/
theorem ticking_monotone (hr : r.Reached) (hticked : (menu.selection s).selected ≠ [])
    (name : String) :
    let t := menu.tick s name
    (∀ rows rows', r.regionRows (.regions (s.regionQuery .students)) = .ok rows →
      r.regionRows (.regions (t.regionQuery .students)) = .ok rows' → Within rows rows') ∧
    (∀ rows rows', r.regionRows (.regions (s.regionQuery .schools)) = .ok rows →
      r.regionRows (.regions (t.regionQuery .schools)) = .ok rows' →
      (¬s.TickNarrows menu → Within rows rows') ∧ (s.TickNarrows menu → Within rows' rows)) ∧
    ∀ q q' records records', s.rosterQuery? = some q → t.rosterQuery? = some q' →
      r.schoolRecords (.roster q) = .ok records → r.schoolRecords (.roster q') = .ok records' →
      (¬s.TickNarrows menu → records ⊆ records') ∧
        (s.TickNarrows menu → records' ⊆ records) := by
  intro t
  have hwidened : s.Widened t := Menu.widened_tick hticked name
  -- Students are counted by their rows, schools by what they are admitted for.
  refine ⟨fun rows rows' hrows hrows' => ?_,
    fun rows rows' hrows hrows' => ⟨fun h => ?_, fun h => ?_⟩,
    fun q q' records records' hq hq' hrecords hrecords' => ⟨fun h => ?_, fun h => ?_⟩⟩
  · exact studentMap_within hr hwidened.county hwidened.source (hwidened.admittedRows r) hrows
      hrows'
  · exact schoolMap_within hr hwidened.county hwidened.source
      (fun _ => admits_tick hticked name h) hrows hrows'
  · exact schoolMap_within hr hwidened.county.symm hwidened.source.symm
      (fun _ => admits_of_tick hticked h) hrows' hrows
  · exact roster_subset hwidened.openTown? (fun _ => admits_tick hticked name h) hq hq' hrecords
      hrecords'
  · exact roster_subset hwidened.openTown?.symm (fun _ => admits_of_tick hticked h) hq' hq
      hrecords' hrecords

/-- A state with one level ticked and all languages. -/
def primaryOnly (strict : Bool) : State :=
  { initial with levels := .all ["Primar"], strictLevelLanguage := strict }

/-- A second level adds schools to the map, and under strict matching it takes some away. -/
theorem ticking_monotone_threeSchools :
    let map (s : State) := threeSchoolsRegister.regionRows (.regions (s.regionQuery .schools))
    (∃ rows rows', map (primaryOnly false) = .ok rows ∧
      map (Menu.levels.tick (primaryOnly false) "Liceal") = .ok rows' ∧ rows ≠ [] ∧
        Within rows rows') ∧
    ∃ rows rows', map (primaryOnly true) = .ok rows ∧
      map (Menu.levels.tick (primaryOnly true) "Liceal") = .ok rows' ∧ rows ≠ [] ∧
        Within rows' rows := by
  intro map
  have hids := threeSchoolsRegister_reached.nodup_ids
  have hfirst : ∀ strict, ((primaryOnly strict).schoolsAt threeSchoolsRegister ("CJ", none)).length
      = 1 := by
    decide
  have hone : ∀ strict, (Menu.levels.selection (primaryOnly strict)).selected ≠ [] := by decide
  -- Both maps have an answer, with one school on the first of them.
  have hanswered : ∀ strict, ∃ rows rows', map (primaryOnly strict) = .ok rows ∧
      map (Menu.levels.tick (primaryOnly strict) "Liceal") = .ok rows' ∧ rows ≠ [] := by
    intro strict
    have hfits : (primaryOnly strict).SchoolMapFits ∧
        (Menu.levels.tick (primaryOnly strict) "Liceal").SchoolMapFits := by
      revert strict
      decide
    rcases regionRows_schoolMap hids hfits.1 with ⟨rows, hrows, _, hmem⟩
    rcases regionRows_schoolMap hids hfits.2 with ⟨rows', hrows', _⟩
    have hshown : (⟨"CJ", none, .count 1⟩ : RegionRow) ∈ rows := by
      refine (hmem _).mpr ⟨List.ne_nil_of_length_pos ?_, congrArg Amount.count ?_⟩
      · exact Nat.lt_of_lt_of_eq Nat.one_pos (hfirst strict).symm
      · exact congrArg Nat.cast (hfirst strict).symm
    exact ⟨rows, rows', hrows, hrows', List.ne_nil_of_mem hshown⟩
  constructor
  · rcases hanswered false with ⟨rows, rows', hrows, hrows', hne⟩
    have hwithin := (ticking_monotone threeSchoolsRegister_reached (hone false) "Liceal").2.1
      rows rows' hrows hrows'
    exact ⟨rows, rows', hrows, hrows', hne, hwithin.1 (by decide)⟩
  · rcases hanswered true with ⟨rows, rows', hrows, hrows', hne⟩
    have hwithin := (ticking_monotone threeSchoolsRegister_reached (hone true) "Liceal").2.1
      rows rows' hrows hrows'
    exact ⟨rows, rows', hrows, hrows', hne, hwithin.2 (by decide)⟩

end State

end Filter

end SchoolAtlas
