import SchoolAtlas.Proofs.Filter.Consistency
import SchoolAtlas.Proofs.Selection

/-!
# Which Updates Depend on Each Other

The order of clicks, and when it does not matter.

Updates fall into groups by what they are about, and each group has a part of the state to itself.
An update leaves the parts of the other groups as they are (`State.part_apply_of_ne`), and what it
makes of its own part depends on nothing else (`State.part_apply_congr`). These two facts are all
that is said of single updates. From them a run does to each part what the updates of its group
alone would do, in the order in which they come (`State.part_applyAll`). So two runs that differ in
how their groups are mixed lead to the same state, and of two updates of different groups it does
not matter which is first.

Within a group the order may matter, and for two clicks on one menu it usually does not: on
different names they leave the same ticks. A click on a level can also give up an exam, though,
and whether it does is asked after each click. This makes no difference where an exam that is on
has its level ticked, as it has in every state that clicking leads to. A stored state need not be
like that.

## Main definitions

* `Filter.Group`, `Filter.Update.group`: What updates are about.
* `Filter.Group.Part`, `Filter.State.part`: The part of the state that a group has to itself.
* `Filter.Menu`, `Filter.Menu.click`: The menus with ticks, and a click on one of them.

## Theorems

* `Filter.State.part_apply_of_ne`: An update leaves the parts of other groups alone.
* `Filter.State.part_apply_congr`: An update looks at the part of its own group only.
* `Filter.State.part_applyAll`: What a run does to a part.
* `Filter.State.applyAll_eq_of_filter_eq`: Runs that differ in how their groups are mixed.
* `Filter.State.click_comm`: Two clicks on one menu.
* `Filter.State.independent_updates`: When the order of updates does not matter.
-/

namespace SchoolAtlas

/-- Of two names it does not matter which is put in first. -/
theorem NameMap.insert_comm {α : Type u} (m : NameMap α) {name other : String}
    (h : name ≠ other) (value value' : α) :
    (m.insert name value).insert other value' = (m.insert other value').insert name value := by
  refine ext_get? (fun x => ?_)
  rw [get?_insert, get?_insert, get?_insert, get?_insert]
  by_cases hname : name = x
  · have hother : other ≠ x := fun hother => h (hname.trans hother.symm)
    rw [if_neg hother, if_pos hname, if_pos hname]
  · rw [if_neg hname, if_neg hname]

namespace Selection

variable {menu : Selection} {name other : String}

theorem set_comm (menu : Selection) (h : name ≠ other) (ticked ticked' : Bool) :
    (menu.set name ticked).set other ticked' = (menu.set other ticked').set name ticked :=
  congrArg Selection.mk (menu.ticks.insert_comm h ticked ticked')

/-- A name that is ticked at first and after clicks on two names is ticked between them. -/
theorem isSelected_between {x : String} (hticked : menu.isSelected x = true) (h : name ≠ other)
    (ticked ticked' : Bool) :
    ((menu.set name ticked).isSelected x
        && ((menu.set name ticked).set other ticked').isSelected x)
      = ((menu.set name ticked).set other ticked').isSelected x := by
  simp only [isSelected_set, hticked]
  by_cases hname : name = x
  · -- The second click is on another name.
    rw [if_pos hname, if_neg (fun hother => h (hname.trans hother.symm)), Bool.and_self]
  · rw [if_neg hname, Bool.true_and]

end Selection

namespace Filter

/-- What updates are about. -/
inductive Group where
  /-- County and town. -/
  | place
  /-- The levels and the exams that go with them. -/
  | datasets
  /-- What a map counts per. -/
  | counting
  | language
  | bacLanguage
  | bacResult
  | strictLevelLanguage
deriving DecidableEq, Repr

/-- The group of an update. -/
def Update.group : Update → Group
  | .county _ | .town _ => .place
  | .level _ _ | .examDataset _ | .inBacData _ | .inEvaluationData _ | .source _ => .datasets
  | .perCapita _ | .schoolAgeOnly _ => .counting
  | .language _ _ => .language
  | .bacLanguage _ _ => .bacLanguage
  | .bacResult _ _ => .bacResult
  | .strictLevelLanguage _ => .strictLevelLanguage

/-- The fields that a group has to itself. -/
def Group.Part : Group → Type
  | place => Option String × Option String
  | datasets => Selection × Bool × Bool × Bool
  | counting => Bool × Bool
  | language | bacLanguage | bacResult => Selection
  | strictLevelLanguage => Bool

namespace State

variable {s t : State}

/-- The part of a state that a group has to itself. -/
def part (s : State) : (g : Group) → g.Part
  | .place => (s.county, s.town)
  | .datasets => (s.levels, s.examDataset, s.inBacData, s.inEvaluationData)
  | .counting => (s.perCapita, s.schoolAgeOnly)
  | .language => s.languages
  | .bacLanguage => s.bacLanguages
  | .bacResult => s.bacResults
  | .strictLevelLanguage => s.strictLevelLanguage

/-- The parts are all that there is to a state. -/
theorem ext_part (h : ∀ g, s.part g = t.part g) : s = t := by
  rcases s with ⟨county, town, levels, languages, bacLanguages, bacResults, strict, perCapita,
    schoolAgeOnly, examDataset, inBacData, inEvaluationData⟩
  rcases t with ⟨county', town', levels', languages', bacLanguages', bacResults', strict',
    perCapita', schoolAgeOnly', examDataset', inBacData', inEvaluationData'⟩
  -- Every field is in one of the parts.
  cases h .place
  cases h .datasets
  cases h .counting
  cases h .language
  cases h .bacLanguage
  cases h .bacResult
  cases h .strictLevelLanguage
  rfl

/-- An update leaves the parts of other groups alone. -/
theorem part_apply_of_ne (s : State) (u : Update) {g : Group} (h : g ≠ u.group) :
    (s.apply u).part g = s.part g := by
  -- Only for picking a town and for the exams does it not show at once which fields are written.
  cases u with
  | town name =>
      rcases pickTown_frame s name with ⟨town, hframe⟩
      rw [apply, hframe]
      cases g with
      | place => exact absurd rfl h
      | _ => rfl
  | examDataset on =>
      cases g with
      | datasets => exact absurd rfl h
      | _ => cases on <;> rfl
  | _ =>
      cases g
      all_goals first | exact absurd rfl h | rfl

/-- An update looks at the part of its own group only. -/
theorem part_apply_congr (u : Update) (h : s.part u.group = t.part u.group) :
    (s.apply u).part u.group = (t.apply u).part u.group := by
  rcases s with ⟨county, town, levels, languages, bacLanguages, bacResults, strict, perCapita,
    schoolAgeOnly, examDataset, inBacData, inEvaluationData⟩
  rcases t with ⟨county', town', levels', languages', bacLanguages', bacResults', strict',
    perCapita', schoolAgeOnly', examDataset', inBacData', inEvaluationData'⟩
  -- Whether a town can be picked depends on the county, which is in the part of the town.
  cases u with
  | town name =>
      cases h
      cases name with
      | none => cases county <;> rfl
      | some t =>
          cases county with
          | none => rfl
          | some c =>
              simp only [apply, pickTown]
              split <;> rfl
  | examDataset on =>
      cases h
      cases on <;> rfl
  | _ =>
      cases h
      rfl

/-- A run does to each part what the updates of its group do, in their order. -/
theorem part_applyAll_congr {g : Group} (h : s.part g = t.part g) (updates : List Update) :
    (s.applyAll updates).part g = (t.applyAll (updates.filter (·.group = g))).part g := by
  induction updates generalizing s t with
  | nil => exact h
  | cons u rest ih =>
      have hcons : ∀ s : State, s.applyAll (u :: rest) = (s.apply u).applyAll rest := fun _ => rfl
      -- An update of another group can be left out, since the part does not notice it.
      by_cases hu : u.group = g
      · subst hu
        rw [hcons, List.filter_cons_of_pos (by simp only [decide_true])]
        exact ih (part_apply_congr u h)
      · rw [hcons, List.filter_cons_of_neg (by simp only [hu, decide_false, Bool.false_eq_true,
          not_false_eq_true])]
        exact ih ((part_apply_of_ne s u (fun hg => hu hg.symm)).trans h)

theorem part_applyAll (s : State) (updates : List Update) (g : Group) :
    (s.applyAll updates).part g = (s.applyAll (updates.filter (·.group = g))).part g :=
  part_applyAll_congr rfl updates

/-- Runs that differ only in how their groups are mixed lead to the same state. -/
theorem applyAll_eq_of_filter_eq (s : State) {updates updates' : List Update}
    (h : ∀ g, updates.filter (·.group = g) = updates'.filter (·.group = g)) :
    s.applyAll updates = s.applyAll updates' := by
  refine ext_part (fun g => ?_)
  rw [part_applyAll s updates, h, ← part_applyAll]

/-- Two updates of different groups are mixed differently, and no more. -/
theorem filter_swap {u v : Update} (h : u.group ≠ v.group) (g : Group) :
    [u, v].filter (·.group = g) = [v, u].filter (·.group = g) := by
  by_cases hu : u.group = g
  · have hv : v.group ≠ g := fun hv => h (hu.trans hv.symm)
    simp only [List.filter_cons, List.filter_nil, hu, hv, decide_true, decide_false, if_true,
      Bool.false_eq_true, if_false]
  · simp only [List.filter_cons, List.filter_nil, hu, decide_false, Bool.false_eq_true, if_false]

theorem apply_comm_of_group_ne (s : State) {u v : Update} (h : u.group ≠ v.group) :
    (s.apply u).apply v = (s.apply v).apply u :=
  applyAll_eq_of_filter_eq s (filter_swap h)

end State

/-- The menus of a state. -/
inductive Menu where
  | levels
  | languages
  | bacLanguages
  | bacResults
deriving DecidableEq, Repr

/-- A click on a name of a menu. -/
def Menu.click : Menu → String → Bool → Update
  | levels => .level
  | languages => .language
  | bacLanguages => .bacLanguage
  | bacResults => .bacResult

namespace State

variable {s : State} {name other : String}

/-- Two clicks on levels, of which the first leaves an exam alone if the second does. -/
theorem tickLevel_tickLevel (h : s.Consistent) (hname : name ≠ other) (ticked ticked' : Bool) :
    (s.tickLevel name ticked).tickLevel other ticked'
      = let levels := (s.levels.set name ticked).set other ticked'
        { s with
          levels
          inBacData := s.inBacData && levels.isSelected Catalogue.highSchool
          inEvaluationData := s.inEvaluationData && levels.isSelected Catalogue.middleSchool } := by
  -- A level that is ticked at the start and at the end was ticked in between too, since the
  -- clicks are on two names.
  have hkept : ∀ (exam : Bool) (level : String), (exam = true → s.levels.isSelected level = true) →
      (exam && (s.levels.set name ticked).isSelected level
          && ((s.levels.set name ticked).set other ticked').isSelected level)
        = (exam && ((s.levels.set name ticked).set other ticked').isSelected level) := by
    intro exam level hlevel
    cases exam with
    | false => rfl
    | true =>
        rw [Bool.true_and, Bool.true_and, Selection.isSelected_between (hlevel rfl) hname]
  simp only [tickLevel, hkept _ _ h.bac_level, hkept _ _ h.evaluation_level]

/-- In a consistent state it does not matter which of two names of a menu is clicked first. -/
theorem click_comm (h : s.Consistent) (menu : Menu) (hname : name ≠ other) (ticked ticked' : Bool) :
    (s.apply (menu.click name ticked)).apply (menu.click other ticked')
      = (s.apply (menu.click other ticked')).apply (menu.click name ticked) := by
  cases menu with
  | levels =>
      simp only [Menu.click, apply]
      rw [tickLevel_tickLevel h hname, tickLevel_tickLevel h hname.symm,
        Selection.set_comm _ hname]
  | languages => simp only [Menu.click, apply, Selection.set_comm _ hname]
  | bacLanguages => simp only [Menu.click, apply, Selection.set_comm _ hname]
  | bacResults => simp only [Menu.click, apply, Selection.set_comm _ hname]

-- An exam without its level is given up by any click that comes before the level is ticked.
example :
    let s : State := { initial with levels := .all ["Primar"], inBacData := true }
    ((s.apply (.level "Primar" false)).apply (.level "Liceal" true)).source = .general ∧
      ((s.apply (.level "Liceal" true)).apply (.level "Primar" false)).source = .bac := by decide

/-- In any state two updates of different groups can be made in either order, and so can whole runs
    be mixed in any way that keeps the order within each group. In a state that clicking leads to,
    two clicks on different names of one menu can be made in either order as well. -/
theorem independent_updates :
    (∀ (s : State) (u v : Update), u.group ≠ v.group →
      (s.apply u).apply v = (s.apply v).apply u) ∧
    (∀ (s : State) (updates updates' : List Update),
      (∀ g, updates.filter (·.group = g) = updates'.filter (·.group = g)) →
        s.applyAll updates = s.applyAll updates') ∧
    ∀ (updates : List Update) (menu : Menu) (name other : String) (ticked ticked' : Bool),
      name ≠ other →
        ((initial.applyAll updates).apply (menu.click name ticked)).apply (menu.click other ticked')
          = ((initial.applyAll updates).apply (menu.click other ticked')).apply
              (menu.click name ticked) :=
  ⟨fun s _ _ => apply_comm_of_group_ne s, fun s _ _ => applyAll_eq_of_filter_eq s,
    fun updates menu _ _ ticked ticked' hname =>
      click_comm (consistent_initial.applyAll updates) menu hname ticked ticked'⟩

/-- A stored state with an exam but not its level: whether the exam or the county is picked first,
    and how two runs of clicks on levels and on the town are mixed. Then both exams, of which one
    is given up with its level whichever of two levels is unticked first. -/
theorem independent_updates_mixed :
    let stored : State := { initial with levels := .all ["Primar"], inBacData := true }
    let clicked : State := initial.applyAll [.examDataset true]
    (stored.apply (.inEvaluationData true)).apply (.county (some "CJ"))
        = (stored.apply (.county (some "CJ"))).apply (.inEvaluationData true) ∧
      stored.applyAll [.county (some "CJ"), .level "Primar" false, .town (some "Turda"),
          .level "Liceal" true]
        = stored.applyAll [.level "Primar" false, .level "Liceal" true, .county (some "CJ"),
          .town (some "Turda")] ∧
      (clicked.apply (.level "Liceal" false)).apply (.level "Primar" false)
        = (clicked.apply (.level "Primar" false)).apply (.level "Liceal" false) ∧
      ((clicked.apply (.level "Liceal" false)).apply (.level "Primar" false)).source
        = .evaluation := by
  intro stored clicked
  refine ⟨independent_updates.1 stored _ _ (by decide),
    independent_updates.2.1 stored _ _ (fun g => ?_),
    independent_updates.2.2 [.examDataset true] .levels _ _ false false (by decide), by decide⟩
  cases g <;> rfl

end State

end Filter

end SchoolAtlas
