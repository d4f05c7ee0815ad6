import Mathlib.Data.List.Destutter
import SchoolAtlas.Proofs.Filter.Independence

/-!
# Updates That Are Made Again

A click that comes twice, and an event that is replayed.

An update asks for something, and whether a state is already as it asks can be read off the state:
`State.Reflects` says so for each kind of update, without making the update. The one kind that may
be refused is the opening of a town, and a state that refuses a town is as it should be too. After
an update the state is as the update asks (`State.reflects_apply`), and an update changes nothing
exactly in the states that are (`State.apply_eq_self_iff`). So the second of two equal updates
changes nothing, whatever was stored to begin with.

That the cascades do not get in the way is seen here as well. An update that looks at the state
before it, to see what it has to bring along, finds the second time that it has been brought along.

A run may then be cleared of immediate repetitions. With what is known of independent updates this
can be done in each group by itself: an event may be replayed late, after any number of updates
that are about something else.

## Main definitions

* `Selection.Stands`: A box of a menu is as a click leaves it.
* `Filter.State.Reflects`: A state is as an update asks.

## Theorems

* `Filter.State.reflects_apply`: After an update the state is as it asks.
* `Filter.State.apply_eq_self_iff`: When an update changes nothing.
* `Filter.State.applyAll_destutter`: Immediate repetitions do not matter.
* `Filter.State.applyAll_eq_of_destutter_eq`: Nor do repetitions within a group.
* `Filter.State.repeated_updates`: An update that is made again changes nothing.
-/

namespace SchoolAtlas

/-- A value is put in without change exactly if it is there. -/
theorem NameMap.insert_eq_self_iff {α : Type u} {m : NameMap α} {name : String} {value : α} :
    m.insert name value = m ↔ m.get? name = some value := by
  constructor
  · intro h
    have hfound := m.get?_insert name value name
    rw [h, if_pos rfl] at hfound
    exact hfound
  · intro hfound
    -- Putting what is there already changes no name, be it this one or another.
    refine ext_get? (fun x => ?_)
    rw [get?_insert]
    by_cases hx : name = x
    · rw [if_pos hx, ← hx, hfound]
    · rw [if_neg hx]

namespace Selection

variable {menu : Selection} {name : String} {ticked : Bool}

/-- A box of a menu is as a click leaves it: listed, with or without a tick. -/
def Stands (menu : Selection) (name : String) (ticked : Bool) : Prop :=
  menu.ticks.get? name = some ticked

theorem set_eq_self_iff : menu.set name ticked = menu ↔ menu.Stands name ticked := by
  rw [Stands, ← NameMap.insert_eq_self_iff]
  constructor
  · exact fun h => congrArg ticks h
  · exact fun h => congrArg Selection.mk h

theorem stands_set : (menu.set name ticked).Stands name ticked := by
  rw [Stands, set, NameMap.get?_insert, if_pos rfl]

end Selection

namespace Filter

namespace State

variable {s : State}

/-- The baccalaureate is on, with its level, or off. -/
def UsesBac (s : State) (on : Bool) : Prop :=
  s.inBacData = on ∧ (on = true → s.levels.isSelected Catalogue.highSchool = true)

/-- The national evaluation is on, with its level, or off. -/
def UsesEvaluation (s : State) (on : Bool) : Prop :=
  s.inEvaluationData = on ∧ (on = true → s.levels.isSelected Catalogue.middleSchool = true)

/-- A state is as an update asks, together with what the update brings along. -/
def Reflects (s : State) : Update → Prop
  | .county code => s.county = code
  | .town none => s.town = none
  -- Where there are no towns, none can be opened.
  | .town (some name) =>
      s.county = none ∨ s.county = some Catalogue.capital ∨ s.town = some name
  | .level name ticked =>
      s.levels.Stands name ticked ∧
      (s.inBacData = true → s.levels.isSelected Catalogue.highSchool = true) ∧
      (s.inEvaluationData = true → s.levels.isSelected Catalogue.middleSchool = true)
  | .language name ticked => s.languages.Stands name ticked
  | .bacLanguage name ticked => s.bacLanguages.Stands name ticked
  | .bacResult name ticked => s.bacResults.Stands name ticked
  | .strictLevelLanguage on => s.strictLevelLanguage = on
  | .perCapita on => s.perCapita = on ∧ (on = false → s.schoolAgeOnly = false)
  | .schoolAgeOnly on => s.schoolAgeOnly = on ∧ (on = true → s.perCapita = true)
  | .examDataset on => s.examDataset = on ∧ (on = true → s.UsesBac true ∧ s.UsesEvaluation true)
  | .inBacData on => s.UsesBac on
  | .inEvaluationData on => s.UsesEvaluation on
  | .source source => s.UsesBac (source == .bac) ∧ s.UsesEvaluation (source == .evaluation)

/-- After an update the state is as the update asks. -/
theorem reflects_apply (s : State) (u : Update) : (s.apply u).Reflects u := by
  cases u with
  | county code => rfl
  | town name =>
      rw [apply]
      -- A town is picked in a county other than the capital. Elsewhere there is nothing to
      -- reflect.
      unfold pickTown
      split
      · rfl
      · next hcounty => exact Or.inl hcounty
      · next c t hcounty =>
        split
        · next hcapital => exact Or.inr (Or.inl (hcounty.trans (congrArg some hcapital)))
        · exact Or.inr (Or.inr rfl)
  | level name ticked =>
      -- A flag that is still set has had its level looked at.
      refine ⟨Selection.stands_set, fun hbac => ?_, fun hevaluation => ?_⟩
      · simp only [apply, tickLevel, Bool.and_eq_true] at hbac
        exact hbac.2
      · simp only [apply, tickLevel, Bool.and_eq_true] at hevaluation
        exact hevaluation.2
  | language name ticked => exact Selection.stands_set
  | bacLanguage name ticked => exact Selection.stands_set
  | bacResult name ticked => exact Selection.stands_set
  | strictLevelLanguage on => rfl
  | perCapita on => cases on <;> simp [Reflects, apply]
  | schoolAgeOnly on => cases on <;> simp [Reflects, apply]
  | examDataset on =>
      -- Both exams are put to use, and using the second unticks no level of the first.
      cases on <;> simp [Reflects, UsesBac, UsesEvaluation, apply, useExams, useBac, useEvaluation]
  | inBacData on => cases on <;> simp [Reflects, UsesBac, apply, useBac]
  | inEvaluationData on => cases on <;> simp [Reflects, UsesEvaluation, apply, useEvaluation]
  | source source =>
      cases source <;> simp [Reflects, UsesBac, UsesEvaluation, apply, useBac, useEvaluation]

theorem useBac_eq_self {on : Bool} (h : s.UsesBac on) : s.useBac on = s := by
  rcases h with ⟨hon, hlevel⟩
  -- The level need not be forced, and so the menu of levels stays as it is.
  have hlevels : (if on then withLevel s.levels Catalogue.highSchool else s.levels) = s.levels := by
    cases on with
    | false => rfl
    | true => exact if_pos (hlevel rfl)
  rw [useBac, hlevels, ← hon]

theorem useEvaluation_eq_self {on : Bool} (h : s.UsesEvaluation on) : s.useEvaluation on = s := by
  rcases h with ⟨hon, hlevel⟩
  have hlevels : (if on then withLevel s.levels Catalogue.middleSchool else s.levels)
      = s.levels := by
    cases on with
    | false => rfl
    | true => exact if_pos (hlevel rfl)
  rw [useEvaluation, hlevels, ← hon]

theorem pickTown_eq_self {name : Option String} (h : s.Reflects (.town name)) :
    s.pickTown name = s := by
  unfold pickTown
  split
  · next htown =>
    have hclosed : s.town = none := h
    rw [← hclosed]
  · rfl
  · next c t hcounty =>
    by_cases hc : c = Catalogue.capital
    · rw [if_pos hc]
    · rw [if_neg hc]
      -- The county has towns, so the town is the one that is open.
      rcases h with hnone | hcapital | htown
      · rw [hcounty] at hnone
        exact absurd hnone (Option.some_ne_none c)
      · rw [hcounty, Option.some.injEq] at hcapital
        exact absurd hcapital hc
      · rw [← htown]

/-- An update changes nothing in a state that is as it asks. -/
theorem apply_eq_self {u : Update} (h : s.Reflects u) : s.apply u = s := by
  cases u with
  | county code =>
      -- The county is open, so its town is not closed.
      have hcounty : s.county = code := h
      rw [apply, pickCounty, if_pos hcounty, ← hcounty]
  | town name => exact pickTown_eq_self h
  | level name ticked =>
      rcases h with ⟨hstands, hbac, hevaluation⟩
      -- The flags are looked at again, and the levels of those that are set are ticked.
      have hkept : ∀ exam level : Bool, (exam = true → level = true) → (exam && level) = exam := by
        intro exam level hlevel
        cases exam with
        | false => rfl
        | true => rw [hlevel rfl, Bool.and_self]
      simp only [apply, tickLevel, Selection.set_eq_self_iff.mpr hstands, hkept _ _ hbac,
        hkept _ _ hevaluation]
  | language name ticked => simp only [apply, Selection.set_eq_self_iff.mpr h]
  | bacLanguage name ticked => simp only [apply, Selection.set_eq_self_iff.mpr h]
  | bacResult name ticked => simp only [apply, Selection.set_eq_self_iff.mpr h]
  | strictLevelLanguage on =>
      have hon : s.strictLevelLanguage = on := h
      rw [apply, ← hon]
  | perCapita on =>
      rcases h with ⟨hon, hage⟩
      -- Without rates the school age is off already.
      have hkept : (s.schoolAgeOnly && on) = s.schoolAgeOnly := by
        cases on with
        | false => rw [hage rfl, Bool.and_false]
        | true => exact Bool.and_true _
      rw [apply, hkept, ← hon]
  | schoolAgeOnly on =>
      rcases h with ⟨hon, hcapita⟩
      -- With the school age rates are on already.
      have hkept : (s.perCapita || on) = s.perCapita := by
        cases on with
        | false => exact Bool.or_false _
        | true => rw [hcapita rfl, Bool.or_true]
      rw [apply, hkept, ← hon]
  | examDataset on =>
      rcases h with ⟨hon, huses⟩
      cases on with
      | false => rw [apply, useExams, if_neg Bool.false_ne_true, ← hon]
      | true =>
          -- Both exams are in use, so using them once more ticks no level.
          rcases huses rfl with ⟨hbac, hevaluation⟩
          rw [apply, useExams, if_pos rfl, useBac_eq_self hbac, useEvaluation_eq_self hevaluation,
            ← hon]
  | inBacData on => exact useBac_eq_self h
  | inEvaluationData on => exact useEvaluation_eq_self h
  | source source =>
      -- A source says of both exams whether they are used, and each is as it says.
      rcases h with ⟨hbac, hevaluation⟩
      rw [apply, useBac_eq_self hbac, useEvaluation_eq_self hevaluation]

/-- An update changes nothing exactly in the states that are as it asks. -/
theorem apply_eq_self_iff {u : Update} : s.apply u = s ↔ s.Reflects u :=
  ⟨fun h => h ▸ reflects_apply s u, apply_eq_self⟩

/-- The second of two equal updates changes nothing. -/
theorem apply_apply (s : State) (u : Update) : (s.apply u).apply u = s.apply u :=
  apply_eq_self (reflects_apply s u)

/-- A run leads where it leads without immediate repetitions. -/
theorem applyAll_destutter (s : State) (updates : List Update) :
    s.applyAll (updates.destutter (· ≠ ·)) = s.applyAll updates := by
  cases updates with
  | nil => rfl
  | cons u rest =>
      rw [List.destutter_cons']
      -- The induction carries the update that was made last.
      induction rest generalizing s u with
      | nil => rfl
      | cons v rest ih =>
          by_cases huv : u = v
          · subst huv
            have hagain : s.applyAll (u :: u :: rest) = s.applyAll (u :: rest) :=
              congrArg (applyAll · rest) (apply_apply s u)
            rw [List.destutter'_cons_neg _ (not_not_intro rfl), ih, hagain]
          · rw [List.destutter'_cons_pos _ huv]
            exact ih (s.apply u) v

/-- Runs lead to the same state if they differ in each group by immediate repetitions, however
    their groups are mixed. -/
theorem applyAll_eq_of_destutter_eq (s : State) {updates updates' : List Update}
    (h : ∀ g, (updates.filter (·.group = g)).destutter (· ≠ ·)
      = (updates'.filter (·.group = g)).destutter (· ≠ ·)) :
    s.applyAll updates = s.applyAll updates' := by
  refine ext_part (fun g => ?_)
  rw [part_applyAll s updates, part_applyAll s updates', ← applyAll_destutter s (updates.filter _),
    ← applyAll_destutter s (updates'.filter _), h]

/-- An update that is made again changes nothing, in any state, since the update changes nothing
    exactly where things are as it asks, and after it they are. So it does not matter how often
    updates of a run are repeated, at once or after updates that are about something else. -/
theorem repeated_updates :
    (∀ (s : State) (u : Update), (s.apply u).apply u = s.apply u) ∧
    (∀ (s : State) (u : Update), s.apply u = s ↔ s.Reflects u) ∧
    ∀ (s : State) (updates updates' : List Update),
      (∀ g, (updates.filter (·.group = g)).destutter (· ≠ ·)
        = (updates'.filter (·.group = g)).destutter (· ≠ ·)) →
      s.applyAll updates = s.applyAll updates' :=
  ⟨apply_apply, fun _ _ => apply_eq_self_iff, fun s _ _ => applyAll_eq_of_destutter_eq s⟩

/-- A stored state with an exam but not its level and with the school-age population but no counting
    per capita. A level is clicked twice, which gives up the exam, and the exams are asked for again
    after the counting has been changed. -/
theorem repeated_updates_stored :
    let stored : State :=
      { initial with levels := .all ["Primar"], inBacData := true, schoolAgeOnly := true }
    (stored.apply (.level "Primar" true)).apply (.level "Primar" true)
        = stored.apply (.level "Primar" true) ∧
      (stored.apply (.level "Primar" true)).source = .general ∧
      stored.applyAll [.examDataset true, .perCapita true, .perCapita true, .examDataset true]
        = stored.applyAll [.examDataset true, .perCapita true] := by
  intro stored
  refine ⟨repeated_updates.1 stored _, by decide, repeated_updates.2.2 stored _ _ (fun g => ?_)⟩
  cases g <;> rfl

end State

end Filter

end SchoolAtlas
