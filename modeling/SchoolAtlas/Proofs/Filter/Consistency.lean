import SchoolAtlas.Filter.Preset

/-!
# Consistent Filter States

Which combinations clicking leads to, and which a stored state may bring along.

`State.Consistent` has four rules. A town belongs to a county that has towns, the
school-age population is a way of counting per capita, and each exam goes with the
level that leads to it. No update looks at all four, and none has to: each rule is
kept on its own, whatever the others say. That is why there is one lemma for each
rule here and none for the conjunction. An update keeps a rule either because it
does not touch the fields the rule is about or because it brings the other field
along, and the few updates of the second kind are the named cases of the proofs.

Being kept one by one matters for stored states. A stored state is read field by
field, and only its town is picked as a click would pick it. So the rule about
towns holds of whatever is read, and the three others hold exactly if the flags
were stored that way: `Preset.FlagsAgree`. A state that breaks one of them can be
stored in a few characters.

## Main definitions

* `Filter.State.TownInCounty`: The rule about towns.
* `Filter.Preset.FlagsAgree`: The stored flags keep the three other rules.

## Theorems

* `Filter.State.pickTown_frame`: Picking a town touches nothing else.
* `Filter.State.isSelected_withLevel`: What is ticked once a level is forced.
* `Filter.State.Consistent.apply`: Every update keeps the rules.
* `Filter.State.applyAll_of_apply`: What every update keeps, every run keeps.
* `Filter.State.consistent_runs`: Every run from the start keeps them.
* `Filter.Preset.consistent_state_iff`: When a stored state keeps them.
* `Filter.State.storedRuns_consistent_iff`: Runs that start from a stored state.
* `Filter.State.stored_not_consistent`: A stored state that breaks three rules.
-/

namespace SchoolAtlas

namespace Filter

namespace State

variable {s : State}

/-- A town is open only in a county that has towns. -/
def TownInCounty (s : State) : Prop :=
  s.town.isSome → ∃ c, s.county = some c ∧ c ≠ Catalogue.capital

/-- Picking a town touches nothing else, whether or not the town is opened. -/
theorem pickTown_frame (s : State) (name : Option String) :
    ∃ town, s.pickTown name = { s with town } := by
  unfold pickTown
  split
  · exact ⟨none, rfl⟩
  · exact ⟨s.town, rfl⟩
  · next t _ =>
    split
    · exact ⟨s.town, rfl⟩
    · exact ⟨some t, rfl⟩

@[simp]
theorem isSelected_withLevel (levels : Selection) (name x : String) :
    (withLevel levels name).isSelected x = (decide (name = x) || levels.isSelected x) := by
  unfold withLevel
  by_cases hticked : levels.isSelected name = true
  · rw [if_pos hticked]
    by_cases hname : name = x
    · rw [← hname, hticked, Bool.or_true]
    · simp only [hname, decide_false, Bool.false_or]
  · rw [if_neg hticked, Selection.isSelected_set]
    by_cases hname : name = x <;> simp [hname]

/-- A town that a click opens lies in the county shown. -/
theorem townInCounty_pickTown (h : s.TownInCounty) (name : Option String) :
    (s.pickTown name).TownInCounty := by
  unfold pickTown
  split
  · -- Closing a town leaves none to ask about.
    intro htown
    exact absurd htown Bool.false_ne_true
  · exact h
  · next c t hcounty =>
    split
    · exact h
    · next hc => exact fun _ => ⟨c, hcounty, hc⟩

theorem townInCounty_apply (h : s.TownInCounty) (u : Update) : (s.apply u).TownInCounty := by
  cases u with
  | county code =>
      intro htown
      by_cases hcode : s.county = code
      · -- The county does not change, and so the town may stay.
        simp only [apply, pickCounty, hcode, if_true] at htown ⊢
        exact hcode ▸ h htown
      · simp only [apply, pickCounty, hcode, if_false, Option.isSome_none,
          Bool.false_eq_true] at htown
  | town name => exact townInCounty_pickTown h name
  | examDataset on => cases on <;> exact h
  -- No other update touches the place.
  | _ => exact h

theorem schoolAge_apply (h : s.schoolAgeOnly = true → s.perCapita = true) (u : Update) :
    (s.apply u).schoolAgeOnly = true → (s.apply u).perCapita = true := by
  cases u with
  | town name =>
      rcases pickTown_frame s name with ⟨town, hframe⟩
      rw [apply, hframe]
      exact h
  | perCapita on =>
      -- Turning it off drops the school-age population as well.
      simp only [apply, Bool.and_eq_true]
      exact fun hboth => hboth.2
  | schoolAgeOnly on =>
      intro hon
      simp only [apply] at hon ⊢
      rw [hon, Bool.or_true]
  | examDataset on => cases on <;> exact h
  | _ => exact h

theorem bacLevel_apply
    (h : s.inBacData = true → s.levels.isSelected Catalogue.highSchool = true) (u : Update) :
    (s.apply u).inBacData = true →
      (s.apply u).levels.isSelected Catalogue.highSchool = true := by
  cases u with
  | town name =>
      rcases pickTown_frame s name with ⟨town, hframe⟩
      rw [apply, hframe]
      exact h
  | level name ticked =>
      -- An exam whose level is no longer ticked is given up.
      simp only [apply, tickLevel, Bool.and_eq_true]
      exact fun hboth => hboth.2
  | examDataset on =>
      cases on with
      | false => exact h
      | true => simp [apply, useExams, useBac, useEvaluation]
  | inBacData on => cases on <;> simp [apply, useBac]
  | inEvaluationData on =>
      -- Forcing the level of the other exam unticks nothing.
      intro hbac
      have hticked := h hbac
      cases on <;> simp [apply, useEvaluation, hticked]
  | source source => cases source <;> simp [apply, useBac, useEvaluation]
  | _ => exact h

theorem evaluationLevel_apply
    (h : s.inEvaluationData = true → s.levels.isSelected Catalogue.middleSchool = true)
    (u : Update) :
    (s.apply u).inEvaluationData = true →
      (s.apply u).levels.isSelected Catalogue.middleSchool = true := by
  cases u with
  | town name =>
      rcases pickTown_frame s name with ⟨town, hframe⟩
      rw [apply, hframe]
      exact h
  | level name ticked =>
      simp only [apply, tickLevel, Bool.and_eq_true]
      exact fun hboth => hboth.2
  | examDataset on =>
      cases on with
      | false => exact h
      | true => simp [apply, useExams, useBac, useEvaluation]
  | inBacData on =>
      -- Using the other exam ticks a level and unticks none.
      intro hevaluation
      have hticked := h hevaluation
      cases on <;> simp [apply, useBac, hticked]
  | inEvaluationData on => cases on <;> simp [apply, useEvaluation]
  | source source => cases source <;> simp [apply, useBac, useEvaluation]
  | _ => exact h

theorem Consistent.apply (h : s.Consistent) (u : Update) : (s.apply u).Consistent where
  town_county := townInCounty_apply h.town_county u
  schoolAge_perCapita := schoolAge_apply h.schoolAge_perCapita u
  bac_level := bacLevel_apply h.bac_level u
  evaluation_level := evaluationLevel_apply h.evaluation_level u

theorem applyAll_append (s : State) (updates more : List Update) :
    s.applyAll (updates ++ more) = (s.applyAll updates).applyAll more :=
  List.foldl_append

/-- What every update keeps, every run of updates keeps. -/
theorem applyAll_of_apply {P : State → Prop} (hstep : ∀ s u, P s → P (s.apply u)) (h : P s)
    (updates : List Update) : P (s.applyAll updates) := by
  induction updates generalizing s with
  | nil => exact h
  | cons u rest ih => exact ih (hstep s u h)

theorem Consistent.applyAll (h : s.Consistent) (updates : List Update) :
    (s.applyAll updates).Consistent :=
  applyAll_of_apply (fun _ u ht => ht.apply u) h updates

theorem consistent_initial : initial.Consistent where
  town_county := fun htown => absurd htown Bool.false_ne_true
  schoolAge_perCapita := fun hage => absurd hage Bool.false_ne_true
  bac_level := fun hbac => absurd hbac Bool.false_ne_true
  evaluation_level := fun hevaluation => absurd hevaluation Bool.false_ne_true

/-- The rules hold at the start, every update keeps them, and so they hold after every
    run of updates. -/
theorem consistent_runs :
    initial.Consistent ∧ (∀ (s : State) (u : Update), s.Consistent → (s.apply u).Consistent) ∧
      ∀ updates : List Update, (initial.applyAll updates).Consistent :=
  ⟨consistent_initial, fun _ u h => h.apply u, fun updates => consistent_initial.applyAll updates⟩

/-- From the start, a town and both exams are picked. Unticking high school then gives up
    the baccalaureate, and showing the country closes the town. -/
theorem consistent_runs_clicked :
    let s := initial.applyAll
      [.county (some "CJ"), .town (some "Turda"), .examDataset true, .schoolAgeOnly true]
    s.openTown? = some ("CJ", "Turda") ∧ s.source = .bac ∧ s.Consistent ∧
      (s.apply (.level Catalogue.highSchool false)).Consistent ∧
      (s.apply (.county none)).Consistent := by
  intro s
  have hs : s.Consistent := consistent_runs.2.2 _
  exact ⟨by decide, by decide, hs, consistent_runs.2.1 s _ hs, consistent_runs.2.1 s _ hs⟩

end State

namespace Preset

/-- The flags of a stored state go together: those that are written, with what is
    missing as it was at the start. -/
def FlagsAgree (p : Preset) : Prop :=
  (p.schoolAgeOnly = some true → p.perCapita = some true) ∧
  (p.inBacData = some true →
    (p.levels.getD State.initial.levels).isSelected Catalogue.highSchool = true) ∧
  (p.inEvaluationData = some true →
    (p.levels.getD State.initial.levels).isSelected Catalogue.middleSchool = true)

instance (p : Preset) : Decidable p.FlagsAgree := inferInstanceAs (Decidable (_ ∧ _ ∧ _))

variable {p : Preset}

/-- A flag that is not written is off. -/
theorem getD_false_iff {flag : Option Bool} : flag.getD false = true ↔ flag = some true := by
  rcases flag with _ | _ | _ <;> simp

/-- Whatever place is written, a town is only open in a county that has towns. -/
theorem townInCounty_state (p : Preset) : p.state.TownInCounty := by
  -- Before its town is picked, a stored state has none.
  have hnone : p.withoutTown.TownInCounty := fun htown => absurd htown Bool.false_ne_true
  exact State.townInCounty_pickTown hnone p.town

/-- The state that a preset stands for is consistent exactly if its flags go together.
    Nothing is asked of the place. -/
theorem consistent_state_iff : p.state.Consistent ↔ p.FlagsAgree := by
  -- Picking the town leaves all flags and ticks as they were written.
  rcases State.pickTown_frame p.withoutTown p.town with ⟨town, hframe⟩
  have hstate : p.state = { p.withoutTown with town } := hframe
  have hage : p.state.schoolAgeOnly = true ↔ p.schoolAgeOnly = some true := by
    rw [hstate]
    exact getD_false_iff
  have hcapita : p.state.perCapita = true ↔ p.perCapita = some true := by
    rw [hstate]
    exact getD_false_iff
  have hbac : p.state.inBacData = true ↔ p.inBacData = some true := by
    rw [hstate]
    exact getD_false_iff
  have hevaluation : p.state.inEvaluationData = true ↔ p.inEvaluationData = some true := by
    rw [hstate]
    exact getD_false_iff
  have hlevels : p.state.levels = p.levels.getD State.initial.levels := by rw [hstate]; rfl
  rw [FlagsAgree, ← hage, ← hcapita, ← hbac, ← hevaluation, ← hlevels]
  constructor
  · exact fun h => ⟨h.schoolAge_perCapita, h.bac_level, h.evaluation_level⟩
  · intro h
    rcases h with ⟨hcapita, hhigh, hmiddle⟩
    exact ⟨townInCounty_state p, hcapita, hhigh, hmiddle⟩

end Preset

namespace State

/-- What a stored state brings along. Any text that can be read gives a state that keeps
    the rule about towns, and so does every run from there. The state is consistent exactly
    if the flags were stored so that they go together, and then every run from it is. -/
theorem storedRuns_consistent_iff {text : String} (h : ofPreset? text = some s) :
    ∃ p, (Json.Document.ofText? text).bind Preset.ofDocument? = some p ∧
      (s.Consistent ↔ p.FlagsAgree) ∧
      ∀ updates : List Update, (s.applyAll updates).TownInCounty ∧
        (p.FlagsAgree → (s.applyAll updates).Consistent) := by
  rw [ofPreset?, Option.bind_eq_some_iff] at h
  rcases h with ⟨document, hdocument, hread⟩
  rw [ofDocument?, Option.map_eq_some_iff] at hread
  rcases hread with ⟨p, hp, rfl⟩
  refine ⟨p, ?_, p.consistent_state_iff, fun updates => ⟨?_, fun hflags => ?_⟩⟩
  · rw [hdocument, Option.bind_some, hp]
  · have hstep : ∀ (s : State) (u : Update), s.TownInCounty → (s.apply u).TownInCounty :=
      fun _ u ht => townInCounty_apply ht u
    exact applyAll_of_apply hstep p.townInCounty_state updates
  · exact (p.consistent_state_iff.mpr hflags).applyAll updates

/-- A town of the capital is dropped, and flags that go together are consistent. -/
theorem storedRuns_consistent_capital : ∃ s,
    ofPreset? ("\x7b\"county\":\"B\",\"town\":\"Sector 1\",\"perCapita\":true,"
      ++ "\"schoolAgeOnly\":true,\"inEvaluareData\":true\x7d") = some s ∧
      s.town = none ∧ (s.apply (.perCapita false)).Consistent := by
  let s : State :=
    { initial with county := some "B", perCapita := true, schoolAgeOnly := true,
                   inEvaluationData := true }
  have hread : ofPreset? ("\x7b\"county\":\"B\",\"town\":\"Sector 1\",\"perCapita\":true,"
      ++ "\"schoolAgeOnly\":true,\"inEvaluareData\":true\x7d") = some s := by decide +kernel
  rcases storedRuns_consistent_iff hread with ⟨p, _, hiff, hruns⟩
  -- The state is small enough to look at, and what it says of the flags is all there is.
  have hs : s.Consistent := ⟨by decide, by decide, by decide, by decide⟩
  exact ⟨s, hread, rfl, (hruns [.perCapita false]).2 (hiff.mp hs)⟩

/-- A stored state can break all rules but the one about towns: its flags are taken as
    they are written. -/
theorem stored_not_consistent : ∃ s,
    ofPreset? ("\x7b\"schoolAgeOnly\":true,\"inBacData\":true,\"inEvaluareData\":true,"
      ++ "\"levels\":\x7b\"Primar\":true\x7d\x7d") = some s ∧
      ¬(s.schoolAgeOnly = true → s.perCapita = true) ∧
      ¬(s.inBacData = true → s.levels.isSelected Catalogue.highSchool = true) ∧
      ¬(s.inEvaluationData = true → s.levels.isSelected Catalogue.middleSchool = true) := by
  refine ⟨{ initial with levels := .all ["Primar"], schoolAgeOnly := true, inBacData := true,
                         inEvaluationData := true },
    by decide +kernel, by decide, by decide, by decide⟩

end State

end Filter

end SchoolAtlas
