import SchoolAtlas.Proofs.Query.Rows
import SchoolAtlas.Proofs.Selection
import SchoolAtlas.Query.Compile

/-!
# Admission

Which schools and rows a filter state lets through, said without queries.

A state is compiled to joins and conditions, and those are answered with open
answers for empty columns. This file says what they come to, in terms of the
state's ticks and of the rows of the register alone, and proves that the compiled
form means just that.

* A school is admitted by its enrolments if it has one of a ticked level and one
  in a ticked language, which may be two different ones. Under strict matching,
  and if something is ticked in both menus, it needs for every ticked level an
  enrolment of that level in a ticked language.
* A candidate of the baccalaureate is admitted if mother tongue and result pass
  the restrictions. A restriction by mother tongue takes an empty column for the
  majority language, and never lets a row pass that spells the majority language
  out. A school is admitted if it has an admitted candidate.
* A school is admitted by the national evaluation if it has any candidate there.

The map and the roster ask the same of a school, through the same joins and
conditions, so one lemma serves both: `keeps_iff_admits`.

## Main definitions

* `Filter.PassesLanguage`, `Filter.PassesResult`: The rules for candidates.
* `Filter.State.AdmitsCandidate`: A candidate of the baccalaureate is let through.
* `Filter.State.Matches`: A school is let through by its enrolments.
* `Filter.State.Admits`: A school is let through by the data source of the state.
* `Filter.State.InScope`, `Filter.State.place`: The schools shown and their regions.
* `Filter.State.keeps`: A school is let through by the compiled query.

## Theorems

* `Filter.State.eq_keys_of_mem_schoolJoins`: What a state joins to schools.
* `Filter.State.allHold_bacRows_iff`: Compiled conditions on candidates mean the
  rules.
* `Filter.State.keeps_iff_admits`: The compiled query means admission.
-/

namespace SchoolAtlas

namespace Condition

variable {κ : Type} {row : κ → Option String}

/-- Being equal to a value is true only of a column that has it. -/
theorem truth_equals_iff {column : κ} {value : String} :
    (equals column value).truth row = some true ↔ row column = some value := by
  rw [truth, Option.map_eq_some_iff]
  constructor
  · intro hex
    rcases hex with ⟨v, hv, heq⟩
    rw [hv, eq_of_beq heq]
  · exact fun hv => ⟨value, hv, BEq.rfl⟩

theorem truth_oneOf_iff {column : κ} {values : List String} :
    (oneOf column values).truth row = some true ↔ row column ∈ values.map some := by
  rw [truth, Option.map_eq_some_iff, List.mem_map]
  constructor
  · intro hex
    rcases hex with ⟨v, hv, hin⟩
    exact ⟨v, List.contains_iff_mem.mp hin, hv.symm⟩
  · intro hex
    rcases hex with ⟨v, hin, hv⟩
    exact ⟨v, hv.symm, List.contains_iff_mem.mpr hin⟩

/-- Being empty is true only of an empty column. -/
theorem truth_isNull_iff {column : κ} :
    (isNull column).truth row = some true ↔ row column = none := by
  rw [truth, Option.some.injEq, Option.isNone_iff_eq_none]

end Condition

namespace DetailQuery

variable {r : Register} {school : School} {conditions : List (Condition DetailColumn)}

/-- Finding an enrolment of a school. -/
theorem finds_enrolment_iff :
    finds ⟨.enrolments, conditions⟩ r school = true ↔
      ∃ e ∈ r.enrolments, e.school = school.id ∧
        Condition.allHold (Detail.ofEnrolment e).text conditions = true := by
  rw [finds_iff]
  simp only [Register.details, List.mem_map, exists_exists_and_eq_and]
  rfl

theorem finds_bacResult_iff :
    finds ⟨.bacResults, conditions⟩ r school = true ↔
      ∃ b ∈ r.bacResults, b.school = school.id ∧
        Condition.allHold (Detail.ofBacResult b).text conditions = true := by
  rw [finds_iff]
  simp only [Register.details, List.mem_map, exists_exists_and_eq_and]
  rfl

theorem finds_evaluationResult_iff :
    finds ⟨.evaluationResults, conditions⟩ r school = true ↔
      ∃ e ∈ r.evaluationResults, e.school = school.id ∧
        Condition.allHold (Detail.ofEvaluationResult e).text conditions = true := by
  rw [finds_iff]
  simp only [Register.details, List.mem_map, exists_exists_and_eq_and]
  rfl

end DetailQuery

namespace Filter

/-- The rule on mother tongues. An empty column stands for the majority language, and
    the majority language spelt out never passes a restriction. -/
def PassesLanguage : Option (List String) → Option String → Prop
  | none, _ => True
  | some picked, none => Catalogue.majorityLanguage ∈ picked
  | some picked, some language => language ≠ Catalogue.majorityLanguage ∧ language ∈ picked

instance : (restriction : Option (List String)) → (language : Option String) →
    Decidable (PassesLanguage restriction language)
  | none, _ => inferInstanceAs (Decidable True)
  | some _, none => inferInstanceAs (Decidable (_ ∈ _))
  | some _, some _ => inferInstanceAs (Decidable (_ ∧ _))

/-- The rule on results. An empty column never passes a restriction. -/
def PassesResult : Option (List String) → Option String → Prop
  | none, _ => True
  | some picked, result => result ∈ picked.map some

instance : (restriction : Option (List String)) → (result : Option String) →
    Decidable (PassesResult restriction result)
  | none, _ => inferInstanceAs (Decidable True)
  | some _, _ => inferInstanceAs (Decidable (_ ∈ _))

namespace State

/-- A candidate of the baccalaureate is let through. -/
def AdmitsCandidate (s : State) (b : BacResult) : Prop :=
  PassesLanguage s.bacLanguages.restriction? b.motherTongue
    ∧ PassesResult s.bacResults.restriction? b.result

/-- The level of an enrolment is ticked. -/
def LevelTicked (s : State) (e : Enrolment) : Prop := e.level ∈ s.levels.selected

/-- The language of an enrolment is ticked. -/
def LanguageTicked (s : State) (e : Enrolment) : Prop :=
  e.language ∈ s.languages.selected.map some

instance (s : State) (b : BacResult) : Decidable (s.AdmitsCandidate b) :=
  inferInstanceAs (Decidable (_ ∧ _))

instance (s : State) (e : Enrolment) : Decidable (s.LevelTicked e) :=
  inferInstanceAs (Decidable (_ ∈ _))

instance (s : State) (e : Enrolment) : Decidable (s.LanguageTicked e) :=
  inferInstanceAs (Decidable (_ ∈ _))

/-- A school is let through by its enrolments. Under strict matching, with something
    ticked in both menus, every ticked level needs an enrolment of its own in a ticked
    language. Otherwise level and language are asked for apart, and a menu with nothing
    ticked asks for nothing. -/
def Matches (s : State) (r : Register) (school : School) : Prop :=
  if s.strictLevelLanguage = true ∧ s.levels.selected ≠ [] ∧ s.languages.selected ≠ [] then
    ∀ level ∈ s.levels.selected,
      ∃ e ∈ r.enrolments, e.school = school.id ∧ e.level = level ∧ s.LanguageTicked e
  else
    (s.levels.selected = [] ∨ ∃ e ∈ r.enrolments, e.school = school.id ∧ s.LevelTicked e)
      ∧ (s.languages.selected = []
        ∨ ∃ e ∈ r.enrolments, e.school = school.id ∧ s.LanguageTicked e)

instance (s : State) (r : Register) (school : School) : Decidable (s.Matches r school) :=
  inferInstanceAs (Decidable (ite _ _ _))

/-- A school is let through by a data source. -/
def AdmittedBy (s : State) (r : Register) (school : School) : DataSource → Prop
  | .general => s.Matches r school
  | .bac => ∃ b ∈ r.bacResults, b.school = school.id ∧ s.AdmitsCandidate b
  | .evaluation => ∃ e ∈ r.evaluationResults, e.school = school.id

instance (s : State) (r : Register) (school : School) :
    (source : DataSource) → Decidable (s.AdmittedBy r school source)
  | .general => inferInstanceAs (Decidable (s.Matches r school))
  | .bac => inferInstanceAs (Decidable (∃ b ∈ r.bacResults, _ ∧ _))
  | .evaluation => inferInstanceAs (Decidable (∃ e ∈ r.evaluationResults, _))

/-- A school is let through by the data source of the state. -/
def Admits (s : State) (r : Register) (school : School) : Prop :=
  s.AdmittedBy r school s.source

instance (s : State) (r : Register) (school : School) : Decidable (s.Admits r school) :=
  inferInstanceAs (Decidable (s.AdmittedBy r school s.source))

/-- A school lies in the county shown, if there is one. -/
def InScope (s : State) (school : School) : Prop :=
  s.county = none ∨ s.county = some school.county

instance (s : State) (school : School) : Decidable (s.InScope school) :=
  inferInstanceAs (Decidable (_ ∨ _))

/-- The region of a school: its county, and on the map of a county its town, with one
    name for schools of no town. -/
def place (s : State) (school : School) : String × Option String :=
  (school.county,
    if s.county.isSome then some (school.town.getD RegionQuery.unknownTown) else none)

/-- A school is let through by the joins and conditions of the compiled query. -/
def keeps (s : State) (r : Register) (school : School) : Bool :=
  s.schoolConditions.all (SchoolCondition.holds r school)
    && s.schoolJoins.all (fun j => j.keeps r school)

/-- A choice of values asks for one of them, unless there are none. -/
theorem allHold_choice_iff {row : DetailColumn → Option String} {column : DetailColumn}
    {values : List String} :
    (∀ c ∈ choice column values, c.truth row = some true) ↔
      values = [] ∨ row column ∈ values.map some := by
  rw [choice, Condition.oneOf?]
  -- Without values there is no condition to hold.
  cases values with
  | nil =>
      simp only [List.isEmpty_nil, if_true, Option.toList_none, List.not_mem_nil, false_implies,
        implies_true, true_or]
  | cons v rest =>
      simp only [List.isEmpty_cons, Bool.false_eq_true, if_false, Option.toList_some,
        List.forall_mem_singleton, Condition.truth_oneOf_iff, reduceCtorEq, false_or]

/-- The condition on mother tongues means the rule. -/
theorem motherTongueCondition?_iff {row : DetailColumn → Option String} {languages : Selection} :
    (∀ c ∈ (motherTongueCondition? languages).toList, c.truth row = some true) ↔
      PassesLanguage languages.restriction? (row .motherTongue) := by
  rw [motherTongueCondition?]
  cases hr : languages.restriction? with
  | none =>
      simp only [Option.bind_none, Option.toList_none, List.not_mem_nil, false_implies,
        implies_true, PassesLanguage]
  | some picked =>
      -- Something is picked, so without the majority language a minority is.
      have hpicked : picked ≠ [] := by
        rcases Selection.restriction?_eq_some_iff.mp hr with ⟨hne, _, heq⟩
        exact heq ▸ hne
      rw [Option.bind_some]
      by_cases hmajority : picked.contains Catalogue.majorityLanguage = true
      · rw [if_pos hmajority, Option.toList_some, List.forall_mem_singleton, Condition.truth]
        -- The condition reads: empty, or one of the minorities that are picked.
        refine (?_ : _ ↔ row .motherTongue = none ∨ row .motherTongue
          ∈ (picked.filter (· ≠ Catalogue.majorityLanguage)).map some).trans ?_
        · cases picked.filter (· ≠ Catalogue.majorityLanguage) with
          | nil =>
              simp only [Condition.oneOf?, List.isEmpty_nil, if_true, Condition.truth_isNull_iff,
                List.map_nil, List.not_mem_nil, or_false]
          | cons v rest =>
              simp only [Condition.oneOf?, List.isEmpty_cons, Bool.false_eq_true, if_false]
              rw [Condition.truth, Truth.or_eq_true_iff, Condition.truth_isNull_iff,
                Condition.truth_oneOf_iff]
        cases row .motherTongue with
        | none => simp only [PassesLanguage, List.contains_iff_mem.mp hmajority, true_or]
        | some l =>
            simp only [PassesLanguage, reduceCtorEq, false_or, List.mem_map, List.mem_filter,
              decide_eq_true_eq, Option.some.injEq, exists_eq_right]
            exact and_comm
      · rw [if_neg hmajority]
        have hnot : Catalogue.majorityLanguage ∉ picked :=
          fun h => hmajority (List.contains_iff_mem.mpr h)
        -- No minority is dropped from the list, and none may be the majority language.
        have hall : picked.filter (· ≠ Catalogue.majorityLanguage) = picked := by
          refine List.filter_eq_self.mpr (fun l hl => decide_eq_true (fun h => hnot (h ▸ hl)))
        rw [hall, Condition.oneOf?, if_neg (by rw [List.isEmpty_iff]; exact hpicked),
          Option.toList_some, List.forall_mem_singleton, Condition.truth_oneOf_iff, List.mem_map]
        cases row .motherTongue with
        | none => simp only [PassesLanguage, hnot, reduceCtorEq, and_false, exists_false]
        | some l =>
            simp only [PassesLanguage, Option.some.injEq, exists_eq_right]
            exact ⟨fun h => ⟨fun heq => hnot (heq ▸ h), h⟩, fun h => h.2⟩

theorem resultCondition?_iff {row : DetailColumn → Option String} {results : Selection} :
    (∀ c ∈ (resultCondition? results).toList, c.truth row = some true) ↔
      PassesResult results.restriction? (row .result) := by
  rw [resultCondition?]
  cases hr : results.restriction? with
  | none =>
      simp only [Option.bind_none, Option.toList_none, List.not_mem_nil, false_implies,
        implies_true, PassesResult]
  | some picked =>
      -- What restricts names something, so the condition is there.
      have hpicked : picked ≠ [] := by
        rcases Selection.restriction?_eq_some_iff.mp hr with ⟨hne, _, heq⟩
        exact heq ▸ hne
      rw [Option.bind_some, Condition.oneOf?, if_neg (by rw [List.isEmpty_iff]; exact hpicked),
        Option.toList_some, List.forall_mem_singleton, Condition.truth_oneOf_iff, PassesResult]

/-- The compiled conditions on candidates of the baccalaureate mean the rules. -/
theorem allHold_bacRows_iff {s : State} {b : BacResult} :
    Condition.allHold (Detail.ofBacResult b).text s.bacRows.conditions = true ↔
      s.AdmitsCandidate b := by
  rw [Condition.allHold_iff, bacRows, List.forall_mem_append, motherTongueCondition?_iff,
    resultCondition?_iff]
  rfl

/-- Strict matching is in effect if it is asked for and something is ticked in both
    menus. -/
theorem isStrict_iff {s : State} :
    s.isStrict = true ↔
      s.strictLevelLanguage = true ∧ s.levels.selected ≠ [] ∧ s.languages.selected ≠ [] := by
  simp only [isStrict, Bool.and_eq_true, Bool.not_eq_true', List.isEmpty_eq_false_iff, and_assoc]

/-- Matching while it is strict: an enrolment of its own for every ticked level. -/
theorem matches_iff_of_strict {s : State} {r : Register} {school : School}
    (h : s.isStrict = true) :
    s.Matches r school ↔ ∀ level ∈ s.levels.selected,
      ∃ e ∈ r.enrolments, e.school = school.id ∧ e.level = level ∧ s.LanguageTicked e := by
  unfold Matches
  rw [if_pos (isStrict_iff.mp h)]

/-- Matching while it is not: level and language apart. -/
theorem matches_iff_of_not_strict {s : State} {r : Register} {school : School}
    (h : ¬s.isStrict = true) :
    s.Matches r school ↔
      (s.levels.selected = [] ∨ ∃ e ∈ r.enrolments, e.school = school.id ∧ s.LevelTicked e)
        ∧ (s.languages.selected = []
          ∨ ∃ e ∈ r.enrolments, e.school = school.id ∧ s.LanguageTicked e) := by
  unfold Matches
  rw [if_neg (fun hin => h (isStrict_iff.mpr hin))]

/-- The conditions of strict matching mean an enrolment for every ticked level. -/
theorem strictConditions_iff {s : State} {r : Register} {school : School}
    (h : s.languages.selected ≠ []) :
    s.strictConditions.all (SchoolCondition.holds r school) = true ↔
      ∀ level ∈ s.levels.selected,
        ∃ e ∈ r.enrolments, e.school = school.id ∧ e.level = level ∧ s.LanguageTicked e := by
  rw [strictConditions, List.all_map, List.all_eq_true]
  -- Each level has a question of its own, about one enrolment.
  refine forall₂_congr (fun level _ => ?_)
  refine DetailQuery.finds_enrolment_iff.trans (exists_congr (fun e => ?_))
  refine and_congr_right (fun _ => and_congr_right (fun _ => ?_))
  rw [Condition.allHold_iff, List.forall_mem_cons, Condition.truth_equals_iff,
    allHold_choice_iff, or_iff_right h]
  simp only [Detail.ofEnrolment, Detail.text, Option.some.injEq, LanguageTicked]

/-- The joins for a choice of values keep a school that has an enrolment with one of
    them, or any school if there are none. -/
theorem choiceJoins_iff {r : Register} {school : School} {label : String}
    {column : DetailColumn} {values : List String} :
    ((Condition.oneOf? column values).toList.map
        (fun c => Join.keys label ⟨.enrolments, [c]⟩)).all (fun j => j.keeps r school) = true ↔
      values = [] ∨ ∃ e ∈ r.enrolments, e.school = school.id
        ∧ (Detail.ofEnrolment e).text column ∈ values.map some := by
  rw [List.all_map, List.all_eq_true, Condition.oneOf?]
  -- Without values there is no join, and with some there is one, for an enrolment of its own.
  cases values with
  | nil =>
      simp only [List.isEmpty_nil, if_true, Option.toList_none, List.not_mem_nil, false_implies,
        implies_true, true_or]
  | cons v rest =>
      simp only [List.isEmpty_cons, Bool.false_eq_true, if_false, Option.toList_some,
        List.forall_mem_singleton, Function.comp_apply, Join.keeps, reduceCtorEq, false_or]
      refine DetailQuery.finds_enrolment_iff.trans (exists_congr (fun e => ?_))
      rw [Condition.allHold_iff, List.forall_mem_singleton, Condition.truth_oneOf_iff]

/-- A state joins nothing to schools but keys, under one of a few labels. -/
theorem eq_keys_of_mem_schoolJoins {s : State} {j : Join} (hj : j ∈ s.schoolJoins) :
    ∃ label ∈ ["lvl", "lng", "bac", "en"], ∃ query, j = .keys label query := by
  rw [schoolJoins] at hj
  -- All joins are of keys. Their labels depend on the source.
  cases hsource : s.source with
  | general =>
      rw [hsource] at hj
      by_cases hstrict : s.isStrict = true
      · rw [if_pos hstrict] at hj
        exact absurd hj List.not_mem_nil
      · rw [if_neg hstrict, independentJoins] at hj
        rcases List.mem_append.mp hj with hj | hj <;> rcases List.mem_map.mp hj with ⟨c, _, rfl⟩
        · exact ⟨"lvl", by decide, _, rfl⟩
        · exact ⟨"lng", by decide, _, rfl⟩
  | bac =>
      rw [hsource] at hj
      exact ⟨"bac", by decide, _, List.mem_singleton.mp hj⟩
  | evaluation =>
      rw [hsource] at hj
      exact ⟨"en", by decide, _, List.mem_singleton.mp hj⟩

theorem keeps_iff_admits {s : State} {r : Register} {school : School} :
    s.keeps r school = true ↔ s.Admits r school := by
  rw [keeps, Bool.and_eq_true, schoolConditions, schoolJoins, Admits]
  cases hsource : s.source with
  | general =>
      -- Conditions do the work under strict matching, and joins do it otherwise.
      simp only [AdmittedBy, Matches, ← isStrict_iff]
      by_cases hstrict : s.isStrict = true
      · simp only [hstrict, if_true, List.all_nil, and_true]
        exact strictConditions_iff (isStrict_iff.mp hstrict).2.2
      · simp only [hstrict, if_false, List.all_nil, true_and, Bool.false_eq_true]
        rw [independentJoins, List.all_append, Bool.and_eq_true, choiceJoins_iff,
          choiceJoins_iff]
        refine and_congr (or_congr_right (exists_congr (fun e => ?_))) Iff.rfl
        simp only [Detail.ofEnrolment, Detail.text, LevelTicked, List.mem_map,
          Option.some.injEq, exists_eq_right]
  | bac =>
      simp only [List.all_nil, true_and, List.all_cons, Bool.and_true, Join.keeps, AdmittedBy]
      refine DetailQuery.finds_bacResult_iff.trans (exists_congr (fun b => ?_))
      rw [← allHold_bacRows_iff]
      rfl
  | evaluation =>
      simp only [List.all_nil, true_and, List.all_cons, Bool.and_true, Join.keeps, AdmittedBy]
      refine DetailQuery.finds_evaluationResult_iff.trans (exists_congr (fun e => ?_))
      exact and_congr_right (fun _ => and_iff_left rfl)

end State

end Filter

end SchoolAtlas
