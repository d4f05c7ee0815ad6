import SchoolAtlas.Proofs.Query.Reading

/-!
# Recovering a Plan

A written query is the query of one plan only.

The text of a query gives the form of its plan back, with blanks where the values were, and
the values are the parameters. They are put back from first to last. A blank shows how many
values it takes, so each part of a plan takes its own from the front of the list and leaves
the others to the parts that follow (`Restorable`).

The plans of filter states are clear, whatever has been picked. It is the empty menus that
have to be looked at: nothing is asked for where nothing is ticked, and so no list of values
in a plan is empty.

A register answers plans, while a database would be given what is written. That comes to the
same for whatever a filter state asks: the written query decides the plan, and with it the
answer of every register (`Filter.State.answers_of_compiled`).

## Main definitions

* `Restorable`: Something is determined by its form and its values.
* `Filter.State.Asks`: A filter state asks a query.

## Theorems

* `Query.eq_of_blank`: A plan is determined by its form and its values.
* `Query.eq_of_compiled`: Clear plans that are written alike are the same.
* `Filter.State.isClear_regionQuery`, `Filter.State.isClear_rosterQuery`: The plans of filter
  states are clear.
* `Filter.State.answers_of_compiled`: Queries that are written alike have the same answers.
-/

namespace SchoolAtlas

/-- What is left of something without its values, together with its values, decides what it
    is, even if more values follow. -/
def Restorable {α γ : Type} (blank : α → γ) (values : α → List String) : Prop :=
  ∀ ⦃a b : α⦄, blank a = blank b → ∀ ⦃rest rest' : List String⦄,
    values a ++ rest = values b ++ rest' → a = b ∧ rest = rest'

theorem Restorable.list {α γ : Type} {blank : α → γ} {values : α → List String}
    (h : Restorable blank values) : Restorable (List.map blank) (List.flatMap values) := by
  intro as
  -- The induction is over the parts: each takes its values, and the rest has the others.
  induction as with
  | nil =>
      intro bs hblank rest rest' heq
      cases bs with
      | nil => exact ⟨rfl, heq⟩
      | cons b others => exact absurd hblank.symm (List.cons_ne_nil _ _)
  | cons a others ih =>
      intro bs hblank rest rest' heq
      cases bs with
      | nil => exact absurd hblank (List.cons_ne_nil _ _)
      | cons b others' =>
          rw [List.map_cons, List.map_cons, List.cons.injEq] at hblank
          rw [List.flatMap_cons, List.flatMap_cons, List.append_assoc, List.append_assoc] at heq
          rcases h hblank.1 heq with ⟨rfl, hothers⟩
          rcases ih hblank.2 hothers with ⟨rfl, hrest⟩
          exact ⟨rfl, hrest⟩

theorem Condition.restorable {κ : Type} :
    Restorable (Condition.blank (κ := κ)) Condition.values := by
  intro c
  induction c with
  | isNull column =>
      intro d hblank rest rest' heq
      cases d <;> simp only [blank, reduceCtorEq, isNull.injEq] at hblank
      exact ⟨by rw [hblank], heq⟩
  | equals column value =>
      intro d hblank rest rest' heq
      cases d <;> simp only [blank, reduceCtorEq, equals.injEq, and_true] at hblank
      rw [values, values, List.singleton_append, List.singleton_append, List.cons.injEq] at heq
      exact ⟨by rw [hblank, heq.1], heq.2⟩
  | oneOf column picked =>
      intro d hblank rest rest' heq
      cases d with
      | oneOf column' picked' =>
        rw [blank, blank, oneOf.injEq] at hblank
        -- The form still shows how many values there are.
        have hlength : picked.length = picked'.length := by
          have hmapped := congrArg List.length hblank.2
          rwa [List.length_map, List.length_map] at hmapped
        rw [values, values] at heq
        rcases List.append_inj heq hlength with ⟨hpicked, hrest⟩
        exact ⟨by rw [hblank.1, hpicked], hrest⟩
      | isNull | equals | either | grouped => simp only [blank, reduceCtorEq] at hblank
  | either first second ih ih' =>
      intro d hblank rest rest' heq
      cases d <;> simp only [blank, reduceCtorEq, either.injEq] at hblank
      rw [values, values, List.append_assoc, List.append_assoc] at heq
      rcases ih hblank.1 heq with ⟨rfl, hsecond⟩
      rcases ih' hblank.2 hsecond with ⟨rfl, hrest⟩
      exact ⟨rfl, hrest⟩
  | grouped inner ih =>
      intro d hblank rest rest' heq
      cases d <;> simp only [blank, reduceCtorEq, grouped.injEq] at hblank
      rcases ih hblank heq with ⟨rfl, hrest⟩
      exact ⟨rfl, hrest⟩

theorem DetailQuery.restorable : Restorable DetailQuery.blank DetailQuery.values := by
  rintro ⟨table, conditions⟩ ⟨table', conditions'⟩ hblank rest rest' heq
  rw [blank, blank, DetailQuery.mk.injEq] at hblank
  rcases Condition.restorable.list hblank.2 heq with ⟨hconditions, hrest⟩
  exact ⟨by rw [DetailQuery.mk.injEq]; exact ⟨hblank.1, hconditions⟩, hrest⟩

theorem Join.restorable : Restorable Join.blank Join.values := by
  intro j j' hblank rest rest' heq
  -- The form tells the kind of join, and its label.
  cases j with
  | keys label query =>
      cases j' <;> simp only [blank, reduceCtorEq, keys.injEq] at hblank
      rcases DetailQuery.restorable hblank.2 heq with ⟨rfl, hrest⟩
      exact ⟨by rw [hblank.1], hrest⟩
  | rows label columns query =>
      cases j' <;> simp only [blank, reduceCtorEq, rows.injEq] at hblank
      rcases DetailQuery.restorable hblank.2.2 heq with ⟨rfl, hrest⟩
      exact ⟨by rw [hblank.1, hblank.2.1], hrest⟩
  | totals =>
      cases j' <;> simp only [blank, reduceCtorEq] at hblank
      exact ⟨rfl, heq⟩

theorem SchoolCondition.restorable :
    Restorable SchoolCondition.blank SchoolCondition.values := by
  intro c d hblank rest rest' heq
  -- The form tells whether rows are asked for.
  cases c with
  | column condition =>
      cases d <;> simp only [blank, reduceCtorEq, column.injEq] at hblank
      rcases Condition.restorable hblank heq with ⟨rfl, hrest⟩
      exact ⟨rfl, hrest⟩
  | hasRow query =>
      cases d <;> simp only [blank, reduceCtorEq, hasRow.injEq] at hblank
      rcases DetailQuery.restorable hblank heq with ⟨rfl, hrest⟩
      exact ⟨rfl, hrest⟩

theorem RegionQuery.eq_iff {q q' : RegionQuery} :
    q = q' ↔ q.grouping = q'.grouping ∧ q.joins = q'.joins ∧ q.conditions = q'.conditions ∧
      q.measure = q'.measure := by
  rcases q with ⟨_, _, _, _⟩
  rcases q' with ⟨_, _, _, _⟩
  rw [RegionQuery.mk.injEq]

theorem RosterQuery.eq_iff {q q' : RosterQuery} :
    q = q' ↔ q.joins = q'.joins ∧ q.conditions = q'.conditions := by
  rcases q with ⟨_, _⟩
  rcases q' with ⟨_, _⟩
  rw [RosterQuery.mk.injEq]

namespace Query

/-- A plan is decided by its form and its values. -/
theorem eq_of_blank {q q' : Query} (hblank : q.blank = q'.blank)
    (hvalues : q.values = q'.values) : q = q' := by
  -- The values of the joins come before those of the conditions in both kinds of query.
  have hparts : ∀ {joins joins' : List Join} {conditions conditions' : List SchoolCondition},
      joins.map Join.blank = joins'.map Join.blank →
      conditions.map SchoolCondition.blank = conditions'.map SchoolCondition.blank →
      joins.flatMap Join.values ++ conditions.flatMap SchoolCondition.values
        = joins'.flatMap Join.values ++ conditions'.flatMap SchoolCondition.values →
      joins = joins' ∧ conditions = conditions' := by
    intro joins joins' conditions conditions' hjoins hconditions heq
    rcases Join.restorable.list hjoins heq with ⟨hsame, hrest⟩
    rw [← List.append_nil (conditions.flatMap _),
      ← List.append_nil (conditions'.flatMap _)] at hrest
    exact ⟨hsame, (SchoolCondition.restorable.list hconditions hrest).1⟩
  cases q with
  | regions query =>
      cases q' <;> simp only [blank, reduceCtorEq, regions.injEq, RegionQuery.mk.injEq] at hblank
      rcases hblank with ⟨hgrouping, hjoins, hconditions, hmeasure⟩
      rcases hparts hjoins hconditions hvalues with ⟨hjoins, hconditions⟩
      rw [regions.injEq, RegionQuery.eq_iff]
      exact ⟨hgrouping, hjoins, hconditions, hmeasure⟩
  | roster query =>
      cases q' <;> simp only [blank, reduceCtorEq, roster.injEq, RosterQuery.mk.injEq] at hblank
      rcases hparts hblank.1 hblank.2 hvalues with ⟨hjoins, hconditions⟩
      rw [roster.injEq, RosterQuery.eq_iff]
      exact ⟨hjoins, hconditions⟩

/-- Clear plans that are written alike are the same. -/
theorem eq_of_compiled {q q' : Query} (hq : q.IsClear) (hq' : q'.IsClear)
    (h : q.compiled = q'.compiled) : q = q' :=
  eq_of_blank (blank_eq_of_sql hq hq' (congrArg Compiled.sql h))
    (by rw [← compiled_params, ← compiled_params, h])

end Query

namespace Filter

namespace State

variable {s : State}

/-- One of several values is a comparison with at least one. -/
theorem mem_oneOf?_iff {κ : Type} {column : κ} {values : List String} {c : Condition κ} :
    c ∈ Condition.oneOf? column values ↔ values ≠ [] ∧ c = .oneOf column values := by
  rw [Condition.oneOf?]
  cases values with
  | nil => simp only [List.isEmpty_nil, if_true, Option.not_mem_none, ne_eq, not_true, false_and]
  | cons value more =>
      rw [List.isEmpty_cons, if_neg Bool.false_ne_true, Option.mem_some_iff,
        and_iff_right (List.cons_ne_nil _ _)]
      exact eq_comm

theorem isComparison_of_mem_oneOf? {κ : Type} {column : κ} {values : List String}
    {c : Condition κ} (h : c ∈ Condition.oneOf? column values) : c.IsComparison := by
  rcases mem_oneOf?_iff.mp h with ⟨hne, rfl⟩
  exact hne

theorem isClear_of_mem_choice {column : DetailColumn} {values : List String}
    {c : Condition DetailColumn} (h : c ∈ choice column values) : c.IsClear :=
  .comparison (isComparison_of_mem_oneOf? (Option.mem_toList.mp h))

theorem isClear_motherTongueCondition? {languages : Selection} {c : Condition DetailColumn}
    (h : c ∈ motherTongueCondition? languages) : c.IsClear := by
  rcases Option.bind_eq_some_iff.mp h with ⟨picked, _, hpicked⟩
  -- Those who speak the language of the majority are in rows that name no language.
  by_cases hmajority : picked.contains Catalogue.majorityLanguage = true
  · simp only [if_pos hmajority, Option.some.injEq] at hpicked
    subst hpicked
    cases hminority : Condition.oneOf? DetailColumn.motherTongue
        (picked.filter (· ≠ Catalogue.majorityLanguage)) with
    | none => exact .grouped trivial
    | some minority => exact .either trivial (isComparison_of_mem_oneOf? hminority)
  · simp only [if_neg hmajority] at hpicked
    exact .comparison (isComparison_of_mem_oneOf? hpicked)

theorem isClear_bacRows (s : State) : s.bacRows.IsClear := by
  intro c hc
  rw [bacRows, List.mem_append, Option.mem_toList, Option.mem_toList] at hc
  rcases hc with hc | hc
  · exact isClear_motherTongueCondition? hc
  · rcases Option.bind_eq_some_iff.mp hc with ⟨picked, _, hpicked⟩
    exact .comparison (isComparison_of_mem_oneOf? hpicked)

theorem isClear_evaluationRows : evaluationRows.IsClear := fun _ hc => absurd hc List.not_mem_nil

theorem isClear_schoolJoins (s : State) : ∀ j ∈ s.schoolJoins, j.IsClear := by
  have hkeys : ∀ {label : String} {query : DetailQuery}, label ∈ Join.labels → query.IsClear →
      (Join.keys label query).IsClear :=
    fun hlabel hquery => .detail .keys hlabel hquery
  intro j hj
  rw [schoolJoins] at hj
  cases hsource : s.source with
  | general =>
      by_cases hstrict : s.isStrict = true
      · simp only [hsource, hstrict, if_true] at hj
        exact absurd hj List.not_mem_nil
      · simp only [hsource, hstrict, if_false, Bool.false_eq_true, independentJoins] at hj
        -- A menu makes a join only where it has a condition.
        have hone : ∀ {column : DetailColumn} {values : List String} {c : Condition DetailColumn},
            c ∈ (Condition.oneOf? column values).toList →
            DetailQuery.IsClear ⟨.enrolments, [c]⟩ :=
          fun hc => List.forall_mem_singleton.mpr (isClear_of_mem_choice hc)
        rcases List.mem_append.mp hj with hj | hj <;> rcases List.mem_map.mp hj with ⟨c, hc, rfl⟩
        · exact hkeys (by decide) (hone hc)
        · exact hkeys (by decide) (hone hc)
  | bac =>
      simp only [hsource, List.mem_singleton] at hj
      exact hj ▸ hkeys (by decide) s.isClear_bacRows
  | evaluation =>
      simp only [hsource, List.mem_singleton] at hj
      exact hj ▸ hkeys (by decide) isClear_evaluationRows

theorem isClear_studentJoins (s : State) : ∀ j ∈ s.studentJoins, j.IsClear := by
  intro j hj
  rw [studentJoins] at hj
  cases hsource : s.source with
  | general =>
      simp only [hsource, List.mem_singleton] at hj
      subst hj
      -- Both menus may have made conditions on the rows that are joined.
      have hrows : s.enrolmentRows.IsClear := by
        intro c hc
        rcases List.mem_append.mp hc with hc | hc <;> exact isClear_of_mem_choice hc
      exact .detail .students (by decide) hrows
  | bac =>
      simp only [hsource, List.mem_singleton] at hj
      exact hj ▸ .detail .all (by decide) s.isClear_bacRows
  | evaluation =>
      simp only [hsource, List.mem_singleton] at hj
      exact hj ▸ .detail .all (by decide) isClear_evaluationRows

theorem isClear_schoolConditions (s : State) : ∀ c ∈ s.schoolConditions, c.IsClear := by
  intro c hc
  rw [schoolConditions] at hc
  cases hsource : s.source with
  | general =>
      by_cases hstrict : s.isStrict = true
      · simp only [hsource, hstrict, if_true, strictConditions] at hc
        rcases List.mem_map.mp hc with ⟨level, _, rfl⟩
        -- A level is one value, to which the languages add a list that is not empty.
        refine List.forall_mem_cons.mpr ⟨.comparison trivial, fun c hc => ?_⟩
        exact isClear_of_mem_choice hc
      · simp only [hsource, hstrict, if_false, Bool.false_eq_true] at hc
        exact absurd hc List.not_mem_nil
  | bac =>
      simp only [hsource] at hc
      exact absurd hc List.not_mem_nil
  | evaluation =>
      simp only [hsource] at hc
      exact absurd hc List.not_mem_nil

/-- The place of a school is asked for in clear terms. -/
theorem isClear_inCounty (code : String) : (inCounty code).IsClear :=
  Condition.IsClear.comparison trivial

theorem isClear_inTown (name : String) : (inTown name).IsClear :=
  Condition.IsClear.comparison trivial

theorem isClear_regionQuery (s : State) (statistic : Statistic) :
    (Query.regions (s.regionQuery statistic)).IsClear := by
  have hplace : ∀ c ∈ s.county.toList.map inCounty, c.IsClear := by
    intro c hc
    rcases List.mem_map.mp hc with ⟨code, _, rfl⟩
    exact isClear_inCounty code
  -- Students are found by a join, so a map over students has no more conditions.
  cases hover : statistic.overStudents with
  | true =>
      constructor
      · simp only [Query.joins, regionQuery, hover, if_true]
        exact s.isClear_studentJoins
      · simp only [Query.conditions, regionQuery, hover, if_true, List.append_nil]
        exact hplace
  | false =>
      constructor
      · simp only [Query.joins, regionQuery, hover, Bool.false_eq_true, if_false]
        exact s.isClear_schoolJoins
      · simp only [Query.conditions, regionQuery, hover, Bool.false_eq_true, if_false]
        exact List.forall_mem_append.mpr ⟨hplace, s.isClear_schoolConditions⟩

theorem isClear_rosterQuery {q : RosterQuery} (h : s.rosterQuery? = some q) :
    (Query.roster q).IsClear := by
  rcases Option.map_eq_some_iff.mp h with ⟨⟨code, name⟩, _, rfl⟩
  constructor
  · exact List.forall_mem_cons.mpr ⟨.totals, s.isClear_schoolJoins⟩
  · refine List.forall_mem_append.mpr ⟨?_, s.isClear_schoolConditions⟩
    exact List.forall_mem_cons.mpr ⟨isClear_inCounty code,
      List.forall_mem_singleton.mpr (isClear_inTown name)⟩

/-- The queries of a filter state: a map for each statistic, and the roster of the open
    town. -/
def Asks (s : State) (q : Query) : Prop :=
  (∃ statistic, q = .regions (s.regionQuery statistic)) ∨
    ∃ query, s.rosterQuery? = some query ∧ q = .roster query

/-- Whatever is asked is clear. -/
theorem isClear_of_asks {q : Query} (h : s.Asks q) : q.IsClear := by
  rcases h with ⟨statistic, rfl⟩ | ⟨query, hquery, rfl⟩
  · exact s.isClear_regionQuery statistic
  · exact isClear_rosterQuery hquery

/-- Queries that are written alike have one answer, whoever asks them and whatever is
    stored. -/
theorem answers_of_compiled {t : State} {q q' : Query} (hq : s.Asks q) (hq' : t.Asks q')
    (h : q.compiled = q'.compiled) (r : Register) :
    r.regionRows q = r.regionRows q' ∧ r.schoolRecords q = r.schoolRecords q' := by
  obtain rfl := Query.eq_of_compiled (isClear_of_asks hq) (isClear_of_asks hq') h
  exact ⟨rfl, rfl⟩

end State

end Filter

end SchoolAtlas
