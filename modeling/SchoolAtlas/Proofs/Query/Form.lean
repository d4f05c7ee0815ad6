import SchoolAtlas.Filter.Update
import SchoolAtlas.Proofs.Filter.StudentRows

/-!
# The Form of a Query

What a user can and cannot change about the text of a statement.

A plan holds what a user has picked, and most of that only as values to compare with. Those
are blanked here, one by one, and the text of the statement stays the same: `Query.blank`
leaves the form of a plan, and `Query.compiled_blank` says that the form decides the text.
It is shown clause by clause. `Statement.text` is a statement as far as its text goes, and
every step of writing a plan keeps plans of one form together.

What is left is to see how much of a filter state its form still shows. It shows where the
data comes from, whether a place is asked for, and how many names are ticked where names are
counted at all, but no name: `State.SameShape` lists it all. One name is special. Candidates
of the majority language are stored without a language and are asked for in words of their
own, so it shows whether that one is among the mother tongues.

The names travel as parameters instead, and `State.compiled_sameShape` says in which order.

## Main definitions

* `Query.blank`: A plan without its values.
* `Statement.text`: A statement as far as its text goes.
* `Filter.State.SameShape`: Two states that differ in names only.
* `Filter.State.schoolNames`, `Filter.State.strictNames`: The names that schools are asked
  for, before the place and after it.

## Theorems

* `Condition.fragment_blank`: The text of a condition without its values.
* `Query.compiled_blank`: The form of a plan decides its text.
* `Filter.State.SameShape.regionQuery_blank`: The shape of a state decides the form of its
  map queries.
* `Filter.State.compiled_sameShape`: States of one shape have statements of one text.
-/

namespace SchoolAtlas

/-- A condition without its values. It still has as many. -/
def Condition.blank {κ : Type} : Condition κ → Condition κ
  | isNull column => isNull column
  | equals column _ => equals column ""
  | oneOf column values => oneOf column (values.map (fun _ => ""))
  | either first second => either first.blank second.blank
  | grouped inner => grouped inner.blank

/-- Rows of a detail table, without values. -/
def DetailQuery.blank (q : DetailQuery) : DetailQuery :=
  { q with conditions := q.conditions.map Condition.blank }

/-- A join without its values. -/
def Join.blank : Join → Join
  | keys label query => keys label query.blank
  | rows label columns query => rows label columns query.blank
  | totals => totals

/-- A condition on schools without its values. -/
def SchoolCondition.blank : SchoolCondition → SchoolCondition
  | column condition => column condition.blank
  | hasRow query => hasRow query.blank

/-- A plan without its values. -/
def Query.blank : Query → Query
  | regions query => regions { query with
      joins := query.joins.map Join.blank
      conditions := query.conditions.map SchoolCondition.blank }
  | roster query => roster
      { joins := query.joins.map Join.blank
        conditions := query.conditions.map SchoolCondition.blank }

theorem Condition.fragment_blank {κ : Type} (name : κ → String) (c : Condition κ) :
    (c.blank.fragment name).sql = (c.fragment name).sql := by
  induction c with
  | isNull column => rfl
  | equals column value => rfl
  -- A list of blanks is as long as the list of values, and only the length is written.
  | oneOf column values =>
      rw [blank, Condition.fragment, Condition.fragment, Fragment.oneOf?, Fragment.oneOf?,
        List.isEmpty_map, List.map_map]
      split
      · rfl
      · rfl
  | either first second ih₁ ih₂ =>
      rw [blank, Condition.fragment, Condition.fragment, Fragment.or, Fragment.or, ih₁, ih₂]
  | grouped inner ih =>
      rw [blank, Condition.fragment, Condition.fragment, Fragment.grouped, Fragment.grouped, ih]

namespace Statement

/-- A statement as far as its text goes. -/
def text (s : Statement) : Statement :=
  { s with
    joins := s.joins.map (fun f => .raw f.sql)
    conditions := s.conditions.map (fun f => .raw f.sql) }

theorem fragment_text (s : Statement) : s.text.fragment.sql = s.fragment.sql := by
  have htexts : ∀ fragments : List Fragment,
      (fragments.map (fun f => Fragment.raw f.sql)).map Fragment.sql
        = fragments.map Fragment.sql := by
    intro fragments
    rw [List.map_map]
    rfl
  -- Conditions are joined to one fragment, whose text depends on their texts.
  have hcondition : s.text.condition?.map Fragment.sql = s.condition?.map Fragment.sql := by
    rw [condition?_eq, condition?_eq, text, List.isEmpty_map]
    split
    · rfl
    · rw [Option.map_some, Option.map_some, Fragment.join, Fragment.join, htexts]
  have hwhere : ∀ c : Option Fragment, c.map (fun c => "WHERE " ++ c.sql)
      = (c.map Fragment.sql).map ("WHERE " ++ ·) := by
    intro c
    rw [Option.map_map]
    rfl
  have hjoins : s.text.joins.map Fragment.sql = s.joins.map Fragment.sql := htexts s.joins
  rw [fragment, fragment, hwhere, hwhere, hcondition, hjoins]
  rfl

/-- Statements that are the same as far as their texts go are written with one text. -/
theorem sql_congr {s t : Statement} (h : s.text = t.text) : s.fragment.sql = t.fragment.sql := by
  rw [← fragment_text, h, fragment_text]

theorem text_filter (s : Statement) (f : Fragment) :
    (s.filter f).text = s.text.filter (.raw f.sql) := by
  rw [text, filter, filter, text, List.map_append, List.map_singleton]

theorem text_join (s : Statement) (kind : JoinKind) (rows : Fragment) (label on : String) :
    (s.join kind rows label on).text = s.text.join kind (.raw rows.sql) label on := by
  rw [text, join, join, text, List.map_append, List.map_singleton]
  rfl

theorem text_foldl_filter {α : Type} {f g : α → Fragment} {s t : Statement} {l : List α}
    (hfg : ∀ a ∈ l, (f a).sql = (g a).sql) (h : s.text = t.text) :
    (l.foldl (fun s a => s.filter (f a)) s).text
      = (l.foldl (fun s a => s.filter (g a)) t).text := by
  induction l generalizing s t with
  | nil => exact h
  | cons a rest ih =>
      rcases List.forall_mem_cons.mp hfg with ⟨ha, hrest⟩
      -- After the first condition the two statements are still written alike.
      refine ih hrest ?_
      rw [text_filter, text_filter, h, ha]

end Statement

namespace DetailQuery

theorem text_statement_blank (q : DetailQuery) : q.blank.statement.text = q.statement.text := by
  rw [statement, blank, List.foldl_map]
  exact Statement.text_foldl_filter (fun c _ => Condition.fragment_blank _ c) rfl

theorem existence_blank (q : DetailQuery) : q.blank.existence.sql = q.existence.sql := by
  let start := ((Statement.ofTable q.table.table.name).select "1").filter
    (.raw (q.table.key ++ " = si.id"))
  have hrows := Statement.sql_congr (Statement.text_foldl_filter (l := q.conditions) (s := start)
    (fun c _ => Condition.fragment_blank DetailColumn.name c) rfl)
  rw [existence, existence, Fragment.rowExists, Fragment.rowExists, blank, List.foldl_map, hrows]

end DetailQuery

/-- A join adds the same to a text without its values. -/
theorem Join.text_addTo_blank {s t : Statement} (j : Join) (h : s.text = t.text) :
    (j.blank.addTo s).text = (j.addTo t).text := by
  cases j with
  | keys label query =>
      -- The rows that are joined are written in full before they are joined.
      have hrows : (query.blank.statement.asDistinct.select query.table.key).fragment.sql
          = (query.statement.asDistinct.select query.table.key).fragment.sql :=
        Statement.sql_congr (congrArg (fun s => s.asDistinct.select query.table.key)
          query.text_statement_blank)
      rw [blank, addTo, addTo, Statement.text_join, Statement.text_join, h]
      exact congrArg (fun rows => t.text.join .inner (.raw rows) label _) hrows
  | rows label columns query =>
      have hrows : (query.blank.statement.selectAll columns).fragment.sql
          = (query.statement.selectAll columns).fragment.sql :=
        Statement.sql_congr (congrArg (fun s => s.selectAll columns) query.text_statement_blank)
      rw [blank, addTo, addTo, Statement.text_join, Statement.text_join, h, hrows]
      rfl
  | totals => rw [blank, addTo, addTo, Statement.text_join, Statement.text_join, h]

theorem SchoolCondition.fragment_blank (c : SchoolCondition) :
    c.blank.fragment.sql = c.fragment.sql := by
  cases c with
  | column condition => exact Condition.fragment_blank _ condition
  | hasRow query => exact query.existence_blank

theorem text_schoolStatement_blank (joins : List Join) (conditions : List SchoolCondition) :
    (schoolStatement (joins.map Join.blank) (conditions.map SchoolCondition.blank)).text
      = (schoolStatement joins conditions).text := by
  have hjoins : ∀ {s t : Statement}, s.text = t.text →
      ((joins.map Join.blank).foldl Join.addTo s).text = (joins.foldl Join.addTo t).text := by
    induction joins with
    | nil => exact fun h => h
    | cons j rest ih => exact fun h => ih (j.text_addTo_blank h)
  rw [schoolStatement, List.foldl_map]
  exact Statement.text_foldl_filter (fun c _ => c.fragment_blank) (hjoins rfl)

/-- The form of a plan decides its text. -/
theorem Query.compiled_blank (q : Query) : q.blank.compiled.sql = q.compiled.sql := by
  refine Statement.sql_congr ?_
  cases q with
  | regions query =>
      have hrows := text_schoolStatement_blank query.joins query.conditions
      let written (s : Statement) : Statement :=
        ((RegionQuery.groupColumns query.grouping).foldl Statement.groupBy
          (s.selectAll (RegionQuery.keyColumns query.grouping))).select query.measure.expression
      -- Columns and grouping are not among the joins and conditions.
      have htext : ∀ s, (written s).text = written s.text := by
        intro s
        simp only [written]
        cases query.grouping <;> rfl
      exact (htext _).trans ((congrArg written hrows).trans (htext _).symm)
  | roster query =>
      have hrows := text_schoolStatement_blank query.joins query.conditions
      exact congrArg (fun s => (s.selectAll RosterQuery.columns).orderBy "si.nume") hrows

namespace Filter

namespace State

variable {s t : State} {code name : String}

/-- What the restriction on mother tongues shows of them: whether the majority language is
    among them, and how many others there are. -/
def tongueShape (languages : Selection) : Option (Bool × Nat) :=
  languages.restriction?.map fun picked =>
    (picked.contains Catalogue.majorityLanguage,
      (picked.filter (· ≠ Catalogue.majorityLanguage)).length)

/-- Two states differ in names only, as far as their data source looks at names. -/
structure SameShape (s t : State) : Prop where
  source : s.source = t.source
  levels : s.source = .general → s.levels.selected.length = t.levels.selected.length
  languages : s.source = .general → s.languages.selected.length = t.languages.selected.length
  strict : s.source = .general → s.strictLevelLanguage = t.strictLevelLanguage
  tongues : s.source = .bac → tongueShape s.bacLanguages = tongueShape t.bacLanguages
  results : s.source = .bac →
    s.bacResults.restriction?.map List.length = t.bacResults.restriction?.map List.length

/-- The names that schools are asked for by joins. -/
def schoolNames (s : State) : List String :=
  if s.source = .general ∧ s.isStrict then [] else s.picks

/-- The names that schools are asked for by conditions: under strict matching, every level
    with all languages. -/
def strictNames (s : State) : List String :=
  if s.source = .general ∧ s.isStrict then
    s.levels.selected.flatMap (fun level => level :: s.languages.selected)
  else []

/-- A choice without its values shows only how many there are. -/
theorem map_blank_oneOf? {κ : Type} (column : κ) {values values' : List String}
    (h : values.length = values'.length) :
    (Condition.oneOf? column values).map Condition.blank
      = (Condition.oneOf? column values').map Condition.blank := by
  rw [Condition.oneOf?, Condition.oneOf?, Lists.isEmpty_congr h]
  split
  · rfl
  · rw [Option.map_some, Option.map_some, Condition.blank, Condition.blank, List.map_const',
      List.map_const', h]

theorem map_blank_choice (column : DetailColumn) {values values' : List String}
    (h : values.length = values'.length) :
    (choice column values).map Condition.blank = (choice column values').map Condition.blank := by
  rw [choice, choice, ← Option.toList_map, ← Option.toList_map, map_blank_oneOf? column h]

theorem map_blank_choiceJoins (label : String) (column : DetailColumn)
    {values values' : List String} (h : values.length = values'.length) :
    ((Condition.oneOf? column values).toList.map
        (fun c => Join.keys label ⟨.enrolments, [c]⟩)).map Join.blank
      = ((Condition.oneOf? column values').toList.map
        (fun c => Join.keys label ⟨.enrolments, [c]⟩)).map Join.blank := by
  -- A condition is there or not before its value is taken out, and remains so.
  have hcommute : ∀ c? : Option (Condition DetailColumn),
      (c?.toList.map (fun c => Join.keys label ⟨.enrolments, [c]⟩)).map Join.blank
        = (c?.map Condition.blank).toList.map (fun c => Join.keys label ⟨.enrolments, [c]⟩) := by
    intro c?
    cases c? <;> rfl
  rw [hcommute, hcommute, map_blank_oneOf? column h]

theorem motherTongueCondition?_blank {languages languages' : Selection}
    (h : tongueShape languages = tongueShape languages') :
    (motherTongueCondition? languages).map Condition.blank
      = (motherTongueCondition? languages').map Condition.blank := by
  rw [motherTongueCondition?, motherTongueCondition?]
  rcases Options.none_or_some_of_map h with ⟨hr, hr'⟩ | ⟨picked, picked', hr, hr', hshape⟩
  · rw [hr, hr']
  · rcases Prod.mk.inj hshape with ⟨hmajority, hcount⟩
    have hminority := map_blank_oneOf? DetailColumn.motherTongue hcount
    rw [hr, hr', Option.bind_some, Option.bind_some, hmajority]
    split
    · -- The minorities make the same condition on both sides, or none on both.
      rcases Options.none_or_some_of_map hminority with ⟨hm, hm'⟩ | ⟨c, c', hm, hm', hc⟩
      · rw [hm, hm']
      · rw [hm, hm']
        simp only [Option.map_some, Condition.blank, hc]
    · exact hminority

theorem resultCondition?_blank {results results' : Selection}
    (h : results.restriction?.map List.length = results'.restriction?.map List.length) :
    (resultCondition? results).map Condition.blank
      = (resultCondition? results').map Condition.blank := by
  rw [resultCondition?, resultCondition?]
  rcases Options.none_or_some_of_map h with ⟨hr, hr'⟩ | ⟨picked, picked', hr, hr', hcount⟩
  · rw [hr, hr']
  · rw [hr, hr']
    exact map_blank_oneOf? DetailColumn.result hcount

namespace SameShape

theorem isStrict (h : s.SameShape t) (hs : s.source = .general) : s.isStrict = t.isStrict := by
  rw [State.isStrict, State.isStrict, h.strict hs, Lists.isEmpty_congr (h.levels hs),
    Lists.isEmpty_congr (h.languages hs)]

theorem strictConditions_blank (h : s.SameShape t) (hs : s.source = .general) :
    s.strictConditions.map SchoolCondition.blank
      = t.strictConditions.map SchoolCondition.blank := by
  -- Every level makes the same condition, so it is enough to count them.
  have hsame : ∀ s : State, s.strictConditions.map SchoolCondition.blank
      = List.replicate s.levels.selected.length (.hasRow ⟨.enrolments, .equals .level ""
        :: (choice .language s.languages.selected).map Condition.blank⟩) := by
    intro s
    rw [strictConditions, List.map_map, ← List.map_const']
    rfl
  rw [hsame, hsame, h.levels hs, map_blank_choice .language (h.languages hs)]

theorem independentJoins_blank (h : s.SameShape t) (hs : s.source = .general) :
    s.independentJoins.map Join.blank = t.independentJoins.map Join.blank := by
  rw [independentJoins, independentJoins, List.map_append, List.map_append,
    map_blank_choiceJoins "lvl" .level (h.levels hs),
    map_blank_choiceJoins "lng" .language (h.languages hs)]

theorem enrolmentRows_blank (h : s.SameShape t) (hs : s.source = .general) :
    s.enrolmentRows.blank = t.enrolmentRows.blank := by
  rw [DetailQuery.blank, DetailQuery.blank, enrolmentRows, enrolmentRows, List.map_append,
    List.map_append, map_blank_choice .level (h.levels hs),
    map_blank_choice .language (h.languages hs)]

theorem bacRows_blank (h : s.SameShape t) (hs : s.source = .bac) :
    s.bacRows.blank = t.bacRows.blank := by
  rw [DetailQuery.blank, DetailQuery.blank, bacRows, bacRows, List.map_append, List.map_append,
    ← Option.toList_map, ← Option.toList_map, ← Option.toList_map, ← Option.toList_map,
    motherTongueCondition?_blank (h.tongues hs), resultCondition?_blank (h.results hs)]

theorem schoolJoins_blank (h : s.SameShape t) :
    s.schoolJoins.map Join.blank = t.schoolJoins.map Join.blank := by
  rw [schoolJoins, schoolJoins, ← h.source]
  cases hs : s.source with
  | general =>
      -- Strict matching joins nothing, and it is on for both or for neither.
      simp only [h.isStrict hs]
      split
      · rfl
      · exact h.independentJoins_blank hs
  | bac =>
      simp only [List.map_cons, List.map_nil, Join.blank, h.bacRows_blank hs]
  | evaluation => rfl

theorem schoolConditions_blank (h : s.SameShape t) :
    s.schoolConditions.map SchoolCondition.blank
      = t.schoolConditions.map SchoolCondition.blank := by
  rw [schoolConditions, schoolConditions, ← h.source]
  cases hs : s.source with
  | general =>
      -- Only without an exam can matching be strict, and then it is for both.
      simp only [h.isStrict hs]
      split
      · exact h.strictConditions_blank hs
      · rfl
  | bac => rfl
  | evaluation => rfl

theorem studentJoins_blank (h : s.SameShape t) :
    s.studentJoins.map Join.blank = t.studentJoins.map Join.blank := by
  rw [studentJoins, studentJoins, ← h.source]
  cases hs : s.source with
  | general =>
      simp only [List.map_cons, List.map_nil, Join.blank, h.enrolmentRows_blank hs]
  | bac =>
      simp only [List.map_cons, List.map_nil, Join.blank, h.bacRows_blank hs]
  | evaluation => rfl

/-- The shape of a state and whether it shows a county decide the form of its maps. -/
theorem regionQuery_blank (h : s.SameShape t) (hc : s.county.isSome = t.county.isSome)
    (statistic : Statistic) :
    (Query.regions (s.regionQuery statistic)).blank
      = (Query.regions (t.regionQuery statistic)).blank := by
  -- A county makes one condition, whichever it is.
  have hscope : (s.county.toList.map inCounty).map SchoolCondition.blank
      = (t.county.toList.map inCounty).map SchoolCondition.blank := by
    rcases Options.none_or_some hc with ⟨hs, ht⟩ | ⟨code, code', hs, ht⟩
    · rw [hs, ht]
    · rw [hs, ht]
      rfl
  rw [Query.blank, Query.blank, regionQuery, regionQuery, hc, h.source]
  cases hover : statistic.overStudents with
  | true =>
      simp only [if_true, List.append_nil, hscope, h.studentJoins_blank]
  | false =>
      simp only [Bool.false_eq_true, if_false, List.map_append, hscope, h.schoolJoins_blank,
        h.schoolConditions_blank]

theorem rosterQuery_blank (h : s.SameShape t) {q q' : RosterQuery}
    (hq : s.rosterQuery? = some q) (hq' : t.rosterQuery? = some q') :
    (Query.roster q).blank = (Query.roster q').blank := by
  rcases Option.map_eq_some_iff.mp hq with ⟨⟨code, name⟩, _, rfl⟩
  rcases Option.map_eq_some_iff.mp hq' with ⟨⟨code', name'⟩, _, rfl⟩
  rw [Query.blank, Query.blank]
  simp only [List.map_cons, List.map_append, h.schoolJoins_blank, h.schoolConditions_blank]
  rfl

end SameShape

theorem values_schoolJoins (s : State) : s.schoolJoins.flatMap Join.values = s.schoolNames := by
  rw [schoolJoins, schoolNames, picks]
  cases hs : s.source with
  | general =>
      -- Strict matching leaves the menus to the conditions, which come after the joins.
      by_cases hstrict : s.isStrict = true
      · simp only [hstrict, if_true, and_self, List.flatMap_nil]
      · simp only [hstrict, if_false, and_false, Bool.false_eq_true, independentJoins,
          List.flatMap_append, choiceJoins_values]
  | bac =>
      have hvalues := values_studentQuery s
      simp only [studentQuery, picks, hs] at hvalues
      simp only [List.flatMap_singleton, Join.values, hvalues, reduceCtorEq, false_and, if_false]
  | evaluation => rfl

theorem values_schoolConditions (s : State) :
    s.schoolConditions.flatMap SchoolCondition.values = s.strictNames := by
  rw [schoolConditions, strictNames]
  cases hs : s.source with
  | general =>
      by_cases hstrict : s.isStrict = true
      -- Each level comes with a list of all languages of its own.
      · simp only [hstrict, if_true, and_self, strictConditions, List.flatMap_map,
          SchoolCondition.values, DetailQuery.values, List.flatMap_cons, Condition.values,
          choice_values, List.singleton_append]
      · simp only [hstrict, if_false, and_false, Bool.false_eq_true, List.flatMap_nil]
  | bac => rfl
  | evaluation => rfl

theorem params_regionQuery (s : State) (statistic : Statistic) :
    (Query.regions (s.regionQuery statistic)).compiled.params
      = if statistic.overStudents then s.picks ++ s.county.toList
        else s.schoolNames ++ s.county.toList ++ s.strictNames := by
  have hscope : (s.county.toList.map inCounty).flatMap SchoolCondition.values
      = s.county.toList := by
    rw [List.flatMap_map]
    exact List.flatMap_singleton' _
  rw [Query.compiled_params, Query.values, regionQuery]
  -- A map over students joins what was picked, and has no conditions but the county.
  cases hover : statistic.overStudents with
  | true =>
      rcases studentJoins_eq s with ⟨label, columns, hjoins⟩
      simp only [if_true, List.append_nil, hjoins, List.flatMap_singleton, Join.values,
        values_studentQuery, hscope]
  | false =>
      simp only [Bool.false_eq_true, if_false, List.flatMap_append, values_schoolJoins, hscope,
        values_schoolConditions, List.append_assoc]

theorem params_rosterQuery {q : RosterQuery} (ht : s.openTown? = some (code, name))
    (hq : s.rosterQuery? = some q) :
    (Query.roster q).compiled.params = s.schoolNames ++ [code, name] ++ s.strictNames := by
  rw [rosterQuery?, ht, Option.map_some, Option.some.injEq] at hq
  subst hq
  rw [Query.compiled_params, Query.values, List.flatMap_cons, List.flatMap_append,
    values_schoolJoins, values_schoolConditions, List.append_assoc, List.append_assoc]
  rfl

/-- States that differ in names only, wherever their data source looks at names, have
    statements of one text: their maps if both show a county or neither does, and their
    rosters if both open a town or neither does. The names are parameters, each as it is. -/
theorem compiled_sameShape (h : s.SameShape t) :
    (s.county.isSome = t.county.isSome → ∀ statistic,
      (Query.regions (s.regionQuery statistic)).compiled.sql
        = (Query.regions (t.regionQuery statistic)).compiled.sql) ∧
    (s.openTown?.isSome = t.openTown?.isSome →
      s.rosterQuery?.map (fun q => (Query.roster q).compiled.sql)
        = t.rosterQuery?.map (fun q => (Query.roster q).compiled.sql)) ∧
    (∀ (s : State) (statistic : Statistic),
      (Query.regions (s.regionQuery statistic)).compiled.params
        = if statistic.overStudents then s.picks ++ s.county.toList
          else s.schoolNames ++ s.county.toList ++ s.strictNames) ∧
    ∀ (s : State) (code name : String) (q : RosterQuery), s.openTown? = some (code, name) →
      s.rosterQuery? = some q →
      (Query.roster q).compiled.params = s.schoolNames ++ [code, name] ++ s.strictNames := by
  refine ⟨fun hc statistic => ?_, fun htown => ?_, params_regionQuery,
    fun _ _ _ _ => params_rosterQuery⟩
  · rw [← Query.compiled_blank, h.regionQuery_blank hc, Query.compiled_blank]
  · have hsome : s.rosterQuery?.isSome = t.rosterQuery?.isSome := by
      rw [rosterQuery?, rosterQuery?, Option.isSome_map, Option.isSome_map, htown]
    -- There is a roster for both or for neither.
    rcases Options.none_or_some hsome with ⟨hq, hq'⟩ | ⟨q, q', hq, hq'⟩
    · rw [hq, hq']
    · rw [hq, hq', Option.map_some, Option.map_some, ← Query.compiled_blank,
        h.rosterQuery_blank hq hq', Query.compiled_blank]

/-- A state whose names read like parts of a statement. -/
def spliced : State :=
  { initial with
    county := some "' OR 1=1 --"
    town := some "?"
    levels := .all ["'; DROP TABLE school_info; --", "IN (?)", "Primar"] }

/-- Its statements are those of a state with three ordinary levels and an ordinary town. -/
theorem compiled_sameShape_spliced :
    let s := initial.applyAll [.county (some "CJ"), .town (some "Turda")]
    (∀ statistic, (Query.regions (s.regionQuery statistic)).compiled.sql
        = (Query.regions (spliced.regionQuery statistic)).compiled.sql) ∧
      s.rosterQuery?.map (fun q => (Query.roster q).compiled.sql)
        = spliced.rosterQuery?.map (fun q => (Query.roster q).compiled.sql) ∧
      (Query.regions (spliced.regionQuery .schools)).compiled.params
        = spliced.schoolNames ++ ["' OR 1=1 --"] ∧
      ∃ q, spliced.rosterQuery? = some q ∧
        (Query.roster q).compiled.params = spliced.schoolNames ++ ["' OR 1=1 --", "?"] := by
  intro s
  -- The names that were spliced are other names, but no fewer and no more.
  have hshape : s.SameShape spliced :=
    ⟨rfl, fun _ => by decide, fun _ => rfl, fun _ => rfl, fun _ => rfl, fun _ => rfl⟩
  have hroster : ∃ q, spliced.rosterQuery? = some q := ⟨_, rfl⟩
  rcases hroster with ⟨q, hq⟩
  rcases compiled_sameShape hshape with ⟨hmap, hroster, hparams, hrosterParams⟩
  have hstrict : spliced.strictNames = [] := rfl
  have hq' := hrosterParams spliced _ _ q rfl hq
  have hschools := hparams spliced .schools
  rw [hstrict, List.append_nil] at hq'
  exact ⟨hmap rfl, hroster rfl, hschools.trans (List.append_nil _), q, hq, hq'⟩

end State

end Filter

end SchoolAtlas
