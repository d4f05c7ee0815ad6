import SchoolAtlas.Filter.Update
import SchoolAtlas.Proofs.Filter.Admission
import SchoolAtlas.Proofs.Query.Draft
import SchoolAtlas.Query.Text

/-!
# Drafts of Plans

The steps in which a plan is written.

A plan is written as a statement by the same steps that drafts are made of, so it has a
draft, `Query.draft`, and what the draft leads to is the written plan. None of its texts has
a place for a value but the comparisons: tables and columns have names of their own, and
the labels of joins are chosen here and not by a user. What holds of all drafts therefore
holds of every query that a filter state asks.

## Main definitions

* `Query.draft`: The steps in which a plan is written.
* `Join.isPlain`: The texts of a join have no places.
* `Draft.LeadsTo`: What a draft without places of its own leads to.
* `Query.ValuesInPlaces`: The values of a written plan belong to their places.

## Theorems

* `Condition.leadsTo_draft`: The draft of a condition leads to the written condition.
* `Query.leadsTo_draft`: The draft of a plan leads to the written plan.
* `Draft.values_in_places`: Drafts and queries have their values in their places.
-/

namespace SchoolAtlas

/-- Several columns are selected one by one. -/
def Draft.selectAll (d : Draft .statement) (columns : List String) : Draft .statement :=
  columns.foldl (·.list .select ·) d

/-- The steps in which a condition is written. -/
def Condition.draft {κ : Type} (name : κ → String) : Condition κ → Draft .fragment
  | isNull column => .raw (name column ++ " IS NULL")
  | equals column value => .equals (name column) value
  | oneOf column values =>
    if values.isEmpty then .raw (name column ++ " IN ()") else .oneOf (name column) values
  | either first second => .either (first.draft name) (second.draft name)
  | grouped inner => .grouped (inner.draft name)

namespace DetailQuery

/-- The steps in which the rows of a detail table are written. -/
def draft (q : DetailQuery) : Draft .statement :=
  q.conditions.foldl (fun s c => s.filter (c.draft DetailColumn.name))
    (.ofTable q.table.table.name)

/-- The steps in which it is asked whether a school has such a row. -/
def existenceDraft (q : DetailQuery) : Draft .fragment :=
  .rowExists <| .written <| q.conditions.foldl (fun s c => s.filter (c.draft DetailColumn.name))
    (((Draft.ofTable q.table.table.name).list .select "1").filter
      (.raw (q.table.key ++ " = si.id")))

end DetailQuery

/-- The steps in which the summary of enrolments is written. -/
def totalsDraft : Draft .statement :=
  ((Draft.ofTable Table.enrolments.name).selectAll totalsStatement.columns).list .groupBy
    DetailTable.enrolments.key

/-- A draft with one more join. -/
def Join.addToDraft (s : Draft .statement) : Join → Draft .statement
  | keys label query =>
    let key := query.table.key
    s.join .inner (.written (query.draft.distinct.list .select key)) label
      (label ++ "." ++ key ++ " = si.id")
  | rows label columns query =>
    s.join .inner (.written (query.draft.selectAll columns)) label
      (label ++ "." ++ query.table.key ++ " = si.id")
  | totals =>
    s.join .left (.written totalsDraft) "stats"
      ("stats." ++ DetailTable.enrolments.key ++ " = si.id")

/-- The steps in which a condition on schools is written. -/
def SchoolCondition.draft : SchoolCondition → Draft .fragment
  | column condition => condition.draft SchoolColumn.name
  | hasRow query => query.existenceDraft

/-- The schools, with joins and conditions. -/
def schoolDraft (joins : List Join) (conditions : List SchoolCondition) : Draft .statement :=
  conditions.foldl (fun s c => s.filter c.draft)
    (joins.foldl Join.addToDraft (.ofTable (Table.schools.name ++ " si")))

/-- The steps in which a plan is written. -/
def Query.draft : Query → Draft .fragment
  | regions query =>
    let rows := (schoolDraft query.joins query.conditions).selectAll
      (RegionQuery.keyColumns query.grouping)
    .written (((RegionQuery.groupColumns query.grouping).foldl (·.list .groupBy ·) rows).list
      .select query.measure.expression)
  | roster query =>
    .written (((schoolDraft query.joins query.conditions).selectAll RosterQuery.columns).list
      .orderBy "si.nume")

/-- The texts of a join that are not names of tables and columns. -/
def Join.isPlain : Join → Bool
  | keys label _ => Text.isPlain label
  | rows label columns _ => Text.isPlain label && columns.all Text.isPlain
  | totals => true

/-- A plan in writing, without its shape. -/
def Query.fragment (q : Query) : Fragment := ⟨q.compiled.sql, q.compiled.params⟩

theorem Statement.selectAll_eq_foldl (s : Statement) (columns : List String) :
    s.selectAll columns = columns.foldl (·.list .select ·) s := by
  induction columns generalizing s with
  | nil =>
      rw [selectAll, List.append_nil]
      rfl
  | cons c rest ih =>
      rw [List.foldl_cons, ← ih, selectAll, selectAll, list, select, List.append_assoc]
      rfl

namespace Draft

/-- A draft without places of its own leads to something. -/
structure LeadsTo (d : Draft k) (v : k.Value) : Prop where
  plain : d.isPlain = true
  value : d.value = v

namespace LeadsTo

variable {d rows : Draft .statement} {s : Statement} {c : Draft .fragment} {f : Fragment}

theorem written (h : d.LeadsTo (some s)) : (Draft.written d).LeadsTo (some s.fragment) :=
  ⟨h.plain, by rw [Draft.value, h.value]; rfl⟩

theorem rowExists (h : c.LeadsTo (some f)) : (Draft.rowExists c).LeadsTo (some f.rowExists) :=
  ⟨h.plain, by rw [Draft.value, h.value]; rfl⟩

theorem distinct (h : d.LeadsTo (some s)) : d.distinct.LeadsTo (some s.asDistinct) :=
  ⟨h.plain, by rw [Draft.value, h.value]; rfl⟩

theorem list (h : d.LeadsTo (some s)) (clause : Clause) {column : String}
    (hc : Text.isPlain column = true) :
    (d.list clause column).LeadsTo (some (s.list clause column)) :=
  ⟨by rw [isPlain, h.plain, hc]; rfl, by rw [Draft.value, h.value]; rfl⟩

theorem filter (h : d.LeadsTo (some s)) (hc : c.LeadsTo (some f)) :
    (d.filter c).LeadsTo (some (s.filter f)) :=
  ⟨by rw [isPlain, h.plain, hc.plain]; rfl, by rw [Draft.value, h.value, hc.value]; rfl⟩

theorem join (h : d.LeadsTo (some s)) (kind : JoinKind) (hc : c.LeadsTo (some f))
    {label on : String} (hlabel : Text.isPlain label = true) (hon : Text.isPlain on = true) :
    (d.join kind c label on).LeadsTo (some (s.join kind f label on)) :=
  ⟨by rw [isPlain, h.plain, hc.plain, hlabel, hon]; rfl,
    by rw [Draft.value, h.value, hc.value]; rfl⟩

/-- Steps that are taken one after another lead on together. -/
theorem foldl {α : Type} {step : Draft .statement → α → Draft .statement}
    {take : Statement → α → Statement} {l : List α} (h : d.LeadsTo (some s))
    (hstep : ∀ a ∈ l, ∀ {d : Draft .statement} {s : Statement}, d.LeadsTo (some s) →
      (step d a).LeadsTo (some (take s a))) :
    (l.foldl step d).LeadsTo (some (l.foldl take s)) := by
  induction l generalizing d s with
  | nil => exact h
  | cons a rest ih =>
      rcases List.forall_mem_cons.mp hstep with ⟨ha, hrest⟩
      exact ih (ha h) hrest

theorem selectAll (h : d.LeadsTo (some s)) {columns : List String}
    (hc : columns.all Text.isPlain = true) :
    (d.selectAll columns).LeadsTo (some (s.selectAll columns)) := by
  rw [Statement.selectAll_eq_foldl]
  exact h.foldl (fun c hin _ _ hd => hd.list .select (List.all_eq_true.mp hc c hin))

end LeadsTo

end Draft

theorem DetailColumn.isPlain_name (column : DetailColumn) : Text.isPlain column.name = true := by
  cases column <;> rfl

theorem SchoolColumn.isPlain_name (column : SchoolColumn) : Text.isPlain column.name = true := by
  cases column <;> rfl

theorem Condition.leadsTo_draft {κ : Type} {name : κ → String}
    (hname : ∀ column, Text.isPlain (name column) = true) (c : Condition κ) :
    (c.draft name).LeadsTo (some (c.fragment name)) := by
  induction c with
  | isNull column =>
      refine ⟨?_, rfl⟩
      rw [draft, Draft.isPlain, Text.isPlain_append, hname]
      rfl
  | equals column value => exact ⟨hname column, rfl⟩
  | oneOf column values =>
      rw [draft, Condition.fragment, Fragment.oneOf?]
      -- No filter state asks for one of no values, but a plan could.
      split
      · refine ⟨?_, rfl⟩
        rw [Draft.isPlain, Text.isPlain_append, hname]
        rfl
      · next hne =>
        refine ⟨hname column, ?_⟩
        rw [Draft.value, Fragment.oneOf?, if_neg hne]
        rfl
  | either first second ih₁ ih₂ =>
      constructor
      · rw [draft, Draft.isPlain, ih₁.plain, ih₂.plain]
        rfl
      · rw [draft, Draft.value, ih₁.value, ih₂.value]
        rfl
  | grouped inner ih =>
      refine ⟨ih.plain, ?_⟩
      rw [draft, Draft.value, ih.value]
      rfl

namespace DetailQuery

theorem isPlain_table (t : DetailTable) :
    Text.isPlain t.table.name = true ∧ Text.isPlain t.key = true := by
  cases t <;> exact ⟨rfl, rfl⟩

theorem leadsTo_draft (q : DetailQuery) : q.draft.LeadsTo (some q.statement) := by
  have hstart : (Draft.ofTable q.table.table.name).LeadsTo
      (some (.ofTable q.table.table.name)) := ⟨(isPlain_table q.table).1, rfl⟩
  exact hstart.foldl (fun c _ _ _ hd => hd.filter (c.leadsTo_draft DetailColumn.isPlain_name))

theorem leadsTo_existenceDraft (q : DetailQuery) :
    q.existenceDraft.LeadsTo (some q.existence) := by
  have hstart : (Draft.ofTable q.table.table.name).LeadsTo
      (some (.ofTable q.table.table.name)) := ⟨(isPlain_table q.table).1, rfl⟩
  have hkey : (Draft.raw (q.table.key ++ " = si.id")).LeadsTo
      (some (.raw (q.table.key ++ " = si.id"))) := by
    refine ⟨?_, rfl⟩
    rw [Draft.isPlain, Text.isPlain_append, (isPlain_table q.table).2]
    rfl
  -- The steps for the conditions follow the condition on the key.
  have hsteps := ((hstart.list .select (rfl : Text.isPlain "1" = true)).filter hkey).foldl
    (fun (c : Condition DetailColumn) (_ : c ∈ q.conditions) _ _ hd =>
      hd.filter (c.leadsTo_draft DetailColumn.isPlain_name))
  exact hsteps.written.rowExists

end DetailQuery

theorem leadsTo_totalsDraft : totalsDraft.LeadsTo (some totalsStatement) := by
  have hstart : (Draft.ofTable Table.enrolments.name).LeadsTo
      (some (.ofTable Table.enrolments.name)) := ⟨rfl, rfl⟩
  have hcolumns : totalsStatement.columns.all Text.isPlain = true := rfl
  exact (hstart.selectAll hcolumns).list .groupBy rfl

theorem Join.isPlain_on {label : String} (h : Text.isPlain label = true) (t : DetailTable) :
    Text.isPlain (label ++ "." ++ t.key ++ " = si.id") = true := by
  rw [Text.isPlain_append, Text.isPlain_append, Text.isPlain_append, h,
    (DetailQuery.isPlain_table t).2]
  rfl

theorem Join.leadsTo_addToDraft {j : Join} (hj : j.isPlain = true) {d : Draft .statement}
    {s : Statement} (h : d.LeadsTo (some s)) :
    (j.addToDraft d).LeadsTo (some (j.addTo s)) := by
  -- The rows are drafted on their own and written into the join.
  cases j with
  | keys label query =>
      have hkey := (DetailQuery.isPlain_table query.table).2
      exact h.join .inner ((query.leadsTo_draft.distinct.list .select hkey).written) hj
        (isPlain_on hj query.table)
  | rows label columns query =>
      rw [isPlain, Bool.and_eq_true] at hj
      exact h.join .inner ((query.leadsTo_draft.selectAll hj.2).written) hj.1
        (isPlain_on hj.1 query.table)
  | totals => exact h.join .left leadsTo_totalsDraft.written rfl rfl

theorem SchoolCondition.leadsTo_draft (c : SchoolCondition) :
    c.draft.LeadsTo (some c.fragment) := by
  cases c with
  | column condition => exact condition.leadsTo_draft SchoolColumn.isPlain_name
  | hasRow query => exact query.leadsTo_existenceDraft

theorem leadsTo_schoolDraft {joins : List Join} (hjoins : ∀ j ∈ joins, j.isPlain = true)
    (conditions : List SchoolCondition) :
    (schoolDraft joins conditions).LeadsTo (some (schoolStatement joins conditions)) := by
  have hstart : (Draft.ofTable (Table.schools.name ++ " si")).LeadsTo
      (some (.ofTable (Table.schools.name ++ " si"))) := ⟨rfl, rfl⟩
  -- Joins first and then conditions, as the statement is built.
  have hjoined := hstart.foldl (fun j hj _ _ hd => Join.leadsTo_addToDraft (hjoins j hj) hd)
  exact hjoined.foldl (fun (c : SchoolCondition) (_ : c ∈ conditions) _ _ hd =>
    hd.filter c.leadsTo_draft)

namespace Query

/-- The joins of a plan. -/
def joins : Query → List Join
  | regions query => query.joins
  | roster query => query.joins

/-- The draft of a plan leads to the written plan, whatever its values are. -/
theorem leadsTo_draft {q : Query} (hjoins : ∀ j ∈ q.joins, j.isPlain = true) :
    q.draft.LeadsTo (some q.fragment) := by
  cases q with
  | regions query =>
      have hkeys : (RegionQuery.keyColumns query.grouping).all Text.isPlain = true := by
        cases query.grouping <;> rfl
      have hgroups : (RegionQuery.groupColumns query.grouping).all Text.isPlain = true := by
        cases query.grouping <;> rfl
      have hvalue : Text.isPlain query.measure.expression = true := by
        cases query.measure <;> rfl
      -- Keys are selected before the value, as they are in the statement.
      have hrows := (leadsTo_schoolDraft hjoins query.conditions).selectAll hkeys
      refine ((hrows.foldl (fun c hc _ _ hd => ?_)).list .select hvalue).written
      exact hd.list .groupBy (List.all_eq_true.mp hgroups c hc)
  | roster query =>
      have hcolumns : RosterQuery.columns.all Text.isPlain = true := rfl
      exact (((leadsTo_schoolDraft hjoins query.conditions).selectAll hcolumns).list
        .orderBy (rfl : Text.isPlain "si.nume" = true)).written

/-- The values of a written plan belong to their places: there are as many places as values,
    and filling them in gives the plan with its values inlined. -/
structure ValuesInPlaces (write : String → String) (q : Query) : Prop where
  draft : q.draft.value = some q.fragment
  places : q.fragment.places = q.fragment.params.length
  inlined : (q.draft.inlined write).value = some (.raw (q.fragment.filled write))

theorem valuesInPlaces (write : String → String) {q : Query}
    (hjoins : ∀ j ∈ q.joins, j.isPlain = true) : q.ValuesInPlaces write := by
  have hdraft := leadsTo_draft hjoins
  rcases Draft.value_inlined write hdraft.plain with ⟨hplaces, hinlined⟩
  refine ⟨hdraft.value, hplaces _ hdraft.value, ?_⟩
  rw [hinlined, hdraft.value, Option.map_some]

end Query

namespace Filter.State

theorem isPlain_schoolJoins {s : State} {j : Join} (hj : j ∈ s.schoolJoins) :
    j.isPlain = true := by
  have hlabels : ["lvl", "lng", "bac", "en"].all Text.isPlain = true := rfl
  rcases eq_keys_of_mem_schoolJoins hj with ⟨label, hlabel, _, rfl⟩
  exact List.all_eq_true.mp hlabels label hlabel

theorem isPlain_studentJoins {s : State} {j : Join} (hj : j ∈ s.studentJoins) :
    j.isPlain = true := by
  rw [studentJoins] at hj
  cases hsource : s.source <;> rw [hsource] at hj <;> rw [List.mem_singleton.mp hj] <;> rfl

theorem isPlain_regionQuery (s : State) (statistic : Statistic) :
    ∀ j ∈ (Query.regions (s.regionQuery statistic)).joins, j.isPlain = true := by
  intro j hj
  rw [Query.joins, regionQuery] at hj
  cases hover : statistic.overStudents with
  | true =>
      simp only [hover, if_true] at hj
      exact isPlain_studentJoins hj
  | false =>
      simp only [hover, Bool.false_eq_true, if_false] at hj
      exact isPlain_schoolJoins hj

theorem isPlain_rosterQuery {s : State} {q : RosterQuery} (h : s.rosterQuery? = some q) :
    ∀ j ∈ (Query.roster q).joins, j.isPlain = true := by
  rcases Option.map_eq_some_iff.mp h with ⟨⟨code, name⟩, _, rfl⟩
  exact List.forall_mem_cons.mpr ⟨rfl, fun _ hj => isPlain_schoolJoins hj⟩

end Filter.State

/-- Whatever is assembled from clauses and has no places in its texts has its values in their
    places: as many places as values, and filled in they stand where their comparisons are.
    The queries of filter states are assembled in this way. -/
theorem Draft.values_in_places (write : String → String) :
    (∀ d : Draft .fragment, d.isPlain = true →
      (∀ f, d.value = some f → f.places = f.params.length) ∧
        (d.inlined write).value = d.value.map (fun f => .raw (f.filled write))) ∧
    (∀ (s : Filter.State) (statistic : Statistic),
      (Query.regions (s.regionQuery statistic)).ValuesInPlaces write) ∧
    ∀ (s : Filter.State) (q : RosterQuery), s.rosterQuery? = some q →
      (Query.roster q).ValuesInPlaces write :=
  ⟨fun _ h => value_inlined write h,
    fun s statistic => Query.valuesInPlaces write (s.isPlain_regionQuery statistic),
    fun _ _ h => Query.valuesInPlaces write (Filter.State.isPlain_rosterQuery h)⟩

/-- A draft whose condition comes up before its join, with a value that holds a question
    mark. -/
def Draft.conditionFirst : Draft .fragment :=
  let rows := (Draft.ofTable "student_stats").filter
    (.grouped (.either (.raw "nivel IS NULL") (.oneOf "nivel" ["a", "b"])))
  .written ((((Draft.ofTable "school_info si").filter (.equals "si.judet" "C?J")).join .inner
    (.written rows) "lvl" "lvl.id = si.id").filter (.rowExists (.written rows)))

/-- The values of its joins come first, and so they do in a roster. -/
theorem Draft.values_in_places_conditionFirst :
    (∃ f, conditionFirst.value = some f ∧ f.params = ["a", "b", "C?J", "a", "b"] ∧ f.places = 5 ∧
      (conditionFirst.inlined (fun v => "'" ++ v ++ "'")).value
        = some (.raw (f.filled (fun v => "'" ++ v ++ "'")))) ∧
    ∃ q, (Filter.State.initial.applyAll [.county (some "CJ"), .town (some "Turda")]).rosterQuery?
        = some q ∧ (Query.roster q).ValuesInPlaces (fun v => "'" ++ v ++ "'") := by
  rcases Draft.values_in_places (fun v => "'" ++ v ++ "'") with ⟨hdrafts, _, hrosters⟩
  rcases hdrafts conditionFirst (by decide) with ⟨hplaces, hinlined⟩
  have hvalue : ∃ f, conditionFirst.value = some f ∧ f.params = ["a", "b", "C?J", "a", "b"] :=
    ⟨_, rfl, rfl⟩
  have hroster : ∃ q, (Filter.State.initial.applyAll
      [.county (some "CJ"), .town (some "Turda")]).rosterQuery? = some q := ⟨_, rfl⟩
  rcases hvalue with ⟨f, hf, hparams⟩
  rcases hroster with ⟨q, hq⟩
  refine ⟨⟨f, hf, hparams, ?_, ?_⟩, q, hq, hrosters _ q hq⟩
  -- A value with a question mark in it is still one value.
  · rw [hplaces f hf, hparams]
    rfl
  · rw [hinlined, hf, Option.map_some]

end SchoolAtlas
