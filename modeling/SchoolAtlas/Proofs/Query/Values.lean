import Mathlib.Data.List.Basic
import SchoolAtlas.Query.Text

/-!
# The Values of a Query

Which values a written query asks the database to fill in.

A statement is built up clause by clause, and its parameters are collected on the
way. Read off the plan, they are simply the values that its conditions compare
with, joins before conditions and each from first to last. That is worth a
definition of its own, because everything that is said about parameters is easier
to say about `Query.values`: how many there are, that they come from nowhere but
the conditions, and that they do not depend on the text.

## Main definitions

* `Condition.values`: The values a condition compares with.
* `Query.values`: The values of a whole query, in the order of their places.

## Theorems

* `Statement.params_fragment`: The parameters of a written statement.
* `Query.compiled_params`: The parameters of a written query are its values.
-/

namespace SchoolAtlas

/-- The values a condition compares with, from first to last. -/
def Condition.values {κ : Type} : Condition κ → List String
  | isNull _ => []
  | equals _ value => [value]
  | oneOf _ values => values
  | either first second => first.values ++ second.values
  | grouped inner => inner.values

/-- The values that rows of a detail table are asked for. -/
def DetailQuery.values (q : DetailQuery) : List String := q.conditions.flatMap Condition.values

/-- The values of a join. -/
def Join.values : Join → List String
  | keys _ query | rows _ _ query => query.values
  | totals => []

/-- The values of a condition on schools. -/
def SchoolCondition.values : SchoolCondition → List String
  | column condition => condition.values
  | hasRow query => query.values

/-- The values of a whole query, in the order of their places. -/
def Query.values : Query → List String
  | regions query =>
    query.joins.flatMap Join.values ++ query.conditions.flatMap SchoolCondition.values
  | roster query =>
    query.joins.flatMap Join.values ++ query.conditions.flatMap SchoolCondition.values

/-- The parameters of a written condition are its values. -/
theorem Condition.fragment_params {κ : Type} (name : κ → String) (c : Condition κ) :
    (c.fragment name).params = c.values := by
  induction c with
  | isNull column => rfl
  | equals column value => rfl
  | oneOf column values =>
      rw [Condition.fragment, Condition.values, Fragment.oneOf?]
      cases values <;> rfl
  | either first second ih₁ ih₂ =>
      rw [Condition.fragment, Condition.values, Fragment.or, ih₁, ih₂]
  | grouped inner ih => rw [Condition.fragment, Condition.values, Fragment.grouped, ih]

namespace Statement

/-- A statement has a condition if it has any conditions. -/
theorem condition?_eq (s : Statement) :
    s.condition?
      = if s.conditions.isEmpty then none else some (.join " AND " s.conditions) := by
  have hpresent : (s.conditions.map some).filterMap id = s.conditions := by
    rw [List.filterMap_map]
    exact List.filterMap_some
  rw [condition?, Fragment.all?, hpresent]

theorem params_fragment (s : Statement) :
    s.fragment.params
      = s.joins.flatMap Fragment.params ++ s.conditions.flatMap Fragment.params := by
  rw [fragment, condition?_eq]
  cases s.conditions <;> rfl

/-- Conditions that are added one after another come after those that were there. -/
theorem foldl_filter {α : Type} (f : α → Fragment) (conditions : List α) (s : Statement) :
    conditions.foldl (fun s c => s.filter (f c)) s
      = { s with conditions := s.conditions ++ conditions.map f } := by
  induction conditions generalizing s with
  | nil => rw [List.foldl_nil, List.map_nil, List.append_nil]
  | cons c rest ih =>
      rw [List.foldl_cons, ih, filter]
      simp only [List.map_cons, List.append_assoc, List.singleton_append]

end Statement

namespace DetailQuery

/-- The statement of the rows of a detail table, clause by clause. -/
theorem statement_eq (q : DetailQuery) :
    q.statement = { Statement.ofTable q.table.table.name with
      conditions := q.conditions.map (Condition.fragment DetailColumn.name) } := by
  rw [statement, Statement.foldl_filter]
  rfl

theorem flatMap_params (q : DetailQuery) :
    (q.conditions.map (Condition.fragment DetailColumn.name)).flatMap Fragment.params
      = q.values := by
  rw [List.flatMap_map, values]
  exact List.flatMap_congr (fun c _ => Condition.fragment_params _ c)

/-- Asking whether a school has such a row takes the values of the rows and no others. -/
theorem existence_params (q : DetailQuery) : q.existence.params = q.values := by
  rw [existence, Fragment.rowExists, Statement.foldl_filter, Statement.params_fragment]
  simp only [Statement.filter, Statement.select, Statement.ofTable, List.flatMap_nil,
    List.nil_append, List.flatMap_append, List.flatMap_singleton, Fragment.raw, flatMap_params]

end DetailQuery

/-- A join adds its values after those of earlier joins, and leaves the conditions
    alone. -/
theorem Join.addTo_params (s : Statement) (j : Join) :
    (j.addTo s).joins.flatMap Fragment.params = s.joins.flatMap Fragment.params ++ j.values ∧
      (j.addTo s).conditions = s.conditions := by
  cases j with
  | keys label query =>
      refine ⟨?_, rfl⟩
      rw [Join.addTo, Statement.join, List.flatMap_append, List.flatMap_singleton,
        Statement.params_fragment, DetailQuery.statement_eq]
      -- The rows are joined as a statement of their own, with its parameters in place.
      exact congrArg _ query.flatMap_params
  | rows label columns query =>
      refine ⟨?_, rfl⟩
      rw [Join.addTo, Statement.join, List.flatMap_append, List.flatMap_singleton,
        Statement.params_fragment, DetailQuery.statement_eq]
      exact congrArg _ query.flatMap_params
  | totals =>
      refine ⟨?_, rfl⟩
      rw [Join.addTo, Statement.join, List.flatMap_append, List.flatMap_singleton,
        Statement.params_fragment]
      rfl

theorem Join.foldl_addTo_params (joins : List Join) (s : Statement) :
    (joins.foldl Join.addTo s).joins.flatMap Fragment.params
        = s.joins.flatMap Fragment.params ++ joins.flatMap Join.values ∧
      (joins.foldl Join.addTo s).conditions = s.conditions := by
  induction joins generalizing s with
  | nil => exact ⟨(List.append_nil _).symm, rfl⟩
  | cons j rest ih =>
      rcases ih (j.addTo s) with ⟨hparams, hconditions⟩
      rcases j.addTo_params s with ⟨hone, hsame⟩
      rw [List.foldl_cons, hparams, hconditions, hone, hsame, List.flatMap_cons,
        List.append_assoc]
      exact ⟨rfl, rfl⟩

/-- The parameters of a written condition on schools are its values. -/
theorem SchoolCondition.fragment_params (c : SchoolCondition) : c.fragment.params = c.values := by
  cases c with
  | column condition => exact Condition.fragment_params _ condition
  | hasRow query => exact query.existence_params

/-- The parameters of the schools with joins and conditions: the values of the joins,
    then those of the conditions. -/
theorem schoolStatement_params (joins : List Join) (conditions : List SchoolCondition) :
    (schoolStatement joins conditions).joins.flatMap Fragment.params
        = joins.flatMap Join.values ∧
      (schoolStatement joins conditions).conditions.flatMap Fragment.params
        = conditions.flatMap SchoolCondition.values := by
  rcases Join.foldl_addTo_params joins (.ofTable (Table.schools.name ++ " si")) with
    ⟨hjoins, hconditions⟩
  rw [schoolStatement, Statement.foldl_filter]
  refine ⟨hjoins, ?_⟩
  rw [hconditions, List.flatMap_append, List.flatMap_map]
  exact List.flatMap_congr (fun c _ => c.fragment_params)

theorem Query.compiled_params (q : Query) : q.compiled.params = q.values := by
  cases q with
  | regions query =>
      rcases schoolStatement_params query.joins query.conditions with ⟨hjoins, hconditions⟩
      rw [compiled, Statement.compiled, Statement.params_fragment, values, ← hjoins,
        ← hconditions]
      -- Grouping adds columns and no values.
      cases hgrouping : query.grouping <;>
        simp only [statement, RegionQuery.statement, hgrouping, RegionQuery.groupColumns,
          List.foldl_cons, List.foldl_nil, Statement.groupBy, Statement.select,
          Statement.selectAll]
  | roster query =>
      rcases schoolStatement_params query.joins query.conditions with ⟨hjoins, hconditions⟩
      rw [compiled, Statement.compiled, Statement.params_fragment, values, ← hjoins,
        ← hconditions]
      rfl

end SchoolAtlas
